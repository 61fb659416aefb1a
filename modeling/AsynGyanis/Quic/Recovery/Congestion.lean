import AsynGyanis.Quic.Recovery.Recovery

/-!
# Congestion control (RFC 9002 §7, RFC 9438)

The window and what of it is in flight, for the whole connection. The base
class does the accounting, the recovery period and slow start; NewReno and
CUBIC fill in how far the window falls and how it grows past slow start.
CUBIC computes in binary64, so its growth is written with `Float`: the
proofs never look inside, they only use that growth adds to the window or
takes a maximum with it.

Bytes in flight are a second copy of what loss recovery counts, kept by
subtraction that stops at zero. That the stop is never reached is a theorem
about the two together and not something either file can see.
-/

namespace AsynGyanis.Quic

/-- Subtraction that stops at zero. -/
def saturatingSubtract (total part : Nat) : Nat :=
  if part > total then 0 else total - part

@[simp] theorem saturatingSubtract_eq (total part : Nat) :
    saturatingSubtract total part = total - part := by
  unfold saturatingSubtract
  split <;> omega

inductive QuicCongestionAlgorithmKind
  | newReno
  | cubic
  deriving DecidableEq, Repr

def kInitialWindowFloorByteLength : Nat := 14720

def kInitialWindowDatagramMultiple : Nat := 10

def kMinimumWindowDatagramMultiple : Nat := 2

def kLossReductionDivisor : Nat := 2

def kDecreaseNumerator : Nat := 7

def kDecreaseDenominator : Nat := 10

def kFastConvergenceNumerator : Nat := 17

def kFastConvergenceDenominator : Nat := 20

def kCubicScalingC : Float := 0.4

def kRenoFriendlyAlpha : Float := 3.0 * 0.3 / 1.7

def kMaximumTargetWindowFactor : Float := 1.5

def kMicrosecondsPerSecond : Float := 1000000.0

/-- The largest `size_t`: a slow start threshold nobody has set yet. -/
def kMaximumSizeValue : Nat := 2 ^ 64 - 1

structure CongestionAvoidanceEpoch where
  startTime : QuicTime
  kSeconds : Float
  wMaxSegments : Float

/-- The private members of CUBIC. -/
structure QuicCubicState where
  maximumWindowBeforeDecrease : Option Nat := none
  windowAtDecrease : Option Nat := none
  epoch : Option CongestionAvoidanceEpoch := none
  renoFriendlyWindow : Option Float := none

structure QuicCongestionAlgorithm where
  kind : QuicCongestionAlgorithmKind
  maximumDatagramByteLength : Nat
  congestionWindowByteLength : Nat
  slowStartThresholdByteLength : Nat := kMaximumSizeValue
  bytesInFlight : Nat := 0
  recoveryStartTime : Option QuicTime := none
  smoothedRoundTripTime : QuicTime := 0
  cubic : QuicCubicState := {}

namespace QuicCongestionAlgorithm

def initialWindowFor (maximumDatagramByteLength : Nat) : Nat :=
  min (kInitialWindowDatagramMultiple * maximumDatagramByteLength)
    (max (kMinimumWindowDatagramMultiple * maximumDatagramByteLength) kInitialWindowFloorByteLength)

/-- `makeQuicCongestionAlgorithm`. -/
def make (kind : QuicCongestionAlgorithmKind)
    (maximumDatagramByteLength : Nat) : QuicCongestionAlgorithm where
  kind := kind
  maximumDatagramByteLength := maximumDatagramByteLength
  congestionWindowByteLength := initialWindowFor maximumDatagramByteLength

variable (congestion : QuicCongestionAlgorithm) (eventTime : QuicTime)

def initialWindowByteLength : Nat := initialWindowFor congestion.maximumDatagramByteLength

def minimumWindowByteLength : Nat :=
  kMinimumWindowDatagramMultiple * congestion.maximumDatagramByteLength

def isInRecovery : Bool := congestion.recoveryStartTime.isSome

def remainingByteBudget : Nat := saturatingSubtract congestion.congestionWindowByteLength
    congestion.bytesInFlight

def maySend (byteCount : Nat) : Bool := byteCount ≤ congestion.remainingByteBudget

def setMaximumDatagramByteLength (maximumDatagramByteLength : Nat) : QuicCongestionAlgorithm :=
  if maximumDatagramByteLength = 0 then congestion
  else
    { congestion with maximumDatagramByteLength := maximumDatagramByteLength }

def setSmoothedRoundTripTime (smoothed : QuicTime) : QuicCongestionAlgorithm :=
  { congestion with smoothedRoundTripTime := smoothed }

/-! ## Bytes in flight -/

def onPacketSent (packet : QuicSentPacketInfo) : QuicCongestionAlgorithm :=
  if packet.isAckEliciting then
    { congestion with
      bytesInFlight := congestion.bytesInFlight + packet.byteCount }
  else congestion

/-- One packet written off, if it was counted at all. -/
def writeOff (packet : QuicSentPacketInfo) : QuicCongestionAlgorithm :=
  if packet.isAckEliciting then
    { congestion with
      bytesInFlight := saturatingSubtract congestion.bytesInFlight packet.byteCount }
  else congestion

def onPacketsDiscarded (discardedPackets : List QuicSentPacketInfo) : QuicCongestionAlgorithm :=
  discardedPackets.foldl writeOff congestion

/-! ## Falling -/

/-- CUBIC's record of the window it fell from, with fast convergence. -/
def maximumWindowAfterDecrease : Nat :=
  let window := congestion.congestionWindowByteLength
  match congestion.cubic.maximumWindowBeforeDecrease with
  | some maximum =>
    if window < maximum then
      window * kFastConvergenceNumerator / kFastConvergenceDenominator
    else window
  | none => window

def applyCongestionWindowDecrease :
    QuicCongestionAlgorithm :=
  match congestion.kind with
  | .newReno =>
    let threshold := max (congestion.congestionWindowByteLength / kLossReductionDivisor)
        congestion.minimumWindowByteLength
    { congestion with
      slowStartThresholdByteLength := threshold
      congestionWindowByteLength := threshold }
  | .cubic =>
    let window := congestion.congestionWindowByteLength
    let threshold := max (window * kDecreaseNumerator / kDecreaseDenominator)
        congestion.minimumWindowByteLength
    { congestion with
      slowStartThresholdByteLength := threshold
      congestionWindowByteLength := threshold
      cubic :=
        { maximumWindowBeforeDecrease := some congestion.maximumWindowAfterDecrease
          windowAtDecrease := some window } }

/-- One reduction for each recovery period. -/
def startCongestionEvent : QuicCongestionAlgorithm :=
  if congestion.isInRecovery then congestion
  else
    { congestion.applyCongestionWindowDecrease with
      recoveryStartTime := some eventTime }

def noteEcnCongestionEvent : QuicCongestionAlgorithm := congestion.startCongestionEvent eventTime

/-- What both resets do to the algorithm's own state. -/
def onWindowReset :
    QuicCongestionAlgorithm :=
  match congestion.kind with
  | .newReno => congestion
  | .cubic => { congestion with cubic := {} }

def restartAfterPersistentCongestion :
    QuicCongestionAlgorithm :=
  let floorByteLength := congestion.minimumWindowByteLength
  onWindowReset { congestion with
    congestionWindowByteLength := floorByteLength
    slowStartThresholdByteLength := floorByteLength
    recoveryStartTime := none }

def resetToInitialState :
    QuicCongestionAlgorithm :=
  onWindowReset { congestion with
    congestionWindowByteLength := congestion.initialWindowByteLength
    slowStartThresholdByteLength := kMaximumSizeValue
    recoveryStartTime := none }

/-! ## Growing -/

def cubicWindowSegments (secondsSinceEpoch kSeconds wMaxSegments : Float) :
    Float :=
  let offset := secondsSinceEpoch - kSeconds
  kCubicScalingC * offset * offset * offset + wMaxSegments

/-- A byte or segment count as a double. -/
def asDouble (count : Nat) : Float := Float.ofNat count

def beginCongestionAvoidanceEpoch : QuicCongestionAlgorithm :=
  let datagramSize := asDouble congestion.maximumDatagramByteLength
  let windowEpochSegments := asDouble congestion.congestionWindowByteLength / datagramSize
  let wMaxSegments :=
    asDouble (congestion.cubic.maximumWindowBeforeDecrease.getD
      congestion.congestionWindowByteLength) / datagramSize
  { congestion with
    cubic := { congestion.cubic with
      epoch := some
        { startTime := eventTime
          wMaxSegments := wMaxSegments
          kSeconds :=
            if wMaxSegments > windowEpochSegments then
              Float.cbrt ((wMaxSegments - windowEpochSegments) / kCubicScalingC)
            else 0.0 }
      renoFriendlyWindow := some windowEpochSegments } }

/-- A double cut off to a `size_t`. -/
def asSize (value : Float) : Nat := value.toUInt64.toNat

def clampDouble (value low high : Float) : Float :=
  if value < low then low else if high < value then high else value

/-- CUBIC's growth with the clock of the phase running. -/
def growAlongCubic (epoch : CongestionAvoidanceEpoch) (acknowledgedByteCount : Nat)
    (eventTime : QuicTime) : QuicCongestionAlgorithm :=
  let window := congestion.congestionWindowByteLength
  let datagramSize := asDouble congestion.maximumDatagramByteLength
  let windowSegments := asDouble window / datagramSize
  let elapsedSeconds := max 0.0 (Float.ofInt (eventTime - epoch.startTime) / kMicrosecondsPerSecond)
  let smoothedRttSeconds := Float.ofInt (max congestion.smoothedRoundTripTime 1) /
      kMicrosecondsPerSecond
  let targetSegments :=
    clampDouble (cubicWindowSegments (elapsedSeconds + smoothedRttSeconds)
      epoch.kSeconds epoch.wMaxSegments) windowSegments
      (windowSegments * kMaximumTargetWindowFactor)
  let cwndPriorSegments := asDouble (congestion.cubic.windowAtDecrease.getD window) / datagramSize
  let friendlyBefore := congestion.cubic.renoFriendlyWindow.getD windowSegments
  let alpha :=
    if friendlyBefore ≥ cwndPriorSegments then 1.0 else kRenoFriendlyAlpha
  let friendlySegments := friendlyBefore +
    alpha * (asDouble acknowledgedByteCount / datagramSize) / windowSegments
  let congestion := { congestion with
    cubic := { congestion.cubic with
      renoFriendlyWindow := some friendlySegments } }
  if cubicWindowSegments elapsedSeconds epoch.kSeconds epoch.wMaxSegments < friendlySegments then
    { congestion with
      congestionWindowByteLength := max window (asSize (friendlySegments * datagramSize)) }
  else
    let increment := (targetSegments * datagramSize - asDouble window) *
      asDouble acknowledgedByteCount / asDouble window
    if increment > 0.0 then
      { congestion with
        congestionWindowByteLength := window + asSize increment }
    else congestion

def growCubic (acknowledgedByteCount : Nat) (eventTime : QuicTime) :
    QuicCongestionAlgorithm :=
  let isApplicationLimited := congestion.bytesInFlight < congestion.congestionWindowByteLength / 2
  let clocked :=
    if isApplicationLimited ∨ congestion.cubic.epoch.isNone then
      congestion.beginCongestionAvoidanceEpoch eventTime
    else congestion
  match clocked.cubic.epoch with
  | some epoch => clocked.growAlongCubic epoch acknowledgedByteCount eventTime
  | none => clocked

def applyCongestionAvoidanceGrowth (acknowledgedByteCount : Nat) (eventTime : QuicTime) :
    QuicCongestionAlgorithm :=
  match congestion.kind with
  | .newReno =>
    { congestion with
      congestionWindowByteLength := congestion.congestionWindowByteLength +
        max 1 (congestion.maximumDatagramByteLength * acknowledgedByteCount /
          congestion.congestionWindowByteLength) }
  | .cubic => congestion.growCubic acknowledgedByteCount eventTime

/-! ## One update -/

/-- Whether an acknowledged packet may grow the window: it was sent after
the recovery period began, or there is none. -/
def endsRecovery (packet : QuicSentPacketInfo) : Bool := packet.isAckEliciting &&
    match congestion.recoveryStartTime with
    | none => true
    | some start => !(packet.timeSent ≤ start)

/-- The write-offs of one update, both lists. -/
def writeOffAll (acknowledged lost : List QuicSentPacketInfo) : QuicCongestionAlgorithm :=
  lost.foldl writeOff (acknowledged.foldl writeOff congestion)

def growWindow (growthByteCount : Nat) (eventTime : QuicTime) :
    QuicCongestionAlgorithm :=
  if congestion.isInRecovery ∨ growthByteCount = 0 then congestion
  else if congestion.congestionWindowByteLength < congestion.slowStartThresholdByteLength then
    { congestion with
      congestionWindowByteLength := congestion.congestionWindowByteLength + growthByteCount }
  else congestion.applyCongestionAvoidanceGrowth growthByteCount eventTime

def onCongestionUpdate (acknowledged lost : List QuicSentPacketInfo) (eventTime : QuicTime) :
    QuicCongestionAlgorithm :=
  let growing := acknowledged.filter congestion.endsRecovery
  let growthByteCount := (growing.map (·.byteCount)).sum
  let settled := congestion.writeOffAll acknowledged lost
  let closed :=
    if growing.isEmpty then settled
    else { settled with recoveryStartTime := none }
  if lost.any fun packet => !packet.isPathMtuProbe then
    closed.startCongestionEvent eventTime
  else closed.growWindow growthByteCount eventTime

/-! ## What an update does to the bytes in flight -/

/-- The bytes in flight after packets were written off, ack-eliciting ones
only and never below zero. -/
def writeOffBytes (packets : List QuicSentPacketInfo) (bytesInFlight : Nat) :
    Nat :=
  packets.foldl (fun inFlight packet =>
    if packet.isAckEliciting then
      saturatingSubtract inFlight packet.byteCount
    else inFlight) bytesInFlight

variable (congestion : QuicCongestionAlgorithm)

theorem writeOff_bytesInFlight (packets : List QuicSentPacketInfo) :
    (packets.foldl writeOff congestion).bytesInFlight =
      writeOffBytes packets congestion.bytesInFlight := by
  induction packets generalizing congestion with
  | nil => rfl
  | cons packet rest ih =>
    rw [List.foldl_cons, ih]
    unfold writeOff writeOffBytes
    rw [List.foldl_cons]
    split <;> rfl

theorem applyCongestionWindowDecrease_bytesInFlight :
    congestion.applyCongestionWindowDecrease.bytesInFlight =
      congestion.bytesInFlight := by
  unfold applyCongestionWindowDecrease
  split <;> rfl

theorem startCongestionEvent_bytesInFlight :
    (congestion.startCongestionEvent eventTime).bytesInFlight =
      congestion.bytesInFlight := by
  unfold startCongestionEvent
  split
  · rfl
  · exact applyCongestionWindowDecrease_bytesInFlight congestion

theorem onWindowReset_bytesInFlight :
    congestion.onWindowReset.bytesInFlight = congestion.bytesInFlight := by
  unfold onWindowReset
  split <;> rfl

theorem growAlongCubic_bytesInFlight (epoch : CongestionAvoidanceEpoch)
    (acknowledgedByteCount : Nat) (eventTime : QuicTime) :
    (congestion.growAlongCubic epoch acknowledgedByteCount
      eventTime).bytesInFlight = congestion.bytesInFlight := by
  unfold growAlongCubic
  simp only
  repeat' split
  all_goals rfl

theorem growCubic_bytesInFlight (acknowledgedByteCount : Nat) (eventTime : QuicTime) :
    (congestion.growCubic acknowledgedByteCount eventTime).bytesInFlight =
      congestion.bytesInFlight := by
  have hclocked : ∀ clocked : QuicCongestionAlgorithm,
      clocked.bytesInFlight = congestion.bytesInFlight →
      (match clocked.cubic.epoch with
        | some epoch =>
          clocked.growAlongCubic epoch acknowledgedByteCount eventTime
        | none => clocked).bytesInFlight = congestion.bytesInFlight := by
    intro clocked h
    split
    · exact (growAlongCubic_bytesInFlight clocked _ _ _).trans h
    · exact h
  unfold growCubic
  refine hclocked _ ?_
  split <;> rfl

theorem growWindow_bytesInFlight (growthByteCount : Nat) (eventTime : QuicTime) :
    (congestion.growWindow growthByteCount eventTime).bytesInFlight =
      congestion.bytesInFlight := by
  unfold growWindow applyCongestionAvoidanceGrowth
  split
  · rfl
  split
  · rfl
  split
  · rfl
  · exact growCubic_bytesInFlight congestion _ _

theorem onCongestionUpdate_bytesInFlight
    (acknowledged lost : List QuicSentPacketInfo) (eventTime : QuicTime) :
    (congestion.onCongestionUpdate acknowledged lost eventTime).bytesInFlight =
      writeOffBytes (acknowledged ++ lost) congestion.bytesInFlight := by
  have hsettled : (congestion.writeOffAll acknowledged lost).bytesInFlight =
      writeOffBytes (acknowledged ++ lost) congestion.bytesInFlight := by
    unfold writeOffAll
    rw [writeOff_bytesInFlight, writeOff_bytesInFlight]
    exact (List.foldl_append ..).symm
  unfold onCongestionUpdate
  split
  · rw [startCongestionEvent_bytesInFlight]
    split <;> exact hsettled
  · rw [growWindow_bytesInFlight]
    split <;> exact hsettled

theorem onPacketsDiscarded_bytesInFlight (discarded : List QuicSentPacketInfo) :
    (congestion.onPacketsDiscarded discarded).bytesInFlight =
      writeOffBytes discarded congestion.bytesInFlight :=
  writeOff_bytesInFlight congestion discarded

theorem restartAfterPersistentCongestion_bytesInFlight :
    congestion.restartAfterPersistentCongestion.bytesInFlight =
      congestion.bytesInFlight := onWindowReset_bytesInFlight _

theorem resetToInitialState_bytesInFlight : congestion.resetToInitialState.bytesInFlight =
      congestion.bytesInFlight := onWindowReset_bytesInFlight _

theorem setMaximumDatagramByteLength_bytesInFlight (byteLength : Nat) :
    (congestion.setMaximumDatagramByteLength byteLength).bytesInFlight =
      congestion.bytesInFlight := by
  unfold setMaximumDatagramByteLength
  split <;> rfl

theorem onPacketSent_bytesInFlight (packet : QuicSentPacketInfo) :
    (congestion.onPacketSent packet).bytesInFlight =
      if packet.isAckEliciting then
        congestion.bytesInFlight + packet.byteCount
      else congestion.bytesInFlight := by
  unfold onPacketSent
  split <;> rfl

end QuicCongestionAlgorithm

end AsynGyanis.Quic
