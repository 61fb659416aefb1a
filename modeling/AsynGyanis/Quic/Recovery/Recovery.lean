import AsynGyanis.Library.SortedMap
import AsynGyanis.Quic.Codec.Frame

/-!
# Loss recovery (RFC 9002 §5 and §6)

What a connection knows about the packets it sent: per packet number space
the map of unresolved packets, and across the spaces the round-trip
estimate, the bytes in flight, the open loss gap of the persistent
congestion test and the state of ECN validation. A packet leaves its map in
exactly one of three ways, acknowledged, declared lost or discarded with
its space, and each way adjusts the byte count and the ECN counters.

Times are microseconds and signed, as the clock's type is. The byte count
is an integer, not a natural number: the source subtracts without a guard,
and a subtraction that went below zero must not look like zero here.
-/

namespace AsynGyanis.Quic

open Library

/-- Microseconds. -/
abbrev QuicTime := Int

/-- The three packet number spaces. The recovery layer declares its own
copy of this enumeration; the two are one here. -/
inductive PacketNumberSpace
  | initial
  | handshake
  | application
  deriving DecidableEq, Repr

/-- One value for each packet number space. -/
structure PerSpace (α : Type) where
  initial : α
  handshake : α
  application : α
  deriving DecidableEq, Repr

namespace PerSpace

variable {α : Type}

def replicate (a : α) : PerSpace α := ⟨a, a, a⟩

def get (p : PerSpace α) : PacketNumberSpace → α
  | .initial => p.initial
  | .handshake => p.handshake
  | .application => p.application

def set (p : PerSpace α) (space : PacketNumberSpace) (a : α) : PerSpace α :=
  match space with
  | .initial => { p with initial := a }
  | .handshake => { p with handshake := a }
  | .application => { p with application := a }

@[simp] theorem get_replicate (a : α) (space : PacketNumberSpace) :
    (replicate a).get space = a := by
  cases space <;> rfl

variable (p : PerSpace α)

@[simp] theorem get_set_self (space : PacketNumberSpace)
    (a : α) : (p.set space a).get space = a := by
  cases space <;> rfl

theorem get_set_of_ne {space space' : PacketNumberSpace}
    (a : α) (h : space' ≠ space) : (p.set space a).get space' = p.get space' := by
  cases space <;> cases space' <;> first | rfl | exact absurd rfl h

theorem get_set (space space' : PacketNumberSpace) (a : α) : (p.set space a).get space' =
      if space' = space then a else p.get space' := by
  by_cases h : space' = space
  · subst h
    simp
  · rw [get_set_of_ne p a h, if_neg h]

@[simp] theorem set_set (space : PacketNumberSpace)
    (a b : α) : (p.set space a).set space b = p.set space b := by
  cases space <;> rfl

end PerSpace

/-! ## Records -/

def kEcnCodepointNotCapable : Nat := 0x00

def kEcnCodepointEctZero : Nat := 0x01

def kEcnCodepointEctOne : Nat := 0x02

def kEcnCodepointCe : Nat := 0x03

inductive QuicEcnState
  | testing
  | capable
  | failed
  deriving DecidableEq, Repr

/-- The handshake bytes one packet carried. -/
structure QuicCryptoRange where
  beginOffset : Nat := 0
  endOffset : Nat := 0
  deriving DecidableEq, Repr

/-- What the sender remembers of one packet until it is resolved. -/
structure QuicSentPacketInfo where
  packetNumber : Nat := 0
  timeSent : QuicTime := 0
  byteCount : Nat := 0
  isAckEliciting : Bool := false
  ecnCodepoint : Nat := 0
  cryptoRange : Option QuicCryptoRange := none
  streamRanges : List QuicStreamRange := []
  streamAnnouncements : List QuicStreamAnnouncement := []
  carriesHandshakeDone : Bool := false
  carriesConnectionIdFrames : Bool := false
  retiredConnectionIdSequences : List Nat := []
  isPathMtuProbe : Bool := false
  deriving DecidableEq, Repr

def QuicSentPacketInfo.isEcnMarked (packet : QuicSentPacketInfo) : Bool :=
  packet.ecnCodepoint == kEcnCodepointEctZero || packet.ecnCodepoint == kEcnCodepointEctOne

structure QuicAcknowledgementUpdate where
  acknowledged : List QuicSentPacketInfo := []
  lost : List QuicSentPacketInfo := []
  isRoundTripSampled : Bool := false
  isPersistentCongestionDetected : Bool := false
  ecnCongestionEventTime : Option QuicTime := none

structure QuicRecoveryTimeoutAction where
  lost : List QuicSentPacketInfo := []
  lostSpace : PacketNumberSpace := .initial
  isProbeTimeout : Bool := false
  probeSpace : PacketNumberSpace := .initial

structure QuicRoundTripTimeEstimate where
  minimum : QuicTime := 0
  smoothed : QuicTime := 0
  variation : QuicTime := 0
  latest : QuicTime := 0
  deriving DecidableEq, Repr

structure RecoverySpaceState where
  unacknowledged : SortedMap Nat QuicSentPacketInfo := .empty
  lossTime : Option QuicTime := none
  largestAcknowledged : Option Nat := none

def kInitialRoundTripTime : QuicTime := 333000

def kTimerGranularity : QuicTime := 1000

def kPacketReorderingThreshold : Nat := 3

def kTimeThresholdNumerator : Int := 9

def kTimeThresholdDenominator : Int := 8

def kPersistentCongestionThresholdMultiplier : Int := 3

def kEcnMinimumMarkedPacketCount : Nat := 10

structure QuicRecovery where
  spaces : PerSpace RecoverySpaceState := .replicate {}
  estimate : QuicRoundTripTimeEstimate :=
    { smoothed := kInitialRoundTripTime
      variation := kInitialRoundTripTime.tdiv 2 }
  hasRoundTripSample : Bool := false
  probeBackoffExponent : Nat := 0
  inFlightByteCount : Int := 0
  isHandshakeConfirmed : Bool := false
  peerMaximumAcknowledgmentDelay : QuicTime := 25000
  lossGapEarliestSentTime : Option QuicTime := none
  lossGapLatestSentTime : Option QuicTime := none
  lossGapAckedAfterStart : Option QuicTime := none
  firstRoundTripSampleTime : Option QuicTime := none
  ecnState : QuicEcnState := .testing
  /-- Of the counts, only ECT(0) and ECT(1) are ever raised. -/
  ecnMarkedSentTotals : PerSpace QuicEcnCounts := .replicate {}
  ecnMarkedResolvedCount : Nat := 0
  ecnMarkedLostCount : Nat := 0
  ecnReportedCounts : PerSpace QuicEcnCounts := .replicate {}
  isAnyMarkedPacketAcknowledged : Bool := false

namespace QuicRecovery

variable (recovery : QuicRecovery) (space : PacketNumberSpace)
variable (packet : QuicSentPacketInfo)

def setSpace (state : RecoverySpaceState) : QuicRecovery :=
  { recovery with spaces := recovery.spaces.set space state }

def unacknowledgedOf : SortedMap Nat QuicSentPacketInfo :=
  (recovery.spaces.get space).unacknowledged

/-- `unacknowledgedPackets`: by packet number. -/
def unacknowledgedPackets : List QuicSentPacketInfo := (recovery.unacknowledgedOf space).values

/-! ## Sending -/

/-- The marked packet counted into its codepoint's total. -/
def noteMarkedSent (totals : QuicEcnCounts) (ecnCodepoint : Nat) :
    QuicEcnCounts :=
  if ecnCodepoint = kEcnCodepointEctZero then
    { totals with ectZero := totals.ectZero + 1 }
  else if ecnCodepoint = kEcnCodepointEctOne then
    { totals with ectOne := totals.ectOne + 1 }
  else totals

def onPacketSent : QuicRecovery :=
  let state := recovery.spaces.get space
  -- a number registered twice replaces its first record, bytes included
  let inFlightByteCount :=
    match state.unacknowledged.find? packet.packetNumber with
    | some existing => recovery.inFlightByteCount - existing.byteCount
    | none => recovery.inFlightByteCount
  { recovery with
    spaces := recovery.spaces.set space
      { state with
        unacknowledged := state.unacknowledged.insert packet.packetNumber packet }
    inFlightByteCount := inFlightByteCount + packet.byteCount
    ecnMarkedSentTotals := recovery.ecnMarkedSentTotals.set space
      (noteMarkedSent (recovery.ecnMarkedSentTotals.get space) packet.ecnCodepoint) }

/-! ## ECN -/

def noteEcnMarkedResolution (isLost : Bool) : QuicRecovery :=
  if !packet.isEcnMarked then recovery
  else
    let resolvedCount := recovery.ecnMarkedResolvedCount + 1
    let lostCount := recovery.ecnMarkedLostCount + if isLost then 1 else 0
    { recovery with
      ecnMarkedResolvedCount := resolvedCount
      ecnMarkedLostCount := lostCount
      ecnState :=
        if recovery.ecnState ≠ .failed ∧ resolvedCount ≥ kEcnMinimumMarkedPacketCount ∧
            lostCount = resolvedCount then .failed
        else recovery.ecnState }

def outgoingEcnCodepoint : Nat :=
  match recovery.ecnState with
  | .testing | .capable => kEcnCodepointEctZero
  | .failed => kEcnCodepointNotCapable

def disableEcn : QuicRecovery := { recovery with ecnState := .failed }

/-- The half of `processEcnFeedback` behind its guards: the counters of a
frame that raises the largest acknowledged number. -/
def validateEcnCounts (reported : QuicEcnCounts) (acknowledgedEctZeroCount
    acknowledgedEctOneCount : Nat) (largestAcknowledgedSentTime :
    Option QuicTime) : QuicRecovery × Option QuicTime :=
  let previous := recovery.ecnReportedCounts.get space
  let sentTotal := recovery.ecnMarkedSentTotals.get space
  if reported.ectZero < previous.ectZero ∨
      reported.ectOne < previous.ectOne ∨ reported.ce < previous.ce then
    ({ recovery with ecnState := .failed }, none)
  else
    let increaseCe := reported.ce - previous.ce
    let coversMarkedPackets := reported.ectZero - previous.ectZero + increaseCe ≥
          acknowledgedEctZeroCount ∧
        reported.ectOne - previous.ectOne + increaseCe ≥ acknowledgedEctOneCount
    let isWithinSentTotals := reported.ectZero ≤ sentTotal.ectZero ∧
        reported.ectOne ≤ sentTotal.ectOne
    if ¬ coversMarkedPackets ∨ ¬ isWithinSentTotals then
      ({ recovery with ecnState := .failed }, none)
    else
      let hasMarked := acknowledgedEctZeroCount + acknowledgedEctOneCount > 0
      let recovery := { recovery with
        ecnReportedCounts := recovery.ecnReportedCounts.set space reported
        isAnyMarkedPacketAcknowledged := recovery.isAnyMarkedPacketAcknowledged || hasMarked
        ecnState :=
          if hasMarked ∧ recovery.ecnState = .testing then .capable
          else recovery.ecnState }
      (recovery,
        if increaseCe > 0 ∧ recovery.isAnyMarkedPacketAcknowledged then
          largestAcknowledgedSentTime
        else none)

/-- The state afterwards, and when a congestion event is due. -/
def processEcnFeedback (acknowledgement : QuicAcknowledgementFrame)
    (acknowledged : List QuicSentPacketInfo)
    (largestAcknowledgedSentTime : Option QuicTime)
    (increasesLargestAcknowledged : Bool) :
    QuicRecovery × Option QuicTime :=
  let acknowledgedEctZeroCount := acknowledged.countP fun packet =>
    packet.ecnCodepoint = kEcnCodepointEctZero
  let acknowledgedEctOneCount := acknowledged.countP fun packet =>
    packet.ecnCodepoint = kEcnCodepointEctOne
  if !acknowledgement.hasEcnCounts then
    if acknowledgedEctZeroCount + acknowledgedEctOneCount > 0 then
      ({ recovery with ecnState := .failed }, none)
    else (recovery, none)
  else if !increasesLargestAcknowledged then (recovery, none)
  else
    recovery.validateEcnCounts space acknowledgement.ecnCounts
      acknowledgedEctZeroCount acknowledgedEctOneCount
      largestAcknowledgedSentTime

/-! ## The round-trip estimate -/

def updateRoundTripTime (latestRoundTripTime acknowledgementDelay : QuicTime) : QuicRecovery :=
  let estimate := { recovery.estimate with latest := latestRoundTripTime }
  if !recovery.hasRoundTripSample then
    { recovery with
      hasRoundTripSample := true
      estimate := { estimate with
        minimum := latestRoundTripTime
        smoothed := latestRoundTripTime
        variation := latestRoundTripTime.tdiv 2 } }
  else
    let minimum := min estimate.minimum latestRoundTripTime
    let clampedDelay :=
      if recovery.isHandshakeConfirmed then
        min acknowledgementDelay recovery.peerMaximumAcknowledgmentDelay
      else acknowledgementDelay
    let adjustedRoundTripTime :=
      if latestRoundTripTime ≥ minimum + clampedDelay then
        latestRoundTripTime - clampedDelay
      else latestRoundTripTime
    let variationSample :=
      if estimate.smoothed > adjustedRoundTripTime then
        estimate.smoothed - adjustedRoundTripTime
      else adjustedRoundTripTime - estimate.smoothed
    { recovery with
      estimate := { estimate with
        minimum := minimum
        variation := (3 * estimate.variation + variationSample).tdiv 4
        smoothed := estimate.smoothed + (adjustedRoundTripTime - estimate.smoothed).tdiv 8 } }

def baseProbeTimeout : QuicTime := recovery.estimate.smoothed +
    max (4 * recovery.estimate.variation) kTimerGranularity

def backoffFactor : Int := 2 ^ min recovery.probeBackoffExponent 16

/-- The `probeTimeout` field of `roundTripTimeEstimate`. -/
def probeTimeout : QuicTime := recovery.baseProbeTimeout * recovery.backoffFactor

def initialProbeTimeout : QuicTime := kInitialRoundTripTime +
    max (4 * kInitialRoundTripTime.tdiv 2) kTimerGranularity +
    recovery.peerMaximumAcknowledgmentDelay

def onHandshakeConfirmed (peerMaximumAcknowledgmentDelay : QuicTime) : QuicRecovery :=
  { recovery with
    isHandshakeConfirmed := true
    peerMaximumAcknowledgmentDelay := peerMaximumAcknowledgmentDelay }

def resetForPathChange : QuicRecovery :=
  { recovery with
    estimate :=
      { smoothed := kInitialRoundTripTime
        variation := kInitialRoundTripTime.tdiv 2 }
    hasRoundTripSample := false
    firstRoundTripSampleTime := none
    probeBackoffExponent := 0 }

/-! ## Losing packets -/

/-- A packet leaves its map: the bytes come off, the ECN verdict is noted. -/
def resolvePacket (isLost : Bool) : QuicRecovery :=
  let state := recovery.spaces.get space
  let resolved := { recovery with
    inFlightByteCount := recovery.inFlightByteCount - packet.byteCount
    spaces := recovery.spaces.set space
      { state with
        unacknowledged := state.unacknowledged.erase packet.packetNumber } }
  resolved.noteEcnMarkedResolution packet isLost

structure LossScan where
  recovery : QuicRecovery
  lost : List QuicSentPacketInfo := []

/-- One packet of the scan: lost, or the candidate for the next timer. -/
def judgePacket (largestAcknowledged : Nat) (lossDelay lostSendTime : QuicTime) (scan : LossScan)
    (packet : QuicSentPacketInfo) : LossScan :=
  if packet.timeSent ≤ lostSendTime ∨ largestAcknowledged ≥
      packet.packetNumber + kPacketReorderingThreshold then
    { recovery := scan.recovery.resolvePacket space packet true
      lost := scan.lost ++ [packet] }
  else
    let candidate := packet.timeSent + lossDelay
    let state := scan.recovery.spaces.get space
    let lossTime :=
      match state.lossTime with
      | some lossTime => min candidate lossTime
      | none => candidate
    { scan with
      recovery := scan.recovery.setSpace space { state with lossTime := some lossTime } }

def lossDelay : QuicTime :=
  let largestObserved := max recovery.estimate.latest recovery.estimate.smoothed
  max ((largestObserved * kTimeThresholdNumerator).tdiv kTimeThresholdDenominator) kTimerGranularity

def detectLostPackets (now : QuicTime) : LossScan :=
  let state := recovery.spaces.get space
  let recovery := recovery.setSpace space { state with lossTime := none }
  match state.largestAcknowledged with
  | none => { recovery := recovery }
  | some largestAcknowledged =>
    (state.unacknowledged.values.takeWhile fun packet =>
        packet.packetNumber ≤ largestAcknowledged).foldl
      (judgePacket space largestAcknowledged recovery.lossDelay
        (now - recovery.lossDelay)) { recovery := recovery }

/-! ## Persistent congestion -/

def persistentCongestionDuration : QuicTime :=
  (recovery.baseProbeTimeout + recovery.peerMaximumAcknowledgmentDelay) *
    kPersistentCongestionThresholdMultiplier

/-- Whether a lost packet counts towards the gap: ack-eliciting, no probe,
and sent when there was a round-trip sample already. -/
def opensLossGap :
    Bool :=
  packet.isAckEliciting && !packet.isPathMtuProbe &&
    match recovery.firstRoundTripSampleTime with
    | none => false
    | some sampleTime => !(packet.timeSent < sampleTime)

def extendLossGapBy :
    QuicRecovery :=
  if !recovery.opensLossGap packet then recovery
  else
    let recovery :=
      match recovery.lossGapEarliestSentTime with
      | none =>
        { recovery with
          lossGapEarliestSentTime := some packet.timeSent
          lossGapAckedAfterStart := none }
      | some earliest =>
        if packet.timeSent < earliest then
          { recovery with lossGapEarliestSentTime := some packet.timeSent }
        else recovery
    match recovery.lossGapLatestSentTime with
    | none => { recovery with lossGapLatestSentTime := some packet.timeSent }
    | some latest =>
      if packet.timeSent > latest then
        { recovery with lossGapLatestSentTime := some packet.timeSent }
      else recovery

def extendLossGap (lost : List QuicSentPacketInfo) : QuicRecovery :=
  lost.foldl extendLossGapBy recovery

/-- One newly acknowledged packet against the mark of the open gap. -/
def noteAcknowledgedInGap (earliest : QuicTime) (mark : Option QuicTime)
    (packet : QuicSentPacketInfo) : Option QuicTime :=
  if packet.timeSent > earliest then
    match mark with
    | none => some packet.timeSent
    | some mark => if packet.timeSent < mark then some packet.timeSent
        else some mark
  else mark

def closeLossGap : QuicRecovery :=
  { recovery with
    lossGapEarliestSentTime := none
    lossGapLatestSentTime := none
    lossGapAckedAfterStart := none }

/-- The verdict on the open gap, once its ends and its mark are settled. -/
def judgeLossGap : QuicRecovery × Bool :=
  match recovery.lossGapEarliestSentTime, recovery.lossGapLatestSentTime with
  | some earliest, some latest =>
    if recovery.lossGapAckedAfterStart.any fun acked => acked ≤ latest then
      (recovery.closeLossGap, false)
    else if latest - earliest ≤ recovery.persistentCongestionDuration then
      (recovery, false)
    else (recovery.closeLossGap, true)
  | _, _ => (recovery, false)

/-- The mark of the open gap with this frame's acknowledgements. -/
def markAcknowledgedInGap (acknowledged : List QuicSentPacketInfo) : QuicRecovery :=
  match recovery.lossGapEarliestSentTime with
  | none => recovery
  | some earliest =>
    { recovery with
      lossGapAckedAfterStart := acknowledged.foldl (noteAcknowledgedInGap earliest)
          recovery.lossGapAckedAfterStart }

def notePersistentCongestionSpan
    (acknowledged lost : List QuicSentPacketInfo) : QuicRecovery × Bool :=
  ((recovery.extendLossGap lost).markAcknowledgedInGap acknowledged).judgeLossGap

/-! ## Acknowledgements -/

structure AcknowledgementScan where
  recovery : QuicRecovery
  acknowledged : List QuicSentPacketInfo := []
  largestAcknowledgedPacket : Option QuicSentPacketInfo := none

def acknowledgePacket (space : PacketNumberSpace) (scan : AcknowledgementScan)
    (packet : QuicSentPacketInfo) : AcknowledgementScan where
  recovery := scan.recovery.resolvePacket space packet false
  acknowledged := scan.acknowledged ++ [packet]
  largestAcknowledgedPacket :=
    match scan.largestAcknowledgedPacket with
    | none => some packet
    | some largest =>
      if packet.packetNumber > largest.packetNumber then some packet
      else some largest

/-- The unresolved packets a range names, by packet number. -/
def packetsInRange (range : QuicAcknowledgementRange) : List QuicSentPacketInfo :=
  ((recovery.unacknowledgedOf space).entries.filter fun entry =>
    range.smallestAcknowledged ≤ entry.1 ∧ entry.1 ≤ range.largestAcknowledged).map (·.2)

def acknowledgeRange (scan : AcknowledgementScan)
    (range : QuicAcknowledgementRange) : AcknowledgementScan :=
  (scan.recovery.packetsInRange space range).foldl (acknowledgePacket space) scan

/-- The first part of `onAcknowledgementReceived`: the largest acknowledged
number rises and the named packets leave the map, lowest range first. -/
def removeAcknowledged (acknowledgement : QuicAcknowledgementFrame) : AcknowledgementScan :=
  let state := recovery.spaces.get space
  let largestAcknowledged := acknowledgement.largestAcknowledgedPacketNumber
  let recovery := recovery.setSpace space
    { state with
      largestAcknowledged := some (max (state.largestAcknowledged.getD largestAcknowledged)
        largestAcknowledged) }
  acknowledgement.ranges.reverse.foldl (acknowledgeRange space) { recovery := recovery }

def increasesLargestAcknowledged (acknowledgement : QuicAcknowledgementFrame) : Bool :=
  match (recovery.spaces.get space).largestAcknowledged with
  | none => true
  | some largest => acknowledgement.largestAcknowledgedPacketNumber > largest

/-- Whether a frame yields a round-trip sample (§5.1). -/
def isRoundTripSample (acknowledgement : QuicAcknowledgementFrame)
    (acknowledged : List QuicSentPacketInfo)
    (largestAcknowledgedPacket : QuicSentPacketInfo) : Bool :=
  largestAcknowledgedPacket.packetNumber == acknowledgement.largestAcknowledgedPacketNumber &&
    acknowledged.any (·.isAckEliciting)

def sampleRoundTripTime (largestAcknowledgedPacket : QuicSentPacketInfo)
    (acknowledgementTime acknowledgementDelay : QuicTime) : QuicRecovery :=
  let recovery :=
    match recovery.firstRoundTripSampleTime with
    | none =>
      { recovery with firstRoundTripSampleTime := some acknowledgementTime }
    | some _ => recovery
  recovery.updateRoundTripTime (acknowledgementTime - largestAcknowledgedPacket.timeSent)
    acknowledgementDelay

/-- The part both exits of `onAcknowledgementReceived` share: losses, then
the verdict on the loss gap. -/
def concludeAcknowledgement (acknowledged : List QuicSentPacketInfo)
    (acknowledgementTime : QuicTime) (isRoundTripSampled : Bool)
    (ecnCongestionEventTime : Option QuicTime) :
    QuicRecovery × QuicAcknowledgementUpdate :=
  let scan := recovery.detectLostPackets space acknowledgementTime
  let judged := scan.recovery.notePersistentCongestionSpan acknowledged scan.lost
  (judged.1,
    { acknowledged := acknowledged
      lost := scan.lost
      isRoundTripSampled := isRoundTripSampled
      isPersistentCongestionDetected := judged.2
      ecnCongestionEventTime := ecnCongestionEventTime })

def onAcknowledgementReceived (acknowledgement : QuicAcknowledgementFrame)
    (acknowledgementTime acknowledgementDelay : QuicTime) :
    QuicRecovery × QuicAcknowledgementUpdate :=
  let increasesLargest := recovery.increasesLargestAcknowledged space acknowledgement
  let scan := recovery.removeAcknowledged space acknowledgement
  match scan.largestAcknowledgedPacket with
  | none =>
    -- nothing new: no sample, no reaction to counters, but losses are judged
    let feedback := scan.recovery.processEcnFeedback space acknowledgement
      scan.acknowledged none false
    feedback.1.concludeAcknowledgement space scan.acknowledged acknowledgementTime false feedback.2
  | some largestPacket =>
    let isSampled := isRoundTripSample acknowledgement scan.acknowledged largestPacket
    let sampled :=
      if isSampled then
        scan.recovery.sampleRoundTripTime largestPacket acknowledgementTime acknowledgementDelay
      else scan.recovery
    let feedback := sampled.processEcnFeedback space acknowledgement
      scan.acknowledged (some largestPacket.timeSent) increasesLargest
    let concluded := feedback.1.concludeAcknowledgement space
      scan.acknowledged acknowledgementTime isSampled feedback.2
    ({ concluded.1 with probeBackoffExponent := 0 }, concluded.2)

/-! ## Timers -/

def earlierOf (candidate : PacketNumberSpace) (deadline : Option QuicTime)
    (earliest : Option QuicTime × PacketNumberSpace) :
    Option QuicTime × PacketNumberSpace :=
  match deadline, earliest.1 with
  | none, _ => earliest
  | some deadline, none => (some deadline, candidate)
  | some deadline, some time =>
    if deadline < time then (some deadline, candidate) else earliest

/-- The first of the earliest deadlines, in the order of the spaces. -/
def earliestOver (deadlineOf : PacketNumberSpace → Option QuicTime) :
    Option QuicTime × PacketNumberSpace :=
  [.initial, .handshake, .application].foldl
    (fun earliest space => earlierOf space (deadlineOf space) earliest)
    (none, .initial)

def earliestLossTime : Option QuicTime × PacketNumberSpace :=
  earliestOver fun space => (recovery.spaces.get space).lossTime

def lastAckElicitingSentTime : Option QuicTime :=
  ((recovery.unacknowledgedPackets space).reverse.find? (·.isAckEliciting)).map (·.timeSent)

def probeTimeoutOf : Option QuicTime :=
  match recovery.lastAckElicitingSentTime space with
  | none => none
  | some lastSent =>
    if space = .application then
      if !recovery.isHandshakeConfirmed then none
      else some (lastSent + (recovery.probeTimeout +
        recovery.peerMaximumAcknowledgmentDelay * recovery.backoffFactor))
    else some (lastSent + recovery.probeTimeout)

def probeTimeoutDeadline : Option QuicTime × PacketNumberSpace :=
  earliestOver recovery.probeTimeoutOf

def nextDeadline : Option QuicTime :=
  match recovery.earliestLossTime.1 with
  | some lossTime => some lossTime
  | none => recovery.probeTimeoutDeadline.1

def onDeadlineReached (now : QuicTime) : QuicRecovery × QuicRecoveryTimeoutAction :=
  match recovery.earliestLossTime with
  | (some lossTime, lossSpace) =>
    if lossTime > now then (recovery, {})
    else
      let scan := recovery.detectLostPackets lossSpace now
      (scan.recovery.extendLossGap scan.lost, { lost := scan.lost, lostSpace := lossSpace })
  | (none, _) =>
    match recovery.probeTimeoutDeadline with
    | (none, _) => (recovery, {})
    | (some probeDeadline, probeSpace) =>
      if probeDeadline > now then (recovery, {})
      else
        ({ recovery with
            probeBackoffExponent := recovery.probeBackoffExponent + 1 },
          { isProbeTimeout := true, probeSpace := probeSpace })

/-! ## Discarding a space -/

def discardPacket :
    QuicRecovery :=
  QuicRecovery.noteEcnMarkedResolution
    { recovery with
      inFlightByteCount := recovery.inFlightByteCount - packet.byteCount }
    packet false

def discardSpace :
    QuicRecovery :=
  let discarded := (recovery.unacknowledgedPackets space).foldl discardPacket recovery
  discarded.setSpace space
    { discarded.spaces.get space with
      unacknowledged := .empty
      lossTime := none }

end QuicRecovery

end AsynGyanis.Quic
