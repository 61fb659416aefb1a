import AsynGyanis.Quic.Recovery.Recovery

/-!
# Path MTU discovery (RFC 8899)

The datagram size a path is known to carry, the next size to try and the
one timer both share. The size starts at 1200 and moves only when a probe
of the next size was acknowledged, when the peer's limit comes down, or
back to 1200 when the path stops answering. Until the handshake is
confirmed the machine is disabled and the size stays at 1200.
-/

namespace AsynGyanis.Quic

inductive QuicPathMtuPhase
  | disabled
  | base
  | searching
  | searchComplete
  deriving DecidableEq, Repr

def kBaseDatagramPayloadByteLength : Nat := 1200

def kMinimumDatagramPayloadByteLength : Nat := kBaseDatagramPayloadByteLength

def kMaximumFailedProbeCount : Nat := 3

def kProbeSizeTable : List Nat := [1232, 1452, 8952]

def kLargestProbedDatagramPayloadByteLength : Nat := 8952

structure QuicPathMtuDiscovery where
  probeTimeout : QuicTime := 16000000
  raiseTimeout : QuicTime := 600000000
  datagramPayloadByteLength : Nat := kMinimumDatagramPayloadByteLength
  probedByteLength : Nat := kMinimumDatagramPayloadByteLength
  peerMaximumPayloadByteLength : Nat := kLargestProbedDatagramPayloadByteLength
  failedProbeCount : Nat := 0
  phase : QuicPathMtuPhase := .disabled
  isProbeOutstanding : Bool := false
  deadline : Option QuicTime := none
  deriving DecidableEq, Repr

namespace QuicPathMtuDiscovery

variable (mtu : QuicPathMtuDiscovery) (now : QuicTime)

def maximumDatagramPayloadByteLength : Nat := mtu.datagramPayloadByteLength

def ceilingByteLength : Nat := mtu.peerMaximumPayloadByteLength

/-- The first step of the ladder within the ceiling. -/
def firstProbeByteLengthAtMost (ceiling : Nat) : Nat :=
  (kProbeSizeTable.find? fun candidate => candidate ≤ ceiling).getD kBaseDatagramPayloadByteLength

/-- The machine with the next step of the ladder, and whether there is one. -/
def advanceProbedByteLength : QuicPathMtuDiscovery × Bool :=
  match kProbeSizeTable.find? fun candidate =>
      candidate > mtu.datagramPayloadByteLength ∧ candidate ≤ mtu.ceilingByteLength with
  | some candidate => ({ mtu with probedByteLength := candidate }, true)
  | none =>
    ({ mtu with probedByteLength := mtu.datagramPayloadByteLength }, false)

/-- Where the search starts over: at the base size, or done when the
ceiling leaves nothing to search. -/
def startFromBase :
    QuicPathMtuDiscovery :=
  let mtu := { mtu with
    datagramPayloadByteLength := kBaseDatagramPayloadByteLength
    failedProbeCount := 0
    isProbeOutstanding := false
    probedByteLength := firstProbeByteLengthAtMost mtu.ceilingByteLength }
  if mtu.probedByteLength ≤ mtu.datagramPayloadByteLength then
    { mtu with
      phase := .searchComplete
      deadline := some (now + mtu.raiseTimeout) }
  else { mtu with phase := .base, deadline := some now }

def onHandshakeConfirmed :
    QuicPathMtuDiscovery :=
  if mtu.phase ≠ .disabled then mtu else mtu.startFromBase now

def onConnectivityLost :
    QuicPathMtuDiscovery :=
  if mtu.phase = .disabled then mtu else mtu.startFromBase now

def onPeerMaximumPayload (peerMaximumPayloadByteLength : Nat) : QuicPathMtuDiscovery :=
  let ceiling := max kMinimumDatagramPayloadByteLength
    (min peerMaximumPayloadByteLength kLargestProbedDatagramPayloadByteLength)
  let payload := min mtu.datagramPayloadByteLength ceiling
  { mtu with
    peerMaximumPayloadByteLength := ceiling
    datagramPayloadByteLength := payload
    probedByteLength :=
      if mtu.probedByteLength > ceiling then payload
      else mtu.probedByteLength }

/-- The machine afterwards, and the size of the probe that is due. -/
def probeByteLengthIfDue (availableByteBudget : Nat) : QuicPathMtuDiscovery × Option Nat :=
  if mtu.isProbeOutstanding ∨ (mtu.deadline.all fun d => now < d) ∨
      mtu.phase = .disabled ∨ mtu.phase = .searchComplete then (mtu, none)
  else if mtu.probedByteLength ≤ mtu.datagramPayloadByteLength then (mtu, none)
  else if mtu.probedByteLength > availableByteBudget then
    ({ mtu with deadline := some (now + mtu.probeTimeout) }, none)
  else
    ({ mtu with
        isProbeOutstanding := true
        phase := .searching
        deadline := some (now + mtu.probeTimeout) },
      some mtu.probedByteLength)

/-- Taking the next step if there is one, else waiting for the raise
timer. -/
def searchOnOrComplete (searchDeadline completeDeadline : QuicTime) : QuicPathMtuDiscovery :=
  match mtu.advanceProbedByteLength with
  | (mtu, true) =>
    { mtu with phase := .searching, deadline := some searchDeadline }
  | (mtu, false) =>
    { mtu with phase := .searchComplete, deadline := some completeDeadline }

def onProbeAcknowledged :
    QuicPathMtuDiscovery :=
  if !mtu.isProbeOutstanding then mtu
  else
    searchOnOrComplete
      { mtu with
        isProbeOutstanding := false
        failedProbeCount := 0
        datagramPayloadByteLength := min mtu.probedByteLength mtu.ceilingByteLength }
      (now + mtu.probeTimeout) (now + mtu.raiseTimeout)

def onDeadlineReached :
    QuicPathMtuDiscovery :=
  if mtu.deadline.all fun d => now < d then mtu
  else if mtu.phase = .searchComplete then
    searchOnOrComplete
      { mtu with
        failedProbeCount := 0
        probedByteLength := mtu.datagramPayloadByteLength }
      now (now + mtu.raiseTimeout)
  else if !mtu.isProbeOutstanding then { mtu with deadline := some now }
  else
    let failedProbeCount := mtu.failedProbeCount + 1
    if failedProbeCount < kMaximumFailedProbeCount then
      { mtu with
        isProbeOutstanding := false
        failedProbeCount := failedProbeCount
        deadline := some now }
    else
      { mtu with
        isProbeOutstanding := false
        failedProbeCount := 0
        probedByteLength := mtu.datagramPayloadByteLength
        phase := .searchComplete
        deadline := some (now + mtu.raiseTimeout) }

/-! ## The size stays within the ladder -/

/-- No size the machine holds is above the last step or below the base. -/
structure Bounded (mtu : QuicPathMtuDiscovery) : Prop where
  payload : mtu.datagramPayloadByteLength ≤ kLargestProbedDatagramPayloadByteLength
  ceiling : mtu.peerMaximumPayloadByteLength ≤ kLargestProbedDatagramPayloadByteLength
  leastPayload : kMinimumDatagramPayloadByteLength ≤ mtu.datagramPayloadByteLength
  leastCeiling : kMinimumDatagramPayloadByteLength ≤ mtu.peerMaximumPayloadByteLength
  leastProbe : kMinimumDatagramPayloadByteLength ≤ mtu.probedByteLength

theorem Bounded.start : Bounded {} := ⟨by decide, by decide, by decide, by decide, by decide⟩

variable {mtu : QuicPathMtuDiscovery}

theorem least_of_find?_kProbeSizeTable {p : Nat → Bool} {candidate : Nat}
    (h : kProbeSizeTable.find? p = some candidate) :
    kMinimumDatagramPayloadByteLength ≤ candidate := by
  have hall : ∀ step ∈ kProbeSizeTable, kMinimumDatagramPayloadByteLength ≤ step := by decide
  exact hall candidate (List.mem_of_find?_eq_some h)

theorem Bounded.startFromBase (h : mtu.Bounded) (now : QuicTime) :
    (mtu.startFromBase now).Bounded := by
  have hbase : kBaseDatagramPayloadByteLength ≤
      kLargestProbedDatagramPayloadByteLength := by decide
  have hprobe : kMinimumDatagramPayloadByteLength ≤
      firstProbeByteLengthAtMost mtu.ceilingByteLength := by
    unfold firstProbeByteLengthAtMost
    cases hfind : kProbeSizeTable.find? fun candidate =>
        candidate ≤ mtu.ceilingByteLength with
    | none => exact Nat.le_refl _
    | some candidate => exact least_of_find?_kProbeSizeTable hfind
  unfold QuicPathMtuDiscovery.startFromBase
  simp only
  split
  all_goals exact ⟨hbase, h.ceiling, Nat.le_refl _, h.leastCeiling, hprobe⟩

theorem Bounded.onHandshakeConfirmed (h : mtu.Bounded) (now : QuicTime) :
    (mtu.onHandshakeConfirmed now).Bounded := by
  unfold QuicPathMtuDiscovery.onHandshakeConfirmed
  split
  · exact h
  · exact h.startFromBase now

theorem Bounded.onConnectivityLost (h : mtu.Bounded) (now : QuicTime) :
    (mtu.onConnectivityLost now).Bounded := by
  unfold QuicPathMtuDiscovery.onConnectivityLost
  split
  · exact h
  · exact h.startFromBase now

theorem Bounded.onPeerMaximumPayload (h : mtu.Bounded) (peerMaximumPayloadByteLength : Nat) :
    (mtu.onPeerMaximumPayload peerMaximumPayloadByteLength).Bounded := by
  have hceiling : kMinimumDatagramPayloadByteLength ≤ max kMinimumDatagramPayloadByteLength
        (min peerMaximumPayloadByteLength
          kLargestProbedDatagramPayloadByteLength) := Nat.le_max_left _ _
  have hmost : max kMinimumDatagramPayloadByteLength
      (min peerMaximumPayloadByteLength kLargestProbedDatagramPayloadByteLength) ≤
      kLargestProbedDatagramPayloadByteLength :=
    Nat.max_le.mpr ⟨by decide, Nat.min_le_right _ _⟩
  have hpayload := Nat.le_min.mpr ⟨h.leastPayload, hceiling⟩
  refine ⟨Nat.le_trans (Nat.min_le_left _ _) h.payload, hmost, hpayload, hceiling, ?_⟩
  unfold QuicPathMtuDiscovery.onPeerMaximumPayload
  dsimp only
  split
  · exact hpayload
  · exact h.leastProbe

theorem Bounded.searchOnOrComplete (h : mtu.Bounded) (searchDeadline completeDeadline : QuicTime) :
    (mtu.searchOnOrComplete searchDeadline completeDeadline).Bounded := by
  unfold QuicPathMtuDiscovery.searchOnOrComplete advanceProbedByteLength
  split
  all_goals
    next heq =>
    split at heq
    all_goals
      next hfind =>
      injection heq with heq hmore
      subst heq
      first
        | exact ⟨h.payload, h.ceiling, h.leastPayload, h.leastCeiling,
            least_of_find?_kProbeSizeTable hfind⟩
        | exact ⟨h.payload, h.ceiling, h.leastPayload, h.leastCeiling, h.leastPayload⟩

theorem Bounded.onProbeAcknowledged (h : mtu.Bounded) (now : QuicTime) :
    (mtu.onProbeAcknowledged now).Bounded := by
  unfold QuicPathMtuDiscovery.onProbeAcknowledged
  split
  · exact h
  refine Bounded.searchOnOrComplete ?_ _ _
  exact ⟨Nat.le_trans (Nat.min_le_right _ _) h.ceiling, h.ceiling,
    Nat.le_min.mpr ⟨h.leastProbe, h.leastCeiling⟩, h.leastCeiling,
    h.leastProbe⟩

theorem Bounded.onDeadlineReached (h : mtu.Bounded) (now : QuicTime) :
    (mtu.onDeadlineReached now).Bounded := by
  unfold QuicPathMtuDiscovery.onDeadlineReached
  split
  · exact h
  split
  · refine Bounded.searchOnOrComplete ?_ _ _
    exact ⟨h.payload, h.ceiling, h.leastPayload, h.leastCeiling, h.leastPayload⟩
  split
  · exact ⟨h.payload, h.ceiling, h.leastPayload, h.leastCeiling, h.leastProbe⟩
  simp only
  split
  · exact ⟨h.payload, h.ceiling, h.leastPayload, h.leastCeiling, h.leastProbe⟩
  · exact ⟨h.payload, h.ceiling, h.leastPayload, h.leastCeiling, h.leastPayload⟩

theorem Bounded.probeByteLengthIfDue (h : mtu.Bounded) (now : QuicTime)
    (availableByteBudget : Nat) :
    (mtu.probeByteLengthIfDue now availableByteBudget).1.Bounded := by
  unfold QuicPathMtuDiscovery.probeByteLengthIfDue
  repeat' split
  all_goals exact ⟨h.payload, h.ceiling, h.leastPayload, h.leastCeiling, h.leastProbe⟩

theorem probeByteLengthIfDue_above {now : QuicTime} {availableByteBudget probeByteLength : Nat}
    (h : (mtu.probeByteLengthIfDue now availableByteBudget).2 = some probeByteLength) :
    (mtu.probeByteLengthIfDue now
      availableByteBudget).1.datagramPayloadByteLength < probeByteLength := by
  unfold QuicPathMtuDiscovery.probeByteLengthIfDue at h ⊢
  split at h
  · cases h
  rename_i hdue
  rw [if_neg hdue]
  split at h
  · cases h
  rename_i habove
  rw [if_neg habove]
  split at h
  · cases h
  rename_i hroom
  rw [if_neg hroom]
  injection h with h
  exact h ▸ Nat.lt_of_not_le habove

end QuicPathMtuDiscovery

end AsynGyanis.Quic
