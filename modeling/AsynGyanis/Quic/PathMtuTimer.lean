import AsynGyanis.Quic.PathMtuDiscovery

/-!
# The timer of the path MTU search

The machine has one deadline, and its owner comes back when it is reached:
`onDeadlineReached` and then, while a datagram is put together, a probe if one
is due. When no probe came of it the deadline must have moved on, or the owner
comes back at once and for ever.

It moves on as long as a search is for a size above the one in use
(`MtuRun.Kept.searching`). A limit of the peer that falls below the size being
searched ends that: no probe is ever due for what is searched then, and the
deadline is put to the present every time (`limit_in_search_spins`). Only when
the third probe is out already does the search end by itself.
-/

namespace AsynGyanis.Quic

open QuicPathMtuDiscovery QuicPathMtuDiscovery

/-! ## Runs -/

inductive MtuEvent
  | handshakeConfirmed (now : QuicTime)
  | peerMaximumPayload (peerMaximumPayloadByteLength : Nat)
  | probeIfDue (now : QuicTime) (availableByteBudget : Nat)
  | probeAcknowledged (now : QuicTime)
  | deadlineReached (now : QuicTime)
  | connectivityLost (now : QuicTime)

/-- The machine, the limit the peer declared last and the size of the probe
that was sent last. -/
structure MtuRun where
  mtu : QuicPathMtuDiscovery
  limit : Option Nat := none
  lastProbe : Option Nat := none

namespace MtuRun

variable (r : MtuRun)

def step : MtuEvent → MtuRun
  | .handshakeConfirmed now => { r with mtu := r.mtu.onHandshakeConfirmed now }
  | .peerMaximumPayload limit =>
    { r with mtu := r.mtu.onPeerMaximumPayload limit, limit := some limit }
  | .probeIfDue now budget =>
    { r with
      mtu := (r.mtu.probeByteLengthIfDue now budget).1
      lastProbe := (r.mtu.probeByteLengthIfDue now budget).2.or r.lastProbe }
  | .probeAcknowledged now => { r with mtu := r.mtu.onProbeAcknowledged now }
  | .deadlineReached now => { r with mtu := r.mtu.onDeadlineReached now }
  | .connectivityLost now => { r with mtu := r.mtu.onConnectivityLost now }

/-- A limit below the size that is being searched, unless the last probe of
that size is out. -/
def Undercuts : MtuEvent → Prop
  | .peerMaximumPayload limit =>
    (r.mtu.phase = .base ∨ r.mtu.phase = .searching) ∧ max kMinimumDatagramPayloadByteLength
          (min limit kLargestProbedDatagramPayloadByteLength) <
        r.mtu.probedByteLength ∧
      ¬(r.mtu.isProbeOutstanding = true ∧ r.mtu.failedProbeCount + 1 = kMaximumFailedProbeCount)
  | _ => False

/-- A run none of whose limits falls below the size being searched. -/
def NeverUndercut : MtuRun → List MtuEvent → Prop
  | _, [] => True
  | r, event :: events =>
    ¬r.Undercuts event ∧ NeverUndercut (r.step event) events

def start (probeTimeout raiseTimeout : QuicTime) : MtuRun :=
  { mtu := { probeTimeout := probeTimeout, raiseTimeout := raiseTimeout } }

def run (events : List MtuEvent) : MtuRun := events.foldl step r

/-- The deadline is gone or ahead unless a probe was sent. -/
def MovesOn (mtu : QuicPathMtuDiscovery) : Prop := ∀ now budget,
    (((mtu.onDeadlineReached now).probeByteLengthIfDue now budget).2 = none →
      ((mtu.onDeadlineReached now).probeByteLengthIfDue now budget).1.deadline.all (now < ·) = true)

/-- What holds of a state. -/
structure Sound : Prop where
  least : kBaseDatagramPayloadByteLength ≤ r.mtu.maximumDatagramPayloadByteLength
  most : ∀ limit, r.limit = some limit → r.mtu.maximumDatagramPayloadByteLength ≤
      max kBaseDatagramPayloadByteLength limit
  raised : ∀ event, r.mtu.maximumDatagramPayloadByteLength <
      (r.step event).mtu.maximumDatagramPayloadByteLength →
    (∃ now, event = .probeAcknowledged now) ∧ r.mtu.isProbeOutstanding = true ∧
      r.lastProbe = some (r.step event).mtu.maximumDatagramPayloadByteLength
  movesOn : MovesOn r.mtu

/-! ## What the steps keep -/

/-- The machine between two events. -/
structure Kept : Prop where
  least : kBaseDatagramPayloadByteLength ≤ r.mtu.datagramPayloadByteLength
  ordered : r.mtu.datagramPayloadByteLength ≤ r.mtu.probedByteLength
  within : r.mtu.probedByteLength ≤ r.mtu.peerMaximumPayloadByteLength
  declared : ∀ limit, r.limit = some limit → r.mtu.peerMaximumPayloadByteLength ≤
      max kBaseDatagramPayloadByteLength limit
  disabled : r.mtu.phase = .disabled → r.mtu.deadline = none
  probing : r.mtu.isProbeOutstanding = true → r.mtu.phase = .searching
  searching : r.mtu.phase = .base ∨ r.mtu.phase = .searching →
    r.mtu.datagramPayloadByteLength < r.mtu.probedByteLength ∨ r.mtu.isProbeOutstanding = true ∧
        r.mtu.failedProbeCount + 1 = kMaximumFailedProbeCount
  probe : r.mtu.isProbeOutstanding = true →
    r.mtu.datagramPayloadByteLength < r.mtu.probedByteLength →
      r.lastProbe = some r.mtu.probedByteLength
  probeTimeout : 0 < r.mtu.probeTimeout
  raiseTimeout : 0 < r.mtu.raiseTimeout

variable {r}

theorem ladder_step {payload ceiling candidate : Nat}
    (h : kProbeSizeTable.find? (fun candidate =>
      candidate > payload ∧ candidate ≤ ceiling) = some candidate) :
    payload < candidate ∧ candidate ≤ ceiling := by
  simpa using List.find?_some h

theorem firstProbe_le (mtu : QuicPathMtuDiscovery)
    (h : kBaseDatagramPayloadByteLength ≤ mtu.peerMaximumPayloadByteLength) :
    kBaseDatagramPayloadByteLength ≤ firstProbeByteLengthAtMost mtu.ceilingByteLength ∧
      firstProbeByteLengthAtMost mtu.ceilingByteLength ≤
        mtu.peerMaximumPayloadByteLength := by
  unfold firstProbeByteLengthAtMost ceilingByteLength
  cases hfind : kProbeSizeTable.find? fun candidate =>
      candidate ≤ mtu.peerMaximumPayloadByteLength with
  | none => exact ⟨Nat.le_refl _, h⟩
  | some candidate =>
    exact ⟨least_of_find?_kProbeSizeTable hfind,
      by simpa using List.find?_some hfind⟩

theorem Kept.startFromBase (h : r.Kept) (now : QuicTime) :
    Kept { r with mtu := r.mtu.startFromBase now } := by
  obtain ⟨hleast, hordered, hwithin, hdeclared, hdisabled, hprobing, hsearching,
    hprobe, htimeout, hraise⟩ := h
  have hfirst := firstProbe_le r.mtu (by omega)
  unfold QuicPathMtuDiscovery.startFromBase
  dsimp only
  split
  all_goals constructor <;> grind

theorem Kept.search (h : r.Kept) (mtu : QuicPathMtuDiscovery)
    (hleast : kBaseDatagramPayloadByteLength ≤ mtu.datagramPayloadByteLength)
    (hout : mtu.isProbeOutstanding = false)
    (hwithin : mtu.datagramPayloadByteLength ≤ mtu.peerMaximumPayloadByteLength)
    (hlimit : mtu.peerMaximumPayloadByteLength = r.mtu.peerMaximumPayloadByteLength)
    (hprobe : mtu.probeTimeout = r.mtu.probeTimeout)
    (hraise : mtu.raiseTimeout = r.mtu.raiseTimeout)
    (searchDeadline completeDeadline : QuicTime) :
    Kept { r with
      mtu := mtu.searchOnOrComplete searchDeadline completeDeadline } := by
  obtain ⟨hleast, hordered, hwithin, hdeclared, hdisabled, hprobing, hsearching,
    hprobe, htimeout, hraise⟩ := h
  unfold searchOnOrComplete advanceProbedByteLength ceilingByteLength
  cases hfind : kProbeSizeTable.find? fun candidate =>
      candidate > mtu.datagramPayloadByteLength ∧ candidate ≤ mtu.peerMaximumPayloadByteLength with
  | none => constructor <;> grind
  | some candidate =>
    have := ladder_step hfind
    constructor <;> grind

theorem Kept.onPeerMaximumPayload (h : r.Kept) {limit : Nat}
    (hallowed : ¬r.Undercuts (.peerMaximumPayload limit)) :
    (r.step (.peerMaximumPayload limit)).Kept := by
  obtain ⟨hleast, hordered, hwithin, hdeclared, hdisabled, hprobing, hsearching,
    hprobe, htimeout, hraise⟩ := h
  unfold MtuRun.step QuicPathMtuDiscovery.onPeerMaximumPayload
  unfold Undercuts at hallowed
  have hsame : kMinimumDatagramPayloadByteLength =
    kBaseDatagramPayloadByteLength := rfl
  constructor <;> grind

theorem Kept.probeIfDue (h : r.Kept) (now : QuicTime) (budget : Nat) :
    (r.step (.probeIfDue now budget)).Kept := by
  unfold MtuRun.step probeByteLengthIfDue
  dsimp only
  split
  · exact h
  split
  · exact h
  obtain ⟨hleast, hordered, hwithin, hdeclared, hdisabled, hprobing, hsearching,
    hprobe, htimeout, hraise⟩ := h
  split
  all_goals constructor <;> grind

theorem Kept.onDeadlineReached (h : r.Kept) (now : QuicTime) :
    (r.step (.deadlineReached now)).Kept := by
  unfold MtuRun.step QuicPathMtuDiscovery.onDeadlineReached
  dsimp only
  split
  · exact h
  split
  · next hcomplete =>
    have hout : r.mtu.isProbeOutstanding = false := by
      by_contra hout
      exact nomatch hcomplete.symm.trans (h.probing (Bool.not_eq_false _ ▸ hout))
    exact h.search { r.mtu with
        failedProbeCount := 0
        probedByteLength := r.mtu.datagramPayloadByteLength }
      h.least hout (Nat.le_trans h.ordered h.within) rfl rfl rfl _ _
  rename_i hdue _
  split
  · refine { h with disabled := fun hdisabled => ?_ }
    rw [h.disabled hdisabled] at hdue
    exact absurd rfl hdue
  rename_i hout
  have hphase := h.probing (by simpa using hout)
  split
  · next hless =>
    refine { h with
      disabled := fun hdisabled => nomatch hphase.symm.trans hdisabled
      probing := nofun
      searching := fun _ => ?_
      probe := nofun }
    rcases h.searching (.inr hphase) with hahead | ⟨-, hcount⟩
    · exact .inl hahead
    · exact absurd hcount (Nat.ne_of_lt hless)
  · exact { h with
      ordered := Nat.le_refl _
      within := Nat.le_trans h.ordered h.within
      disabled := nofun
      probing := nofun
      searching := by rintro (h | h) <;> exact nomatch h
      probe := nofun }

theorem Kept.step (h : r.Kept) {event : MtuEvent}
    (hallowed : ¬r.Undercuts event) : (r.step event).Kept := by
  cases event with
  | handshakeConfirmed now =>
    unfold MtuRun.step onHandshakeConfirmed
    dsimp only
    split
    · exact h
    · exact h.startFromBase now
  | peerMaximumPayload limit => exact h.onPeerMaximumPayload hallowed
  | probeIfDue now budget => exact h.probeIfDue now budget
  | probeAcknowledged now =>
    unfold MtuRun.step onProbeAcknowledged
    dsimp only
    split
    · exact h
    exact h.search { r.mtu with
        isProbeOutstanding := false
        failedProbeCount := 0
        datagramPayloadByteLength := min r.mtu.probedByteLength r.mtu.ceilingByteLength }
      (by grind [ceilingByteLength, Kept]) rfl (Nat.min_le_right _ _) rfl rfl
      rfl _ _
  | deadlineReached now => exact h.onDeadlineReached now
  | connectivityLost now =>
    unfold MtuRun.step onConnectivityLost
    dsimp only
    split
    · exact h
    · exact h.startFromBase now

/-! ## What follows -/

theorem Kept.movesOn (h : r.Kept) : MovesOn r.mtu := by
  obtain ⟨hleast, hordered, hwithin, hdeclared, hdisabled, hprobing, hsearching,
    hprobe, htimeout, hraise⟩ := h
  intro now budget
  unfold QuicPathMtuDiscovery.onDeadlineReached
  split
  · next hahead => grind [probeByteLengthIfDue]
  rename_i hdue
  split
  · unfold searchOnOrComplete advanceProbedByteLength ceilingByteLength
    cases hfind : kProbeSizeTable.find? fun candidate =>
        candidate > r.mtu.datagramPayloadByteLength ∧
          candidate ≤ r.mtu.peerMaximumPayloadByteLength with
    | none => grind [probeByteLengthIfDue]
    | some candidate =>
      have := ladder_step hfind
      grind [probeByteLengthIfDue]
  have hphase : r.mtu.phase = .base ∨ r.mtu.phase = .searching := by
    cases hphase : r.mtu.phase with
    | disabled => exact absurd (by rw [hdisabled hphase]; rfl) hdue
    | base => exact .inl rfl
    | searching => exact .inr rfl
    | searchComplete => contradiction
  split
  · grind [probeByteLengthIfDue]
  · grind [probeByteLengthIfDue, kMaximumFailedProbeCount]

theorem Kept.raised (h : r.Kept) (event : MtuEvent)
    (hraised : r.mtu.datagramPayloadByteLength < (r.step event).mtu.datagramPayloadByteLength) :
    (∃ now, event = .probeAcknowledged now) ∧ r.mtu.isProbeOutstanding ∧
      r.lastProbe = some (r.step event).mtu.datagramPayloadByteLength := by
  obtain ⟨hleast, hordered, hwithin, hdeclared, hdisabled, hprobing, hsearching,
    hprobe, htimeout, hraise⟩ := h
  have hsearch : ∀ (mtu : QuicPathMtuDiscovery) (a b : QuicTime),
      (mtu.searchOnOrComplete a b).datagramPayloadByteLength =
        mtu.datagramPayloadByteLength := by
    grind [searchOnOrComplete, advanceProbedByteLength]
  revert hraised
  unfold MtuRun.step
  cases event with
  | handshakeConfirmed now =>
    grind [QuicPathMtuDiscovery.onHandshakeConfirmed, QuicPathMtuDiscovery.startFromBase]
  | peerMaximumPayload limit =>
    grind [QuicPathMtuDiscovery.onPeerMaximumPayload]
  | probeIfDue now budget => grind [QuicPathMtuDiscovery.probeByteLengthIfDue]
  | probeAcknowledged now =>
    grind [QuicPathMtuDiscovery.onProbeAcknowledged, ceilingByteLength]
  | deadlineReached now => grind [QuicPathMtuDiscovery.onDeadlineReached]
  | connectivityLost now =>
    grind [QuicPathMtuDiscovery.onConnectivityLost, QuicPathMtuDiscovery.startFromBase]

theorem Kept.start {probeTimeout raiseTimeout : QuicTime}
    (hprobe : 0 < probeTimeout) (hraise : 0 < raiseTimeout) :
    (start probeTimeout raiseTimeout).Kept where
  least := Nat.le_refl _
  ordered := Nat.le_refl _
  within := Bounded.start.leastCeiling
  declared := nofun
  disabled _ := rfl
  probing := nofun
  searching hphase := hphase.elim nofun nofun
  probe := nofun
  probeTimeout := hprobe
  raiseTimeout := hraise

/-- Unless a limit falls below the size being searched, the size in use lies
within the base and the peer's limit, only the acknowledgement of a probe of
its size raises it, and the deadline never spins. -/
theorem timer_sound {probeTimeout raiseTimeout : QuicTime}
    (hprobe : 0 < probeTimeout) (hraise : 0 < raiseTimeout)
    (events : List MtuEvent)
    (hallowed : NeverUndercut (start probeTimeout raiseTimeout) events) :
    ((start probeTimeout raiseTimeout).run events).Sound := by
  have hkept : ∀ {r : MtuRun} {events : List MtuEvent}, r.Kept →
      NeverUndercut r events → (r.run events).Kept := by
    intro r events h hallowed
    induction events generalizing r with
    | nil => exact h
    | cons event events ih => exact ih (h.step hallowed.1) hallowed.2
  have h := hkept (.start hprobe hraise) hallowed
  have hmost := Nat.le_trans h.ordered h.within
  exact ⟨h.least, fun limit hlimit =>
    Nat.le_trans hmost (h.declared limit hlimit), h.raised, h.movesOn⟩

/-- One probe acknowledged before the peer declares its limit. -/
theorem timer_sound_one_step :
    ((start 16000000 600000000).run [.handshakeConfirmed 0,
      .probeIfDue 0 65535, .probeAcknowledged 40000,
      .peerMaximumPayload 9000]).Sound :=
  timer_sound (by decide) (by decide) _ ⟨id, id, id,
    fun ⟨_, hlower, _⟩ => absurd hlower (by decide), trivial⟩

/-- The peer's limit of 1200 arrives while 1232 is searched: no probe, and the
deadline is the present. -/
theorem limit_in_search_spins : ∃ events, ¬((start 16000000 600000000).run events).Sound := by
  refine ⟨[.handshakeConfirmed 0, .peerMaximumPayload 1200], fun h => ?_⟩
  exact absurd (h.movesOn 0 65535 (by decide)) (by decide)

end MtuRun

end AsynGyanis.Quic
