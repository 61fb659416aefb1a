import AsynGyanis.Quic.Connection.RunSteps

/-!
# The connection IDs of the peer

The peer hands out connection IDs in NEW_CONNECTION_ID frames and takes
them back with the Retire Prior To such a frame carries. What is held is a
list, and a number beside it says below which sequence everything has been
retired. The two agree only while frames come as a tidy peer's would: the
number is compared with the list when it rises, never when an ID is added
below it, and a frame for an ID that is held is not looked at any further.

`IsOrderly` is what it takes of one frame, in terms of what was held when
it arrived, and `ConnectionIdBooks` is what then holds in every state.
-/

namespace AsynGyanis.Quic

open Library List QuicConnectionLedgers

/-! ## Frames in the order of their arrival -/

namespace NewConnectionIdNote

/-- Any other frame ends the connection. -/
def IsWellFormed (note : NewConnectionIdNote) : Prop :=
  note.frame.retirePriorTo ≤ note.frame.sequenceNumber

/-- Its sequence or its ID was held already. -/
def IsRepeated (note : NewConnectionIdNote) : Prop :=
  ∃ held ∈ note.held, held.sequence = note.frame.sequenceNumber ∨ held.id = note.frame.connectionId

/-- What a frame brings that is new is not behind what was retired, and
what retires more brings something new. -/
def IsOrderly (note : NewConnectionIdNote) : Prop := note.IsWellFormed →
    (note.IsRepeated ∧ note.frame.retirePriorTo ≤ note.retirePriorTo) ∨
      (¬ note.IsRepeated ∧ note.retirePriorTo ≤ note.frame.sequenceNumber)

instance (note : NewConnectionIdNote) : Decidable note.IsWellFormed :=
  inferInstanceAs (Decidable (_ ≤ _))

instance (note : NewConnectionIdNote) : Decidable note.IsRepeated :=
  inferInstanceAs (Decidable (∃ _ ∈ note.held, _))

instance (note : NewConnectionIdNote) : Decidable note.IsOrderly :=
  inferInstanceAs (Decidable (_ → _))

end NewConnectionIdNote

/-- The largest Retire Prior To the peer has sent. -/
def largestRetirePriorTo (notes : List NewConnectionIdNote) : Nat :=
  ((notes.filter fun note => note.IsWellFormed).map (·.frame.retirePriorTo)).foldl max 0

/-- The sequences the peer has active: the first and those of its frames,
without what it has taken back. -/
def activeSequences (notes : List NewConnectionIdNote) : Finset Nat :=
  (insert 0 (((notes.filter fun note => note.IsWellFormed).map
    (·.frame.sequenceNumber)).toFinset)).filter (largestRetirePriorTo notes ≤ ·)

theorem largestRetirePriorTo_append (notes : List NewConnectionIdNote)
    (note : NewConnectionIdNote) :
    largestRetirePriorTo (notes ++ [note]) =
      if note.IsWellFormed then
        max (largestRetirePriorTo notes) note.frame.retirePriorTo
      else largestRetirePriorTo notes := by
  unfold largestRetirePriorTo
  by_cases hformed : note.IsWellFormed <;> simp [hformed]

theorem mem_activeSequences {notes : List NewConnectionIdNote}
    {sequence : Nat} : sequence ∈ activeSequences notes ↔
      (sequence = 0 ∨ ∃ note ∈ notes, note.IsWellFormed ∧ note.frame.sequenceNumber = sequence) ∧
      largestRetirePriorTo notes ≤ sequence := by
  unfold activeSequences
  simp [Finset.mem_filter, Finset.mem_insert, and_assoc]

/-- Every frame so far was orderly, and no ID was taken from a header or a
Retry once a frame had retired others. -/
structure QuicConnectionHistory.HasOrderlyConnectionIds
    (history : QuicConnectionHistory) : Prop where
  frames : ∀ note ∈ history.newConnectionIdFrames, note.IsOrderly
  adoptions : ∀ threshold ∈ history.adoptionThresholds, threshold = 0

/-! ## The invariant -/

/-- The list of what is held, the Retire Prior To beside it and what the
peer has sent agree. -/
structure HeldConnectionIds (l : QuicConnectionLedgers) : Prop where
  threshold : largestRetirePriorTo l.history.newConnectionIdFrames = l.peerRetirePriorTo
  inForce : ∀ held ∈ l.peerConnectionIds, l.peerRetirePriorTo ≤ held.sequence
  retired : ∀ sequence ∈ l.history.retiredSequences, sequence < l.peerRetirePriorTo
  known : ∀ held ∈ l.peerConnectionIds, held.sequence = 0 ∨
    ∃ note ∈ l.history.newConnectionIdFrames, note.IsWellFormed ∧
      note.frame.sequenceNumber = held.sequence
  distinct : (l.peerConnectionIds.map (·.sequence)).Nodup
  limitErrors : ∀ count ∈ l.history.connectionIdLimitErrors,
    count ≤ l.history.newConnectionIdFrames.length ∧ l.localParameters.activeConnectionIdLimit <
        (activeSequences (l.history.newConnectionIdFrames.take count)).card

/-- And once the peer has taken IDs back, one that is held is in use. -/
structure ConnectionIdBooks (l : QuicConnectionLedgers) : Prop
    extends HeldConnectionIds l where
  inUse : l.peerRetirePriorTo ≠ 0 → ∃ held ∈ l.peerConnectionIds, held.id = l.peerConnectionId

/-- Nothing that concerns the peer's connection IDs has changed. -/
structure SameConnectionIds (l l' : QuicConnectionLedgers) : Prop where
  parameters : l'.localParameters = l.localParameters
  inUse : l'.peerConnectionId = l.peerConnectionId
  held : l'.peerConnectionIds = l.peerConnectionIds
  threshold : l'.peerRetirePriorTo = l.peerRetirePriorTo
  frames : l'.history.newConnectionIdFrames = l.history.newConnectionIdFrames
  adoptions : l'.history.adoptionThresholds = l.history.adoptionThresholds
  retired : l'.history.retiredSequences = l.history.retiredSequences
  errors : l'.history.connectionIdLimitErrors = l.history.connectionIdLimitErrors

theorem lowestHeld_mem {heldIds : List PeerConnectionId} {lowest : PeerConnectionId}
    (h : QuicConnectionCore.lowestHeld heldIds = some lowest) : lowest ∈ heldIds := by
  induction heldIds generalizing lowest with
  | nil => cases h
  | cons held rest ih =>
    unfold QuicConnectionCore.lowestHeld at h
    split at h
    · injection h with h
      exact h ▸ mem_cons_self
    rename_i other hother
    split at h
    · injection h with h
      exact h ▸ mem_cons_of_mem _ (ih hother)
    · injection h with h
      exact h ▸ mem_cons_self

theorem lowestHeld_isSome {heldIds : List PeerConnectionId}
    (h : heldIds ≠ []) : (QuicConnectionCore.lowestHeld heldIds).isSome := by
  cases heldIds with
  | nil => exact absurd rfl h
  | cons held rest =>
    unfold QuicConnectionCore.lowestHeld
    split
    · rfl
    · split <;> rfl

theorem notePeerHandshakeStatelessResetToken_map {α : Type} {f : PeerConnectionId → α}
    (hf : ∀ held token, f { held with
      statelessResetToken := token, hasStatelessResetToken := true } = f held)
    (token : QuicStatelessResetToken) (heldIds : List PeerConnectionId) :
    (QuicConnectionCore.notePeerHandshakeStatelessResetToken token
      heldIds).map f = heldIds.map f := by
  induction heldIds with
  | nil => rfl
  | cons held rest ih =>
    unfold QuicConnectionCore.notePeerHandshakeStatelessResetToken
    split
    · rw [map_cons, map_cons, hf]
    · rw [map_cons, map_cons, ih]

namespace HeldConnectionIds

variable {l : QuicConnectionLedgers} {frame : QuicNewConnectionIdFrame}

theorem limitErrors_noteFrame (h : HeldConnectionIds l) :
    ∀ count ∈ l.history.connectionIdLimitErrors,
      count ≤ (l.noteNewConnectionIdFrame frame).history.newConnectionIdFrames.length ∧
        l.localParameters.activeConnectionIdLimit <
          (activeSequences ((l.noteNewConnectionIdFrame
            frame).history.newConnectionIdFrames.take count)).card := by
  intro count hcount
  obtain ⟨hle, hlimit⟩ := h.limitErrors count hcount
  simp only [noteNewConnectionIdFrame]
  rw [take_append_of_le_length hle, length_append]
  exact ⟨Nat.le_add_right_of_le hle, hlimit⟩

theorem known_noteFrame (h : HeldConnectionIds l) :
    ∀ held ∈ l.peerConnectionIds, held.sequence = 0 ∨
      ∃ note ∈ (l.noteNewConnectionIdFrame frame).history.newConnectionIdFrames, note.IsWellFormed ∧
        note.frame.sequenceNumber = held.sequence :=
  fun held hheld => (h.known held hheld).imp_right
    fun ⟨note, hnote, hrest⟩ => ⟨note, mem_append_left _ hnote, hrest⟩

theorem noteFrame (h : HeldConnectionIds l)
    (hlow : frame.retirePriorTo ≤ frame.sequenceNumber →
      frame.retirePriorTo ≤ l.peerRetirePriorTo) :
    HeldConnectionIds (l.noteNewConnectionIdFrame frame) where
  threshold := by
    simp only [noteNewConnectionIdFrame]
    rw [largestRetirePriorTo_append, h.threshold]
    split
    · next hformed => exact Nat.max_eq_left (hlow hformed)
    · rfl
  inForce := h.inForce
  retired := h.retired
  known := h.known_noteFrame
  distinct := h.distinct
  limitErrors := h.limitErrors_noteFrame

theorem retire (h : HeldConnectionIds l) (hformed : frame.retirePriorTo ≤ frame.sequenceNumber)
    (hmore : l.peerRetirePriorTo < frame.retirePriorTo) :
    HeldConnectionIds ((l.noteNewConnectionIdFrame
      frame).retirePeerConnectionIdsBelow frame.retirePriorTo) where
  threshold := by
    simp only [noteNewConnectionIdFrame, retirePeerConnectionIdsBelow]
    rw [largestRetirePriorTo_append, h.threshold]
    split
    · exact Nat.max_eq_right (Nat.le_of_lt hmore)
    · next hmalformed => exact absurd hformed hmalformed
  inForce := fun held hheld =>
    of_decide_eq_true (mem_filter.mp hheld).2
  retired := fun sequence hsequence => by
    rcases mem_append.mp hsequence with hsequence | hsequence
    · exact Nat.lt_trans (h.retired sequence hsequence) hmore
    · obtain ⟨held, hheld, rfl⟩ := mem_map.mp hsequence
      exact of_decide_eq_true (mem_filter.mp hheld).2
  known := fun held hheld =>
    h.known_noteFrame held (mem_of_mem_filter hheld)
  distinct := h.distinct.sublist (filter_sublist.map _)
  limitErrors := h.limitErrors_noteFrame

theorem hold (h : HeldConnectionIds l) (hsequence : l.peerRetirePriorTo ≤ frame.sequenceNumber)
    (hnew : ∀ held ∈ l.peerConnectionIds, held.sequence ≠ frame.sequenceNumber)
    (hknown : ∃ note ∈ l.history.newConnectionIdFrames, note.IsWellFormed ∧
      note.frame.sequenceNumber = frame.sequenceNumber) :
    HeldConnectionIds (l.holdPeerConnectionId frame) where
  threshold := h.threshold
  inForce := fun held hheld => by
    rcases mem_append.mp hheld with hheld | hheld
    · exact h.inForce held hheld
    · rw [mem_singleton.mp hheld]
      exact hsequence
  retired := h.retired
  known := fun held hheld => by
    rcases mem_append.mp hheld with hheld | hheld
    · exact h.known held hheld
    · rw [mem_singleton.mp hheld]
      exact .inr hknown
  distinct := by
    simp only [holdPeerConnectionId]
    rw [map_append, nodup_append]
    refine ⟨h.distinct, nodup_singleton _, fun a ha b hb => ?_⟩
    obtain ⟨held, hheld, rfl⟩ := mem_map.mp ha
    rw [map_singleton, mem_singleton] at hb
    exact hb ▸ hnew held hheld
  limitErrors := h.limitErrors

theorem ensureActive (h : HeldConnectionIds l) (hsome : l.peerConnectionIds ≠ []) :
    ConnectionIdBooks l.ensureActiveIsHeld := by
  unfold ensureActiveIsHeld
  split
  · next hany =>
    obtain ⟨held, hheld, hid⟩ := any_eq_true.mp hany
    exact ⟨h, fun _ => ⟨held, hheld, by simpa using hid⟩⟩
  cases hlowest : QuicConnectionCore.lowestHeld l.peerConnectionIds with
  | none =>
    have hheld := lowestHeld_isSome hsome
    rw [hlowest] at hheld
    cases hheld
  | some lowest =>
    exact
      { threshold := h.threshold
        inForce := h.inForce
        retired := h.retired
        known := h.known
        distinct := h.distinct
        limitErrors := h.limitErrors
        inUse := fun _ => ⟨lowest, lowestHeld_mem hlowest, rfl⟩ }

theorem length_le_active (h : HeldConnectionIds l) : l.peerConnectionIds.length ≤
      (activeSequences l.history.newConnectionIdFrames).card := by
  have hsub : (l.peerConnectionIds.map (·.sequence)).toFinset ⊆
      activeSequences l.history.newConnectionIdFrames := by
    intro sequence hsequence
    obtain ⟨held, hheld, rfl⟩ := mem_map.mp (mem_toFinset.mp hsequence)
    exact mem_activeSequences.mpr ⟨h.known held hheld, h.threshold ▸ h.inForce held hheld⟩
  have hcard := Finset.card_le_card hsub
  rwa [toFinset_card_of_nodup h.distinct, length_map] at hcard

end HeldConnectionIds

namespace ConnectionIdBooks

variable {l l' : QuicConnectionLedgers} {frame : QuicNewConnectionIdFrame}

theorem congr (h : ConnectionIdBooks l) (hsame : SameConnectionIds l l') :
    ConnectionIdBooks l' where
  threshold := by rw [hsame.frames, hsame.threshold, h.threshold]
  inForce := by rw [hsame.held, hsame.threshold]; exact h.inForce
  retired := by rw [hsame.retired, hsame.threshold]; exact h.retired
  inUse := by
    rw [hsame.held, hsame.threshold, hsame.inUse]
    exact h.inUse
  known := by rw [hsame.held, hsame.frames]; exact h.known
  distinct := by rw [hsame.held]; exact h.distinct
  limitErrors := by
    rw [hsame.errors, hsame.frames, hsame.parameters]
    exact h.limitErrors

theorem adopt (h : ConnectionIdBooks l) (hformed : frame.retirePriorTo ≤ frame.sequenceNumber)
    (hnew : ∀ held ∈ l.peerConnectionIds,
      held.sequence ≠ frame.sequenceNumber ∧ held.id ≠ frame.connectionId)
    (hsequence : l.peerRetirePriorTo ≤ frame.sequenceNumber) :
    ConnectionIdBooks ((l.noteNewConnectionIdFrame frame).adoptNewConnectionId frame) := by
  have hnoted : ∃ note ∈ (l.noteNewConnectionIdFrame
      frame).history.newConnectionIdFrames, note.IsWellFormed ∧
        note.frame.sequenceNumber = frame.sequenceNumber :=
    ⟨_, mem_append_right _ mem_cons_self, hformed, rfl⟩
  have hsome : ∀ l : QuicConnectionLedgers, (l.holdPeerConnectionId frame).peerConnectionIds ≠ [] :=
    fun l => by simp [holdPeerConnectionId]
  unfold adoptNewConnectionId
  split
  · next hmore =>
    refine HeldConnectionIds.ensureActive ?_ (hsome _)
    refine (h.toHeldConnectionIds.retire hformed hmore).hold hformed (fun held hheld => ?_) hnoted
    exact (hnew held (mem_of_mem_filter hheld)).1
  rename_i hless
  refine HeldConnectionIds.ensureActive ?_ (hsome _)
  refine (h.toHeldConnectionIds.noteFrame fun _ =>
    Nat.le_of_not_lt hless).hold hsequence (fun held hheld => (hnew held hheld).1) hnoted

theorem follow (h : ConnectionIdBooks l) (hzero : l.peerRetirePriorTo = 0) (connectionId : Bytes) :
    ConnectionIdBooks (l.followPeerConnectionId connectionId) where
  threshold := h.threshold
  inForce := fun held _ => by
    show l.peerRetirePriorTo ≤ _
    rw [hzero]
    exact Nat.zero_le _
  retired := h.retired
  inUse := fun hne => absurd hzero hne
  known := fun held hheld => by
    rw [mem_singleton.mp hheld]
    exact .inl rfl
  distinct := nodup_singleton _
  limitErrors := h.limitErrors

theorem startOver (h : ConnectionIdBooks l) (hzero : l.peerRetirePriorTo = 0)
    (connectionId : Bytes) : ConnectionIdBooks (l.startOver connectionId) where
  threshold := h.threshold
  inForce := h.inForce
  retired := h.retired
  inUse := fun hne => absurd hzero hne
  known := h.known
  distinct := h.distinct
  limitErrors := h.limitErrors

theorem noteToken (h : ConnectionIdBooks l) (token : QuicStatelessResetToken) :
    ConnectionIdBooks { l with
      peerConnectionIds := QuicConnectionCore.notePeerHandshakeStatelessResetToken token
          l.peerConnectionIds } := by
  have hsame : ∀ held, held ∈ QuicConnectionCore.notePeerHandshakeStatelessResetToken token
        l.peerConnectionIds → ∃ old ∈ l.peerConnectionIds,
          (old.sequence, old.id) = (held.sequence, held.id) := by
    intro held hheld
    have hmap := notePeerHandshakeStatelessResetToken_map
      (f := fun held => (held.sequence, held.id)) (fun _ _ => rfl) token
      l.peerConnectionIds
    exact mem_map.mp (hmap ▸ mem_map_of_mem hheld)
  refine ⟨⟨h.threshold, fun held hheld => ?_, h.retired, fun held hheld => ?_,
    ?_, h.limitErrors⟩, fun hne => ?_⟩
  · obtain ⟨old, hold, heq⟩ := hsame held hheld
    injection heq with hsequence hid
    exact hsequence ▸ h.inForce old hold
  · obtain ⟨old, hold, heq⟩ := hsame held hheld
    injection heq with hsequence hid
    exact hsequence ▸ h.known old hold
  · rw [notePeerHandshakeStatelessResetToken_map fun _ _ => rfl]
    exact h.distinct
  · obtain ⟨held, hheld, hid⟩ := h.inUse hne
    have hmap := notePeerHandshakeStatelessResetToken_map
      (f := fun held => held.id) (fun _ _ => rfl) token l.peerConnectionIds
    have hmem := mem_map_of_mem (f := fun held => held.id) hheld
    rw [← hmap, hid] at hmem
    exact mem_map.mp hmem

theorem limitError (h : ConnectionIdBooks l)
    (hover : l.peerConnectionIds.length > l.localParameters.activeConnectionIdLimit) :
    ConnectionIdBooks l.noteConnectionIdLimitError where
  threshold := h.threshold
  inForce := h.inForce
  retired := h.retired
  inUse := h.inUse
  known := h.known
  distinct := h.distinct
  limitErrors := fun count hcount => by
    rcases mem_append.mp hcount with hcount | hcount
    · exact h.limitErrors count hcount
    rw [mem_singleton.mp hcount]
    refine ⟨Nat.le_refl _, ?_⟩
    simp only [noteConnectionIdLimitError]
    rw [take_length]
    exact Nat.lt_of_lt_of_le hover h.length_le_active

theorem adoptNewConnectionId_frames (l : QuicConnectionLedgers) (frame : QuicNewConnectionIdFrame) :
    (l.adoptNewConnectionId frame).history.newConnectionIdFrames = l.history.newConnectionIdFrames ∧
      (l.adoptNewConnectionId frame).history.adoptionThresholds =
        l.history.adoptionThresholds := by
  unfold adoptNewConnectionId ensureActiveIsHeld
  simp only
  constructor
  all_goals
    repeat' split
    all_goals rfl

theorem step {throws : Bool} (h : l.history.HasOrderlyConnectionIds → ConnectionIdBooks l)
    (hstep : LedgerStep throws l l') :
    l'.history.HasOrderlyConnectionIds → ConnectionIdBooks l' := by
  intro horderly
  have hbefore : l.history.newConnectionIdFrames ⊆ l'.history.newConnectionIdFrames →
      l.history.adoptionThresholds ⊆ l'.history.adoptionThresholds →
      ConnectionIdBooks l := fun hframes hadoptions =>
    h ⟨fun note hnote => horderly.frames note (hframes hnote),
      fun threshold hmem => horderly.adoptions threshold (hadoptions hmem)⟩
  have hquiet : SameConnectionIds l l' → ConnectionIdBooks l' :=
    fun hsame => (hbefore (hsame.frames ▸ List.Subset.refl _)
      (hsame.adoptions ▸ List.Subset.refl _)).congr hsame
  cases hstep with
  | receive | markPath | movePath | validateAddress | elicit | acknowledge
    | send | takeFragment | requeue | discard | writeCrypto =>
      exact hquiet ⟨rfl, rfl, rfl, rfl, rfl, rfl, rfl, rfl⟩
  | arrive space packetNumber =>
    refine hquiet ?_
    unfold arrive
    simp only
    split <;> exact ⟨rfl, rfl, rfl, rfl, rfl, rfl, rfl, rfl⟩
  | resolve space acknowledged lost hheld =>
    refine hquiet ?_
    unfold resolve
    split <;> exact ⟨rfl, rfl, rfl, rfl, rfl, rfl, rfl, rfl⟩
  | startOver peerConnectionId hclient =>
    refine ConnectionIdBooks.startOver (hbefore (List.Subset.refl _) (subset_append_left _ _)) ?_ _
    exact horderly.adoptions _ (mem_append_right _ mem_cons_self)
  | followConnectionId connectionId hclient =>
    refine ConnectionIdBooks.follow (hbefore (List.Subset.refl _) (subset_append_left _ _)) ?_ _
    exact horderly.adoptions _ (mem_append_right _ mem_cons_self)
  | noteConnectionIdFrame frame hrepeated =>
    have hbooks := hbefore (subset_append_left _ _) (List.Subset.refl _)
    have hnote := horderly.frames _ (mem_append_right _ mem_cons_self)
    refine ⟨hbooks.toHeldConnectionIds.noteFrame fun hformed => ?_, hbooks.inUse⟩
    rcases hnote hformed with ⟨-, hlow⟩ | ⟨hnew, -⟩
    · exact hlow
    · exact absurd (hrepeated hformed) hnew
  | adoptConnectionId frame hformed hnew =>
    have hframes := adoptNewConnectionId_frames (l.noteNewConnectionIdFrame frame) frame
    have hbooks := hbefore (hframes.1 ▸ subset_append_left _ _) (hframes.2 ▸ List.Subset.refl _)
    have hnoted : NewConnectionIdNote.mk frame l.peerRetirePriorTo
        l.peerConnectionIds ∈ ((l.noteNewConnectionIdFrame
          frame).adoptNewConnectionId frame).history.newConnectionIdFrames := by
      rw [hframes.1]
      exact mem_append_right _ mem_cons_self
    have hnote := horderly.frames _ hnoted
    refine hbooks.adopt hformed hnew ?_
    rcases hnote hformed with ⟨hrepeated, -⟩ | ⟨-, hsequence⟩
    · obtain ⟨held, hheld, heq⟩ := hrepeated
      exact absurd heq (not_or_intro (hnew held hheld).1 (hnew held hheld).2)
    · exact hsequence
  | limitError hover =>
    exact (hbefore (List.Subset.refl _) (List.Subset.refl _)).limitError hover
  | noteToken token =>
    exact (hbefore (List.Subset.refl _) (List.Subset.refl _)).noteToken token

end ConnectionIdBooks

/-! ## Over runs -/

namespace QuicConnectionCore

variable {environment : QuicEnvironment}
  {configuration : QuicConnectionCoreConfiguration}
  {core : QuicConnectionCore}

theorem ConnectionIdBooks.start (environment : QuicEnvironment)
    (configuration : QuicConnectionCoreConfiguration) :
    ConnectionIdBooks (start environment configuration).ledgers := by
  rw [ledgers_start]
  refine ⟨⟨rfl, fun _ _ => Nat.zero_le _, by simp [startLedgers],
    fun held hheld => .inl ?_, ?_, by simp [startLedgers]⟩,
    fun hne => absurd rfl hne⟩
  · unfold startLedgers at hheld
    simp only at hheld
    split at hheld
    · rw [mem_singleton.mp hheld]
    · cases hheld
  · unfold startLedgers
    simp only
    split <;> simp

/-- What is claimed of the peer's connection IDs, in one state. -/
structure HasConnectionIdDiscipline (core : QuicConnectionCore) : Prop where
  inForce : ∀ held ∈ core.peerConnectionIds,
    largestRetirePriorTo core.history.newConnectionIdFrames ≤ held.sequence
  notHeldAgain : ∀ held ∈ core.peerConnectionIds, held.sequence ∉ core.history.retiredSequences
  notUsedAgain : core.history.retiredSequences ≠ [] → ∃ held ∈ core.peerConnectionIds,
      held.id = core.configuration.peerConnectionId
  noLimitError : (∀ count ≤ core.history.newConnectionIdFrames.length,
      (activeSequences (core.history.newConnectionIdFrames.take count)).card ≤
        core.configuration.transportParameters.activeConnectionIdLimit) →
    core.history.connectionIdLimitErrors = []

/-- Orderly frames are met with discipline. -/
theorem Reachable.connection_id_discipline (h : Reachable environment configuration core)
    (horderly : core.history.HasOrderlyConnectionIds) :
    core.HasConnectionIdDiscipline := by
  have hbooks : ConnectionIdBooks core.ledgers := h.books_invariant
      (P := fun l => l.history.HasOrderlyConnectionIds → ConnectionIdBooks l)
      (fun _ => ConnectionIdBooks.start environment configuration)
      (fun _ _ hl hstep => ConnectionIdBooks.step hl hstep) horderly
  refine ⟨fun held hheld => ?_, fun held hheld hmem => ?_, fun hretired => ?_, fun hwithin => ?_⟩
  · exact hbooks.threshold ▸ hbooks.inForce held hheld
  · exact absurd (hbooks.inForce held hheld) (Nat.not_le_of_lt (hbooks.retired _ hmem))
  · obtain ⟨sequence, hsequence⟩ := exists_mem_of_ne_nil _ hretired
    have hlt := hbooks.retired sequence hsequence
    exact hbooks.inUse (Nat.ne_of_gt (Nat.lt_of_le_of_lt (Nat.zero_le _) hlt))
  · refine eq_nil_iff_forall_not_mem.mpr fun count hcount => ?_
    obtain ⟨hle, hover⟩ := hbooks.limitErrors count hcount
    exact absurd (hwithin count hle) (Nat.not_le_of_lt hover)

/-- A server with its keys that receives these frames, a packet each. -/
def connectionIdEvents (frames : List QuicNewConnectionIdFrame) : List QuicConnectionEvent :=
  .driven (plainReport []) 4 0 :: frames.mapIdx fun position frame =>
    .datagramReceived
      (plainDatagram 100 [plainPacket .application [1] [2] position 1
        [.newConnectionId frame]]) 0 none kUnspecifiedQuicPathKey

def connectionIdCore (frames : List QuicNewConnectionIdFrame) :
    QuicConnectionCore :=
  (connectionIdEvents frames).foldl (apply plainEnvironment)
    (start plainEnvironment { role := .server, localConnectionId := [1], peerConnectionId := [2] })

theorem connectionIdCore_reachable (frames : List QuicNewConnectionIdFrame) :
    Reachable plainEnvironment
      { role := .server, localConnectionId := [1], peerConnectionId := [2] }
      (connectionIdCore frames) := by
  refine Reach.run .start _ ?_
  generalize start plainEnvironment _ = core
  induction connectionIdEvents frames generalizing core with
  | nil => trivial
  | cons event rest ih => exact ⟨trivial, ih _⟩

def connectionIdFrame (sequenceNumber retirePriorTo : Nat) : QuicNewConnectionIdFrame where
  sequenceNumber := sequenceNumber
  retirePriorTo := retirePriorTo
  connectionId := [10, UInt8.ofNat sequenceNumber]
  statelessResetToken := replicate 16 0

/-- The second ID retires the first and the frame of the first comes
again: the first is held again, though it was retired. -/
theorem retired_connection_id_held_again :
    let core := connectionIdCore [connectionIdFrame 1 0, connectionIdFrame 2 2,
      connectionIdFrame 1 0]
    Reachable plainEnvironment
      { role := .server, localConnectionId := [1], peerConnectionId := [2] }
      core ∧ ¬ core.HasConnectionIdDiscipline := by
  refine ⟨connectionIdCore_reachable _, fun hdiscipline => ?_⟩
  have hagain : ∃ held ∈ (connectionIdCore [connectionIdFrame 1 0,
      connectionIdFrame 2 2, connectionIdFrame 1 0]).peerConnectionIds,
      held.sequence ∈ (connectionIdCore [connectionIdFrame 1 0, connectionIdFrame 2 2,
        connectionIdFrame 1 0]).history.retiredSequences := by
    decide +kernel
  obtain ⟨held, hheld, hretired⟩ := hagain
  exact hdiscipline.notHeldAgain held hheld hretired

theorem Reachable.connection_id_discipline_in_order :
    (connectionIdCore [connectionIdFrame 1 0, connectionIdFrame 2 2]).HasConnectionIdDiscipline :=
  Reachable.connection_id_discipline (connectionIdCore_reachable _)
    ⟨by decide +kernel, by decide +kernel⟩

end QuicConnectionCore

end AsynGyanis.Quic
