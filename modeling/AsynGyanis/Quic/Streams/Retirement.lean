import AsynGyanis.Quic.Streams.Run

/-!
# The memory of retired streams

A side of a stream whose record was dropped must stay recognisable, or a
late frame would open the stream a second time. Both memories, the peer
boundaries and the local boundary with its gaps, are therefore only ever
added to, and whatever is retired is remembered from then on
(`isStreamSideRetired_note`, `isStreamSideRetired_mono`). That much is
right for both; what the peer boundary gets wrong is the converse, and no
lemma here claims it.
-/

namespace AsynGyanis.Quic

open Library PerFlag

namespace QuicStreamLayer

/-- The layer takes this side of the stream for retired. -/
def isStreamSideRetired (layer : QuicStreamLayer) (streamId : Nat) (isReceiveSide : Bool) : Bool :=
  layer.isPeerStreamSideRetired streamId isReceiveSide ||
    layer.isLocalBidiStreamSideRetired streamId isReceiveSide

/-- Two layers that remember the same of one side of the streams. -/
structure RemembersAlike (isReceiveSide : Bool) (a b : QuicStreamLayer) :
    Prop where
  isLocalServer : b.isLocalServer = a.isLocalServer
  boundaries : b.retiredPeerStreamBoundaries.get isReceiveSide =
    a.retiredPeerStreamBoundaries.get isReceiveSide
  localBoundary : b.retiredLocalBidiBoundaries.get isReceiveSide =
    a.retiredLocalBidiBoundaries.get isReceiveSide
  localGaps : b.retiredLocalBidiGaps.get isReceiveSide = a.retiredLocalBidiGaps.get isReceiveSide

namespace RemembersAlike

variable {a b c : QuicStreamLayer} {side : Bool}

theorem refl (a : QuicStreamLayer) : RemembersAlike side a a := ⟨rfl, rfl, rfl, rfl⟩

theorem trans (hab : RemembersAlike side a b) (hbc : RemembersAlike side b c) :
    RemembersAlike side a c :=
  ⟨hbc.1.trans hab.1, hbc.2.trans hab.2, hbc.3.trans hab.3, hbc.4.trans hab.4⟩

theorem isLocallyInitiated (h : RemembersAlike side a b) (streamId : Nat) :
    b.isLocallyInitiated streamId = a.isLocallyInitiated streamId := by
  unfold QuicStreamLayer.isLocallyInitiated
  rw [h.isLocalServer]

theorem isPeerStreamSideRetired (h : RemembersAlike side a b)
    (streamId : Nat) : b.isPeerStreamSideRetired streamId side =
      a.isPeerStreamSideRetired streamId side := by
  unfold QuicStreamLayer.isPeerStreamSideRetired
  rw [h.isLocallyInitiated, h.boundaries]

theorem isLocalBidiStreamSideRetired (h : RemembersAlike side a b)
    (streamId : Nat) : b.isLocalBidiStreamSideRetired streamId side =
      a.isLocalBidiStreamSideRetired streamId side := by
  unfold QuicStreamLayer.isLocalBidiStreamSideRetired
  rw [h.isLocallyInitiated, h.localBoundary, h.localGaps]

theorem isStreamSideRetired (h : RemembersAlike side a b) (streamId : Nat) :
    b.isStreamSideRetired streamId side = a.isStreamSideRetired streamId side := by
  unfold QuicStreamLayer.isStreamSideRetired
  rw [h.isPeerStreamSideRetired, h.isLocalBidiStreamSideRetired]

end RemembersAlike

variable (layer : QuicStreamLayer) (streamId : Nat)

theorem isStreamSideRetired_of_peer {layer : QuicStreamLayer}
    {streamId : Nat} (h : layer.isLocallyInitiated streamId = false)
    (side : Bool) : layer.isStreamSideRetired streamId side =
      layer.isPeerStreamSideRetired streamId side := by
  simp [isStreamSideRetired, isLocalBidiStreamSideRetired, h]

/-! ## The peer boundaries -/

theorem noteStreamRetired_boundary (noted side direction : Bool) :
    (layer.retiredPeerStreamBoundaries.get side).get direction ≤
      ((layer.noteStreamRetired streamId noted).retiredPeerStreamBoundaries.get
        side).get direction := by
  simp only [noteStreamRetired]
  by_cases hside : side = noted
  · subst hside
    rw [get_set_self]
    by_cases hdir : direction = isUnidirectional streamId
    · rw [hdir, get_set_self]
      exact Nat.le_max_left _ _
    · rw [get_set_of_ne _ _ hdir]
  · rw [get_set_of_ne _ _ hside]

theorem isPeerStreamSideRetired_note {layer : QuicStreamLayer} {streamId : Nat} (side : Bool)
    (h : layer.isLocallyInitiated streamId = false) :
    (layer.noteStreamRetired streamId side).isPeerStreamSideRetired streamId side := by
  have hpeer : (layer.noteStreamRetired streamId side).isLocallyInitiated streamId = false := h
  unfold isPeerStreamSideRetired
  rw [hpeer, if_neg Bool.false_ne_true, decide_eq_true_eq]
  simp only [noteStreamRetired, get_set_self]
  omega

/-! ## The local boundary and its gaps -/

theorem absorbGaps_keeps (fuel boundary k : Nat) (gaps : List Nat) (h : k < boundary ∨ k ∈ gaps) :
    k < (absorbGaps fuel boundary gaps).1 ∨ k ∈ (absorbGaps fuel boundary gaps).2 := by
  induction fuel generalizing boundary gaps with
  | zero => exact h
  | succ fuel ih =>
    rw [absorbGaps]
    split
    · refine ih _ _ ?_
      by_cases hk : k = boundary
      · exact .inl (by omega)
      rcases h with h | h
      · exact .inl (by omega)
      · exact .inr ((List.mem_erase_of_ne hk).mpr h)
    · exact h

theorem isLocalBidiStreamSideRetired_iff {layer : QuicStreamLayer} {streamId : Nat} {side : Bool} :
    layer.isLocalBidiStreamSideRetired streamId side ↔ layer.isLocallyInitiated streamId ∧
      isUnidirectional streamId = false ∧
      (streamIndexOfType streamId < layer.retiredLocalBidiBoundaries.get side ∨
        streamIndexOfType streamId ∈ layer.retiredLocalBidiGaps.get side) := by
  unfold isLocalBidiStreamSideRetired
  cases layer.isLocallyInitiated streamId <;>
    cases isUnidirectional streamId <;> simp

theorem noteLocalBidiStreamRetired_keeps (streamId k : Nat) (noted side : Bool)
    (h : k < layer.retiredLocalBidiBoundaries.get side ∨ k ∈ layer.retiredLocalBidiGaps.get side ∨
      (side = noted ∧ k = streamIndexOfType streamId)) :
    k < (layer.noteLocalBidiStreamRetired streamId noted).retiredLocalBidiBoundaries.get side ∨
      k ∈ (layer.noteLocalBidiStreamRetired streamId noted).retiredLocalBidiGaps.get side := by
  simp only [noteLocalBidiStreamRetired]
  by_cases hside : side = noted
  · subst hside
    rw [get_set_self, get_set_self]
    refine absorbGaps_keeps _ _ _ _ ?_
    rcases h with h | h | h
    · exact .inl h
    · exact .inr (List.mem_insert_of_mem h)
    · exact .inr (h.2 ▸ List.mem_insert_self)
  · rw [get_set_of_ne _ _ hside, get_set_of_ne _ _ hside]
    rcases h with h | h | h
    · exact .inl h
    · exact .inr h
    · exact absurd h.1 hside

/-! ## Both together -/

/-- Dropping a record is noted where its stream is looked for. -/
def noteRetired (layer : QuicStreamLayer) (streamId : Nat)
    (isReceiveSide : Bool) : QuicStreamLayer :=
  if layer.isLocallyInitiated streamId then
    layer.noteLocalBidiStreamRetired streamId isReceiveSide
  else layer.noteStreamRetired streamId isReceiveSide

theorem isStreamSideRetired_note {layer : QuicStreamLayer} {streamId : Nat} (side : Bool)
    (h : layer.isLocallyInitiated streamId → isUnidirectional streamId = false) :
    (layer.noteRetired streamId side).isStreamSideRetired streamId side =
      true := by
  unfold noteRetired isStreamSideRetired
  rw [Bool.or_eq_true]
  split
  · next hlocal =>
    refine .inr (isLocalBidiStreamSideRetired_iff.mpr ⟨hlocal, h hlocal, ?_⟩)
    exact noteLocalBidiStreamRetired_keeps layer streamId _ side side (.inr (.inr ⟨rfl, rfl⟩))
  · next hpeer =>
    exact .inl (isPeerStreamSideRetired_note side (by simpa using hpeer))

theorem isStreamSideRetired_mono (noted : Bool) {k : Nat} {side : Bool}
    (h : layer.isStreamSideRetired k side) :
    (layer.noteRetired streamId noted).isStreamSideRetired k side := by
  unfold isStreamSideRetired at h ⊢
  rw [Bool.or_eq_true] at h ⊢
  unfold noteRetired
  split
  · rcases h with h | h
    · exact .inl h
    obtain ⟨h1, h2, h3⟩ := isLocalBidiStreamSideRetired_iff.mp h
    refine .inr (isLocalBidiStreamSideRetired_iff.mpr ⟨h1, h2, ?_⟩)
    exact noteLocalBidiStreamRetired_keeps layer streamId _ noted side (h3.imp_right .inl)
  rcases h with h | h
  · refine .inl ?_
    have hlocal : (layer.noteStreamRetired streamId
        noted).isLocallyInitiated k = layer.isLocallyInitiated k := rfl
    unfold isPeerStreamSideRetired at h ⊢
    rw [hlocal]
    split at h
    · cases h
    rename_i hpeer
    rw [if_neg hpeer]
    rw [decide_eq_true_eq] at h ⊢
    exact Nat.lt_of_lt_of_le h (noteStreamRetired_boundary layer streamId noted side _)
  · exact .inr h

theorem RemembersAlike.noteRetired_other (noted side : Bool) (h : side ≠ noted) :
    RemembersAlike side layer (layer.noteRetired streamId noted) := by
  unfold noteRetired
  split
  · exact ⟨rfl, rfl, get_set_of_ne _ _ h, get_set_of_ne _ _ h⟩
  · exact ⟨rfl, get_set_of_ne _ _ h, rfl, rfl⟩

/-- A boundary is raised past a stream only by a stream of the same type
that is at or above it. -/
theorem isPeerStreamSideRetired_note_above {layer : QuicStreamLayer}
    {streamId noted : Nat} {side : Bool}
    (habove : layer.isPeerStreamSideRetired streamId side = false)
    (hbelow : layer.isLocallyInitiated noted = false →
      isUnidirectional noted = isUnidirectional streamId →
      streamIndexOfType noted < streamIndexOfType streamId) :
    (layer.noteRetired noted side).isPeerStreamSideRetired streamId side =
      false := by
  unfold noteRetired
  split
  · exact habove
  rename_i hpeer
  have hlocal : (layer.noteStreamRetired noted side).isLocallyInitiated
      streamId = layer.isLocallyInitiated streamId := rfl
  unfold isPeerStreamSideRetired at habove ⊢
  rw [hlocal]
  split
  · rfl
  next hstream =>
  rw [if_neg hstream, decide_eq_false_iff_not] at habove
  rw [decide_eq_false_iff_not]
  simp only [noteStreamRetired, get_set_self]
  by_cases hdir : isUnidirectional noted = isUnidirectional streamId
  · rw [hdir, get_set_self]
    have hindex := hbelow (by simpa using hpeer) hdir
    omega
  · rw [get_set_of_ne _ _ (Ne.symm hdir)]
    exact habove

/-- One round of the first loop of `retireSettledStreams`: nothing, or one
settled record is dropped and noted. -/
theorem retireIncoming_cases : layer.retireIncoming streamId = layer ∨
    ∃ stream, layer.incoming.find? streamId = some stream ∧ isIncomingSettled stream ∧
      (layer.isLocallyInitiated streamId → isUnidirectional streamId = false) ∧
      layer.retireIncoming streamId =
        { layer.noteRetired streamId true with
          incoming := layer.incoming.erase streamId } := by
  unfold retireIncoming
  cases hfind : layer.incoming.find? streamId with
  | none => exact .inl rfl
  | some stream =>
    dsimp only
    cases hsettled : isIncomingSettled stream with
    | false => exact .inl rfl
    | true =>
      cases hlocal : layer.isLocallyInitiated streamId with
      | false =>
        refine .inr ⟨stream, rfl, hsettled, by simp, ?_⟩
        simp only [noteRetired, hlocal]
        rfl
      | true =>
        cases hdir : isUnidirectional streamId with
        | true => exact .inl rfl
        | false =>
          refine .inr ⟨stream, rfl, hsettled, fun _ => rfl, ?_⟩
          simp only [noteRetired, hlocal]
          rfl

theorem retireOutgoing_cases : layer.retireOutgoing streamId = layer ∨
    ∃ stream, layer.outgoing.find? streamId = some stream ∧ isOutgoingSettled stream ∧
      (layer.isLocallyInitiated streamId → isUnidirectional streamId = false) ∧
      layer.retireOutgoing streamId =
        { layer.noteRetired streamId false with
          outgoing := layer.outgoing.erase streamId } := by
  unfold retireOutgoing
  cases hfind : layer.outgoing.find? streamId with
  | none => exact .inl rfl
  | some stream =>
    dsimp only
    cases hsettled : isOutgoingSettled stream with
    | false => exact .inl rfl
    | true =>
      cases hlocal : layer.isLocallyInitiated streamId with
      | false =>
        refine .inr ⟨stream, rfl, hsettled, by simp, ?_⟩
        simp only [noteRetired, hlocal]
        rfl
      | true =>
        cases hdir : isUnidirectional streamId with
        | true => exact .inl rfl
        | false =>
          refine .inr ⟨stream, rfl, hsettled, fun _ => rfl, ?_⟩
          simp only [noteRetired, hlocal]
          rfl

end QuicStreamLayer

end AsynGyanis.Quic
