import AsynGyanis.Quic.Connection.FlightBooks

/-!
# Handshake bytes

TLS writes handshake bytes to the stream of a space, and from then on each
of them has to be somewhere: not yet sent, on its way in a packet nobody has
answered for, waiting to be sent again, or acknowledged. `SpaceLedger.Holds`
is the first three, `CryptoBooks` the whole, and it is kept by every entry
a call that ends well can make.

What moves bytes around is the taking of a fragment, which cuts a range in
two or advances the write offset, and the requeueing, which merges ranges;
each gets a lemma about single bytes, and nothing else about ranges is
needed.
-/

namespace AsynGyanis.Quic

open Library List QuicConnectionLedgers

/-! ## Single bytes -/

def QuicCryptoRange.Covers (range : QuicCryptoRange) (x : Nat) : Prop :=
  range.beginOffset ≤ x ∧ x < range.endOffset

/-- The packet carries the byte at this offset of its space's stream. -/
def QuicSentPacketInfo.Carries (packet : QuicSentPacketInfo) (x : Nat) :
    Prop :=
  ∃ range, packet.cryptoRange = some range ∧ range.Covers x

variable {x : Nat} {state : SpaceLedger}

namespace SpaceLedger

/-- The byte is still in the hands of the sender. -/
def Holds (state : SpaceLedger) (x : Nat) : Prop := state.cryptoWriteOffset ≤ x ∨
    (∃ range ∈ state.pendingRetransmissions, range.Covers x) ∨
    ∃ packet ∈ state.unacknowledged.values, packet.Carries x

theorem holds_takeFragment (state : SpaceLedger) (byteBudget : Nat) (h : state.Holds x) :
    (state.takeFragment byteBudget).1.Holds x ∨
      ∃ range, (state.takeFragment byteBudget).2 = some range ∧ range.Covers x := by
  have hheld := (takeFragment_books state byteBudget).2.2.2.2
  unfold Holds at h ⊢
  rw [hheld]
  rcases h with hwrite | hqueued | hcarried
  · unfold takeFragment
    split
    · exact .inl (.inl hwrite)
    simp only
    split
    · by_cases hx : x < state.cryptoWriteOffset +
          min (state.cryptoStream.length - state.cryptoWriteOffset) byteBudget
      · exact .inr ⟨_, rfl, hwrite, hx⟩
      · exact .inl (.inl (Nat.le_of_not_lt hx))
    · exact .inl (.inl hwrite)
  · obtain ⟨range, hmem, hbegin, hend⟩ := hqueued
    unfold takeFragment
    split
    · next queuedRange rest hpending =>
      rw [hpending] at hmem
      simp only
      rcases mem_cons.mp hmem with rfl | hmem
      · -- the head of the queue, cut in two
        by_cases hx : x < range.beginOffset + min (range.endOffset - range.beginOffset) byteBudget
        · right
          rw [if_neg (by omega)]
          exact ⟨_, rfl, hbegin, hx⟩
        refine .inl (.inr (.inl ?_))
        rw [if_neg (by omega)]
        exact ⟨_, mem_cons_self, Nat.le_of_not_lt hx, hend⟩
      · refine .inl (.inr (.inl ⟨range, ?_, hbegin, hend⟩))
        split
        · exact hmem
        · exact mem_cons_of_mem _ hmem
    · next hpending =>
      rw [hpending] at hmem
      exact absurd hmem not_mem_nil
  · exact .inl (.inr (.inr hcarried))

theorem Takes.holds {state' : SpaceLedger}
    {range : Option QuicCryptoRange} (h : state.Takes state' range) (hx : state.Holds x) :
    state'.Holds x ∨ ∃ taken, range = some taken ∧ taken.Covers x := by
  cases h with
  | nothing => exact .inl hx
  | fragment byteBudget => exact holds_takeFragment state byteBudget hx

theorem Takes.writeOffset_le {state' : SpaceLedger}
    {range : Option QuicCryptoRange} (h : state.Takes state' range)
    (hle : state.cryptoWriteOffset ≤ state.cryptoStream.length) :
    state'.cryptoWriteOffset ≤ state'.cryptoStream.length := by
  cases h with
  | nothing => exact hle
  | fragment byteBudget =>
    unfold takeFragment
    split
    · exact hle
    simp only
    split
    · dsimp only
      omega
    · exact hle

end SpaceLedger

/-! ## Merging -/

variable {merged : List QuicCryptoRange}

open QuicConnectionCore in
theorem covers_mergeCryptoRange {range : QuicCryptoRange}
    (hbefore : ∀ a ∈ merged, a.beginOffset ≤ range.beginOffset)
    (h : (∃ a ∈ merged, a.Covers x) ∨ range.Covers x) :
    ∃ a ∈ mergeCryptoRange merged range, a.Covers x := by
  unfold mergeCryptoRange
  split
  · next last hlast =>
    obtain ⟨init, rfl⟩ := getLast?_eq_some_iff.mp hlast
    have hlastBefore := hbefore last (by simp)
    rw [dropLast_concat]
    split
    · next htouch =>
      rcases h with ⟨a, ha, hcovers⟩ | hcovers
      · rcases mem_append.mp ha with ha | ha
        · exact ⟨a, mem_append_left _ ha, hcovers⟩
        rw [mem_singleton.mp ha] at hcovers
        refine ⟨_, mem_append_right _ (mem_singleton.mpr rfl), hcovers.1, ?_⟩
        exact Nat.lt_of_lt_of_le hcovers.2 (Nat.le_max_left ..)
      · refine ⟨_, mem_append_right _ (mem_singleton.mpr rfl),
          Nat.le_trans hlastBefore hcovers.1, ?_⟩
        exact Nat.lt_of_lt_of_le hcovers.2 (Nat.le_max_right ..)
    · rcases h with ⟨a, ha, hcovers⟩ | hcovers
      · exact ⟨a, mem_append_left _ ha, hcovers⟩
      · exact ⟨range, by simp, hcovers⟩
  · next hnone =>
    rw [getLast?_eq_none_iff.mp hnone] at h
    rcases h with ⟨a, ha, -⟩ | hcovers
    · exact absurd ha not_mem_nil
    · exact ⟨range, by simp, hcovers⟩

open QuicConnectionCore in
theorem beginOffset_mergeCryptoRange
    {range a : QuicCryptoRange} (h : a ∈ mergeCryptoRange merged range) :
    a.beginOffset = range.beginOffset ∨ ∃ b ∈ merged, a.beginOffset = b.beginOffset := by
  unfold mergeCryptoRange at h
  split at h
  · next last hlast =>
    have hmem := mem_of_getLast? hlast
    split at h
    · rcases mem_append.mp h with h | h
      · exact .inr ⟨a, mem_of_mem_dropLast h, rfl⟩
      · rw [mem_singleton.mp h]
        exact .inr ⟨last, hmem, rfl⟩
    · rcases mem_append.mp h with h | h
      · exact .inr ⟨a, h, rfl⟩
      · exact .inl (by rw [mem_singleton.mp h])
  · exact .inl (by rw [mem_singleton.mp h])

open QuicConnectionCore in
/-- Bytes of sorted ranges are still there when touching ones were made
one. -/
theorem covers_foldl_mergeCryptoRange (ranges : List QuicCryptoRange)
    (hsorted : ranges.Pairwise fun a b => a.beginOffset ≤ b.beginOffset)
    (hbefore : ∀ a ∈ merged, ∀ b ∈ ranges, a.beginOffset ≤ b.beginOffset)
    (h : (∃ a ∈ merged, a.Covers x) ∨ ∃ b ∈ ranges, b.Covers x) :
    ∃ a ∈ ranges.foldl mergeCryptoRange merged, a.Covers x := by
  induction ranges generalizing merged with
  | nil =>
    rcases h with h | ⟨b, hb, -⟩
    · exact h
    · exact absurd hb not_mem_nil
  | cons range rest ih =>
    have hcons := pairwise_cons.mp hsorted
    refine ih hcons.2 (fun a ha b hb => ?_) ?_
    · rcases beginOffset_mergeCryptoRange ha with heq | ⟨c, hc, heq⟩
      · exact heq ▸ hcons.1 b hb
      · exact heq ▸ hbefore c hc b (mem_cons_of_mem _ hb)
    have hstep : ∀ hhere : (∃ a ∈ merged, a.Covers x) ∨ range.Covers x,
        ∃ a ∈ mergeCryptoRange merged range, a.Covers x :=
      covers_mergeCryptoRange fun a ha => hbefore a ha range mem_cons_self
    rcases h with h | ⟨b, hb, hcovers⟩
    · exact .inl (hstep (.inl h))
    rcases mem_cons.mp hb with rfl | hb
    · exact .inl (hstep (.inr hcovers))
    · exact .inr ⟨b, hb, hcovers⟩

theorem covers_mergeCryptoRanges {ranges : List QuicCryptoRange}
    (h : ∃ range ∈ ranges, range.Covers x) :
    ∃ range ∈ QuicConnectionCore.mergeCryptoRanges ranges, range.Covers x := by
  have hsorted := @pairwise_mergeSort _ (fun a b : QuicCryptoRange => a.beginOffset ≤ b.beginOffset)
    (fun a b c hab hbc => by
      simp only [decide_eq_true_eq] at *
      omega)
    (fun a b => by
      simp only [Bool.or_eq_true, decide_eq_true_eq]
      omega) ranges
  obtain ⟨range, hmem, hcovers⟩ := h
  refine covers_foldl_mergeCryptoRange _ (hsorted.imp fun hle => by simpa using hle)
    (fun a ha => absurd ha not_mem_nil)
    (.inr ⟨range, mem_mergeSort.mpr hmem, hcovers⟩)

/-! ## The invariant -/

/-- The byte is held, or a packet that carried it was acknowledged. -/
def QuicConnectionLedgers.Accounted (l : QuicConnectionLedgers)
    (space : PacketNumberSpace) (x : Nat) : Prop :=
  (l.spaces space).Holds x ∨ ∃ note ∈ l.history.resolvedPackets, note.space = space ∧
      note.fate = .acknowledged ∧ note.packet.Carries x

structure CryptoBooks (l : QuicConnectionLedgers) : Prop where
  flight : FlightBooks l
  written : ∀ space, space ∉ l.history.discardedSpaces →
    (l.spaces space).cryptoWriteOffset ≤ (l.spaces space).cryptoStream.length
  kept : ∀ space, space ∉ l.history.discardedSpaces →
    ∀ x < (l.spaces space).cryptoStream.length, l.Accounted space x

namespace CryptoBooks

variable {l l' : QuicConnectionLedgers}

/-- An entry in one space: the others stay as they are, and what was noted
stays noted. -/
theorem advance (h : CryptoBooks l) (hflight : FlightBooks l') (space : PacketNumberSpace)
    (hothers : ∀ other, other ≠ space → l'.spaces other = l.spaces other)
    (hdiscarded : l.history.discardedSpaces ⊆ l'.history.discardedSpaces)
    (hresolved : l.history.resolvedPackets ⊆ l'.history.resolvedPackets)
    (hspace : space ∉ l'.history.discardedSpaces → (l'.spaces space).cryptoWriteOffset ≤
          (l'.spaces space).cryptoStream.length ∧
        ∀ x < (l'.spaces space).cryptoStream.length, l'.Accounted space x) :
    CryptoBooks l' := by
  refine ⟨hflight, fun other hother => ?_, fun other hother x hx => ?_⟩
  · by_cases heq : other = space
    · subst heq
      exact (hspace hother).1
    · rw [hothers other heq]
      exact h.written other fun hmem => hother (hdiscarded hmem)
  by_cases heq : other = space
  · subst heq
    exact (hspace hother).2 x hx
  have hkept := h.kept other (fun hmem => hother (hdiscarded hmem)) x (hothers other heq ▸ hx)
  unfold QuicConnectionLedgers.Accounted at hkept ⊢
  rw [hothers other heq]
  exact hkept.imp_right fun ⟨note, hnote, hrest⟩ =>
    ⟨note, hresolved hnote, hrest⟩

theorem congr (h : CryptoBooks l) (hflight : FlightBooks l') (hspaces : l'.spaces = l.spaces)
    (hdiscarded : l'.history.discardedSpaces = l.history.discardedSpaces)
    (hresolved : l'.history.resolvedPackets = l.history.resolvedPackets) : CryptoBooks l' := by
  refine ⟨hflight, ?_, ?_⟩
  · rw [hspaces, hdiscarded]
    exact h.written
  unfold QuicConnectionLedgers.Accounted
  rw [hspaces, hdiscarded, hresolved]
  exact h.kept

variable {space : PacketNumberSpace}

/-- A space whose part of the stream's books is as it was, and which holds
what it held. -/
theorem setSpace (h : CryptoBooks l) (hflight : FlightBooks (l.setSpace space state))
    (hstream : state.cryptoStream = (l.spaces space).cryptoStream)
    (hwrite : (l.spaces space).cryptoWriteOffset ≤ (l.spaces space).cryptoStream.length →
      state.cryptoWriteOffset ≤ state.cryptoStream.length)
    (hholds : ∀ x, (l.spaces space).Holds x → state.Holds x) :
    CryptoBooks (l.setSpace space state) := by
  refine h.advance hflight space (fun other hne => setSpace_spaces_of_ne state hne)
    (List.Subset.refl _) (List.Subset.refl _) fun hdiscarded => ?_
  unfold QuicConnectionLedgers.Accounted
  rw [setSpace_spaces_self]
  refine ⟨hwrite (h.written space hdiscarded), fun x hx => ?_⟩
  rw [hstream] at hx
  exact (h.kept space hdiscarded x hx).imp_left (hholds x)

theorem requeueRanges (h : CryptoBooks l) (space : PacketNumberSpace)
    (packets : List QuicSentPacketInfo) : CryptoBooks (l.requeueRanges space packets) := by
  refine h.setSpace (h.flight.requeueRanges space packets) rfl id fun x hx => ?_
  rcases hx with hwrite | ⟨range, hmem, hcovers⟩ | hcarried
  · exact .inl hwrite
  · exact .inr (.inl (covers_mergeCryptoRanges ⟨range, mem_append_left _ hmem, hcovers⟩))
  · exact .inr (.inr hcarried)

theorem covers_carriedCryptoRange {packets : List QuicSentPacketInfo}
    {packet : QuicSentPacketInfo} (hmem : packet ∈ packets) (hcarries : packet.Carries x) :
    ∃ range ∈ packets.filterMap QuicConnectionCore.carriedCryptoRange, range.Covers x := by
  obtain ⟨range, hrange, hcovers⟩ := hcarries
  refine ⟨range, mem_filterMap.mpr ⟨packet, hmem, ?_⟩, hcovers⟩
  have hlt : range.beginOffset < range.endOffset := Nat.lt_of_le_of_lt hcovers.1 hcovers.2
  unfold QuicConnectionCore.carriedCryptoRange
  rw [hrange, Option.filter_some, if_pos (by simpa using hlt)]

theorem resolve_space (l : QuicConnectionLedgers) (space : PacketNumberSpace)
    (acknowledged lost : List QuicSentPacketInfo) :
    ∃ pending, (l.resolve space acknowledged lost).spaces space =
        { l.spaces space with
          unacknowledged := eraseAll (acknowledged ++ lost) (l.spaces space).unacknowledged
          pendingRetransmissions := pending } ∧
      ∀ x, ((∃ range ∈ (l.spaces space).pendingRetransmissions,
          range.Covers x) ∨ ∃ packet ∈ lost, packet.Carries x) →
        ∃ range ∈ pending, range.Covers x := by
  have htaken : (l.takeOut space acknowledged lost).spaces space =
      { l.spaces space with
        unacknowledged := eraseAll (acknowledged ++ lost) (l.spaces space).unacknowledged } :=
    Function.update_self ..
  unfold resolve
  split
  · next hnone =>
    refine ⟨(l.spaces space).pendingRetransmissions, htaken, fun x hx => ?_⟩
    rcases hx with hx | ⟨packet, hmem, -⟩
    · exact hx
    · rw [isEmpty_iff.mp hnone] at hmem
      exact absurd hmem not_mem_nil
  refine ⟨QuicConnectionCore.mergeCryptoRanges
    ((l.spaces space).pendingRetransmissions ++
      lost.filterMap QuicConnectionCore.carriedCryptoRange), ?_,
    fun x hx => covers_mergeCryptoRanges ?_⟩
  · unfold QuicConnectionLedgers.requeueRanges
    rw [setSpace_spaces_self, htaken]
  rcases hx with ⟨range, hmem, hcovers⟩ | ⟨packet, hmem, hcarries⟩
  · exact ⟨range, mem_append_left _ hmem, hcovers⟩
  obtain ⟨range, hmem, hcovers⟩ := covers_carriedCryptoRange hmem hcarries
  exact ⟨range, mem_append_right _ hmem, hcovers⟩

theorem resolve_history (l : QuicConnectionLedgers) (space : PacketNumberSpace)
    (acknowledged lost : List QuicSentPacketInfo) :
    (l.resolve space acknowledged lost).history = (l.takeOut space acknowledged lost).history := by
  unfold resolve
  split <;> rfl

theorem resolve_others (l : QuicConnectionLedgers) {other : PacketNumberSpace}
    (acknowledged lost : List QuicSentPacketInfo) (h : other ≠ space) :
    (l.resolve space acknowledged lost).spaces other = l.spaces other := by
  have htaken : (l.takeOut space acknowledged lost).spaces other =
      l.spaces other := Function.update_of_ne h ..
  unfold resolve
  split
  · exact htaken
  · exact (setSpace_spaces_of_ne _ h).trans htaken

theorem resolve (h : CryptoBooks l) {acknowledged lost : List QuicSentPacketInfo}
    (hheld : HeldPackets (acknowledged ++ lost) (l.spaces space).unacknowledged) :
    CryptoBooks (l.resolve space acknowledged lost) := by
  obtain ⟨pending, hspace, hpending⟩ := resolve_space l space acknowledged lost
  have hhistory := resolve_history l space acknowledged lost
  refine h.advance (h.flight.resolve hheld) space
    (fun other hne => resolve_others l acknowledged lost hne) ?_ ?_ ?_
  · rw [hhistory]
    exact List.Subset.refl _
  · rw [hhistory]
    exact subset_append_left _ _
  rw [hhistory]
  intro hdiscarded
  unfold QuicConnectionLedgers.Accounted
  rw [hspace, hhistory]
  refine ⟨h.written space hdiscarded, fun x hx => ?_⟩
  rcases h.kept space hdiscarded x hx with hholds | hnoted
  · rcases hholds with hwrite | hqueued | ⟨packet, hmem, hcarries⟩
    · exact .inl (.inl hwrite)
    · exact .inl (.inr (.inl (hpending x (.inl hqueued))))
    have hperm := (values_eraseAll_perm hheld).mem_iff.mp hmem
    rcases mem_append.mp hperm with hresolved | hleft
    · rcases mem_append.mp hresolved with hacknowledged | hlost
      · refine .inr ⟨⟨space, packet, .acknowledged⟩, ?_, rfl, rfl, hcarries⟩
        refine mem_append_right _ (mem_append_left _ ?_)
        exact mem_map.mpr ⟨packet, hacknowledged, rfl⟩
      · exact .inl (.inr (.inl (hpending x (.inr ⟨packet, hlost, hcarries⟩))))
    · exact .inl (.inr (.inr ⟨packet, hleft, hcarries⟩))
  · obtain ⟨note, hnote, hrest⟩ := hnoted
    exact .inr ⟨note, mem_append_left _ hnote, hrest⟩

theorem send (h : CryptoBooks l) (note : SentPacketNote) (paths : List PeerPathState)
    (htakes : (l.spaces note.space).Takes state note.packet.cryptoRange)
    (hnumber : note.packet.packetNumber = (l.spaces note.space).nextPacketNumber) :
    CryptoBooks ((l.setSpace note.space state).enterSent note paths) := by
  obtain ⟨hnext, -, -, hstream, hunacknowledged⟩ := htakes.books
  have hself : (l.setSpace note.space state).spaces note.space = state :=
    setSpace_spaces_self note.space state
  have hflight : FlightBooks ((l.setSpace note.space state).enterSent note paths) := by
    refine (h.flight.takes htakes).enterSent note paths ?_
    rw [hself, hnext]
    exact hnumber
  have hnone := h.flight.next_not_held note.space
  rw [← hnumber, ← hunacknowledged] at hnone
  have hvalues := SortedMap.values_insert_perm note.packet hnone
  have hspace : ((l.setSpace note.space state).enterSent note paths).spaces note.space =
      { state with
        nextPacketNumber := state.nextPacketNumber + 1
        unacknowledged := state.unacknowledged.insert note.packet.packetNumber note.packet } := by
    unfold enterSent
    simp
  refine h.advance hflight note.space (fun other hne => ?_)
    (List.Subset.refl _) (List.Subset.refl _) fun hdiscarded => ?_
  · unfold enterSent
    simp only [Function.update_of_ne hne]
    exact setSpace_spaces_of_ne state hne
  unfold QuicConnectionLedgers.Accounted
  rw [hspace]
  refine ⟨htakes.writeOffset_le (h.written note.space hdiscarded), fun x hx => ?_⟩
  rw [hstream] at hx
  refine (h.kept note.space hdiscarded x hx).imp_left fun hholds => ?_
  have hcarried : (∃ packet ∈ state.unacknowledged.values,
      packet.Carries x) ∨ note.packet.Carries x →
      ∃ packet ∈ (state.unacknowledged.insert note.packet.packetNumber
        note.packet).values, packet.Carries x := by
    rintro (⟨packet, hmem, hcarries⟩ | hcarries)
    · exact ⟨packet, hvalues.mem_iff.mpr (mem_cons_of_mem _ hmem), hcarries⟩
    · exact ⟨note.packet, hvalues.mem_iff.mpr mem_cons_self, hcarries⟩
  rcases htakes.holds hholds with hholds | ⟨range, hrange, hcovers⟩
  · rcases hholds with hwrite | hqueued | hold
    · exact .inl hwrite
    · exact .inr (.inl hqueued)
    · exact .inr (.inr (hcarried (.inl hold)))
  · exact .inr (.inr (hcarried (.inr ⟨range, hrange, hcovers⟩)))

theorem discard (h : CryptoBooks l) (space : PacketNumberSpace)
    (hflight : FlightBooks (l.discard space)) : CryptoBooks (l.discard space) := by
  refine h.advance hflight space (fun other hne => Function.update_of_ne hne ..)
    (subset_append_left _ _) (subset_append_left _ _)
    fun hdiscarded => absurd ?_ hdiscarded
  exact mem_append_right _ (mem_singleton.mpr rfl)

theorem startOver (h : CryptoBooks l) (peerConnectionId : Bytes)
    (hflight : FlightBooks (l.startOver peerConnectionId)) :
    CryptoBooks (l.startOver peerConnectionId) := by
  have hspace : (l.startOver peerConnectionId).spaces .initial =
      { l.spaces .initial with
        cryptoWriteOffset := 0
        pendingRetransmissions := []
        unacknowledged := .empty } := by
    unfold QuicConnectionLedgers.startOver QuicConnectionLedgers.discardPackets
    simp
  refine h.advance hflight .initial (fun other hne => Function.update_of_ne hne ..)
    (List.Subset.refl _) (subset_append_left _ _) fun _ => ?_
  exact ⟨Nat.zero_le _, fun x _ => .inl (.inl (Nat.zero_le x))⟩

theorem writeCrypto (h : CryptoBooks l) (space : PacketNumberSpace)
    (bytes : Bytes) (hflight : FlightBooks (l.writeCrypto space bytes)) :
    CryptoBooks (l.writeCrypto space bytes) := by
  have hspace : (l.writeCrypto space bytes).spaces space =
      { l.spaces space with
        cryptoStream := (l.spaces space).cryptoStream ++ bytes } :=
    setSpace_spaces_self ..
  refine h.advance hflight space (fun other hne => setSpace_spaces_of_ne _ hne)
    (List.Subset.refl _) (List.Subset.refl _) fun hdiscarded => ?_
  have hwritten := h.written space hdiscarded
  unfold QuicConnectionLedgers.Accounted
  rw [hspace]
  simp only [length_append]
  refine ⟨by omega, fun x hx => ?_⟩
  by_cases hold : x < (l.spaces space).cryptoStream.length
  · exact h.kept space hdiscarded x hold
  · exact .inl (.inl (by dsimp only; omega))

theorem noteArrival (h : CryptoBooks l) (space : PacketNumberSpace)
    (packetNumber : Nat) (isAccepted : Bool) :
    CryptoBooks (l.noteArrival space packetNumber isAccepted) :=
  h.congr (h.flight.noteArrival space packetNumber isAccepted) rfl rfl rfl

theorem step (h : CryptoBooks l) (hstep : LedgerStep false l l') : CryptoBooks l' := by
  have hflight := h.flight.step hstep
  cases hstep with
  | receive | markPath | movePath | validateAddress | acknowledge |
    followConnectionId | noteConnectionIdFrame | limitError | noteToken =>
      exact h.congr hflight rfl rfl rfl
  | arrive space packetNumber =>
    unfold arrive
    simp only
    split
    · exact h.noteArrival space packetNumber false
    · refine CryptoBooks.noteArrival ?_ space packetNumber true
      exact h.setSpace (h.flight.setSpace rfl rfl) rfl id fun x hx => hx
  | elicit space packetNumber haccepted =>
    exact h.setSpace hflight rfl id fun x hx => hx
  | send note htakes hpaths hnumber hallowance hrecord hsize =>
    exact h.send note _ htakes hnumber
  | takeFragment space hlost htakes =>
    refine h.setSpace hflight htakes.books.2.2.2.1 htakes.writeOffset_le fun x hx => ?_
    rcases htakes.holds hx with hx | ⟨taken, htaken, -⟩
    · exact hx
    -- a fragment is taken and not sent only when the call throws
    rcases hlost with hnone | hthrows
    · rw [hnone] at htaken
      cases htaken
    · cases hthrows
  | resolve space acknowledged lost hheld => exact h.resolve hheld
  | requeue space => exact h.requeueRanges space _
  | discard space => exact h.discard space hflight
  | startOver peerConnectionId hclient =>
    exact h.startOver peerConnectionId hflight
  | writeCrypto space bytes => exact h.writeCrypto space bytes hflight
  | adoptConnectionId frame hretire hnew =>
    refine h.congr hflight ?_ ?_ ?_
    all_goals
      unfold adoptNewConnectionId ensureActiveIsHeld
      simp only
      repeat' split
      all_goals rfl

end CryptoBooks

/-! ## Over runs -/

namespace QuicConnectionCore

variable {environment : QuicEnvironment}
  {configuration : QuicConnectionCoreConfiguration}
  {core : QuicConnectionCore}

theorem CryptoBooks.start (environment : QuicEnvironment)
    (configuration : QuicConnectionCoreConfiguration) :
    CryptoBooks (start environment configuration).ledgers := by
  refine ⟨FlightBooks.start environment configuration, ?_, ?_⟩
  all_goals
    rw [ledgers_start]
    intro space hspace
  · exact Nat.le_refl 0
  · exact fun x hx => absurd hx (Nat.not_lt_zero x)

/-- The call comes back to its caller. -/
def Returns (environment : QuicEnvironment) (core : QuicConnectionCore)
    (event : QuicConnectionEvent) : Prop :=
  (core.apply environment event).exception = none

instance (environment : QuicEnvironment) (core : QuicConnectionCore) (event : QuicConnectionEvent) :
    Decidable (Returns environment core event) :=
  inferInstanceAs (Decidable ((core.apply environment event).exception = none))

/-- The four places a handshake byte may be in. -/
def CryptoByteAccounted (core : QuicConnectionCore) (space : PacketNumberSpace) (x : Nat) : Prop :=
  (∃ note ∈ core.history.resolvedPackets, note.space = space ∧
      note.fate = .acknowledged ∧ note.packet.Carries x) ∨
    (∃ packet ∈ core.recovery.unacknowledgedPackets space, packet.Carries x) ∨
    (∃ range ∈ (core.spaceState space).pendingRetransmissions, range.Covers x) ∨
    (core.spaceState space).cryptoWriteOffset ≤ x

/-- No handshake byte is lost in silence: in a run whose calls come back,
each byte written to a space not yet discarded is acknowledged, under way,
queued again or still to be sent. -/
theorem crypto_bytes_accounted
    (h : Reach (apply environment) (Returns environment) (start environment configuration) core)
    (space : PacketNumberSpace)
    (hspace : space ∉ core.history.discardedSpaces) (x : Nat)
    (hx : x < (core.spaceState space).cryptoStream.length) :
    core.CryptoByteAccounted space x := by
  have hbooks : CryptoBooks core.ledgers := QuicConnectionCore.books_invariant h
      (fun core event hreturns hthrown => by
        rw [hreturns] at hthrown
        exact hthrown)
      (CryptoBooks.start environment configuration)
      fun _ _ hbooks hstep => hbooks.step hstep
  rcases hbooks.kept space hspace x hx with hholds | hnoted
  · rcases hholds with hwrite | hqueued | hcarried
    · exact .inr (.inr (.inr hwrite))
    · exact .inr (.inr (.inl hqueued))
    · exact .inr (.inl hcarried)
  · exact .inl hnoted

/-- A byte of the client's first flight, acknowledged by then. -/
theorem crypto_bytes_accounted_firstExchange : firstExchangeCore.CryptoByteAccounted .initial 2 :=
  crypto_bytes_accounted (Reach.run .start firstExchange (by decide +kernel))
    .initial (by decide +kernel) 2 (by decide +kernel)

end QuicConnectionCore

end AsynGyanis.Quic
