import AsynGyanis.Quic.Streams.Delivery
import AsynGyanis.Quic.Streams.SendLedger

/-!
# No written byte is lost

The books of the whole sending half: every record is booked, the sum of
the high-water marks is the connection's counter, and a stream whose
record is gone has all of its bytes acknowledged. Each edit keeps them
(`SendBalanced.edit`), so every event does and every run
(`no_written_byte_lost`).

A record that is created must find no range of its stream under way. It
does, because a stream without a record was either never sent on or is
remembered as retired, and a retired stream is not opened again.
-/

namespace AsynGyanis.Quic

open Library QuicStreamLayer SortedMap List

theorem spansOf_perm {a b : List QuicStreamRange} (h : a.Perm b)
    (streamId : Nat) : (spansOf a streamId).Perm (spansOf b streamId) := (h.filter _).map _

theorem spansOf_cons_self (range : QuicStreamRange) (ranges : List QuicStreamRange) :
    spansOf (range :: ranges) range.streamId = range.span :: spansOf ranges range.streamId := by
  simp [spansOf]

variable {streamId : Nat}

theorem spansOf_cons_of_ne {range : QuicStreamRange}
    (ranges : List QuicStreamRange) (h : streamId ≠ range.streamId) :
    spansOf (range :: ranges) streamId = spansOf ranges streamId := by
  simp [spansOf, Ne.symm h]

theorem spansOf_snoc_self (range : QuicStreamRange) (ranges : List QuicStreamRange) :
    spansOf (ranges ++ [range]) range.streamId = spansOf ranges range.streamId ++ [range.span] := by
  simp [spansOf]

theorem spansOf_snoc_of_ne {range : QuicStreamRange}
    (ranges : List QuicStreamRange) (h : streamId ≠ range.streamId) :
    spansOf (ranges ++ [range]) streamId = spansOf ranges streamId := by
  simp [spansOf, Ne.symm h]

/-- The books of the sending half, `retired` being the records already
dropped. -/
structure SendBalanced (b : SendBooks) (retired : List (Nat × OutgoingStream)) :
    Prop where
  records : ∀ streamId stream, b.layer.outgoing.find? streamId = some stream →
    stream.Booked (spansOf b.outstanding streamId) (spansOf b.acknowledged streamId)
  sorted : b.isSorted = true → ∀ streamId stream,
    b.layer.outgoing.find? streamId = some stream → stream.QueueSorted
  unknown : ∀ streamId, b.layer.outgoing.find? streamId = none →
    b.layer.isStreamSideRetired streamId false = false →
    spansOf b.outstanding streamId = [] ∧ spansOf b.acknowledged streamId = []
  remembered : ∀ entry ∈ retired, b.layer.isStreamSideRetired entry.1 false = true ∧
      b.layer.outgoing.find? entry.1 = none
  complete : ∀ entry ∈ retired, entry.2.IsSending → spansOf b.outstanding entry.1 = [] ∧
      Ledger (spansOf b.acknowledged entry.1) entry.2.nextWriteOffset entry.2.finalOffset
  total : b.layer.outgoing.sumBy (·.sentHighWater) +
    (retired.map fun entry => entry.2.sentHighWater).sum = b.layer.connectionSentHighWater
  within : b.layer.connectionSentHighWater ≤ b.layer.connectionSendLimit
  waiting : b.layer.hasPeerParameters = false → b.layer.connectionSentHighWater = 0
  localIds : b.layer.LocalIds

variable {layer : QuicStreamLayer}

namespace SendBalanced

variable {b b' : SendBooks} {retired : List (Nat × OutgoingStream)}
  {streamId : Nat} {stream stream' : OutgoingStream}

/-- What an edit of one record has to show. -/
structure RecordEdit (b b' : SendBooks) (streamId : Nat)
    (stream stream' : OutgoingStream) : Prop where
  find : b.layer.outgoing.find? streamId = some stream
  outgoing : b'.layer.outgoing = b.layer.outgoing.insert streamId stream'
  remembers : RemembersAlike false b.layer b'.layer
  outstanding : ∀ k, k ≠ streamId → spansOf b'.outstanding k = spansOf b.outstanding k
  acknowledged : ∀ k, k ≠ streamId → spansOf b'.acknowledged k = spansOf b.acknowledged k
  booked : stream'.Booked (spansOf b'.outstanding streamId) (spansOf b'.acknowledged streamId)
  sorted : b'.isSorted = true → b.isSorted = true ∧ stream'.QueueSorted
  counter : b'.layer.connectionSentHighWater + stream.sentHighWater =
    b.layer.connectionSentHighWater + stream'.sentHighWater
  within : b'.layer.connectionSentHighWater ≤ b'.layer.connectionSendLimit
  waiting : b'.layer.hasPeerParameters = false → b'.layer.connectionSentHighWater = 0
  localIds : b'.layer.LocalIds

theorem record (h : SendBalanced b retired) (hedit : RecordEdit b b' streamId stream stream') :
    SendBalanced b' retired where
  records := by
    intro k s hk
    rw [hedit.outgoing, find?_insert] at hk
    split at hk
    · next heq =>
      injection hk with hk
      exact heq ▸ hk ▸ hedit.booked
    rename_i hne
    rw [hedit.outstanding k hne, hedit.acknowledged k hne]
    exact h.records k s hk
  sorted := by
    intro hs k s hk
    obtain ⟨hs', hqueue⟩ := hedit.sorted hs
    rw [hedit.outgoing, find?_insert] at hk
    split at hk
    · injection hk with hk
      exact hk ▸ hqueue
    · exact h.sorted hs' k s hk
  unknown := by
    intro k hk hretired
    rw [hedit.outgoing, find?_insert] at hk
    split at hk
    · cases hk
    rename_i hne
    rw [hedit.outstanding k hne, hedit.acknowledged k hne]
    rw [hedit.remembers.isStreamSideRetired] at hretired
    exact h.unknown k hk hretired
  remembered := by
    intro entry hentry
    obtain ⟨hside, hnone⟩ := h.remembered entry hentry
    rw [hedit.remembers.isStreamSideRetired]
    refine ⟨hside, ?_⟩
    have hne : entry.1 ≠ streamId := by
      intro heq
      rw [heq, hedit.find] at hnone
      cases hnone
    rw [hedit.outgoing, find?_insert_of_ne _ _ hne]
    exact hnone
  complete := by
    intro entry hentry hsending
    have hnone := (h.remembered entry hentry).2
    have hne : entry.1 ≠ streamId := by
      intro heq
      rw [heq, hedit.find] at hnone
      cases hnone
    rw [hedit.outstanding _ hne, hedit.acknowledged _ hne]
    exact h.complete entry hentry hsending
  total := by
    have hsum := sumBy_overwrite
      (fun stream : OutgoingStream => stream.sentHighWater) stream' hedit.find
    have htotal := h.total
    have hcounter := hedit.counter
    rw [hedit.outgoing]
    omega
  within := hedit.within
  waiting := hedit.waiting
  localIds := hedit.localIds

theorem other (h : SendBalanced b retired) (halike : SendsAlike b.layer layer) :
    SendBalanced { b with layer := layer } retired where
  records := by
    rw [halike.outgoing]
    exact h.records
  sorted := by
    rw [halike.outgoing]
    exact h.sorted
  unknown := by
    intro k
    rw [halike.outgoing, halike.remembers.isStreamSideRetired]
    exact h.unknown k
  remembered := by
    intro entry
    rw [halike.outgoing, halike.remembers.isStreamSideRetired]
    exact h.remembered entry
  complete := h.complete
  total := by
    rw [halike.outgoing, halike.connectionSentHighWater]
    exact h.total
  within := by
    have hwithin := h.within
    have hlimit := halike.connectionSendLimit
    dsimp only
    rw [halike.connectionSentHighWater]
    omega
  waiting := by
    rw [halike.connectionSentHighWater, halike.hasPeerParameters]
    exact h.waiting
  localIds := halike.localIds h.localIds

theorem permute (h : SendBalanced b retired) {outstanding acknowledged : List QuicStreamRange}
    (ho : b.outstanding.Perm outstanding) (ha : b.acknowledged.Perm acknowledged) :
    SendBalanced { b with
      outstanding := outstanding, acknowledged := acknowledged } retired where
  records := fun k s hk =>
    (h.records k s hk).perm (spansOf_perm ho k) (spansOf_perm ha k)
  sorted := h.sorted
  unknown := by
    intro k hk hretired
    obtain ⟨hout, hack⟩ := h.unknown k hk hretired
    have ho' := spansOf_perm ho k
    have ha' := spansOf_perm ha k
    rw [hout] at ho'
    rw [hack] at ha'
    exact ⟨ho'.nil_eq.symm, ha'.nil_eq.symm⟩
  remembered := h.remembered
  complete := by
    intro entry hentry hsending
    obtain ⟨hout, hledger⟩ := h.complete entry hentry hsending
    have ho' := spansOf_perm ho entry.1
    rw [hout] at ho'
    exact ⟨ho'.nil_eq.symm, hledger.perm (spansOf_perm ha entry.1)⟩
  total := h.total
  within := h.within
  waiting := h.waiting
  localIds := h.localIds

theorem create (h : SendBalanced b retired) {limit : Nat}
    (hnone : b.layer.outgoing.find? streamId = none)
    (hopen : b.layer.isStreamSideRetired streamId false = false) :
    SendBalanced { b with
      layer := b.layer.setOutgoing streamId { streamLimit := limit } }
      retired where
  records := by
    intro k s hk
    simp only [setOutgoing, find?_insert] at hk
    split at hk
    · next heq =>
      subst heq
      injection hk with hk
      subst hk
      obtain ⟨hout, hack⟩ := h.unknown k hnone hopen
      rw [hout, hack]
      exact .fresh limit
    · exact h.records k s hk
  sorted := by
    intro hs k s hk
    simp only [setOutgoing, find?_insert] at hk
    split at hk
    · injection hk with hk
      subst hk
      exact List.Pairwise.nil
    · exact h.sorted hs k s hk
  unknown := by
    intro k hk hretired
    simp only [setOutgoing, find?_insert] at hk
    split at hk
    · cases hk
    · exact h.unknown k hk hretired
  remembered := by
    intro entry hentry
    obtain ⟨hside, hfind⟩ := h.remembered entry hentry
    have hne : entry.1 ≠ streamId := by
      intro heq
      rw [heq, hopen] at hside
      cases hside
    exact ⟨hside, (find?_insert_of_ne _ _ hne).trans hfind⟩
  complete := h.complete
  total := by
    have hsum := sumBy_insert_of_none (fun stream : OutgoingStream => stream.sentHighWater)
      { streamLimit := limit } hnone
    have htotal := h.total
    simp only [setOutgoing]
    rw [hsum, Nat.zero_add]
    exact htotal
  within := h.within
  waiting := h.waiting
  localIds := ⟨h.localIds.bidirectional, h.localIds.unidirectional, h.localIds.isUnidirectional⟩

theorem change (h : SendBalanced b retired) (hfind : b.layer.outgoing.find? streamId = some stream)
    (hchange : OutgoingChange stream stream') :
    SendBalanced { b with layer := b.layer.setOutgoing streamId stream' }
      retired := by
  have hbooked := h.records streamId stream hfind
  refine h.record ⟨hfind, rfl, ⟨rfl, rfl, rfl, rfl⟩, fun _ _ => rfl,
    fun _ _ => rfl, hbooked.change hchange, fun hs => ⟨hs, ?_⟩, ?_, h.within,
    h.waiting, ⟨h.localIds.bidirectional, h.localIds.unidirectional, h.localIds.isUnidirectional⟩⟩
  · exact hbooked.change_sorted hchange (h.sorted hs streamId stream hfind)
  · rw [OutgoingStream.change_mark hchange]
    rfl

/-! ## Acknowledgement, loss and order -/

/-- A reported range of a stream without a record: the stream is retired,
and not one whose bytes are all acknowledged. -/
theorem reported_unheld (h : SendBalanced b retired)
    {range : QuicStreamRange} {rest : List QuicStreamRange}
    (hout : b.outstanding = range :: rest)
    (hnone : b.layer.outgoing.find? range.streamId = none) :
    b.layer.isStreamSideRetired range.streamId false ∧
      ∀ entry ∈ retired, entry.1 = range.streamId → ¬ entry.2.IsSending := by
  have hspans : spansOf b.outstanding range.streamId ≠ [] := by
    rw [hout, spansOf_cons_self]
    exact cons_ne_nil _ _
  refine ⟨?_, fun entry hentry hid hsending => ?_⟩
  · by_contra hopen
    exact hspans (h.unknown _ hnone (by simpa using hopen)).1
  · exact hspans (hid ▸ (h.complete entry hentry hsending).1)

/-- Dropping a reported range of a stream without a record changes nothing
that is still accounted for. -/
theorem reported (h : SendBalanced b retired)
    {range : QuicStreamRange} {rest acknowledged : List QuicStreamRange}
    {isSorted : Bool} (hout : b.outstanding = range :: rest)
    (hnone : b.layer.outgoing.find? range.streamId = none)
    (hack : ∀ k, k ≠ range.streamId → spansOf acknowledged k = spansOf b.acknowledged k)
    (hsorted : isSorted → b.isSorted) :
    SendBalanced ⟨b.layer, rest, acknowledged, isSorted⟩ retired := by
  obtain ⟨hside, haborted⟩ := h.reported_unheld hout hnone
  have hrest : ∀ k, k ≠ range.streamId → spansOf rest k = spansOf b.outstanding k := by
    intro k hne
    rw [hout, spansOf_cons_of_ne _ hne]
  refine ⟨?_, fun hs => h.sorted (hsorted hs), ?_, h.remembered, ?_, h.total,
    h.within, h.waiting, h.localIds⟩
  · intro k s hk
    have hne : k ≠ range.streamId := by
      rintro rfl
      rw [hnone] at hk
      cases hk
    rw [hrest k hne, hack k hne]
    exact h.records k s hk
  · intro k hk hretired
    have hne : k ≠ range.streamId := by
      rintro rfl
      rw [hside] at hretired
      cases hretired
    rw [hrest k hne, hack k hne]
    exact h.unknown k hk hretired
  · intro entry hentry hsending
    have hne : entry.1 ≠ range.streamId := fun hid => haborted entry hentry hid hsending
    rw [hrest _ hne, hack _ hne]
    exact h.complete entry hentry hsending

theorem acknowledge (h : SendBalanced b retired) {range : QuicStreamRange}
    {rest : List QuicStreamRange} (hout : b.outstanding = range :: rest) :
    SendBalanced { b with
      layer := b.layer.acknowledgeRange range
      outstanding := rest
      acknowledged := range :: b.acknowledged } retired := by
  unfold acknowledgeRange
  split
  · next hnone =>
    exact h.reported hout hnone (fun k hne => spansOf_cons_of_ne _ hne) id
  rename_i stream hfind
  have hbooked := h.records _ _ hfind
  rw [hout, spansOf_cons_self] at hbooked
  refine h.record ⟨hfind, rfl, ⟨rfl, rfl, rfl, rfl⟩, fun k hne => ?_,
    fun k hne => spansOf_cons_of_ne _ hne, ?_,
    fun hs => ⟨hs, h.sorted hs _ stream hfind⟩, rfl, h.within, h.waiting,
    ⟨h.localIds.bidirectional, h.localIds.unidirectional, h.localIds.isUnidirectional⟩⟩
  · rw [hout, spansOf_cons_of_ne _ hne]
  · rw [spansOf_cons_self]
    exact hbooked.acknowledge

theorem lose (h : SendBalanced b retired) {range : QuicStreamRange}
    {rest : List QuicStreamRange} (hout : b.outstanding = range :: rest) :
    SendBalanced { b with
      layer := b.layer.loseRange range
      outstanding := rest
      isSorted := false } retired := by
  unfold loseRange
  split
  · next hnone =>
    exact h.reported hout hnone (fun _ _ => rfl) fun hs => by cases hs
  next stream hfind =>
  have hbooked := h.records _ _ hfind
  rw [hout, spansOf_cons_self] at hbooked
  have hrest : ∀ k, k ≠ range.streamId → spansOf rest k = spansOf b.outstanding k := by
    intro k hne
    rw [hout, spansOf_cons_of_ne _ hne]
  split
  · next hnone =>
    have hmissing := hbooked.lose_nothing hnone
    refine ⟨?_, (fun hs => by cases hs), ?_, h.remembered, ?_, h.total,
      h.within, h.waiting, h.localIds⟩
    · intro k s hk
      by_cases heq : k = range.streamId
      · subst heq
        rw [hfind] at hk
        injection hk with hk
        exact hk ▸ hmissing
      · rw [hrest k heq]
        exact h.records k s hk
    · intro k hk hretired
      have hne : k ≠ range.streamId := by
        rintro rfl
        rw [hfind] at hk
        cases hk
      rw [hrest k hne]
      exact h.unknown k hk hretired
    · intro entry hentry hsending
      have hne : entry.1 ≠ range.streamId := by
        intro hid
        have hgone := (h.remembered entry hentry).2
        rw [hid, hfind] at hgone
        cases hgone
      rw [hrest _ hne]
      exact h.complete entry hentry hsending
  · next lost hlost =>
    have hmark : (requeueLost stream range lost).sentHighWater =
        stream.sentHighWater := by
      unfold requeueLost
      dsimp only
      split <;> rfl
    refine h.record ⟨hfind, rfl, ⟨rfl, rfl, rfl, rfl⟩, hrest, fun _ _ => rfl,
      hbooked.lose hlost, (fun hs => by cases hs), by rw [hmark]; rfl,
      h.within, h.waiting, ⟨h.localIds.bidirectional,
        h.localIds.unidirectional, h.localIds.isUnidirectional⟩⟩

end SendBalanced

/-! ## Sorting every queue -/

theorem sortQueues_find {streamIds : List Nat} (hnodup : streamIds.Nodup)
    (layer : QuicStreamLayer) (k : Nat) :
    (streamIds.foldl sortQueueOf layer).outgoing.find? k =
      if k ∈ streamIds then
        (layer.outgoing.find? k).map sortPendingQueue
      else layer.outgoing.find? k := by
  induction streamIds generalizing layer with
  | nil => rfl
  | cons streamId rest ih =>
    obtain ⟨hfresh, hrest⟩ := nodup_cons.mp hnodup
    have hone : (layer.sortQueueOf streamId).outgoing.find? k =
        if k = streamId then (layer.outgoing.find? k).map sortPendingQueue
        else layer.outgoing.find? k := by
      unfold sortQueueOf
      cases hfind : layer.outgoing.find? streamId with
      | none =>
        dsimp only
        split
        · next heq =>
          rw [heq, hfind]
          rfl
        · rfl
      | some stream =>
        dsimp only [setOutgoing]
        rw [find?_insert]
        split
        · next heq =>
          rw [heq, hfind]
          rfl
        · rfl
    rw [foldl_cons, ih hrest, hone]
    by_cases heq : k = streamId
    · subst heq
      rw [if_neg hfresh, if_pos rfl, if_pos mem_cons_self]
    · simp [heq]

variable {stream : OutgoingStream}

namespace SendBalanced

variable {b b' : SendBooks} {retired : List (Nat × OutgoingStream)}

theorem sortQueue (h : SendBalanced b retired) (hs : b.isSorted = false) (streamId : Nat) :
    SendBalanced { b with layer := b.layer.sortQueueOf streamId } retired := by
  unfold sortQueueOf
  split
  · exact h
  rename_i stream hfind
  refine h.record ⟨hfind, rfl, ⟨rfl, rfl, rfl, rfl⟩, fun _ _ => rfl,
    fun _ _ => rfl, (h.records _ _ hfind).sort, fun hs' => ?_, rfl,
    h.within, h.waiting, ⟨h.localIds.bidirectional,
      h.localIds.unidirectional, h.localIds.isUnidirectional⟩⟩
  rw [show b.isSorted = true from hs'] at hs
  cases hs

theorem sortAll (h : SendBalanced b retired) :
    SendBalanced { b with
      layer := b.layer.outgoing.keys.foldl sortQueueOf b.layer
      isSorted := true } retired := by
  have hunsorted : SendBalanced { b with isSorted := false } retired :=
    ⟨h.records, (fun hs => by cases hs), h.unknown, h.remembered, h.complete,
      h.total, h.within, h.waiting, h.localIds⟩
  have hfold := foldl_invariant
    (P := fun layer => SendBalanced ⟨layer, b.outstanding, b.acknowledged, false⟩ retired)
    (fun layer streamId hlayer => hlayer.sortQueue rfl streamId)
    b.layer.outgoing.keys b.layer hunsorted
  refine ⟨hfold.records, fun _ streamId stream hfind => ?_, hfold.unknown,
    hfold.remembered, hfold.complete, hfold.total, hfold.within,
    hfold.waiting, hfold.localIds⟩
  rw [sortQueues_find b.layer.outgoing.keys_nodup] at hfind
  split at hfind
  · obtain ⟨unsorted, _, rfl⟩ := Option.map_eq_some_iff.mp hfind
    exact OutgoingStream.sortPendingQueue_sorted unsorted
  · next hmissing =>
    exact absurd (mem_keys_iff.mpr ⟨stream, hfind⟩) hmissing

/-! ## Sending and adopting limits -/

theorem send (h : SendBalanced b retired) {count : Nat} {front : QuicStreamChunk}
    {rest : List QuicStreamChunk} (hsorted : b.isSorted)
    (hparameters : b.layer.hasPeerParameters)
    (hfind : b.layer.outgoing.find? streamId = some stream)
    (hopen : stream.isAborted = false) (hqueue : stream.pendingQueue = front :: rest)
    (hsendable : Sendable b.layer stream front count) : SendBalanced { b with
      layer := sentLayer b.layer streamId stream front rest count
      outstanding := b.outstanding ++ [sentRange streamId front count] }
      retired := by
  have hbooked := h.records streamId stream hfind
  have hqueued := h.sorted hsorted streamId stream hfind
  have hmark := hbooked.mark_within_credit
    (hbooked.sending_of_queue hopen hqueue) hqueue hqueued hsendable
  have hwithin := h.within
  refine h.record ⟨hfind, rfl, ⟨rfl, rfl, rfl, rfl⟩,
    fun k hne => spansOf_snoc_of_ne _ hne, fun _ _ => rfl, ?_,
    fun _ => ⟨hsorted, hbooked.send_sorted hopen hqueue hqueued
      hsendable.inside⟩, ?_, ?_, fun hnone => ?_,
    ⟨h.localIds.bidirectional, h.localIds.unidirectional, h.localIds.isUnidirectional⟩⟩
  · have hspans := spansOf_snoc_self (sentRange streamId front count) b.outstanding
    rw [show (sentRange streamId front count).streamId = streamId from rfl] at hspans
    rw [hspans]
    exact hbooked.send hopen hqueue hqueued hsendable streamId
  · simp only [sentLayer, sendFromQueue, setOutgoing]
    omega
  · simp only [sentLayer, setOutgoing]
    unfold sendCreditOf at hmark
    omega
  · rw [show (sentLayer b.layer streamId stream front rest
      count).hasPeerParameters = b.layer.hasPeerParameters from rfl,
      hparameters] at hnone
    cases hnone

end SendBalanced

/-- What adopting the peer's parameters does to the sending records: each
keeps everything but its limit. -/
structure AdoptsLimits (a b : QuicStreamLayer) : Prop where
  kept : ∀ streamId stream, a.outgoing.find? streamId = some stream →
    ∃ limit, b.outgoing.find? streamId = some { stream with streamLimit := limit }
  fresh : ∀ streamId, a.outgoing.find? streamId = none → b.outgoing.find? streamId = none
  connectionSentHighWater : b.connectionSentHighWater = a.connectionSentHighWater
  remembers : RemembersAlike false a b
  localIds : a.LocalIds → b.LocalIds

theorem AdoptsLimits.trans {a b c : QuicStreamLayer} (hab : AdoptsLimits a b)
    (hbc : AdoptsLimits b c) : AdoptsLimits a c where
  kept := by
    intro streamId stream hfind
    obtain ⟨limit, hb⟩ := hab.kept streamId stream hfind
    obtain ⟨limit', hc⟩ := hbc.kept streamId _ hb
    exact ⟨limit', hc⟩
  fresh := fun streamId hnone => hbc.fresh streamId (hab.fresh streamId hnone)
  connectionSentHighWater := hbc.connectionSentHighWater.trans hab.connectionSentHighWater
  remembers := hab.remembers.trans hbc.remembers
  localIds := fun h => hbc.localIds (hab.localIds h)

theorem AdoptsLimits.of_same {a b : QuicStreamLayer} (houtgoing : b.outgoing = a.outgoing)
    (hsent : b.connectionSentHighWater = a.connectionSentHighWater)
    (hremembers : RemembersAlike false a b)
    (hids : a.LocalIds → b.LocalIds) : AdoptsLimits a b where
  kept := fun _ stream hfind => ⟨stream.streamLimit, houtgoing ▸ hfind⟩
  fresh := fun _ hnone => houtgoing ▸ hnone
  connectionSentHighWater := hsent
  remembers := hremembers
  localIds := hids

theorem AdoptsLimits.setLimit (limit : Nat)
    (hfind : layer.outgoing.find? streamId = some stream) :
    AdoptsLimits layer (layer.setOutgoing streamId { stream with streamLimit := limit }) where
  kept := by
    intro k kept hk
    by_cases heq : k = streamId
    · subst heq
      rw [hfind] at hk
      injection hk with hk
      exact ⟨limit, hk ▸ find?_insert_self _ _ _⟩
    · exact ⟨kept.streamLimit, (find?_insert_of_ne _ _ heq).trans hk⟩
  fresh := by
    intro k hk
    have hne : k ≠ streamId := by
      rintro rfl
      rw [hfind] at hk
      cases hk
    exact (find?_insert_of_ne _ _ hne).trans hk
  connectionSentHighWater := rfl
  remembers := ⟨rfl, rfl, rfl, rfl⟩
  localIds := fun h => ⟨h.bidirectional, h.unidirectional, h.isUnidirectional⟩

theorem adoptPeerParameters_limits (layer : QuicStreamLayer)
    (parameters : QuicTransportParameters) :
    AdoptsLimits layer (layer.adoptPeerParameters parameters) := by
  refine foldl_invariant (P := AdoptsLimits layer) (fun layer' streamId hlayer => ?_) _ _ ?_
  · split
    · next hfind _ => exact hlayer.trans (.setLimit _ hfind)
    · exact hlayer
  · exact .of_same rfl rfl ⟨rfl, rfl, rfl, rfl⟩ fun h =>
      ⟨h.bidirectional, h.unidirectional, h.isUnidirectional⟩

namespace SendBalanced

variable {b b' : SendBooks} {retired : List (Nat × OutgoingStream)}

/-- Before the peer's parameters are known nothing was sent, so whatever
limits they bring are above the marks. -/
theorem adopt (h : SendBalanced b retired) (parameters : QuicTransportParameters)
    (hwaiting : b.layer.hasPeerParameters = false) :
    SendBalanced { b with layer := b.layer.adoptPeerParameters parameters }
      retired := by
  have hlimits := adoptPeerParameters_limits b.layer parameters
  have hzero := h.waiting hwaiting
  have htotal := h.total
  have hold : ∀ streamId stream', (b.layer.adoptPeerParameters parameters).outgoing.find? streamId =
        some stream' → ∃ stream limit, b.layer.outgoing.find? streamId = some stream ∧
          stream' = { stream with streamLimit := limit } := by
    intro streamId stream' hfind
    cases hfind' : b.layer.outgoing.find? streamId with
    | none =>
      rw [hlimits.fresh streamId hfind'] at hfind
      cases hfind
    | some stream =>
      obtain ⟨limit, hkept⟩ := hlimits.kept streamId stream hfind'
      rw [hkept] at hfind
      injection hfind with hfind
      exact ⟨stream, limit, rfl, hfind.symm⟩
  refine ⟨?_, ?_, ?_, ?_, h.complete, ?_, ?_, fun _ => ?_, hlimits.localIds h.localIds⟩
  · intro streamId stream' hfind
    obtain ⟨stream, limit, hfind', rfl⟩ := hold streamId stream' hfind
    refine (h.records streamId stream hfind').setLimit ?_
    have hle := le_sumBy (fun stream : OutgoingStream => stream.sentHighWater) hfind'
    omega
  · intro hs streamId stream' hfind
    obtain ⟨stream, limit, hfind', rfl⟩ := hold streamId stream' hfind
    exact h.sorted hs streamId stream hfind'
  · intro streamId hnone hretired
    rw [hlimits.remembers.isStreamSideRetired] at hretired
    refine h.unknown streamId ?_ hretired
    cases hfind : b.layer.outgoing.find? streamId with
    | none => rfl
    | some stream =>
      obtain ⟨limit, hkept⟩ := hlimits.kept streamId stream hfind
      rw [show (b.layer.adoptPeerParameters parameters).outgoing.find?
        streamId = none from hnone] at hkept
      cases hkept
  · intro entry hentry
    obtain ⟨hside, hnone⟩ := h.remembered entry hentry
    rw [hlimits.remembers.isStreamSideRetired]
    exact ⟨hside, hlimits.fresh _ hnone⟩
  · have hsum := sumBy_congr b.layer.outgoing
      (b.layer.adoptPeerParameters parameters).outgoing (·.sentHighWater)
      (fun streamId stream hfind =>
        let ⟨limit, hkept⟩ := hlimits.kept streamId stream hfind
        ⟨_, hkept, rfl⟩) hlimits.fresh
    rw [hsum, hlimits.connectionSentHighWater]
    exact htotal
  · rw [hlimits.connectionSentHighWater, hzero]
    exact Nat.zero_le _
  · exact hlimits.connectionSentHighWater.trans hzero

theorem edit (h : SendBalanced b retired) (hedit : SendEdit b b') : SendBalanced b' retired := by
  cases hedit with
  | other halike => exact h.other halike
  | permute ho ha => exact h.permute ho ha
  | adopt parameters hwaiting => exact h.adopt parameters hwaiting
  | create hnone hopen => exact h.create hnone hopen
  | change hfind hchange => exact h.change hfind hchange
  | acknowledge hout => exact h.acknowledge hout
  | lose hout => exact h.lose hout
  | sortAll => exact h.sortAll
  | send hsorted hparameters hfind hopen hqueue hsendable =>
    exact h.send hsorted hparameters hfind hopen hqueue hsendable

theorem edits (h : SendBalanced b retired) (hedits : SendEdits b b') : SendBalanced b' retired :=
  hedits.invariant (P := fun b => SendBalanced b retired) h fun _ _ hedit hb => hb.edit hedit

end SendBalanced

/-! ## Retirement -/

namespace QuicStreamLayer

/-- Some settled sending records are gone and remembered as retired;
everything else of the sending half is as it was. -/
structure RetiresOutgoing (a b : QuicStreamLayer) : Prop where
  kept : ∀ streamId stream, b.outgoing.find? streamId = some stream →
    a.outgoing.find? streamId = some stream
  settled : ∀ streamId stream, a.outgoing.find? streamId = some stream →
    b.outgoing.find? streamId = none → isOutgoingSettled stream = true ∧
      b.isStreamSideRetired streamId false = true
  monotone : ∀ streamId, a.isStreamSideRetired streamId false = true →
    b.isStreamSideRetired streamId false = true
  connectionSentHighWater : b.connectionSentHighWater = a.connectionSentHighWater
  connectionSendLimit : b.connectionSendLimit = a.connectionSendLimit
  hasPeerParameters : b.hasPeerParameters = a.hasPeerParameters
  localIds : a.LocalIds → b.LocalIds

namespace RetiresOutgoing

variable {a b c layer : QuicStreamLayer}

theorem of_alike (houtgoing : b.outgoing = a.outgoing) (hremembers : RemembersAlike false a b)
    (hsent : b.connectionSentHighWater = a.connectionSentHighWater)
    (hlimit : b.connectionSendLimit = a.connectionSendLimit)
    (hparameters : b.hasPeerParameters = a.hasPeerParameters)
    (hids : a.LocalIds → b.LocalIds) : RetiresOutgoing a b where
  kept := fun _ _ h => houtgoing ▸ h
  settled := by
    intro streamId stream ha hb
    rw [houtgoing, ha] at hb
    cases hb
  monotone := fun streamId h =>
    (hremembers.isStreamSideRetired streamId).trans h
  connectionSentHighWater := hsent
  connectionSendLimit := hlimit
  hasPeerParameters := hparameters
  localIds := hids

theorem trans (hab : RetiresOutgoing a b) (hbc : RetiresOutgoing b c) : RetiresOutgoing a c where
  kept := fun streamId stream h =>
    hab.kept streamId stream (hbc.kept streamId stream h)
  settled := by
    intro streamId stream ha hc
    cases hb : b.outgoing.find? streamId with
    | none =>
      obtain ⟨hs, hr⟩ := hab.settled streamId stream ha hb
      exact ⟨hs, hbc.monotone streamId hr⟩
    | some stream' =>
      have heq := hab.kept streamId stream' hb
      rw [ha] at heq
      injection heq with heq
      subst heq
      exact hbc.settled streamId stream hb hc
  monotone := fun streamId h => hbc.monotone streamId (hab.monotone streamId h)
  connectionSentHighWater := hbc.connectionSentHighWater.trans hab.connectionSentHighWater
  connectionSendLimit := hbc.connectionSendLimit.trans hab.connectionSendLimit
  hasPeerParameters := hbc.hasPeerParameters.trans hab.hasPeerParameters
  localIds := fun h => hbc.localIds (hab.localIds h)

theorem fresh (h : RetiresOutgoing a b) (hnone : a.outgoing.find? streamId = none) :
    b.outgoing.find? streamId = none := by
  cases hfind : b.outgoing.find? streamId with
  | none => rfl
  | some stream =>
    rw [h.kept streamId stream hfind] at hnone
    cases hnone

variable (layer)

theorem noteRetired_fields (streamId : Nat) (side : Bool) :
    (layer.noteRetired streamId side).outgoing = layer.outgoing ∧
      (layer.noteRetired streamId side).connectionSentHighWater = layer.connectionSentHighWater ∧
      (layer.noteRetired streamId side).connectionSendLimit = layer.connectionSendLimit ∧
      (layer.noteRetired streamId side).hasPeerParameters = layer.hasPeerParameters ∧
      (layer.LocalIds → (layer.noteRetired streamId side).LocalIds) := by
  unfold noteRetired
  split <;>
    exact ⟨rfl, rfl, rfl, rfl, fun h =>
      ⟨h.bidirectional, h.unidirectional, h.isUnidirectional⟩⟩

theorem retireIncoming (streamId : Nat) :
    RetiresOutgoing layer (layer.retireIncoming streamId) := by
  rcases retireIncoming_cases layer streamId with heq | ⟨_, _, _, _, heq⟩
  · rw [heq]
    exact of_alike rfl (.refl _) rfl rfl rfl id
  obtain ⟨houtgoing, hsent, hlimit, hparameters, hids⟩ := noteRetired_fields layer streamId true
  have hremembers := RemembersAlike.noteRetired_other layer streamId true false (by decide)
  rw [heq]
  exact of_alike houtgoing ⟨hremembers.1, hremembers.2, hremembers.3,
    hremembers.4⟩ hsent hlimit hparameters fun h =>
      ⟨(hids h).bidirectional, (hids h).unidirectional, (hids h).isUnidirectional⟩

theorem retireOutgoing (streamId : Nat) :
    RetiresOutgoing layer (layer.retireOutgoing streamId) := by
  rcases retireOutgoing_cases layer streamId with
    heq | ⟨stream, hfind, hsettled, hdir, heq⟩
  · rw [heq]
    exact of_alike rfl (.refl _) rfl rfl rfl id
  obtain ⟨_, hsent, hlimit, hparameters, hids⟩ := noteRetired_fields layer streamId false
  rw [heq]
  refine ⟨?_, ?_, fun k h => isStreamSideRetired_mono layer streamId false h,
    hsent, hlimit, hparameters, fun h => ⟨(hids h).bidirectional,
      (hids h).unidirectional, (hids h).isUnidirectional⟩⟩
  · intro k s h
    change (layer.outgoing.erase streamId).find? k = some s at h
    rw [find?_erase] at h
    split at h
    · cases h
    · exact h
  intro k s h h'
  change (layer.outgoing.erase streamId).find? k = none at h'
  rw [find?_erase] at h'
  split at h'
  · next hk =>
    subst hk
    rw [hfind] at h
    injection h with h
    exact ⟨h ▸ hsettled, isStreamSideRetired_note false hdir⟩
  · rw [h] at h'
    cases h'

theorem retireSettledStreams : RetiresOutgoing layer layer.retireSettledStreams := by
  refine trans (b := layer.incoming.keys.foldl QuicStreamLayer.retireIncoming layer) ?_ ?_
  · exact foldl_invariant (P := RetiresOutgoing layer)
      (fun _ k h => h.trans (.retireIncoming _ k)) _ _
      (of_alike rfl (.refl _) rfl rfl rfl id)
  exact foldl_invariant (P := RetiresOutgoing _) (fun _ k h => h.trans (.retireOutgoing _ k)) _ _
    (of_alike rfl (.refl _) rfl rfl rfl id)

end RetiresOutgoing

end QuicStreamLayer

theorem OutgoingStream.Booked.settled {outstanding acknowledged : List Span}
    (h : stream.Booked outstanding acknowledged)
    (hsettled : isOutgoingSettled stream) (hs : stream.IsSending) :
    outstanding = [] ∧ Ledger acknowledged stream.nextWriteOffset stream.finalOffset := by
  unfold isOutgoingSettled at hsettled
  split at hsettled
  · cases hsettled
  next hidle =>
  simp only [Bool.or_eq_true, Bool.not_eq_true', not_or, Bool.not_eq_false,
    List.isEmpty_iff] at hidle
  have hpending : stream.pendingSpans = [] := by
    rw [pendingSpans, hidle.1]
    rfl
  have hinFlight : stream.inFlightSpans = [] := by
    simp [inFlightSpans, values, hidle.2]
  have htransit := h.transit hs
  have hledger := h.ledger hs
  rw [hinFlight] at htransit hledger
  rw [hpending] at hledger
  exact ⟨htransit.eq_nil, hledger⟩

namespace SendBalanced

variable {b : SendBooks} {retired : List (Nat × OutgoingStream)}

theorem retires (h : SendBalanced b retired) (hretires : RetiresOutgoing b.layer layer) :
    SendBalanced { b with layer := layer }
      (departed b.layer.outgoing layer.outgoing ++ retired) where
  records := fun streamId stream hfind =>
    h.records streamId stream (hretires.kept streamId stream hfind)
  sorted := fun hs streamId stream hfind =>
    h.sorted hs streamId stream (hretires.kept streamId stream hfind)
  unknown := by
    intro streamId hnone hopen
    have hopen' : b.layer.isStreamSideRetired streamId false = false := by
      by_contra hside
      rw [hretires.monotone streamId (by simpa using hside)] at hopen
      cases hopen
    refine h.unknown streamId ?_ hopen'
    cases hfind : b.layer.outgoing.find? streamId with
    | none => rfl
    | some stream =>
      rw [(hretires.settled streamId stream hfind hnone).2] at hopen
      cases hopen
  remembered := by
    intro entry hentry
    rcases mem_append.mp hentry with hgone | hold
    · obtain ⟨hfind, hnone⟩ := mem_departed.mp hgone
      exact ⟨(hretires.settled _ _ hfind hnone).2, hnone⟩
    · obtain ⟨hside, hnone⟩ := h.remembered entry hold
      exact ⟨hretires.monotone _ hside, hretires.fresh hnone⟩
  complete := by
    intro entry hentry hsending
    rcases mem_append.mp hentry with hgone | hold
    · obtain ⟨hfind, hnone⟩ := mem_departed.mp hgone
      exact (h.records _ _ hfind).settled (hretires.settled _ _ hfind hnone).1 hsending
    · exact h.complete entry hold hsending
  total := by
    have hsum := sumBy_add_departed b.layer.outgoing layer.outgoing
      (·.sentHighWater) fun streamId stream hfind =>
        ⟨stream, hretires.kept streamId stream hfind, rfl⟩
    rw [map_append, sum_append, ← Nat.add_assoc, hsum, hretires.connectionSentHighWater]
    exact h.total
  within := by
    rw [hretires.connectionSentHighWater, hretires.connectionSendLimit]
    exact h.within
  waiting := by
    rw [hretires.connectionSentHighWater, hretires.hasPeerParameters]
    exact h.waiting
  localIds := hretires.localIds h.localIds

end SendBalanced

/-! ## The run -/

namespace StreamHistory

variable {h : StreamHistory} {e : StreamEvent}
  {parameters : QuicTransportParameters} {role : QuicConnectionRole}

theorem start_balanced (parameters : QuicTransportParameters) (role : QuicConnectionRole) :
    SendBalanced (start parameters role).sendBooks (start parameters role).retiredOutgoing where
  records := fun _ _ hfind => by cases hfind
  sorted := fun _ _ _ hfind => by cases hfind
  unknown := fun _ _ _ => ⟨rfl, rfl⟩
  remembered := fun _ hentry => absurd hentry List.not_mem_nil
  complete := fun _ hentry => absurd hentry List.not_mem_nil
  total := rfl
  within := Nat.le_refl _
  waiting := fun _ => rfl
  localIds := by
    cases role <;>
      constructor <;>
      simp [sendBooks, start, QuicStreamLayer.new, isLocallyInitiated, isUnidirectional]

theorem step_retiredOutgoing
    (hcollect : ∀ frames byteBudget, e ≠ .collectFrames frames byteBudget) :
    (h.step e).retiredOutgoing = h.retiredOutgoing := by
  cases e with
  | collectFrames frames byteBudget =>
    exact absurd rfl (hcollect frames byteBudget)
  | _ => rfl

theorem sendBooks_collectFrames (h : StreamHistory) (frames : Bytes) (byteBudget : Nat) :
    (h.step (.collectFrames frames byteBudget)).sendBooks =
      ⟨(h.layer.collectFrames frames byteBudget).layer,
        (h.layer.collectFrames frames byteBudget).sentRanges ++
          h.inTransit.flatten, h.acknowledged, true⟩ := by
  simp [step, note, sendBooks, QuicStreamLayer.apply]

theorem retiredOutgoing_collectFrames (h : StreamHistory) (frames : Bytes) (byteBudget : Nat) :
    (h.step (.collectFrames frames byteBudget)).retiredOutgoing = departed h.layer.outgoing
        (h.layer.collectFrames frames byteBudget).layer.outgoing ++
          h.retiredOutgoing := by
  simp only [step, note]

theorem balanced_collectFrames {frames : Bytes} {byteBudget : Nat}
    (hinv : SendBalanced h.sendBooks h.retiredOutgoing) :
    SendBalanced (h.step (.collectFrames frames byteBudget)).sendBooks
      (h.step (.collectFrames frames byteBudget)).retiredOutgoing := by
  have hretired : SendBalanced ⟨h.layer.retireSettledStreams,
      h.inTransit.flatten, h.acknowledged, true⟩
      (departed h.layer.outgoing h.layer.retireSettledStreams.outgoing ++ h.retiredOutgoing) :=
    hinv.retires (RetiresOutgoing.retireSettledStreams h.layer)
  have hcollected := hretired.edits (collectFrames_edits h.layer frames
    byteBudget h.inTransit.flatten h.acknowledged)
  have hdeparted : departed h.layer.outgoing
      (h.layer.collectFrames frames byteBudget).layer.outgoing =
      departed h.layer.outgoing
        h.layer.retireSettledStreams.outgoing :=
    filter_congr fun entry _ => by
      rw [collectFrames_held h.layer frames byteBudget entry.1]
  have hperm : (h.inTransit.flatten ++ (h.layer.collectFrames frames byteBudget).sentRanges).Perm
      ((h.layer.collectFrames frames byteBudget).sentRanges ++
        h.inTransit.flatten) := perm_append_comm
  have hpermuted := hcollected.permute hperm (.refl _)
  rw [sendBooks_collectFrames, retiredOutgoing_collectFrames, hdeparted]
  exact hpermuted

theorem balanced_step (hregular : h.Regular e) (hinv : SendBalanced h.sendBooks h.retiredOutgoing) :
    SendBalanced (h.step e).sendBooks (h.step e).retiredOutgoing := by
  by_cases hcollect : ∃ frames byteBudget, e = .collectFrames frames byteBudget
  · obtain ⟨frames, byteBudget, rfl⟩ := hcollect
    exact balanced_collectFrames hinv
  have hother : ∀ frames byteBudget, e ≠ .collectFrames frames byteBudget :=
    fun frames byteBudget heq => hcollect ⟨frames, byteBudget, heq⟩
  rw [step_retiredOutgoing hother]
  exact hinv.edits (step_edits hinv.localIds hregular hother)

theorem Reachable.balanced {extra : StreamHistory → StreamEvent → Prop}
    (hreach : Reachable parameters role extra h) : SendBalanced h.sendBooks h.retiredOutgoing :=
  Reach.invariant (P := fun h : StreamHistory =>
      SendBalanced h.sendBooks h.retiredOutgoing) hreach
    (start_balanced parameters role)
    fun _ _ hinv ok => balanced_step ok.1 hinv

/-- What is promised of the sending half in every state. -/
structure SendsEverything (h : StreamHistory) : Prop where
  /-- Queued, in flight and acknowledged together are all that was
  written, with the FIN once it was requested. -/
  covered : ∀ streamId stream, h.layer.outgoing.find? streamId = some stream → stream.IsSending →
    Ledger (stream.pendingSpans ++ stream.inFlightSpans ++
      spansOf h.acknowledged streamId) stream.nextWriteOffset
      stream.finalOffset
  /-- What was dropped had been acknowledged completely. -/
  complete : ∀ entry ∈ h.retiredOutgoing, entry.2.IsSending →
    Ledger (spansOf h.acknowledged entry.1) entry.2.nextWriteOffset entry.2.finalOffset
  marks : ∀ streamId stream, h.layer.outgoing.find? streamId = some stream →
    stream.sentHighWater ≤ stream.streamLimit
  total : h.layer.outgoing.sumBy (·.sentHighWater) +
    (h.retiredOutgoing.map fun entry => entry.2.sentHighWater).sum = h.layer.connectionSentHighWater
  within : h.layer.connectionSentHighWater ≤ h.layer.connectionSendLimit

/-- In every reachable state nothing written is lost and no limit of the
peer is passed, and one collection never appends more than its budget. -/
theorem no_written_byte_lost (hreach : Reachable parameters role (fun _ _ => True) h) :
    h.SendsEverything ∧ ∀ frames byteBudget,
      (h.layer.collectFrames frames byteBudget).frames.length ≤ frames.length + byteBudget := by
  have hinv := hreach.balanced
  refine ⟨⟨?_, ?_, ?_, hinv.total, hinv.within⟩, collectFrames_within h.layer⟩
  · exact fun streamId stream hfind hs =>
      (hinv.records streamId stream hfind).ledger hs
  · exact fun entry hentry hs => (hinv.complete entry hentry hs).2
  · exact fun streamId stream hfind =>
      (hinv.records streamId stream hfind).within

/-- Three bytes and a FIN are sent, lost, sent again and acknowledged. -/
def retransmittingRun : List StreamEvent :=
  [.adoptPeerParameters exampleParameters, .writeStreamData 0 [1, 2, 3] true,
    .collectFrames [] 1200, .sendRangesLost [⟨0, 0, 3, true⟩],
    .collectFrames [] 1200, .sendRangesAcknowledged [⟨0, 0, 3, true⟩]]

theorem no_written_byte_lost_retransmitting :
    (retransmittingRun.foldl step (start exampleParameters .server)).SendsEverything := by
  have hreach : Reachable exampleParameters .server (fun _ _ => True)
      (retransmittingRun.foldl step (start exampleParameters .server)) := by
    refine Reach.run .start _ ?_
    exact ⟨⟨by decide, trivial⟩, ⟨by decide, trivial⟩, ⟨by decide, trivial⟩,
      ⟨by decide, trivial⟩, ⟨by decide, trivial⟩, ⟨by decide, trivial⟩,
      trivial⟩
  exact (no_written_byte_lost hreach).1

end StreamHistory

end AsynGyanis.Quic
