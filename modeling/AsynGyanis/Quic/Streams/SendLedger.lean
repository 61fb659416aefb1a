import AsynGyanis.Library.Ledger
import AsynGyanis.Quic.Streams.Packing

/-!
# The ledger of one sending stream

For a stream whose sending was not aborted the chunks queued, the chunks
in flight and the ranges acknowledged form a ledger of everything the
application wrote: they tile it without a gap and carry the FIN exactly
when it was requested. `Booked` says so of one record, given the spans of
the stream that are under way and those that were acknowledged, and this
module proves that each thing that can happen to a record keeps it booked.

The ledger and the stream's limit need each other. That the next chunk
never begins above the high-water mark, so that what it adds to the mark
is at most the credit, holds because everything before it was sent, and
that is read off the ledger (`front_le_mark`).
-/

namespace AsynGyanis.Quic

open Library QuicStreamLayer List SortedMap

def QuicStreamChunk.span (chunk : QuicStreamChunk) : Span :=
  ⟨chunk.beginOffset, chunk.beginOffset + chunk.bytes.length, chunk.isFinal⟩

def QuicStreamRange.span (range : QuicStreamRange) : Span :=
  ⟨range.beginOffset, range.endOffset, range.isFinal⟩

/-- The spans of those ranges that belong to one stream. -/
def spansOf (ranges : List QuicStreamRange) (streamId : Nat) : List Span :=
  (ranges.filter fun range => range.streamId = streamId).map (·.span)

namespace OutgoingStream

def pendingSpans (stream : OutgoingStream) : List Span := stream.pendingQueue.map (·.span)

def inFlightSpans (stream : OutgoingStream) : List Span := stream.inFlight.values.map (·.span)

/-- Neither end has aborted the sending. -/
structure IsSending (stream : OutgoingStream) : Prop where
  unstopped : stream.isAborted = false
  unreset : stream.sendAbort = none

/-- The queue is in the order of its offsets. -/
def QueueSorted (stream : OutgoingStream) : Prop :=
  stream.pendingQueue.Pairwise fun a b => a.beginOffset ≤ b.beginOffset

/-- What is written and where it is, given the spans still under way and
those acknowledged. -/
structure Booked (stream : OutgoingStream) (outstanding acknowledged :
    List Span) : Prop where
  stopped : stream.isAborted = true → stream.pendingQueue = []
  reset : stream.sendAbort.isSome = true → stream.pendingQueue = [] ∧ stream.inFlight = .empty ∧
      stream.finalOffset.isSome = true
  finalSent : stream.isFinalSentToPeer = true → stream.finalOffset.isSome = true
  within : stream.sentHighWater ≤ stream.streamLimit
  keyed : ∀ k chunk, stream.inFlight.find? k = some chunk → chunk.beginOffset = k
  ledger : stream.IsSending → Ledger (stream.pendingSpans ++ stream.inFlightSpans ++ acknowledged)
      stream.nextWriteOffset stream.finalOffset
  transit : stream.IsSending → outstanding.Perm stream.inFlightSpans
  sent : stream.IsSending → ∀ span ∈ stream.inFlightSpans ++ acknowledged,
    span.endOffset ≤ stream.sentHighWater

variable {stream stream' : OutgoingStream}
  {outstanding acknowledged : List Span}

theorem Booked.fresh (streamLimit : Nat) :
    ({ streamLimit := streamLimit } : OutgoingStream).Booked [] [] where
  stopped := fun h => by cases h
  reset := fun h => by cases h
  finalSent := fun h => by cases h
  within := Nat.zero_le _
  keyed := fun _ _ h => by cases h
  ledger := fun _ => Ledger.nil
  transit := fun _ => List.Perm.nil
  sent := fun _ _ h => absurd h not_mem_nil

theorem Booked.perm {outstanding' acknowledged' : List Span}
    (h : stream.Booked outstanding acknowledged) (ho : outstanding.Perm outstanding')
    (ha : acknowledged.Perm acknowledged') : stream.Booked outstanding' acknowledged' where
  stopped := h.stopped
  reset := h.reset
  finalSent := h.finalSent
  within := h.within
  keyed := h.keyed
  ledger := fun hs => (h.ledger hs).perm (ha.append_left _)
  transit := fun hs => ho.symm.trans (h.transit hs)
  sent := fun hs span hspan =>
    h.sent hs span ((ha.append_left _).mem_iff.mpr hspan)

theorem Booked.isSending (h : stream.Booked outstanding acknowledged)
    (hopen : stream.isAborted = false) (hlive : stream.finalOffset = none) :
    stream.IsSending where
  unstopped := hopen
  unreset := by
    cases habort : stream.sendAbort with
    | none => rfl
    | some abort =>
      have hfinal := (h.reset (by rw [habort]; rfl)).2.2
      rw [hlive] at hfinal
      cases hfinal

/-! ## Changes that send nothing -/

theorem Booked.append (h : stream.Booked outstanding acknowledged)
    {bytes : Bytes} {count : Nat} {isFinal : Bool}
    (hopen : stream.isAborted = false) (hlive : stream.finalOffset = none)
    (hcount : count ≤ bytes.length) (hsome : count = 0 → bytes = [] ∧ isFinal) :
    (appendChunk stream bytes count isFinal).Booked outstanding
      acknowledged := by
  have hsending := h.isSending hopen hlive
  have hledger := h.ledger hsending
  rw [hlive] at hledger
  have hgrown := hledger.append count
    (decide (count = bytes.length) && isFinal) (by
      intro hclosing
      by_contra hzero
      obtain ⟨hbytes, hfinal⟩ := hsome (by omega)
      have hcount' : count = bytes.length := by
        rw [hbytes, length_nil]
        omega
      rw [decide_eq_true hcount', hfinal] at hclosing
      cases hclosing)
  refine ⟨?_, ?_, ?_, h.within, h.keyed, fun _ => ?_,
    fun _ => h.transit hsending, fun _ => h.sent hsending⟩
  · intro hstopped
    rw [show (appendChunk stream bytes count isFinal).isAborted =
      stream.isAborted from rfl, hopen] at hstopped
    cases hstopped
  · intro hreset
    rw [show (appendChunk stream bytes count isFinal).sendAbort =
      stream.sendAbort from rfl, hsending.unreset] at hreset
    cases hreset
  · intro hfinal
    have hsome' := h.finalSent hfinal
    rw [hlive] at hsome'
    cases hsome'
  have hspans : (appendChunk stream bytes count isFinal).pendingSpans =
      stream.pendingSpans ++ [⟨stream.nextWriteOffset, stream.nextWriteOffset + count,
        decide (count = bytes.length) && isFinal⟩] := by
    simp only [pendingSpans, appendChunk, map_append, map_cons,
      map_nil, QuicStreamChunk.span, length_take,
      Nat.min_eq_left hcount]
  have hfinal : (appendChunk stream bytes count isFinal).finalOffset =
      if decide (count = bytes.length) && isFinal then
        some (stream.nextWriteOffset + count) else none := by
    simp only [appendChunk, hlive]
  rw [hspans, hfinal]
  refine hgrown.perm ?_
  show List.Perm (_ :: (stream.pendingSpans ++ stream.inFlightSpans ++
    acknowledged)) (stream.pendingSpans ++ [_] ++ stream.inFlightSpans ++ acknowledged)
  rw [append_assoc stream.pendingSpans [_], append_assoc stream.pendingSpans,
    append_assoc stream.pendingSpans]
  exact perm_middle.symm

theorem Booked.of_aborted (h : stream.Booked outstanding acknowledged)
    (habort : ¬ stream'.IsSending) (hqueue : stream'.pendingQueue = [])
    (hreset : stream'.sendAbort.isSome → stream'.inFlight = .empty ∧ stream'.finalOffset.isSome)
    (hfinal : stream'.isFinalSentToPeer → stream'.finalOffset.isSome)
    (hmark : stream'.sentHighWater = stream.sentHighWater)
    (hlimit : stream'.streamLimit = stream.streamLimit)
    (hkeyed : ∀ k chunk, stream'.inFlight.find? k = some chunk → chunk.beginOffset = k) :
    stream'.Booked outstanding acknowledged where
  stopped := fun _ => hqueue
  reset := fun hsome => ⟨hqueue, hreset hsome⟩
  finalSent := hfinal
  within := by rw [hmark, hlimit]; exact h.within
  keyed := hkeyed
  ledger := fun hs => absurd hs habort
  transit := fun hs => absurd hs habort
  sent := fun hs => absurd hs habort

theorem Booked.stop (h : stream.Booked outstanding acknowledged) (code : Nat) :
    (stopOutgoing stream code).Booked outstanding acknowledged := by
  unfold stopOutgoing
  dsimp only
  split
  · refine h.of_aborted (fun hs => ?_) rfl (fun _ => ⟨rfl, rfl⟩)
      (fun _ => rfl) rfl rfl fun k chunk hfind => ?_
    · have hstopped := hs.unstopped
      cases hstopped
    · cases hfind
  · refine h.of_aborted (fun hs => ?_) rfl (fun hsome => (h.reset hsome).2)
      h.finalSent rfl rfl h.keyed
    have hstopped := hs.unstopped
    cases hstopped

theorem Booked.resetSending (h : stream.Booked outstanding acknowledged) (code : Nat) :
    (resetOutgoing stream code).Booked outstanding acknowledged := by
  refine h.of_aborted (fun hs => ?_) rfl (fun _ => ⟨rfl, rfl⟩)
    (fun _ => rfl) rfl rfl fun k chunk hfind => ?_
  · have hreset := hs.unreset
    cases hreset
  · cases hfind

theorem Booked.setLimit (h : stream.Booked outstanding acknowledged)
    {limit : Nat} (hle : stream.sentHighWater ≤ limit) :
    OutgoingStream.Booked { stream with streamLimit := limit } outstanding acknowledged where
  stopped := h.stopped
  reset := h.reset
  finalSent := h.finalSent
  within := hle
  keyed := h.keyed
  ledger := fun hs => h.ledger ⟨hs.unstopped, hs.unreset⟩
  transit := fun hs => h.transit ⟨hs.unstopped, hs.unreset⟩
  sent := fun hs => h.sent ⟨hs.unstopped, hs.unreset⟩

theorem Booked.change (h : stream.Booked outstanding acknowledged)
    (hchange : OutgoingChange stream stream') : stream'.Booked outstanding acknowledged := by
  cases hchange with
  | raiseLimit hlimit => exact h.setLimit (Nat.le_trans h.within hlimit)
  | append hopen hlive hcount hsome => exact h.append hopen hlive hcount hsome
  | stop code => exact h.stop code
  | reset hsent hlive => exact h.resetSending _
  | announce update =>
    have hsame : ∀ hs : OutgoingStream.IsSending { stream with
        sendAbort := stream.sendAbort.map update }, stream.IsSending :=
      fun hs => ⟨hs.unstopped, Option.map_eq_none_iff.mp hs.unreset⟩
    refine ⟨h.stopped, fun hsome => h.reset ?_, h.finalSent, h.within,
      h.keyed, fun hs => h.ledger (hsame hs), fun hs => h.transit (hsame hs),
      fun hs => h.sent (hsame hs)⟩
    simpa using hsome

/-! ## Acknowledgement and loss -/

variable {range : QuicStreamRange}

theorem Booked.inFlight_of_outstanding (h : stream.Booked (range.span :: outstanding) acknowledged)
    (hs : stream.IsSending) :
    ∃ chunk, stream.inFlight.find? range.beginOffset = some chunk ∧ chunk.span = range.span ∧
      stream.inFlightSpans.Perm (range.span ::
        (stream.inFlight.erase range.beginOffset).values.map (·.span)) := by
  have hmem : range.span ∈ stream.inFlightSpans := (h.transit hs).mem_iff.mp mem_cons_self
  obtain ⟨chunk, hchunk, hspan⟩ := mem_map.mp hmem
  obtain ⟨k, hfind⟩ := mem_values_iff.mp hchunk
  have hkey : k = range.beginOffset :=
    (h.keyed k chunk hfind).symm.trans (congrArg Span.beginOffset hspan)
  subst hkey
  refine ⟨chunk, hfind, hspan, ?_⟩
  have hperm := (values_erase_perm hfind).map (fun chunk : QuicStreamChunk => chunk.span)
  rw [map_cons, hspan] at hperm
  exact hperm

theorem Booked.keyed_erase (h : stream.Booked outstanding acknowledged)
    (beginOffset : Nat) : ∀ k chunk, (stream.inFlight.erase beginOffset).find? k = some chunk →
      chunk.beginOffset = k := by
  intro k chunk hfind
  rw [find?_erase] at hfind
  split at hfind
  · cases hfind
  · exact h.keyed k chunk hfind

theorem Booked.acknowledge (h : stream.Booked (range.span :: outstanding) acknowledged) :
    OutgoingStream.Booked { stream with
      inFlight := stream.inFlight.erase range.beginOffset } outstanding
      (range.span :: acknowledged) := by
  have hsame : ∀ hs : OutgoingStream.IsSending { stream with
      inFlight := stream.inFlight.erase range.beginOffset },
      stream.IsSending := fun hs => ⟨hs.unstopped, hs.unreset⟩
  refine ⟨h.stopped, ?_, h.finalSent, h.within, h.keyed_erase _, ?_, ?_, ?_⟩
  · intro hreset
    obtain ⟨hqueue, hempty, hfinal⟩ := h.reset hreset
    refine ⟨hqueue, ?_, hfinal⟩
    rw [hempty]
    rfl
  · intro hs
    obtain ⟨chunk, _, _, hperm⟩ := h.inFlight_of_outstanding (hsame hs)
    refine (h.ledger (hsame hs)).perm ?_
    rw [append_assoc]
    refine .trans (.append_left _ (hperm.append_right _)) ?_
    show List.Perm _ (stream.pendingSpans ++ _ ++ _)
    rw [append_assoc]
    exact .append_left _ perm_middle.symm
  · intro hs
    obtain ⟨chunk, _, _, hperm⟩ := h.inFlight_of_outstanding (hsame hs)
    exact ((h.transit (hsame hs)).trans hperm).cons_inv
  · intro hs span hspan
    obtain ⟨chunk, _, _, hperm⟩ := h.inFlight_of_outstanding (hsame hs)
    refine h.sent (hsame hs) span ?_
    refine ((hperm.append_right acknowledged).mem_iff).mpr ?_
    exact perm_middle.mem_iff.mp hspan

/-- A range that was reported and is not in flight belongs to a stream
whose sending was aborted. -/
theorem Booked.lose_nothing (h : stream.Booked (range.span :: outstanding) acknowledged)
    (hnone : stream.inFlight.find? range.beginOffset = none) :
    stream.Booked outstanding acknowledged := by
  have habort : ¬ stream.IsSending := by
    intro hs
    obtain ⟨chunk, hfind, _⟩ := h.inFlight_of_outstanding hs
    rw [hnone] at hfind
    cases hfind
  exact ⟨h.stopped, h.reset, h.finalSent, h.within, h.keyed,
    fun hs => absurd hs habort, fun hs => absurd hs habort,
    fun hs => absurd hs habort⟩

theorem Booked.lose {lost : QuicStreamChunk}
    (h : stream.Booked (range.span :: outstanding) acknowledged)
    (hfind : stream.inFlight.find? range.beginOffset = some lost) :
    (requeueLost stream range lost).Booked outstanding acknowledged := by
  have hunreset : stream.sendAbort = none := by
    cases habort : stream.sendAbort with
    | none => rfl
    | some abort =>
      have hempty := (h.reset (by rw [habort]; rfl)).2.1
      rw [hempty] at hfind
      cases hfind
  have hfinal : (!range.isFinal && stream.isFinalSentToPeer) →
      stream.finalOffset.isSome := by
    intro hsent
    rw [Bool.and_eq_true] at hsent
    exact h.finalSent hsent.2
  unfold requeueLost
  dsimp only
  split
  · next hstopped =>
    have hclosed : ∀ {P : Prop}, stream.isAborted = false → P := by
      intro P hopen
      rw [hstopped] at hopen
      cases hopen
    refine ⟨fun _ => h.stopped hstopped, ?_, hfinal, h.within,
      h.keyed_erase _, fun hs => hclosed hs.unstopped,
      fun hs => hclosed hs.unstopped, fun hs => hclosed hs.unstopped⟩
    intro hsome
    rw [hunreset] at hsome
    cases hsome
  rename_i hopen
  have hs : stream.IsSending := ⟨by simpa using hopen, hunreset⟩
  obtain ⟨chunk, hchunk, hspan, hperm⟩ := h.inFlight_of_outstanding hs
  rw [hfind] at hchunk
  injection hchunk with hchunk
  subst hchunk
  have hback : QuicStreamChunk.span { lost with isFinal := range.isFinal } =
      range.span := by
    have hfinal : lost.isFinal = range.isFinal := congrArg Span.isFinal hspan
    rw [← hspan, ← hfinal]
  refine ⟨fun hstopped => absurd hstopped hopen, ?_, hfinal, h.within,
    h.keyed_erase _, fun _ => ?_, fun _ => ?_, fun _ => ?_⟩
  · intro hsome
    rw [hunreset] at hsome
    cases hsome
  · refine (h.ledger hs).perm ?_
    show List.Perm _ (QuicStreamChunk.span { lost with
      isFinal := range.isFinal } :: stream.pendingSpans ++
      (stream.inFlight.erase range.beginOffset).values.map (·.span) ++ acknowledged)
    rw [hback, append_assoc, append_assoc, cons_append]
    refine .trans (.append_left _ (hperm.append_right _)) ?_
    exact perm_middle
  · exact ((h.transit hs).trans hperm).cons_inv
  · intro span hspan
    refine h.sent hs span ((hperm.append_right acknowledged).mem_iff.mpr ?_)
    exact mem_cons_of_mem _ hspan

/-! ## Sending -/

section Send

variable {front : QuicStreamChunk} {rest : List QuicStreamChunk}
  {layer : QuicStreamLayer} {count : Nat}

theorem Booked.sending_of_queue (h : stream.Booked outstanding acknowledged)
    (hopen : stream.isAborted = false)
    (hqueue : stream.pendingQueue = front :: rest) : stream.IsSending where
  unstopped := hopen
  unreset := by
    cases habort : stream.sendAbort with
    | none => rfl
    | some abort =>
      have hempty := (h.reset (by rw [habort]; rfl)).1
      rw [hqueue] at hempty
      cases hempty

theorem Booked.front_ledger (h : stream.Booked outstanding acknowledged)
    (hs : stream.IsSending) (hqueue : stream.pendingQueue = front :: rest) :
    Ledger (front.span :: (rest.map (·.span) ++ stream.inFlightSpans ++
      acknowledged)) stream.nextWriteOffset stream.finalOffset := by
  have hledger := h.ledger hs
  rw [pendingSpans, hqueue, map_cons] at hledger
  exact hledger

/-- The front of a sorted queue does not begin above the high-water mark:
whatever precedes it has been sent. -/
theorem Booked.front_le_mark (h : stream.Booked outstanding acknowledged)
    (hs : stream.IsSending) (hqueue : stream.pendingQueue = front :: rest)
    (hsorted : stream.QueueSorted) : front.beginOffset ≤ stream.sentHighWater := by
  refine (h.front_ledger hs hqueue).begin_le_mark fun span hspan => ?_
  rw [append_assoc] at hspan
  rcases mem_append.mp hspan with hpending | hsent
  · obtain ⟨chunk, hchunk, rfl⟩ := mem_map.mp hpending
    rw [QueueSorted, hqueue] at hsorted
    exact .inr ((pairwise_cons.mp hsorted).1 chunk hchunk)
  · exact .inl (h.sent hs span hsent)

theorem Booked.mark_within_credit (h : stream.Booked outstanding acknowledged)
    (hs : stream.IsSending) (hqueue : stream.pendingQueue = front :: rest)
    (hsorted : stream.QueueSorted) (hsendable : Sendable layer stream front count) :
    front.beginOffset + count ≤ stream.sentHighWater + layer.sendCreditOf stream := by
  have hfront := h.front_le_mark hs hqueue hsorted
  have hcredit := hsendable.credit
  unfold sendableByteCountOf at hcredit
  dsimp only at hcredit
  omega

theorem Booked.front_fresh (h : stream.Booked outstanding acknowledged)
    (hs : stream.IsSending) (hqueue : stream.pendingQueue = front :: rest) :
    stream.inFlight.find? front.beginOffset = none := by
  cases hfind : stream.inFlight.find? front.beginOffset with
  | none => rfl
  | some chunk =>
    have hkey := h.keyed _ _ hfind
    have hmem : chunk.span ∈ rest.map (·.span) ++ stream.inFlightSpans ++
        acknowledged :=
      mem_append_left _ (mem_append_right _ (mem_map.mpr
        ⟨chunk, mem_values_iff.mpr ⟨_, hfind⟩, rfl⟩))
    have hapart := (pairwise_cons.mp (h.front_ledger hs hqueue).apart).1 _ hmem
    exact absurd hkey.symm hapart.1

/-- The ledger after the front chunk gave `count` bytes to a frame. -/
theorem Booked.sent_ledger (h : stream.Booked outstanding acknowledged)
    (hs : stream.IsSending) (hqueue : stream.pendingQueue = front :: rest)
    (hsendable : Sendable layer stream front count) (streamId : Nat) :
    Ledger ((sendFromQueue stream front rest count).pendingSpans ++
        ((sentRange streamId front count).span :: stream.inFlightSpans) ++
        acknowledged)
      stream.nextWriteOffset stream.finalOffset := by
  have hledger := h.front_ledger hs hqueue
  by_cases hall : count = front.bytes.length
  · have hspan : (sentRange streamId front count).span = front.span := by
      simp [sentRange, QuicStreamRange.span, QuicStreamChunk.span, hall]
    have hpending : (sendFromQueue stream front rest count).pendingSpans = rest.map (·.span) := by
      simp only [sendFromQueue, pendingSpans, if_pos hall]
    rw [hspan, hpending]
    refine hledger.perm ?_
    rw [append_assoc, append_assoc, cons_append]
    exact perm_middle.symm
  have hpos : 0 < count := by
    by_contra hzero
    have hempty := (hsendable.empty (by omega)).2
    rw [hempty, length_nil] at hall
    omega
  have hinside := hsendable.inside
  have hlt : count < front.bytes.length := by omega
  have hsplit := Ledger.split (front.beginOffset + count) hledger (by omega) (by omega)
  have hspan : (sentRange streamId front count).span =
      ⟨front.beginOffset, front.beginOffset + count, false⟩ := by
    simp [sentRange, QuicStreamRange.span, hall]
  have hpending : (sendFromQueue stream front rest count).pendingSpans =
      ⟨front.beginOffset + count, front.beginOffset + front.bytes.length,
        front.isFinal⟩ :: rest.map (·.span) := by
    simp only [sendFromQueue, pendingSpans, if_neg hall, map_cons,
      QuicStreamChunk.span, length_drop]
    congr 2
    omega
  rw [hspan, hpending]
  refine hsplit.perm ?_
  rw [append_assoc, append_assoc, cons_append, cons_append]
  refine .trans ?_ (List.Perm.cons _ perm_middle.symm)
  exact .swap _ _ _

theorem Booked.send (h : stream.Booked outstanding acknowledged) (hopen : stream.isAborted = false)
    (hqueue : stream.pendingQueue = front :: rest) (hsorted : stream.QueueSorted)
    (hsendable : Sendable layer stream front count) (streamId : Nat) :
    (sendFromQueue stream front rest count).Booked
      (outstanding ++ [(sentRange streamId front count).span])
      acknowledged := by
  have hs := h.sending_of_queue hopen hqueue
  have hfresh := h.front_fresh hs hqueue
  have hledger := h.front_ledger hs hqueue
  have hmark := h.mark_within_credit hs hqueue hsorted hsendable
  have hwithin := h.within
  have hchunk : QuicStreamChunk.span ⟨front.beginOffset,
      front.bytes.take count, front.isFinal && count = front.bytes.length⟩ =
        (sentRange streamId front count).span := by
    have hlength := hsendable.inside
    simp [QuicStreamChunk.span, sentRange, QuicStreamRange.span, Nat.min_eq_left hlength]
  have hinFlight : (sendFromQueue stream front rest count).inFlightSpans.Perm
      ((sentRange streamId front count).span :: stream.inFlightSpans) := by
    rw [← hchunk]
    exact (SortedMap.values_insert_perm _ hfresh).map _
  refine ⟨?_, ?_, ?_, ?_, ?_, fun _ => ?_, fun _ => ?_, fun _ => ?_⟩
  · intro hstopped
    rw [show (sendFromQueue stream front rest count).isAborted =
      stream.isAborted from rfl, hopen] at hstopped
    cases hstopped
  · intro hsome
    rw [show (sendFromQueue stream front rest count).sendAbort =
      stream.sendAbort from rfl, hs.unreset] at hsome
    cases hsome
  · intro hsent
    simp only [sendFromQueue, Bool.or_eq_true, Bool.and_eq_true] at hsent
    rcases hsent with hsent | ⟨hfinal, _⟩
    · exact h.finalSent hsent
    have hend := hledger.final_end front.span mem_cons_self hfinal
    show stream.finalOffset.isSome
    rw [hend]
    rfl
  · show max stream.sentHighWater (front.beginOffset + count) ≤ stream.streamLimit
    unfold sendCreditOf at hmark
    omega
  · intro k chunk hfind
    simp only [sendFromQueue, SortedMap.find?_insert] at hfind
    split at hfind
    · next hk =>
      injection hfind with hfind
      rw [← hfind, hk]
    · exact h.keyed k chunk hfind
  · refine (h.sent_ledger hs hqueue hsendable streamId).perm ?_
    exact .append_right _ (.append_left _ hinFlight.symm)
  · refine .trans ?_ hinFlight.symm
    refine .trans (perm_append_comm) ?_
    exact .cons _ (h.transit hs)
  · intro span hspan
    have hmem := ((hinFlight.append_right acknowledged).mem_iff).mp hspan
    show span.endOffset ≤ max stream.sentHighWater (front.beginOffset + count)
    rcases mem_cons.mp hmem with rfl | hold
    · exact Nat.le_max_right _ _
    · exact Nat.le_trans (h.sent hs span hold) (Nat.le_max_left _ _)

theorem Booked.send_sorted (h : stream.Booked outstanding acknowledged)
    (hopen : stream.isAborted = false) (hqueue : stream.pendingQueue = front :: rest)
    (hsorted : stream.QueueSorted) (hinside : count ≤ front.bytes.length) :
    (sendFromQueue stream front rest count).QueueSorted := by
  rw [QueueSorted, hqueue] at hsorted
  obtain ⟨hfirst, hrest⟩ := pairwise_cons.mp hsorted
  have hledger := h.front_ledger (h.sending_of_queue hopen hqueue) hqueue
  unfold QueueSorted sendFromQueue
  split
  · exact hrest
  refine pairwise_cons.mpr ⟨fun chunk hchunk => ?_, hrest⟩
  have hmem : chunk.span ∈ rest.map (·.span) ++ stream.inFlightSpans ++
      acknowledged :=
    mem_append_left _ (mem_append_left _ (mem_map_of_mem hchunk))
  have hapart := (pairwise_cons.mp hledger.apart).1 _ hmem
  have horder := hfirst chunk hchunk
  simp only [Span.Apart, QuicStreamChunk.span] at hapart
  dsimp only
  omega

end Send

theorem Booked.change_sorted (h : stream.Booked outstanding acknowledged)
    (hchange : OutgoingChange stream stream') (hsorted : stream.QueueSorted) :
    stream'.QueueSorted := by
  cases hchange with
  | raiseLimit hlimit => exact hsorted
  | append hopen hlive hcount hsome =>
    have hledger := h.ledger (h.isSending hopen hlive)
    refine pairwise_append.mpr ⟨hsorted, pairwise_singleton _ _, ?_⟩
    intro chunk hchunk last hlast
    rw [mem_singleton.mp hlast]
    have hinside := hledger.inside chunk.span (mem_append_left _
      (mem_append_left _ (mem_map_of_mem hchunk)))
    exact Nat.le_trans hinside.1 hinside.2
  | stop code =>
    unfold stopOutgoing
    dsimp only
    split <;> exact List.Pairwise.nil
  | reset hsent hlive => exact List.Pairwise.nil
  | announce update => exact hsorted

theorem change_mark (hchange : OutgoingChange stream stream') :
    stream'.sentHighWater = stream.sentHighWater := by
  cases hchange with
  | stop code =>
    unfold stopOutgoing
    dsimp only
    split <;> rfl
  | _ => rfl

theorem sortPendingQueue_sorted (stream : OutgoingStream) :
    (sortPendingQueue stream).QueueSorted := by
  have htotal : Std.Total fun a b : QuicStreamChunk =>
      a.beginOffset ≤ b.beginOffset :=
    ⟨fun a b => Nat.le_total _ _⟩
  have htrans : IsTrans QuicStreamChunk fun a b =>
      a.beginOffset ≤ b.beginOffset :=
    ⟨fun _ _ _ => Nat.le_trans⟩
  exact pairwise_insertionSort _ _

theorem Booked.sort (h : stream.Booked outstanding acknowledged) :
    (sortPendingQueue stream).Booked outstanding acknowledged := by
  have hperm : (sortPendingQueue stream).pendingSpans.Perm
      stream.pendingSpans := (perm_insertionSort _ _).map _
  have hempty : stream.pendingQueue = [] → (sortPendingQueue stream).pendingQueue = [] := by
    intro hnil
    simp only [sortPendingQueue, hnil]
    rfl
  refine ⟨fun hstopped => hempty (h.stopped hstopped), fun hreset =>
    ⟨hempty (h.reset hreset).1, (h.reset hreset).2⟩, h.finalSent, h.within,
    h.keyed, fun hs => ?_, fun hs => h.transit ⟨hs.unstopped, hs.unreset⟩,
    fun hs => h.sent ⟨hs.unstopped, hs.unreset⟩⟩
  refine (h.ledger ⟨hs.unstopped, hs.unreset⟩).perm ?_
  exact .append_right _ (.append_right _ hperm.symm)

end OutgoingStream

end AsynGyanis.Quic
