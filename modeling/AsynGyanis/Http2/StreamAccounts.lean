import AsynGyanis.Http2.StreamSteps
import AsynGyanis.Http2.ReceiveCredit

/-!
# The accounts of the streams

Three accounts are kept along every run. The counter of open streams is
the number of records that are not closed, the closed records are those
the connection remembers, and both stay within their bounds
(`StreamsSound`). Requests are handed over in the order of their stream
numbers, because header blocks are not interleaved and a request's block
belongs to the newest stream (`RequestsSound`). The first GOAWAY fixes the
stream number of all later ones, and from then on no stream begins whose
request could lie above it (`GoAwaySound`).

`streams_accounted` adds what the table alone cannot say, since it forgets
old streams: the streams that ever began are, each once, the live ones and
those that have ended. `goAway_bounds_requests` is what a client needs in
order to retry.
-/

namespace AsynGyanis.Http2

open Library Relation List SortedMap StreamLedger StreamRecord

/-! ## The table -/

def StreamRecord.openWeight (stream : StreamRecord) : Nat :=
  if stream.state = .closed then 0 else 1

variable {old new : StreamRecord}

theorem StreamRecord.Touches.closed_iff
    (h : old.Touches new) : new.state = .closed ↔ old.state = .closed := by
  rcases h.state with hsame | ⟨hopen, hhalf | hhalf⟩
  · rw [hsame]
  · rw [hopen, hhalf]
    decide
  · rw [hopen, hhalf]
    decide

theorem find?_foldl_erase (evicted : List Nat)
    (streams : SortedMap Nat StreamRecord) (streamId : Nat) :
    (evicted.foldl (fun streams id => streams.erase id) streams).find? streamId =
        if streamId ∈ evicted then none else streams.find? streamId := by
  induction evicted generalizing streams with
  | nil => simp
  | cons first rest ih =>
    rw [foldl_cons, ih, find?_erase]
    by_cases hrest : streamId ∈ rest
    · simp [hrest]
    by_cases hfirst : streamId = first
    · simp [hfirst]
    · simp [hrest, hfirst]

theorem sumBy_foldl_erase {f : StreamRecord → Nat} (evicted : List Nat)
    {streams : SortedMap Nat StreamRecord}
    (h : ∀ id ∈ evicted, ∀ stream, streams.find? id = some stream → f stream = 0) :
    (evicted.foldl (fun streams id => streams.erase id) streams).sumBy f = streams.sumBy f := by
  have hsum := sumBy_add_departed streams
    (evicted.foldl (fun streams id => streams.erase id) streams) f
    fun id stream hstream =>
      ⟨stream, Http2Connection.find?_of_find?_foldl_erase evicted hstream,
        rfl⟩
  have hdeparted : ((departed streams (evicted.foldl
      (fun streams id => streams.erase id) streams)).map fun entry => f entry.2).sum = 0 := by
    refine sum_eq_zero fun weight hweight => ?_
    obtain ⟨⟨id, stream⟩, hentry, rfl⟩ := mem_map.mp hweight
    obtain ⟨hstream, hgone⟩ := mem_departed.mp hentry
    rw [find?_foldl_erase] at hgone
    split at hgone
    · next hevicted => exact h id hevicted stream hstream
    · rw [hstream] at hgone
      cases hgone
  omega

/-- The counters and the table agree. -/
structure StreamsSound (l : StreamLedger) : Prop where
  known : StreamsKnown l
  remembered : ∀ streamId, streamId ∈ l.terminatedStreamIds ↔
    ∃ stream, l.streams.find? streamId = some stream ∧ stream.state = .closed
  nodup : l.terminatedStreamIds.Nodup
  bounded : l.terminatedStreamIds.length ≤ kTerminatedStreamMemoryCount
  counted : l.openStreamCount = l.streams.sumBy openWeight
  room : l.openStreamCount ≤ l.maximumConcurrentStreams

variable {streamId : Nat}

namespace StreamsSound

variable {l l' : StreamLedger}

theorem of_same (h : StreamsSound l) (hstreams : l'.streams = l.streams)
    (hterminated : l'.terminatedStreamIds = l.terminatedStreamIds)
    (hcount : l'.openStreamCount = l.openStreamCount)
    (hmaximum : l'.maximumConcurrentStreams = l.maximumConcurrentStreams)
    (hhighest : l'.highestPeerStreamId = l.highestPeerStreamId) : StreamsSound l' where
  known := by
    intro streamId stream hstream
    rw [hstreams] at hstream
    rw [hhighest]
    exact h.known hstream
  remembered := by
    rw [hterminated, hstreams]
    exact h.remembered
  nodup := hterminated ▸ h.nodup
  bounded := hterminated ▸ h.bounded
  counted := by rw [hcount, hstreams, h.counted]
  room := by rw [hcount, hmaximum]; exact h.room

theorem of_records (h : StreamsSound l) (streams : SortedMap Nat StreamRecord)
    (hkept : ∀ streamId old, l.streams.find? streamId = some old →
      ∃ new, streams.find? streamId = some new ∧ (new.state = .closed ↔ old.state = .closed))
    (hfresh : ∀ streamId, l.streams.find? streamId = none → streams.find? streamId = none) :
    StreamsSound { l with streams := streams } where
  known := by
    intro streamId new hnew
    cases hold : l.streams.find? streamId with
    | none =>
      have hnone : streams.find? streamId = none := hfresh streamId hold
      rw [show StreamLedger.streams _ = streams from rfl, hnone] at hnew
      cases hnew
    | some old => exact h.known hold
  remembered := by
    intro streamId
    rw [h.remembered streamId]
    constructor
    · rintro ⟨old, hold, hclosed⟩
      obtain ⟨new, hnew, hiff⟩ := hkept streamId old hold
      exact ⟨new, hnew, hiff.mpr hclosed⟩
    rintro ⟨new, hnew, hclosed⟩
    cases hold : l.streams.find? streamId with
    | none =>
      rw [hfresh streamId hold] at hnew
      cases hnew
    | some old =>
      obtain ⟨new', hnew', hiff⟩ := hkept streamId old hold
      rw [hnew'] at hnew
      injection hnew with hnew
      subst hnew
      exact ⟨old, rfl, hiff.mp hclosed⟩
  nodup := h.nodup
  bounded := h.bounded
  counted := by
    refine h.counted.trans (Eq.symm ?_)
    refine sumBy_congr l.streams streams openWeight (fun streamId old hold => ?_) hfresh
    obtain ⟨new, hnew, hiff⟩ := hkept streamId old hold
    refine ⟨new, hnew, ?_⟩
    unfold openWeight
    simp only [hiff]
  room := h.room

theorem setStream (h : StreamsSound l) (hold : l.streams.find? streamId = some old)
    (hiff : new.state = .closed ↔ old.state = .closed) :
    StreamsSound (l.setStream streamId new) := by
  refine h.of_records _ (fun other record hrecord => ?_) fun other hnone => ?_
  · rw [find?_insert]
    split
    · next heq =>
      subst heq
      rw [hold] at hrecord
      injection hrecord with hrecord
      exact ⟨new, rfl, hrecord ▸ hiff⟩
    · exact ⟨record, hrecord, Iff.rfl⟩
  · rw [find?_insert]
    split
    · next heq =>
      subst heq
      rw [hold] at hnone
      cases hnone
    · exact hnone

/-- A record that changes so along with fields that do not matter here. -/
theorem of_record (h : StreamsSound l) (hold : l.streams.find? streamId = some old)
    (hstreams : l'.streams = l.streams.insert streamId new) (hstate : new.state = old.state)
    (hterminated : l'.terminatedStreamIds = l.terminatedStreamIds)
    (hcount : l'.openStreamCount = l.openStreamCount)
    (hmaximum : l'.maximumConcurrentStreams = l.maximumConcurrentStreams)
    (hhighest : l'.highestPeerStreamId = l.highestPeerStreamId) : StreamsSound l' := by
  have hset : StreamsSound (l.setStream streamId new) := h.setStream hold (by rw [hstate])
  exact hset.of_same hstreams hterminated hcount hmaximum hhighest

theorem forget (hknown : StreamsKnown l) {terminated : List Nat}
    (hremembered : ∀ streamId, streamId ∈ terminated ↔
      ∃ stream, l.streams.find? streamId = some stream ∧ stream.state = .closed)
    (hnodup : terminated.Nodup)
    (hcounted : l.openStreamCount = l.streams.sumBy openWeight)
    (hroom : l.openStreamCount ≤ l.maximumConcurrentStreams)
    (evictedCount : Nat)
    (hbounded : (terminated.drop evictedCount).length ≤ kTerminatedStreamMemoryCount) :
    StreamsSound { l with
      streams := (terminated.take evictedCount).foldl
        (fun streams evicted => streams.erase evicted) l.streams
      terminatedStreamIds := terminated.drop evictedCount } where
  known := fun hstream =>
    hknown (Http2Connection.find?_of_find?_foldl_erase _ hstream)
  remembered := by
    have hsplit := hnodup
    rw [← take_append_drop evictedCount terminated, nodup_append] at hsplit
    intro streamId
    simp only [find?_foldl_erase]
    constructor
    · intro hdrop
      rw [if_neg fun htake => hsplit.2.2 streamId htake streamId hdrop rfl]
      exact (hremembered streamId).mp (mem_of_mem_drop hdrop)
    rintro ⟨stream, hstream, hclosed⟩
    split at hstream
    · cases hstream
    rename_i hkept
    have hall := (hremembered streamId).mpr ⟨stream, hstream, hclosed⟩
    rw [← take_append_drop evictedCount terminated] at hall
    exact (mem_append.mp hall).resolve_left hkept
  nodup := hnodup.sublist (drop_sublist evictedCount terminated)
  bounded := hbounded
  counted := by
    refine hcounted.trans (Eq.symm ?_)
    refine sumBy_foldl_erase _ fun streamId hevicted stream hstream => ?_
    obtain ⟨closed, hclosed, hstate⟩ := (hremembered streamId).mp (mem_of_mem_take hevicted)
    rw [hstream] at hclosed
    injection hclosed with hclosed
    subst hclosed
    exact if_pos hstate
  room := hroom

/-- A stream that has just been closed is remembered, at the price of the
oldest one. -/
theorem remember (hknown : StreamsKnown l)
    (hremembered : ∀ other, other ∈ l.terminatedStreamIds ++ [streamId] ↔
      ∃ stream, l.streams.find? other = some stream ∧ stream.state = .closed)
    (hnodup : (l.terminatedStreamIds ++ [streamId]).Nodup)
    (hcounted : l.openStreamCount = l.streams.sumBy openWeight)
    (hroom : l.openStreamCount ≤ l.maximumConcurrentStreams) :
    StreamsSound (l.remember streamId) := by
  refine forget hknown hremembered hnodup hcounted hroom _ ?_
  rw [length_drop]
  omega

theorem terminate (h : StreamsSound l) (termination : StreamTermination)
    (hold : l.streams.find? streamId = some old) (hopen : old.state ≠ .closed) :
    StreamsSound ({ l.setStream streamId (Http2Connection.terminatedRecord old termination) with
        openStreamCount := l.openStreamCount - 1 }.remember streamId) := by
  have hfresh : streamId ∉ l.terminatedStreamIds := by
    intro hmem
    obtain ⟨stream, hstream, hclosed⟩ := (h.remembered streamId).mp hmem
    rw [hold] at hstream
    injection hstream with hstream
    exact hopen (hstream ▸ hclosed)
  have hweight := SortedMap.sumBy_overwrite StreamRecord.openWeight
    (Http2Connection.terminatedRecord old termination) hold
  have hold_weight : old.openWeight = 1 := if_neg hopen
  have hnew_weight : (Http2Connection.terminatedRecord old termination).openWeight = 0 := if_pos rfl
  have hcounted := h.counted
  have hroom := h.room
  refine remember ?_ (fun other => ?_) ?_ ?_ ?_
  · intro other stream hstream
    simp only [StreamLedger.setStream, SortedMap.find?_insert] at hstream
    split at hstream
    · next heq =>
      subst heq
      exact h.known hold
    · exact h.known hstream
  · rw [mem_append, mem_singleton]
    simp only [StreamLedger.setStream, SortedMap.find?_insert]
    by_cases heq : other = streamId
    · simp [heq, Http2Connection.terminatedRecord]
    · simp only [heq, or_false, if_false]
      exact h.remembered other
  · refine nodup_append.mpr ⟨h.nodup, nodup_cons.mpr ⟨not_mem_nil, nodup_nil⟩, ?_⟩
    rintro a ha b hb rfl
    rw [mem_singleton.mp hb] at ha
    exact hfresh ha
  · show l.openStreamCount - 1 = SortedMap.sumBy _ (l.streams.insert _ _)
    omega
  · show l.openStreamCount - 1 ≤ l.maximumConcurrentStreams
    omega

theorem quiet (h : StreamsSound l) (hmove : QuietMove l l') : StreamsSound l' := by
  cases hmove with
  | emit | enter | announce | fail | beginBlock | endBlock | request =>
    exact h.of_same rfl rfl rfl rfl rfl
  | touch streamId old new hold htouches =>
    exact h.setStream hold htouches.closed_iff
  | terminate streamId old termination hold hopen =>
    exact h.terminate termination hold hopen

theorem grant (h : StreamsSound l) (hmove : GrantMove l l') : StreamsSound l' := by
  cases hmove with
  | quiet hquiet => exact h.quiet hquiet
  | connection | setting | spent =>
    exact h.of_same rfl rfl rfl rfl rfl
  | stream streamId old increment hid hold =>
    exact h.of_record hold rfl rfl rfl rfl rfl rfl
  | initialWindow value streams hshift =>
    refine (h.of_records streams (fun streamId old hold => ?_)
      fun streamId hnone => ?_).of_same rfl rfl rfl rfl rfl
    · refine ⟨_, by rw [hshift, hold]; rfl, ?_⟩
      unfold shift
      split <;> exact Iff.rfl
    · rw [hshift, hnone]
      rfl
  | spoil streams hfailed hsame =>
    refine h.of_records _ (fun streamId old hold => ?_) fun streamId hnone => ?_
    · have hrel := hsame streamId
      rw [hold] at hrel
      cases hnew : streams.find? streamId with
      | none =>
        rw [hnew] at hrel
        cases hrel
      | some new =>
        rw [hnew] at hrel
        cases hrel with
        | some hwindow =>
          refine ⟨new, rfl, ?_⟩
          rw [hwindow]
    · have hrel := hsame streamId
      rw [hnone] at hrel
      cases hnew : streams.find? streamId with
      | none => rfl
      | some new =>
        rw [hnew] at hrel
        cases hrel

theorem accept (h : StreamsSound l) (hmove : Accepts l l') : StreamsSound l' := by
  cases hmove with
  | queue streamId old data isEndStreamPending halive hold =>
    exact h.of_record hold rfl rfl rfl rfl rfl rfl
  | direct streamId old data endStream halive hold =>
    exact h.of_record hold rfl rfl rfl rfl rfl rfl

theorem send (h : StreamsSound l) (hmove : SendMove l l') : StreamsSound l' := by
  cases hmove with
  | quiet hquiet => exact h.quiet hquiet
  | segment streamId old byteCount endStream isEndStreamPending halive hold =>
    exact h.of_record hold rfl rfl rfl rfl rfl rfl
  | ending streamId old halive hold =>
    exact h.of_record hold rfl rfl rfl rfl rfl rfl

theorem begin (h : StreamsSound l) (hmove : Begins l l') : StreamsSound l' := by
  cases hmove with
  | openStream streamId receiveWindow hfresh hclosing halive hroom =>
    have hnone : l.streams.find? streamId = none := by
      cases hfound : l.streams.find? streamId with
      | none => rfl
      | some stream => exact absurd (h.known hfound) (by omega)
    refine ⟨?_, fun other => ?_, h.nodup, h.bounded, ?_, hroom⟩
    · intro other stream hstream
      simp only [StreamLedger.setStream, SortedMap.find?_insert] at hstream
      show other ≤ streamId
      split at hstream
      · omega
      · have hused := h.known hstream
        omega
    · simp only [StreamLedger.setStream, SortedMap.find?_insert]
      rw [h.remembered other]
      split
      · next heq =>
        subst heq
        simp [hnone]
      · exact Iff.rfl
    · show l.openStreamCount + 1 = SortedMap.sumBy _ (l.streams.insert streamId _)
      rw [SortedMap.sumBy_insert_of_none _ _ hnone, ← h.counted, Nat.add_comm]
      rfl
  | refuse streamId hfresh =>
    have hnone : l.streams.find? streamId = none := by
      cases hfound : l.streams.find? streamId with
      | none => rfl
      | some stream => exact absurd (h.known hfound) (by omega)
    refine remember ?_ (fun other => ?_) ?_ ?_ h.room
    · intro other stream hstream
      simp only [StreamLedger.setStream, StreamLedger.emit, SortedMap.find?_insert] at hstream
      show other ≤ streamId
      split at hstream
      · omega
      · have hused := h.known hstream
        omega
    · simp only [StreamLedger.setStream, StreamLedger.emit,
        SortedMap.find?_insert, mem_append, mem_singleton]
      by_cases heq : other = streamId
      · simp [heq]
      · simp only [heq, or_false, if_false]
        exact h.remembered other
    · refine nodup_append.mpr ⟨h.nodup, nodup_cons.mpr ⟨not_mem_nil, nodup_nil⟩, ?_⟩
      rintro a ha b hb rfl
      rw [mem_singleton.mp hb] at ha
      obtain ⟨stream, hstream, _⟩ := (h.remembered streamId).mp ha
      rw [hnone] at hstream
      cases hstream
    · show l.openStreamCount = SortedMap.sumBy _ (l.streams.insert streamId _)
      rw [SortedMap.sumBy_insert_of_none _ _ hnone, ← h.counted]
      exact (Nat.zero_add _).symm

end StreamsSound

/-! ## Requests and GOAWAY -/

/-- The stream number a GOAWAY announces. -/
def OutgoingFrame.goAwayId : OutgoingFrame → Option Nat
  | .goAway payload => some payload.lastStreamId
  | _ => none

def goAwayIds (frames : List OutgoingFrame) : List Nat := frames.filterMap OutgoingFrame.goAwayId

theorem goAwayIds_append (a b : List OutgoingFrame) :
    goAwayIds (a ++ b) = goAwayIds a ++ goAwayIds b := filterMap_append

theorem goAwayIds_of_isPlain {frames : List OutgoingFrame}
    (h : ∀ f ∈ frames, f.isPlain) : goAwayIds frames = [] := by
  refine filterMap_eq_nil_iff.mpr fun f hf => ?_
  have hplain := h f hf
  cases f with
  | goAway payload => cases hplain
  | _ => rfl

/-- What the requests and the GOAWAY frames depend on. -/
structure RequestSide where
  state : Http2ConnectionState
  isAssemblingHeaderBlock : Bool
  pendingHeaderStreamId : Nat
  pendingHeaderPurpose : HeaderBlockPurpose
  highestPeerStreamId : Nat
  goAwayLastStreamId : Option Nat
  goAwayIds : List Nat
  requests : List Nat

def StreamLedger.requestSide (l : StreamLedger) : RequestSide where
  state := l.state
  isAssemblingHeaderBlock := l.isAssemblingHeaderBlock
  pendingHeaderStreamId := l.pendingHeaderStreamId
  pendingHeaderPurpose := l.pendingHeaderPurpose
  highestPeerStreamId := l.highestPeerStreamId
  goAwayLastStreamId := l.goAwayLastStreamId
  goAwayIds := goAwayIds l.emitted
  requests := l.requests

/-- A request's header block is being assembled. -/
def RequestSide.AwaitsRequest (r : RequestSide) : Prop :=
  r.isAssemblingHeaderBlock = true ∧ r.pendingHeaderPurpose = .request

/-- Requests come in the order of their streams, the one being assembled
last; once a GOAWAY went out, none of them lies above its stream number. -/
structure RequestsSound (r : RequestSide) : Prop where
  ordered : r.requests.Pairwise (· < ·)
  below : ∀ id ∈ r.requests, id ≤ r.highestPeerStreamId
  awaited : r.AwaitsRequest → r.pendingHeaderStreamId ≤ r.highestPeerStreamId ∧
      ∀ id ∈ r.requests, id < r.pendingHeaderStreamId
  announced : ∀ id ∈ r.goAwayIds, r.goAwayLastStreamId = some id
  fixed : ∀ id, r.goAwayLastStreamId = some id → (r.state = .closing ∨ r.state = .failed) ∧
      id ≤ r.highestPeerStreamId ∧ (∀ request ∈ r.requests, request ≤ id) ∧
      (r.AwaitsRequest → r.pendingHeaderStreamId ≤ id)

namespace RequestsSound

variable {r : RequestSide} {l l' : StreamLedger}

theorem unfixed (h : RequestsSound r) (hclosing : r.state ≠ .closing)
    (hfailed : r.state ≠ .failed) : r.goAwayLastStreamId = none := by
  cases hfixed : r.goAwayLastStreamId with
  | none => rfl
  | some id => exact absurd (h.fixed id hfixed).1 (by simp [hclosing, hfailed])

theorem of_same (h : RequestsSound l.requestSide)
    (hsame : l'.requestSide = l.requestSide) : RequestsSound l'.requestSide := hsame ▸ h

theorem emitting (h : RequestsSound l.requestSide)
    (frames : List OutgoingFrame) (hframes : goAwayIds frames = [])
    (hsame : l'.requestSide = { l.requestSide with
      goAwayIds := goAwayIds (l.emitted ++ frames) }) :
    RequestsSound l'.requestSide := by
  rw [hsame, goAwayIds_append, hframes, append_nil]
  exact h

theorem endBlock (h : RequestsSound r) :
    RequestsSound { r with isAssemblingHeaderBlock := false } where
  ordered := h.ordered
  below := h.below
  awaited := fun hawaits => absurd hawaits.1 Bool.false_ne_true
  announced := h.announced
  fixed := fun id hid =>
    ⟨(h.fixed id hid).1, (h.fixed id hid).2.1, (h.fixed id hid).2.2.1,
      fun hawaits => absurd hawaits.1 Bool.false_ne_true⟩

theorem announce (h : RequestsSound l.requestSide)
    (state : Http2ConnectionState) (errorCode : Http2ErrorCode)
    (debugData : Bytes) (hstate : state = .closing ∨ state = .failed) :
    RequestsSound (l.announce state errorCode debugData).requestSide := by
  let fixed := l.goAwayLastStreamId.getD l.highestPeerStreamId
  have hinside : fixed ≤ l.highestPeerStreamId ∧ (∀ request ∈ l.requests, request ≤ fixed) ∧
      (l.requestSide.AwaitsRequest → l.pendingHeaderStreamId ≤ fixed) := by
    cases hgoAway : l.goAwayLastStreamId with
    | none =>
      have hfixed : fixed = l.highestPeerStreamId := by
        simp only [fixed, hgoAway, Option.getD]
      rw [hfixed]
      exact ⟨Nat.le_refl _, h.below, fun hawaits => (h.awaited hawaits).1⟩
    | some id =>
      have hfixed : fixed = id := by simp only [fixed, hgoAway, Option.getD]
      rw [hfixed]
      exact (h.fixed id hgoAway).2
  refine ⟨h.ordered, h.below, h.awaited, fun id hid => ?_, fun id hid => ?_⟩
  · have hold : goAwayIds (l.announce state errorCode debugData).emitted =
        goAwayIds l.emitted ++ [fixed] := by
      simp only [StreamLedger.announce, goAwayIds_append]
      congr 1
      exact congrArg (fun n => [n]) (Nat.min_eq_left hinside.1)
    rw [show RequestSide.goAwayIds _ = _ from hold, mem_append, mem_singleton] at hid
    show some fixed = some id
    rcases hid with hid | hid
    · have hbefore : l.goAwayLastStreamId = some id := h.announced id hid
      simp only [fixed, hbefore, Option.getD]
    · rw [hid]
  · injection hid with hid
    rw [← hid]
    exact ⟨hstate, hinside⟩

theorem quiet (h : RequestsSound l.requestSide) (hmove : QuietMove l l') :
    RequestsSound l'.requestSide := by
  cases hmove with
  | emit frames hplain =>
    exact h.emitting _ (goAwayIds_of_isPlain hplain) rfl
  | enter state henters =>
    -- a state that can be left silently is not closing
    have hnone : l.goAwayLastStreamId = none := by
      have hstate : l.state ≠ .closing ∧ l.state ≠ .failed := by
        cases hl : l.state <;> rw [hl] at henters <;> cases henters <;>
          decide
      exact h.unfixed hstate.1 hstate.2
    refine ⟨h.ordered, h.below, h.awaited, h.announced, fun id hid => ?_⟩
    have hid : l.goAwayLastStreamId = some id := hid
    rw [hnone] at hid
    cases hid
  | announce debugData hopen =>
    exact h.announce .closing _ _ (.inl rfl)
  | fail errorCode debugData halive =>
    exact RequestsSound.announce
      (l := { l with isAssemblingHeaderBlock := false }) h.endBlock .failed
      _ _ (.inr rfl)
  | beginBlock streamId purpose hother =>
    refine ⟨h.ordered, h.below, fun hawaits => absurd hawaits.2 hother,
      h.announced, fun id hid => ?_⟩
    have hfixed := h.fixed id hid
    exact ⟨hfixed.1, hfixed.2.1, hfixed.2.2.1, fun hawaits => absurd hawaits.2 hother⟩
  | endBlock => exact h.endBlock
  | request hassembling hpurpose =>
    have hawaited := h.awaited ⟨hassembling, hpurpose⟩
    refine ⟨pairwise_append.mpr ⟨h.ordered, pairwise_singleton _ _,
        fun a ha b hb => ?_⟩, fun id hid => ?_,
      fun hawaits => absurd hawaits.1 Bool.false_ne_true, h.announced,
      fun id hid => ?_⟩
    · rw [mem_singleton.mp hb]
      exact hawaited.2 a ha
    · rcases mem_append.mp hid with hid | hid
      · exact h.below id hid
      · rw [mem_singleton.mp hid]
        exact hawaited.1
    have hfixed := h.fixed id hid
    refine ⟨hfixed.1, hfixed.2.1, fun request hrequest => ?_,
      fun hawaits => absurd hawaits.1 Bool.false_ne_true⟩
    rcases mem_append.mp hrequest with hrequest | hrequest
    · exact hfixed.2.2.1 request hrequest
    · rw [mem_singleton.mp hrequest]
      exact hfixed.2.2.2 ⟨hassembling, hpurpose⟩
  | touch => exact h.of_same rfl
  | terminate =>
    rw [remember_eq]
    exact h.of_same (by
      simp only [requestSide, setStream])

theorem grant (h : RequestsSound l.requestSide) (hmove : GrantMove l l') :
    RequestsSound l'.requestSide := by
  cases hmove with
  | quiet hquiet => exact h.quiet hquiet
  | connection | stream | spent | initialWindow | setting | spoil =>
    exact h.of_same rfl

theorem accept (h : RequestsSound l.requestSide) (hmove : Accepts l l') :
    RequestsSound l'.requestSide := by
  cases hmove with
  | queue => exact h.of_same rfl
  | direct streamId old data endStream =>
    exact h.emitting [.data streamId data endStream] rfl rfl

theorem send (h : RequestsSound l.requestSide) (hmove : SendMove l l') :
    RequestsSound l'.requestSide := by
  cases hmove with
  | quiet hquiet => exact h.quiet hquiet
  | segment streamId old byteCount endStream =>
    exact h.emitting [.data streamId (old.sendQueue.remaining.take byteCount) endStream] rfl rfl
  | ending streamId =>
    exact h.emitting [.data streamId [] true] rfl rfl

/-- No stream begins once a GOAWAY went out, except to be refused. -/
theorem begin (h : RequestsSound l.requestSide) (hmove : Begins l l') :
    RequestsSound l'.requestSide := by
  cases hmove with
  | openStream streamId receiveWindow hfresh hclosing halive hroom =>
    have hnone := h.unfixed hclosing halive
    have hbelow : ∀ id ∈ l.requests, id < streamId := fun id hid =>
      Nat.lt_of_le_of_lt (h.below id hid) hfresh
    refine ⟨h.ordered, fun id hid => Nat.le_of_lt (hbelow id hid),
      fun _ => ⟨Nat.le_refl _, hbelow⟩, h.announced, fun id hid => ?_⟩
    have hid : l.goAwayLastStreamId = some id := hid
    rw [show l.goAwayLastStreamId = none from hnone] at hid
    cases hid
  | refuse streamId hfresh =>
    have hraised : RequestsSound { l.requestSide with
        highestPeerStreamId := streamId } := by
      have hle : l.highestPeerStreamId ≤ streamId := Nat.le_of_lt hfresh
      refine ⟨h.ordered, fun id hid => Nat.le_trans (h.below id hid) hle,
        fun hawaits => ?_, h.announced, fun id hid => ?_⟩
      · have hawaited := h.awaited hawaits
        exact ⟨Nat.le_trans hawaited.1 hle, hawaited.2⟩
      · have hfixed := h.fixed id hid
        exact ⟨hfixed.1, Nat.le_trans hfixed.2.1 hle, hfixed.2.2⟩
    exact RequestsSound.emitting (l := { l with highestPeerStreamId := streamId }) hraised
      [.rstStream streamId .refusedStream] rfl rfl

end RequestsSound

/-! ## Live streams -/

/-- The streams with a record that is not closed are among these. -/
def LiveWithin (live : Nat → Prop) (l : StreamLedger) : Prop :=
  ∀ streamId stream, l.streams.find? streamId = some stream → stream.state ≠ .closed → live streamId

/-- No stream is live that was not, and the highest number stays. -/
structure Settled (l l' : StreamLedger) : Prop where
  live : ∀ {live}, LiveWithin live l → LiveWithin live l'
  highest : l'.highestPeerStreamId = l.highestPeerStreamId

namespace Settled

variable {l l' : StreamLedger}

theorem of_same (hstreams : l'.streams = l.streams)
    (hhighest : l'.highestPeerStreamId = l.highestPeerStreamId) : Settled l l' where
  live := by
    intro live h streamId stream hstream
    rw [hstreams] at hstream
    exact h streamId stream hstream
  highest := hhighest

theorem of_record (hold : l.streams.find? streamId = some old)
    (hstreams : l'.streams = l.streams.insert streamId new)
    (hclosed : old.state = .closed → new.state = .closed)
    (hhighest : l'.highestPeerStreamId = l.highestPeerStreamId) : Settled l l' where
  live := by
    intro live h other stream hstream hopen
    rw [hstreams, find?_insert] at hstream
    split at hstream
    · next heq =>
      injection hstream with hstream
      subst heq hstream
      exact h _ _ hold fun hold_closed => hopen (hclosed hold_closed)
    · exact h _ _ hstream hopen
  highest := hhighest

theorem quiet (hmove : QuietMove l l') : Settled l l' := by
  cases hmove with
  | emit | enter | announce | fail | beginBlock | endBlock | request =>
    exact of_same rfl rfl
  | touch streamId old new hold htouches =>
    exact of_record hold rfl htouches.closed_iff.mpr rfl
  | terminate streamId old termination hold hopen =>
    rw [remember_eq]
    refine ⟨fun {live} h other stream hstream hlive => ?_, rfl⟩
    simp only [remember] at hstream
    have hset := Http2Connection.find?_of_find?_foldl_erase _ hstream
    simp only [setStream, find?_insert] at hset
    split at hset
    · injection hset with hset
      subst hset
      exact absurd rfl hlive
    · exact h _ _ hset hlive

theorem grant (hmove : GrantMove l l') : Settled l l' := by
  cases hmove with
  | quiet hquiet => exact quiet hquiet
  | connection | spent | setting => exact of_same rfl rfl
  | stream streamId old increment hid hold =>
    exact of_record hold rfl id rfl
  | initialWindow value streams hshift =>
    refine ⟨fun {live} h streamId stream hstream hopen => ?_, rfl⟩
    have hstream : streams.find? streamId = some stream := hstream
    rw [hshift, Option.map_eq_some_iff] at hstream
    obtain ⟨old, hold, hnew⟩ := hstream
    refine h _ _ hold fun hclosed => hopen ?_
    rw [← hnew, shift, if_pos hclosed]
    exact hclosed
  | spoil streams hfailed hsame =>
    refine ⟨fun {live} h streamId stream hstream hopen => ?_, rfl⟩
    have hstream : streams.find? streamId = some stream := hstream
    have hrel := hsame streamId
    rw [hstream] at hrel
    cases hold : l.streams.find? streamId with
    | none =>
      rw [hold] at hrel
      cases hrel
    | some old =>
      rw [hold] at hrel
      cases hrel with
      | some hwindow =>
        refine h _ _ hold fun hclosed => hopen ?_
        rw [hwindow]
        exact hclosed

theorem accept (hmove : Accepts l l') : Settled l l' := by
  cases hmove with
  | queue streamId old data isEndStreamPending halive hold =>
    exact of_record hold rfl id rfl
  | direct streamId old data endStream halive hold =>
    exact of_record hold rfl id rfl

theorem send (hmove : SendMove l l') : Settled l l' := by
  cases hmove with
  | quiet hquiet => exact quiet hquiet
  | segment streamId old byteCount endStream isEndStreamPending halive hold =>
    exact of_record hold rfl id rfl
  | ending streamId old halive hold => exact of_record hold rfl id rfl

theorem trans {l'' : StreamLedger} (h : Settled l l') (h' : Settled l' l'') : Settled l l'' :=
  ⟨fun hlive => h'.live (h.live hlive), h'.highest.trans h.highest⟩

theorem refl (l : StreamLedger) : Settled l l := of_same rfl rfl

theorem sends (h : Sends l l') : Settled l l' := keeps_of_moves (P := Settled l)
    (fun _ _ hmove hbefore => hbefore.trans (send hmove)) h (refl l)

theorem answers (h : Answers l l') : Settled l l' := by
  obtain ⟨granted, hgrants, hsends⟩ := h
  have hgranted := keeps_of_moves (P := Settled l)
    (fun _ _ hmove hbefore => hbefore.trans (grant hmove)) hgrants (refl l)
  exact hgranted.trans (sends hsends)

end Settled

/-- An event makes at most one stream live, and that one is then the
highest. -/
theorem StepMoves.live {l l' : StreamLedger} (h : StepMoves l l')
    {live : Nat → Prop} (hlive : LiveWithin live l) :
    (l'.highestPeerStreamId = l.highestPeerStreamId ∧ LiveWithin live l') ∨
      (l.highestPeerStreamId < l'.highestPeerStreamId ∧
        LiveWithin (fun id => live id ∨ id = l'.highestPeerStreamId) l') := by
  rcases h with ⟨begun, rfl | hbegun, hanswers⟩ | ⟨accepted, haccepts, hsends⟩
  · have hsettled := Settled.answers hanswers
    exact .inl ⟨hsettled.highest, hsettled.live hlive⟩
  · have hsettled := Settled.answers hanswers
    refine .inr ?_
    rw [hsettled.highest]
    cases hbegun with
    | openStream streamId receiveWindow hfresh hclosing halive hroom =>
      refine ⟨hfresh, hsettled.live fun other stream hstream hopen => ?_⟩
      simp only [setStream, find?_insert] at hstream
      split at hstream
      · next heq => exact .inr heq
      · exact .inl (hlive _ _ hstream hopen)
    | refuse streamId hfresh =>
      refine ⟨hfresh, hsettled.live fun other stream hstream hopen => ?_⟩
      simp only [remember] at hstream
      have hset := Http2Connection.find?_of_find?_foldl_erase _ hstream
      simp only [setStream, emit, find?_insert] at hset
      split at hset
      · injection hset with hset
        subst hset
        exact absurd rfl hopen
      · exact .inl (hlive _ _ hset hopen)
  · have hsettled := (Settled.accept haccepts).trans (Settled.sends hsends)
    exact .inl ⟨hsettled.highest, hsettled.live hlive⟩

theorem QuietMove.maximum {l l' : StreamLedger} (h : QuietMove l l') :
    l'.maximumConcurrentStreams = l.maximumConcurrentStreams := by
  cases h with
  | terminate => simp only [remember, setStream]
  | _ => rfl

theorem StepMoves.maximum {l l' : StreamLedger} (h : StepMoves l l') :
    l'.maximumConcurrentStreams = l.maximumConcurrentStreams := by
  refine h.keeps (P := fun l' =>
    l'.maximumConcurrentStreams = l.maximumConcurrentStreams)
    (fun a b hmove hbefore => ?_) (fun a b hmove hbefore => ?_)
    (fun a b hmove hbefore => ?_) (fun a b hmove hbefore => ?_) rfl
  · cases hmove with
    | openStream => exact hbefore
    | refuse =>
      simpa only [remember, setStream, emit] using hbefore
  · cases hmove <;> exact hbefore
  · cases hmove with
    | quiet hquiet => exact hquiet.maximum.trans hbefore
    | _ => exact hbefore
  · cases hmove with
    | quiet hquiet => exact hquiet.maximum.trans hbefore
    | _ => exact hbefore

/-! ## Whole runs -/

namespace Http2Connection

variable {D E H : Type}

/-- The streams whose closed record is still remembered. -/
def closedStreamIds (c : Http2Connection D E H) : List Nat :=
  (c.streams.entries.filter fun entry => entry.2.state = .closed).map (·.1)

variable {c : Http2Connection D E H}

theorem mem_liveStreamIds : streamId ∈ c.liveStreamIds ↔ ∃ stream,
      c.streams.find? streamId = some stream ∧ stream.state ≠ .closed := by
  simp only [liveStreamIds, mem_map, mem_filter, Prod.exists,
    mem_entries_iff, decide_eq_true_eq, exists_and_right,
    exists_eq_right]

theorem mem_closedStreamIds : streamId ∈ c.closedStreamIds ↔ ∃ stream,
      c.streams.find? streamId = some stream ∧ stream.state = .closed := by
  simp only [closedStreamIds, mem_map, mem_filter, Prod.exists,
    mem_entries_iff, decide_eq_true_eq, exists_and_right,
    exists_eq_right]

theorem liveStreamIds_nodup (c : Http2Connection D E H) : c.liveStreamIds.Nodup :=
  c.streams.keys_nodup.sublist (filter_sublist.map _)

theorem closedStreamIds_nodup (c : Http2Connection D E H) : c.closedStreamIds.Nodup :=
  c.streams.keys_nodup.sublist (filter_sublist.map _)

theorem length_liveStreamIds (c : Http2Connection D E H) :
    c.liveStreamIds.length = c.streams.sumBy StreamRecord.openWeight := by
  have hentries : ∀ entries : List (Nat × StreamRecord),
      (entries.filter fun entry => entry.2.state ≠ .closed).length =
        (entries.map fun entry => entry.2.openWeight).sum := by
    intro entries
    induction entries with
    | nil => rfl
    | cons entry rest ih =>
      by_cases hclosed : entry.2.state = .closed
      · simp [openWeight, hclosed] at ih ⊢
        exact ih
      · simp [openWeight, hclosed] at ih ⊢
        omega
  rw [liveStreamIds, length_map, hentries]
  simp [SortedMap.sumBy, SortedMap.values, Function.comp_def]

theorem liveStreamIds_perm {c' : Http2Connection D E H}
    (hnodup : (c.liveStreamIds ++ begunBetween c c').Nodup)
    (hlive : ∀ id ∈ c'.liveStreamIds, id ∈ c.liveStreamIds ++ begunBetween c c') :
    (c.liveStreamIds ++ begunBetween c c').Perm (c'.liveStreamIds ++ endedBetween c c') := by
  have hsplit := (filter_append_perm (fun id => decide (id ∈ c'.liveStreamIds))
    (c.liveStreamIds ++ begunBetween c c')).symm
  have hkept : ((c.liveStreamIds ++ begunBetween c c').filter fun id =>
      decide (id ∈ c'.liveStreamIds)).Perm c'.liveStreamIds := by
    refine (perm_ext_iff_of_nodup (hnodup.filter _) c'.liveStreamIds_nodup).mpr fun id => ?_
    rw [mem_filter, decide_eq_true_eq]
    exact ⟨fun h => h.2, fun h => ⟨hlive id h, h⟩⟩
  refine hsplit.trans (hkept.append ?_)
  simp only [endedBetween, decide_not]
  exact .refl _

end Http2Connection

namespace StreamHistory

open Http2Connection

variable {D E H : Type}

structure Accounted (maximumConcurrentStreams : Nat)
    (s : StreamHistory D E H) : Prop where
  streams : StreamsSound s.ledger
  requests : RequestsSound s.ledger.requestSide
  maximum : s.ledger.maximumConcurrentStreams = maximumConcurrentStreams
  increasing : s.begun.Pairwise (· < ·)
  used : ∀ id ∈ s.begun, id ≤ s.history.connection.highestPeerStreamId
  partition : s.begun.Perm (s.history.connection.liveStreamIds ++ s.ended)

theorem Accounted.start (configuration : Http2ConnectionConfiguration) (decoder : D) (encoder : E) :
    (StreamHistory.start (H := H) configuration decoder encoder).Accounted
      configuration.maximumConcurrentStreams where
  streams :=
    { known := fun hstream => by cases hstream
      remembered := fun streamId => by
        constructor
        · exact fun h => absurd h not_mem_nil
        · rintro ⟨stream, hstream, _⟩
          cases hstream
      nodup := nodup_nil
      bounded := Nat.zero_le _
      counted := rfl
      room := Nat.zero_le _ }
  requests :=
    { ordered := List.Pairwise.nil
      below := fun id h => absurd h not_mem_nil
      awaited := fun hawaits => absurd hawaits.1 Bool.false_ne_true
      announced := fun id h => absurd h not_mem_nil
      fixed := fun id h => by cases h }
  maximum := rfl
  increasing := List.Pairwise.nil
  used := fun id h => absurd h not_mem_nil
  partition := .refl _

theorem Accounted.step {maximumConcurrentStreams : Nat}
    {codec : Http2Codec D E H} {s : StreamHistory D E H}
    (h : s.Accounted maximumConcurrentStreams) (e : Http2Event) :
    (s.step codec e).Accounted maximumConcurrentStreams := by
  have hmoves := apply_moves codec s e h.streams.known
  let c := s.history.connection
  let c' := c.apply codec e
  have hlive : LiveWithin (fun id => id ∈ c.liveStreamIds) s.ledger :=
    fun streamId stream hstream hopen =>
      mem_liveStreamIds.mpr ⟨stream, hstream, hopen⟩
  have hknown : ∀ id ∈ c.liveStreamIds, id ≤ c.highestPeerStreamId := by
    intro id hid
    obtain ⟨stream, hstream, _⟩ := mem_liveStreamIds.mp hid
    exact h.streams.known hstream
  -- whatever begins lies above everything known so far
  obtain ⟨hbegun, hnext, hraised⟩ : (∀ id ∈ begunBetween c c',
      c.highestPeerStreamId < id ∧ id ≤ c'.highestPeerStreamId) ∧
      (∀ id ∈ c'.liveStreamIds, id ∈ c.liveStreamIds ++ begunBetween c c') ∧
      c.highestPeerStreamId ≤ c'.highestPeerStreamId := by
    rcases hmoves.live hlive with ⟨hsame, hwithin⟩ | ⟨hhigher, hwithin⟩
    · have hsame : c'.highestPeerStreamId = c.highestPeerStreamId := hsame
      have hnone : begunBetween c c' = [] := if_pos hsame
      rw [hnone, append_nil]
      refine ⟨fun id hid => absurd hid not_mem_nil, fun id hid => ?_, Nat.le_of_eq hsame.symm⟩
      obtain ⟨stream, hstream, hopen⟩ := mem_liveStreamIds.mp hid
      exact hwithin id stream hstream hopen
    have hhigher : c.highestPeerStreamId < c'.highestPeerStreamId := hhigher
    have hone : begunBetween c c' = [c'.highestPeerStreamId] := if_neg (Nat.ne_of_gt hhigher)
    rw [hone]
    refine ⟨fun id hid => ?_, fun id hid => ?_, Nat.le_of_lt hhigher⟩
    · rw [mem_singleton.mp hid]
      exact ⟨hhigher, Nat.le_refl _⟩
    obtain ⟨stream, hstream, hopen⟩ := mem_liveStreamIds.mp hid
    rw [mem_append, mem_singleton]
    exact hwithin id stream hstream hopen
  have hnodupBegun : (begunBetween c c').Pairwise (· < ·) := by
    unfold begunBetween
    split
    · exact List.Pairwise.nil
    · exact pairwise_singleton _ _
  have hnodup : (c.liveStreamIds ++ begunBetween c c').Nodup := by
    refine nodup_append.mpr ⟨c.liveStreamIds_nodup, hnodupBegun.imp Nat.ne_of_lt, ?_⟩
    rintro a ha b hb rfl
    exact absurd (hknown a ha) (Nat.not_le_of_lt (hbegun a hb).1)
  refine ⟨?_, ?_, hmoves.maximum.trans h.maximum, ?_, ?_, ?_⟩
  · exact hmoves.keeps (fun _ _ hmove hbefore => hbefore.begin hmove)
      (fun _ _ hmove hbefore => hbefore.accept hmove)
      (fun _ _ hmove hbefore => hbefore.grant hmove)
      (fun _ _ hmove hbefore => hbefore.send hmove) h.streams
  · exact hmoves.keeps (P := fun l => RequestsSound l.requestSide)
      (fun _ _ hmove hbefore => hbefore.begin hmove)
      (fun _ _ hmove hbefore => hbefore.accept hmove)
      (fun _ _ hmove hbefore => hbefore.grant hmove)
      (fun _ _ hmove hbefore => hbefore.send hmove) h.requests
  · exact pairwise_append.mpr ⟨h.increasing, hnodupBegun,
      fun a ha b hb => Nat.lt_of_le_of_lt (h.used a ha) (hbegun b hb).1⟩
  · intro id hid
    rcases mem_append.mp hid with hid | hid
    · exact Nat.le_trans (h.used id hid) hraised
    · exact (hbegun id hid).2
  · -- the newly begun stream joins the live ones, which then end or stay
    have hjoined : (s.begun ++ begunBetween c c').Perm
        ((c.liveStreamIds ++ begunBetween c c') ++ s.ended) := by
      refine (h.partition.append_right _).trans ?_
      rw [append_assoc, append_assoc]
      exact (perm_append_comm).append_left _
    refine hjoined.trans (((liveStreamIds_perm hnodup hnext).append_right _).trans ?_)
    rw [append_assoc]
    exact (perm_append_comm).append_left _

theorem Reachable.accounted {codec : Http2Codec D E H}
    {condition : StreamHistory D E H → Http2Event → Prop}
    {configuration : Http2ConnectionConfiguration} {decoder : D}
    {encoder : E} {s : StreamHistory D E H}
    (hreach : Reachable codec condition configuration decoder encoder s) :
    s.Accounted configuration.maximumConcurrentStreams :=
  hreach.invariant (.start configuration decoder encoder) fun _ e h _ => h.step e

/-- In every run the counter is the number of live streams and at most the
advertised maximum, the remembered closed records stay within their bound,
requests come with increasing stream numbers, and the streams that began
are, each exactly once, the live ones and those that ended. -/
theorem streams_accounted {codec : Http2Codec D E H}
    {configuration : Http2ConnectionConfiguration} {decoder : D}
    {encoder : E} {s : StreamHistory D E H}
    (hreach : Reachable codec (fun _ _ => True) configuration decoder encoder s) :
    let c := s.history.connection
    c.openStreamCount = c.liveStreamIds.length ∧
      c.openStreamCount ≤ configuration.maximumConcurrentStreams ∧
      c.closedStreamIds.length ≤ kTerminatedStreamMemoryCount ∧
      ((s.requests ++ c.pendingRequests).map (·.streamId)).Pairwise (· < ·) ∧
      s.begun.Pairwise (· < ·) ∧
      s.begun.Perm (c.liveStreamIds ++ s.ended) := by
  intro c
  have h := hreach.accounted
  refine ⟨?_, ?_, ?_, ?_, h.increasing, h.partition⟩
  · rw [length_liveStreamIds]
    exact h.streams.counted
  · rw [← h.maximum]
    exact h.streams.room
  · refine Nat.le_trans ?_ h.streams.bounded
    refine (subperm_of_subset c.closedStreamIds_nodup fun id hid => ?_).length_le
    exact (h.streams.remembered id).mpr (mem_closedStreamIds.mp hid)
  · rw [map_append]
    exact h.requests.ordered

end StreamHistory

/-- A history of the small codec from the start. -/
def exampleStreamRun (events : List Http2Event) : StreamHistory (List HpackHeaderField) Unit Unit :=
  events.foldl (StreamHistory.step exampleCodec) (.start {} [] ())

/-- Two requests, the first of which is aborted. -/
theorem streams_accounted_abort :
    let s := exampleStreamRun (exampleOpening [] ++ [exampleOpenRequest 1,
      .abortStream 1 "" .cancel, exampleOpenRequest 3])
    s.history.connection.openStreamCount = s.history.connection.liveStreamIds.length ∧
      s.history.connection.liveStreamIds = [3] ∧ s.ended = [1] ∧
      s.begun.Perm [3, 1] := by
  intro s
  have hreach : StreamHistory.Reachable exampleCodec (fun _ _ => True) {} [] () s :=
    Reach.run .start _ ⟨trivial, trivial, trivial, trivial, trivial, trivial⟩
  have hlive : s.history.connection.liveStreamIds = [3] := by decide +kernel
  have hended : s.ended = [1] := by decide +kernel
  have haccounted := StreamHistory.streams_accounted hreach
  refine ⟨haccounted.1, hlive, hended, ?_⟩
  have hpartition := haccounted.2.2.2.2.2
  rw [hlive, hended] at hpartition
  exact hpartition

namespace StreamHistory

variable {D E H : Type}

/-- In every run the GOAWAY frames announce stream numbers that never
increase, and none of them is below a request that was handed over or is
waiting to be. -/
theorem goAway_bounds_requests {codec : Http2Codec D E H}
    {configuration : Http2ConnectionConfiguration} {decoder : D}
    {encoder : E} {s : StreamHistory D E H}
    (hreach : Reachable codec (fun _ _ => True) configuration decoder encoder s) :
    (goAwayIds s.history.emitted).Pairwise (· ≥ ·) ∧ ∀ id ∈ goAwayIds s.history.emitted,
        ∀ request ∈ s.requests ++ s.history.connection.pendingRequests, request.streamId ≤ id := by
  have h := hreach.accounted.requests
  refine ⟨pairwise_of_forall_mem_list fun a ha b hb => ?_, fun id hid request hrequest => ?_⟩
  · have hfirst := h.announced a ha
    rw [h.announced b hb] at hfirst
    injection hfirst with heq
    exact Nat.le_of_eq heq
  refine (h.fixed id (h.announced id hid)).2.2.1 request.streamId ?_
  show request.streamId ∈ s.requests.map (·.streamId) ++
    s.history.connection.pendingRequests.map (·.streamId)
  rw [← map_append]
  exact mem_map_of_mem hrequest

end StreamHistory

/-- The second GOAWAY repeats the number of the first, below the stream that
was refused in between. -/
theorem goAway_bounds_requests_refused :
    let s := exampleStreamRun (exampleOpening [] ++ [exampleOpenRequest 1,
      .sendGoAway "", exampleOpenRequest 3, .failConnection .internalError ""])
    goAwayIds s.history.emitted = [1, 1] ∧ s.history.connection.highestPeerStreamId = 3 ∧
      ∀ request ∈ s.requests ++ s.history.connection.pendingRequests, request.streamId ≤ 1 := by
  intro s
  have hreach : StreamHistory.Reachable exampleCodec (fun _ _ => True) {} [] () s :=
    Reach.run .start _ ⟨trivial, trivial, trivial, trivial, trivial, trivial, trivial⟩
  have hids : goAwayIds s.history.emitted = [1, 1] := by decide +kernel
  refine ⟨hids, by decide +kernel, (StreamHistory.goAway_bounds_requests hreach).2 1 ?_⟩
  rw [hids]
  exact mem_cons_self

end AsynGyanis.Http2
