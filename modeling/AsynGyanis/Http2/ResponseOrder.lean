import AsynGyanis.Http2.ReceiveCredit

/-!
# The order of the frames of a response

On each stream END_STREAM comes last, and trailers come after the whole
body. The body can be held back by flow control and is then released by
whatever opens a window: a WINDOW_UPDATE, a SETTINGS change, the next call
of the application. What keeps the order is the record of the stream. As
long as the stream is live, END_STREAM has not been emitted on it and the
bytes accepted are the bytes emitted and the bytes queued; once it is done
the queue is empty and nothing is pending (`RecordSound`).

`sendResponseData` and the draining of the queues keep this. The calls
that emit END_STREAM themselves do so only if they find nothing queued and
nothing pending, and `sendResponseHeaders` and `sendResponseTrailers` do
not look. `responses_ordered` is the theorem for the runs in which they
would have found nothing; `data_after_trailers` is a run in which a queued
byte follows the trailers.
-/

namespace AsynGyanis.Http2

open Library StreamRecord List

/-! ## Observations -/

/-- END_STREAM was emitted on the stream. -/
def endedOn (streamId : Nat) (frames : List OutgoingFrame) : Bool :=
  frames.any (OutgoingFrame.endsStream streamId)

/-- No DATA or HEADERS frame follows one with END_STREAM on its stream. -/
def EndsInOrder (frames : List OutgoingFrame) : Prop :=
  frames.Pairwise fun earlier later => ∀ streamId,
    earlier.endsStream streamId = true → later.isMessageOn streamId = false

theorem endsStream_isMessageOn {f : OutgoingFrame} {streamId : Nat}
    (h : f.endsStream streamId) : f.isMessageOn streamId := by
  cases f with
  | data id payload endStream =>
    simp only [OutgoingFrame.endsStream, Bool.and_eq_true] at h
    exact h.1
  | headers id fragment endStream endHeaders =>
    simp only [OutgoingFrame.endsStream, Bool.and_eq_true] at h
    exact h.1
  | continuation | rstStream | settings | ping | goAway | windowUpdate =>
    simp [OutgoingFrame.endsStream] at h

theorem bodyOn_of_not_message {f : OutgoingFrame} {streamId : Nat}
    (h : f.isMessageOn streamId = false) : f.bodyOn streamId = [] := by
  cases f with
  | data id payload endStream =>
    simp only [OutgoingFrame.isMessageOn, decide_eq_false_iff_not] at h
    simp [OutgoingFrame.bodyOn, h]
  | headers | continuation | rstStream | settings | ping | goAway
    | windowUpdate => rfl

@[simp] theorem bodyOn_append (streamId : Nat) (a b : List OutgoingFrame) :
    bodyOn streamId (a ++ b) = bodyOn streamId a ++ bodyOn streamId b := by
  simp [bodyOn]

@[simp] theorem endedOn_append (streamId : Nat) (a b : List OutgoingFrame) :
    endedOn streamId (a ++ b) =
      (endedOn streamId a || endedOn streamId b) := by
  simp [endedOn]

/-- The frames say nothing on the stream. -/
def SilentOn (streamId : Nat) (frames : List OutgoingFrame) : Prop :=
  ∀ f ∈ frames, f.isMessageOn streamId = false

variable {frames : List OutgoingFrame}

theorem Quiet.silentOn (h : Quiet frames) (streamId : Nat) : SilentOn streamId frames :=
  fun f hf => h f hf streamId

theorem SilentOn.bodyOn {streamId : Nat}
    (h : SilentOn streamId frames) : Http2.bodyOn streamId frames = [] :=
  List.flatMap_eq_nil_iff.mpr fun f hf => bodyOn_of_not_message (h f hf)

theorem SilentOn.endedOn {streamId : Nat} (h : SilentOn streamId frames) :
    Http2.endedOn streamId frames = false := by
  refine any_eq_false.mpr fun f hf hend => ?_
  have hmessage := endsStream_isMessageOn hend
  rw [h f hf] at hmessage
  cases hmessage

theorem EndsInOrder.append {a b : List OutgoingFrame} (ha : EndsInOrder a) (hb : EndsInOrder b)
    (h : ∀ streamId, endedOn streamId a → SilentOn streamId b) : EndsInOrder (a ++ b) := by
  refine pairwise_append.mpr ⟨ha, hb, fun f hf g hg streamId hend => ?_⟩
  exact h streamId (any_eq_true.mpr ⟨f, hf, hend⟩) g hg

theorem Quiet.endsInOrder (h : Quiet frames) : EndsInOrder frames :=
  List.Pairwise.imp_of_mem (fun {_ g} _ hg _ streamId _ => h g hg streamId)
    (List.pairwise_of_forall (R := fun _ _ => True) fun _ _ => trivial)

/-! ## The invariant -/

/-- The application's side of the stream is open: no END_STREAM yet, and
what was accepted is what was emitted and what is queued. -/
structure RecordLive (emitted : List OutgoingFrame)
    (accepted : List (Nat × Bytes)) (streamId : Nat)
    (stream : StreamRecord) : Prop where
  live : stream.IsLive
  unended : endedOn streamId emitted = false
  queued : acceptedOn streamId accepted = bodyOn streamId emitted ++ stream.sendQueue.remaining

def RecordSound (emitted : List OutgoingFrame) (accepted : List (Nat × Bytes)) (streamId : Nat)
    (stream : StreamRecord) : Prop :=
  RecordLive emitted accepted streamId stream ∨ stream.IsDone

theorem RecordSound.of_finishes {emitted : List OutgoingFrame}
    {accepted : List (Nat × Bytes)} {streamId : Nat} {old new : StreamRecord}
    (h : RecordSound emitted accepted streamId old) (hfinishes : Finishes old new) :
    RecordSound emitted accepted streamId new := by
  rcases hfinishes with hdone | ⟨hqueue, hpending, hstate⟩
  · exact .inr hdone
  rcases h with hlive | hdone
  · refine .inl ⟨?_, hlive.unended, by rw [hqueue]; exact hlive.queued⟩
    rcases hstate with hstate | ⟨_, hnew⟩
    · rw [IsLive, hstate]
      exact hlive.live
    · exact hnew
  rcases hstate with hstate | ⟨hold, _⟩
  · exact .inr ⟨hstate ▸ hdone.ended, hqueue ▸ hdone.drained, hpending ▸ hdone.settled⟩
  · rcases hdone.ended with hended | hended <;>
      rcases hold with hold | hold <;> rw [hended] at hold <;> cases hold

variable {stream : StreamRecord} {accepted' : List (Nat × Bytes)}

theorem RecordSound.silent {emitted : List OutgoingFrame}
    {accepted : List (Nat × Bytes)} {streamId : Nat}
    (h : RecordSound emitted accepted streamId stream) (hsilent : SilentOn streamId frames)
    (haccepted : acceptedOn streamId accepted' = acceptedOn streamId accepted) :
    RecordSound (emitted ++ frames) accepted' streamId stream := by
  rcases h with hlive | hdone
  · refine .inl ⟨hlive.live, ?_, ?_⟩
    · rw [endedOn_append, hlive.unended, hsilent.endedOn]
      rfl
    · rw [haccepted, bodyOn_append, hsilent.bodyOn, append_nil]
      exact hlive.queued
  · exact .inr hdone

/-- The invariant of a connection after `written` was taken out and the
body pieces `accepted` went in. -/
structure ResponsesOrdered {D E H : Type} (written : List OutgoingFrame)
    (accepted : List (Nat × Bytes)) (c : Http2Connection D E H) :
    Prop where
  ordered : EndsInOrder (written ++ c.outgoing)
  records : ∀ {streamId stream}, c.streams.find? streamId = some stream →
    RecordSound (written ++ c.outgoing) accepted streamId stream
  fresh : ∀ {streamId}, c.highestPeerStreamId < streamId → c.streams.find? streamId = none ∧
      SilentOn streamId (written ++ c.outgoing) ∧
      acceptedOn streamId accepted = []

namespace ResponsesOrdered

open Http2Connection

variable {D E H : Type} {written : List OutgoingFrame}
  {accepted : List (Nat × Bytes)} {c c' : Http2Connection D E H}
variable (streamId : Nat) (headerBlock : Bytes) (endStream : Bool)
  (maximumFragmentByteCount : Nat)

theorem of_alike (h : ResponsesOrdered written accepted c)
    (halike : SendAlike c c') : ResponsesOrdered written accepted c' := by
  obtain ⟨control, hquiet, houtgoing⟩ := halike.emits
  have hemitted : written ++ c'.outgoing = (written ++ c.outgoing) ++ control := by
    rw [houtgoing, append_assoc]
  refine ⟨?_, fun {streamId new} hnew => ?_, fun {streamId} hhigh => ?_⟩
  · rw [hemitted]
    exact h.ordered.append hquiet.endsInOrder fun streamId _ => hquiet.silentOn streamId
  · obtain ⟨old, hold, hfinishes⟩ := halike.records hnew
    rw [hemitted]
    exact ((h.records hold).of_finishes hfinishes).silent (hquiet.silentOn streamId) rfl
  rw [halike.highest] at hhigh
  obtain ⟨hnone, hsilent, haccepted⟩ := h.fresh hhigh
  refine ⟨?_, ?_, haccepted⟩
  · cases hnew : c'.streams.find? streamId with
    | none => rfl
    | some new =>
      obtain ⟨old, hold, _⟩ := halike.records hnew
      rw [hnone] at hold
      cases hold
  · rw [hemitted]
    intro f hf
    rcases mem_append.mp hf with hf | hf
    · exact hsilent f hf
    · exact hquiet f hf streamId

variable {stream : StreamRecord} {other : Nat}

theorem emit (h : ResponsesOrdered written accepted c) {streamId : Nat}
    (hstream : c.streams.find? streamId = some stream)
    (hlive : stream.IsLive) (hframes : EndsInOrder frames)
    (hothers : ∀ other, other ≠ streamId → SilentOn other frames)
    (haccepted : ∀ other, other ≠ streamId → acceptedOn other accepted' = acceptedOn other accepted)
    (houtgoing : c'.outgoing = c.outgoing ++ frames)
    (hhighest : c'.highestPeerStreamId = c.highestPeerStreamId)
    (htable : ∀ {other new}, c'.streams.find? other = some new →
      if other = streamId then
        RecordSound ((written ++ c.outgoing) ++ frames) accepted' streamId new
      else c.streams.find? other = some new) :
    ResponsesOrdered written accepted' c' := by
  have hemitted : written ++ c'.outgoing = (written ++ c.outgoing) ++ frames := by
    rw [houtgoing, append_assoc]
  have hunended : endedOn streamId (written ++ c.outgoing) = false := by
    rcases h.records hstream with hrecord | hdone
    · exact hrecord.unended
    rcases hdone.ended with hended | hended <;>
      rcases hlive with hlive | hlive <;> rw [hended] at hlive <;>
      cases hlive
  refine ⟨?_, fun {other new} hnew => ?_, fun {other} hhigh => ?_⟩
  · rw [hemitted]
    refine h.ordered.append hframes fun other hended => hothers other ?_
    rintro rfl
    rw [hunended] at hended
    cases hended
  · have hentry := htable hnew
    rw [hemitted]
    split at hentry
    · next heq =>
      subst heq
      exact hentry
    rename_i hne
    exact (h.records hentry).silent (hothers other hne) (haccepted other hne)
  rw [hhighest] at hhigh
  obtain ⟨hnone, hsilent, hnothing⟩ := h.fresh hhigh
  have hne : other ≠ streamId := by
    rintro rfl
    rw [hnone] at hstream
    cases hstream
  refine ⟨?_, ?_, (haccepted other hne).trans hnothing⟩
  · cases hnew : c'.streams.find? other with
    | none => rfl
    | some new =>
      have hentry := htable hnew
      rw [if_neg hne, hnone] at hentry
      cases hentry
  · rw [hemitted]
    intro f hf
    rcases mem_append.mp hf with hf | hf
    · exact hsilent f hf
    · exact hothers other hne f hf

/-! ## New streams -/

theorem openStream (h : ResponsesOrdered written accepted c)
    {streamId : Nat} (hfresh : c.highestPeerStreamId < streamId) :
    ResponsesOrdered written accepted (c.openStream streamId) := by
  obtain ⟨_, hsilent, hnothing⟩ := h.fresh hfresh
  refine ⟨h.ordered, fun {other new} hnew => ?_, fun {other} hhigh => ?_⟩
  · simp only [Http2Connection.openStream, setStream, SortedMap.find?_insert] at hnew
    split at hnew
    · next heq =>
      injection hnew with hnew
      subst heq hnew
      refine .inl ⟨.inl rfl, hsilent.endedOn, ?_⟩
      have hbody := hsilent.bodyOn
      simp only [Http2Connection.openStream, setStream, hnothing, hbody]
      rfl
    · exact h.records hnew
  · have hhigh : streamId < other := hhigh
    obtain ⟨hnone, hrest⟩ := h.fresh (Nat.lt_trans hfresh hhigh)
    refine ⟨?_, hrest⟩
    simp only [Http2Connection.openStream, setStream]
    rw [SortedMap.find?_insert_of_ne _ _ (by omega)]
    exact hnone

theorem refuseNewStream (h : ResponsesOrdered written accepted c) {streamId : Nat} (reason : String)
    (hfresh : c.highestPeerStreamId < streamId) :
    ResponsesOrdered written accepted (c.refuseNewStream streamId reason) := by
  have hset : ResponsesOrdered written accepted
      ({ c with highestPeerStreamId := streamId }.setStream streamId
        { state := .closed, termination := .resetByLocal }) := by
    refine ⟨h.ordered, fun {other new} hnew => ?_, fun {other} hhigh => ?_⟩
    · simp only [setStream, SortedMap.find?_insert] at hnew
      split at hnew
      · injection hnew with hnew
        subst hnew
        exact .inr ⟨.inr rfl, rfl, rfl⟩
      · exact h.records hnew
    have hhigh : streamId < other := hhigh
    obtain ⟨hnone, hrest⟩ := h.fresh (Nat.lt_trans hfresh hhigh)
    refine ⟨?_, hrest⟩
    simp only [setStream]
    rw [SortedMap.find?_insert_of_ne _ _ (by omega)]
    exact hnone
  have hreset : ResponsesOrdered written accepted
      (({ c with highestPeerStreamId := streamId }.appendOutgoing
        [.rstStream streamId .refusedStream]).setStream streamId
          { state := .closed, termination := .resetByLocal }) :=
    hset.of_alike (.of_emitted rfl rfl rfl (Quiet.singleton fun _ => rfl))
  exact (hreset.of_alike (rememberTerminatedStream_sendAlike _ streamId)).of_alike
    (noteStreamError_sendAlike _ reason)

/-! ## Ending the application's side -/

/-- `noteLocalEndStream` on a live stream leaves a record that is done, if
an open stream has nothing queued and nothing pending. -/
theorem noteLocalEndStream_table {streamId : Nat} (hstream : c.streams.find? streamId = some stream)
    (hlive : stream.IsLive)
    (hidle : stream.state = .open →
      stream.sendQueue.remaining = [] ∧ stream.isEndStreamPending = false)
    {new : StreamRecord}
    (hnew : (c.noteLocalEndStream streamId).streams.find? other = some new) :
    if other = streamId then new.IsDone
    else c.streams.find? other = some new := by
  unfold noteLocalEndStream at hnew
  rw [hstream] at hnew
  dsimp only at hnew
  rcases hlive with hopen | hhalf
  · rw [hopen] at hnew
    simp only [setStream, SortedMap.find?_insert] at hnew
    split at hnew
    · next heq =>
      injection hnew with hnew
      subst hnew
      rw [if_pos heq]
      exact ⟨.inl rfl, (hidle hopen).1, (hidle hopen).2⟩
    · next hne =>
      rw [if_neg hne]
      exact hnew
  rw [hhalf] at hnew
  have hopen : stream.state ≠ .closed := by rw [hhalf]; decide
  simp only [terminateStream, hstream, if_neg hopen, rememberTerminatedStream] at hnew
  have hset := find?_of_find?_foldl_erase _ hnew
  simp only [setStream, SortedMap.find?_insert] at hset
  split at hset
  · next heq =>
    injection hset with hset
    subst hset
    rw [if_pos heq]
    exact terminatedRecord_isDone stream .completed
  · next hne =>
    rw [if_neg hne]
    exact hset

theorem noteLocalEndStream_outgoing (c : Http2Connection D E H) (streamId : Nat) :
    (c.noteLocalEndStream streamId).outgoing = c.outgoing ∧
      (c.noteLocalEndStream streamId).highestPeerStreamId =
        c.highestPeerStreamId := by
  unfold noteLocalEndStream
  split
  · exact ⟨rfl, rfl⟩
  split
  · exact ⟨rfl, rfl⟩
  · unfold terminateStream
    split
    · exact ⟨rfl, rfl⟩
    split
    · exact ⟨rfl, rfl⟩
    · simp [rememberTerminatedStream, setStream]
  · exact ⟨rfl, rfl⟩

theorem emitEnd (h : ResponsesOrdered written accepted c)
    (next : Http2Connection D E H) {streamId : Nat} {ended : StreamRecord}
    (hstream : c.streams.find? streamId = some stream)
    (hlive : stream.IsLive) (hframes : EndsInOrder frames)
    (hothers : ∀ other, other ≠ streamId → SilentOn other frames)
    (haccepted : ∀ other, other ≠ streamId → acceptedOn other accepted' = acceptedOn other accepted)
    (houtgoing : next.outgoing = c.outgoing ++ frames)
    (hhighest : next.highestPeerStreamId = c.highestPeerStreamId)
    (htable : next.streams = c.streams.insert streamId ended)
    (hended : ended.IsLive) (hidle : ended.state = .open →
      ended.sendQueue.remaining = [] ∧ ended.isEndStreamPending = false) :
    ResponsesOrdered written accepted' (next.noteLocalEndStream streamId) := by
  have hsame := noteLocalEndStream_outgoing next streamId
  refine h.emit hstream hlive hframes hothers haccepted
    (hsame.1.trans houtgoing) (hsame.2.trans hhighest)
    fun {other new} hnew => ?_
  have hfound : next.streams.find? streamId = some ended := by
    rw [htable, SortedMap.find?_insert_self]
  have hentry := noteLocalEndStream_table hfound hended hidle hnew
  split at hentry
  · next heq =>
    rw [if_pos heq]
    exact .inr hentry
  rename_i hne
  rw [if_neg hne]
  rwa [htable, SortedMap.find?_insert_of_ne _ _ hne] at hentry

/-! ## Draining the queues -/

theorem EndsInOrder.singleton (f : OutgoingFrame) : EndsInOrder [f] := List.pairwise_singleton _ _

theorem data_silentOn (payload : Bytes) (endStream : Bool) (hne : other ≠ streamId) :
    SilentOn other [.data streamId payload endStream] := by
  intro f hf
  rw [mem_singleton.mp hf]
  simpa [OutgoingFrame.isMessageOn] using Ne.symm hne

theorem live_of_busy (h : ResponsesOrdered written accepted c)
    {streamId : Nat} (hstream : c.streams.find? streamId = some stream)
    (hbusy : stream.sendQueue.remaining ≠ [] ∨ stream.isEndStreamPending) :
    RecordLive (written ++ c.outgoing) accepted streamId stream := by
  rcases h.records hstream with hlive | hdone
  · exact hlive
  rcases hbusy with hqueued | hpending
  · exact absurd hdone.drained hqueued
  · rw [hdone.settled] at hpending
    cases hpending

theorem sendSegment_more (h : ResponsesOrdered written accepted c)
    {streamId : Nat} (hstream : c.streams.find? streamId = some stream)
    (hqueued : stream.sendQueue.remaining ≠ []) (hmore : c.isEndStreamSegment stream = false) :
    ResponsesOrdered written accepted (c.sendSegment streamId stream) := by
  have hrecord := h.live_of_busy hstream (.inl hqueued)
  refine h.emit hstream hrecord.live (EndsInOrder.singleton _)
    (fun other hne => data_silentOn streamId _ _ hne) (fun _ _ => rfl) rfl
    rfl fun {other new} hnew => ?_
  simp only [sendSegment, setStream, appendOutgoing, SortedMap.find?_insert] at hnew
  split at hnew
  · next heq =>
    injection hnew with hnew
    subst hnew
    rw [if_pos heq]
    refine .inl ⟨hrecord.live, ?_, ?_⟩
    · rw [endedOn_append, hrecord.unended, hmore]
      simp [endedOn, OutgoingFrame.endsStream]
    rw [bodyOn_append, hrecord.queued, SendQueue.remaining_consume, append_assoc]
    simp [bodyOn, OutgoingFrame.bodyOn, take_append_drop]
  · next hne =>
    rw [if_neg hne]
    exact hnew

theorem sendSegment_end (h : ResponsesOrdered written accepted c)
    {streamId : Nat} (hstream : c.streams.find? streamId = some stream)
    (hqueued : stream.sendQueue.remaining ≠ []) (hend : c.isEndStreamSegment stream) :
    ResponsesOrdered written accepted
      ((c.sendSegment streamId stream).noteLocalEndStream streamId) := by
  have hrecord := h.live_of_busy hstream (.inl hqueued)
  simp only [isEndStreamSegment, Bool.and_eq_true, decide_eq_true_eq] at hend
  refine h.emitEnd (c.sendSegment streamId stream) hstream hrecord.live (EndsInOrder.singleton _)
    (fun other hne => data_silentOn streamId _ _ hne) (fun _ _ => rfl) rfl
    rfl rfl hrecord.live fun _ => ⟨?_, ?_⟩
  · rw [SendQueue.remaining_consume, hend.1, drop_length]
  · simp [isEndStreamSegment, hend]

theorem sendTrailingEnd (h : ResponsesOrdered written accepted c)
    {streamId : Nat} (hstream : c.streams.find? streamId = some stream)
    (hempty : stream.sendQueue.remaining = []) (hpending : stream.isEndStreamPending) :
    ResponsesOrdered written accepted
      (((c.setStream streamId { stream with
        isEndStreamPending := false }).appendOutgoing
          [.data streamId [] true]).noteLocalEndStream streamId) := by
  have hrecord := h.live_of_busy hstream (.inr hpending)
  exact h.emitEnd _ hstream hrecord.live (EndsInOrder.singleton _)
    (fun other hne => data_silentOn streamId _ _ hne) (fun _ _ => rfl)
    rfl rfl rfl hrecord.live fun _ => ⟨hempty, rfl⟩

/-- The invariant as a relation of two states: it passes from one to the
other. -/
def Passes (written : List OutgoingFrame) (accepted : List (Nat × Bytes))
    (c c' : Http2Connection D E H) : Prop :=
  ResponsesOrdered written accepted c → ResponsesOrdered written accepted c'

theorem Passes.grants : AdmitsGrants (@Passes D E H written accepted) where
  toAdmits := SendAlike.admits.map (fun _ => id) (fun h h' => h' ∘ h)
    fun halike h => h.of_alike halike
  pump := fun streamId =>
    { refl := fun _ => id
      trans := fun h h' => h' ∘ h
      segment := fun hstream hqueued _ _ hmore h =>
        h.sendSegment_more hstream hqueued hmore
      last := fun hstream hqueued _ _ hend h =>
        h.sendSegment_end hstream hqueued hend
      ending := fun hstream hempty hpending _ h =>
        h.sendTrailingEnd hstream hempty hpending }
  window := fun _ _ h => h.of_alike (.of_same rfl rfl rfl)
  shift := fun hstream _ h => h.of_alike (setStream_sendAlike hstream (.inr ⟨rfl, rfl, .inl rfl⟩))
  setting := fun _ _ h => h.of_alike (.of_same rfl rfl rfl)

/-! ## Header blocks -/

theorem continuationFrames_quiet (streamId maximumFragmentByteCount : Nat)
    (fuel : Nat) (block : Bytes) :
    Quiet (continuationFrames streamId maximumFragmentByteCount fuel block) := by
  induction fuel generalizing block with
  | zero => exact Quiet.nil
  | succ fuel ih =>
    have hrest : Quiet
        (if block.length ≤ maximumFragmentByteCount then []
        else continuationFrames streamId maximumFragmentByteCount fuel
          (block.drop maximumFragmentByteCount)) := by
      split
      · exact Quiet.nil
      · exact ih _
    exact Quiet.append (Quiet.singleton fun _ => rfl) hrest

/-- A header block is a HEADERS frame and frames that are no message. -/
theorem headerBlockFrames_eq : ∃ fragment endHeaders rest, Quiet rest ∧
      headerBlockFrames streamId headerBlock endStream maximumFragmentByteCount =
        [.headers streamId fragment endStream endHeaders] ++ rest := by
  refine ⟨headerBlock.take maximumFragmentByteCount, headerBlock.length ≤ maximumFragmentByteCount,
    if headerBlock.length ≤ maximumFragmentByteCount then []
    else continuationFrames streamId maximumFragmentByteCount
      headerBlock.length (headerBlock.drop maximumFragmentByteCount),
    ?_, rfl⟩
  split
  · exact Quiet.nil
  · exact continuationFrames_quiet _ _ _ _

theorem headerBlockFrames_endsInOrder :
    EndsInOrder (headerBlockFrames streamId headerBlock endStream maximumFragmentByteCount) := by
  obtain ⟨fragment, endHeaders, rest, hquiet, heq⟩ := headerBlockFrames_eq
    streamId headerBlock endStream maximumFragmentByteCount
  rw [heq]
  exact (EndsInOrder.singleton _).append hquiet.endsInOrder fun id _ => hquiet.silentOn id

theorem headerBlockFrames_silentOn (hne : other ≠ streamId) :
    SilentOn other (headerBlockFrames streamId headerBlock endStream maximumFragmentByteCount) := by
  obtain ⟨fragment, endHeaders, rest, hquiet, heq⟩ := headerBlockFrames_eq
    streamId headerBlock endStream maximumFragmentByteCount
  rw [heq]
  intro f hf
  rcases mem_append.mp hf with hf | hf
  · rw [mem_singleton.mp hf]
    simpa [OutgoingFrame.isMessageOn] using Ne.symm hne
  · exact hquiet f hf other

theorem headerBlockFrames_continues :
    bodyOn streamId (headerBlockFrames streamId headerBlock false maximumFragmentByteCount) = [] ∧
      endedOn streamId (headerBlockFrames streamId headerBlock false
        maximumFragmentByteCount) = false := by
  obtain ⟨fragment, endHeaders, rest, hquiet, heq⟩ := headerBlockFrames_eq
    streamId headerBlock false maximumFragmentByteCount
  rw [heq, bodyOn_append, endedOn_append, (hquiet.silentOn streamId).bodyOn,
    (hquiet.silentOn streamId).endedOn]
  simp [bodyOn, OutgoingFrame.bodyOn, endedOn, OutgoingFrame.endsStream]

theorem encodeAndEmit (h : ResponsesOrdered written accepted c)
    (codec : Http2Codec D E H) {streamId : Nat}
    (hstream : c.streams.find? streamId = some stream)
    (hlive : stream.IsLive) (fields : List HpackHeaderField) :
    ResponsesOrdered written accepted (c.encodeAndEmit codec streamId fields false) := by
  refine h.emit hstream hlive
    (headerBlockFrames_endsInOrder streamId
      (codec.encode c.encoder fields).1 false c.peerMaximumFrameSize)
    (fun other hne => headerBlockFrames_silentOn _ _ _ _ hne)
    (fun _ _ => rfl) rfl rfl fun {other new} hnew => ?_
  obtain ⟨hbody, hunended⟩ := headerBlockFrames_continues streamId
    (codec.encode c.encoder fields).1 c.peerMaximumFrameSize
  have hnew : c.streams.find? other = some new := hnew
  split
  · next heq =>
    subst heq
    rcases h.records hnew with hrecord | hdone
    · refine .inl ⟨hrecord.live, ?_, ?_⟩
      · rw [endedOn_append, hrecord.unended, hunended]
        rfl
      · rw [bodyOn_append, hbody, append_nil]
        exact hrecord.queued
    · exact .inr hdone
  · exact hnew

theorem encodeAndEmit_end (h : ResponsesOrdered written accepted c)
    (codec : Http2Codec D E H) {streamId : Nat}
    (hstream : c.streams.find? streamId = some stream) (hlive : stream.IsLive)
    (hidle : stream.state = .open →
      stream.sendQueue.remaining = [] ∧ stream.isEndStreamPending = false)
    (fields : List HpackHeaderField) :
    ResponsesOrdered written accepted
      ((c.encodeAndEmit codec streamId fields true).noteLocalEndStream streamId) := by
  have hsame := noteLocalEndStream_outgoing (c.encodeAndEmit codec streamId fields true) streamId
  refine h.emit hstream hlive
    (headerBlockFrames_endsInOrder streamId
      (codec.encode c.encoder fields).1 true c.peerMaximumFrameSize)
    (fun other hne => headerBlockFrames_silentOn _ _ _ _ hne)
    (fun _ _ => rfl) hsame.1 hsame.2 fun {other new} hnew => ?_
  have hfound : (c.encodeAndEmit codec streamId fields
      true).streams.find? streamId = some stream := hstream
  have hentry := noteLocalEndStream_table hfound hlive hidle hnew
  split at hentry
  · next heq =>
    rw [if_pos heq]
    exact .inr hentry
  rename_i hne
  rw [if_neg hne]
  exact hentry

/-! ## The application's calls -/

theorem live_of_writable (h : ResponsesOrdered written accepted c)
    {streamId : Nat} (hactive : c.findActiveStream streamId = some stream)
    (hlocal : stream.state ≠ .halfClosedLocal) :
    RecordLive (written ++ c.outgoing) accepted streamId stream := by
  obtain ⟨hstream, hclosed⟩ := find?_of_findActiveStream hactive
  rcases h.records hstream with hrecord | hdone
  · exact hrecord
  · exact absurd (hdone.ended) (by simp [hlocal, hclosed])

@[simp] theorem acceptedOn_append (a b : List (Nat × Bytes)) :
    acceptedOn streamId (a ++ b) = acceptedOn streamId a ++ acceptedOn streamId b := by
  simp [acceptedOn]

theorem acceptedOn_other {streamId : Nat} (data : Bytes) (hne : other ≠ streamId) :
    acceptedOn other (accepted ++ [(streamId, data)]) = acceptedOn other accepted := by
  simp [acceptedOn, Ne.symm hne]

theorem acceptedOn_self (data : Bytes) : acceptedOn streamId (accepted ++ [(streamId, data)]) =
      acceptedOn streamId accepted ++ data := by
  simp [acceptedOn]

theorem frameDirectly (h : ResponsesOrdered written accepted c)
    {streamId : Nat} (data : Bytes) (endStream : Bool)
    (hstream : c.streams.find? streamId = some stream)
    (hrecord : RecordLive (written ++ c.outgoing) accepted streamId stream)
    (hqueue : stream.sendQueue.remaining = []) (hpending : stream.isEndStreamPending = false) :
    ResponsesOrdered written (accepted ++ [(streamId, data)])
      (c.frameDirectly streamId stream data endStream) := by
  unfold Http2Connection.frameDirectly
  split
  · exact h.emitEnd _ hstream hrecord.live (EndsInOrder.singleton (.data streamId data endStream))
      (fun other hne => data_silentOn streamId _ _ hne)
      (fun other hne => acceptedOn_other data hne) rfl rfl rfl hrecord.live
      fun _ => ⟨hqueue, hpending⟩
  rename_i hmore
  refine h.emit hstream hrecord.live (EndsInOrder.singleton (.data streamId data endStream))
    (fun other hne => data_silentOn streamId _ _ hne)
    (fun other hne => acceptedOn_other data hne) rfl rfl
    fun {other new} hnew => ?_
  simp only [setStream, appendOutgoing, SortedMap.find?_insert] at hnew
  split at hnew
  · next heq =>
    injection hnew with hnew
    subst hnew
    rw [if_pos heq]
    refine .inl ⟨hrecord.live, ?_, ?_⟩
    · rw [endedOn_append, hrecord.unended]
      simp [endedOn, OutgoingFrame.endsStream, hmore]
    · rw [acceptedOn_self, bodyOn_append, hrecord.queued, hqueue]
      simp [bodyOn, OutgoingFrame.bodyOn]
  · next hne =>
    rw [if_neg hne]
    exact hnew

theorem queueAndPump (h : ResponsesOrdered written accepted c)
    {streamId : Nat} (data : Bytes) (endStream : Bool)
    (hstream : c.streams.find? streamId = some stream)
    (hrecord : RecordLive (written ++ c.outgoing) accepted streamId stream) :
    ResponsesOrdered written (accepted ++ [(streamId, data)])
      (c.queueAndPump streamId stream data endStream) := by
  refine (Passes.grants.pump streamId).pumpSendQueue _ ?_
  have hnothing : EndsInOrder [] := List.Pairwise.nil
  refine h.emit hstream hrecord.live hnothing (fun _ _ => Quiet.nil.silentOn _)
    (fun other hne => acceptedOn_other data hne)
    (by simp [setStream]) rfl fun {other new} hnew => ?_
  simp only [setStream, SortedMap.find?_insert] at hnew
  split at hnew
  · next heq =>
    injection hnew with hnew
    subst hnew
    rw [if_pos heq, append_nil]
    refine .inl ⟨hrecord.live, hrecord.unended, ?_⟩
    rw [acceptedOn_self, hrecord.queued, SendQueue.remaining_append, append_assoc]
  · next hne =>
    rw [if_neg hne]
    exact hnew

/-! ## Frames -/

theorem handleNewStreamHeaders (h : ResponsesOrdered written accepted c)
    (codec : Http2Codec D E H) (streamId : Nat) (payload : Http2HeadersPayload) :
    ResponsesOrdered written accepted (c.handleNewStreamHeaders codec streamId payload).2 := by
  have w := SendAlike.blocks codec
  unfold Http2Connection.handleNewStreamHeaders
  split
  · exact h.of_alike (w.fail c _ _)
  rename_i hfresh
  have hfresh : c.highestPeerStreamId < streamId := Nat.lt_of_not_le hfresh
  split
  · exact (h.refuseNewStream _ hfresh).of_alike (w.beginHeaderBlock _ _ (by decide) _ _ _)
  split
  · exact (h.refuseNewStream _ hfresh).of_alike (w.beginHeaderBlock _ _ (by decide) _ _ _)
  refine (h.openStream hfresh).of_alike (SendAlike.trans ?_ (w.beginHeaderBlock_rest _ _ _ _ _ _))
  exact .of_same rfl rfl rfl

theorem handleHeadersFrame (h : ResponsesOrdered written accepted c)
    (codec : Http2Codec D E H) (frame : Http2Frame) :
    ResponsesOrdered written accepted (c.handleHeadersFrame codec frame).2 := by
  have w : AdmitsBlocks codec (@Passes D E H written accepted) :=
    { toAdmits := Passes.grants.toAdmits
      assemble := fun c streamId _ endStream hother h =>
        h.of_alike ((SendAlike.blocks codec).assemble c streamId endStream hother)
      fragment := fun _ _ h => h.of_alike (.of_same rfl rfl rfl)
      decode := fun _ h => h.of_alike (.of_same rfl rfl rfl)
      request := fun _ _ _ _ h => h.of_alike (.of_same rfl rfl rfl)
      trailers := fun _ _ _ h => h.of_alike (.of_same rfl rfl rfl) }
  exact w.handleHeadersFrame c frame (fun payload _ h =>
    h.handleNewStreamHeaders codec _ payload) h

theorem handleFrame (h : ResponsesOrdered written accepted c)
    (codec : Http2Codec D E H) (now : Nat) (frame : Http2Frame) :
    ResponsesOrdered written accepted (c.handleFrame codec now frame).2 := by
  have w := SendAlike.blocks codec
  unfold Http2Connection.handleFrame
  split
  · split
    · exact h.of_alike (w.fail c _ _)
    · exact h.of_alike (w.handleContinuationFrame c frame)
  split
  · exact h.of_alike (w.fail c _ _)
  unfold dispatchFrame
  split
  · exact h.of_alike (SendAlike.data.handleDataFrame c frame)
  · exact h.handleHeadersFrame codec frame
  · exact h.of_alike (w.handlePriorityFrame c frame)
  · exact h.of_alike (w.handleRstStreamFrame c now frame)
  · exact Passes.grants.handleSettingsFrame codec c now frame h
  · exact h.of_alike (w.fail c _ _)
  · exact h.of_alike (w.handlePingFrame c now frame)
  · exact h.of_alike (w.handleGoAwayFrame c frame)
  · exact Passes.grants.handleWindowUpdateFrame c frame h
  · exact h.of_alike (w.handleContinuationFrame c frame)
  · exact h

end ResponsesOrdered

/-! ## Calls that end a response

The conditions are about the state before the call: what the call will
refuse anyway needs no condition. -/

namespace Http2Connection

variable {D E H : Type}

/-- The record of a stream the application may still write to. -/
def writableStream (c : Http2Connection D E H) (streamId : Nat) : Option StreamRecord :=
  if c.acceptsStreamOperations then
    (c.findActiveStream streamId).filter fun stream =>
      stream.state ≠ .halfClosedLocal
  else none

def acceptsHeaders (codec : Http2Codec D E H) (c : Http2Connection D E H)
    (statusCode : Nat) (headerFields : List HpackHeaderField) : Bool :=
  !(statusCode < 100 ∨ statusCode > 999) &&
    (firstRejection codec.acceptResponseHeaderField headerFields).isNone &&
    (c.oversizeAgainstPeerHeaderListLimit (statusField statusCode :: headerFields)).isNone

def acceptsTrailers (codec : Http2Codec D E H) (c : Http2Connection D E H)
    (streamId : Nat) (trailerFields : List HpackHeaderField) : Bool :=
  (trailerFields.findSome? (codec.rejectResponseTrailerField streamId)).isNone &&
    (c.oversizeAgainstPeerHeaderListLimit trailerFields).isNone

/-- Response headers with END_STREAM are either refused or find, on an open
stream, nothing queued and nothing pending. -/
def headersEndInOrder (codec : Http2Codec D E H) (c : Http2Connection D E H)
    (streamId statusCode : Nat) (headerFields : List HpackHeaderField) :
    Bool :=
  match c.writableStream streamId with
  | none => true
  | some stream =>
    !c.acceptsHeaders codec statusCode headerFields || stream.state ≠ .open ||
      (!stream.sendQueue.hasPendingData && !stream.isEndStreamPending)

/-- Trailers are either refused or find nothing queued and, on an open
stream, nothing pending. -/
def trailersEndInOrder (codec : Http2Codec D E H) (c : Http2Connection D E H) (streamId : Nat)
    (trailerFields : List HpackHeaderField) : Bool :=
  match c.writableStream streamId with
  | none => true
  | some stream =>
    !c.acceptsTrailers codec streamId trailerFields ||
      (!stream.sendQueue.hasPendingData && (stream.state ≠ .open || !stream.isEndStreamPending))

theorem writableStream_eq {c : Http2Connection D E H} {streamId : Nat}
    (hcalls : c.acceptsStreamOperations) (hactive : c.findActiveStream streamId = some stream)
    (hlocal : stream.state ≠ .halfClosedLocal) : c.writableStream streamId = some stream := by
  simp [writableStream, hcalls, hactive, Option.filter, hlocal]

end Http2Connection

open Http2Connection

namespace ResponsesOrdered

open Http2Connection

variable {D E H : Type} {written : List OutgoingFrame}
  {accepted : List (Nat × Bytes)} {c : Http2Connection D E H}

theorem sendResponseHeaders (h : ResponsesOrdered written accepted c)
    (codec : Http2Codec D E H) (streamId statusCode : Nat)
    (headerFields : List HpackHeaderField) (endStream : Bool)
    (hend : endStream → c.headersEndInOrder codec streamId statusCode headerFields) :
    ResponsesOrdered written accepted
      (c.sendResponseHeaders codec streamId statusCode headerFields endStream).connection := by
  unfold Http2Connection.sendResponseHeaders
  split
  · exact h
  rename_i hcalls
  split
  · exact h
  rename_i stream hactive
  split
  · exact h
  rename_i hlocal
  have hrecord := h.live_of_writable hactive hlocal
  have hstream := (find?_of_findActiveStream hactive).1
  split
  · exact h.of_alike (SendAlike.admits.failStream c _ _ _)
  rename_i hstatus
  split
  · exact h.of_alike (SendAlike.admits.failStream c _ _ _)
  rename_i hfields
  dsimp only
  split
  · exact h.of_alike (SendAlike.admits.failStream c _ _ _)
  rename_i hsize
  cases endStream with
  | false =>
    exact h.encodeAndEmit codec hstream hrecord.live _
  | true =>
    refine h.encodeAndEmit_end codec hstream hrecord.live (fun hopen => ?_) _
    have hinOrder := hend rfl
    rw [headersEndInOrder, writableStream_eq (by simpa using hcalls) hactive hlocal] at hinOrder
    simpa [acceptsHeaders, hstatus, hfields, hsize, hopen,
      SendQueue.hasPendingData_eq_false] using hinOrder

theorem sendResponseTrailers (h : ResponsesOrdered written accepted c)
    (codec : Http2Codec D E H) (streamId : Nat) (trailerFields : List HpackHeaderField)
    (hend : c.trailersEndInOrder codec streamId trailerFields) :
    ResponsesOrdered written accepted
        (c.sendResponseTrailers codec streamId trailerFields).connection ∧
      ((c.sendResponseTrailers codec streamId trailerFields).result = .sent →
        acceptedOn streamId accepted = bodyOn streamId (written ++ c.outgoing)) := by
  unfold Http2Connection.sendResponseTrailers
  split
  · exact ⟨h, fun hsent => by cases hsent⟩
  rename_i hcalls
  split
  · exact ⟨h, fun hsent => by cases hsent⟩
  rename_i stream hactive
  split
  · exact ⟨h, fun hsent => by cases hsent⟩
  rename_i hlocal
  have hrecord := h.live_of_writable hactive hlocal
  have hstream := (find?_of_findActiveStream hactive).1
  split
  · exact ⟨h.of_alike (SendAlike.admits.failStream c _ _ _), fun hsent => by cases hsent⟩
  rename_i hfields
  split
  · exact ⟨h.of_alike (SendAlike.admits.failStream c _ _ _), fun hsent => by cases hsent⟩
  rename_i hsize
  rw [trailersEndInOrder, writableStream_eq (by simpa using hcalls) hactive hlocal] at hend
  have hidle : stream.sendQueue.remaining = [] ∧
      (stream.state = .open → stream.isEndStreamPending = false) := by
    simpa [acceptsTrailers, hfields, hsize, SendQueue.hasPendingData_eq_false,
      Decidable.imp_iff_not_or] using hend
  refine ⟨h.encodeAndEmit_end codec hstream hrecord.live
    (fun hopen => ⟨hidle.1, hidle.2 hopen⟩) _, fun _ => ?_⟩
  rw [hrecord.queued, hidle.1, append_nil]

theorem sendResponseData (h : ResponsesOrdered written accepted c)
    (streamId : Nat) (data : Bytes) (endStream : Bool) :
    ResponsesOrdered written
      (if (c.sendResponseData streamId data endStream).result = .sent then
        accepted ++ [(streamId, data)] else accepted)
      (c.sendResponseData streamId data endStream).connection := by
  unfold Http2Connection.sendResponseData
  split
  · exact h
  split
  · exact h
  rename_i stream hactive
  split
  · exact h
  rename_i hlocal
  have hrecord := h.live_of_writable hactive hlocal
  have hstream := (find?_of_findActiveStream hactive).1
  split
  · exact h
  rename_i hpending
  split
  · next hdirect =>
    exact h.frameDirectly data endStream hstream hrecord
      (SendQueue.hasPendingData_eq_false.mp (by simpa using hdirect.1)) (by simpa using hpending)
  · exact h.queueAndPump data endStream hstream hrecord

end ResponsesOrdered

/-! ## Whole runs -/

namespace Http2History

open Http2Connection

variable {D E H : Type}

/-- A call that ends a response finds the body sent. -/
def endsInOrder (codec : Http2Codec D E H) (h : Http2History D E H) (e : Http2Event) : Bool :=
  match e with
  | .sendResponseHeaders streamId statusCode headerFields true =>
    h.connection.headersEndInOrder codec streamId statusCode headerFields
  | .sendResponseTrailers streamId trailerFields =>
    h.connection.trailersEndInOrder codec streamId trailerFields
  | _ => true

structure Ordered (h : Http2History D E H) : Prop where
  responses : ResponsesOrdered h.written h.accepted h.connection
  trailers : ∀ note ∈ h.trailers, note.2.1 = note.2.2

theorem Ordered.of_alike {h h' : Http2History D E H} (hinv : h.Ordered)
    (hwritten : h'.written = h.written) (haccepted : h'.accepted = h.accepted)
    (htrailers : h'.trailers = h.trailers)
    (halike : SendAlike h.connection h'.connection) : h'.Ordered where
  responses := by
    rw [hwritten, haccepted]
    exact hinv.responses.of_alike halike
  trailers := by
    rw [htrailers]
    exact hinv.trailers

theorem Ordered.step {codec : Http2Codec D E H} {h : Http2History D E H}
    (hinv : h.Ordered) {e : Http2Event}
    (he : h.endsInOrder codec e) : (h.step codec e).Ordered := by
  cases e with
  | preface bytes =>
    exact hinv.of_alike rfl rfl rfl (SendAlike.admits.preface _ bytes)
  | frame now frame =>
    refine ⟨?_, hinv.trailers⟩
    simp only [step_connection, apply, feedFrame]
    split
    · exact hinv.responses.handleFrame codec now frame
    · exact hinv.responses
  | frameDecodeFailure kind message =>
    exact hinv.of_alike rfl rfl rfl (SendAlike.admits.feedDecodeFailure _ kind message)
  | creditReceivedData streamId byteCount =>
    exact hinv.of_alike rfl rfl rfl (SendAlike.data.creditReceivedData _ streamId byteCount)
  | sendGoAway reason =>
    exact hinv.of_alike rfl rfl rfl (SendAlike.admits.announce _ reason)
  | abortStream streamId reason errorCode =>
    exact hinv.of_alike rfl rfl rfl (SendAlike.admits.abortStream _ streamId reason errorCode)
  | failConnection errorCode reason =>
    exact hinv.of_alike rfl rfl rfl (SendAlike.admits.failConnection _ errorCode reason)
  | sendResponseHeaders streamId statusCode headerFields endStream =>
    refine ⟨hinv.responses.sendResponseHeaders codec streamId statusCode
      headerFields endStream fun hend => ?_, hinv.trailers⟩
    subst hend
    exact he
  | sendResponseTrailers streamId trailerFields =>
    obtain ⟨hresponses, hsent⟩ := hinv.responses.sendResponseTrailers codec
      streamId trailerFields he
    refine ⟨hresponses, ?_⟩
    simp only [Http2History.step, note]
    split
    · next hresult =>
      intro note hnote
      rcases mem_append.mp hnote with hold | hnew
      · exact hinv.trailers note hold
      · rw [mem_singleton.mp hnew]
        exact hsent hresult
    · exact hinv.trailers
  | sendResponseData streamId data endStream =>
    exact ⟨hinv.responses.sendResponseData streamId data endStream, hinv.trailers⟩
  | takeOutgoingBytes =>
    refine ⟨?_, hinv.trailers⟩
    obtain ⟨hordered, hrecords, hfresh⟩ := hinv.responses
    refine ⟨?_, ?_, ?_⟩
    · simpa [Http2History.step, note, apply, takeOutgoingBytes] using hordered
    · simpa [Http2History.step, note, apply, takeOutgoingBytes] using @hrecords
    · simpa [Http2History.step, note, apply, takeOutgoingBytes] using @hfresh
  | takeRequests =>
    exact hinv.of_alike rfl rfl rfl (.of_same rfl rfl rfl)
  | takeReceivedData =>
    exact hinv.of_alike rfl rfl rfl (.of_same rfl rfl rfl)

theorem Ordered.start (configuration : Http2ConnectionConfiguration) (decoder : D) (encoder : E) :
    (Http2History.start (H := H) configuration decoder encoder).Ordered where
  responses :=
    { ordered := List.Pairwise.nil
      records := fun hstream => by cases hstream
      fresh := fun _ => ⟨rfl, Quiet.nil.silentOn _, rfl⟩ }
  trailers := fun _ hnote => absurd hnote List.not_mem_nil

/-- In every run whose responses are ended only when their body is out, no
DATA or HEADERS frame follows END_STREAM on its stream, and trailers were
emitted after every body byte accepted on theirs. -/
theorem responses_ordered {codec : Http2Codec D E H}
    {configuration : Http2ConnectionConfiguration} {decoder : D}
    {encoder : E} {h : Http2History D E H}
    (hreach : Reachable codec (fun h e => h.endsInOrder codec e = true)
      configuration decoder encoder h) :
    EndsInOrder h.emitted ∧ ∀ note ∈ h.trailers, note.2.1 = note.2.2 := by
  have hinv : h.Ordered := hreach.invariant (.start configuration decoder encoder)
      fun h e hinv he => hinv.step he
  exact ⟨hinv.responses.ordered, hinv.trailers⟩

end Http2History

/-- A response with a body and trailers. -/
def exampleResponse : List Http2Event :=
  [exampleOpenRequest 1, .sendResponseHeaders 1 200 [] false,
    .sendResponseData 1 [1, 2] false, .sendResponseTrailers 1 []]

theorem responses_ordered_trailers :
    let h := exampleRun (exampleOpening [] ++ exampleResponse)
    h.trailers = [(1, [1, 2], [1, 2])] ∧ EndsInOrder h.emitted := by
  intro h
  have hreach : Http2History.Reachable exampleCodec
      (fun h e => h.endsInOrder exampleCodec e = true) {} [] () h :=
    Reach.run .start _ (by decide +kernel)
  exact ⟨by decide +kernel, (Http2History.responses_ordered hreach).1⟩

/-- The same response to a peer that opens the window of the stream only
afterwards. -/
def exampleHeldResponse : List Http2Event := exampleOpening [0, 4, 0, 0, 0, 0] ++ exampleResponse ++
    [.frame 0 ⟨⟨4, .windowUpdate, 0, 1⟩, [0, 0, 0, 2], false, {}⟩]

/-- The trailers overtake the queued body, which then follows END_STREAM
as DATA. -/
theorem data_after_trailers : ∃ h : Http2History (List HpackHeaderField) Unit Unit,
      Http2History.Reachable exampleCodec (fun _ _ => True) {} [] () h ∧
      h.connection.state ≠ .failed ∧ ¬ EndsInOrder h.emitted ∧
      ∃ note ∈ h.trailers, note.2.1 ≠ note.2.2 := by
  refine ⟨exampleRun exampleHeldResponse, Reach.run .start _
    ⟨trivial, trivial, trivial, trivial, trivial, trivial, trivial, trivial⟩,
    by decide +kernel, fun hordered => ?_, (1, [1, 2], []),
    by decide +kernel, by decide⟩
  have hlast : (exampleRun exampleHeldResponse).emitted.drop 3 =
      [.headers 1 [] true true, .data 1 [1, 2] false] := by decide +kernel
  have htail := List.Pairwise.sublist (List.drop_sublist 3 _) hordered
  rw [hlast] at htail
  exact absurd ((List.pairwise_cons.mp htail).1 _ List.mem_cons_self 1 rfl) (by decide)

end AsynGyanis.Http2
