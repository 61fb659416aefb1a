import AsynGyanis.Http3.ReceiveCredit
import AsynGyanis.Http3.CriticalStreams

/-!
# A delivery and its credit

A delivery on a stream feeds the reader, takes the complete frames out of
it and then gives credit for what was taken, less the DATA payload, whose
receiver gives it back. In between the payload is counted twice, as handed
over and as held (`Reading`). A delivery that does not break the connection
leaves the books balanced at as many bytes more as it brought.
-/

namespace AsynGyanis.Http3

open Quic Library List

variable {D E V : Type}

/-! ## The reader's counts -/

variable {reader : Http3FrameReader}

namespace Http3FrameReader

theorem feed_pending {data : Bytes} (h : (reader.feed data).1 = none) :
    (reader.feed data).2.pendingByteCount = reader.pendingByteCount + data.length := by
  unfold feed at h ⊢
  split at h
  · cases h
  rename_i hsticky
  split at h
  · cases h
  · next hfits =>
    simp [hsticky, hfits, pendingByteCount]

end Http3FrameReader

variable {frame : Http3Frame}

theorem bind_ne_ok {α : Type} {x : Except Http3FrameError α}
    {f : α → Except Http3FrameError Http3Frame}
    (hf : ∀ a, f a ≠ .ok frame) : x.bind f ≠ .ok frame := by
  cases x with
  | error _ => exact nofun
  | ok a => exact hf a

theorem map_ne_ok {α : Type} {x : Except Http3FrameError α}
    {f : α → Http3Frame} (hf : ∀ a, f a ≠ frame) : x.map f ≠ .ok frame:= by
  cases x with
  | error _ => exact nofun
  | ok a => exact fun h => hf a (Except.ok.inj h)

open Http3Connection in
/-- Only a DATA frame has a payload to hand over, and it is all of it. -/
theorem decodeHttp3FramePayload_data {frameType : Nat} {payload : Bytes}
    (h : decodeHttp3FramePayload frameType payload = .ok frame) :
    dataPayloadByteCount frame ≤ payload.length := by
  unfold decodeHttp3FramePayload at h
  dsimp only at h
  cases frame with
  | data bytes =>
    split at h
    · cases h
      exact le_rfl
    · exact nomatch h
    · exact absurd h (map_ne_ok fun _ hno => nomatch hno)
    · exact absurd h (bind_ne_ok fun _ hno => nomatch hno)
    · exact absurd h (bind_ne_ok fun _ hno => nomatch hno)
    · exact absurd h (map_ne_ok fun _ hno => nomatch hno)
    · exact absurd h (map_ne_ok fun _ hno => nomatch hno)
    · exact nomatch h
  | _ => exact Nat.zero_le _

namespace Http3FrameReader

open Http3Connection in
theorem nextFrame_pending {reader' : Http3FrameReader}
    (h : reader.nextFrame = (.ok (some frame), reader')) :
    reader'.pendingByteCount + dataPayloadByteCount frame ≤
      reader.pendingByteCount := by
  unfold nextFrame at h
  split at h
  · cases h
  split at h
  · cases h
  split at h
  · cases h
  dsimp only at h
  split at h
  · cases h
  split at h
  · cases h
  rename_i hlong
  split at h
  · cases h
  rename_i hdecoded
  cases h
  have hpayload := decodeHttp3FramePayload_data hdecoded
  simp only [length_take, length_drop, pendingByteCount] at hpayload ⊢
  omega

end Http3FrameReader

namespace Http3Connection

variable {codec : Http3Codec D E V} {c c' c'' : Http3Connection D E V}
  {streamId count payloadByteCount : Nat}

/-! ## Frames keep the record -/

/-- The record is still there and nothing was read; the peer has not
finished in between. -/
def Stays (streamId : Nat) (c c' : Http3Connection D E V) : Prop :=
  ∀ state, c.streams.find? streamId = some state → ∃ state',
    c'.streams.find? streamId = some state' ∧ state.KeepsReader state' ∧
      state'.isPeerFinished = state.isPeerFinished

variable {update : StreamState V → StreamState V} (errorCode : Http3ErrorCode)

namespace Stays

theorem of_find (h : c'.streams.find? streamId = c.streams.find? streamId) : Stays streamId c c' :=
  fun state hfind => ⟨state, h.trans hfind, .refl state, rfl⟩

theorem trans (h : Stays streamId c c') (h' : Stays streamId c' c'') : Stays streamId c c'' := by
  intro state hfind
  obtain ⟨state', hfind', hkeeps, hend⟩ := h state hfind
  obtain ⟨state'', hfind'', hkeeps', hend'⟩ := h' state' hfind'
  exact ⟨state'', hfind'', hkeeps.trans hkeeps', hend'.trans hend⟩

theorem of_via (h : Via noStream c c') : Stays streamId c c' := of_find (h.quiet_record streamId)

theorem modifyStream
    (h : ∀ state : StreamState V, state.KeepsReader (update state) ∧
      (update state).isPeerFinished = state.isPeerFinished) :
    Stays streamId c (c.modifyStream streamId update) :=
  fun state hfind => ⟨_, modifyStream_find hfind update, h state⟩

theorem emit (output : Http3Output) : Stays streamId c (c.emit output) := of_find rfl

theorem breakConnection (reason : String) :
    Stays streamId c (c.breakConnection errorCode reason) := by
  obtain ⟨_, _, _, _, heq⟩ := c.breakConnection_eq errorCode reason
  rw [heq]
  exact of_find rfl

theorem decoder (decoder : D) (bytes : Bytes) : Stays streamId c
      ({ c with qpackDecoder := decoder }.queueDecoderInstructions bytes) :=
  of_via ((Via.refl c).decoder decoder bytes)

theorem failStream (reason : String) :
    Stays streamId c (c.failStream codec streamId errorCode reason) := by
  intro state hfind
  refine ⟨{ state with isAbandoned := true }, ?_, ⟨rfl, rfl, rfl⟩, rfl⟩
  rw [(failStream_self codec c streamId errorCode reason).1, hfind]
  rfl

theorem rejectRequestHead (reason : String) :
    Stays streamId c (c.rejectRequestHead codec streamId reason) := by
  have habandoned : Stays streamId c
      ((c.modifyStream streamId fun state =>
        { state with isHeadRejected := true }).abandonInboundFieldSections codec streamId) := by
    refine (modifyStream ?_).trans
      (of_via (Via.abandonInboundFieldSections (.refl _) codec streamId))
    exact fun _ => ⟨⟨rfl, rfl, rfl⟩, rfl⟩
  unfold Http3Connection.rejectRequestHead
  dsimp only
  split
  · exact habandoned
  · exact habandoned.trans (failStream _ _)

theorem handOverFieldSection (fields : List QpackHeaderField) (isTrailers : Bool) :
    Stays streamId c (c.handOverFieldSection codec streamId fields isTrailers) := by
  have hfields : Stays streamId c (fields.foldl (fun c field =>
      c.emit (.headerField streamId field isTrailers)) c) :=
    foldl_invariant (P := Stays streamId c) (fun _ _ h => h.trans (emit _)) fields c (of_find rfl)
  exact hfields.trans (decoder _ _)

theorem deliverFieldSection (fields : List QpackHeaderField) (isTrailers : Bool) :
    Stays streamId c (c.deliverFieldSection codec streamId fields isTrailers) := by
  unfold Http3Connection.deliverFieldSection
  dsimp only
  split
  · split
    · refine (modifyStream ?_).trans (rejectRequestHead _)
      exact fun _ => ⟨⟨rfl, rfl, rfl⟩, rfl⟩
    refine ((modifyStream ?_).trans (modifyStream ?_)).trans (decoder _ _)
    · exact fun _ => ⟨⟨rfl, rfl, rfl⟩, rfl⟩
    · exact fun _ => ⟨⟨rfl, rfl, rfl⟩, rfl⟩
  · split
    · refine (modifyStream ?_).trans (rejectRequestHead _)
      exact fun _ => ⟨⟨rfl, rfl, rfl⟩, rfl⟩
    · refine (modifyStream ?_).trans (handOverFieldSection _ _)
      exact fun _ => ⟨⟨rfl, rfl, rfl⟩, rfl⟩

theorem handleHeadersFrame (encodedFieldSection : Bytes) : Stays streamId c
      (c.handleHeadersFrame codec streamId encodedFieldSection) := by
  unfold Http3Connection.handleHeadersFrame
  dsimp only
  split
  · exact failStream _ _
  have hdecoded : ∀ newDecoder bytes, Stays streamId c
      ({ ((c.modifyStream streamId fun state =>
          { state with
            isTrailersSeen := state.isTrailersSeen ||
              (c.streamState streamId).isHeaderSectionSeen }).emit
          (.headerSectionStarted streamId (c.streamState streamId).isHeaderSectionSeen)) with
          qpackDecoder := newDecoder }.queueDecoderInstructions bytes) := by
    intro newDecoder bytes
    refine Stays.trans ?_ (decoder _ _)
    exact modifyStream fun _ => ⟨⟨rfl, rfl, rfl⟩, rfl⟩
  split
  · exact (hdecoded _ _).trans (breakConnection _ _)
  · refine (hdecoded _ _).trans (modifyStream ?_)
    exact fun _ => ⟨⟨rfl, rfl, rfl⟩, rfl⟩
  refine ((hdecoded _ _).trans (modifyStream ?_)).trans (deliverFieldSection _ _)
  exact fun _ => ⟨⟨rfl, rfl, rfl⟩, rfl⟩

theorem noteUncredited (byteCount : Nat) :
    Stays streamId c (c.noteUncredited streamId byteCount) := by
  unfold Http3Connection.noteUncredited
  split
  · exact of_find rfl
  · exact emit _

theorem handleDataFrame (payload : Bytes) :
    Stays streamId c (c.handleDataFrame codec streamId payload) := by
  unfold Http3Connection.handleDataFrame
  dsimp only
  split
  · exact breakConnection _ _
  split
  · exact (noteUncredited _).trans (failStream _ _)
  have hcounted : Stays streamId c (c.modifyStream streamId fun state =>
      { state with
        isBodyStarted := true
        receivedBodyByteCount := state.receivedBodyByteCount + payload.length }) :=
    modifyStream fun _ => ⟨⟨rfl, rfl, rfl⟩, rfl⟩
  split
  · exact hcounted
  · exact hcounted.trans (emit _)

theorem handleRequestFrame (frame : Http3Frame) :
    Stays streamId c (c.handleRequestFrame codec streamId frame) := by
  unfold Http3Connection.handleRequestFrame
  split
  · exact breakConnection _ _
  split
  · exact handleHeadersFrame _
  · exact handleDataFrame _
  · exact of_find rfl
  split
  · exact of_find rfl
  · exact breakConnection _ _

end Stays

/-! ## Reading -/

/-- In the middle of a delivery: payload was handed over and is held yet,
and it is part of what was read. -/
structure Reading (streamId count payloadByteCount : Nat)
    (c : Http3Connection D E V) : Prop where
  balance : c.accountedByteCount streamId = count + payloadByteCount
  record : ∃ state reader, c.streams.find? streamId = some state ∧ state.reader = some reader ∧
      state.creditedByteCount + payloadByteCount + reader.pendingByteCount ≤ state.fedByteCount
  abandoned : c.NotesAbandoned streamId

theorem accounted_emit (output : Http3Output) : (c.emit output).accountedByteCount streamId =
      c.accountedByteCount streamId + output.settledByteCount streamId := by
  have htotal := total_append (·.settledByteCount streamId) c.outputs [output]
  simp only [total, map_cons, map_nil, sum_cons, sum_nil,
    add_zero] at htotal
  simp only [accountedByteCount, emit, heldByteCount, total, htotal, streamState]
  omega

theorem NotesAbandoned.emit (h : c.NotesAbandoned streamId)
    (output : Http3Output) : (c.emit output).NotesAbandoned streamId :=
  fun hrequest habandoned => (h hrequest habandoned).imp_right fun ⟨byteCount, hmem⟩ =>
    ⟨byteCount, List.mem_append_left _ hmem⟩

namespace Reading

theorem of_unread (h : Reading streamId count payloadByteCount c)
    (hunread : Unread streamId c c') (hstays : Stays streamId c c') :
    Reading streamId count payloadByteCount c' := by
  obtain ⟨state, reader, hfind, hreader, hle⟩ := h.record
  obtain ⟨state', hfind', hkeeps, _⟩ := hstays state hfind
  refine ⟨hunread.balance.trans h.balance, ⟨state', reader, hfind',
    hkeeps.reader.trans hreader, ?_⟩, hunread.abandoned h.abandoned⟩
  rw [hkeeps.creditedByteCount, hkeeps.fedByteCount]
  exact hle

end Reading

variable {frame : Http3Frame}

/-- A frame is out of the buffer, and its payload not handed over yet. -/
structure Taken (streamId count payloadByteCount : Nat) (frame : Http3Frame)
    (c : Http3Connection D E V) : Prop where
  balance : c.accountedByteCount streamId = count + payloadByteCount
  record : ∃ state reader, c.streams.find? streamId = some state ∧
    state.reader = some reader ∧ state.creditedByteCount +
          (payloadByteCount + dataPayloadByteCount frame) +
        reader.pendingByteCount ≤ state.fedByteCount
  abandoned : c.NotesAbandoned streamId

theorem Taken.settle {payload : Bytes} (h : Taken streamId count payloadByteCount (.data payload) c)
    {output : Http3Output} (houtput : output.settledByteCount streamId = payload.length) :
    Reading streamId count (payloadByteCount + payload.length) (c.emit output) where
  balance := by rw [accounted_emit, h.balance, houtput, add_assoc]
  record := h.record
  abandoned := h.abandoned.emit output

theorem Taken.ignore (h : Taken streamId count payloadByteCount frame c)
    (hframe : dataPayloadByteCount frame = 0) : Reading streamId count payloadByteCount c where
  balance := h.balance
  record := by
    have hrecord := h.record
    rwa [hframe] at hrecord
  abandoned := h.abandoned

theorem Taken.of_modify (h : Taken streamId count payloadByteCount frame c)
    (hupdate : ∀ state : StreamState V,
      state.KeepsEnd (update state) ∧ state.KeepsReader (update state)) :
    Taken streamId count payloadByteCount frame (c.modifyStream streamId update) := by
  have hunread : Unread streamId c (c.modifyStream streamId update) := .modifyStream hupdate
  obtain ⟨state, reader, hfind, hreader, hle⟩ := h.record
  refine ⟨hunread.balance.trans h.balance, ⟨update state, reader,
    modifyStream_find hfind update, (hupdate state).2.reader.trans hreader, ?_⟩,
    hunread.abandoned h.abandoned⟩
  rw [(hupdate state).2.creditedByteCount, (hupdate state).2.fedByteCount]
  exact hle

theorem breakConnection_broken_or {P : Prop} (reason : String) :
    (c.breakConnection errorCode reason).isBroken = true ∨ P :=
  .inl (breakConnection_isBroken errorCode reason)

theorem awayFrom_covers (c : Http3Connection D E V) : (awayFrom streamId).Covers c :=
  fun _ => .inl trivial

theorem Taken.handleDataFrame {payload : Bytes}
    (h : Taken streamId count payloadByteCount (.data payload) c) :
    (c.handleDataFrame codec streamId payload).isBroken = true ∨
      Reading streamId count (payloadByteCount + payload.length)
        (c.handleDataFrame codec streamId payload) := by
  unfold Http3Connection.handleDataFrame
  dsimp only
  split
  · exact breakConnection_broken_or _ _
  split
  · refine .inr (Reading.of_unread ?_ (Via.unread (Via.failStream (.refl _) trivial _ _))
      (Stays.failStream _ _))
    unfold noteUncredited
    split
    · next hempty =>
      rw [hempty]
      exact h.ignore hempty
    refine h.settle ?_
    simp [Http3Output.settledByteCount, Http3Output.creditedByteCount,
      Http3Output.handedByteCount, Http3Output.lostByteCount]
  refine .inr ?_
  split
  · next hempty =>
    rw [List.isEmpty_iff] at hempty
    subst hempty
    refine (h.of_modify ?_).ignore rfl
    exact fun _ => ⟨⟨rfl, rfl⟩, ⟨rfl, rfl, rfl⟩⟩
  · refine (h.of_modify ?_).settle ?_
    · exact fun _ => ⟨⟨rfl, rfl⟩, ⟨rfl, rfl, rfl⟩⟩
    · simp [Http3Output.settledByteCount, Http3Output.creditedByteCount,
        Http3Output.handedByteCount, Http3Output.lostByteCount]

variable (codec)

theorem Taken.handleRequestFrame (h : Taken streamId count payloadByteCount frame c) :
    (c.handleRequestFrame codec streamId frame).isBroken = true ∨
      Reading streamId count (payloadByteCount + dataPayloadByteCount frame)
        (c.handleRequestFrame codec streamId frame) := by
  cases frame with
  | data payload => exact h.handleDataFrame
  | _ =>
    refine .inr (Reading.of_unread (h.ignore rfl)
      (Via.unread (Via.handleRequestFrame (.refl c) trivial ?_))
      (Stays.handleRequestFrame _))
    exact fun _ hno => nomatch hno

theorem Reading.take (h : Reading streamId count payloadByteCount c)
    (hlive : isUnidirectionalStream streamId = false → (c.streamState streamId).isAbandoned = false)
    {reader' : Http3FrameReader} (hreader : (c.streamState streamId).reader = some reader)
    (hnext : reader.nextFrame = (.ok (some frame), reader')) :
    Taken streamId count payloadByteCount frame
      (c.modifyStream streamId fun state =>
        { state with reader := some reader' }) := by
  obtain ⟨state, old, hfind, hold, hle⟩ := h.record
  have hstate := streamState_eq hfind
  have hfind' := modifyStream_find hfind fun state =>
    { state with reader := some reader' }
  have hpending := Http3FrameReader.nextFrame_pending hnext
  obtain rfl : old = reader := by
    rw [hstate, hold] at hreader
    exact Option.some.inj hreader
  have hbalance := h.balance
  refine ⟨?_, ⟨_, reader', hfind', rfl, ?_⟩, fun hrequest habandoned => ?_⟩
  · simp only [accountedByteCount, heldByteCount, streamState_eq hfind',
      modifyStream_outputs, hstate] at hbalance ⊢
    exact hbalance
  · dsimp only
    omega
  · rw [streamState_eq hfind'] at habandoned
    rw [hstate] at hlive
    cases (hlive hrequest).symm.trans habandoned

variable {codec}

theorem consumeRequestFrames_broken (h : c.isBroken) (rounds payloadByteCount : Nat) :
    (Http3Connection.consumeRequestFrames codec streamId rounds payloadByteCount c).1.isBroken := by
  have hvia : Via .any c (Http3Connection.consumeRequestFrames codec streamId
      rounds payloadByteCount c).1 :=
    Via.consumeRequestFrames (.refl c) codec
      ⟨trivial, trivial, trivial, trivial⟩ rounds payloadByteCount
  exact hvia.kept.isBroken h

variable (codec)

theorem Reading.consumeRequestFrames
    (h : Reading streamId count payloadByteCount c) (rounds : Nat) :
    (Http3Connection.consumeRequestFrames codec streamId rounds
        payloadByteCount c).1.isBroken = true ∨
      ∃ read, (Http3Connection.consumeRequestFrames codec streamId rounds
          payloadByteCount c).2 = some read ∧ Reading streamId count read
          (Http3Connection.consumeRequestFrames codec streamId rounds payloadByteCount c).1 := by
  induction rounds generalizing c payloadByteCount with
  | zero => exact .inr ⟨payloadByteCount, rfl, h⟩
  | succ rounds ih =>
    unfold Http3Connection.consumeRequestFrames
    dsimp only
    split
    · exact .inr ⟨payloadByteCount, rfl, h⟩
    rename_i hgoes
    simp only [Bool.or_eq_true, not_or, Bool.not_eq_true] at hgoes
    split
    · exact .inr ⟨payloadByteCount, rfl, h⟩
    rename_i reader hreader
    split
    · exact breakConnection_broken_or _ _
    · exact .inr ⟨payloadByteCount, rfl, h⟩
    rename_i hnext
    have htaken := h.take (fun _ => hgoes.1.2) hreader hnext
    rcases htaken.handleRequestFrame codec with hbroken | hreading
    · exact .inl (consumeRequestFrames_broken hbroken rounds _)
    · exact ih hreading

/-! ## Credit -/

theorem Books.credit (h : Books streamId count c) (hcrediter : c.configuration.hasStreamCrediter)
    (byteCount : Nat) : Books streamId (count + byteCount) (c.credit streamId byteCount) := by
  unfold Http3Connection.credit
  rw [hcrediter, Bool.true_and]
  split
  · refine ⟨?_, h.atRest, h.abandoned.emit _⟩
    rw [accounted_emit, h.balance]
    simp [Http3Output.settledByteCount, Http3Output.creditedByteCount,
      Http3Output.handedByteCount, Http3Output.lostByteCount]
  rename_i hzero
  rw [bne_iff_ne, not_not] at hzero
  rw [hzero]
  exact h

theorem Books.noteUncredited (h : Books streamId count c) (byteCount : Nat) :
    Books streamId (count + byteCount) (c.noteUncredited streamId byteCount) := by
  unfold Http3Connection.noteUncredited
  split
  · next hzero =>
    rw [hzero]
    exact h
  refine ⟨?_, h.atRest, h.abandoned.emit _⟩
  rw [accounted_emit, h.balance]
  simp [Http3Output.settledByteCount, Http3Output.creditedByteCount,
    Http3Output.handedByteCount, Http3Output.lostByteCount]

theorem Reading.creditConsumedBytes (h : Reading streamId count payloadByteCount c)
    (hcrediter : c.configuration.hasStreamCrediter) :
    Books streamId count (c.creditConsumedBytes streamId payloadByteCount) := by
  obtain ⟨state, reader, hfind, hreader, hle⟩ := h.record
  have hstate := streamState_eq hfind
  have hbalance := h.balance
  unfold Http3Connection.creditConsumedBytes
  simp only [hstate, hreader, hcrediter, Bool.not_true, Bool.false_eq_true, if_false]
  -- what has no credit yet, the payload included
  obtain ⟨increment, hincrement⟩ : ∃ increment,
      increment = state.fedByteCount - reader.pendingByteCount -
        state.creditedByteCount := ⟨_, rfl⟩
  rw [← hincrement]
  obtain ⟨credited, hcredited⟩ : ∃ credited, credited = increment - payloadByteCount := ⟨_, rfl⟩
  rw [← hcredited]
  have hfind' := modifyStream_find hfind fun state =>
    { state with creditedByteCount := state.creditedByteCount + increment }
  obtain ⟨_, hfields⟩ := c.modifyStream_eq streamId fun state =>
    { state with creditedByteCount := state.creditedByteCount + increment }
  have hbooks : Books streamId (count - credited)
      (c.modifyStream streamId fun state =>
        { state with
          creditedByteCount := state.creditedByteCount + increment }) := by
    refine ⟨?_, ?_, fun hrequest habandoned => ?_⟩
    · simp only [accountedByteCount, heldByteCount, streamState_eq hfind',
        modifyStream_outputs, hstate] at hbalance ⊢
      omega
    · simp only [readerByteCount, streamState_eq hfind', hreader, Option.map_some, Option.getD_some]
      omega
    · have hnotes := h.abandoned
      simp only [NotesAbandoned, readerByteCount, streamState_eq hfind',
        modifyStream_outputs, hstate] at hnotes habandoned ⊢
      exact hnotes hrequest habandoned
  have hgiven := hbooks.credit (by rw [hfields]; exact hcrediter) credited
  have hcount : count - credited + credited = count := by
    simp only [accountedByteCount, heldByteCount, hstate] at hbalance
    omega
  rwa [hcount] at hgiven

/-! ## Deliveries -/

variable {state : StreamState V}

theorem Books.feedReader (h : Books streamId count c)
    (hfind : c.streams.find? streamId = some state)
    (hlive : isUnidirectionalStream streamId = false → state.isAbandoned = false) {data : Bytes}
    (hfed : (c.feedReader streamId data).1 = none) :
    Reading streamId (count + data.length) 0 (c.feedReader streamId data).2 := by
  have hstate := streamState_eq hfind
  have hbalance := h.balance
  have hrest := h.atRest
  simp only [accountedByteCount, heldByteCount, readerByteCount, hstate] at hbalance hrest
  unfold Http3Connection.feedReader at hfed ⊢
  simp only [hstate] at hfed ⊢
  have hpending := Http3FrameReader.feed_pending hfed
  have hempty : (state.reader.getD
      { maximumFrameByteCount := c.configuration.localSettings.maximumFrameByteCount
      }).pendingByteCount = (state.reader.map (·.pendingByteCount)).getD 0 := by
    cases state.reader with
    | none => rfl
    | some _ => rfl
  refine ⟨?_, ⟨_, _, modifyStream_find hfind _, rfl, ?_⟩, fun hrequest habandoned => ?_⟩
  · simp only [accountedByteCount, heldByteCount, modifyStream_outputs,
      streamState_eq (modifyStream_find hfind _)]
    omega
  · dsimp only
    omega
  · rw [streamState_eq (modifyStream_find hfind _)] at habandoned
    cases (hlive hrequest).symm.trans habandoned

theorem crediter_of_via (h : Via .any c c') (hcrediter : c.configuration.hasStreamCrediter) :
    c'.configuration.hasStreamCrediter := by
  rw [h.kept.configuration]
  exact hcrediter

/-- The end of a delivery on a request stream: its FIN, and the record of a
stream that was given up. -/
def endDelivery (codec : Http3Codec D E V) (c : Http3Connection D E V)
    (streamId : Nat) (isEndStream : Bool) : Http3Connection D E V :=
  let state := c.streamState streamId
  let c :=
    if isEndStream && !state.isPeerFinished && !state.isAbandoned && !c.isBroken then
      let c := (c.modifyStream streamId fun state =>
        { state with isPeerFinished := true }).noteStranded streamId
      if state.isFieldSectionBlocked then c
      else c.finishRequestStreamIfEnded codec streamId
    else c
  c.pruneAbandonedStream streamId

variable {codec}

theorem Via.endDelivery {scope : Scope} (h : Via scope c c')
    (htouches : scope.touches streamId) (isEndStream : Bool) :
    Via scope c (c'.endDelivery codec streamId isEndStream) := by
  refine .pruneAbandonedStream ?_ htouches
  split
  · have hnoted : Via scope c ((c'.modifyStream streamId fun state =>
        { state with isPeerFinished := true }).noteStranded streamId) :=
      h.finishStream htouches fun _ => ⟨⟨id, id, fun _ => rfl, id⟩, ⟨rfl, rfl, rfl⟩⟩
    split
    · exact hnoted
    · exact hnoted.finishRequestStreamIfEnded htouches
  · exact h

/-- The record is still there, and its peer has not finished in between. -/
def SameEnd (streamId : Nat) (c c' : Http3Connection D E V) : Prop :=
  ∀ state, c.streams.find? streamId = some state → ∃ state',
    c'.streams.find? streamId = some state' ∧ state'.isPeerFinished = state.isPeerFinished

theorem SameEnd.trans (h : SameEnd streamId c c')
    (h' : SameEnd streamId c' c'') : SameEnd streamId c c'' := by
  intro state hfind
  obtain ⟨state', hfind', hend⟩ := h state hfind
  obtain ⟨state'', hfind'', hend'⟩ := h' state' hfind'
  exact ⟨state'', hfind'', hend'.trans hend⟩

theorem SameEnd.of_stays (h : Stays streamId c c') : SameEnd streamId c c' := by
  intro state hfind
  obtain ⟨state', hfind', _, hend⟩ := h state hfind
  exact ⟨state', hfind', hend⟩

theorem SameEnd.modifyStream
    (h : ∀ state : StreamState V, (update state).isPeerFinished = state.isPeerFinished) :
    SameEnd streamId c (c.modifyStream streamId update) :=
  fun state hfind => ⟨_, modifyStream_find hfind update, h state⟩

variable (codec)

theorem SameEnd.consumeRequestFrames
    (c : Http3Connection D E V) (rounds payloadByteCount : Nat) :
    SameEnd streamId c (Http3Connection.consumeRequestFrames codec streamId
      rounds payloadByteCount c).1 := by
  have hrefl : ∀ d : Http3Connection D E V, SameEnd streamId d d :=
    fun _ => .of_stays (.of_find rfl)
  induction rounds generalizing c payloadByteCount with
  | zero => exact hrefl c
  | succ rounds ih =>
    unfold Http3Connection.consumeRequestFrames
    dsimp only
    split
    · exact hrefl c
    split
    · exact hrefl c
    have hread : ∀ reader' : Http3FrameReader, SameEnd streamId c
        (c.modifyStream streamId fun state =>
          { state with reader := some reader' }) :=
      fun _ => .modifyStream fun _ => rfl
    split
    · exact (hread _).trans (.of_stays (.breakConnection _ _))
    · exact hrefl c
    · exact ((hread _).trans (.of_stays (.handleRequestFrame _))).trans (ih _ _)

theorem creditConsumedBytes_sameEnd (c : Http3Connection D E V) (payloadByteCount : Nat) :
    SameEnd streamId c (c.creditConsumedBytes streamId payloadByteCount) := by
  unfold Http3Connection.creditConsumedBytes
  dsimp only
  split
  · exact .of_stays (.of_find rfl)
  split
  · exact .of_stays (.of_find rfl)
  refine .trans (.modifyStream ?_) (.of_stays (.of_via ((Via.refl _).credit trivial _)))
  exact fun _ => rfl

/-- A delivery on a request stream that is read: the books balance before
its end is looked at. -/
theorem Books.readRequestStream
    (h : Books streamId count c) (hfind : c.streams.find? streamId = some state)
    (hlive : state.isAbandoned = false)
    (hcrediter : c.configuration.hasStreamCrediter) (data : Bytes) (isEndStream : Bool) :
    (c.processRequestStream codec streamId data isEndStream).isBroken = true ∨
      ∃ d : Http3Connection D E V, Books streamId (count + data.length) d ∧
        (d.streamState streamId).isPeerFinished = state.isPeerFinished ∧
          c.processRequestStream codec streamId data isEndStream =
            d.endDelivery codec streamId isEndStream := by
  have hopens : Scope.any.Opens streamId := ⟨trivial, trivial, trivial, trivial⟩
  have hfed : Via .any c (c.feedReader streamId data).2 := (Via.refl c).feedReader trivial data
  have hread : SameEnd streamId c (c.feedReader streamId data).2 := .modifyStream fun _ => rfl
  unfold Http3Connection.processRequestStream
  rw [if_neg (by rw [streamState_eq hfind, hlive]; nofun)]
  split
  · exact breakConnection_broken_or _ _
  rename_i c₁ heq
  have hreading := h.feedReader hfind (fun _ => hlive) (congrArg Prod.fst heq)
  rw [heq] at hfed hread hreading
  have hframes := hreading.consumeRequestFrames codec (c₁.readerByteCount streamId)
  have hvia := hfed.consumeRequestFrames codec hopens (c₁.readerByteCount streamId) 0
  have hend := hread.trans (.consumeRequestFrames codec c₁ (c₁.readerByteCount streamId) 0)
  split
  · next c₂ hconsumed =>
    rw [hconsumed] at hframes
    refine .inl (hframes.elim id ?_)
    exact fun ⟨_, hno, _⟩ => nomatch hno
  rename_i c₂ payloadByteCount hconsumed
  rw [hconsumed] at hframes hvia hend
  rcases hframes with hbroken | ⟨_, hpayload, hreading⟩
  · have hrest : Via .any c₂
        ((c₂.creditConsumedBytes streamId payloadByteCount).endDelivery
          codec streamId isEndStream) :=
      ((Via.refl c₂).creditConsumedBytes hopens payloadByteCount).endDelivery trivial isEndStream
    exact .inl (hrest.kept.isBroken hbroken)
  obtain rfl := Option.some.inj hpayload
  obtain ⟨state', hfind', hend⟩ := (hend.trans
    (creditConsumedBytes_sameEnd c₂ payloadByteCount)) state hfind
  exact .inr ⟨c₂.creditConsumedBytes streamId payloadByteCount,
    hreading.creditConsumedBytes (crediter_of_via hvia hcrediter),
    by rw [streamState_eq hfind', hend], rfl⟩

theorem Books.processRequestStream
    (h : Books streamId count c) (hfind : c.streams.find? streamId = some state)
    (hcrediter : c.configuration.hasStreamCrediter) (data : Bytes) (isEndStream : Bool) :
    (c.processRequestStream codec streamId data isEndStream).isBroken = true ∨
      Books streamId (count + data.length)
        (c.processRequestStream codec streamId data isEndStream) := by
  cases hlive : state.isAbandoned with
  | true =>
    unfold Http3Connection.processRequestStream
    rw [if_pos (by rw [streamState_eq hfind, hlive])]
    exact .inr (h.credit hcrediter _)
  | false =>
    refine (h.readRequestStream codec hfind hlive hcrediter data
      isEndStream).imp_right fun ⟨d, hbooks, _, heq⟩ => ?_
    rw [heq]
    exact hbooks.of_unread (Via.unread ((Via.refl d).endDelivery trivial _))

theorem ensureStream_state (c : Http3Connection D E V)
    (other : Nat) : (c.ensureStream other).streamState streamId = c.streamState streamId := by
  unfold ensureStream
  cases hfind : c.streams.find? other with
  | some state => rfl
  | none =>
    by_cases hne : streamId = other
    · subst hne
      simp only [streamState, SortedMap.find?_insert_self, hfind,
        Option.getD_some, Option.getD_none]
    · simp only [streamState, SortedMap.find?_insert_of_ne _ _ hne]

theorem Unread.ensureStream (other : Nat) : Unread streamId c (c.ensureStream other) :=
  .of_state (ensureStream_state c other) (.of_eq ensureStream_outputs)

theorem Books.rejectStreamAfterDrain (h : Books streamId count c)
    (hcrediter : c.configuration.hasStreamCrediter) (data : Bytes) :
    Books streamId (count + data.length) (c.rejectStreamAfterDrain codec streamId data) := by
  have hnoted : Unread streamId c
      (((c.ensureStream streamId).modifyStream streamId fun state =>
        { state with isAbandoned := true }).noteStranded streamId) :=
    (Unread.ensureStream streamId).trans (.finishStream fun _ => ⟨rfl, rfl, rfl⟩)
  have hvia : Via .any c
      (((c.ensureStream streamId).modifyStream streamId fun state =>
        { state with isAbandoned := true }).noteStranded streamId) :=
    Via.finishStream (Via.ensureStream (.refl c) trivial) trivial
      fun _ => ⟨⟨fun _ => rfl, id, id, id⟩, ⟨rfl, rfl, rfl⟩⟩
  have hcredited := (h.of_unread hnoted).credit (crediter_of_via hvia hcrediter) data.length
  exact hcredited.of_unread (Via.unread
    (Via.pruneAbandonedStream (Via.failStream (.refl _) trivial _ _) trivial))

theorem Books.consumeRequestStream (h : Books streamId count c)
    (hcrediter : c.configuration.hasStreamCrediter) (data : Bytes) (isEndStream : Bool) :
    (c.consumeRequestStream codec streamId data isEndStream).isBroken = true ∨
      Books streamId (count + data.length)
        (c.consumeRequestStream codec streamId data isEndStream) := by
  unfold Http3Connection.consumeRequestStream
  dsimp only
  split
  · split
    · exact .inr (h.credit hcrediter _)
    have hmarked : Books streamId count { c with lastRejectedDrainedStreamId := some streamId } :=
      h.of_unread (.of_state rfl (.of_eq rfl))
    exact .inr (hmarked.rejectStreamAfterDrain codec hcrediter data)
  have hensured : Books streamId count (c.ensureStream streamId) :=
    h.of_unread (.ensureStream streamId)
  have hfind : (c.ensureStream streamId).streams.find? streamId = _ := ensureStream_find_self
  have hcrediter' : (c.ensureStream streamId).configuration.hasStreamCrediter :=
    crediter_of_via (Via.ensureStream (.refl c) trivial) hcrediter
  split
  · have hmarked : Books streamId count
        { c.ensureStream streamId with
          lastProcessedRequestStreamId := some streamId } :=
      hensured.of_unread (.of_state rfl (.of_eq rfl))
    exact hmarked.processRequestStream codec hfind hcrediter' data isEndStream
  · exact hensured.processRequestStream codec hfind hcrediter' data isEndStream

variable {codec}

theorem Stays.handleControlFrame (frame : Http3Frame) :
    Stays streamId c (c.handleControlFrame codec frame) := by
  have hfailed : ∀ (d : Http3Connection D E V) (other : Nat)
      (errorCode : Http3ErrorCode) (reason : String),
      Stays streamId d (d.failStream codec other errorCode reason) := by
    intro d other errorCode reason
    by_cases hne : streamId = other
    · subst hne
      exact failStream _ _
    have hvia : Via { touches := (· = other) } d (d.failStream codec other errorCode reason) :=
      (Via.refl d).failStream rfl _ _
    exact of_find (hvia.record hne id)
  unfold Http3Connection.handleControlFrame
  split
  · exact breakConnection _ _
  split
  · split
    · exact breakConnection _ _
    exact of_via (Via.applyPeerSettings
      ((Via.refl c).trans (.move c (.peerFacts c.peerMaximumBlockedStreamCount
        c.peerMaximumFieldSectionSizeByteCount c.maximumPushId true
        c.isPeerGoAwayReceived) trivial)) _)
  split
  · exact breakConnection _ _
  split
  · exact foldl_invariant (P := Stays streamId c)
      (fun d other h => h.trans (hfailed d other _ _)) _ _ (of_find rfl)
  · exact of_find rfl
  · exact of_find rfl
  · exact of_find rfl
  · split
    · exact of_find rfl
    · exact breakConnection _ _

theorem Taken.weaken (h : Taken streamId count payloadByteCount frame c) :
    Reading streamId count payloadByteCount c := by
  obtain ⟨state, reader, hfind, hreader, hle⟩ := h.record
  exact ⟨h.balance, ⟨state, reader, hfind, hreader, by omega⟩, h.abandoned⟩

variable (codec)

theorem Reading.consumeControlFrames (h : Reading streamId count 0 c)
    (huni : isUnidirectionalStream streamId) (rounds : Nat) :
    (Http3Connection.consumeControlFrames codec streamId rounds c).1.isBroken = true ∨
      Reading streamId count 0
        (Http3Connection.consumeControlFrames codec streamId rounds c).1 := by
  induction rounds generalizing c with
  | zero => exact .inr h
  | succ rounds ih =>
    unfold Http3Connection.consumeControlFrames
    split
    · exact .inr h
    split
    · exact .inr h
    rename_i reader hreader
    split
    · exact breakConnection_broken_or _ _
    · exact .inr h
    rename_i hnext
    have hread := (h.take (fun hrequest => by
      cases huni.symm.trans hrequest) hreader hnext).weaken
    refine ih (hread.of_unread (Via.unread ?_) (Stays.handleControlFrame _))
    exact Via.handleControlFrame (.refl _) (awayFrom_covers _) _

theorem Books.consumeControlStreamBytes (h : Books streamId count c)
    (huni : isUnidirectionalStream streamId)
    (hcrediter : c.configuration.hasStreamCrediter) (data : Bytes) (isEndStream : Bool) :
    (c.consumeControlStreamBytes codec streamId data isEndStream).isBroken = true ∨
      Books streamId (count + data.length)
        (c.consumeControlStreamBytes codec streamId data isEndStream) := by
  have hopens : Scope.any.Opens streamId := ⟨trivial, trivial, trivial, trivial⟩
  have hensured : Books streamId count (c.ensureStream streamId) :=
    h.of_unread (.ensureStream streamId)
  have hfind : (c.ensureStream streamId).streams.find? streamId = _ := ensureStream_find_self
  have hfed : Via .any c ((c.ensureStream streamId).feedReader streamId data).2 :=
    ((Via.refl c).ensureStream trivial).feedReader trivial data
  unfold Http3Connection.consumeControlStreamBytes
  split
  · exact breakConnection_broken_or _ _
  rename_i c₁ heq
  have hreading := hensured.feedReader hfind (fun hrequest => nomatch huni.symm.trans hrequest)
    (congrArg Prod.fst heq)
  rw [heq] at hfed hreading
  have hframes := hreading.consumeControlFrames codec huni (c₁.readerByteCount streamId)
  have hvia := hfed.consumeControlFrames codec (fun _ => .inl trivial)
    hopens.reads (c₁.readerByteCount streamId)
  have hstopped := consumeControlFrames_stopped codec streamId (c₁.readerByteCount streamId) c₁
  split
  · next c₂ hconsumed =>
    rw [hconsumed] at hstopped
    exact .inl (hstopped rfl)
  rename_i c₂ hconsumed
  rw [hconsumed] at hframes hvia
  rcases hframes with hbroken | hreading
  · have hrest : Via .any c₂
        (if isEndStream = true then
          (c₂.creditConsumedBytes streamId 0).breakConnection .closedCriticalStream "对端控制流已关闭"
        else c₂.creditConsumedBytes streamId 0) := by
      split
      · exact ((Via.refl c₂).creditConsumedBytes hopens 0).breakConnection (fun _ => trivial) _
      · exact (Via.refl c₂).creditConsumedBytes hopens 0
    exact .inl (hrest.kept.isBroken hbroken)
  · split
    · exact breakConnection_broken_or _ _
    · exact .inr (hreading.creditConsumedBytes (crediter_of_via hvia hcrediter))

theorem consumeQpackEncoderStreamBytes_split (c : Http3Connection D E V) (data : Bytes) :
    (c.consumeQpackEncoderStreamBytes codec data).isBroken = true ∨ ∃ d : Http3Connection D E V,
        (∀ {scope : Scope}, scope.Covers c → Via scope c d) ∧
          c.consumeQpackEncoderStreamBytes codec data =
            c.peerEncoderStreamId.elim d (d.credit · data.length) := by
  unfold Http3Connection.consumeQpackEncoderStreamBytes
  split
  · exact breakConnection_broken_or _ _
  rename_i unblocked bytes decoder _
  have hresumed : ∀ {scope : Scope}, scope.Covers c → Via scope c
      (unblocked.foldl (Http3Connection.deliverResumedFieldSection codec)
        ({ c with qpackDecoder := decoder }.queueDecoderInstructions bytes)) :=
    fun hcovers => foldl_invariant (fun _ streamId h =>
      h.deliverResumedFieldSection hcovers streamId) unblocked _
      ((Via.refl c).decoder decoder bytes)
  let anyStream : Scope := { touches := fun _ => True }
  have hsame := (@hresumed anyStream (fun _ => .inl trivial)).kept.roles id
  have hencoder := hsame.2.2.2.1
  refine .inr ⟨_, hresumed, ?_⟩
  dsimp only at hencoder ⊢
  generalize unblocked.foldl _ _ = resumed at hencoder ⊢
  rw [← hencoder]
  cases resumed.peerEncoderStreamId with
  | none => rfl
  | some _ => rfl

end Http3Connection

end AsynGyanis.Http3
