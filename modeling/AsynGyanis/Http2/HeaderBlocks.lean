import AsynGyanis.Http2.Walk

/-!
# Which header blocks reach the decoder

HPACK is stateful: a block that is not decoded leaves the decoder's table
behind the peer's encoder, and every later request may be read wrong. The
handlers know this. A block for a refused, a reset or a closed stream is
assembled and decoded with the purpose `discard`, and one over a limit is
decoded to its end.

`receivedBlocks` says which blocks a sequence of frames carries, without
looking at streams at all. The invariant `InStep` compares it with what
the connection decoded. Every handler keeps it but for one branch: HEADERS
on a stream that the peer has half-closed are answered with RST_STREAM,
and their block is thrown away. `header_blocks_decoded` is the theorem
for the runs that avoid the branch, `half_closed_block_not_decoded` a run
that takes it.
-/

namespace AsynGyanis.Http2

open Library

/-! ## The blocks of a sequence of frames -/

/-- The complete header blocks among the frames so far, and the fragments
of the one that is not complete. -/
structure ReceivedBlocks where
  complete : List Bytes := []
  unfinished : Bytes := []
  deriving DecidableEq

def ReceivedBlocks.extend (blocks : ReceivedBlocks) (fragment : Bytes)
    (endHeaders : Bool) : ReceivedBlocks :=
  if endHeaders then
    ⟨blocks.complete ++ [blocks.unfinished ++ fragment], []⟩
  else { blocks with unfinished := blocks.unfinished ++ fragment }

def ReceivedBlocks.add (blocks : ReceivedBlocks) (frame : Http2Frame) :
    ReceivedBlocks :=
  let endHeaders := hasFlag frame.header.flags kHttp2FlagEndHeaders
  match frame.header.type with
  | .headers =>
    { blocks with unfinished := [] }.extend frame.payload endHeaders
  | .continuation => blocks.extend frame.payload endHeaders
  | _ => blocks

def receivedBlocks (frames : List Http2Frame) : ReceivedBlocks := frames.foldl ReceivedBlocks.add {}

/-- The decoder after a list of blocks. -/
def decoderAfter {D E H : Type} (codec : Http2Codec D E H) (decoder : D)
    (blocks : List Bytes) : D :=
  blocks.foldl (fun d block => (codec.decode d block).2) decoder

/-! ## The same on the connection's side -/

namespace DecodingState

variable {D E H : Type}

/-- A new block begins. -/
def begin (d : DecodingState D) : DecodingState D :=
  { d with isAssemblingHeaderBlock := true, pendingHeaderBlock := [] }

def extend (codec : Http2Codec D E H) (d : DecodingState D)
    (fragment : Bytes) (endHeaders : Bool) : DecodingState D :=
  let block := d.pendingHeaderBlock ++ fragment
  if endHeaders then
    ⟨(codec.decode d.hpackDecoder block).2, d.decodedHeaderBlocks ++ [block], false, []⟩
  else { d with pendingHeaderBlock := block }

/-- The decoding state is that of a connection that decoded every complete
block once and in order. -/
structure InStep (codec : Http2Codec D E H) (decoder : D)
    (d : DecodingState D) (blocks : ReceivedBlocks) : Prop where
  decoded : d.decodedHeaderBlocks = blocks.complete
  table : d.hpackDecoder = decoderAfter codec decoder blocks.complete
  assembled : d.isAssemblingHeaderBlock = true → d.pendingHeaderBlock = blocks.unfinished

theorem InStep.begin {codec : Http2Codec D E H} {decoder : D}
    {d : DecodingState D} {blocks : ReceivedBlocks} (h : InStep codec decoder d blocks) :
    InStep codec decoder d.begin { blocks with unfinished := [] } :=
  ⟨h.decoded, h.table, fun _ => rfl⟩

theorem InStep.extend {codec : Http2Codec D E H} {decoder : D}
    {d : DecodingState D} {blocks : ReceivedBlocks} (h : InStep codec decoder d blocks)
    (hassembling : d.isAssemblingHeaderBlock) (fragment : Bytes) (endHeaders : Bool) :
    InStep codec decoder (d.extend codec fragment endHeaders)
      (blocks.extend fragment endHeaders) := by
  have hpending := h.assembled hassembling
  cases endHeaders with
  | false => exact ⟨h.decoded, h.table, fun _ => by
      simp [DecodingState.extend, ReceivedBlocks.extend, hpending]⟩
  | true =>
    refine ⟨?_, ?_, fun hfalse => absurd hfalse (by
      simp [DecodingState.extend])⟩
    · simp [DecodingState.extend, ReceivedBlocks.extend, hpending, h.decoded]
    · simp [DecodingState.extend, ReceivedBlocks.extend, hpending, h.table, decoderAfter]

end DecodingState

namespace Http2Connection

variable {D E H : Type}

/-! ## DATA -/

variable (codec : Http2Codec D E H) (c : Http2Connection D E H) (streamId : Nat)
  (purpose : HeaderBlockPurpose)

/-- Unless the connection fails, it decodes as before. -/
def DecodingKept : Http2Connection D E H → Http2Connection D E H → Prop :=
  UnlessFailed fun c => c.readSide.1

theorem DecodingKept.data : AdmitsData (@DecodingKept D E H) where
  toAdmits := UnlessFailed.admits Prod.fst
  book := fun _ _ _ _ => .of_same rfl rfl

/-! ## Header blocks -/

theorem finishOversizedBlock_decoding (endStream : Bool) (errorMessage : String) :
    (c.finishOversizedBlock codec streamId purpose endStream
      errorMessage).decoding = c.decoding := by
  unfold finishOversizedBlock
  split
  · rfl
  · split
    · rfl
    · exact congrArg Prod.fst (failStream_readSide c streamId _ _)
  split
  · exact congrArg Prod.fst (noteRemoteEndStream_readSide _ streamId)
  · rfl

theorem deliverHeaderFields_decoding (endStream : Bool) (headerFields : List HpackHeaderField) :
    (c.deliverHeaderFields codec streamId purpose endStream
      headerFields).decoding = c.decoding := by
  unfold deliverHeaderFields
  split
  · rfl
  split
  · rfl
  split
  · unfold deliverTrailers
    split
    · exact congrArg Prod.fst (failStream_readSide c streamId _ _)
    split
    · exact congrArg Prod.fst (noteRemoteEndStream_readSide c streamId)
    · rfl
  unfold deliverRequest
  split
  · exact congrArg Prod.fst (failStream_readSide _ streamId _ _)
  split
  · exact congrArg Prod.fst (noteRemoteEndStream_readSide _ streamId)
  · rfl

theorem finishHeaderBlock_decoding : (c.finishHeaderBlock codec).2.state = .failed ∨
      (c.finishHeaderBlock codec).2.decoding = (c.decodePendingHeaderBlock codec).decoding := by
  unfold finishHeaderBlock
  split
  · exact .inl (fail_state _ _ _)
  · exact .inr (finishOversizedBlock_decoding codec _ _ _ _ _)
  · exact .inr (deliverHeaderFields_decoding codec _ _ _ _ _)

/-- A fragment, of HEADERS or of CONTINUATION, extends the block and ends
it where END_HEADERS says so. -/
theorem extendHeaderBlock_decoding (fragment : Bytes) (endHeaders : Bool)
    {result : Bool × Http2Connection D E H}
    (h : result =
      if !(c.appendHeaderBlockFragment fragment).1 then
        c.appendHeaderBlockFragment fragment
      else if endHeaders then
        (c.appendHeaderBlockFragment fragment).2.finishHeaderBlock codec
      else c.appendHeaderBlockFragment fragment) : result.2.state = .failed ∨
      result.2.decoding = c.decoding.extend codec fragment endHeaders := by
  subst h
  unfold appendHeaderBlockFragment
  split
  · exact .inl (fail_state c _ _)
  cases endHeaders with
  | false => exact .inr rfl
  | true => exact finishHeaderBlock_decoding codec _

theorem beginHeaderBlock_decoding (endStream : Bool) (firstFragment : Bytes) (endHeaders : Bool) :
    (c.beginHeaderBlock codec streamId purpose endStream firstFragment
        endHeaders).2.state = .failed ∨
      (c.beginHeaderBlock codec streamId purpose endStream firstFragment endHeaders).2.decoding =
        c.decoding.begin.extend codec firstFragment endHeaders :=
  extendHeaderBlock_decoding codec
    { c with
      isAssemblingHeaderBlock := true
      pendingHeaderStreamId := streamId
      pendingHeaderPurpose := purpose
      pendingHeaderEndStream := endStream
      pendingHeaderBlock := [] } firstFragment endHeaders rfl

theorem beginHeaderBlock_decoding_after {codec : Http2Codec D E H}
    {c c' : Http2Connection D E H} (hsame : c'.readSide = c.readSide)
    (streamId : Nat) (purpose : HeaderBlockPurpose) (endStream : Bool)
    (firstFragment : Bytes) (endHeaders : Bool) :
    (c'.beginHeaderBlock codec streamId purpose endStream firstFragment
        endHeaders).2.state = .failed ∨
      (c'.beginHeaderBlock codec streamId purpose endStream firstFragment endHeaders).2.decoding =
        c.decoding.begin.extend codec firstFragment endHeaders := by
  rw [← show c'.decoding = c.decoding from congrArg Prod.fst hsame]
  exact beginHeaderBlock_decoding codec c' streamId purpose endStream firstFragment endHeaders

/-! ## HEADERS and CONTINUATION -/

/-- The peer has ended the stream and sends another header block on it. -/
def onHalfClosedStream (c : Http2Connection D E H) (frame : Http2Frame) :
    Bool :=
  (c.streams.find? frame.header.streamId).any fun stream =>
    stream.state = .halfClosedRemote

theorem handleNewStreamHeaders_decoding (payload : Http2HeadersPayload) :
    (c.handleNewStreamHeaders codec streamId payload).2.state = .failed ∨
      (c.handleNewStreamHeaders codec streamId payload).2.decoding =
        c.decoding.begin.extend codec payload.headerBlockFragment
          payload.endHeaders := by
  unfold handleNewStreamHeaders
  split
  · exact .inl (fail_state c _ _)
  split
  · exact beginHeaderBlock_decoding_after (refuseNewStream_readSide c streamId _) _ _ _ _ _
  split
  · exact beginHeaderBlock_decoding_after (refuseNewStream_readSide c streamId _) _ _ _ _ _
  · exact beginHeaderBlock_decoding codec (c.openStream streamId) _ _ _
      _ _

theorem handleClosedStreamHeaders_decoding (stream : StreamRecord) (payload : Http2HeadersPayload) :
    (c.handleClosedStreamHeaders codec streamId stream payload).2.state = .failed ∨
      (c.handleClosedStreamHeaders codec streamId stream payload).2.decoding =
        c.decoding.begin.extend codec payload.headerBlockFragment
          payload.endHeaders := by
  unfold handleClosedStreamHeaders
  dsimp only
  split
  · exact .inl (fail_state _ _ _)
  · exact beginHeaderBlock_decoding_after
      (failStream_readSide (c.setStream streamId _) streamId _ _) _ _ _ _ _
  · exact beginHeaderBlock_decoding codec _ _ _ _ _ _

theorem parseHttp2HeadersPayload_ok {frame : Http2Frame} {payload : Http2HeadersPayload}
    (h : parseHttp2HeadersPayload frame = .ok payload) :
    payload.headerBlockFragment = frame.payload ∧ payload.endHeaders =
        hasFlag frame.header.flags kHttp2FlagEndHeaders := by
  unfold parseHttp2HeadersPayload at h
  split at h
  · cases h
  injection h with h
  subst h
  exact ⟨rfl, rfl⟩

theorem parseHttp2ContinuationPayload_ok {frame : Http2Frame} {payload : Http2ContinuationPayload}
    (h : parseHttp2ContinuationPayload frame = .ok payload) :
    payload.headerBlockFragment = frame.payload ∧ payload.endHeaders =
        hasFlag frame.header.flags kHttp2FlagEndHeaders := by
  unfold parseHttp2ContinuationPayload at h
  split at h
  · cases h
  injection h with h
  subst h
  exact ⟨rfl, rfl⟩

theorem handleHeadersFrame_decoding (frame : Http2Frame) :
    (c.handleHeadersFrame codec frame).2.state = .failed ∨
      (c.onHalfClosedStream frame ∧ (c.handleHeadersFrame codec frame).2.decoding = c.decoding) ∨
      (c.handleHeadersFrame codec frame).2.decoding = c.decoding.begin.extend codec frame.payload
          (hasFlag frame.header.flags kHttp2FlagEndHeaders) := by
  unfold handleHeadersFrame
  dsimp only
  split
  · exact .inl (fail_state c _ _)
  rename_i payload hparsed
  obtain ⟨hfragment, hend⟩ := parseHttp2HeadersPayload_ok hparsed
  rw [← hfragment, ← hend]
  split
  · exact .inl (fail_state c _ _)
  split
  · exact (handleNewStreamHeaders_decoding codec c _ payload).imp_right .inr
  rename_i stream hstream
  split
  · exact (handleClosedStreamHeaders_decoding codec c _ stream payload).imp_right .inr
  split
  · next hhalf =>
    refine .inr (.inl ⟨?_, congrArg Prod.fst (failStream_readSide c _ _ _)⟩)
    simp [onHalfClosedStream, hstream, hhalf]
  split
  · exact (beginHeaderBlock_decoding_after (failStream_readSide c _ _ _) _ _ _ _ _).imp_right .inr
  · exact (beginHeaderBlock_decoding codec c _ _ _ _ _).imp_right .inr

theorem handleContinuationFrame_decoding (frame : Http2Frame) :
    (c.handleContinuationFrame codec frame).2.state = .failed ∨
      (c.isAssemblingHeaderBlock ∧ (c.handleContinuationFrame codec frame).2.decoding =
          c.decoding.extend codec frame.payload
            (hasFlag frame.header.flags kHttp2FlagEndHeaders)) := by
  unfold handleContinuationFrame
  split
  · exact .inl (fail_state c _ _)
  rename_i hassembling
  split
  · exact .inl (fail_state c _ _)
  rename_i payload hparsed
  obtain ⟨hfragment, hend⟩ := parseHttp2ContinuationPayload_ok hparsed
  rw [← hfragment, ← hend]
  exact (extendHeaderBlock_decoding codec c _ _ rfl).imp_right
    fun h => ⟨by simpa using hassembling, h⟩

/-! ## Every frame -/

/-- The branch that throws a complete block away. -/
def dropsHeaderBlock (c : Http2Connection D E H) (frame : Http2Frame) :
    Bool :=
  c.feedsFrames && !c.isAssemblingHeaderBlock && frame.header.type = .headers &&
    hasFlag frame.header.flags kHttp2FlagEndHeaders &&
    c.onHalfClosedStream frame

section InStep

variable {codec c} {decoder : D} {blocks : ReceivedBlocks}

theorem handleHeadersFrame_inStep {frame : Http2Frame} (h : c.decoding.InStep codec decoder blocks)
    (htype : frame.header.type = .headers) (hidle : c.isAssemblingHeaderBlock = false)
    (hkept : hasFlag frame.header.flags kHttp2FlagEndHeaders → c.onHalfClosedStream frame = false) :
    (c.handleHeadersFrame codec frame).2.state = .failed ∨
      (c.handleHeadersFrame codec frame).2.decoding.InStep codec decoder (blocks.add frame) := by
  rcases handleHeadersFrame_decoding codec c frame with
    hfailed | ⟨hhalf, hsame⟩ | hdecoded
  · exact .inl hfailed
  · -- an unfinished block is forgotten, its CONTINUATION would fail
    cases hend : hasFlag frame.header.flags kHttp2FlagEndHeaders with
    | true => rw [hkept hend] at hhalf; cases hhalf
    | false =>
      rw [hsame]
      refine .inr ⟨?_, ?_, fun hassembling => ?_⟩
      · simpa [ReceivedBlocks.add, htype, hend, ReceivedBlocks.extend] using h.decoded
      · simpa [ReceivedBlocks.add, htype, hend, ReceivedBlocks.extend] using h.table
      · have hassembling : c.isAssemblingHeaderBlock := hassembling
        rw [hidle] at hassembling
        cases hassembling
  · rw [hdecoded, ReceivedBlocks.add, htype]
    exact .inr (h.begin.extend rfl _ _)

theorem handleContinuationFrame_inStep {frame : Http2Frame}
    (h : c.decoding.InStep codec decoder blocks) (htype : frame.header.type = .continuation) :
    (c.handleContinuationFrame codec frame).2.state = .failed ∨
      (c.handleContinuationFrame codec frame).2.decoding.InStep codec
        decoder (blocks.add frame) := by
  rcases handleContinuationFrame_decoding codec c frame with
    hfailed | ⟨hassembling, hdecoded⟩
  · exact .inl hfailed
  · rw [hdecoded, ReceivedBlocks.add, htype]
    exact .inr (h.extend hassembling _ _)

theorem dispatchFrame_inStep {now : Nat} {frame : Http2Frame}
    (h : c.decoding.InStep codec decoder blocks) (hidle : c.isAssemblingHeaderBlock = false)
    (hkept : frame.header.type = .headers → hasFlag frame.header.flags kHttp2FlagEndHeaders →
      c.onHalfClosedStream frame = false) :
    (c.dispatchFrame codec now frame).2.state = .failed ∨
      (c.dispatchFrame codec now frame).2.decoding.InStep codec decoder (blocks.add frame) := by
  by_cases hheaders : frame.header.type = .headers
  · rw [dispatchFrame, hheaders]
    exact handleHeadersFrame_inStep h hheaders hidle (hkept hheaders)
  by_cases hcontinuation : frame.header.type = .continuation
  · rw [dispatchFrame, hcontinuation]
    exact handleContinuationFrame_inStep h hcontinuation
  have hadd : blocks.add frame = blocks := by
    unfold ReceivedBlocks.add
    split
    · next htype => exact absurd htype hheaders
    · next htype => exact absurd htype hcontinuation
    · rfl
  have hkept' : DecodingKept c (c.dispatchFrame codec now frame).2 := by
    unfold dispatchFrame
    split
    · exact DecodingKept.data.handleDataFrame c frame
    · next h => exact absurd h hheaders
    · exact DecodingKept.data.handlePriorityFrame c frame
    · exact DecodingKept.data.handleRstStreamFrame c now frame
    · exact (UnlessFailed.grants Prod.fst).handleSettingsFrame codec c now frame
    · exact DecodingKept.data.fail c _ _
    · exact DecodingKept.data.handlePingFrame c now frame
    · exact DecodingKept.data.handleGoAwayFrame c frame
    · exact (UnlessFailed.grants Prod.fst).handleWindowUpdateFrame c frame
    · next h => exact absurd h hcontinuation
    · exact DecodingKept.data.refl c
  rcases hkept'.kept with hfailed | hsame
  · exact .inl hfailed
  rw [hadd, show (c.dispatchFrame codec now frame).2.decoding = c.decoding from hsame]
  exact .inr h

theorem handleFrame_inStep {now : Nat} {frame : Http2Frame}
    (h : c.decoding.InStep codec decoder blocks)
    (hkept : c.isAssemblingHeaderBlock = false → frame.header.type = .headers →
      hasFlag frame.header.flags kHttp2FlagEndHeaders →
      c.onHalfClosedStream frame = false) :
    (c.handleFrame codec now frame).2.state = .failed ∨
      (c.handleFrame codec now frame).2.decoding.InStep codec decoder (blocks.add frame) := by
  unfold handleFrame
  split
  · split
    · exact .inl (fail_state c _ _)
    rename_i hframe
    refine handleContinuationFrame_inStep h ?_
    by_contra hother
    exact hframe (.inl hother)
  · next hidle =>
    have hidle : c.isAssemblingHeaderBlock = false := by simpa using hidle
    split
    · exact .inl (fail_state c _ _)
    · exact dispatchFrame_inStep h hidle (hkept hidle)

end InStep

end Http2Connection

open Http2Connection

/-! ## Whole runs -/

namespace Http2History

open Http2Connection

variable {D E H : Type}

/-- Every complete block received was decoded once, in order, unless the
connection failed. -/
def HeaderBlocksInStep (codec : Http2Codec D E H) (decoder : D) (h : Http2History D E H) : Prop :=
  h.connection.state = .failed ∨
    h.connection.decoding.InStep codec decoder (receivedBlocks h.received)

/-- The event is not a HEADERS frame whose block is thrown away. -/
def decodesItsBlock (h : Http2History D E H) (e : Http2Event) : Bool :=
  match e with
  | .frame _ frame => !h.connection.dropsHeaderBlock frame
  | _ => true

variable {h : Http2History D E H}

theorem HeaderBlocksInStep.of_kept {codec : Http2Codec D E H} {decoder : D}
    {h' : Http2History D E H} (hinv : h.HeaderBlocksInStep codec decoder)
    (hreceived : h'.received = h.received) (hkept : h.connection.DecodingKept h'.connection) :
    h'.HeaderBlocksInStep codec decoder := by
  rcases hinv with hfailed | hinv
  · exact .inl (hkept.failed hfailed)
  rcases hkept.kept with hfailed | hsame
  · exact .inl hfailed
  rw [HeaderBlocksInStep, hreceived,
    show h'.connection.decoding = h.connection.decoding from hsame]
  exact .inr hinv

theorem HeaderBlocksInStep.frame {codec : Http2Codec D E H} {decoder : D}
    (hinv : h.HeaderBlocksInStep codec decoder) {now : Nat} {frame : Http2Frame}
    (hkept : h.connection.dropsHeaderBlock frame = false) :
    (h.step codec (.frame now frame)).HeaderBlocksInStep codec decoder := by
  rcases hinv with hfailed | hinv
  · exact .inl (apply_of_failed hfailed _)
  by_cases hfeeds : h.connection.feedsFrames
  · have hframe := @handleFrame_inStep D E H codec
      h.connection decoder (receivedBlocks h.received) now frame hinv
      fun hidle hheaders hend => by
        simpa [dropsHeaderBlock, hfeeds, hidle, hheaders, hend] using hkept
    have hreceived : (h.step codec (.frame now frame)).received = h.received ++ [frame] := by
      simp [step, note, hfeeds]
    have hconnection : (h.step codec (.frame now frame)).connection =
        (h.connection.handleFrame codec now frame).2 := by
      simp [step, apply, feedFrame, hfeeds]
    rw [HeaderBlocksInStep, hconnection, hreceived, receivedBlocks, List.foldl_append]
    exact hframe
  · refine HeaderBlocksInStep.of_kept (.inr hinv) ?_ ?_
    · simp [step, note, hfeeds]
    simp only [step_connection, apply, feedFrame, if_neg hfeeds]
    exact DecodingKept.data.refl _

theorem HeaderBlocksInStep.step {codec : Http2Codec D E H} {decoder : D}
    (hinv : h.HeaderBlocksInStep codec decoder) {e : Http2Event} (he : h.decodesItsBlock e) :
    (h.step codec e).HeaderBlocksInStep codec decoder := by
  have w : AdmitsData (@DecodingKept D E H) := DecodingKept.data
  cases e with
  | preface bytes => exact hinv.of_kept rfl (w.preface _ bytes)
  | frame now frame =>
    exact hinv.frame (by simpa [decodesItsBlock] using he)
  | frameDecodeFailure kind message =>
    exact hinv.of_kept rfl (w.feedDecodeFailure _ kind message)
  | creditReceivedData streamId byteCount =>
    exact hinv.of_kept rfl (w.creditReceivedData _ streamId byteCount)
  | sendGoAway reason => exact hinv.of_kept rfl (w.announce _ reason)
  | abortStream streamId reason errorCode =>
    exact hinv.of_kept rfl (w.abortStream _ streamId reason errorCode)
  | failConnection errorCode reason =>
    exact hinv.of_kept rfl (w.failConnection _ errorCode reason)
  | sendResponseHeaders streamId statusCode headerFields endStream =>
    exact hinv.of_kept rfl ((UnlessFailed.calls Prod.fst
      codec).sendResponseHeaders _ streamId statusCode headerFields endStream)
  | sendResponseTrailers streamId trailerFields =>
    exact hinv.of_kept rfl ((UnlessFailed.calls Prod.fst
      codec).sendResponseTrailers _ streamId trailerFields)
  | sendResponseData streamId data endStream =>
    exact hinv.of_kept rfl (UnlessFailed.sendResponseData Prod.fst _ streamId data endStream)
  | takeOutgoingBytes => exact hinv.of_kept rfl (.of_same rfl rfl)
  | takeRequests => exact hinv.of_kept rfl (.of_same rfl rfl)
  | takeReceivedData => exact hinv.of_kept rfl (.of_same rfl rfl)

end Http2History

/-- A block with the field `a: b`. -/
def exampleBlock : Bytes := [0x40, 1, 97, 1, 98]

/-- A request that ends its stream. -/
def exampleRequest (streamId : Nat) : Http2Event :=
  .frame 0 ⟨⟨exampleBlock.length, .headers, 5, streamId⟩, exampleBlock, false, {}⟩

end AsynGyanis.Http2
