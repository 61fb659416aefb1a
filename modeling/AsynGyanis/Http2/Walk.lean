import AsynGyanis.Http2.StreamLedger

/-!
# Walks through the handlers

Most invariants of a connection look at a few of its fields, and most
handlers touch none of them, or touch them in one of a few ways: a control
frame goes out, a record changes on its receiving side, a stream is
terminated, the connection fails. A relation between two states of a
connection that composes and admits these small steps (`Admits`) admits
every handler made of them. The handlers are walked through here, once for
all such relations.

DATA frames need a little more (`AdmitsData`), and so do header blocks
(`AdmitsBlocks`), the peer's grants (`AdmitsGrants`), the pump of a queue
(`AdmitsPump`) and the calls that send header blocks (`AdmitsCalls`). An
invariant says which of these steps it survives and cites the handler.

The last sections do so for the two halves of a connection: unless it
fails, the steps of `Admits` leave both views of the receiving side alone,
and they are `SendAlike`.
-/

namespace AsynGyanis.Http2

open Library

/-- A change of a record on its receiving side. -/
structure StreamRecord.Receives (old new : StreamRecord) : Prop where
  queue : new.sendQueue = old.sendQueue
  pending : new.isEndStreamPending = old.isEndStreamPending
  window : new.sendWindowByteCount = old.sendWindowByteCount
  state : new.state = old.state ∨ old.state = .open ∧ new.state = .halfClosedRemote

namespace Http2Connection

variable {D E H : Type}

/-! ## The small steps -/

/-- The assembly `beginHeaderBlock` starts from. -/
def beginAssembly (c : Http2Connection D E H) (streamId : Nat)
    (purpose : HeaderBlockPurpose) (endStream : Bool) :
    Http2Connection D E H :=
  { c with
    isAssemblingHeaderBlock := true
    pendingHeaderStreamId := streamId
    pendingHeaderPurpose := purpose
    pendingHeaderEndStream := endStream
    pendingHeaderBlock := [] }

/-- The relation composes and holds of the small steps of the handlers.
`aside` is a change of fields that neither the ledger nor the two views of
the receiving side show. -/
structure Admits (R : Http2Connection D E H → Http2Connection D E H → Prop) :
    Prop where
  refl : ∀ c, R c c
  trans : ∀ {a b c}, R a b → R b c → R a c
  aside : ∀ {c c' : Http2Connection D E H},
    (∀ past, c'.ledger past = c.ledger past) → c'.decoding = c.decoding →
    c'.crediting = c.crediting → R c c'
  emit : ∀ (c : Http2Connection D E H) {f : OutgoingFrame},
    f.isPlain = true → (∀ streamId, f.isMessageOn streamId = false) →
    R c (c.appendOutgoing [f])
  fail : ∀ (c : Http2Connection D E H) errorCode reason, R c (c.fail errorCode reason)
  enter : ∀ {c : Http2Connection D E H} {state}, c.state.Enters state →
    R c { c with state := state }
  announce : ∀ (c : Http2Connection D E H) reason, R c (c.sendGoAway reason).connection
  receive : ∀ {c : Http2Connection D E H} {streamId old new},
    c.streams.find? streamId = some old → StreamRecord.Receives old new →
    R c (c.setStream streamId new)
  terminate : ∀ (c : Http2Connection D E H) streamId termination,
    R c (c.terminateStream streamId termination)

structure AdmitsData
    (R : Http2Connection D E H → Http2Connection D E H → Prop) : Prop
    extends Admits R where
  book : ∀ (c : Http2Connection D E H) (window : Int) (pending : Nat)
    (data : List Http2ReceivedData), R c { c with
      connectionReceiveWindowByteCount := window
      pendingConnectionReceiveCreditByteCount := pending
      pendingReceivedData := data }

structure AdmitsBlocks (codec : Http2Codec D E H)
    (R : Http2Connection D E H → Http2Connection D E H → Prop) : Prop
    extends Admits R where
  assemble : ∀ (c : Http2Connection D E H) streamId {purpose} endStream,
    purpose ≠ .request → R c (c.beginAssembly streamId purpose endStream)
  fragment : ∀ (c : Http2Connection D E H) (block : Bytes),
    R c { c with pendingHeaderBlock := block }
  decode : ∀ c : Http2Connection D E H, R c (c.decodePendingHeaderBlock codec)
  request : ∀ {c : Http2Connection D E H}, c.isAssemblingHeaderBlock = true →
    c.pendingHeaderPurpose = .request → ∀ request : Http2Request H,
    request.streamId = c.pendingHeaderStreamId →
    R c { c.decodePendingHeaderBlock codec with
      pendingRequests := (c.decodePendingHeaderBlock codec).pendingRequests ++ [request] }
  trailers : ∀ (c : Http2Connection D E H) (data : Http2ReceivedData),
    data.flowControlByteCount = 0 →
    R c { c with pendingReceivedData := c.pendingReceivedData ++ [data] }

/-- The rounds of the pump of a stream. The last DATA frame of a queue and
the end of the stream are one step. -/
structure AdmitsPump (streamId : Nat)
    (R : Http2Connection D E H → Http2Connection D E H → Prop) : Prop where
  refl : ∀ c, R c c
  trans : ∀ {a b c}, R a b → R b c → R a c
  segment : ∀ {c : Http2Connection D E H} {stream}, c.streams.find? streamId = some stream →
    stream.sendQueue.remaining ≠ [] → stream.sendWindowByteCount > 0 →
    c.connectionSendWindowByteCount > 0 →
    c.isEndStreamSegment stream = false → R c (c.sendSegment streamId stream)
  last : ∀ {c : Http2Connection D E H} {stream}, c.streams.find? streamId = some stream →
    stream.sendQueue.remaining ≠ [] → stream.sendWindowByteCount > 0 →
    c.connectionSendWindowByteCount > 0 →
    c.isEndStreamSegment stream = true →
    R c ((c.sendSegment streamId stream).noteLocalEndStream streamId)
  ending : ∀ {c : Http2Connection D E H} {stream},
    c.streams.find? streamId = some stream →
    stream.sendQueue.remaining = [] → stream.isEndStreamPending = true →
    stream.state ≠ .closed →
    R c (((c.setStream streamId { stream with
      isEndStreamPending := false }).appendOutgoing
        [.data streamId [] true]).noteLocalEndStream streamId)

structure AdmitsGrants
    (R : Http2Connection D E H → Http2Connection D E H → Prop) : Prop
    extends Admits R where
  pump : ∀ streamId, AdmitsPump streamId R
  window : ∀ (c : Http2Connection D E H) (window : Int),
    R c { c with connectionSendWindowByteCount := window }
  shift : ∀ {c : Http2Connection D E H} {streamId stream},
    c.streams.find? streamId = some stream → ∀ window : Int,
    R c (c.setStream streamId { stream with sendWindowByteCount := window })
  setting : ∀ (c : Http2Connection D E H) (settings : SortedMap Nat Nat),
    R c { c with peerSettings := settings }

structure AdmitsCalls (codec : Http2Codec D E H)
    (R : Http2Connection D E H → Http2Connection D E H → Prop) : Prop
    extends Admits R where
  block : ∀ (c : Http2Connection D E H) streamId fields endStream,
    R c (c.encodeAndEmit codec streamId fields endStream)
  localEnd : ∀ (c : Http2Connection D E H) streamId, R c (c.noteLocalEndStream streamId)

variable {stream : StreamRecord}

theorem find?_of_findActiveStream {c : Http2Connection D E H} {streamId : Nat}
    (h : c.findActiveStream streamId = some stream) :
    c.streams.find? streamId = some stream ∧ stream.state ≠ .closed := by
  unfold findActiveStream at h
  split at h
  · cases h
  rename_i found hfound
  split at h
  · cases h
  rename_i hopen
  injection h with h
  subst h
  exact ⟨hfound, hopen⟩

theorem judgeFrame_receives (stream : StreamRecord) (frameType : Http2FrameType) :
    stream.Receives (judgeFrameOnTerminatedStream stream frameType).2 := by
  unfold judgeFrameOnTerminatedStream
  repeat' split
  all_goals exact ⟨rfl, rfl, rfl, .inl rfl⟩

namespace Admits

variable {R R' : Http2Connection D E H → Http2Connection D E H → Prop}

theorem map (w : Admits R) (hrefl : ∀ c, R' c c) (htrans : ∀ {a b c}, R' a b → R' b c → R' a c)
    (h : ∀ {c c'}, R c c' → R' c c') : Admits R' where
  refl := hrefl
  trans := htrans
  aside := fun hledger hdecoding hcrediting =>
    h (w.aside hledger hdecoding hcrediting)
  emit := fun c _ hplain hcontrol => h (w.emit c hplain hcontrol)
  fail := fun c errorCode reason => h (w.fail c errorCode reason)
  enter := fun henters => h (w.enter henters)
  announce := fun c reason => h (w.announce c reason)
  receive := fun hstream hreceives => h (w.receive hstream hreceives)
  terminate := fun c streamId termination =>
    h (w.terminate c streamId termination)

/-! ## Streams and control frames -/

theorem failStream (w : Admits R) (c : Http2Connection D E H)
    (streamId : Nat) (errorCode : Http2ErrorCode) (reason : String) :
    R c (c.failStream streamId errorCode reason) :=
  w.trans (w.trans (w.emit c rfl fun _ => rfl)
    (w.terminate _ streamId .resetByLocal)) (w.aside (fun _ => rfl) rfl rfl)

theorem noteRemoteEndStream (w : Admits R) (c : Http2Connection D E H)
    (streamId : Nat) : R c (c.noteRemoteEndStream streamId) := by
  unfold Http2Connection.noteRemoteEndStream
  split
  · exact w.refl c
  rename_i stream hstream
  split
  · next hopen =>
    exact w.receive hstream ⟨rfl, rfl, rfl, .inr ⟨hopen, rfl⟩⟩
  · exact w.terminate c streamId .completed
  · exact w.refl c

theorem creditStreamReceiveWindow (w : Admits R)
    (c : Http2Connection D E H) (streamId byteCount : Nat) :
    R c (c.creditStreamReceiveWindow streamId byteCount) := by
  unfold Http2Connection.creditStreamReceiveWindow
  split
  · exact w.refl c
  rename_i stream hactive
  have hstream := (find?_of_findActiveStream hactive).1
  dsimp only
  split
  · exact w.receive hstream ⟨rfl, rfl, rfl, .inl rfl⟩
  · refine w.trans ?_ (w.emit _ rfl fun _ => rfl)
    exact w.receive hstream ⟨rfl, rfl, rfl, .inl rfl⟩

theorem consumeControlFrameBudget (w : Admits R)
    (c : Http2Connection D E H) (now : Nat) (frameKindName : String) :
    R c (c.consumeControlFrameBudget now frameKindName).2 := by
  have hrefill : R c (c.refillControlFrameBucket now) :=
    w.aside (fun _ => by simp only [ledger, refillControlFrameBucket])
      (by simp only [decoding, refillControlFrameBucket])
      (by simp only [crediting, refillControlFrameBucket])
  unfold Http2Connection.consumeControlFrameBudget
  dsimp only
  split
  · exact w.trans hrefill (w.fail _ _ _)
  · exact w.trans hrefill (w.aside (fun _ => by simp only [ledger])
      (by simp only [decoding]) (by simp only [crediting]))

theorem after_budget (w : Admits R) {c : Http2Connection D E H} {now : Nat} {frameKindName : String}
    {result : Bool × Http2Connection D E H}
    (h : R (c.consumeControlFrameBudget now frameKindName).2 result.2) :
    R c (if !(c.consumeControlFrameBudget now frameKindName).1 then
      c.consumeControlFrameBudget now frameKindName else result).2 := by
  have hbudget := w.consumeControlFrameBudget c now frameKindName
  split
  · exact hbudget
  · exact w.trans hbudget h

theorem handlePriorityFrame (w : Admits R) (c : Http2Connection D E H)
    (frame : Http2Frame) : R c (c.handlePriorityFrame frame).2 := by
  unfold Http2Connection.handlePriorityFrame
  split
  · exact w.fail c _ _
  · exact w.refl c

theorem handleRstStreamFrame (w : Admits R) (c : Http2Connection D E H)
    (now : Nat) (frame : Http2Frame) : R c (c.handleRstStreamFrame now frame).2 := by
  simp only [Http2Connection.handleRstStreamFrame]
  refine w.after_budget ?_
  generalize (c.consumeControlFrameBudget now "RST_STREAM").2 = c
  split
  · exact w.fail c _ _
  split
  · exact w.fail c _ _
  split
  · split
    · exact w.refl c
    · exact w.fail c _ _
  · exact w.terminate c _ _

theorem handlePingFrame (w : Admits R) (c : Http2Connection D E H)
    (now : Nat) (frame : Http2Frame) : R c (c.handlePingFrame now frame).2 := by
  simp only [Http2Connection.handlePingFrame]
  refine w.after_budget ?_
  generalize (c.consumeControlFrameBudget now "PING").2 = c
  split
  · exact w.fail c _ _
  split
  · exact w.refl c
  · exact w.emit c rfl fun _ => rfl

theorem handleGoAwayFrame (w : Admits R) (c : Http2Connection D E H)
    (frame : Http2Frame) : R c (c.handleGoAwayFrame frame).2 := by
  unfold Http2Connection.handleGoAwayFrame
  split
  · exact w.fail c _ _
  rename_i payload _
  have hnoted : R c { c with peerGoAway := some payload } := w.aside (fun _ => rfl) rfl rfl
  split
  · next hopen =>
    exact w.trans hnoted (w.enter (hopen ▸ .peerGoAway))
  · exact hnoted

/-! ## The preface and the calls -/

theorem feedPrefaceByte (w : Admits R) (c : Http2Connection D E H)
    (actual : UInt8) : R c (c.feedPrefaceByte actual) := by
  unfold Http2Connection.feedPrefaceByte
  split
  · exact w.refl c
  rename_i hawaiting
  have hawaiting : c.state = .awaitingPreface := by simpa using hawaiting
  split
  · exact w.refl c
  split
  · exact w.fail c _ _
  dsimp only
  split
  · have hnoted : R c { c with
        prefaceByteCount := c.prefaceByteCount + 1
        outstandingSettingsCount := 1 } :=
      w.aside (fun _ => rfl) rfl rfl
    exact w.trans (w.trans hnoted (w.enter (hawaiting ▸ .preface))) (w.emit _ rfl fun _ => rfl)
  · exact w.aside (fun _ => rfl) rfl rfl

theorem preface (w : Admits R) (c : Http2Connection D E H) (bytes : Bytes) :
    R c (bytes.foldl Http2Connection.feedPrefaceByte c) :=
  foldl_invariant (P := R c) (fun c' byte hc => w.trans hc (w.feedPrefaceByte c' byte)) bytes c
    (w.refl c)

theorem feedDecodeFailure (w : Admits R) (c : Http2Connection D E H)
    (kind : Http2FrameErrorKind) (message : String) :
    R c (c.feedDecodeFailure kind message) := by
  unfold Http2Connection.feedDecodeFailure
  split
  · exact w.fail c _ _
  · exact w.refl c

theorem abortStream (w : Admits R) (c : Http2Connection D E H)
    (streamId : Nat) (reason : String) (errorCode : Http2ErrorCode) :
    R c (c.abortStream streamId reason errorCode).connection := by
  unfold Http2Connection.abortStream
  split
  · exact w.refl c
  split
  · exact w.refl c
  · exact w.failStream c _ _ _

theorem failConnection (w : Admits R) (c : Http2Connection D E H)
    (errorCode : Http2ErrorCode) (reason : String) :
    R c (c.failConnection errorCode reason).connection := by
  unfold Http2Connection.failConnection
  split
  · exact w.refl c
  split
  · exact w.refl c
  · exact w.fail c _ _

end Admits

/-! ## DATA frames of the peer -/

namespace AdmitsData

variable {R : Http2Connection D E H → Http2Connection D E H → Prop}

theorem creditConnectionReceiveWindow (w : AdmitsData R)
    (c : Http2Connection D E H) (byteCount : Nat) :
    R c (c.creditConnectionReceiveWindow byteCount) := by
  unfold Http2Connection.creditConnectionReceiveWindow
  dsimp only
  split
  · exact w.book c c.connectionReceiveWindowByteCount _ c.pendingReceivedData
  · exact w.trans (w.book c _ 0 c.pendingReceivedData) (w.emit _ rfl fun _ => rfl)

theorem handleDataOnClosedStream (w : AdmitsData R)
    {c : Http2Connection D E H} {streamId : Nat} (frameByteCount : Nat)
    (hstream : c.streams.find? streamId = some stream) :
    R c (c.handleDataOnClosedStream streamId stream frameByteCount).2 := by
  have hjudged := w.receive hstream (judgeFrame_receives stream .data)
  unfold Http2Connection.handleDataOnClosedStream
  dsimp only
  split
  · exact w.trans hjudged (w.creditConnectionReceiveWindow _ _)
  · exact w.trans (w.trans hjudged (w.creditConnectionReceiveWindow _ _)) (w.failStream _ _ _ _)
  · exact w.trans hjudged (w.fail _ _ _)

theorem handleDataOnLiveStream (w : AdmitsData R) {c : Http2Connection D E H} {streamId : Nat}
    (payload : Http2DataPayload) (frameByteCount : Nat)
    (hstream : c.streams.find? streamId = some stream) :
    R c (c.handleDataOnLiveStream streamId stream payload frameByteCount).2 := by
  have hcharged : R c (c.setStream streamId { stream with
      receiveWindowByteCount := stream.receiveWindowByteCount - frameByteCount }) :=
    w.receive hstream ⟨rfl, rfl, rfl, .inl rfl⟩
  unfold Http2Connection.handleDataOnLiveStream
  dsimp only
  split
  · exact w.trans hcharged (w.fail _ _ _)
  split
  · exact w.trans hcharged (w.failStream _ _ _ _)
  refine w.trans hcharged ?_
  generalize c.setStream _ _ = c
  have hpushed := w.book c c.connectionReceiveWindowByteCount
    c.pendingConnectionReceiveCreditByteCount
  unfold deliverData
  split
  · exact w.trans (hpushed _) (w.noteRemoteEndStream _ _)
  · exact hpushed _

theorem handleDataFrame (w : AdmitsData R) (c : Http2Connection D E H)
    (frame : Http2Frame) : R c (c.handleDataFrame frame).2 := by
  have hcharged := w.book c (c.connectionReceiveWindowByteCount -
    frame.header.payloadLength) c.pendingConnectionReceiveCreditByteCount
    c.pendingReceivedData
  unfold Http2Connection.handleDataFrame
  dsimp only
  split
  · exact w.fail c _ _
  split
  · exact w.fail c _ _
  split
  · exact w.trans hcharged (w.fail _ _ _)
  split
  · split
    · exact w.trans hcharged (w.creditConnectionReceiveWindow _ _)
    · exact w.trans hcharged (w.fail _ _ _)
  rename_i stream hstream
  split
  · exact w.trans hcharged (w.handleDataOnClosedStream _ hstream)
  · exact w.trans hcharged (w.handleDataOnLiveStream _ _ hstream)

theorem creditReceivedData (w : AdmitsData R) (c : Http2Connection D E H)
    (streamId byteCount : Nat) : R c (c.creditReceivedData streamId byteCount).connection := by
  unfold Http2Connection.creditReceivedData
  split
  · exact w.refl c
  split
  · exact w.refl c
  split
  · exact w.refl c
  · exact w.trans (w.creditConnectionReceiveWindow c _) (w.creditStreamReceiveWindow _ _ _)

end AdmitsData

/-! ## Header blocks -/

theorem appendHeaderBlockFragment_assembling {c : Http2Connection D E H} {fragment : Bytes}
    (h : (c.appendHeaderBlockFragment fragment).1) :
    (c.appendHeaderBlockFragment fragment).2.isAssemblingHeaderBlock =
      c.isAssemblingHeaderBlock := by
  unfold appendHeaderBlockFragment at h ⊢
  split at h
  · cases h
  · next hroom => rw [if_neg hroom]

namespace AdmitsBlocks

variable {codec : Http2Codec D E H}
  {R : Http2Connection D E H → Http2Connection D E H → Prop}

theorem deliverTrailers (w : AdmitsBlocks codec R)
    (c : Http2Connection D E H) (streamId : Nat) (endStream : Bool)
    (headerFields : List HpackHeaderField) :
    R c (c.deliverTrailers codec streamId endStream headerFields) := by
  unfold Http2Connection.deliverTrailers
  split
  · exact w.failStream c _ _ _
  split
  · exact w.trans (w.noteRemoteEndStream c streamId) (w.trailers _ _ rfl)
  · exact w.refl c

theorem deliverHeaderFields (w : AdmitsBlocks codec R)
    {c : Http2Connection D E H} (hassembling : c.isAssemblingHeaderBlock)
    (endStream : Bool) (headerFields : List HpackHeaderField) :
    R c ((c.decodePendingHeaderBlock codec).deliverHeaderFields codec
      c.pendingHeaderStreamId c.pendingHeaderPurpose endStream
      headerFields) := by
  have hdecoded := w.decode c
  unfold Http2Connection.deliverHeaderFields
  split
  · exact hdecoded
  rename_i hdiscard
  split
  · exact hdecoded
  split
  · exact w.trans hdecoded (w.deliverTrailers _ _ _ _)
  rename_i htrailers
  have hpurpose : c.pendingHeaderPurpose = .request := by
    cases hcase : c.pendingHeaderPurpose with
    | request => rfl
    | trailers => exact absurd hcase htrailers
    | discard => exact absurd hcase hdiscard
  unfold deliverRequest
  split
  · refine w.trans hdecoded (w.trans ?_ (w.failStream _ _ _ _))
    exact w.aside (fun _ => rfl) rfl rfl
  split
  · exact w.trans (w.request hassembling hpurpose _ rfl) (w.noteRemoteEndStream _ _)
  · exact w.request hassembling hpurpose _ rfl

theorem finishOversizedBlock (w : AdmitsBlocks codec R)
    {c : Http2Connection D E H} (hassembling : c.isAssemblingHeaderBlock)
    (endStream : Bool) (errorMessage : String) :
    R c ((c.decodePendingHeaderBlock codec).finishOversizedBlock codec
      c.pendingHeaderStreamId c.pendingHeaderPurpose endStream
      errorMessage) := by
  have hdecoded := w.decode c
  unfold Http2Connection.finishOversizedBlock
  split
  · exact hdecoded
  · split
    · exact hdecoded
    · exact w.trans hdecoded (w.failStream _ _ _ _)
  rename_i hpurpose
  split
  · exact w.trans (w.request hassembling hpurpose _ rfl) (w.noteRemoteEndStream _ _)
  · exact w.request hassembling hpurpose _ rfl

theorem finishHeaderBlock (w : AdmitsBlocks codec R)
    {c : Http2Connection D E H} (hassembling : c.isAssemblingHeaderBlock) :
    R c (c.finishHeaderBlock codec).2 := by
  unfold Http2Connection.finishHeaderBlock
  split
  · exact w.trans (w.decode c) (w.fail _ _ _)
  · exact w.finishOversizedBlock hassembling _ _
  · exact w.deliverHeaderFields hassembling _ _

/-- A fragment is appended, or the connection fails; END_HEADERS ends the
block. -/
theorem extendHeaderBlock (w : AdmitsBlocks codec R)
    {c : Http2Connection D E H} (hassembling : c.isAssemblingHeaderBlock)
    (fragment : Bytes) (endHeaders : Bool) :
    R c (if !(c.appendHeaderBlockFragment fragment).1 then
        c.appendHeaderBlockFragment fragment
      else if endHeaders then
        (c.appendHeaderBlockFragment fragment).2.finishHeaderBlock codec
      else c.appendHeaderBlockFragment fragment).2 := by
  have happended : R c (c.appendHeaderBlockFragment fragment).2 := by
    unfold appendHeaderBlockFragment
    split
    · exact w.fail c _ _
    · exact w.fragment c _
  split
  · exact happended
  rename_i hroom
  split
  · refine w.trans happended (w.finishHeaderBlock ?_)
    rw [appendHeaderBlockFragment_assembling (by simpa using hroom)]
    exact hassembling
  · exact happended

theorem beginHeaderBlock_rest (w : AdmitsBlocks codec R)
    (c : Http2Connection D E H) (streamId : Nat)
    (purpose : HeaderBlockPurpose) (endStream : Bool)
    (firstFragment : Bytes) (endHeaders : Bool) :
    R (c.beginAssembly streamId purpose endStream)
      (c.beginHeaderBlock codec streamId purpose endStream firstFragment endHeaders).2 :=
  w.extendHeaderBlock (c := c.beginAssembly streamId purpose endStream) rfl firstFragment endHeaders

theorem beginHeaderBlock (w : AdmitsBlocks codec R) (c : Http2Connection D E H) (streamId : Nat)
    {purpose : HeaderBlockPurpose} (hother : purpose ≠ .request)
    (endStream : Bool) (firstFragment : Bytes) (endHeaders : Bool) :
    R c (c.beginHeaderBlock codec streamId purpose endStream firstFragment endHeaders).2 :=
  w.trans (w.assemble c streamId endStream hother)
    (w.beginHeaderBlock_rest c streamId purpose endStream firstFragment endHeaders)

theorem handleContinuationFrame (w : AdmitsBlocks codec R)
    (c : Http2Connection D E H) (frame : Http2Frame) :
    R c (c.handleContinuationFrame codec frame).2 := by
  unfold Http2Connection.handleContinuationFrame
  split
  · exact w.fail c _ _
  rename_i hassembling
  split
  · exact w.fail c _ _
  · exact w.extendHeaderBlock (by simpa using hassembling) _ _

theorem handleClosedStreamHeaders (w : AdmitsBlocks codec R)
    {c : Http2Connection D E H} {streamId : Nat} (payload : Http2HeadersPayload)
    (hstream : c.streams.find? streamId = some stream) :
    R c (c.handleClosedStreamHeaders codec streamId stream payload).2 := by
  have hjudged := w.receive hstream (judgeFrame_receives stream .headers)
  have hdiscard : HeaderBlockPurpose.discard ≠ .request := by decide
  unfold Http2Connection.handleClosedStreamHeaders
  dsimp only
  split
  · exact w.trans hjudged (w.fail _ _ _)
  · exact w.trans (w.trans hjudged (w.failStream _ _ _ _)) (w.beginHeaderBlock _ _ hdiscard _ _ _)
  · exact w.trans hjudged (w.beginHeaderBlock _ _ hdiscard _ _ _)

/-- HEADERS, where the relation admits what those on a new stream do. -/
theorem handleHeadersFrame (w : AdmitsBlocks codec R)
    (c : Http2Connection D E H) (frame : Http2Frame)
    (hnew : ∀ payload, c.streams.find? frame.header.streamId = none →
      R c (c.handleNewStreamHeaders codec frame.header.streamId payload).2) :
    R c (c.handleHeadersFrame codec frame).2 := by
  have hdiscard : HeaderBlockPurpose.discard ≠ .request := by decide
  have htrailers : HeaderBlockPurpose.trailers ≠ .request := by decide
  unfold Http2Connection.handleHeadersFrame
  dsimp only
  split
  · exact w.fail c _ _
  split
  · exact w.fail c _ _
  split
  · next hnone => exact hnew _ hnone
  rename_i stream hstream
  split
  · exact w.handleClosedStreamHeaders _ hstream
  split
  · exact w.failStream c _ _ _
  split
  · exact w.trans (w.failStream c _ _ _) (w.beginHeaderBlock _ _ hdiscard _ _ _)
  · exact w.beginHeaderBlock c _ htrailers _ _ _

end AdmitsBlocks

/-! ## The pump -/

namespace AdmitsPump

variable {R : Http2Connection D E H → Http2Connection D E H → Prop}
  {streamId : Nat}

theorem pumpSegments (w : AdmitsPump streamId R) (fuel : Nat) (c : Http2Connection D E H) :
    R c (Http2Connection.pumpSegments streamId fuel c).2 := by
  induction fuel generalizing c with
  | zero => exact w.refl c
  | succ fuel ih =>
    rw [Http2Connection.pumpSegments]
    split
    · exact w.refl c
    rename_i stream hstream
    split
    · next hready =>
      obtain ⟨hpending, hwindow, hconnection⟩ := hready
      have hqueued := (SendQueue.hasPendingData_iff _).mp hpending
      split
      · next hend =>
        exact w.last hstream hqueued hwindow hconnection hend
      rename_i hmore
      exact w.trans (w.segment hstream hqueued hwindow hconnection (by simpa using hmore)) (ih _)
    · exact w.refl c

theorem sendTrailingEndStream (w : AdmitsPump streamId R)
    (c : Http2Connection D E H) : R c (c.sendTrailingEndStream streamId) := by
  unfold Http2Connection.sendTrailingEndStream
  split
  · exact w.refl c
  rename_i stream hstream
  split
  · next hready =>
    simp only [Bool.and_eq_true, Bool.not_eq_true', decide_eq_true_eq, ne_eq] at hready
    obtain ⟨⟨⟨⟨hempty, hpending⟩, _⟩, _⟩, hopen⟩ := hready
    exact w.ending hstream (SendQueue.hasPendingData_eq_false.mp hempty) hpending hopen
  · exact w.refl c

theorem pumpSendQueue (w : AdmitsPump streamId R)
    (c : Http2Connection D E H) : R c (c.pumpSendQueue streamId) := by
  unfold Http2Connection.pumpSendQueue
  split
  · exact w.refl c
  rename_i stream _
  have hpumped := w.pumpSegments stream.sendQueue.remaining.length c
  dsimp only
  split
  · exact hpumped
  · exact w.trans hpumped (w.sendTrailingEndStream _)

theorem pumpIfQueued (w : AdmitsPump streamId R)
    (c : Http2Connection D E H) : R c (c.pumpIfQueued streamId) := by
  unfold Http2Connection.pumpIfQueued
  split
  · exact w.refl c
  split
  · exact w.pumpSendQueue c
  · exact w.refl c

theorem pumpAllSendQueues (w : ∀ streamId, AdmitsPump streamId R)
    (c : Http2Connection D E H) : R c c.pumpAllSendQueues :=
  foldl_invariant (P := R c) (fun c' streamId h => (w 0).trans h ((w streamId).pumpIfQueued c'))
    c.streams.keys c ((w 0).refl c)

end AdmitsPump

/-! ## The peer's grants -/

namespace AdmitsGrants

variable {R : Http2Connection D E H → Http2Connection D E H → Prop}

theorem shiftSendWindow (w : AdmitsGrants R) (value : Nat)
    (windowDelta : Int) (acc : Bool × Http2Connection D E H) (streamId : Nat) :
    R acc.2 (Http2Connection.shiftSendWindow value windowDelta acc streamId).2 := by
  unfold Http2Connection.shiftSendWindow
  split
  · exact w.refl acc.2
  split
  · exact w.refl acc.2
  rename_i stream hactive
  have hset := w.shift (find?_of_findActiveStream hactive).1
  dsimp only
  split
  · exact w.trans (hset _) (w.fail _ _ _)
  · exact hset _

theorem applyPeerSetting (w : AdmitsGrants R) (codec : Http2Codec D E H)
    (c : Http2Connection D E H) (setting : Http2Setting) :
    R c (c.applyPeerSetting codec setting).2 := by
  unfold Http2Connection.applyPeerSetting
  split
  · exact w.aside (fun _ => rfl) rfl rfl
  split
  · split
    · exact w.fail c _ _
    · exact w.refl c
  split
  · split
    · exact w.fail c _ _
    exact foldl_invariant (P := fun acc : Bool × Http2Connection D E H => R c acc.2)
      (fun acc streamId h =>
        w.trans h (w.shiftSendWindow _ _ acc streamId))
      c.streams.keys (true, c) (w.refl c)
  split
  · split
    · exact w.fail c _ _
    · exact w.refl c
  split
  · split
    · exact w.fail c _ _
    · exact w.refl c
  · exact w.refl c

theorem applyPeerSettings (w : AdmitsGrants R) (codec : Http2Codec D E H)
    (settings : List Http2Setting) (c : Http2Connection D E H) :
    R c (Http2Connection.applyPeerSettings codec settings c).2 := by
  induction settings generalizing c with
  | nil => exact w.refl c
  | cons setting rest ih =>
    have hone := w.applyPeerSetting codec c setting
    rw [Http2Connection.applyPeerSettings]
    split
    · exact hone
    · exact w.trans (w.trans hone (w.setting _ _)) (ih _)

theorem handleSettingsFrame (w : AdmitsGrants R) (codec : Http2Codec D E H)
    (c : Http2Connection D E H) (now : Nat) (frame : Http2Frame) :
    R c (c.handleSettingsFrame codec now frame).2 := by
  simp only [Http2Connection.handleSettingsFrame]
  refine w.after_budget ?_
  generalize (c.consumeControlFrameBudget now "SETTINGS").2 = c
  split
  · exact w.fail c _ _
  rename_i payload _
  split
  · split
    · exact w.fail c _ _
    · exact w.aside (fun _ => rfl) rfl rfl
  have happlied := w.applyPeerSettings codec payload.parameters c
  unfold handlePeerSettings
  dsimp only
  split
  · exact happlied
  have hacknowledged := w.trans happlied (w.emit
    (f := .settings { isAcknowledgement := true }) _ rfl fun _ => rfl)
  refine w.trans (w.trans hacknowledged ?_) (AdmitsPump.pumpAllSendQueues w.pump _)
  unfold leaveAwaitingSettings
  split
  · next hawaiting => exact w.enter (hawaiting ▸ .settings)
  · exact w.refl _

theorem handleWindowUpdateFrame (w : AdmitsGrants R)
    (c : Http2Connection D E H) (frame : Http2Frame) :
    R c (c.handleWindowUpdateFrame frame).2 := by
  unfold Http2Connection.handleWindowUpdateFrame
  split
  · exact w.fail c _ _
  dsimp only
  split
  · unfold increaseConnectionSendWindow
    split
    · exact w.fail c _ _
    · exact w.trans (w.window c _) (AdmitsPump.pumpAllSendQueues w.pump _)
  split
  · exact w.fail c _ _
  split
  · split
    · exact w.refl c
    · exact w.fail c _ _
  rename_i stream hstream
  split
  · exact w.refl c
  unfold increaseStreamSendWindow
  split
  · exact w.failStream c _ _ _
  · exact w.trans (w.shift hstream _) ((w.pump _).pumpSendQueue _)

end AdmitsGrants

/-! ## The calls that send header blocks -/

namespace AdmitsCalls

variable {codec : Http2Codec D E H}
  {R : Http2Connection D E H → Http2Connection D E H → Prop}

theorem sendResponseHeaders (w : AdmitsCalls codec R)
    (c : Http2Connection D E H) (streamId statusCode : Nat)
    (headerFields : List HpackHeaderField) (endStream : Bool) :
    R c (c.sendResponseHeaders codec streamId statusCode headerFields endStream).connection := by
  unfold Http2Connection.sendResponseHeaders
  split
  · exact w.refl c
  split
  · exact w.refl c
  split
  · exact w.refl c
  split
  · exact w.failStream c _ _ _
  split
  · exact w.failStream c _ _ _
  dsimp only
  split
  · exact w.failStream c _ _ _
  have hemitted := w.block c streamId (statusField statusCode :: headerFields) endStream
  split
  · exact w.trans hemitted (w.localEnd _ _)
  · exact hemitted

theorem sendResponseTrailers (w : AdmitsCalls codec R) (c : Http2Connection D E H) (streamId : Nat)
    (trailerFields : List HpackHeaderField) :
    R c (c.sendResponseTrailers codec streamId trailerFields).connection := by
  unfold Http2Connection.sendResponseTrailers
  split
  · exact w.refl c
  split
  · exact w.refl c
  split
  · exact w.refl c
  split
  · exact w.failStream c _ _ _
  split
  · exact w.failStream c _ _ _
  · exact w.trans (w.block c streamId trailerFields true) (w.localEnd _ _)

end AdmitsCalls

/-! ## What leaves the receiving side alone -/

variable (c : Http2Connection D E H) (streamId : Nat)

/-- Unless the connection fails, this view of it is as before. -/
structure UnlessFailed {α : Type} (view : Http2Connection D E H → α)
    (c c' : Http2Connection D E H) : Prop where
  failed : c.state = .failed → c'.state = .failed
  kept : c'.state = .failed ∨ view c' = view c

theorem UnlessFailed.of_same {α : Type} {view : Http2Connection D E H → α}
    {c c' : Http2Connection D E H} (hstate : c'.state = c.state)
    (hview : view c' = view c) : UnlessFailed view c c' := ⟨fun h => hstate.trans h, .inr hview⟩

theorem UnlessFailed.trans {α : Type} {view : Http2Connection D E H → α}
    {a b c : Http2Connection D E H} (hab : UnlessFailed view a b)
    (hbc : UnlessFailed view b c) : UnlessFailed view a c := by
  refine ⟨fun h => hbc.failed (hab.failed h), ?_⟩
  rcases hbc.kept with hfailed | hsame
  · exact .inl hfailed
  rcases hab.kept with hfailed | hsame'
  · exact .inl (hbc.failed hfailed)
  · exact .inr (hsame.trans hsame')

theorem terminateStream_state (termination : StreamTermination) :
    (c.terminateStream streamId termination).state = c.state := by
  unfold terminateStream
  split
  · rfl
  split
  · rfl
  · simp only [rememberTerminatedStream, setStream]

theorem noteLocalEndStream_state : (c.noteLocalEndStream streamId).state = c.state := by
  unfold noteLocalEndStream
  split
  · rfl
  split
  · rfl
  · exact terminateStream_state c streamId .completed
  · rfl

/-- What a view of the receiving side sees. -/
def readSide (c : Http2Connection D E H) : DecodingState D × CreditState :=
  (c.decoding, c.crediting)

theorem terminateStream_readSide (termination : StreamTermination) :
    (c.terminateStream streamId termination).readSide = c.readSide := by
  unfold terminateStream
  split
  · rfl
  split
  · rfl
  · simp only [readSide, decoding, crediting, rememberTerminatedStream, setStream]

theorem noteLocalEndStream_readSide : (c.noteLocalEndStream streamId).readSide = c.readSide := by
  unfold noteLocalEndStream
  split
  · rfl
  split
  · rfl
  · exact terminateStream_readSide c streamId .completed
  · rfl

theorem failStream_readSide (errorCode : Http2ErrorCode) (reason : String) :
    (c.failStream streamId errorCode reason).readSide = c.readSide :=
  terminateStream_readSide (c.appendOutgoing [.rstStream streamId errorCode]) streamId .resetByLocal

theorem noteRemoteEndStream_readSide : (c.noteRemoteEndStream streamId).readSide = c.readSide := by
  unfold noteRemoteEndStream
  split
  · rfl
  split
  · rfl
  · exact terminateStream_readSide c streamId .completed
  · rfl

theorem refuseNewStream_readSide (reason : String) :
    (c.refuseNewStream streamId reason).readSide = c.readSide := by
  simp only [readSide, decoding, crediting, refuseNewStream,
    rememberTerminatedStream, setStream, appendOutgoing]

section ReadSide

variable {α : Type} (view : DecodingState D × CreditState → α)

theorem UnlessFailed.admits :
    Admits (UnlessFailed fun c : Http2Connection D E H =>
      view c.readSide) where
  refl := fun _ => .of_same rfl rfl
  trans := .trans
  aside := fun hledger hdecoding hcrediting =>
    .of_same (congrArg StreamLedger.state (hledger {}))
      (by simp only [readSide, hdecoding, hcrediting])
  emit := fun _ _ _ _ => .of_same rfl rfl
  fail := fun c errorCode reason =>
    ⟨fun _ => fail_state c errorCode reason, .inl (fail_state c errorCode reason)⟩
  enter := fun henters => by
    refine ⟨fun hfailed => ?_, .inr rfl⟩
    rw [hfailed] at henters
    cases henters
  announce := fun c reason => by
    unfold sendGoAway
    split
    · exact .of_same rfl rfl
    · exact .of_same rfl rfl
    · exact .of_same rfl rfl
    · exact .of_same rfl rfl
    rename_i hopen
    refine ⟨fun hfailed => ?_, .inr ?_⟩
    · rw [hopen] at hfailed
      cases hfailed
    · unfold fixGoAwayLastStreamId
      split <;> rfl
  receive := fun _ _ => .of_same rfl rfl
  terminate := fun c streamId termination =>
    .of_same (terminateStream_state c streamId termination)
      (congrArg view (terminateStream_readSide c streamId termination))

theorem UnlessFailed.pump (streamId : Nat) :
    AdmitsPump streamId (UnlessFailed fun c : Http2Connection D E H =>
      view c.readSide) where
  refl := fun _ => .of_same rfl rfl
  trans := .trans
  segment := fun _ _ _ _ _ => .of_same rfl rfl
  last := fun _ _ _ _ _ => .of_same (noteLocalEndStream_state _ _)
    (congrArg view (noteLocalEndStream_readSide _ _))
  ending := fun _ _ _ _ => .of_same (noteLocalEndStream_state _ _)
    (congrArg view (noteLocalEndStream_readSide _ _))

theorem UnlessFailed.grants :
    AdmitsGrants (UnlessFailed fun c : Http2Connection D E H =>
      view c.readSide) where
  toAdmits := UnlessFailed.admits view
  pump := UnlessFailed.pump view
  window := fun _ _ => .of_same rfl rfl
  shift := fun _ _ => .of_same rfl rfl
  setting := fun _ _ => .of_same rfl rfl

theorem UnlessFailed.calls (codec : Http2Codec D E H) :
    AdmitsCalls codec (UnlessFailed fun c : Http2Connection D E H =>
      view c.readSide) where
  toAdmits := UnlessFailed.admits view
  block := fun _ _ _ _ => .of_same rfl rfl
  localEnd := fun c streamId => .of_same (noteLocalEndStream_state c streamId)
    (congrArg view (noteLocalEndStream_readSide c streamId))

theorem UnlessFailed.sendResponseData (c : Http2Connection D E H)
    (streamId : Nat) (data : Bytes) (endStream : Bool) :
    UnlessFailed (fun c : Http2Connection D E H => view c.readSide) c
      (c.sendResponseData streamId data endStream).connection := by
  have hsame := (UnlessFailed.admits view).refl c
  unfold Http2Connection.sendResponseData
  split
  · exact hsame
  split
  · exact hsame
  split
  · exact hsame
  split
  · exact hsame
  split
  · unfold frameDirectly
    split
    · exact .of_same (noteLocalEndStream_state _ _)
        (congrArg view (noteLocalEndStream_readSide _ _))
    · exact .of_same rfl rfl
  · refine UnlessFailed.trans ?_ ((UnlessFailed.pump view streamId).pumpSendQueue _)
    exact .of_same rfl rfl

end ReadSide

/-! ## What leaves the sending side alone -/

theorem SendAlike.of_receives {c : Http2Connection D E H} {streamId : Nat}
    {old new : StreamRecord} (hold : c.streams.find? streamId = some old)
    (h : old.Receives new) : SendAlike c (c.setStream streamId new) := by
  refine setStream_sendAlike hold (.inr ⟨h.queue, h.pending, ?_⟩)
  rcases h.state with hsame | ⟨hopen, hhalf⟩
  · exact .inl hsame
  · exact .inr ⟨.inl hopen, .inr hhalf⟩

theorem SendAlike.admits : Admits (@SendAlike D E H) where
  refl := .refl
  trans := .trans
  aside := fun hledger _ _ =>
    .of_same (congrArg StreamLedger.emitted (hledger {}))
      (congrArg StreamLedger.highestPeerStreamId (hledger {}))
      (congrArg StreamLedger.streams (hledger {}))
  emit := fun c _ _ hcontrol =>
    appendOutgoing_sendAlike c (Quiet.singleton hcontrol)
  fail := fail_sendAlike
  enter := fun _ => .of_same rfl rfl rfl
  announce := fun c reason => by
    have hfix : SendAlike c c.fixGoAwayLastStreamId := by
      unfold fixGoAwayLastStreamId
      split <;> exact .of_same rfl rfl rfl
    unfold sendGoAway
    split
    · exact .refl c
    · exact .refl c
    · exact .refl c
    · exact .refl c
    · refine hfix.trans ?_
      exact .of_emitted rfl rfl rfl (Quiet.singleton fun _ => rfl)
  receive := .of_receives
  terminate := terminateStream_sendAlike

theorem SendAlike.data : AdmitsData (@SendAlike D E H) where
  toAdmits := SendAlike.admits
  book := fun _ _ _ _ => .of_same rfl rfl rfl

theorem SendAlike.blocks (codec : Http2Codec D E H) : AdmitsBlocks codec SendAlike where
  toAdmits := SendAlike.admits
  assemble := fun _ _ _ _ _ => .of_same rfl rfl rfl
  fragment := fun _ _ => .of_same rfl rfl rfl
  decode := fun _ => .of_same rfl rfl rfl
  request := fun _ _ _ _ => .of_same rfl rfl rfl
  trailers := fun _ _ _ => .of_same rfl rfl rfl

end Http2Connection

end AsynGyanis.Http2
