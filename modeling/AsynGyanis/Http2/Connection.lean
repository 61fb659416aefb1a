import AsynGyanis.Http2.Frame
import AsynGyanis.Library.SortedMap

/-!
# The HTTP/2 server connection

`Http2Connection` holds everything one connection knows: the peer's
settings, a record for each stream including the recently terminated ones,
the two flow-control windows in either direction, the header block being
assembled and the frames waiting to be written. Its member functions
become functions on the whole state, and a reference to a stream record
becomes the stream's number: the record is looked up where it is used.

The header compression and the rules for the fields of a header list are
parameters (`Http2Codec`). The connection treats both as black boxes. A
block is handed to the decoder exactly where the source does so, and
`decodedHeaderBlocks` notes each one; nothing reads that note but the
proofs.

Windows are integers and may go below zero, the counters and stream
numbers are natural numbers; all of them stay below 2^32 by the checks the
code makes, so no machine arithmetic wraps.
-/

namespace AsynGyanis.Http2

open Library Http2SettingIdentifier

/-! ## States and records -/

/-- `idle` is never stored: a stream gets its record when it opens. -/
inductive Http2StreamState
  | idle
  | open
  | halfClosedRemote
  | halfClosedLocal
  | closed
  deriving DecidableEq, Repr

inductive Http2ConnectionState
  | awaitingPreface
  | awaitingSettings
  | open
  | closing
  | failed
  deriving DecidableEq, Repr

inductive StreamTermination
  | completed
  | resetByPeer
  | resetByLocal
  deriving DecidableEq, Repr

inductive TerminatedStreamFrameVerdict
  | ignore
  | resetStream
  | failConnection
  deriving DecidableEq, Repr

inductive HeaderBlockPurpose
  | request
  | trailers
  | discard
  deriving DecidableEq, Repr

inductive Http2ResponseSendStatus
  | sent
  | streamNotWritable
  | connectionUnavailable
  | rejected
  | headerListTooLarge
  deriving DecidableEq, Repr

def kTerminatedStreamMemoryCount : Nat := 256

def kControlFrameBucketCapacityMilliFrames : Nat := 1000 * 1000

def kControlFrameBucketRefillPerSecondFrames : Nat := 100

def kHpackDynamicTableEntryOverheadBytes : Nat := 32

/-- The body bytes of a stream that wait for a window, with the prefix that
was already framed still in front of them. -/
structure SendQueue where
  pendingData : Bytes := []
  pendingDataOffset : Nat := 0
  inside : pendingDataOffset ≤ pendingData.length := by decide
  deriving DecidableEq

namespace SendQueue

def empty : SendQueue := {}

def hasPendingData (q : SendQueue) : Bool := q.pendingDataOffset < q.pendingData.length

/-- What was not framed yet. -/
def remaining (q : SendQueue) : Bytes := q.pendingData.drop q.pendingDataOffset

def append (q : SendQueue) (data : Bytes) : SendQueue where
  pendingData := q.pendingData ++ data
  pendingDataOffset := q.pendingDataOffset
  inside := by
    have h := q.inside
    rw [List.length_append]
    omega

/-- Moving the cursor past a framed segment; the dead prefix is dropped
once it is half of the buffer. -/
def consume (q : SendQueue) (byteCount : Nat) : SendQueue :=
  if h : q.pendingDataOffset + byteCount < q.pendingData.length then
    if q.pendingDataOffset + byteCount ≥ q.pendingData.length / 2 then
      ⟨q.pendingData.drop (q.pendingDataOffset + byteCount), 0, Nat.zero_le _⟩
    else ⟨q.pendingData, q.pendingDataOffset + byteCount, Nat.le_of_lt h⟩
  else empty

@[simp] theorem remaining_empty : empty.remaining = [] := rfl

@[simp] theorem remaining_append (q : SendQueue) (data : Bytes) :
    (q.append data).remaining = q.remaining ++ data := List.drop_append_of_le_length q.inside

@[simp] theorem remaining_consume (q : SendQueue) (byteCount : Nat) :
    (q.consume byteCount).remaining = q.remaining.drop byteCount := by
  unfold consume
  split
  · split <;> simp [remaining, List.drop_drop]
  rename_i h
  rw [remaining_empty, remaining, List.drop_drop, List.drop_eq_nil_of_le (le_of_not_gt h)]

theorem hasPendingData_iff (q : SendQueue) : q.hasPendingData ↔ q.remaining ≠ [] := by
  unfold hasPendingData remaining
  rw [decide_eq_true_eq, ne_eq, List.drop_eq_nil_iff]
  omega

theorem hasPendingData_eq_false {q : SendQueue} : q.hasPendingData = false ↔ q.remaining = [] := by
  rw [← Bool.not_eq_true, hasPendingData_iff, ne_eq, not_not]

end SendQueue

/-- A stream's record; its number is its key in the table. -/
structure StreamRecord where
  state : Http2StreamState := .idle
  termination : StreamTermination := .completed
  sendWindowByteCount : Int := kHttp2InitialWindowSizeByteCount
  sendQueue : SendQueue := .empty
  isEndStreamPending : Bool := false
  receiveWindowByteCount : Int := kHttp2InitialWindowSizeByteCount
  pendingReceiveCreditByteCount : Nat := 0
  deriving DecidableEq

structure HpackHeaderField where
  name : Bytes
  value : Bytes
  deriving DecidableEq, Repr

/-- A request as it is handed to the application; `head` is what the rules
made of its fields. -/
structure Http2Request (H : Type) where
  streamId : Nat := 0
  head : H
  hasBody : Bool := false
  isHeaderListTooLarge : Bool := false
  deriving DecidableEq, Repr

structure Http2ReceivedData where
  streamId : Nat := 0
  data : Bytes := []
  endStream : Bool := false
  flowControlByteCount : Nat := 0
  trailerFields : List HpackHeaderField := []
  deriving DecidableEq, Repr

structure Http2ConnectionConfiguration where
  headerTableSize : Nat := 4096
  enablePush : Nat := 0
  maximumConcurrentStreams : Nat := 100
  initialWindowSize : Nat := kHttp2InitialWindowSizeByteCount
  maximumFrameSize : Nat := kHttp2DefaultMaximumFrameSize
  maximumHeaderListSize : Nat := 64 * 1024
  enableConnectProtocol : Nat := 1
  maximumHeaderBlockByteCount : Nat := 16 * 1024
  deriving DecidableEq, Repr

/-- How the decoding of a header block ends. A block over a limit has been
decoded to its end; only a failed one leaves the tables out of step. -/
inductive HpackDecodeOutcome
  | fields (headerFields : List HpackHeaderField)
  | limitExceeded (errorMessage : String)
  | failed (errorCode : Http2ErrorCode) (errorMessage : String)

/-- Header compression and field rules: `D` and `E` are the states of the
decoder and the encoder, `H` is a checked request head. -/
structure Http2Codec (D E H : Type) where
  decode : D → Bytes → HpackDecodeOutcome × D
  encode : E → List HpackHeaderField → Bytes × E
  setMaximumDynamicTableSizeByteCount : E → Nat → E
  acceptRequestHeaderFields : List HpackHeaderField → Except String (Http2Request H)
  /-- The request made of a header list over the limit. -/
  oversizedHead : H
  acceptTrailerHeaderFields : List HpackHeaderField → Except String Unit
  acceptResponseHeaderField : HpackHeaderField → Except String Unit
  /-- The reason why a field may not be sent in a trailer block. -/
  rejectResponseTrailerField : Nat → HpackHeaderField → Option String

structure Http2Connection (D E H : Type) where
  configuration : Http2ConnectionConfiguration
  state : Http2ConnectionState := .awaitingPreface
  prefaceByteCount : Nat := 0
  outstandingSettingsCount : Nat := 0
  errorCode : Http2ErrorCode := .noError
  errorMessage : String := ""
  lastStreamErrorMessage : String := ""
  rejectedRequestHeaderFieldCount : Nat := 0
  controlFrameBucketMilliFrames : Nat := kControlFrameBucketCapacityMilliFrames
  controlFrameBucketRefreshedAt : Nat := 0
  hpackDecoder : D
  decodedHeaderBlocks : List Bytes := []
  encoder : E
  isAssemblingHeaderBlock : Bool := false
  pendingHeaderStreamId : Nat := 0
  pendingHeaderPurpose : HeaderBlockPurpose := .request
  pendingHeaderEndStream : Bool := false
  pendingHeaderBlock : Bytes := []
  streams : SortedMap Nat StreamRecord := .empty
  terminatedStreamIds : List Nat := []
  hasEvictedTerminatedStreamRecord : Bool := false
  openStreamCount : Nat := 0
  highestPeerStreamId : Nat := 0
  connectionSendWindowByteCount : Int := kHttp2InitialWindowSizeByteCount
  connectionReceiveWindowByteCount : Int := kHttp2InitialWindowSizeByteCount
  pendingConnectionReceiveCreditByteCount : Nat := 0
  peerSettings : SortedMap Nat Nat := .empty
  peerGoAway : Option Http2GoAwayPayload := none
  goAwayLastStreamId : Option Nat := none
  outgoing : List OutgoingFrame := []
  pendingRequests : List (Http2Request H) := []
  pendingReceivedData : List Http2ReceivedData := []

def textBytes (text : String) : Bytes := text.toUTF8.toList

namespace Http2Connection

variable {D E H : Type}

/-! ## Small pieces -/

variable (codec : Http2Codec D E H) (c : Http2Connection D E H) (streamId : Nat)
variable (reason : String) (stream : StreamRecord)

def appendOutgoing (frames : List OutgoingFrame) : Http2Connection D E H :=
  { c with outgoing := c.outgoing ++ frames }

def setStream : Http2Connection D E H := { c with streams := c.streams.insert streamId stream }

/-- The record of a stream that is not closed. -/
def findActiveStream : Option StreamRecord :=
  match c.streams.find? streamId with
  | none => none
  | some stream => if stream.state = .closed then none else some stream

def peerMaximumFrameSize : Nat := (c.peerSettings.find? maxFrameSize).getD
    kHttp2DefaultMaximumFrameSize

def peerInitialWindowSize : Nat := (c.peerSettings.find? initialWindowSize).getD
    kHttp2InitialWindowSizeByteCount

def acceptPeerStreamIdParity : Except String Unit :=
  if streamId % 2 = 0 then
    .error s!"流号 {streamId} 是偶数：RFC 9113 §5.1.1 规定客户端发起的流号必须是奇数（偶数留给服务端推送，本端不实现推送）"
  else .ok ()

/-- The first GOAWAY fixes the bound of all later ones. -/
def fixGoAwayLastStreamId : Http2Connection D E H :=
  match c.goAwayLastStreamId with
  | some _ => c
  | none => { c with goAwayLastStreamId := some c.highestPeerStreamId }

/-- `goAwayLastStreamId()`, once the first GOAWAY is fixed. -/
def clampedLastStreamId : Nat :=
  min (c.goAwayLastStreamId.getD c.highestPeerStreamId) c.highestPeerStreamId

def clearHeaderBlockAssembly : Http2Connection D E H := { c with isAssemblingHeaderBlock := false }

def fail (errorCode : Http2ErrorCode) (reason : String) : Http2Connection D E H :=
  if c.state = .failed then c
  else
    let c := { c.clearHeaderBlockAssembly with
      pendingHeaderBlock := []
      state := .failed
      errorCode := errorCode
      errorMessage := reason }
    let c := c.fixGoAwayLastStreamId
    c.appendOutgoing [.goAway ⟨c.clampedLastStreamId, errorCode, textBytes reason⟩]

/-! ## The stream ledger -/

/-- Closed records are kept for the last `kTerminatedStreamMemoryCount`
streams; the oldest beyond that are dropped. -/
def rememberTerminatedStream : Http2Connection D E H :=
  let terminated := c.terminatedStreamIds ++ [streamId]
  let evictedCount := terminated.length - kTerminatedStreamMemoryCount
  { c with
    streams := (terminated.take evictedCount).foldl
      (fun streams evicted => streams.erase evicted) c.streams
    terminatedStreamIds := terminated.drop evictedCount
    hasEvictedTerminatedStreamRecord := c.hasEvictedTerminatedStreamRecord || evictedCount ≠ 0 }

def terminatedRecord (termination : StreamTermination) : StreamRecord :=
  { stream with
    state := .closed
    termination := termination
    sendQueue := .empty
    isEndStreamPending := false }

def terminateStream (termination : StreamTermination) : Http2Connection D E H :=
  match c.streams.find? streamId with
  | none => c
  | some stream =>
    if stream.state = .closed then c
    else
      let c := c.setStream streamId (terminatedRecord stream termination)
      { c with openStreamCount := c.openStreamCount - 1 }.rememberTerminatedStream streamId

def failStream (errorCode : Http2ErrorCode) (reason : String) : Http2Connection D E H :=
  { (c.appendOutgoing [.rstStream streamId errorCode]).terminateStream
      streamId .resetByLocal with lastStreamErrorMessage := reason }

def openStream : Http2Connection D E H :=
  let c := c.setStream streamId
    { state := .open
      sendWindowByteCount := c.peerInitialWindowSize
      receiveWindowByteCount := c.configuration.initialWindowSize }
  { c with
    openStreamCount := c.openStreamCount + 1
    highestPeerStreamId := streamId }

def refuseNewStream : Http2Connection D E H :=
  let c := { c with highestPeerStreamId := streamId }
  let c := c.appendOutgoing [.rstStream streamId .refusedStream]
  let c := c.setStream streamId { state := .closed, termination := .resetByLocal }
  { c.rememberTerminatedStream streamId with
    lastStreamErrorMessage := reason }

def noteRemoteEndStream : Http2Connection D E H :=
  match c.streams.find? streamId with
  | none => c
  | some stream =>
    match stream.state with
    | .open => c.setStream streamId { stream with state := .halfClosedRemote }
    | .halfClosedLocal => c.terminateStream streamId .completed
    | _ => c

def noteLocalEndStream : Http2Connection D E H :=
  match c.streams.find? streamId with
  | none => c
  | some stream =>
    match stream.state with
    | .open => c.setStream streamId { stream with state := .halfClosedLocal }
    | .halfClosedRemote => c.terminateStream streamId .completed
    | _ => c

/-- What a frame of a closed stream calls for, and the record after it. -/
def judgeFrameOnTerminatedStream (frameType : Http2FrameType) :
    TerminatedStreamFrameVerdict × StreamRecord :=
  if frameType = .priority then (.ignore, stream)
  else if frameType = .windowUpdate ∨ frameType = .rstStream then
    (.ignore, stream)
  else
    match stream.termination with
    | .resetByLocal => (.ignore, stream)
    | .resetByPeer =>
      (.resetStream, { stream with termination := .resetByLocal })
    | .completed => (.failConnection, stream)

/-! ## Receive windows -/

def isReceiveCreditWorthFlushing (pendingByteCount
    advertisedWindowByteCount : Nat) : Bool :=
  pendingByteCount ≥ max 1 (advertisedWindowByteCount / 2)

def creditConnectionReceiveWindow (byteCount : Nat) : Http2Connection D E H :=
  let pending := c.pendingConnectionReceiveCreditByteCount + byteCount
  if !isReceiveCreditWorthFlushing pending kHttp2InitialWindowSizeByteCount then
    { c with pendingConnectionReceiveCreditByteCount := pending }
  else
    { c with
      pendingConnectionReceiveCreditByteCount := 0
      connectionReceiveWindowByteCount := c.connectionReceiveWindowByteCount + pending
      }.appendOutgoing [.windowUpdate 0 pending]

def creditStreamReceiveWindow (byteCount : Nat) : Http2Connection D E H :=
  match c.findActiveStream streamId with
  | none => c
  | some stream =>
    let pending := stream.pendingReceiveCreditByteCount + byteCount
    if !isReceiveCreditWorthFlushing pending c.configuration.initialWindowSize then
      c.setStream streamId { stream with pendingReceiveCreditByteCount := pending }
    else
      (c.setStream streamId
        { stream with
          pendingReceiveCreditByteCount := 0
          receiveWindowByteCount := stream.receiveWindowByteCount + pending
          }).appendOutgoing [.windowUpdate streamId pending]

/-! ## Send windows and queues -/

def increaseConnectionSendWindow (increment : Nat) : Bool × Http2Connection D E H :=
  if c.connectionSendWindowByteCount + increment > kHttp2MaximumWindowSizeByteCount then
    (false, c.fail .flowControlError s!"连接级发送窗口加上 WINDOW_UPDATE 的增量 {increment} 会超过上限 2^31-1（RFC 9113 §6.9.1）：本端无法为这么大的窗口记账，请检查对端的窗口记账")
  else
    (true, { c with
      connectionSendWindowByteCount := c.connectionSendWindowByteCount + increment })

def increaseStreamSendWindow (increment : Nat) : Bool × Http2Connection D E H :=
  if stream.sendWindowByteCount + increment > kHttp2MaximumWindowSizeByteCount then
    (false, c.failStream streamId .flowControlError s!"流 {streamId} 的发送窗口加上 WINDOW_UPDATE 的增量 {increment} 会超过上限 2^31-1（RFC 9113 §6.9.1）：本端无法为这么大的窗口记账")
  else
    (true, c.setStream streamId { stream with
      sendWindowByteCount := stream.sendWindowByteCount + increment })

/-- How many bytes the next DATA frame of the queue carries. -/
def segmentByteCount :
    Nat :=
  min stream.sendQueue.remaining.length
    (min (min stream.sendWindowByteCount c.connectionSendWindowByteCount)
      (c.peerMaximumFrameSize : Int)).toNat

/-- The DATA frame off the front of the queue carries END_STREAM. -/
def isEndStreamSegment :
    Bool :=
  c.segmentByteCount stream = stream.sendQueue.remaining.length && stream.isEndStreamPending

/-- The body of the loop of `pumpSendQueue`, up to `noteLocalEndStream`. -/
def sendSegment : Http2Connection D E H :=
  let byteCount := c.segmentByteCount stream
  let isEnd := c.isEndStreamSegment stream
  let c := c.appendOutgoing [.data streamId (stream.sendQueue.remaining.take byteCount) isEnd]
  let c := c.setStream streamId { stream with
    sendQueue := stream.sendQueue.consume byteCount
    sendWindowByteCount := stream.sendWindowByteCount - byteCount
    isEndStreamPending := stream.isEndStreamPending && !isEnd }
  { c with
    connectionSendWindowByteCount := c.connectionSendWindowByteCount - byteCount }

/-- The loop of `pumpSendQueue`; the flag says that it returned after
END_STREAM. -/
def pumpSegments (streamId : Nat) : Nat → Http2Connection D E H → Bool × Http2Connection D E H
  | 0, c => (false, c)
  | fuel + 1, c =>
    match c.streams.find? streamId with
    | none => (false, c)
    | some stream =>
      if stream.sendQueue.hasPendingData ∧ stream.sendWindowByteCount > 0 ∧
          c.connectionSendWindowByteCount > 0 then
        if c.isEndStreamSegment stream then
          (true, (c.sendSegment streamId stream).noteLocalEndStream streamId)
        else pumpSegments streamId fuel (c.sendSegment streamId stream)
      else (false, c)

/-- The empty DATA frame that ends a stream whose queue ran dry before. -/
def sendTrailingEndStream : Http2Connection D E H :=
  match c.streams.find? streamId with
  | none => c
  | some stream =>
    if !stream.sendQueue.hasPendingData && stream.isEndStreamPending &&
        stream.sendWindowByteCount ≥ 0 &&
        c.connectionSendWindowByteCount ≥ 0 && stream.state ≠ .closed then
      let c := c.setStream streamId { stream with isEndStreamPending := false }
      let c := c.appendOutgoing [.data streamId [] true]
      c.noteLocalEndStream streamId
    else c

/-- Each round of the loop takes at least one byte off the queue, since the
peer's frame size is at least 16384. -/
def pumpSendQueue : Http2Connection D E H :=
  match c.streams.find? streamId with
  | none => c
  | some stream =>
    let pumped := pumpSegments streamId stream.sendQueue.remaining.length c
    if pumped.1 then pumped.2 else pumped.2.sendTrailingEndStream streamId

def pumpIfQueued : Http2Connection D E H :=
  match c.streams.find? streamId with
  | none => c
  | some stream =>
    if stream.sendQueue.hasPendingData || stream.isEndStreamPending then
      c.pumpSendQueue streamId
    else c

def pumpAllSendQueues : Http2Connection D E H := c.streams.keys.foldl pumpIfQueued c

/-! ## The peer's settings -/

/-- Moving one stream's send window by the change of the initial window. -/
def shiftSendWindow (value : Nat) (windowDelta : Int)
    (acc : Bool × Http2Connection D E H) (streamId : Nat) :
    Bool × Http2Connection D E H :=
  if !acc.1 then acc
  else
    match acc.2.findActiveStream streamId with
    | none => acc
    | some stream =>
      let shifted := stream.sendWindowByteCount + windowDelta
      let c := acc.2.setStream streamId { stream with sendWindowByteCount := shifted }
      if shifted > kHttp2MaximumWindowSizeByteCount then
        (false, c.fail .flowControlError s!"对端把 INITIAL_WINDOW_SIZE 改成 {value} 后，流 {streamId} 的发送窗口超过上限 2^31-1（RFC 9113 §6.9.2）")
      else (true, c)

/-- What one parameter does before it is recorded. -/
def applyPeerSetting (setting : Http2Setting) : Bool × Http2Connection D E H :=
  if setting.identifier = headerTableSize then
    (true, { c with
      encoder := codec.setMaximumDynamicTableSizeByteCount c.encoder setting.value })
  else if setting.identifier = enablePush then
    if setting.value > 1 then
      (false, c.fail .protocolError s!"对端 SETTINGS 的 ENABLE_PUSH 取值 {setting.value} 非法：RFC 9113 §6.5.2 只允许 0 或 1，请检查对端实现")
    else (true, c)
  else if setting.identifier = initialWindowSize then
    if setting.value > kHttp2MaximumWindowSizeByteCount then
      (false, c.fail .flowControlError s!"对端 SETTINGS 的 INITIAL_WINDOW_SIZE 取值 {setting.value} 超过上限 2^31-1（RFC 9113 §6.5.2）")
    else
      c.streams.keys.foldl
        (shiftSendWindow setting.value ((setting.value : Int) - c.peerInitialWindowSize)) (true, c)
  else if setting.identifier = maxFrameSize then
    if setting.value < kHttp2DefaultMaximumFrameSize ∨
        setting.value > kHttp2MaximumMaximumFrameSize then
      (false, c.fail .protocolError s!"对端 SETTINGS 的 MAX_FRAME_SIZE 取值 {setting.value} 越界：RFC 9113 §6.5.2 的合法区间是 [16384, 16777215]")
    else (true, c)
  else if setting.identifier = enableConnectProtocol then
    if setting.value > 1 then
      (false, c.fail .protocolError s!"对端 SETTINGS 的 ENABLE_CONNECT_PROTOCOL 取值 {setting.value} 非法：RFC 8441 §3 只允许 0 或 1")
    else (true, c)
  else (true, c)

def applyPeerSettings (codec : Http2Codec D E H) :
    List Http2Setting → Http2Connection D E H → Bool × Http2Connection D E H
  | [], c => (true, c)
  | setting :: rest, c =>
    let applied := c.applyPeerSetting codec setting
    if !applied.1 then applied
    else applyPeerSettings codec rest
      { applied.2 with
        peerSettings := applied.2.peerSettings.insert setting.identifier setting.value }

/-! ## Header blocks -/

def appendHeaderBlockFragment (fragment : Bytes) : Bool × Http2Connection D E H :=
  if c.pendingHeaderBlock.length + fragment.length >
      c.configuration.maximumHeaderBlockByteCount then
    (false, c.fail .enhanceYourCalm s!"流 {c.pendingHeaderStreamId} 的头块压缩后已超过本端上限 {c.configuration.maximumHeaderBlockByteCount} 字节（HEADERS 与 CONTINUATION 片段之和）：本端无法在撑爆内存的前提下继续同步 HPACK 动态表，只能终止连接，请对端减小头列表")
  else
    (true, { c with
      pendingHeaderBlock := c.pendingHeaderBlock ++ fragment })

/-- A block over a header limit: the tables are in step, the request is
answered with 431 and a trailer block ends its stream. -/
def finishOversizedBlock (purpose : HeaderBlockPurpose) (endStream : Bool)
    (errorMessage : String) : Http2Connection D E H :=
  match purpose with
  | .discard => c
  | .trailers =>
    match c.streams.find? streamId with
    | none => c
    | some _ => c.failStream streamId .enhanceYourCalm s!"流 {streamId} 的尾部头块超出本端上限：{errorMessage}"
  | .request =>
    let c := { c with
      pendingRequests := c.pendingRequests ++
        [{ streamId := streamId
           head := codec.oversizedHead
           hasBody := !endStream
           isHeaderListTooLarge := true }] }
    if endStream then c.noteRemoteEndStream streamId else c

def kContentLengthFieldName : Bytes :=
  [99, 111, 110, 116, 101, 110, 116, 45, 108, 101, 110, 103, 116, 104]

def deliverTrailers (endStream : Bool)
    (headerFields : List HpackHeaderField) : Http2Connection D E H :=
  match codec.acceptTrailerHeaderFields headerFields with
  | .error errorText =>
    c.failStream streamId .protocolError s!"流 {streamId} 的尾部头块不合规：{errorText}"
  | .ok () =>
    if endStream then
      let c := c.noteRemoteEndStream streamId
      { c with
        pendingReceivedData := c.pendingReceivedData ++
          [{ streamId := streamId
             endStream := true
             trailerFields := headerFields.filter fun field =>
               field.name ≠ kContentLengthFieldName }] }
    else c

def deliverRequest (endStream : Bool)
    (headerFields : List HpackHeaderField) : Http2Connection D E H :=
  match codec.acceptRequestHeaderFields headerFields with
  | .error errorText =>
    { c with
      rejectedRequestHeaderFieldCount := c.rejectedRequestHeaderFieldCount + 1
      }.failStream streamId .protocolError s!"流 {streamId} 的请求头不合规：{errorText}"
  | .ok request =>
    let c := { c with
      pendingRequests := c.pendingRequests ++
        [{ request with streamId := streamId, hasBody := !endStream }] }
    if endStream then c.noteRemoteEndStream streamId else c

/-- What becomes of the fields of a decoded block. -/
def deliverHeaderFields (purpose : HeaderBlockPurpose) (endStream : Bool)
    (headerFields : List HpackHeaderField) : Http2Connection D E H :=
  if purpose = .discard then c
  else
    match c.findActiveStream streamId with
    | none => c
    | some _ =>
      if purpose = .trailers then
        c.deliverTrailers codec streamId endStream headerFields
      else c.deliverRequest codec streamId endStream headerFields

/-- The state once the assembled block went through the decoder. -/
def decodePendingHeaderBlock : Http2Connection D E H :=
  { c.clearHeaderBlockAssembly with
    hpackDecoder := (codec.decode c.hpackDecoder c.pendingHeaderBlock).2
    decodedHeaderBlocks := c.decodedHeaderBlocks ++ [c.pendingHeaderBlock]
    pendingHeaderBlock := [] }

def finishHeaderBlock : Bool × Http2Connection D E H :=
  let streamId := c.pendingHeaderStreamId
  let purpose := c.pendingHeaderPurpose
  let endStream := c.pendingHeaderEndStream
  let decoded := c.decodePendingHeaderBlock codec
  match (codec.decode c.hpackDecoder c.pendingHeaderBlock).1 with
  | .failed errorCode errorMessage =>
    (false, decoded.fail errorCode s!"流 {streamId} 的头块解码失败：{errorMessage}")
  | .limitExceeded errorMessage =>
    (true, decoded.finishOversizedBlock codec streamId purpose endStream errorMessage)
  | .fields headerFields =>
    (true, decoded.deliverHeaderFields codec streamId purpose endStream headerFields)

def beginHeaderBlock (purpose : HeaderBlockPurpose) (endStream : Bool)
    (firstFragment : Bytes) (endHeaders : Bool) :
    Bool × Http2Connection D E H :=
  let c := { c with
    isAssemblingHeaderBlock := true
    pendingHeaderStreamId := streamId
    pendingHeaderPurpose := purpose
    pendingHeaderEndStream := endStream
    pendingHeaderBlock := [] }
  let appended := c.appendHeaderBlockFragment firstFragment
  if !appended.1 then appended
  else if endHeaders then appended.2.finishHeaderBlock codec
  else appended

/-! ## The application's side -/

def http2ConnectionStateName : Http2ConnectionState → String
  | .awaitingPreface => "等待前奏"
  | .awaitingSettings => "等待对端 SETTINGS"
  | .open => "正常收发"
  | .closing => "关闭中（已发或已收 GOAWAY）"
  | .failed => "已失败"

/-- The result of a call with its `errorText`. -/
structure CallResult (α D E H : Type) where
  result : α
  errorText : String := ""
  connection : Http2Connection D E H

def creditReceivedData (streamId byteCount : Nat) : CallResult Bool D E H :=
  if byteCount = 0 then ⟨true, "", c⟩
  else if c.state = .failed then
    ⟨false, s!"连接已失败（{c.errorMessage}）：不再补发 WINDOW_UPDATE，请按 errorCode() 终止连接", c⟩
  else if byteCount > kHttp2MaximumWindowSizeByteCount then
    ⟨false, s!"本次消费字节数 {byteCount} 超过窗口上限 2^31-1：请按 Http2ReceivedData::flowControlByteCount 逐片报量", c⟩
  else
    ⟨true, "", (c.creditConnectionReceiveWindow
      byteCount).creditStreamReceiveWindow streamId byteCount⟩

def sendGoAway : CallResult Bool D E H :=
  match c.state with
  | .failed => ⟨false, "连接已进入失败态：本端已经按 errorCode() 发过 GOAWAY，收尾通告不再发；请直接收口连接", c⟩
  | .awaitingPreface => ⟨false, s!"连接尚未完成 HTTP/2 协商（当前状态是「{http2ConnectionStateName c.state}」）：请等收到对端 SETTINGS 之后再发收尾通告", c⟩
  | .awaitingSettings => ⟨false, s!"连接尚未完成 HTTP/2 协商（当前状态是「{http2ConnectionStateName c.state}」）：请等收到对端 SETTINGS 之后再发收尾通告", c⟩
  | .closing => ⟨false, "连接已经在关闭中（本端已发过收尾通告，或已收到对端 GOAWAY）：重复调用不会改写已通告的 last-stream-id，请直接收口连接", c⟩
  | .open =>
    let c := c.fixGoAwayLastStreamId
    ⟨true, "", { c.appendOutgoing [.goAway ⟨c.clampedLastStreamId, .noError, textBytes reason⟩] with
        state := .closing }⟩

/-- Open or closing: streams may be worked on. -/
def acceptsStreamOperations : Bool := c.state = .open || c.state = .closing

def abortStream (errorCode : Http2ErrorCode) : CallResult Bool D E H :=
  if !c.acceptsStreamOperations then
    ⟨false, s!"连接当前状态是「{http2ConnectionStateName c.state}」，不接受流操作：必须先收齐客户端前奏与对端 SETTINGS，且连接没有失败", c⟩
  else
    match c.findActiveStream streamId with
    | none => ⟨false, s!"流 {streamId} 不在账本里或已经终止：只有对端开过、还没收尾的流才谈得上中止", c⟩
    | some _ => ⟨true, "", c.failStream streamId errorCode reason⟩

def failConnection (errorCode : Http2ErrorCode) (reason : String) : CallResult Bool D E H :=
  if errorCode = .noError then
    ⟨false, "连接错误码不能是 NO_ERROR：正常收尾请改用 sendGoAway()（它通告 last-stream-id 并转入关闭中）", c⟩
  else if c.state = .failed then
    ⟨false, s!"连接已进入失败态（{c.errorMessage}）：GOAWAY 已经按 errorCode() 发过一次，不再重复发；请直接收口连接", c⟩
  else ⟨true, "", c.fail errorCode reason⟩

/-- The limit on our header lists, where the peer announced one above 0. -/
def peerMaximumHeaderListSize : Option Nat :=
  match c.peerSettings.find? maxHeaderListSize with
  | some (limit + 1) => some (limit + 1)
  | _ => none

def headerListByteCount (fields : List HpackHeaderField) : Nat :=
  (fields.map fun field => field.name.length + field.value.length +
    kHpackDynamicTableEntryOverheadBytes).sum

/-- The size of a header list over the peer's limit, with the limit. The
pseudo-header field, where there is one, comes first in the list. -/
def oversizeAgainstPeerHeaderListLimit (fields : List HpackHeaderField) : Option (Nat × Nat) :=
  match c.peerMaximumHeaderListSize with
  | none => none
  | some limit =>
    if headerListByteCount fields > limit then
      some (headerListByteCount fields, limit)
    else none

def emitHeaderBlock (headerBlock : Bytes) (endStream : Bool) : Http2Connection D E H :=
  c.appendOutgoing (headerBlockFrames streamId headerBlock endStream c.peerMaximumFrameSize)

/-- Encoding a header list and framing it. -/
def encodeAndEmit (fields : List HpackHeaderField) (endStream : Bool) : Http2Connection D E H :=
  let encoded := codec.encode c.encoder fields
  ({ c with encoder := encoded.2 }).emitHeaderBlock streamId encoded.1 endStream

/-- The reason why the first unacceptable field is refused. -/
def firstRejection (accept : HpackHeaderField → Except String Unit) :
    List HpackHeaderField → Option String
  | [] => none
  | field :: rest =>
    match accept field with
    | .error errorText => some errorText
    | .ok () => firstRejection accept rest

def kStatusFieldName : Bytes := [58, 115, 116, 97, 116, 117, 115]

def statusField (statusCode : Nat) : HpackHeaderField :=
  ⟨kStatusFieldName, textBytes (toString statusCode)⟩

def sendResponseHeaders (streamId statusCode : Nat)
    (headerFields : List HpackHeaderField) (endStream : Bool) :
    CallResult Http2ResponseSendStatus D E H :=
  if !c.acceptsStreamOperations then
    ⟨.connectionUnavailable, s!"连接当前状态是「{http2ConnectionStateName c.state}」，不接受响应：必须先收齐客户端前奏与对端 SETTINGS，且连接没有失败", c⟩
  else
    match c.findActiveStream streamId with
    | none => ⟨.streamNotWritable, s!"流 {streamId} 不在账本里或已经终止：只有对端开过、还没收尾的流才能回响应，请用 takeRequests() 交出的 streamId，或另开新流", c⟩
    | some stream =>
      if stream.state = .halfClosedLocal then
        ⟨.streamNotWritable, s!"流 {streamId} 上本端已经发过 END_STREAM：一条流只能有一个响应，请另开新流", c⟩
      else if statusCode < 100 ∨ statusCode > 999 then
        let reason := s!"响应状态码 {statusCode} 越界：HTTP 状态码是 100..999 的三位数字，请给出合法取值"
        ⟨.rejected, reason, c.failStream streamId .internalError reason⟩
      else
        match firstRejection codec.acceptResponseHeaderField headerFields with
        | some reason =>
          ⟨.rejected, reason, c.failStream streamId .internalError reason⟩
        | none =>
          let fields := statusField statusCode :: headerFields
          match c.oversizeAgainstPeerHeaderListLimit fields with
          | some (byteCount, limit) =>
            let reason := s!"流 {streamId} 的响应头列表 {byteCount} 字节越过对端通告的 SETTINGS_MAX_HEADER_LIST_SIZE {limit} 字节，本端按 INTERNAL_ERROR 中止这条流"
            ⟨.headerListTooLarge, reason, c.failStream streamId .internalError reason⟩
          | none =>
            let c := c.encodeAndEmit codec streamId fields endStream
            ⟨.sent, "", if endStream then c.noteLocalEndStream streamId
              else c⟩

def sendResponseTrailers (trailerFields : List HpackHeaderField) :
    CallResult Http2ResponseSendStatus D E H :=
  if !c.acceptsStreamOperations then
    ⟨.connectionUnavailable, s!"连接当前状态是「{http2ConnectionStateName c.state}」，不接受尾部头块：必须先收齐客户端前奏与对端 SETTINGS，且连接没有失败", c⟩
  else
    match c.findActiveStream streamId with
    | none => ⟨.streamNotWritable, s!"流 {streamId} 不在账本里或已经终止：尾部头块只能跟着这条流自己的响应之后发", c⟩
    | some stream =>
      if stream.state = .halfClosedLocal then
        ⟨.streamNotWritable, s!"流 {streamId} 上本端已经发过 END_STREAM：尾部头块本身就是那次收尾，不能补第二遍", c⟩
      else
        match trailerFields.findSome? (codec.rejectResponseTrailerField streamId) with
        | some reason =>
          ⟨.rejected, reason, c.failStream streamId .internalError reason⟩
        | none =>
          match c.oversizeAgainstPeerHeaderListLimit trailerFields with
          | some (byteCount, limit) =>
            let reason := s!"流 {streamId} 的尾部头块 {byteCount} 字节越过对端通告的 SETTINGS_MAX_HEADER_LIST_SIZE {limit} 字节，本端按 INTERNAL_ERROR 中止这条流"
            ⟨.headerListTooLarge, reason, c.failStream streamId .internalError reason⟩
          | none =>
            ⟨.sent, "", (c.encodeAndEmit codec streamId trailerFields
              true).noteLocalEndStream streamId⟩

/-- Framing a segment straight from the caller's bytes. -/
def frameDirectly (data : Bytes) (endStream : Bool) : Http2Connection D E H :=
  let c := c.appendOutgoing [.data streamId data endStream]
  let c := c.setStream streamId { stream with
    sendWindowByteCount := stream.sendWindowByteCount - data.length }
  let c := { c with
    connectionSendWindowByteCount := c.connectionSendWindowByteCount - data.length }
  if endStream then c.noteLocalEndStream streamId else c

/-- Queueing a segment and sending what the windows allow. -/
def queueAndPump (data : Bytes) (endStream : Bool) : Http2Connection D E H :=
  (c.setStream streamId { stream with
    sendQueue := stream.sendQueue.append data
    isEndStreamPending := stream.isEndStreamPending || endStream }).pumpSendQueue streamId

def sendResponseData (data : Bytes) (endStream : Bool) : CallResult Http2ResponseSendStatus D E H :=
  if !c.acceptsStreamOperations then
    ⟨.connectionUnavailable, s!"连接当前状态是「{http2ConnectionStateName c.state}」，不接受响应：必须先收齐客户端前奏与对端 SETTINGS，且连接没有失败", c⟩
  else
    match c.findActiveStream streamId with
    | none => ⟨.streamNotWritable, s!"流 {streamId} 不在账本里或已经终止：只有对端开过、还没收尾的流才能发正文", c⟩
    | some stream =>
      if stream.state = .halfClosedLocal then
        ⟨.streamNotWritable, s!"流 {streamId} 上本端已经发过 END_STREAM：不能再发正文，请另开新流", c⟩
      else if stream.isEndStreamPending then
        ⟨.streamNotWritable, s!"流 {streamId} 上已经安排了 END_STREAM（可能还在等窗口）：本片之后只能由对端收尾，请不要再追加正文", c⟩
      else if !stream.sendQueue.hasPendingData ∧ (data.length : Int) ≤
          min (min stream.sendWindowByteCount c.connectionSendWindowByteCount)
            (c.peerMaximumFrameSize : Int) then
        ⟨.sent, "", c.frameDirectly streamId stream data endStream⟩
      else ⟨.sent, "", c.queueAndPump streamId stream data endStream⟩

end Http2Connection

end AsynGyanis.Http2
