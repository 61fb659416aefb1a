import AsynGyanis.Http2.Connection

/-!
# Handling the peer's frames

One definition for each frame handler, with its result: `false` ends the
feeding of further frames, and the connection has then failed. The frames
come in one at a time, in the order in which the frame decoder cut them
from the byte stream.

`now` is the reading of the steady clock in nanoseconds, which only the
budget for control frames looks at.
-/

namespace AsynGyanis.Http2

open Library Http2SettingIdentifier

namespace Http2Connection

variable {D E H : Type}

variable (codec : Http2Codec D E H) (c : Http2Connection D E H) (streamId : Nat)
variable (now : Nat) (frame : Http2Frame)

/-- `fail` and the `false` of the callers. -/
def failed (errorCode : Http2ErrorCode) (reason : String) : Bool × Http2Connection D E H :=
  (false, c.fail errorCode reason)

def failProtocol (reason : String) : Bool × Http2Connection D E H := c.failed .protocolError reason

/-- A stream number the peer used whose record may have been dropped. -/
def mayBeEvicted : Bool := streamId ≤ c.highestPeerStreamId && c.hasEvictedTerminatedStreamRecord

/-! ## DATA -/

/-- DATA on a closed stream: its bytes go back to the connection window
unless the connection fails. -/
def handleDataOnClosedStream (stream : StreamRecord) (frameByteCount : Nat) :
    Bool × Http2Connection D E H :=
  let judged := judgeFrameOnTerminatedStream stream .data
  let c := c.setStream streamId judged.2
  match judged.1 with
  | .ignore => (true, c.creditConnectionReceiveWindow frameByteCount)
  | .resetStream =>
    (true, (c.creditConnectionReceiveWindow frameByteCount).failStream
      streamId .streamClosed s!"流 {streamId} 已被对端的 RST_STREAM 终止，其后又收到 DATA：RFC 9113 §5.1「closed」段要求按流错误 STREAM_CLOSED 处理")
  | .failConnection =>
    c.failed .streamClosed s!"流 {streamId} 已正常终止（双向 END_STREAM），再收到 DATA：RFC 9113 §5.1「closed」段要求按连接错误 STREAM_CLOSED 处理"

/-- Handing DATA to the application. -/
def deliverData (payload : Http2DataPayload) (frameByteCount : Nat) : Http2Connection D E H :=
  let c := { c with
    pendingReceivedData := c.pendingReceivedData ++
      [{ streamId := streamId
         data := payload.data
         endStream := payload.endStream
         flowControlByteCount := frameByteCount }] }
  if payload.endStream then c.noteRemoteEndStream streamId else c

/-- DATA on a stream that is not closed. -/
def handleDataOnLiveStream (stream : StreamRecord) (payload : Http2DataPayload)
    (frameByteCount : Nat) : Bool × Http2Connection D E H :=
  let window := stream.receiveWindowByteCount - frameByteCount
  let c := c.setStream streamId { stream with receiveWindowByteCount := window }
  if window < 0 then
    c.failed .flowControlError s!"流 {streamId} 的接收窗口被突破：对端在窗口只剩 {window + frameByteCount} 字节时又发出了 {frameByteCount} 字节的 DATA（RFC 9113 §6.9.1）"
  else if stream.state = .halfClosedRemote then
    -- the connection window was charged above and is not credited here
    (true, c.failStream streamId .streamClosed s!"流 {streamId} 的对端已 END_STREAM（half-closed (remote)），不能再发 DATA")
  else (true, c.deliverData streamId payload frameByteCount)

def handleDataFrame : Bool × Http2Connection D E H :=
  let streamId := frame.header.streamId
  let frameByteCount := frame.header.payloadLength
  match acceptPeerStreamIdParity streamId with
  | .error errorText => c.failProtocol errorText
  | .ok () =>
    match parseHttp2DataPayload frame with
    | .error errorText => c.failProtocol errorText
    | .ok payload =>
      let window := c.connectionReceiveWindowByteCount - frameByteCount
      let c := { c with connectionReceiveWindowByteCount := window }
      if window < 0 then
        c.failed .flowControlError s!"连接级接收窗口被突破：对端在本端通告的窗口只剩 {window + frameByteCount} 字节时又发出了 {frameByteCount} 字节的 DATA（RFC 9113 §6.9.1），请检查对端的窗口记账"
      else
        match c.streams.find? streamId with
        | none =>
          if c.mayBeEvicted streamId then
            (true, c.creditConnectionReceiveWindow frameByteCount)
          else
            c.failProtocol s!"流 {streamId} 从未开启（idle），不能在该流上发 DATA（RFC 9113 §5.1）；本端已用过的最大对端流号是 {c.highestPeerStreamId}"
        | some stream =>
          if stream.state = .closed then
            c.handleDataOnClosedStream streamId stream frameByteCount
          else c.handleDataOnLiveStream streamId stream payload frameByteCount

/-! ## HEADERS and CONTINUATION -/

/-- HEADERS on a stream without a record. -/
def handleNewStreamHeaders (payload : Http2HeadersPayload) : Bool × Http2Connection D E H :=
  if streamId ≤ c.highestPeerStreamId then
    c.failProtocol s!"流号 {streamId} 不是新流（本端已用过的最大对端流号是 {c.highestPeerStreamId}）：RFC 9113 §5.1.1 要求新流的流号严格递增，请检查对端是否重用了流号"
  else if c.state = .closing then
    (c.refuseNewStream streamId s!"流 {streamId} 是连接进入关闭中之后新开的流（本端已发收尾 GOAWAY 或已收到对端 GOAWAY，RFC 9113 §6.8：GOAWAY 之后不得再开新流）").beginHeaderBlock
      codec streamId .discard payload.endStream payload.headerBlockFragment
      payload.endHeaders
  else if c.openStreamCount ≥ c.configuration.maximumConcurrentStreams then
    (c.refuseNewStream streamId s!"并发流数已达上限 {c.configuration.maximumConcurrentStreams}（SETTINGS_MAX_CONCURRENT_STREAMS，RFC 9113 §5.1.2）").beginHeaderBlock
      codec streamId .discard payload.endStream payload.headerBlockFragment
      payload.endHeaders
  else
    (c.openStream streamId).beginHeaderBlock codec streamId .request
      payload.endStream payload.headerBlockFragment payload.endHeaders

/-- HEADERS on a closed stream. -/
def handleClosedStreamHeaders (stream : StreamRecord)
    (payload : Http2HeadersPayload) : Bool × Http2Connection D E H :=
  let judged := judgeFrameOnTerminatedStream stream .headers
  let c := c.setStream streamId judged.2
  match judged.1 with
  | .failConnection =>
    c.failed .streamClosed s!"流 {streamId} 已正常终止（双向 END_STREAM），再收到 HEADERS：RFC 9113 §5.1「closed」段要求按连接错误 STREAM_CLOSED 处理"
  | .resetStream =>
    (c.failStream streamId .streamClosed s!"流 {streamId} 已被对端的 RST_STREAM 终止，其后又收到 HEADERS：RFC 9113 §5.1「closed」段要求按流错误 STREAM_CLOSED 处理").beginHeaderBlock
      codec streamId .discard payload.endStream payload.headerBlockFragment
      payload.endHeaders
  | .ignore =>
    c.beginHeaderBlock codec streamId .discard payload.endStream
      payload.headerBlockFragment payload.endHeaders

def handleHeadersFrame : Bool × Http2Connection D E H :=
  let streamId := frame.header.streamId
  match parseHttp2HeadersPayload frame with
  | .error errorText => c.failProtocol errorText
  | .ok payload =>
    match acceptPeerStreamIdParity streamId with
    | .error errorText => c.failProtocol errorText
    | .ok () =>
      match c.streams.find? streamId with
      | none => c.handleNewStreamHeaders codec streamId payload
      | some stream =>
        if stream.state = .closed then
          c.handleClosedStreamHeaders codec streamId stream payload
        else if stream.state = .halfClosedRemote then
          -- the one branch that does not hand the block to the decoder
          (true, c.failStream streamId .streamClosed s!"流 {streamId} 的对端已 END_STREAM（half-closed (remote)），不能再发 HEADERS")
        else if payload.endStream = false then
          (c.failStream streamId .protocolError s!"流 {streamId} 的第二个 HEADERS 未带 END_STREAM：尾部头块必须同时终结这条流（RFC 9113 §8.1，判为畸形报文）").beginHeaderBlock
            codec streamId .discard payload.endStream
            payload.headerBlockFragment payload.endHeaders
        else
          c.beginHeaderBlock codec streamId .trailers payload.endStream
            payload.headerBlockFragment payload.endHeaders

def handleContinuationFrame : Bool × Http2Connection D E H :=
  if !c.isAssemblingHeaderBlock then
    c.failProtocol s!"收到没有前置 HEADERS 的 CONTINUATION（流 {frame.header.streamId}）：RFC 9113 §6.10 要求它紧跟在同一个流的 HEADERS 之后"
  else
    match parseHttp2ContinuationPayload frame with
    | .error errorText => c.failProtocol errorText
    | .ok payload =>
      let appended := c.appendHeaderBlockFragment payload.headerBlockFragment
      if !appended.1 then appended
      else if payload.endHeaders then appended.2.finishHeaderBlock codec
      else appended

/-! ## Control frames -/

def handlePriorityFrame : Bool × Http2Connection D E H :=
  match acceptPeerStreamIdParity frame.header.streamId with
  | .error errorText => c.failProtocol errorText
  | .ok () => (true, c)

/-- The token bucket refills by the hundred frames a second, which is as
many thousandths of a frame for each millisecond. -/
def refillControlFrameBucket : Http2Connection D E H :=
  let elapsedMilliseconds := (now - c.controlFrameBucketRefreshedAt) / 1000000
  { c with
    controlFrameBucketRefreshedAt := now
    controlFrameBucketMilliFrames := min kControlFrameBucketCapacityMilliFrames
        (c.controlFrameBucketMilliFrames +
          elapsedMilliseconds * kControlFrameBucketRefillPerSecondFrames) }

def consumeControlFrameBudget (frameKindName : String) : Bool × Http2Connection D E H :=
  let c := c.refillControlFrameBucket now
  if c.controlFrameBucketMilliFrames < 1000 then
    c.failed .enhanceYourCalm s!"对端持续发送控制帧（{frameKindName}）越过每连接频次额度：RFC 9113 §10.5 要求跟踪并限制 PING/SETTINGS/RST_STREAM 的使用，本端按 ENHANCE_YOUR_CALM 收口（额度：容量 {kControlFrameBucketCapacityMilliFrames / 1000} 帧、每秒回填 {kControlFrameBucketRefillPerSecondFrames} 帧）"
  else
    (true, { c with
      controlFrameBucketMilliFrames := c.controlFrameBucketMilliFrames - 1000 })

def handleRstStreamFrame : Bool × Http2Connection D E H :=
  let budget := c.consumeControlFrameBudget now "RST_STREAM"
  if !budget.1 then budget
  else
    let c := budget.2
    let streamId := frame.header.streamId
    match acceptPeerStreamIdParity streamId with
    | .error errorText => c.failProtocol errorText
    | .ok () =>
      match parseHttp2RstStreamPayload frame with
      | .error errorText => c.failProtocol errorText
      | .ok _ =>
        match c.streams.find? streamId with
        | none =>
          if c.mayBeEvicted streamId then (true, c)
          else
            c.failProtocol s!"收到流 {streamId} 的 RST_STREAM，但该流从未开启（idle）：RFC 9113 §5.1 只允许在 idle 流上发 HEADERS 与 PRIORITY"
        | some _ => (true, c.terminateStream streamId .resetByPeer)

/-- The peer's first SETTINGS opens the connection. -/
def leaveAwaitingSettings : Http2Connection D E H :=
  { c with
    state := if c.state = .awaitingSettings then .open else c.state }

/-- A SETTINGS frame that is not an acknowledgement. -/
def handlePeerSettings (parameters : List Http2Setting) : Bool × Http2Connection D E H :=
  let applied := applyPeerSettings codec parameters c
  if !applied.1 then applied
  else
    let c := applied.2.appendOutgoing [.settings { isAcknowledgement := true }]
    (true, c.leaveAwaitingSettings.pumpAllSendQueues)

def handleSettingsFrame : Bool × Http2Connection D E H :=
  let budget := c.consumeControlFrameBudget now "SETTINGS"
  if !budget.1 then budget
  else
    let c := budget.2
    match parseHttp2SettingsPayload frame with
    | .error errorText => c.failProtocol errorText
    | .ok payload =>
      if payload.isAcknowledgement then
        if c.outstandingSettingsCount = 0 then
          c.failProtocol "收到多余的 SETTINGS ACK：本端没有待确认的 SETTINGS（RFC 9113 §6.5.3 规定每个 SETTINGS 只回一个 ACK）"
        else
          (true, { c with
            outstandingSettingsCount := c.outstandingSettingsCount - 1 })
      else c.handlePeerSettings codec payload.parameters

def handlePingFrame : Bool × Http2Connection D E H :=
  let budget := c.consumeControlFrameBudget now "PING"
  if !budget.1 then budget
  else
    match parseHttp2PingPayload frame with
    | .error errorText => budget.2.failProtocol errorText
    | .ok payload =>
      if payload.isAcknowledgement then (true, budget.2)
      else
        (true, budget.2.appendOutgoing [.ping ⟨true, payload.opaqueData⟩])

def handleGoAwayFrame : Bool × Http2Connection D E H :=
  match parseHttp2GoAwayPayload frame with
  | .error errorText => c.failProtocol errorText
  | .ok payload =>
    (true, { c with
      peerGoAway := some payload
      state := if c.state = .open then .closing else c.state })

def handleWindowUpdateFrame : Bool × Http2Connection D E H :=
  match parseHttp2WindowUpdatePayload frame with
  | .error errorText => c.failProtocol errorText
  | .ok windowSizeIncrement =>
    let streamId := frame.header.streamId
    if streamId = 0 then
      let raised := c.increaseConnectionSendWindow windowSizeIncrement
      if !raised.1 then raised else (true, raised.2.pumpAllSendQueues)
    else
      match acceptPeerStreamIdParity streamId with
      | .error errorText => c.failProtocol errorText
      | .ok () =>
        match c.streams.find? streamId with
        | none =>
          if c.mayBeEvicted streamId then (true, c)
          else
            c.failProtocol s!"收到流 {streamId} 的 WINDOW_UPDATE，但该流从未开启（idle）：RFC 9113 §5.1 只允许在 idle 流上发 HEADERS 与 PRIORITY"
        | some stream =>
          if stream.state = .closed then (true, c)
          else
            let raised := c.increaseStreamSendWindow streamId stream windowSizeIncrement
            if !raised.1 then (true, raised.2)
            else (true, raised.2.pumpSendQueue streamId)

/-! ## Dispatch -/

def dispatchFrame : Bool × Http2Connection D E H :=
  match frame.header.type with
  | .data => c.handleDataFrame frame
  | .headers => c.handleHeadersFrame codec frame
  | .priority => c.handlePriorityFrame frame
  | .rstStream => c.handleRstStreamFrame now frame
  | .settings => c.handleSettingsFrame codec now frame
  | .pushPromise =>
    c.failProtocol s!"收到流 {frame.header.streamId} 的 PUSH_PROMISE：RFC 9113 §8.4 只允许服务端发送推送承诺，客户端发送即连接错误"
  | .ping => c.handlePingFrame now frame
  | .goAway => c.handleGoAwayFrame frame
  | .windowUpdate => c.handleWindowUpdateFrame frame
  | .continuation => c.handleContinuationFrame codec frame
  | .undefined _ => (true, c)

def handleFrame : Bool × Http2Connection D E H :=
  if c.isAssemblingHeaderBlock then
    if frame.header.type ≠ .continuation ∨ frame.header.streamId ≠ c.pendingHeaderStreamId then
      c.failProtocol s!"流 {c.pendingHeaderStreamId} 的头块还没收完（缺 END_HEADERS），此刻收到{http2FrameTypeName frame.header.type}（流 {frame.header.streamId}）：RFC 9113 §6.10 要求 CONTINUATION 不得被任何其它帧打断"
    else c.handleContinuationFrame codec frame
  else if c.state = .awaitingSettings ∧
      (frame.header.type ≠ .settings ∨ hasFlag frame.header.flags kHttp2FlagAcknowledge) then
    c.failProtocol s!"客户端前奏之后的第一个帧必须是 SETTINGS（RFC 9113 §3.4），收到{http2FrameTypeName frame.header.type}（流 {frame.header.streamId}）"
  else c.dispatchFrame codec now frame

/-! ## The preface -/

/-- `PRI * HTTP/2.0\r\n\r\nSM\r\n\r\n`. -/
def kHttp2ConnectionPreface : Bytes :=
  [80, 82, 73, 32, 42, 32, 72, 84, 84, 80, 47, 50, 46, 48, 13, 10, 13, 10, 83, 77, 13, 10, 13, 10]

def sendInitialSettings : Http2Connection D E H :=
  { c.appendOutgoing [.settings
      { parameters :=
          [⟨headerTableSize, c.configuration.headerTableSize⟩,
            ⟨enablePush, c.configuration.enablePush⟩,
            ⟨maxConcurrentStreams, c.configuration.maximumConcurrentStreams⟩,
            ⟨initialWindowSize, c.configuration.initialWindowSize⟩,
            ⟨maxFrameSize, c.configuration.maximumFrameSize⟩,
            ⟨maxHeaderListSize, c.configuration.maximumHeaderListSize⟩,
            ⟨enableConnectProtocol, c.configuration.enableConnectProtocol⟩] }] with
    outstandingSettingsCount := 1 }

/-- A byte in two hexadecimal digits, as `{:02X}` prints it. -/
def hexByteText (byte : UInt8) : String :=
  if byte < 16 then "0" ++ hexText byte.toNat else hexText byte.toNat

/-- One byte of the preface. It is compared byte by byte, so feeding it at
once or in pieces comes to the same. -/
def feedPrefaceByte (actual : UInt8) : Http2Connection D E H :=
  if c.state ≠ .awaitingPreface then c
  else
    match kHttp2ConnectionPreface[c.prefaceByteCount]? with
    | none => c
    | some expected =>
      if actual ≠ expected then
        c.fail .protocolError s!"客户端前奏第 {c.prefaceByteCount + 1} 个字节不匹配（RFC 9113 §3.4）：应当是 0x{hexByteText expected}，实际是 0x{hexByteText actual}；前奏必须是 \"PRI * HTTP/2.0\\r\\n\\r\\nSM\\r\\n\\r\\n\"（共 24 字节）"
      else
        let c := { c with prefaceByteCount := c.prefaceByteCount + 1 }
        if c.prefaceByteCount = kHttp2ConnectionPreface.length then
          { c.sendInitialSettings with state := .awaitingSettings }
        else c

end Http2Connection

end AsynGyanis.Http2
