import AsynGyanis.Http2.Frame
import AsynGyanis.Library.BigEndian

/-!
# The HTTP/2 frame codec

Below the connection the frames are bytes. The encoders put one frame after
the other into the output; each refuses what its layout has no room for. The
decoder is fed whatever the network delivers: it collects the nine bytes of
a header, decides from the header alone whether the frame may go on, then
collects the payload and takes padding and priority field off it. A frame it
has made is held until it is taken, and not a byte is read before that. An
error stays until `reset`.

An encoder that refuses its argument throws; here it answers with the text
of the exception.
-/

namespace AsynGyanis.Http2

open Library

/-! ## Layout -/

def kStreamIdReservedBitMask : Nat := 0x80000000

def kPriorityFieldByteCount : Nat := 5

def kHttp2FrameHeaderByteCount : Nat := 9

def kHttp2MaximumFramePayloadByteCount : Nat := 0xFFFFFF

def kHttp2FlagPadded : UInt8 := 0x8

def kHttp2FlagPriority : UInt8 := 0x20

/-- The type a byte stands for. -/
def Http2FrameType.ofValue : Nat → Http2FrameType
  | 0x0 => .data
  | 0x1 => .headers
  | 0x2 => .priority
  | 0x3 => .rstStream
  | 0x4 => .settings
  | 0x5 => .pushPromise
  | 0x6 => .ping
  | 0x7 => .goAway
  | 0x8 => .windowUpdate
  | 0x9 => .continuation
  | value => .undefined value

def isKnownFrameType : Http2FrameType → Bool
  | .undefined _ => false
  | _ => true

def Http2ErrorCode.value : Http2ErrorCode → Nat
  | .noError => 0x0
  | .protocolError => 0x1
  | .internalError => 0x2
  | .flowControlError => 0x3
  | .settingsTimeout => 0x4
  | .streamClosed => 0x5
  | .frameSizeError => 0x6
  | .refusedStream => 0x7
  | .cancel => 0x8
  | .compressionError => 0x9
  | .connectError => 0xa
  | .enhanceYourCalm => 0xb
  | .inadequateSecurity => 0xc
  | .http11Required => 0xd
  | .undefined value => value

/-! ## Encoders -/

def appendPriorityField (body : Bytes) (priority : Http2Priority) : Bytes := body ++ toBigEndian 4
    (priority.streamDependency % (kHttp2MaximumStreamId + 1) |||
      if priority.isExclusive then kStreamIdReservedBitMask else 0) ++
    [priority.weight]

/-- The reason to refuse a priority field, if there is one. -/
def rejectSelfDependency (streamDependency streamId : Nat) : Option String :=
  if streamDependency = streamId then
    some s!"优先级字段的父流号等于自身流号 {streamId}（RFC 7540 §5.3.1 禁止流依赖自己）：请改指另一条流，或去掉优先级字段"
  else none

def headersFrameFlags (endStream endHeaders hasPriority : Bool) : UInt8 :=
  (if endStream then kHttp2FlagEndStream else 0) |||
    (if endHeaders then kHttp2FlagEndHeaders else 0) |||
    (if hasPriority then kHttp2FlagPriority else 0)

def encodeHttp2FrameHeader (header : Http2FrameHeader) : Except String Bytes :=
  if header.payloadLength > kHttp2MaximumFramePayloadByteCount then
    .error s!"帧负载长度 {header.payloadLength} 字节超出 24 位长度域可表示的范围 {kHttp2MaximumFramePayloadByteCount} 字节（RFC 9113 §4.1）：请把数据拆成多条帧"
  else if header.streamId > kHttp2MaximumStreamId then
    .error s!"流号 {header.streamId} 超出 31 位可表示的范围 {kHttp2MaximumStreamId}（RFC 9113 §4.1 要求 R 位为 0）：连接级帧请传 0，流级帧请传 1 到 {kHttp2MaximumStreamId}"
  else if !isKnownFrameType header.type then
    .error s!"帧类型 0x{hexText header.type.value} 未定义（RFC 9113 §6 只定义了 0x0 到 0x9）：请改用已定义的类型"
  else
    .ok (toBigEndian 3 header.payloadLength ++ [UInt8.ofNat header.type.value, header.flags] ++
      toBigEndian 4 header.streamId)

def appendHttp2Frame (bytes : Bytes) (type : Http2FrameType) (flags : UInt8)
    (streamId : Nat) (payload : Bytes) : Except String Bytes :=
  if payload.length > kHttp2MaximumFramePayloadByteCount then
    .error s!"帧负载 {payload.length} 字节超出 24 位长度域可表示的范围 {kHttp2MaximumFramePayloadByteCount} 字节（RFC 9113 §4.1）：请把数据拆成多条帧"
  else
    match encodeHttp2FrameHeader ⟨payload.length, type, flags, streamId⟩ with
    | .error reason => .error reason
    | .ok headerBytes => .ok (bytes ++ headerBytes ++ payload)

def encodeHttp2Frame (type : Http2FrameType) (flags : UInt8) (streamId : Nat)
    (payload : Bytes) : Except String Bytes :=
  appendHttp2Frame [] type flags streamId payload

def encodeHttp2SettingsFrame (payload : Http2SettingsPayload) : Except String Bytes :=
  if payload.isAcknowledgement && !payload.parameters.isEmpty then
    .error s!"SETTINGS 的 ACK 帧负载必须为空（RFC 9113 §6.5），本次带了 {payload.parameters.length} 个参数：请把参数放在不带 ACK 的 SETTINGS 帧里发送"
  else
    encodeHttp2Frame .settings (if payload.isAcknowledgement then kHttp2FlagAcknowledge else 0) 0
      (payload.parameters.flatMap fun setting =>
        toBigEndian 2 setting.identifier ++ toBigEndian 4 setting.value)

def encodeHttp2PingFrame (payload : Http2PingPayload) : Except String Bytes :=
  encodeHttp2Frame .ping (if payload.isAcknowledgement then kHttp2FlagAcknowledge else 0) 0
    payload.opaqueData

def encodeHttp2GoAwayFrame (payload : Http2GoAwayPayload) : Except String Bytes :=
  if payload.lastStreamId > kHttp2MaximumStreamId then
    .error s!"GOAWAY 的最后流号 {payload.lastStreamId} 超出 31 位可表示的范围 {kHttp2MaximumStreamId}（RFC 9113 §6.8）：没有处理过任何流时请传 0"
  else
    encodeHttp2Frame .goAway 0 0 (toBigEndian 4 payload.lastStreamId ++
      toBigEndian 4 payload.errorCode.value ++ payload.debugData)

def encodeHttp2RstStreamFrame (errorCode : Http2ErrorCode) (streamId : Nat) : Except String Bytes :=
  if streamId = 0 then
    .error "RST_STREAM 必须关联到一条流（RFC 9113 §6.4 要求流号非 0）：流号 0 是连接级，终止整条连接请改用 GOAWAY"
  else encodeHttp2Frame .rstStream 0 streamId (toBigEndian 4 errorCode.value)

def encodeHttp2WindowUpdateFrame (windowSizeIncrement streamId : Nat) : Except String Bytes :=
  if windowSizeIncrement = 0 then
    .error "WINDOW_UPDATE 的窗口增量不得为 0（RFC 9113 §6.9）：不需要调整窗口就别发这一帧"
  else if windowSizeIncrement > kHttp2MaximumStreamId then
    .error s!"窗口增量 {windowSizeIncrement} 超出 31 位可表示的范围 {kHttp2MaximumStreamId}（RFC 9113 §6.9）：请减小增量"
  else
    encodeHttp2Frame .windowUpdate 0 streamId (toBigEndian 4 windowSizeIncrement)

def encodeHttp2DataFrame (payload : Http2DataPayload) (streamId : Nat) : Except String Bytes :=
  if streamId = 0 then
    .error "DATA 必须关联到一条流（RFC 9113 §6.1 要求流号非 0）：连接级帧只能是 SETTINGS/PING/GOAWAY 这类不带应用数据的类型"
  else
    encodeHttp2Frame .data (if payload.endStream then kHttp2FlagEndStream else 0) streamId
      payload.data

def appendHeadersFrameOnStream (bytes body : Bytes)
    (endStream endHeaders hasPriority : Bool) (streamId : Nat) :
    Except String Bytes :=
  if streamId = 0 then
    .error "HEADERS 必须关联到一条流（RFC 9113 §6.2 要求流号非 0）：连接级帧只能是 SETTINGS/PING/GOAWAY 这类不带头块的类型"
  else
    appendHttp2Frame bytes .headers
      (headersFrameFlags endStream endHeaders hasPriority) streamId body

def appendHttp2HeadersFrame (bytes headerBlockFragment : Bytes)
    (endStream endHeaders : Bool) (streamId : Nat) : Except String Bytes :=
  appendHeadersFrameOnStream bytes headerBlockFragment endStream endHeaders false streamId

def encodeHttp2HeadersFrame (payload : Http2HeadersPayload) (streamId : Nat) :
    Except String Bytes :=
  if !payload.hasPriority then
    appendHttp2HeadersFrame [] payload.headerBlockFragment payload.endStream
      payload.endHeaders streamId
  else
    match rejectSelfDependency payload.priority.streamDependency streamId with
    | some reason => .error reason
    | none =>
      appendHeadersFrameOnStream []
        (appendPriorityField [] payload.priority ++ payload.headerBlockFragment)
        payload.endStream payload.endHeaders true streamId

def encodeHttp2ContinuationFrame (payload : Http2ContinuationPayload)
    (streamId : Nat) : Except String Bytes :=
  if streamId = 0 then
    .error "CONTINUATION 必须关联到一条流（RFC 9113 §6.10 要求流号非 0）：它只能续在同一条流的 HEADERS 之后"
  else
    encodeHttp2Frame .continuation (if payload.endHeaders then kHttp2FlagEndHeaders else 0) streamId
      payload.headerBlockFragment

def encodeHttp2PriorityFrame (priority : Http2Priority) (streamId : Nat) : Except String Bytes :=
  if streamId = 0 then
    .error "PRIORITY 必须关联到一条流（RFC 9113 §6.3 要求流号非 0）：流优先级只对具体的流有意义"
  else
    match rejectSelfDependency priority.streamDependency streamId with
    | some reason => .error reason
    | none =>
      encodeHttp2Frame .priority 0 streamId (appendPriorityField [] priority)

/-! ## Decoder -/

def decodeHttp2FrameHeader (bytes : Bytes) : Except String Http2FrameHeader :=
  if bytes.length < kHttp2FrameHeaderByteCount then
    .error s!"帧头需要 {kHttp2FrameHeaderByteCount} 字节，只收到 {bytes.length} 字节：请先把帧头读满再解（增量解码请用 Http2FrameDecoder）"
  else
    .ok
      { payloadLength := readBigEndian (bytes.take 3)
        type := .ofValue (bytes.getD 3 0).toNat
        flags := bytes.getD 4 0
        streamId := readBigEndian ((bytes.drop 5).take 4) % (kHttp2MaximumStreamId + 1) }

structure Http2FrameLimits where
  maximumFrameSizeByteCount : Nat := kHttp2DefaultMaximumFrameSize
  /-- No limit when 0. -/
  maximumTotalConsumedByteCount : Nat := 0
  deriving DecidableEq, Repr

inductive Http2FrameDecodeStatus
  | needMore
  | frame
  | error
  deriving DecidableEq, Repr

inductive Http2FrameDecoderStage
  | frameHeader
  | payload
  | failed
  deriving DecidableEq, Repr

structure Http2FrameFailure where
  kind : Http2FrameErrorKind
  reason : String
  deriving DecidableEq, Repr

/-- The header bytes and the payload seen so far stand for their counts as
well. -/
structure Http2FrameDecoder where
  limits : Http2FrameLimits
  stage : Http2FrameDecoderStage := .frameHeader
  headerBytes : Bytes := []
  currentHeader : Http2FrameHeader := {}
  payloadBuffer : Bytes := []
  isCurrentFramePriority : Bool := false
  pendingFrame : Option Http2Frame := none
  errorKind : Http2FrameErrorKind := .none
  errorMessage : String := ""
  consumedByteCount : Nat := 0
  totalConsumedByteCount : Nat := 0
  deriving DecidableEq, Repr

/-- What the header alone rules out. -/
def acceptFrameShape (header : Http2FrameHeader) : Except Http2FrameFailure Unit :=
  let isOnStream := header.streamId ≠ 0
  match header.type with
  | .data =>
    if ¬ isOnStream then
      .error ⟨.protocolError, "DATA 帧的流号必须非 0（RFC 9113 §6.1）：流号 0 只用于连接级帧，请检查对端构造"⟩
    else .ok ()
  | .headers =>
    if ¬ isOnStream then
      .error ⟨.protocolError, "HEADERS 帧的流号必须非 0（RFC 9113 §6.2）：流号 0 只用于连接级帧，请检查对端构造"⟩
    else .ok ()
  | .priority =>
    if ¬ isOnStream then
      .error ⟨.protocolError, "PRIORITY 帧的流号必须非 0（RFC 9113 §6.3）"⟩
    else if header.payloadLength ≠ kPriorityFieldByteCount then
      .error ⟨.frameSizeError,
        s!"PRIORITY 帧负载必须是 {kPriorityFieldByteCount} 字节（RFC 9113 §6.3），声明了 {header.payloadLength} 字节"⟩
    else .ok ()
  | .rstStream =>
    if ¬ isOnStream then
      .error ⟨.protocolError, "RST_STREAM 帧的流号必须非 0（RFC 9113 §6.4）"⟩
    else if header.payloadLength ≠ 4 then
      .error ⟨.frameSizeError,
        s!"RST_STREAM 帧负载必须是 4 字节错误码（RFC 9113 §6.4），声明了 {header.payloadLength} 字节"⟩
    else .ok ()
  | .settings =>
    if isOnStream then
      .error ⟨.protocolError, s!"SETTINGS 帧是连接级帧，流号必须为 0（RFC 9113 §6.5），收到流号 {header.streamId}"⟩
    else if hasFlag header.flags kHttp2FlagAcknowledge ∧ header.payloadLength ≠ 0 then
      .error ⟨.frameSizeError,
        s!"带 ACK 的 SETTINGS 帧负载必须为空（RFC 9113 §6.5），声明了 {header.payloadLength} 字节"⟩
    else if header.payloadLength % kSettingByteCount ≠ 0 then
      .error ⟨.frameSizeError,
        s!"SETTINGS 帧负载长度必须是 {kSettingByteCount} 的整数倍（RFC 9113 §6.5），声明了 {header.payloadLength} 字节"⟩
    else .ok ()
  | .ping =>
    if isOnStream then
      .error ⟨.protocolError, s!"PING 帧是连接级帧，流号必须为 0（RFC 9113 §6.7），收到流号 {header.streamId}"⟩
    else if header.payloadLength ≠ kPingOpaqueDataByteCount then
      .error ⟨.frameSizeError,
        s!"PING 帧负载必须是 {kPingOpaqueDataByteCount} 字节（RFC 9113 §6.7），声明了 {header.payloadLength} 字节"⟩
    else .ok ()
  | .goAway =>
    if isOnStream then
      .error ⟨.protocolError, s!"GOAWAY 帧是连接级帧，流号必须为 0（RFC 9113 §6.8），收到流号 {header.streamId}"⟩
    else if header.payloadLength < kGoAwayFixedByteCount then
      .error ⟨.frameSizeError,
        s!"GOAWAY 帧负载至少 {kGoAwayFixedByteCount} 字节（RFC 9113 §6.8），声明了 {header.payloadLength} 字节"⟩
    else .ok ()
  | .windowUpdate =>
    if header.payloadLength ≠ 4 then
      .error ⟨.frameSizeError,
        s!"WINDOW_UPDATE 帧负载必须是 4 字节增量（RFC 9113 §6.9），声明了 {header.payloadLength} 字节"⟩
    else .ok ()
  | .continuation =>
    if ¬ isOnStream then
      .error ⟨.protocolError, "CONTINUATION 帧的流号必须非 0（RFC 9113 §6.10）：它只能续在同一条流的 HEADERS 之后"⟩
    else .ok ()
  -- PUSH_PROMISE is not interpreted here, like the types to come
  | .pushPromise | .undefined _ => .ok ()

/-- The five bytes of a priority field on a frame of a stream. -/
def acceptPriorityField (streamId : Nat) (bytes : Bytes) : Except Http2FrameFailure Http2Priority :=
  let dependencyField := readBigEndian (bytes.take 4)
  let streamDependency := dependencyField % (kHttp2MaximumStreamId + 1)
  if streamDependency = streamId then
    .error ⟨.protocolError, s!"优先级字段的父流号等于本帧流号 {streamId}（RFC 7540 §5.3.1 禁止流依赖自己）：请检查对端构造"⟩
  else
    .ok
      { isExclusive := dependencyField.testBit 31
        streamDependency := streamDependency
        weight := bytes.getD 4 0 }

def isPaddedFrame (header : Http2FrameHeader) : Bool :=
  (header.type == .data || header.type == .headers) && hasFlag header.flags kHttp2FlagPadded

/-- The frame of a payload that is complete: padding and priority field come
off. -/
def completedFrame (header : Http2FrameHeader) (isPriority : Bool)
    (rawPayload : Bytes) : Except Http2FrameFailure Http2Frame :=
  let isPadded := isPaddedFrame header
  let paddingLength := if isPadded then (rawPayload.headD 0).toNat else 0
  if isPadded && rawPayload.isEmpty then
    .error ⟨.protocolError, "置了 PADDED 位却没有填充长度字节（RFC 9113 §6.1 要求 PADDED 帧的负载至少 1 字节）：请检查对端构造"⟩
  else if isPadded && paddingLength ≥ rawPayload.length then
    .error ⟨.protocolError,
      s!"置了 PADDED 位的帧里，填充长度 {paddingLength} 不小于负载长度 {rawPayload.length}（RFC 9113 §6.1 要求填充短于负载）：请检查对端构造"⟩
  else
    let bodyBegin := if isPadded then 1 else 0
    let bodyEnd := rawPayload.length - paddingLength
    if isPriority && bodyEnd < bodyBegin + kPriorityFieldByteCount then
      .error ⟨.frameSizeError,
        s!"{http2FrameTypeName header.type} 帧置了 PRIORITY 位，但剥掉 padding 后不足 {kPriorityFieldByteCount} 字节的优先级字段（RFC 9113 §6.2）：请检查对端构造"⟩
    else
      let finish (bodyBegin : Nat) (hasPriority : Bool)
          (priority : Http2Priority) : Except Http2FrameFailure Http2Frame :=
        if header.type = .windowUpdate ∧ readBigEndian (rawPayload.take 4) %
            (kHttp2MaximumStreamId + 1) = 0 then
          .error ⟨.protocolError,
            s!"WINDOW_UPDATE 的窗口增量不得为 0（RFC 9113 §6.9）：流号 {header.streamId} 上的这一帧只能放宽窗口，请检查对端构造"⟩
        else
          .ok
            { header := header
              payload := (rawPayload.drop bodyBegin).take (bodyEnd - bodyBegin)
              hasPriority := hasPriority
              priority := priority }
      if isPriority then
        match acceptPriorityField header.streamId
          ((rawPayload.drop bodyBegin).take kPriorityFieldByteCount) with
        | .error failure => .error failure
        | .ok priority =>
          finish (bodyBegin + kPriorityFieldByteCount) true priority
      else finish bodyBegin false {}

namespace Http2FrameDecoder

def create (limits : Http2FrameLimits) : Except String Http2FrameDecoder :=
  if limits.maximumFrameSizeByteCount < kHttp2DefaultMaximumFrameSize ∨
      limits.maximumFrameSizeByteCount > kHttp2MaximumMaximumFrameSize then
    .error s!"Http2FrameDecoder：单帧负载上限 {limits.maximumFrameSizeByteCount} 不在 SETTINGS_MAX_FRAME_SIZE 的合法区间 [{kHttp2DefaultMaximumFrameSize}, {kHttp2MaximumMaximumFrameSize}] 内（RFC 9113 §6.5.2）：请改用区间内的取值，缺省值 {kHttp2DefaultMaximumFrameSize} 即规范的初始值"
  else .ok { limits := limits }

variable (d : Http2FrameDecoder)

def recordFailure (failure : Http2FrameFailure) :
    Http2FrameDecoder :=
  { d with
    errorKind := failure.kind
    errorMessage := "HTTP/2 帧解码失败：" ++ failure.reason
    stage := .failed }

def acceptFrameHeader : Http2FrameDecoder :=
  match decodeHttp2FrameHeader d.headerBytes with
  | .error reason => d.recordFailure ⟨.protocolError, reason⟩
  | .ok header =>
    if header.payloadLength > d.limits.maximumFrameSizeByteCount then
      d.recordFailure ⟨.frameSizeError,
        s!"帧负载声明 {header.payloadLength} 字节超出本端通告的 SETTINGS_MAX_FRAME_SIZE {d.limits.maximumFrameSizeByteCount} 字节（RFC 9113 §4.2）：请让对端把数据拆到多条帧里，或调高 Http2FrameLimits::maximumFrameSizeByteCount"⟩
    else
      match acceptFrameShape header with
      | .error failure => d.recordFailure failure
      | .ok () =>
        { d with
          currentHeader := header
          payloadBuffer := []
          isCurrentFramePriority := header.type == .priority ||
            header.type == .headers && hasFlag header.flags kHttp2FlagPriority
          stage := .payload }

def completeFrame : Http2FrameDecoder :=
  match completedFrame d.currentHeader d.isCurrentFramePriority d.payloadBuffer with
  | .error failure => d.recordFailure failure
  | .ok frame =>
    { d with
      pendingFrame := some frame
      headerBytes := []
      currentHeader := {}
      isCurrentFramePriority := false
      stage := .frameHeader }

/-- The payload is complete as soon as its last byte is there. -/
def completeIfFull : Http2FrameDecoder :=
  if d.payloadBuffer.length = d.currentHeader.payloadLength then
    d.completeFrame
  else d

/-- One more byte of a header. -/
def takeHeaderByte (byte : UInt8) :
    Http2FrameDecoder :=
  let d := { d with
    headerBytes := d.headerBytes ++ [byte]
    totalConsumedByteCount := d.totalConsumedByteCount + 1 }
  if d.headerBytes.length < kHttp2FrameHeaderByteCount then d
  else
    let d := d.acceptFrameHeader
    -- an empty payload is complete with its header
    if d.stage = .payload ∧ d.currentHeader.payloadLength = 0 then
      d.completeFrame
    else d

/-- Payload that is there. -/
def takePayload (chunk : Bytes) : Http2FrameDecoder :=
  { d with
    payloadBuffer := d.payloadBuffer ++ chunk
    totalConsumedByteCount := d.totalConsumedByteCount + chunk.length }.completeIfFull

def isStopped : Bool := d.stage == .failed || d.pendingFrame.isSome

def isOverTotal : Bool := d.limits.maximumTotalConsumedByteCount != 0 &&
    d.totalConsumedByteCount ≥ d.limits.maximumTotalConsumedByteCount

def failOverTotal : Http2FrameDecoder :=
  d.recordFailure ⟨.limitExceeded,
    s!"累计读取 {d.totalConsumedByteCount} 字节已达上限 {d.limits.maximumTotalConsumedByteCount} 字节：请结束这条连接并按 ENHANCE_YOUR_CALM 收场，或调高 Http2FrameLimits::maximumTotalConsumedByteCount"⟩

/-- What is left of the data, and the decoder after the rest. Each round
takes a byte at least, so as many rounds as there are bytes are enough. -/
def consume : Nat → Bytes → Http2FrameDecoder → Bytes × Http2FrameDecoder
  | 0, data, d => (data, d)
  | rounds + 1, data, d =>
    match data with
    | [] => ([], d)
    | byte :: rest =>
      if d.isStopped then (data, d)
      else if d.isOverTotal then (data, d.failOverTotal)
      else if d.stage = .frameHeader then
        consume rounds rest (d.takeHeaderByte byte)
      else
        let chunkLength := min (d.currentHeader.payloadLength - d.payloadBuffer.length) data.length
        let chunkLength :=
          if d.limits.maximumTotalConsumedByteCount ≠ 0 then
            min chunkLength (d.limits.maximumTotalConsumedByteCount - d.totalConsumedByteCount)
          else chunkLength
        consume rounds (data.drop chunkLength) (d.takePayload (data.take chunkLength))

def parse (data : Bytes) : Http2FrameDecodeStatus × Http2FrameDecoder :=
  if d.pendingFrame.isSome then (.frame, { d with consumedByteCount := 0 })
  else if d.stage = .failed then (.error, { d with consumedByteCount := 0 })
  else
    let (left, d) := consume data.length data d
    let d := { d with consumedByteCount := data.length - left.length }
    if d.stage = .failed then (.error, d)
    else if d.pendingFrame.isSome then (.frame, d)
    else (.needMore, d)

def takeFrame (d : Http2FrameDecoder) : Except String Http2Frame × Http2FrameDecoder :=
  match d.pendingFrame with
  | none =>
    (.error "HTTP/2 帧解码器：当前没有待取走的帧，请先等 parse() 返回 Frame 再调用 takeFrame()", d)
  | some frame => (.ok frame, { d with pendingFrame := none })

def reset : Http2FrameDecoder := { limits := d.limits }

end Http2FrameDecoder

end AsynGyanis.Http2
