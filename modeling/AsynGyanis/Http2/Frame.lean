import Mathlib

/-!
# HTTP/2 frames

The frames as the connection layer sees them. Below it the frame decoder
has already cut the byte stream, checked each frame's own shape and taken
off the padding and the priority field, so a frame here has its net
payload next to the payload length its header declared. The two differ by
the padding, and flow control counts the declared one.

Outgoing frames are kept as values. The source appends their encoding to
one buffer; which frames are emitted, and in which order, is all the
connection layer decides about them.
-/

namespace AsynGyanis.Http2

abbrev Bytes := List UInt8

/-! ## Types and codes -/

inductive Http2FrameType
  | data
  | headers
  | priority
  | rstStream
  | settings
  | pushPromise
  | ping
  | goAway
  | windowUpdate
  | continuation
  /-- Any value above `kLastKnownFrameTypeValue`. -/
  | undefined (value : Nat)
  deriving DecidableEq, Repr

def http2FrameTypeName : Http2FrameType → String
  | .data => "DATA"
  | .headers => "HEADERS"
  | .priority => "PRIORITY"
  | .rstStream => "RST_STREAM"
  | .settings => "SETTINGS"
  | .pushPromise => "PUSH_PROMISE"
  | .ping => "PING"
  | .goAway => "GOAWAY"
  | .windowUpdate => "WINDOW_UPDATE"
  | .continuation => "CONTINUATION"
  | .undefined _ => "未知类型"

def Http2FrameType.value : Http2FrameType → Nat
  | .data => 0x0
  | .headers => 0x1
  | .priority => 0x2
  | .rstStream => 0x3
  | .settings => 0x4
  | .pushPromise => 0x5
  | .ping => 0x6
  | .goAway => 0x7
  | .windowUpdate => 0x8
  | .continuation => 0x9
  | .undefined value => value

inductive Http2ErrorCode
  | noError
  | protocolError
  | internalError
  | flowControlError
  | settingsTimeout
  | streamClosed
  | frameSizeError
  | refusedStream
  | cancel
  | compressionError
  | connectError
  | enhanceYourCalm
  | inadequateSecurity
  | http11Required
  /-- A peer may send any 32-bit value. -/
  | undefined (value : Nat)
  deriving DecidableEq, Repr

def Http2ErrorCode.ofValue : Nat → Http2ErrorCode
  | 0x0 => .noError
  | 0x1 => .protocolError
  | 0x2 => .internalError
  | 0x3 => .flowControlError
  | 0x4 => .settingsTimeout
  | 0x5 => .streamClosed
  | 0x6 => .frameSizeError
  | 0x7 => .refusedStream
  | 0x8 => .cancel
  | 0x9 => .compressionError
  | 0xa => .connectError
  | 0xb => .enhanceYourCalm
  | 0xc => .inadequateSecurity
  | 0xd => .http11Required
  | value => .undefined value

inductive Http2FrameErrorKind
  | none
  | protocolError
  | frameSizeError
  | limitExceeded
  deriving DecidableEq, Repr

def toHttp2ErrorCode : Http2FrameErrorKind → Http2ErrorCode
  | .none => .noError
  | .protocolError => .protocolError
  | .frameSizeError => .frameSizeError
  | .limitExceeded => .enhanceYourCalm

def kHttp2DefaultMaximumFrameSize : Nat := 16384

def kHttp2MaximumMaximumFrameSize : Nat := 0xFFFFFF

def kHttp2MaximumStreamId : Nat := 0x7FFFFFFF

def kHttp2InitialWindowSizeByteCount : Nat := 65535

def kHttp2MaximumWindowSizeByteCount : Nat := 0x7FFFFFFF

def kHttp2FlagEndStream : UInt8 := 0x1

def kHttp2FlagAcknowledge : UInt8 := 0x1

def kHttp2FlagEndHeaders : UInt8 := 0x4

namespace Http2SettingIdentifier

def headerTableSize : Nat := 0x1

def enablePush : Nat := 0x2

def maxConcurrentStreams : Nat := 0x3

def initialWindowSize : Nat := 0x4

def maxFrameSize : Nat := 0x5

def maxHeaderListSize : Nat := 0x6

def enableConnectProtocol : Nat := 0x8

end Http2SettingIdentifier

/-! ## Incoming frames -/

structure Http2FrameHeader where
  payloadLength : Nat := 0
  type : Http2FrameType := .data
  flags : UInt8 := 0
  streamId : Nat := 0
  deriving DecidableEq, Repr

structure Http2Priority where
  isExclusive : Bool := false
  streamDependency : Nat := 0
  weight : UInt8 := 0
  deriving DecidableEq, Repr

/-- The priority field counts only where there is one. -/
structure Http2Frame where
  header : Http2FrameHeader
  payload : Bytes := []
  hasPriority : Bool := false
  priority : Http2Priority := {}
  deriving DecidableEq, Repr

def hasFlag (flags mask : UInt8) : Bool := flags &&& mask ≠ 0

structure Http2Setting where
  identifier : Nat
  value : Nat
  deriving DecidableEq, Repr

structure Http2SettingsPayload where
  isAcknowledgement : Bool := false
  parameters : List Http2Setting := []
  deriving DecidableEq, Repr

structure Http2PingPayload where
  isAcknowledgement : Bool := false
  opaqueData : Bytes := []
  deriving DecidableEq, Repr

structure Http2GoAwayPayload where
  lastStreamId : Nat := 0
  errorCode : Http2ErrorCode := .noError
  debugData : Bytes := []
  deriving DecidableEq, Repr

structure Http2DataPayload where
  endStream : Bool := false
  data : Bytes := []
  deriving DecidableEq, Repr

structure Http2HeadersPayload where
  endStream : Bool := false
  endHeaders : Bool := false
  hasPriority : Bool := false
  priority : Http2Priority := {}
  headerBlockFragment : Bytes := []
  deriving DecidableEq, Repr

structure Http2ContinuationPayload where
  endHeaders : Bool := false
  headerBlockFragment : Bytes := []
  deriving DecidableEq, Repr

/-! ## Reading payloads

The handlers call each of these on a frame of the matching type only; the
checks of the type are the source's own. -/

def readBigEndian (bytes : Bytes) : Nat :=
  bytes.foldl (fun value byte => value * 256 + byte.toNat) 0

def kSettingByteCount : Nat := 6

def kPingOpaqueDataByteCount : Nat := 8

def kGoAwayFixedByteCount : Nat := 8

/-- Upper-case hexadecimal, as `{:X}` prints it. -/
def hexText (value : Nat) : String := String.ofList ((Nat.toDigits 16 value).map Char.toUpper)

/-- The parameters of a SETTINGS payload, six bytes each. -/
def readSettings : Bytes → List Http2Setting
  | i1 :: i0 :: v3 :: v2 :: v1 :: v0 :: rest =>
    ⟨readBigEndian [i1, i0], readBigEndian [v3, v2, v1, v0]⟩ :: readSettings rest
  | _ => []

variable (frame : Http2Frame)

def parseHttp2SettingsPayload : Except String Http2SettingsPayload :=
  if frame.header.type ≠ .settings then
    .error s!"这帧不是 SETTINGS（实际类型 {http2FrameTypeName frame.header.type} 0x{hexText frame.header.type.value}）：请按帧头类型分发后再调用本函数"
  else if frame.payload.length % kSettingByteCount ≠ 0 then
    .error s!"SETTINGS 负载 {frame.payload.length} 字节不是 {kSettingByteCount} 的整数倍（RFC 9113 §6.5）：参数是 16 位标识加 32 位取值，请检查对端是否截断了帧"
  else
    .ok
      { isAcknowledgement := hasFlag frame.header.flags kHttp2FlagAcknowledge
        parameters := readSettings frame.payload }

def parseHttp2PingPayload : Except String Http2PingPayload :=
  if frame.header.type ≠ .ping then
    .error s!"这帧不是 PING（实际类型 {http2FrameTypeName frame.header.type}）：请按帧头类型分发后再调用本函数"
  else if frame.payload.length ≠ kPingOpaqueDataByteCount then
    .error s!"PING 负载必须是 {kPingOpaqueDataByteCount} 字节（RFC 9113 §6.7），实际 {frame.payload.length} 字节：请检查对端是否截断了帧"
  else
    .ok
      { isAcknowledgement := hasFlag frame.header.flags kHttp2FlagAcknowledge
        opaqueData := frame.payload }

def parseHttp2GoAwayPayload : Except String Http2GoAwayPayload :=
  if frame.header.type ≠ .goAway then
    .error s!"这帧不是 GOAWAY（实际类型 {http2FrameTypeName frame.header.type}）：请按帧头类型分发后再调用本函数"
  else if frame.payload.length < kGoAwayFixedByteCount then
    .error s!"GOAWAY 负载至少 {kGoAwayFixedByteCount} 字节（RFC 9113 §6.8），实际 {frame.payload.length} 字节：请检查对端是否截断了帧"
  else
    .ok
      { lastStreamId := readBigEndian (frame.payload.take 4) % (kHttp2MaximumStreamId + 1)
        errorCode := .ofValue (readBigEndian ((frame.payload.drop 4).take 4))
        debugData := frame.payload.drop kGoAwayFixedByteCount }

def parseHttp2RstStreamPayload : Except String Http2ErrorCode :=
  if frame.header.type ≠ .rstStream then
    .error s!"这帧不是 RST_STREAM（实际类型 {http2FrameTypeName frame.header.type}）：请按帧头类型分发后再调用本函数"
  else if frame.payload.length ≠ 4 then
    .error s!"RST_STREAM 负载必须是 4 字节错误码（RFC 9113 §6.4），实际 {frame.payload.length} 字节"
  else .ok (.ofValue (readBigEndian frame.payload))

/-- The increment of a WINDOW_UPDATE, its reserved bit masked off. -/
def parseHttp2WindowUpdatePayload : Except String Nat :=
  if frame.header.type ≠ .windowUpdate then
    .error s!"这帧不是 WINDOW_UPDATE（实际类型 {http2FrameTypeName frame.header.type}）：请按帧头类型分发后再调用本函数"
  else if frame.payload.length ≠ 4 then
    .error s!"WINDOW_UPDATE 负载必须是 4 字节增量（RFC 9113 §6.9），实际 {frame.payload.length} 字节"
  else
    let windowSizeIncrement := readBigEndian frame.payload % (kHttp2MaximumStreamId + 1)
    if windowSizeIncrement = 0 then
      .error "WINDOW_UPDATE 的窗口增量不得为 0（RFC 9113 §6.9）：该帧只能用于放宽窗口，请检查对端构造"
    else .ok windowSizeIncrement

def parseHttp2DataPayload : Except String Http2DataPayload :=
  if frame.header.type ≠ .data then
    .error s!"这帧不是 DATA（实际类型 {http2FrameTypeName frame.header.type}）：请按帧头类型分发后再调用本函数"
  else
    .ok
      { endStream := hasFlag frame.header.flags kHttp2FlagEndStream
        data := frame.payload }

def parseHttp2HeadersPayload : Except String Http2HeadersPayload :=
  if frame.header.type ≠ .headers then
    .error s!"这帧不是 HEADERS（实际类型 {http2FrameTypeName frame.header.type}）：请按帧头类型分发后再调用本函数"
  else
    .ok
      { endStream := hasFlag frame.header.flags kHttp2FlagEndStream
        endHeaders := hasFlag frame.header.flags kHttp2FlagEndHeaders
        hasPriority := frame.hasPriority
        priority := frame.priority
        headerBlockFragment := frame.payload }

def parseHttp2ContinuationPayload : Except String Http2ContinuationPayload :=
  if frame.header.type ≠ .continuation then
    .error s!"这帧不是 CONTINUATION（实际类型 {http2FrameTypeName frame.header.type}）：请按帧头类型分发后再调用本函数"
  else
    .ok
      { endHeaders := hasFlag frame.header.flags kHttp2FlagEndHeaders
        headerBlockFragment := frame.payload }

/-! ## Outgoing frames -/

inductive OutgoingFrame
  | data (streamId : Nat) (payload : Bytes) (endStream : Bool)
  | headers (streamId : Nat) (fragment : Bytes) (endStream endHeaders : Bool)
  | continuation (streamId : Nat) (fragment : Bytes) (endHeaders : Bool)
  | rstStream (streamId : Nat) (errorCode : Http2ErrorCode)
  | settings (payload : Http2SettingsPayload)
  | ping (payload : Http2PingPayload)
  | goAway (payload : Http2GoAwayPayload)
  | windowUpdate (streamId : Nat) (windowSizeIncrement : Nat)
  deriving DecidableEq, Repr

/-- The CONTINUATION frames for what the HEADERS frame left over. Each
takes a byte, so as many rounds as there are bytes are enough. -/
def continuationFrames (streamId maximumFragmentByteCount : Nat) : Nat → Bytes → List OutgoingFrame
  | 0, _ => []
  | fuel + 1, block =>
    let isLastFrame := block.length ≤ maximumFragmentByteCount
    .continuation streamId (block.take maximumFragmentByteCount) isLastFrame ::
      if isLastFrame then []
      else continuationFrames streamId maximumFragmentByteCount fuel
        (block.drop maximumFragmentByteCount)

/-- The frames of one header block: END_STREAM on the first, END_HEADERS on
the last. -/
def headerBlockFrames (streamId : Nat) (headerBlock : Bytes)
    (endStream : Bool) (maximumFragmentByteCount : Nat) :
    List OutgoingFrame :=
  let isLastFrame := headerBlock.length ≤ maximumFragmentByteCount
  .headers streamId (headerBlock.take maximumFragmentByteCount) endStream
      isLastFrame ::
    if isLastFrame then []
    else continuationFrames streamId maximumFragmentByteCount
      headerBlock.length (headerBlock.drop maximumFragmentByteCount)

end AsynGyanis.Http2
