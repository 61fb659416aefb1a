import AsynGyanis.Quic.Codec.VariableLengthInteger

/-!
# HTTP/3 frames

A frame is its type, the length of its payload and the payload, the first
two as QUIC variable-length integers. The reader keeps the bytes that have
arrived and not been read, hands out the frames that are complete and stops
for good at the first it cannot take. The source keeps bytes already read in
front of the buffer until half of it is behind; here they are gone at once,
since nothing looks at them again.

A frame type the layer does not know is a frame like any other, with the
bytes as they came. The four types HTTP/2 once used are among those: it is
the connection that refuses them.
-/

namespace AsynGyanis.Http3

open Quic

/-! ## Types -/

def kHttp3ReservedExtensionIdentifierStride : Nat := 0x1f

def kHttp3ReservedExtensionIdentifierBase : Nat := 0x21

def isHttp3ReservedExtensionIdentifier (value : Nat) : Bool :=
  value ≥ kHttp3ReservedExtensionIdentifierBase && (value - kHttp3ReservedExtensionIdentifierBase) %
      kHttp3ReservedExtensionIdentifierStride == 0

inductive Http3FrameType
  | data
  | headers
  | cancelPush
  | settings
  | pushPromise
  | goAway
  | maxPushId
  deriving DecidableEq, Repr

def Http3FrameType.value : Http3FrameType → Nat
  | .data => 0x00
  | .headers => 0x01
  | .cancelPush => 0x03
  | .settings => 0x04
  | .pushPromise => 0x05
  | .goAway => 0x07
  | .maxPushId => 0x0d

inductive Http3StreamType
  | control
  | push
  | qpackEncoder
  | qpackDecoder
  deriving DecidableEq, Repr

def Http3StreamType.value : Http3StreamType → Nat
  | .control => 0x00
  | .push => 0x01
  | .qpackEncoder => 0x02
  | .qpackDecoder => 0x03

/-- The type a value names, if the layer knows it. -/
def Http3StreamType.ofValue? : Nat → Option Http3StreamType
  | 0x00 => some .control
  | 0x01 => some .push
  | 0x02 => some .qpackEncoder
  | 0x03 => some .qpackDecoder
  | _ => none

inductive Http3SettingId
  | qpackMaxTableCapacity
  | maxFieldSectionSize
  | qpackBlockedStreams
  | enableConnectProtocol
  deriving DecidableEq, Repr

def Http3SettingId.value : Http3SettingId → Nat
  | .qpackMaxTableCapacity => 0x01
  | .maxFieldSectionSize => 0x06
  | .qpackBlockedStreams => 0x07
  | .enableConnectProtocol => 0x08

def http3SettingIdFromValue : Nat → Option Http3SettingId
  | 0x01 => some .qpackMaxTableCapacity
  | 0x06 => some .maxFieldSectionSize
  | 0x07 => some .qpackBlockedStreams
  | 0x08 => some .enableConnectProtocol
  | _ => none

inductive Http3FrameErrorKind
  | malformed
  | limitExceeded
  deriving DecidableEq, Repr

structure Http3FrameError where
  kind : Http3FrameErrorKind
  message : String
  deriving DecidableEq, Repr

structure Http3UnknownSetting where
  identifier : Nat
  value : Nat
  deriving DecidableEq, Repr

inductive Http3Frame
  | data (payload : Bytes)
  | headers (encodedFieldSection : Bytes)
  | cancelPush (pushId : Nat)
  | settings (settings : List (Http3SettingId × Nat)) (unknownSettings : List Http3UnknownSetting)
  | pushPromise (pushId : Nat) (encodedFieldSection : Bytes)
  | goAway (streamIdOrPushId : Nat)
  | maxPushId (pushId : Nat)
  | unknown (frameType : Nat) (payload : Bytes)
  deriving DecidableEq, Repr

def http3FrameTypeName : Nat → String
  | 0x00 => "DATA"
  | 0x01 => "HEADERS"
  | 0x03 => "CANCEL_PUSH"
  | 0x04 => "SETTINGS"
  | 0x05 => "PUSH_PROMISE"
  | 0x07 => "GOAWAY"
  | 0x0d => "MAX_PUSH_ID"
  | _ => "未知帧类型"

def http3FrameTypeValue : Http3Frame → Nat
  | .data _ => 0x00
  | .headers _ => 0x01
  | .cancelPush _ => 0x03
  | .settings _ _ => 0x04
  | .pushPromise _ _ => 0x05
  | .goAway _ => 0x07
  | .maxPushId _ => 0x0d
  | .unknown frameType _ => frameType

/-! ## Payloads -/

/-- The read position inside one payload. -/
structure PayloadCursor where
  frameTypeValue : Nat
  payload : Bytes
  offset : Nat := 0

namespace PayloadCursor

def remaining (cursor : PayloadCursor) : Bytes := cursor.payload.drop cursor.offset

def makeError (cursor : PayloadCursor) (detail : String) : Http3FrameError where
  kind := .malformed
  message := s!"{http3FrameTypeName cursor.frameTypeValue}帧（声明长度 {cursor.payload.length} 字节）：{detail}"

def readInteger (cursor : PayloadCursor) (fieldName : String) :
    Except Http3FrameError (Nat × PayloadCursor) :=
  match decodeQuicVariableLengthInteger cursor.remaining with
  | .error _ =>
    .error (cursor.makeError s!"{fieldName} 字段越出载荷末尾：声明长度 {cursor.payload.length} 字节内只剩 {cursor.remaining.length} 字节可读，按 RFC 9114 §7.1 判 H3_FRAME_ERROR")
  | .ok decoded =>
    .ok (decoded.value, { cursor with offset := cursor.offset + decoded.byteCount })

def requireFieldsEnd (cursor : PayloadCursor) (fieldName : String) : Except Http3FrameError Unit :=
  if cursor.remaining.isEmpty then .ok ()
  else
    .error (cursor.makeError s!"{fieldName} 字段之后还剩 {cursor.remaining.length} 字节没被任何字段占用：§7.2 要求载荷恰好由该帧定义的字段组成（RFC 9114 §7.1 判 H3_FRAME_ERROR）")

end PayloadCursor

def readSoleInteger (cursor : PayloadCursor) (fieldName : String) : Except Http3FrameError Nat := do
  let (value, cursor) ← cursor.readInteger fieldName
  cursor.requireFieldsEnd fieldName
  return value

/-- The settings of a payload, known ones and others, in their order. Each
takes two bytes at least, so as many rounds as there are bytes are enough. -/
def readSettings : Nat → PayloadCursor → List (Http3SettingId × Nat) →
    List Http3UnknownSetting → Except Http3FrameError
        (List (Http3SettingId × Nat) × List Http3UnknownSetting)
  | 0, _, settings, unknownSettings => .ok (settings, unknownSettings)
  | rounds + 1, cursor, settings, unknownSettings =>
    if cursor.remaining.isEmpty then .ok (settings, unknownSettings)
    else do
      let (identifier, cursor) ← cursor.readInteger "设置项标识"
      let (value, cursor) ← cursor.readInteger "设置项的值"
      match http3SettingIdFromValue identifier with
      | some known =>
        readSettings rounds cursor (settings ++ [(known, value)]) unknownSettings
      | none =>
        readSettings rounds cursor settings
          (unknownSettings ++ [{ identifier := identifier, value := value }])

def decodeHttp3FramePayload (frameTypeValue : Nat) (payload : Bytes) :
    Except Http3FrameError Http3Frame :=
  let cursor : PayloadCursor := { frameTypeValue := frameTypeValue, payload := payload }
  match frameTypeValue with
  | 0x00 => .ok (.data payload)
  | 0x01 => .ok (.headers payload)
  | 0x03 => .cancelPush <$> readSoleInteger cursor "Push ID"
  | 0x04 => do
    let (settings, unknownSettings) ← readSettings payload.length cursor [] []
    return .settings settings unknownSettings
  | 0x05 => do
    let (pushId, cursor) ← cursor.readInteger "Push ID"
    return .pushPromise pushId cursor.remaining
  | 0x07 => .goAway <$> readSoleInteger cursor "Stream ID/Push ID"
  | 0x0d => .maxPushId <$> readSoleInteger cursor "Push ID"
  | _ => .ok (.unknown frameTypeValue payload)

/-! ## Writing

Buffers are shorter than 2^62 bytes and a connection writes no other
integer above that, so writing always succeeds. -/

def framePayload : Http3Frame → Bytes
  | .data payload => payload
  | .headers encodedFieldSection => encodedFieldSection
  | .cancelPush pushId => quicIntegerBytes pushId
  | .settings settings unknownSettings =>
    (settings.flatMap fun (identifier, value) =>
      quicIntegerBytes identifier.value ++ quicIntegerBytes value) ++
    unknownSettings.flatMap fun setting =>
      quicIntegerBytes setting.identifier ++ quicIntegerBytes setting.value
  | .pushPromise pushId encodedFieldSection =>
    quicIntegerBytes pushId ++ encodedFieldSection
  | .goAway streamIdOrPushId => quicIntegerBytes streamIdOrPushId
  | .maxPushId pushId => quicIntegerBytes pushId
  | .unknown _ payload => payload

def appendHttp3Frame (bytes : Bytes) (frame : Http3Frame) : Bytes :=
  let payload := framePayload frame
  bytes ++ quicIntegerBytes (http3FrameTypeValue frame) ++
    quicIntegerBytes payload.length ++ payload

def appendHttp3FrameWithPayload (bytes : Bytes) (frameType : Http3FrameType)
    (payload : Bytes) : Bytes :=
  bytes ++ quicIntegerBytes frameType.value ++ quicIntegerBytes payload.length ++ payload

def appendHttp3StreamTypeHeader (bytes : Bytes) (streamType : Http3StreamType) : Bytes :=
  bytes ++ quicIntegerBytes streamType.value

/-! ## The reader -/

structure Http3FrameReader where
  /-- What has arrived and not been read. -/
  buffer : Bytes := []
  maximumFrameByteCount : Nat
  stickyError : Option Http3FrameError := none
  deriving DecidableEq

namespace Http3FrameReader

def pendingByteCount (reader : Http3FrameReader) : Nat := reader.buffer.length

def latchError (reader : Http3FrameReader) (error : Http3FrameError) :
    Http3FrameReader :=
  { reader with stickyError := some error }

def feed (reader : Http3FrameReader) (newBytes : Bytes) :
    Option Http3FrameError × Http3FrameReader :=
  match reader.stickyError with
  | some error => (some error, reader)
  | none =>
    if newBytes.length > reader.maximumFrameByteCount then
      let error : Http3FrameError :=
        { kind := .limitExceeded
          message := s!"本次喂入 {newBytes.length} 字节，超过单帧上限 {reader.maximumFrameByteCount} 字节：请按不超过上限的块切好再喂（RFC 9114 §10.5 的过量负载防护）" }
      (some error, reader.latchError error)
    else (none, { reader with buffer := reader.buffer ++ newBytes })

/-- The next frame if all of it is here, nothing if it is not. -/
def nextFrame (reader : Http3FrameReader) :
    Except Http3FrameError (Option Http3Frame) × Http3FrameReader :=
  match reader.stickyError with
  | some error => (.error error, reader)
  | none =>
    match decodeQuicVariableLengthInteger reader.buffer with
    | .error _ => (.ok none, reader)
    | .ok frameType =>
      match decodeQuicVariableLengthInteger (reader.buffer.drop frameType.byteCount) with
      | .error _ => (.ok none, reader)
      | .ok length =>
        let headerByteCount := frameType.byteCount + length.byteCount
        let declaredFrameByteCount := headerByteCount + length.value
        if declaredFrameByteCount > reader.maximumFrameByteCount then
          let error : Http3FrameError :=
            { kind := .limitExceeded
              message := s!"{http3FrameTypeName frameType.value}帧声明载荷 {length.value} 字节，加上 {headerByteCount} 字节帧头超过单帧上限 {reader.maximumFrameByteCount} 字节（RFC 9114 §10.8 要求长度自洽，本端不接受超上限的帧）" }
          (.error error, reader.latchError error)
        else if reader.buffer.length < declaredFrameByteCount then
          (.ok none, reader)
        else
          let payload := (reader.buffer.drop headerByteCount).take length.value
          match decodeHttp3FramePayload frameType.value payload with
          | .error error => (.error error, reader.latchError error)
          | .ok frame =>
            (.ok (some frame),
              { reader with
                buffer := reader.buffer.drop declaredFrameByteCount })

end Http3FrameReader

end AsynGyanis.Http3
