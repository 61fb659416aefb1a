import AsynGyanis.Http3.State

/-!
# The HTTP/3 connection

The member functions of `Http3Connection`, in the order a datagram meets
them: what arrives on a stream is sorted by the stream's number and role,
cut into frames, and the frames become callbacks; what the application
submits is queued on its stream and leaves with `flush`.

A reference to a stream record becomes the stream's number, and the record
is looked up where it is used. No callback calls back into the connection:
the application answers between two calls.
-/

namespace AsynGyanis.Http3

open Quic Library

def kClientBidirectionalStreamIdStep : Nat := 4

def kMaximumDataPayloadByteCount : Nat := 16 * 1024

def kMaximumFlushRounds : Nat := 64

/-- `:status` -/
def kStatusFieldName : Bytes := [0x3a, 0x73, 0x74, 0x61, 0x74, 0x75, 0x73]

def isHttp2ReservedFrameType (frameTypeValue : Nat) : Bool :=
  frameTypeValue == 0x02 || frameTypeValue == 0x06 ||
    frameTypeValue == 0x08 || frameTypeValue == 0x09

/-- The first `:status` decides, by its first character. -/
def isInformationalFieldSection (fieldLines : List QpackHeaderField) : Bool :=
  match fieldLines.find? fun field => field.name == kStatusFieldName with
  | some field => field.value.head? == some 0x31
  | none => false

def fieldSectionCarriesPseudoHeader (fieldLines : List QpackHeaderField) :
    Bool :=
  fieldLines.any fun field => field.name.head? == some 0x3a

/-- Bit 1 of a stream number. -/
def isUnidirectionalStream (streamId : Nat) : Bool := streamId.testBit 1

namespace Http3Connection

variable {D E V : Type}

/-! ## Records and queues -/

def isLocalServer (c : Http3Connection D E V) : Bool := c.configuration.isLocalServer

variable (codec : Http3Codec D E V) (c : Http3Connection D E V) (streamId : Nat)
variable (data : Bytes) (isEndStream : Bool)
variable (fieldLines : List QpackHeaderField)

/-- Bit 0 of a stream number names the side that opened it. -/
def isLocallyInitiatedStream :
    Bool :=
  streamId.testBit 0 == c.isLocalServer

def inboundMessageKind : Http3MessageKind :=
  if c.isLocalServer then .request else .response

def outboundMessageKind : Http3MessageKind :=
  if c.isLocalServer then .response else .request

def isInboundInformationalSection (fields : List QpackHeaderField) (isTrailers : Bool) : Bool :=
  !isTrailers && !c.isLocalServer && isInformationalFieldSection fields

def emit (output : Http3Output) : Http3Connection D E V :=
  { c with outputs := c.outputs ++ [output] }

/-- Receive credit goes back only to a crediter, and never none. -/
def credit (streamId byteCount : Nat) : Http3Connection D E V :=
  if c.configuration.hasStreamCrediter && byteCount != 0 then
    c.emit (.credited streamId byteCount)
  else c

def breakConnection (errorCode : Http3ErrorCode) (reason : String) : Http3Connection D E V :=
  if c.isBroken then c
  else
    { c with
      isBroken := true
      connectionErrorCode := errorCode
      connectionErrorReason := reason
      outputs := c.outputs ++ [.connectionClosed errorCode reason] }

/-- `streamStateFor`: the record is there afterwards. -/
def ensureStream : Http3Connection D E V :=
  match c.streams.find? streamId with
  | some _ => c
  | none => { c with streams := c.streams.insert streamId {} }

def streamState : StreamState V := (c.streams.find? streamId).getD {}

def modifyStream (update : StreamState V → StreamState V) : Http3Connection D E V :=
  match c.streams.find? streamId with
  | some state => { c with streams := c.streams.insert streamId (update state) }
  | none => c

/-- What is in the reader of a stream. -/
def readerByteCount : Nat := ((c.streamState streamId).reader.map (·.pendingByteCount)).getD 0

/-- What has arrived on a stream and was not read: the bytes in its reader
and those of a type that is not complete. -/
def bufferedByteCount : Nat := c.readerByteCount streamId +
    ((c.peerStreamTypeBuffers.find? streamId).map (·.length)).getD 0

def noteUncredited (streamId byteCount : Nat) : Http3Connection D E V :=
  if byteCount = 0 then c else c.emit (.uncredited streamId byteCount)

def noteStranded : Http3Connection D E V :=
  if c.bufferedByteCount streamId = 0 then c
  else c.emit (.stranded streamId (c.bufferedByteCount streamId))

/-- What was fed to the reader of a stream and has no credit yet. -/
def heldByteCount : Nat := (c.streamState streamId).fedByteCount -
    (c.streamState streamId).creditedByteCount

/-- The record goes, with the count of what has no credit yet. -/
def eraseStream : Http3Connection D E V :=
  { c with streams := c.streams.erase streamId }.noteUncredited streamId (c.heldByteCount streamId)

/-- A stream new to the buffers also joins the rotation. -/
def queueOutboundBytes (bytes : Bytes) (isEndStream : Bool) : Http3Connection D E V :=
  if c.isBroken then c
  else
    let c := c.emit (.queued streamId bytes isEndStream)
    match c.outbound.find? streamId with
    | some outbound =>
      { c with
        outbound := c.outbound.insert streamId
          { outbound with
            bytes := outbound.bytes ++ bytes
            isEndStream := outbound.isEndStream || isEndStream } }
    | none =>
      { c with
        outbound := c.outbound.insert streamId { bytes := bytes, isEndStream := isEndStream }
        outboundOrder := c.outboundOrder ++ [streamId] }

def queueOutboundFrame (frameType : Http3FrameType) (payload : Bytes) (isEndStream : Bool) :
    Http3Connection D E V :=
  c.queueOutboundBytes streamId (appendHttp3FrameWithPayload [] frameType payload) isEndStream

def queueEncoderInstructions (encoderBytes : Bytes) : Http3Connection D E V :=
  if encoderBytes.isEmpty then c
  else
    c.queueOutboundBytes c.configuration.localEncoderStreamId encoderBytes false

def queueDecoderInstructions (decoderBytes : Bytes) : Http3Connection D E V :=
  if decoderBytes.isEmpty then c
  else
    c.queueOutboundBytes c.configuration.localDecoderStreamId decoderBytes false

/-! ## Ends of streams -/

def noteStreamClosedByEncoder : Http3Connection D E V :=
  { c with qpackEncoder := codec.noteStreamClosed c.qpackEncoder streamId }

def closeStreamIfDone : Http3Connection D E V :=
  match c.streams.find? streamId with
  | none => c
  | some state =>
    if !state.isPeerFinished || !state.isLocalFinished || state.isAbandoned
    then c
    else
      ((c.noteStreamClosedByEncoder codec streamId).emit
        (.streamClosed streamId)).eraseStream streamId

def abandonInboundFieldSections : Http3Connection D E V :=
  if codec.hasFieldSectionBookkeeping c.qpackDecoder streamId then
    let (decoderBytes, decoder) := codec.noteStreamAbandoned c.qpackDecoder streamId
    { c with qpackDecoder := decoder }.queueDecoderInstructions decoderBytes
  else c

/-- `m_outbound.erase`: what the stream had to send is given up. -/
def discardOutbound : Http3Connection D E V :=
  { c with outbound := c.outbound.erase streamId }.emit (.discarded streamId)

def failStream (errorCode : Http3ErrorCode) (reason : String) : Http3Connection D E V :=
  let c := c.discardOutbound streamId
  let c := c.abandonInboundFieldSections codec streamId
  let c := c.noteStreamClosedByEncoder codec streamId
  let c := (c.modifyStream streamId fun state =>
    { state with isAbandoned := true }).noteStranded streamId
  c.emit (.streamReset streamId errorCode reason false)

def pruneAbandonedStream : Http3Connection D E V :=
  if (c.streams.find? streamId).any (·.isAbandoned) then
    c.eraseStream streamId
  else c

def rejectRequestHead (reason : String) : Http3Connection D E V :=
  let c := c.modifyStream streamId fun state =>
    { state with isHeadRejected := true }
  let c := c.abandonInboundFieldSections codec streamId
  if c.configuration.answersMalformedRequests then
    c.emit (.malformedRequest streamId reason)
  else c.failStream codec streamId .messageError reason

def rejectStreamAfterDrain : Http3Connection D E V :=
  let c := ((c.ensureStream streamId).modifyStream streamId fun state =>
    { state with isAbandoned := true }).noteStranded streamId
  let c := c.credit streamId data.length
  let c := c.failStream codec streamId .requestRejected "GOAWAY 已通告，新请求不再受理"
  c.pruneAbandonedStream streamId

/-! ## Field sections -/

/-- One section through the validator, up to the first violation. -/
def judgeFields (codec : Http3Codec D E V) : V → List QpackHeaderField → Option String × V
  | validator, [] => codec.endHeaderBlock validator
  | validator, field :: rest =>
    match codec.onHeaderField validator field with
    | (some message, validator) => (some message, validator)
    | (none, validator) => judgeFields codec validator rest

def judgeFieldSection (validator : V) (isTrailers : Bool) (fields : List QpackHeaderField) :
    Option String × V :=
  match codec.beginHeaderBlock validator isTrailers with
  | (some message, validator) => (some message, validator)
  | (none, validator) => judgeFields codec validator fields

def noteFieldSectionDelivered (codec : Http3Codec D E V)
    (c : Http3Connection D E V) (streamId : Nat) : Http3Connection D E V :=
  let (decoderBytes, decoder) := codec.noteFieldSectionDelivered c.qpackDecoder streamId
  { c with qpackDecoder := decoder }.queueDecoderInstructions decoderBytes

/-- An accepted section that is no 1xx, handed over field by field. -/
def handOverFieldSection (fields : List QpackHeaderField) (isTrailers : Bool) :
    Http3Connection D E V :=
  let c := fields.foldl (fun c field => c.emit (.headerField streamId field isTrailers)) c
  (c.noteFieldSectionDelivered codec streamId).emit (.headerBlockReceived streamId isTrailers)

def deliverFieldSection (fields : List QpackHeaderField) (isTrailers : Bool) :
    Http3Connection D E V :=
  let isExtended := c.configuration.localSettings.isExtendedConnectEnabled
  let kept := (c.streamState streamId).validator.getD
    (codec.newValidator c.inboundMessageKind isExtended)
  if c.isInboundInformationalSection fields isTrailers then
    let c := c.modifyStream streamId fun state =>
      { state with validator := some kept }
    match judgeFieldSection codec (codec.newValidator .response isExtended) isTrailers fields with
    | (some message, _) => c.rejectRequestHead codec streamId message
    | (none, _) =>
      (c.modifyStream streamId fun state =>
        { state with isInformationalSectionSeen := true }
      ).noteFieldSectionDelivered codec streamId
  else
    match judgeFieldSection codec kept isTrailers fields with
    | (some message, validator) =>
      (c.modifyStream streamId fun state =>
        { state with validator := some validator }
      ).rejectRequestHead codec streamId message
    | (none, validator) =>
      let declared := codec.contentLengthByteCount validator
      (c.modifyStream streamId fun state =>
        { state with
          validator := some validator
          hasContentLengthDeclaration :=
            if isTrailers then state.hasContentLengthDeclaration
            else declared.isSome
          declaredContentLengthByteCount :=
            if isTrailers then state.declaredContentLengthByteCount
            else declared.getD 0 }
      ).handOverFieldSection codec streamId fields isTrailers

def finishRequestStreamIfEnded : Http3Connection D E V :=
  let state := c.streamState streamId
  let streamName := if c.isLocalServer then "请求流" else "响应流"
  if !state.isHeaderSectionSeen then
    if state.isInformationalSectionSeen then
      c.failStream codec streamId .messageError
        (streamName ++ "只收到过渡响应（1xx）就收尾了：RFC 9114 §4.1 要求最终响应的头段带一个不是 1xx 的 :status，本端不拿一声招呼当答案")
    else
      c.failStream codec streamId .messageError (streamName ++ "上没有头段就结束了（RFC 9114 §4.1.2）")
  else if state.hasContentLengthDeclaration &&
      state.declaredContentLengthByteCount != state.receivedBodyByteCount then
    c.failStream codec streamId .messageError
      s!"content-length 声明 {state.declaredContentLengthByteCount} 字节，实收 {state.receivedBodyByteCount} 字节（RFC 9114 §4.1.2）"
  else (c.emit (.requestEnded streamId)).closeStreamIfDone codec streamId

/-! ## Request streams -/

def handleHeadersFrame (encodedFieldSection : Bytes) : Http3Connection D E V :=
  let state := c.streamState streamId
  let isTrailers := state.isHeaderSectionSeen
  if isTrailers && state.isTrailersSeen then
    c.failStream codec streamId .messageError "请求里出现了第三个头段：只允许头段加一个尾段"
  else
    let c := c.modifyStream streamId fun state =>
      { state with isTrailersSeen := state.isTrailersSeen || isTrailers }
    let c := c.emit (.headerSectionStarted streamId isTrailers)
    let (decoded, decoderBytes, decoder) :=
      codec.decodeFieldSection c.qpackDecoder streamId encodedFieldSection
    let c := { c with qpackDecoder := decoder }.queueDecoderInstructions decoderBytes
    match decoded with
    | .error error => c.breakConnection error.kind.toHttp3ErrorCode error.message
    | .ok none =>
      c.modifyStream streamId fun state =>
        { state with
          isHeaderSectionSeen := true
          isFieldSectionBlocked := true }
    | .ok (some fields) =>
      (c.modifyStream streamId fun state =>
        { state with
          isHeaderSectionSeen := state.isHeaderSectionSeen ||
            !c.isInboundInformationalSection fields isTrailers
          isFieldSectionBlocked := false }
      ).deliverFieldSection codec streamId fields isTrailers

def handleDataFrame (payload : Bytes) : Http3Connection D E V :=
  let state := c.streamState streamId
  if !state.isHeaderSectionSeen then
    c.breakConnection .frameUnexpected "请求正文出现在头段之前（RFC 9114 §7.2.1）"
  else if state.isTrailersSeen then
    (c.noteUncredited streamId payload.length).failStream codec streamId
      .messageError "尾段之后又出现正文：消息顺序不合法（RFC 9114 §4.1.2）"
  else
    let c := c.modifyStream streamId fun state =>
      { state with
        isBodyStarted := true
        receivedBodyByteCount := state.receivedBodyByteCount + payload.length }
    if payload.isEmpty then c else c.emit (.bodyBytes streamId payload)

/-- A type HTTP/2 used and HTTP/3 must not. -/
def breakOnReservedFrame (frameTypeValue : Nat) : Http3Connection D E V :=
  c.breakConnection .frameUnexpected
    s!"收到 HTTP/2 保留帧类型 0x{hexText frameTypeValue}：RFC 9114 §7.2.8 与 §11.2.1 禁止发送这些类型，收到按 H3_FRAME_UNEXPECTED 处置"

def handleRequestFrame (frame : Http3Frame) : Http3Connection D E V :=
  if isHttp2ReservedFrameType (http3FrameTypeValue frame) then
    c.breakOnReservedFrame (http3FrameTypeValue frame)
  else
    match frame with
    | .headers encodedFieldSection =>
      c.handleHeadersFrame codec streamId encodedFieldSection
    | .data payload => c.handleDataFrame codec streamId payload
    | .unknown _ _ => c
    | frame =>
      if isHttp3ReservedExtensionIdentifier (http3FrameTypeValue frame) then c
      else
        c.breakConnection .frameUnexpected
          s!"帧类型 {http3FrameTypeName (http3FrameTypeValue frame)} 不得出现在请求流上"

/-- What a frame adds to the payload the receiver of `onBodyBytes` credits. -/
def dataPayloadByteCount : Http3Frame → Nat
  | .data payload => payload.length
  | _ => 0

/-- The frames that are complete, until one ends the matter. The second
part is the DATA payload they carried, nothing after a frame that is none.
A frame takes two bytes at least, so the buffer's length is enough rounds. -/
def consumeRequestFrames (codec : Http3Codec D E V) (streamId : Nat) :
    Nat → Nat → Http3Connection D E V → Http3Connection D E V × Option Nat
  | 0, payloadByteCount, c => (c, some payloadByteCount)
  | rounds + 1, payloadByteCount, c =>
    let state := c.streamState streamId
    if c.isBroken || state.isAbandoned || state.isHeadRejected then
      (c, some payloadByteCount)
    else
      match state.reader with
      | none => (c, some payloadByteCount)
      | some reader =>
        match reader.nextFrame with
        | (.error error, reader) =>
          ((c.modifyStream streamId fun state =>
              { state with reader := some reader }).breakConnection
            error.kind.toHttp3ErrorCode error.message, none)
        | (.ok none, _) => (c, some payloadByteCount)
        | (.ok (some frame), reader) =>
          let c := c.modifyStream streamId fun state =>
            { state with reader := some reader }
          consumeRequestFrames codec streamId rounds (payloadByteCount + dataPayloadByteCount frame)
            (c.handleRequestFrame codec streamId frame)

/-- What the reader has digested and nobody was given credit for, without
the DATA payload. -/
def creditConsumedBytes (payloadByteCount : Nat) : Http3Connection D E V :=
  let state := c.streamState streamId
  match state.reader with
  | none => c
  | some reader =>
    if !c.configuration.hasStreamCrediter then c
    else
      let consumedTotal := state.fedByteCount - reader.pendingByteCount
      let increment := consumedTotal - state.creditedByteCount
      let c := c.modifyStream streamId fun state =>
        { state with
          creditedByteCount := state.creditedByteCount + increment }
      c.credit streamId (increment - payloadByteCount)

/-- Bytes for the reader of the stream, which is built at the first. -/
def feedReader : Option Http3FrameError × Http3Connection D E V :=
  let reader := (c.streamState streamId).reader.getD
    { maximumFrameByteCount := c.configuration.localSettings.maximumFrameByteCount }
  let (error, reader) := reader.feed data
  (error, c.modifyStream streamId fun state =>
    { state with
      reader := some reader
      fedByteCount := state.fedByteCount + data.length })

/-- The rest of `consumeRequestStream`, for a stream that is taken on. -/
def processRequestStream : Http3Connection D E V :=
  if (c.streamState streamId).isAbandoned then c.credit streamId data.length
  else
    match c.feedReader streamId data with
    | (some error, c) =>
      c.breakConnection error.kind.toHttp3ErrorCode error.message
    | (none, c) =>
      match consumeRequestFrames codec streamId (c.readerByteCount streamId) 0 c with
      | (c, none) => c
      | (c, some payloadByteCount) =>
        let c := c.creditConsumedBytes streamId payloadByteCount
        let state := c.streamState streamId
        let c :=
          if isEndStream && !state.isPeerFinished && !state.isAbandoned && !c.isBroken then
            let c := (c.modifyStream streamId fun state =>
              { state with isPeerFinished := true }).noteStranded streamId
            if state.isFieldSectionBlocked then c
            else c.finishRequestStreamIfEnded codec streamId
          else c
        c.pruneAbandonedStream streamId

def consumeRequestStream : Http3Connection D E V :=
  let isNewRequestStream := (c.streams.find? streamId).isNone
  if isNewRequestStream && c.isDraining && streamId ≥ c.rejectedFromStreamId then
    if c.lastRejectedDrainedStreamId.any (streamId ≤ ·) then
      c.credit streamId data.length
    else
      { c with lastRejectedDrainedStreamId := some streamId
        }.rejectStreamAfterDrain codec streamId data
  else
    let c := c.ensureStream streamId
    let c :=
      if isNewRequestStream && c.lastProcessedRequestStreamId.all (· < streamId) then
        { c with lastProcessedRequestStreamId := some streamId }
      else c
    c.processRequestStream codec streamId data isEndStream

/-! ## Sections that waited -/

/-- Sections that can be decoded by now, in their order. As many rounds as
sections wait are enough. -/
def resumeFieldSections (codec : Http3Codec D E V) (streamId : Nat) :
    Nat → Http3Connection D E V → Http3Connection D E V × Bool
  | 0, c => (c, true)
  | rounds + 1, c =>
    let state := c.streamState streamId
    if codec.blockedFieldSectionCount c.qpackDecoder streamId == 0 ||
        c.isBroken || state.isAbandoned || state.isHeadRejected then (c, true)
    else
      let (resumed, decoderBytes, decoder) :=
        codec.resumeBlockedFieldSection c.qpackDecoder streamId
      let c := { c with qpackDecoder := decoder }.queueDecoderInstructions decoderBytes
      match resumed with
      | .error error =>
        (c.breakConnection error.kind.toHttp3ErrorCode error.message, false)
      | .ok none => (c, true)
      | .ok (some fields) =>
        resumeFieldSections codec streamId rounds
          (c.deliverFieldSection codec streamId fields (!fieldSectionCarriesPseudoHeader fields))

def deliverResumedFieldSection : Http3Connection D E V :=
  if c.isBroken || (c.streams.find? streamId).all (·.isAbandoned) then c
  else
    match resumeFieldSections codec streamId
      (codec.blockedFieldSectionCount c.qpackDecoder streamId) c with
    | (c, false) => c
    | (c, true) =>
      let isBlocked := codec.blockedFieldSectionCount c.qpackDecoder streamId != 0
      let c := c.modifyStream streamId fun state =>
        { state with isFieldSectionBlocked := isBlocked }
      if (c.streamState streamId).isPeerFinished && !isBlocked then
        c.finishRequestStreamIfEnded codec streamId
      else c

/-! ## Unidirectional streams -/

def consumeQpackEncoderStreamBytes : Http3Connection D E V :=
  match codec.feedEncoderStream c.qpackDecoder data with
  | (.error error, decoder) =>
    { c with qpackDecoder := decoder }.breakConnection error.kind.toHttp3ErrorCode error.message
  | (.ok (unblockedStreamIds, decoderBytes), decoder) =>
    let c := { c with qpackDecoder := decoder }.queueDecoderInstructions decoderBytes
    let c := unblockedStreamIds.foldl (deliverResumedFieldSection codec) c
    match c.peerEncoderStreamId with
    | some streamId => c.credit streamId data.length
    | none => c

/-- The peer's decoder stream feeds our encoder. The answer says whether the
connection survived it. -/
def feedDecoderStream (codec : Http3Codec D E V) (c : Http3Connection D E V)
    (data : Bytes) : Http3Connection D E V × Bool :=
  match codec.feedDecoderStream c.qpackEncoder data with
  | (some error, encoder) =>
    ({ c with qpackEncoder := encoder }.breakConnection
      error.kind.toHttp3ErrorCode error.message, false)
  | (none, encoder) => ({ c with qpackEncoder := encoder }, true)

/-- The last value of a setting, or 0. -/
def settingValue (settings : List (Http3SettingId × Nat)) (identifier : Http3SettingId) : Nat :=
  settings.foldl
    (fun value setting =>
      if setting.1 = identifier then setting.2 else value) 0

def applyPeerSettings (settings : List (Http3SettingId × Nat)) : Http3Connection D E V :=
  let peerTableCapacityByteCount := settingValue settings .qpackMaxTableCapacity
  let peerMaximumBlockedStreamCount := settingValue settings .qpackBlockedStreams
  let c := { c with
    peerMaximumBlockedStreamCount := peerMaximumBlockedStreamCount
    peerMaximumFieldSectionSizeByteCount := settingValue settings .maxFieldSectionSize }
  let effectiveCapacityByteCount := min peerTableCapacityByteCount
    c.configuration.localSettings.qpackMaximumTableCapacityByteCount
  if effectiveCapacityByteCount = 0 then c
  else
    let encoder := codec.newEncoder peerTableCapacityByteCount peerMaximumBlockedStreamCount 0
    match codec.setMaximumTableCapacityByteCount encoder effectiveCapacityByteCount with
    | (.error _, encoder) => { c with qpackEncoder := encoder }
    | (.ok encoderBytes, encoder) =>
      { c with qpackEncoder := encoder }.queueEncoderInstructions encoderBytes

/-- The streams of ours a peer's GOAWAY turns away. -/
def streamsRejectedByGoAway (streamIdOrPushId : Nat) : List Nat :=
  (c.streams.entries.filter fun entry =>
    !entry.2.isAbandoned && !isUnidirectionalStream entry.1 && c.isLocallyInitiatedStream entry.1 &&
      entry.1 ≥ streamIdOrPushId).map (·.1)

def handleGoAwayFrame (streamIdOrPushId : Nat) : Http3Connection D E V :=
  (c.streamsRejectedByGoAway streamIdOrPushId).foldl
    (fun c streamId => c.failStream codec streamId .requestRejected
      "对端已发 GOAWAY，这条流的标识不低于通告值，对端不再受理（RFC 9114 §5.2）")
    { c with isPeerGoAwayReceived := true }

def handleControlFrame (frame : Http3Frame) : Http3Connection D E V :=
  if isHttp2ReservedFrameType (http3FrameTypeValue frame) then
    c.breakOnReservedFrame (http3FrameTypeValue frame)
  else
    match frame with
    | .settings settings _ =>
      if c.isPeerSettingsReceived then
        c.breakConnection .frameUnexpected "对端在控制流上发了第二个 SETTINGS"
      else
        { c with isPeerSettingsReceived := true }.applyPeerSettings codec settings
    | frame =>
      if !c.isPeerSettingsReceived then
        c.breakConnection .missingSettings "对端控制流的第一个帧不是 SETTINGS（RFC 9114 §7.2.4.2）"
      else
        match frame with
        | .goAway streamIdOrPushId =>
          c.handleGoAwayFrame codec streamIdOrPushId
        | .maxPushId pushId => { c with maximumPushId := pushId }
        | .cancelPush _ | .unknown _ _ => c
        | frame =>
          if isHttp3ReservedExtensionIdentifier (http3FrameTypeValue frame)
          then c
          else
            c.breakConnection .frameUnexpected
              s!"帧类型 {http3FrameTypeName (http3FrameTypeValue frame)} 不得出现在控制流上"

def consumeControlFrames (codec : Http3Codec D E V) (streamId : Nat) :
    Nat → Http3Connection D E V → Http3Connection D E V × Bool
  | 0, c => (c, true)
  | rounds + 1, c =>
    if c.isBroken then (c, true)
    else
      match (c.streamState streamId).reader with
      | none => (c, true)
      | some reader =>
        match reader.nextFrame with
        | (.error error, reader) =>
          ((c.modifyStream streamId fun state =>
              { state with reader := some reader }).breakConnection
            error.kind.toHttp3ErrorCode error.message, false)
        | (.ok none, _) => (c, true)
        | (.ok (some frame), reader) =>
          let c := c.modifyStream streamId fun state =>
            { state with reader := some reader }
          consumeControlFrames codec streamId rounds (c.handleControlFrame codec frame)

def consumeControlStreamBytes : Http3Connection D E V :=
  match (c.ensureStream streamId).feedReader streamId data with
  | (some error, c) =>
    c.breakConnection error.kind.toHttp3ErrorCode error.message
  | (none, c) =>
    match consumeControlFrames codec streamId (c.readerByteCount streamId) c with
    | (c, false) => c
    | (c, true) =>
      let c := c.creditConsumedBytes streamId 0
      if isEndStream then
        c.breakConnection .closedCriticalStream "对端控制流已关闭"
      else c

/-- The first bytes of a stream of the peer, up to the end of its type. -/
def consumePeerUnidirectionalTypePrefix : Http3Connection D E V :=
  let buffer := (c.peerStreamTypeBuffers.find? streamId).getD [] ++ data
  match decodeQuicVariableLengthInteger buffer with
  | .error error =>
    match error.kind with
    | .truncated =>
      let c := { c with
        peerStreamTypeBuffers := c.peerStreamTypeBuffers.insert streamId buffer }
      if isEndStream then c.noteStranded streamId else c
    | .malformed =>
      { c with
        peerStreamTypeBuffers := c.peerStreamTypeBuffers.erase streamId
        }.breakConnection .frameError ("对端单向流的类型前缀解不开：" ++ error.message)
  | .ok decoded =>
    let c := { c with
      peerStreamTypeBuffers := c.peerStreamTypeBuffers.erase streamId }
    let remaining := buffer.drop decoded.byteCount
    -- what every known role does once the stream is the first of its role
    let classified (c : Http3Connection D E V) (kind : PeerStreamKind) :=
      { c with
        peerStreamKinds := c.peerStreamKinds.insert streamId kind
        }.credit streamId decoded.byteCount
    let duplicated := c.breakConnection .streamCreationError "对端重复开通了关键单向流"
    match Http3StreamType.ofValue? decoded.value with
    | some .push =>
      c.breakConnection .streamCreationError "收到客户端发起的推送流，本服务端不支持推送"
    | some .control =>
      if c.peerControlStreamId.isSome then duplicated
      else
        let c := classified { c with peerControlStreamId := some streamId } .control
        if remaining.isEmpty then c
        else c.consumeControlStreamBytes codec streamId remaining isEndStream
    | some .qpackEncoder =>
      if c.peerEncoderStreamId.isSome then duplicated
      else
        let c := classified { c with peerEncoderStreamId := some streamId } .qpackEncoder
        if remaining.isEmpty then c
        else c.consumeQpackEncoderStreamBytes codec remaining
    | some .qpackDecoder =>
      if c.peerDecoderStreamId.isSome then duplicated
      else
        let c := classified { c with peerDecoderStreamId := some streamId } .qpackDecoder
        if remaining.isEmpty then c
        else
          ((c.feedDecoderStream codec remaining).1).noteUncredited streamId remaining.length
    | none => (classified c .ignored).credit streamId remaining.length

/-! ## What the transport reports -/

def consumeStreamData : Http3Connection D E V :=
  if !c.isUsable || c.isBroken then c
  else if isUnidirectionalStream streamId then
    if c.isLocallyInitiatedStream streamId then c.credit streamId data.length
    else
      match c.peerStreamKinds.find? streamId with
      | none =>
        c.consumePeerUnidirectionalTypePrefix codec streamId data isEndStream
      | some .control =>
        c.consumeControlStreamBytes codec streamId data isEndStream
      | some .qpackEncoder => c.consumeQpackEncoderStreamBytes codec data
      | some .qpackDecoder =>
        match c.feedDecoderStream codec data with
        | (c, false) => c
        | (c, true) => c.credit streamId data.length
      | some .ignored | some .unknown => c.credit streamId data.length
  else if c.isLocallyInitiatedStream streamId || c.isLocalServer then
    c.consumeRequestStream codec streamId data isEndStream
  else c.credit streamId data.length

/-- The reason told to the application, with the peer's own code. -/
def peerCancellationReason (applicationErrorCode : Nat) (isResetByPeer : Bool) : String :=
  if isResetByPeer then
    s!"对端在这条流上发了 RESET_STREAM（{http3ErrorCodeName applicationErrorCode}，码 0x{hexText applicationErrorCode}），它不再发这条流的剩余字节"
  else
    s!"对端在这条流上发了 STOP_SENDING（要求本端用码 0x{hexText applicationErrorCode} 复位），它不再收本端这条流上的字节"

/-- The instruction queued is the encoder's: it clears what the decoder
wrote into the same buffer. -/
def noteStreamCancelledByPeer (streamId applicationErrorCode : Nat)
    (isResetByPeer : Bool) : Http3Connection D E V :=
  if !c.isUsable then c
  else
    let c := (c.discardOutbound streamId).noteStranded streamId
    let (_, decoder) := codec.noteStreamAbandoned c.qpackDecoder streamId
    let (decoderBytes, encoder) := codec.noteStreamAbandonedByEncoder c.qpackEncoder streamId
    let c := { c with
      qpackDecoder := decoder
      qpackEncoder := encoder }.queueDecoderInstructions decoderBytes
    if (c.streams.find? streamId).isNone then c
    else
      (c.emit (.streamReset streamId .requestCancelled
        (peerCancellationReason applicationErrorCode isResetByPeer) true)
      ).eraseStream streamId

def abandonInboundStream : Http3Connection D E V :=
  let c := (c.discardOutbound streamId).noteStreamClosedByEncoder codec streamId
  let c := c.abandonInboundFieldSections codec streamId
  (c.modifyStream streamId fun state =>
    { state with
      isFieldSectionBlocked := false
      isAbandoned := true }).noteStranded streamId

/-! ## What the application submits -/

def fieldSectionSizeByteCount : Nat := (fieldLines.map entrySizeByteCountOf).sum

def sectionName (isLocalServer isTrailers : Bool) : String :=
  match isLocalServer, isTrailers with
  | true, true => "响应尾段"
  | false, true => "请求尾段"
  | true, false => "响应头段"
  | false, false => "请求头段"

/-- The section through the validator it belongs to: one of its own for a
1xx, else the one the stream keeps. -/
def judgeOutboundSection (isTrailers : Bool) : Option String × Http3Connection D E V :=
  let isExtended := c.configuration.localSettings.isExtendedConnectEnabled
  if isInformationalFieldSection fieldLines then
    ((judgeFieldSection codec (codec.newValidator .response isExtended) isTrailers fieldLines).1, c)
  else
    let kept := (c.streamState streamId).responseValidator.getD
      (codec.newValidator c.outboundMessageKind isExtended)
    let (violation, validator) := judgeFieldSection codec kept isTrailers fieldLines
    (violation, c.modifyStream streamId fun state =>
      { state with responseValidator := some validator })

def submitResponseFieldSection (isTrailers isEndOfStream : Bool) :
    Option QpackError × Http3Connection D E V :=
  if c.isBroken then
    (some ⟨.invalidLocalState, "HTTP/3 协议层已作废，无法提交响应"⟩, c)
  else if (c.streams.find? streamId).all fun state =>
      state.isAbandoned || state.isLocalFinished then
    (some ⟨.invalidLocalState, s!"流 {streamId} 已不存在或本端已收尾，响应作废"⟩, c)
  else
    let limit := c.peerMaximumFieldSectionSizeByteCount
    let size := fieldSectionSizeByteCount fieldLines
    if limit ≠ 0 ∧ size > limit then
      (some ⟨.invalidLocalState,
        s!"流 {streamId} 的{sectionName c.isLocalServer isTrailers} {size} 字节越过对端通告的 SETTINGS_MAX_FIELD_SECTION_SIZE {limit} 字节，本端不作答这条流（RFC 9114 §4.2.2）"⟩,
        c)
    else
      match c.judgeOutboundSection codec streamId fieldLines isTrailers with
      | (some message, c) => (some ⟨.invalidLocalState, message⟩, c)
      | (none, c) =>
        match codec.encodeFieldSection c.qpackEncoder streamId fieldLines with
        | (.error error, encoder) =>
          (some error, { c with qpackEncoder := encoder })
        | (.ok (headerBlock, encoderBytes), encoder) =>
          let c := { c with qpackEncoder := encoder }.queueEncoderInstructions encoderBytes
          let c := c.queueOutboundFrame streamId .headers headerBlock isEndOfStream
          (none, c.modifyStream streamId fun state =>
            { state with
              isLocalFinished := state.isLocalFinished || isEndOfStream })

def submitResponseHead (isEndOfStream : Bool) : Option QpackError × Http3Connection D E V :=
  c.submitResponseFieldSection codec streamId fieldLines false isEndOfStream

def submitResponseTrailers : Option QpackError × Http3Connection D E V :=
  c.submitResponseFieldSection codec streamId fieldLines true true

/-- The body in DATA frames of 16 KiB, the end mark on the last. As many
rounds as there are bytes are enough. -/
def queueBodyChunks (streamId : Nat) (isEndStream : Bool) :
    Nat → Bytes → Http3Connection D E V → Http3Connection D E V
  | 0, _, c => c
  | rounds + 1, bytes, c =>
    if bytes.isEmpty then c
    else
      let rest := bytes.drop kMaximumDataPayloadByteCount
      queueBodyChunks streamId isEndStream rounds rest
        (c.queueOutboundFrame streamId .data (bytes.take kMaximumDataPayloadByteCount)
          (isEndStream && rest.isEmpty))

def appendResponseBody (bytes : Bytes) (isEndStream : Bool) :
    Except QpackError Nat × Http3Connection D E V :=
  if (c.streams.find? streamId).all fun state =>
      state.isAbandoned || state.isLocalFinished then
    (.error ⟨.invalidLocalState, s!"流 {streamId} 已不存在或本端已收尾，正文作废"⟩, c)
  else
    let c :=
      if !bytes.isEmpty then
        queueBodyChunks streamId isEndStream bytes.length bytes c
      else if isEndStream then c.queueOutboundBytes streamId [] true
      else c
    (.ok bytes.length,
      if isEndStream then
        (c.modifyStream streamId fun state =>
          { state with isLocalFinished := true }).closeStreamIfDone codec streamId
      else c)

def submitRequestHead (isEndOfStream : Bool) : Option QpackError × Http3Connection D E V :=
  if !c.isLocalServer && c.isPeerGoAwayReceived then
    (some ⟨.invalidLocalState,
      s!"对端已发 GOAWAY：RFC 9114 §5.2 要求收到之后不得再在这条连接上发起新请求，流 {streamId} 未提交，请换一条连接"⟩,
      c)
  else
    (c.ensureStream streamId).submitResponseFieldSection codec streamId
      fieldLines false isEndOfStream

def appendRequestBody (bytes : Bytes) (isEndStream : Bool) :
    Except QpackError Nat × Http3Connection D E V :=
  (c.ensureStream streamId).appendResponseBody codec streamId bytes isEndStream

/-! ## Sending -/

def noteLocallyFinishedStream : Http3Connection D E V :=
  (c.modifyStream streamId fun state =>
    { state with isLocalFinished := true }).closeStreamIfDone codec streamId

def retainUnsentOutboundBytes (outbound : OutboundStream) : Http3Connection D E V :=
  { c with
    outbound := c.outbound.insert streamId outbound
    outboundOrder :=
      if streamId ∈ c.outboundOrder then c.outboundOrder
      else c.outboundOrder ++ [streamId] }

/-- One round, for a stream that is no longer in the rotation. The writer
takes no more than it is offered. -/
def flushStream (streamId acceptedByteCount : Nat) : Http3Connection D E V :=
  match c.outbound.find? streamId with
  | none => c
  | some outbound =>
    let c := { c with outbound := c.outbound.erase streamId }
    if outbound.bytes.isEmpty then
      if outbound.isEndStream then
        (c.emit (.written streamId [] true 0)).noteLocallyFinishedStream codec streamId
      else c
    else
      let offered := outbound.bytes.drop outbound.sentByteCount
      let acceptedByteCount := min acceptedByteCount offered.length
      let c := c.emit (.written streamId offered outbound.isEndStream acceptedByteCount)
      let outbound := { outbound with
        sentByteCount := outbound.sentByteCount + acceptedByteCount }
      if outbound.sentByteCount < outbound.bytes.length then
        c.retainUnsentOutboundBytes streamId outbound
      else if outbound.isEndStream then
        c.noteLocallyFinishedStream codec streamId
      else c

/-- The rotation, for so many rounds; the list says how many bytes the
writer takes in each. -/
def flushRounds (codec : Http3Codec D E V) :
    Nat → List Nat → Http3Connection D E V → Http3Connection D E V
  | 0, _, c => c
  | rounds + 1, accepted, c =>
    match c.outboundOrder with
    | [] => c
    | streamId :: rest =>
      flushRounds codec rounds accepted.tail
        ({ c with outboundOrder := rest }.flushStream codec streamId (accepted.headD 0))

def emitDecoderStreamIncrements : Http3Connection D E V :=
  let (decoderBytes, decoder) := codec.emitInsertCountIncrement c.qpackDecoder
  { c with qpackDecoder := decoder }.queueDecoderInstructions decoderBytes

def flush (accepted : List Nat) : Http3Connection D E V :=
  if !c.isUsable then c
  else
    flushRounds codec kMaximumFlushRounds accepted (c.emitDecoderStreamIncrements codec)

def beginGracefulDrain : Option QpackError × Http3Connection D E V :=
  if !c.isUsable then
    (some ⟨.invalidLocalState, "HTTP/3 协议层没建起来，控制流还不存在，GOAWAY 无处可发"⟩, c)
  else if c.isBroken then
    (some ⟨.invalidLocalState, "HTTP/3 协议层已作废，不再往任何流写字节"⟩, c)
  else if c.isDraining then (none, c)
  else
    let rejectedFromStreamId := (c.lastProcessedRequestStreamId.map
      (· + kClientBidirectionalStreamIdStep)).getD 0
    (none, { c with
      isDraining := true
      rejectedFromStreamId := rejectedFromStreamId }.queueOutboundBytes
        c.configuration.localControlStreamId
        (appendHttp3Frame [] (.goAway rejectedFromStreamId)) false)

end Http3Connection

end AsynGyanis.Http3
