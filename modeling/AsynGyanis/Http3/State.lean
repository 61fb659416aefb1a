import AsynGyanis.Http3.Frame
import AsynGyanis.Library.SortedMap

/-!
# What an HTTP/3 connection knows

One connection keeps a record for each stream it reads frames from, a
buffer for each stream it has bytes to send on, and the roles the peer's
unidirectional streams have announced. Field compression and the rules for
the fields of a message are parameters (`Http3Codec`): the connection
decides when to call them and what to do with the answer, and the theorems
hold for any codec.

What the connection tells the outside, through its callbacks, the stream
writer and the crediter, is appended to `outputs` in the order of the calls.
The last four kinds of entry are there for the theorems only: nobody outside
is told what was put into the buffer of a stream, that a buffer was thrown
away, and where received bytes are left without credit. Stream numbers are
natural numbers, and a stream that does not exist yet is one without a
record.
-/

namespace AsynGyanis.Http3

open Quic Library

/-! ## Error codes -/

inductive Http3ErrorCode
  | noError
  | generalProtocolError
  | internalError
  | streamCreationError
  | closedCriticalStream
  | frameUnexpected
  | frameError
  | excessiveLoad
  | idError
  | settingsError
  | missingSettings
  | requestRejected
  | requestCancelled
  | requestIncomplete
  | messageError
  | connectError
  | versionFallback
  | decompressionFailed
  | encoderStreamError
  | decoderStreamError
  deriving DecidableEq, Repr

/-- `http3ErrorCodeName` of a code as it came over the wire. -/
def http3ErrorCodeName : Nat → String
  | 0x0100 => "H3_NO_ERROR"
  | 0x0101 => "H3_GENERAL_PROTOCOL_ERROR"
  | 0x0102 => "H3_INTERNAL_ERROR"
  | 0x0103 => "H3_STREAM_CREATION_ERROR"
  | 0x0104 => "H3_CLOSED_CRITICAL_STREAM"
  | 0x0105 => "H3_FRAME_UNEXPECTED"
  | 0x0106 => "H3_FRAME_ERROR"
  | 0x0107 => "H3_EXCESSIVE_LOAD"
  | 0x0108 => "H3_ID_ERROR"
  | 0x0109 => "H3_SETTINGS_ERROR"
  | 0x010a => "H3_MISSING_SETTINGS"
  | 0x010b => "H3_REQUEST_REJECTED"
  | 0x010c => "H3_REQUEST_CANCELLED"
  | 0x010d => "H3_REQUEST_INCOMPLETE"
  | 0x010e => "H3_MESSAGE_ERROR"
  | 0x010f => "H3_CONNECT_ERROR"
  | 0x0110 => "H3_VERSION_FALLBACK"
  | 0x0200 => "QPACK_DECOMPRESSION_FAILED"
  | 0x0201 => "QPACK_ENCODER_STREAM_ERROR"
  | 0x0202 => "QPACK_DECODER_STREAM_ERROR"
  | _ => "未知 HTTP/3 错误码"

/-- `{:x}`. -/
def hexText (value : Nat) : String := String.ofList (Nat.toDigits 16 value)

inductive QpackErrorKind
  | decompressionFailed
  | encoderStreamError
  | decoderStreamError
  | fieldSectionTooLarge
  | invalidLocalState
  deriving DecidableEq, Repr

structure QpackError where
  kind : QpackErrorKind
  message : String
  deriving DecidableEq, Repr

def QpackErrorKind.toHttp3ErrorCode : QpackErrorKind → Http3ErrorCode
  | .decompressionFailed => .decompressionFailed
  | .encoderStreamError => .encoderStreamError
  | .decoderStreamError => .decoderStreamError
  | .fieldSectionTooLarge => .excessiveLoad
  | .invalidLocalState => .internalError

def Http3FrameErrorKind.toHttp3ErrorCode : Http3FrameErrorKind → Http3ErrorCode
  | .limitExceeded => .excessiveLoad
  | .malformed => .frameError

/-! ## The codec -/

structure QpackHeaderField where
  name : Bytes
  value : Bytes
  deriving DecidableEq, Repr

inductive Http3MessageKind
  | request
  | response
  deriving DecidableEq, Repr

def kQpackEntryOverheadByteCount : Nat := 32

/-- RFC 9204, 3.2.1: the two lengths and a fixed overhead. -/
def entrySizeByteCountOf (field : QpackHeaderField) : Nat :=
  field.name.length + field.value.length + kQpackEntryOverheadByteCount

/-- Field compression and field rules: `D` and `E` are the states of the
decoder and the encoder, `V` is that of a header validator. A function that
can fail also says what became of the state. -/
structure Http3Codec (D E V : Type) where
  newEncoder : (peerMaximumTableCapacityByteCount
    peerMaximumBlockedStreamCount localTableCapacityByteCount : Nat) → E
  setMaximumTableCapacityByteCount : E → Nat → Except QpackError Bytes × E
  /-- The header block and the instructions for the encoder stream. -/
  encodeFieldSection : E → Nat → List QpackHeaderField → Except QpackError (Bytes × Bytes) × E
  feedDecoderStream : E → Bytes → Option QpackError × E
  /-- The encoder's `noteStreamAbandoned`. -/
  noteStreamAbandonedByEncoder : E → Nat → Bytes × E
  noteStreamClosed : E → Nat → E
  newDecoder : (maximumTableCapacityByteCount maximumBlockedStreamCount
    maximumFieldSectionSizeByteCount : Nat) → D
  /-- The streams that can go on, and instructions for the decoder stream. -/
  feedEncoderStream : D → Bytes → Except QpackError (List Nat × Bytes) × D
  /-- No fields when the section has to wait; the instructions come with
  any answer. -/
  decodeFieldSection : D → Nat → Bytes →
    Except QpackError (Option (List QpackHeaderField)) × Bytes × D
  resumeBlockedFieldSection : D → Nat →
    Except QpackError (Option (List QpackHeaderField)) × Bytes × D
  /-- How many sections of the stream wait. -/
  blockedFieldSectionCount : D → Nat → Nat
  noteFieldSectionDelivered : D → Nat → Bytes × D
  noteStreamAbandoned : D → Nat → Bytes × D
  hasFieldSectionBookkeeping : D → Nat → Bool
  emitInsertCountIncrement : D → Bytes × D
  newValidator : Http3MessageKind → Bool → V
  /-- The message of the violation, if it is one. -/
  beginHeaderBlock : V → (isTrailers : Bool) → Option String × V
  onHeaderField : V → QpackHeaderField → Option String × V
  endHeaderBlock : V → Option String × V
  contentLengthByteCount : V → Option Nat

/-! ## The outside -/

inductive Http3Output
  | headerSectionStarted (streamId : Nat) (isTrailers : Bool)
  | headerField (streamId : Nat) (field : QpackHeaderField) (isTrailers : Bool)
  | headerBlockReceived (streamId : Nat) (isTrailers : Bool)
  | bodyBytes (streamId : Nat) (bytes : Bytes)
  | requestEnded (streamId : Nat)
  | streamClosed (streamId : Nat)
  | streamReset (streamId : Nat) (errorCode : Http3ErrorCode)
      (reason : String) (isDecidedByPeer : Bool)
  | malformedRequest (streamId : Nat) (reason : String)
  | connectionClosed (errorCode : Http3ErrorCode) (reason : String)
  /-- Receive credit given back. -/
  | credited (streamId byteCount : Nat)
  /-- What the stream writer was handed, and how many bytes it took. -/
  | written (streamId : Nat) (bytes : Bytes) (isEndStream : Bool) (acceptedByteCount : Nat)
  /-- Bytes put into the buffer of a stream. -/
  | queued (streamId : Nat) (bytes : Bytes) (isEndStream : Bool)
  /-- The buffer of a stream thrown away. -/
  | discarded (streamId : Nat)
  /-- Bytes received whose credit nobody will give back. -/
  | uncredited (streamId byteCount : Nat)
  /-- A stream has come to its end with bytes waiting to be read. -/
  | stranded (streamId byteCount : Nat)
  deriving DecidableEq

/-! ## Records -/

inductive PeerStreamKind
  | unknown
  | control
  | qpackEncoder
  | qpackDecoder
  | ignored
  deriving DecidableEq, Repr

structure StreamState (V : Type) where
  reader : Option Http3FrameReader := none
  validator : Option V := none
  responseValidator : Option V := none
  fedByteCount : Nat := 0
  creditedByteCount : Nat := 0
  receivedBodyByteCount : Nat := 0
  declaredContentLengthByteCount : Nat := 0
  hasContentLengthDeclaration : Bool := false
  isHeaderSectionSeen : Bool := false
  isInformationalSectionSeen : Bool := false
  isFieldSectionBlocked : Bool := false
  isHeadRejected : Bool := false
  isTrailersSeen : Bool := false
  isBodyStarted : Bool := false
  isPeerFinished : Bool := false
  isLocalFinished : Bool := false
  isAbandoned : Bool := false

structure OutboundStream where
  bytes : Bytes := []
  sentByteCount : Nat := 0
  isEndStream : Bool := false
  deriving DecidableEq

structure LocalSettings where
  qpackMaximumTableCapacityByteCount : Nat := 4096
  qpackMaximumBlockedStreamCount : Nat := 100
  maximumFieldSectionSizeByteCount : Nat := 64 * 1024
  maximumFrameByteCount : Nat := 8 * 1024 * 1024
  isExtendedConnectEnabled : Bool := true
  deriving DecidableEq, Repr

/-- What the owner of a connection gives it. -/
structure Http3Configuration where
  localSettings : LocalSettings := {}
  isLocalServer : Bool := true
  /-- There is a crediter. -/
  hasStreamCrediter : Bool := true
  /-- There is an `onMalformedRequest`. -/
  answersMalformedRequests : Bool := true
  /-- The three streams the opener opened. -/
  localControlStreamId : Nat
  localEncoderStreamId : Nat
  localDecoderStreamId : Nat
  deriving DecidableEq, Repr

structure Http3Connection (D E V : Type) where
  configuration : Http3Configuration
  qpackEncoder : E
  qpackDecoder : D
  peerControlStreamId : Option Nat := none
  peerEncoderStreamId : Option Nat := none
  peerDecoderStreamId : Option Nat := none
  peerStreamKinds : SortedMap Nat PeerStreamKind := .empty
  peerStreamTypeBuffers : SortedMap Nat Bytes := .empty
  peerMaximumBlockedStreamCount : Nat := 0
  peerMaximumFieldSectionSizeByteCount : Nat := 0
  streams : SortedMap Nat (StreamState V) := .empty
  outbound : SortedMap Nat OutboundStream := .empty
  outboundOrder : List Nat := []
  isPeerSettingsReceived : Bool := false
  isPeerGoAwayReceived : Bool := false
  maximumPushId : Nat := 0
  isDraining : Bool := false
  rejectedFromStreamId : Nat := 0
  lastRejectedDrainedStreamId : Option Nat := none
  lastProcessedRequestStreamId : Option Nat := none
  isUsable : Bool := false
  isBroken : Bool := false
  connectionErrorCode : Http3ErrorCode := .noError
  connectionErrorReason : String := ""
  outputs : List Http3Output := []

end AsynGyanis.Http3
