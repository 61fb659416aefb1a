import AsynGyanis.Http3.Connection
import AsynGyanis.Library.Reach

/-!
# Runs of the HTTP/3 connection

An event is what the QUIC connection reports about a stream or a call of the
session: bytes, a cancellation, a section or a piece of body to send, a
flush. The session calls in any order, so the theorems are about every list
of events. `start` is the constructor with an opener that gives three
streams; without them the connection does nothing at all.

The numbers a flush carries say how many bytes the stream writer takes in
each round. Past their end it takes none.
-/

namespace AsynGyanis.Http3

open Quic Library

inductive Http3Event
  | streamData (streamId : Nat) (data : Bytes) (isEndStream : Bool)
  | streamCancelledByPeer (streamId applicationErrorCode : Nat) (isResetByPeer : Bool)
  | abandonInboundStream (streamId : Nat)
  | submitResponseHead (streamId : Nat) (fieldLines : List QpackHeaderField) (isEndOfStream : Bool)
  | submitResponseTrailers (streamId : Nat) (fieldLines : List QpackHeaderField)
  | appendResponseBody (streamId : Nat) (bytes : Bytes) (isEndStream : Bool)
  | submitRequestHead (streamId : Nat) (fieldLines : List QpackHeaderField) (isEndOfStream : Bool)
  | appendRequestBody (streamId : Nat) (bytes : Bytes) (isEndStream : Bool)
  | flush (accepted : List Nat)
  | beginGracefulDrain
  deriving DecidableEq

namespace Http3Connection

variable {D E V : Type}

def localSettingsFrame (settings : LocalSettings) : Http3Frame := .settings
    ([(.qpackMaxTableCapacity, settings.qpackMaximumTableCapacityByteCount),
      (.qpackBlockedStreams, settings.qpackMaximumBlockedStreamCount),
      (.maxFieldSectionSize, settings.maximumFieldSectionSizeByteCount)] ++
      if settings.isExtendedConnectEnabled then
        [(.enableConnectProtocol, 1)]
      else []) []

/-- The connection before it queues anything. No call can come before its
constructor is through, so it counts as usable already. -/
def blank (codec : Http3Codec D E V) (configuration : Http3Configuration) : Http3Connection D E V :=
  { configuration := configuration
    qpackEncoder := codec.newEncoder 0 0 0
    qpackDecoder := codec.newDecoder configuration.localSettings.qpackMaximumTableCapacityByteCount
      configuration.localSettings.qpackMaximumBlockedStreamCount
      configuration.localSettings.maximumFieldSectionSizeByteCount
    isUsable := true }

/-- The types of our three streams and the SETTINGS are queued and a first
flush tries to send them. -/
def start (codec : Http3Codec D E V) (configuration : Http3Configuration)
    (accepted : List Nat) : Http3Connection D E V :=
  let c := (blank codec configuration).queueOutboundBytes configuration.localControlStreamId
    (appendHttp3StreamTypeHeader [] .control) false
  let c := c.queueOutboundBytes configuration.localEncoderStreamId
    (appendHttp3StreamTypeHeader [] .qpackEncoder) false
  let c := c.queueOutboundBytes configuration.localDecoderStreamId
    (appendHttp3StreamTypeHeader [] .qpackDecoder) false
  let c := c.queueOutboundBytes configuration.localControlStreamId
    (appendHttp3Frame [] (localSettingsFrame configuration.localSettings))
    false
  c.flush codec accepted

def apply (codec : Http3Codec D E V) (c : Http3Connection D E V) :
    Http3Event → Http3Connection D E V
  | .streamData streamId data isEndStream =>
    c.consumeStreamData codec streamId data isEndStream
  | .streamCancelledByPeer streamId applicationErrorCode isResetByPeer =>
    c.noteStreamCancelledByPeer codec streamId applicationErrorCode isResetByPeer
  | .abandonInboundStream streamId => c.abandonInboundStream codec streamId
  | .submitResponseHead streamId fieldLines isEndOfStream =>
    (c.submitResponseHead codec streamId fieldLines isEndOfStream).2
  | .submitResponseTrailers streamId fieldLines =>
    (c.submitResponseTrailers codec streamId fieldLines).2
  | .appendResponseBody streamId bytes isEndStream =>
    (c.appendResponseBody codec streamId bytes isEndStream).2
  | .submitRequestHead streamId fieldLines isEndOfStream =>
    (c.submitRequestHead codec streamId fieldLines isEndOfStream).2
  | .appendRequestBody streamId bytes isEndStream =>
    (c.appendRequestBody codec streamId bytes isEndStream).2
  | .flush accepted => c.flush codec accepted
  | .beginGracefulDrain => c.beginGracefulDrain.2

/-- The states of the runs of a connection. -/
def Reachable (codec : Http3Codec D E V)
    (configuration : Http3Configuration) (accepted : List Nat) :
    Http3Connection D E V → Prop :=
  Reach (apply codec) (fun _ _ => True) (start codec configuration accepted)

end Http3Connection

/-! ## A plain codec

Fields as they are, each name and value behind its length in one byte, no
table and no rules: enough for runs on concrete input. -/

def plainText (text : Bytes) : Bytes := UInt8.ofNat text.length :: text

def plainFields : Nat → Bytes → List QpackHeaderField
  | 0, _ | _, [] => []
  | rounds + 1, nameLength :: rest =>
    let name := rest.take nameLength.toNat
    match rest.drop nameLength.toNat with
    | [] => []
    | valueLength :: rest =>
      ⟨name, rest.take valueLength.toNat⟩ :: plainFields rounds (rest.drop valueLength.toNat)

def plainCodec : Http3Codec Unit Unit Unit where
  newEncoder _ _ _ := ()
  setMaximumTableCapacityByteCount _ _ := (.ok [], ())
  encodeFieldSection _ _ fields :=
    (.ok (fields.flatMap fun field =>
      plainText field.name ++ plainText field.value, []), ())
  feedDecoderStream _ _ := (none, ())
  noteStreamAbandonedByEncoder _ _ := ([], ())
  noteStreamClosed _ _ := ()
  newDecoder _ _ _ := ()
  feedEncoderStream _ _ := (.ok ([], []), ())
  decodeFieldSection _ _ block := (.ok (some (plainFields block.length block)), [], ())
  resumeBlockedFieldSection _ _ := (.ok none, [], ())
  blockedFieldSectionCount _ _ := 0
  noteFieldSectionDelivered _ _ := ([], ())
  noteStreamAbandoned _ _ := ([], ())
  hasFieldSectionBookkeeping _ _ := false
  emitInsertCountIncrement _ := ([], ())
  newValidator _ _ := ()
  beginHeaderBlock _ _ := (none, ())
  onHeaderField _ _ := (none, ())
  endHeaderBlock _ := (none, ())
  contentLengthByteCount _ := none

def plainServer : Http3Configuration where
  localControlStreamId := 3
  localEncoderStreamId := 7
  localDecoderStreamId := 11

end AsynGyanis.Http3
