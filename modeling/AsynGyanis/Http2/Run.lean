import AsynGyanis.Http2.ConnectionFrames
import AsynGyanis.Library.Reach

/-!
# Runs of the HTTP/2 connection

An event is what comes in from the byte stream (a piece of the preface, a
frame, the frame decoder giving up) or a call of the application. The
connection keeps little of its past, so a run carries a history: the
frames received, the frames already written out, the body pieces
`sendResponseData` accepted and what the application took and gave back.
The history observes; the connection in it is exactly what the operations
compute.

A response of the session layer is a sequence of these calls, and the
theorems are about every sequence of them.
-/

namespace AsynGyanis.Http2

open Library

inductive Http2Event
  | preface (bytes : Bytes)
  | frame (now : Nat) (frame : Http2Frame)
  | frameDecodeFailure (kind : Http2FrameErrorKind) (message : String)
  | creditReceivedData (streamId byteCount : Nat)
  | sendGoAway (reason : String)
  | abortStream (streamId : Nat) (reason : String) (errorCode : Http2ErrorCode)
  | failConnection (errorCode : Http2ErrorCode) (reason : String)
  | sendResponseHeaders (streamId statusCode : Nat)
      (headerFields : List HpackHeaderField) (endStream : Bool)
  | sendResponseTrailers (streamId : Nat) (trailerFields : List HpackHeaderField)
  | sendResponseData (streamId : Nat) (data : Bytes) (endStream : Bool)
  | takeOutgoingBytes
  | takeRequests
  | takeReceivedData

namespace Http2Connection

variable {D E H : Type}

/-- A new connection. -/
def new (configuration : Http2ConnectionConfiguration) (decoder : D)
    (encoder : E) : Http2Connection D E H :=
  { configuration := configuration
    hpackDecoder := decoder
    encoder := encoder }

variable (c : Http2Connection D E H)

/-- The preface is behind and the connection has not failed, so `feedBytes`
cuts frames and hands them over. -/
def feedsFrames : Bool := c.state ≠ .awaitingPreface && c.state ≠ .failed

/-- A frame as `feedBytes` hands it over. -/
def feedFrame (codec : Http2Codec D E H) (c : Http2Connection D E H)
    (now : Nat) (frame : Http2Frame) : Http2Connection D E H :=
  if c.feedsFrames then (c.handleFrame codec now frame).2 else c

def feedDecodeFailure (kind : Http2FrameErrorKind) (message : String) : Http2Connection D E H :=
  if c.feedsFrames then
    c.fail (toHttp2ErrorCode kind) ("帧层解码失败：" ++ message)
  else c

def takeOutgoingBytes : List OutgoingFrame × Http2Connection D E H :=
  (c.outgoing, { c with outgoing := [] })

def takeRequests : List (Http2Request H) × Http2Connection D E H :=
  (c.pendingRequests, { c with pendingRequests := [] })

def takeReceivedData : List Http2ReceivedData × Http2Connection D E H :=
  (c.pendingReceivedData, { c with pendingReceivedData := [] })

/-- The connection after an event. -/
def apply (codec : Http2Codec D E H) (c : Http2Connection D E H) :
    Http2Event → Http2Connection D E H
  | .preface bytes => bytes.foldl feedPrefaceByte c
  | .frame now frame => c.feedFrame codec now frame
  | .frameDecodeFailure kind message => c.feedDecodeFailure kind message
  | .creditReceivedData streamId byteCount =>
    (c.creditReceivedData streamId byteCount).connection
  | .sendGoAway reason => (c.sendGoAway reason).connection
  | .abortStream streamId reason errorCode =>
    (c.abortStream streamId reason errorCode).connection
  | .failConnection errorCode reason =>
    (c.failConnection errorCode reason).connection
  | .sendResponseHeaders streamId statusCode headerFields endStream =>
    (c.sendResponseHeaders codec streamId statusCode headerFields endStream).connection
  | .sendResponseTrailers streamId trailerFields =>
    (c.sendResponseTrailers codec streamId trailerFields).connection
  | .sendResponseData streamId data endStream =>
    (c.sendResponseData streamId data endStream).connection
  | .takeOutgoingBytes => c.takeOutgoingBytes.2
  | .takeRequests => c.takeRequests.2
  | .takeReceivedData => c.takeReceivedData.2

end Http2Connection

structure Http2History (D E H : Type) where
  connection : Http2Connection D E H
  /-- Frames handed to the connection, oldest first. -/
  received : List Http2Frame := []
  /-- Frames taken out for the socket, oldest first. -/
  written : List OutgoingFrame := []
  /-- Body pieces `sendResponseData` accepted, with their stream. -/
  accepted : List (Nat × Bytes) := []
  /-- Streams whose trailers were sent, each with the body bytes accepted
  and the body bytes emitted on it by then. -/
  trailers : List (Nat × Bytes × Bytes) := []
  /-- Received data the application has taken out. -/
  taken : List Http2ReceivedData := []
  /-- Bytes the application reported as consumed. -/
  consumedByteCount : Nat := 0

/-- The body bytes a frame carries on a stream. -/
def OutgoingFrame.bodyOn (streamId : Nat) : OutgoingFrame → Bytes
  | .data id payload _ => if id = streamId then payload else []
  | _ => []

def bodyOn (streamId : Nat) (frames : List OutgoingFrame) : Bytes :=
  frames.flatMap (OutgoingFrame.bodyOn streamId)

def acceptedOn (streamId : Nat) (accepted : List (Nat × Bytes)) : Bytes :=
  accepted.flatMap fun piece => if piece.1 = streamId then piece.2 else []

namespace Http2History

variable {D E H : Type}

def start (configuration : Http2ConnectionConfiguration) (decoder : D)
    (encoder : E) : Http2History D E H :=
  { connection := .new configuration decoder encoder }

/-- Everything emitted so far, in the order of emission. -/
def emitted (h : Http2History D E H) : List OutgoingFrame := h.written ++ h.connection.outgoing

/-- What the history notes of an event besides the connection itself. -/
def note (codec : Http2Codec D E H) (h : Http2History D E H)
    (e : Http2Event) : Http2History D E H :=
  match e with
  | .frame _ frame =>
    { h with
      received :=
        if h.connection.feedsFrames then h.received ++ [frame]
        else h.received }
  | .creditReceivedData streamId byteCount =>
    { h with
      consumedByteCount :=
        if (h.connection.creditReceivedData streamId byteCount).result then
          h.consumedByteCount + byteCount
        else h.consumedByteCount }
  | .sendResponseTrailers streamId trailerFields =>
    { h with
      trailers :=
        if (h.connection.sendResponseTrailers codec streamId trailerFields).result = .sent then
          h.trailers ++ [(streamId, acceptedOn streamId h.accepted, bodyOn streamId h.emitted)]
        else h.trailers }
  | .sendResponseData streamId data endStream =>
    { h with
      accepted :=
        if (h.connection.sendResponseData streamId data endStream).result = .sent then
          h.accepted ++ [(streamId, data)]
        else h.accepted }
  | .takeOutgoingBytes =>
    { h with written := h.written ++ h.connection.takeOutgoingBytes.1 }
  | .takeReceivedData =>
    { h with taken := h.taken ++ h.connection.takeReceivedData.1 }
  | _ => h

def step (codec : Http2Codec D E H) (h : Http2History D E H)
    (e : Http2Event) : Http2History D E H :=
  { h.note codec e with connection := h.connection.apply codec e }

/-- The histories of a connection whose steps all meet a condition. -/
def Reachable (codec : Http2Codec D E H) (condition : Http2History D E H → Http2Event → Prop)
    (configuration : Http2ConnectionConfiguration) (decoder : D)
    (encoder : E) : Http2History D E H → Prop :=
  Reach (step codec) condition (start configuration decoder encoder)

@[simp] theorem step_connection (codec : Http2Codec D E H)
    (h : Http2History D E H) (e : Http2Event) :
    (h.step codec e).connection = h.connection.apply codec e := rfl

end Http2History

/-! ## A small codec

The codec the concrete runs use: header fields as literals with
incremental indexing and without Huffman coding, one field a block. -/

def decodeLiteral (table : List HpackHeaderField) :
    Bytes → HpackDecodeOutcome × List HpackHeaderField
  | [] => (.fields [], table)
  | first :: rest =>
    match first, rest with
    | 0x40, nameLength :: rest =>
      let name := rest.take nameLength.toNat
      let value := rest.drop (nameLength.toNat + 1)
      (.fields [⟨name, value⟩], ⟨name, value⟩ :: table)
    | _, _ => (.failed .compressionError "", table)

def encodeLiteral (field : HpackHeaderField) : Bytes :=
  0x40 :: .ofNat field.name.length :: field.name ++ .ofNat field.value.length :: field.value

def exampleCodec : Http2Codec (List HpackHeaderField) Unit Unit where
  decode := decodeLiteral
  encode := fun _ fields => (fields.flatMap encodeLiteral, ())
  setMaximumDynamicTableSizeByteCount := fun encoder _ => encoder
  acceptRequestHeaderFields := fun _ => .ok { head := () }
  oversizedHead := ()
  acceptTrailerHeaderFields := fun _ => .ok ()
  acceptResponseHeaderField := fun _ => .ok ()
  rejectResponseTrailerField := fun _ _ => none

/-- A history of the small codec from the start. -/
def exampleRun (events : List Http2Event) : Http2History (List HpackHeaderField) Unit Unit :=
  events.foldl (Http2History.step exampleCodec) (.start {} [] ())

/-- The preface and the peer's SETTINGS. -/
def exampleOpening (settings : Bytes) : List Http2Event :=
  [.preface Http2Connection.kHttp2ConnectionPreface,
    .frame 0 ⟨⟨settings.length, .settings, 0, 0⟩, settings, false, {}⟩]

end AsynGyanis.Http2
