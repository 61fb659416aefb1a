import AsynGyanis.Http2.Run

/-!
# The receiving side of a connection

Two results are about the receiving side of a connection: one about the
header decoding (decoder, decoded blocks and the block being assembled),
one about the connection-level credit (window, credit not yet returned,
bytes waiting for the application). Each has a view here. Most operations
touch neither, and after the connection has failed neither means
anything.
-/

namespace AsynGyanis.Http2

open Library

/-- The header decoding as the connection keeps it. -/
structure DecodingState (D : Type) where
  hpackDecoder : D
  decodedHeaderBlocks : List Bytes
  isAssemblingHeaderBlock : Bool
  pendingHeaderBlock : Bytes

/-- The books of the connection-level receive window. -/
structure CreditState where
  receiveWindowByteCount : Int
  pendingReceiveCreditByteCount : Nat
  deliveredByteCount : Nat

/-- The bytes of received data that count against the windows. -/
def flowControlByteCount (data : List Http2ReceivedData) : Nat :=
  (data.map (·.flowControlByteCount)).sum

@[simp] theorem flowControlByteCount_append (a b : List Http2ReceivedData) :
    flowControlByteCount (a ++ b) = flowControlByteCount a + flowControlByteCount b := by
  simp [flowControlByteCount]

@[simp] theorem flowControlByteCount_singleton (data : Http2ReceivedData) :
    flowControlByteCount [data] = data.flowControlByteCount := by
  simp [flowControlByteCount]

namespace Http2Connection

variable {D E H : Type}

def decoding (c : Http2Connection D E H) : DecodingState D :=
  ⟨c.hpackDecoder, c.decodedHeaderBlocks, c.isAssemblingHeaderBlock, c.pendingHeaderBlock⟩

def crediting (c : Http2Connection D E H) : CreditState :=
  ⟨c.connectionReceiveWindowByteCount, c.pendingConnectionReceiveCreditByteCount,
    flowControlByteCount c.pendingReceivedData⟩

/-! ## A failed connection stays failed -/

theorem fail_state (c : Http2Connection D E H) (errorCode : Http2ErrorCode)
    (reason : String) : (c.fail errorCode reason).state = .failed := by
  unfold fail
  split
  · next h => exact h
  · simp only [fixGoAwayLastStreamId, clearHeaderBlockAssembly]
    split <;> rfl

theorem feedPrefaceByte_of_failed {c : Http2Connection D E H}
    (h : c.state = .failed) (actual : UInt8) : c.feedPrefaceByte actual = c := by
  unfold feedPrefaceByte
  rw [if_pos (by rw [h]; decide)]

theorem apply_of_failed {codec : Http2Codec D E H}
    {c : Http2Connection D E H} (h : c.state = .failed) (e : Http2Event) :
    (c.apply codec e).state = .failed := by
  have hcalls : c.acceptsStreamOperations = false := by
    simp [acceptsStreamOperations, h]
  have hfeeds : c.feedsFrames = false := by simp [feedsFrames, h]
  cases e with
  | preface bytes =>
    exact foldl_invariant (P := fun c : Http2Connection D E H =>
      c.state = .failed) (fun c byte hc => by
        rw [feedPrefaceByte_of_failed hc]; exact hc) bytes c h
  | frame now frame => simp [apply, feedFrame, hfeeds, h]
  | frameDecodeFailure kind message =>
    simp [apply, feedDecodeFailure, hfeeds, h]
  | creditReceivedData streamId byteCount =>
    simp only [apply, creditReceivedData, h, if_true]
    split <;> exact h
  | sendGoAway reason => simp [apply, sendGoAway, h]
  | abortStream streamId reason errorCode =>
    simpa [apply, abortStream, hcalls] using h
  | failConnection errorCode reason =>
    simp only [apply, failConnection, h, if_true]
    split <;> exact h
  | sendResponseHeaders streamId statusCode headerFields endStream =>
    simpa [apply, sendResponseHeaders, hcalls] using h
  | sendResponseTrailers streamId trailerFields =>
    simpa [apply, sendResponseTrailers, hcalls] using h
  | sendResponseData streamId data endStream =>
    simpa [apply, sendResponseData, hcalls] using h
  | takeOutgoingBytes => exact h
  | takeRequests => exact h
  | takeReceivedData => exact h

end Http2Connection

end AsynGyanis.Http2
