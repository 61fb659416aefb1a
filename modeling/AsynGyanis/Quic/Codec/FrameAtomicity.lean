import AsynGyanis.Quic.Codec.Frame

/-!
# What a refused frame leaves in the buffer

`appendQuicFrame` throws when a frame cannot be encoded. The overloads for
ACK and NEW_CONNECTION_ID check their frame before the first byte is
written; every other field is looked at when its turn comes, with what
stands in front of it in the buffer already. `appendQuicFrameInto` is the
encoder with the buffer the caller is left with, and
`appendQuicFrame_atomic_iff` says which frames leave that buffer alone.
-/

namespace AsynGyanis.Quic

/-! ## The encoder and the buffer -/

/-- The checks an overload makes before it writes. -/
def passesChecks : QuicFrame → Bool
  | .acknowledgement frame =>
    (requireEncodableAcknowledgementRanges frame).isOk
  | .newConnectionId frame =>
    kQuicMinimumIssuedConnectionIdLength ≤ frame.connectionId.length &&
      frame.connectionId.length ≤ kQuicMaximumConnectionIdLength &&
      frame.statelessResetToken.length == kQuicStatelessResetTokenByteLength
  | _ => true

/-- The integers behind the type, one call after the other. -/
def frameFields : QuicFrame → List Nat
  | .padding | .ping | .handshakeDone | .pathChallenge _ | .pathResponse _ => []
  | .acknowledgement frame => (acknowledgementIntegers frame).tail
  | .resetStream frame =>
    [frame.streamId, frame.applicationErrorCode, frame.finalSize]
  | .stopSending frame => [frame.streamId, frame.applicationErrorCode]
  | .crypto frame => [frame.offset, frame.data.length]
  | .newToken token => [token.length]
  | .stream frame =>
    frame.streamId :: (if frame.offset ≠ 0 then [frame.offset] else []) ++ [frame.data.length]
  | .maxData frame => [frame.maximumData]
  | .dataBlocked maximumData => [maximumData]
  | .maxStreamData frame => [frame.streamId, frame.maximumStreamData]
  | .maxStreams frame => [frame.maximumStreams]
  | .streamDataBlocked frame => [frame.streamId, frame.streamDataLimit]
  | .streamsBlocked frame => [frame.streamLimit]
  | .newConnectionId frame => [frame.sequenceNumber, frame.retirePriorTo]
  | .retireConnectionId sequenceNumber => [sequenceNumber]
  | .connectionClose frame =>
    frame.errorCode :: frame.triggeredFrameType.toList ++ [frame.reasonPhrase.length]

/-- The raw bytes at the end. -/
def frameRawBytes : QuicFrame → Bytes
  | .crypto frame => frame.data
  | .newToken token => token
  | .stream frame => frame.data
  | .newConnectionId frame =>
    UInt8.ofNat frame.connectionId.length :: frame.connectionId ++ frame.statelessResetToken
  | .pathChallenge data | .pathResponse data => data.toList
  | .connectionClose frame => frame.reasonPhrase
  | _ => []

/-- The buffer after a row of calls, and whether one of them threw. -/
def appendQuicIntegersInto (bytes : Bytes) : List Nat → Bytes × Bool
  | [] => (bytes, false)
  | value :: rest =>
    match appendQuicVariableLengthInteger bytes value with
    | .error _ => (bytes, true)
    | .ok bytes => appendQuicIntegersInto bytes rest

/-- `appendQuicFrame` with the buffer as it is afterwards, and whether it
threw. -/
def appendQuicFrameInto (bytes : Bytes) (frame : QuicFrame) : Bytes × Bool :=
  if !passesChecks frame then (bytes, true)
  else
    match appendQuicIntegersInto bytes (quicFrameTypeValue frame :: frameFields frame) with
    | (bytes, true) => (bytes, true)
    | (bytes, false) => (bytes ++ frameRawBytes frame, false)

/-- The buffer of a call that returned. -/
def returned : Bytes × Bool → Option Bytes
  | (_, true) => none
  | (out, false) => some out

theorem appendQuicIntegers_toOption (bytes : Bytes) (values : List Nat) :
    (appendQuicIntegers bytes values).toOption =
      returned (appendQuicIntegersInto bytes values) := by
  induction values generalizing bytes with
  | nil => rfl
  | cons value rest ih =>
    unfold appendQuicIntegers appendQuicIntegersInto
    cases appendQuicVariableLengthInteger bytes value with
    | error message => rfl
    | ok bytes => exact ih bytes

/-- When the call throws, the buffer is what it was. -/
def IsAtomicOn (bytes : Bytes) (frame : QuicFrame) : Prop :=
  (appendQuicFrameInto bytes frame).2 = true → (appendQuicFrameInto bytes frame).1 = bytes

theorem quicFrameTypeValue_byteCount (frame : QuicFrame) :
    quicVariableLengthIntegerByteCount (quicFrameTypeValue frame) = 1 := by
  unfold quicFrameTypeValue
  split
  case h_8 => exact streamFrameTypeValue_byteCount _ _
  -- the type of some depends on a flag
  all_goals first
    | rfl
    | (split <;> rfl)

theorem appendQuicIntegersInto_grows (bytes : Bytes) (values : List Nat) :
    bytes.length ≤ (appendQuicIntegersInto bytes values).1.length := by
  induction values generalizing bytes with
  | nil => exact Nat.le_refl _
  | cons value rest ih =>
    unfold appendQuicIntegersInto
    split
    · exact Nat.le_refl _
    rename_i out happend
    have hlength := appendQuicVariableLengthInteger_length happend
    have hrest := ih out
    omega

/-- A frame that is refused leaves the buffer alone exactly when its
overload refuses it before writing: of frames that pass that, those with a
field past 2^62 - 1 leave what stands in front of the field. -/
theorem appendQuicFrame_atomic_iff (bytes : Bytes) (frame : QuicFrame) :
    IsAtomicOn bytes frame ↔ passesChecks frame = false ∨
        ∀ value ∈ frameFields frame, value ≤ kQuicMaximumIntegerValue := by
  unfold IsAtomicOn appendQuicFrameInto
  cases hpasses : passesChecks frame with
  | false => simp
  | true =>
    have htype := quicFrameTypeValue_byteCount frame
    obtain ⟨out, hout⟩ : ∃ out, appendQuicVariableLengthInteger bytes
        (quicFrameTypeValue frame) = .ok out := by
      unfold appendQuicVariableLengthInteger
      rw [htype]
      exact ⟨_, rfl⟩
    have hlonger := appendQuicVariableLengthInteger_length hout
    have hgrows := appendQuicIntegersInto_grows out (frameFields frame)
    have hfits := @appendQuicIntegers_ok_iff (frameFields frame) out
    have hcall := appendQuicIntegers_toOption out (frameFields frame)
    rw [← hfits]
    unfold appendQuicIntegersInto
    rw [hout]
    dsimp only
    generalize appendQuicIntegersInto out (frameFields frame) = written at hgrows hcall ⊢
    obtain ⟨buffer, _ | _⟩ := written
    · refine iff_of_true nofun (.inr ?_)
      cases hwritten : appendQuicIntegers out (frameFields frame) with
      | error message => exact nomatch hwritten ▸ hcall
      | ok result => exact ⟨result, rfl⟩
    refine iff_of_false (fun h => ?_) ?_
    · have hsame : buffer = bytes := h rfl
      have hshorter : out.length ≤ bytes.length := hsame ▸ hgrows
      omega
    rintro (h | ⟨result, h⟩)
    · cases h
    · exact nomatch h ▸ hcall

/-- RESET_STREAM with a final size of 2^62: type, stream and error code are
written. -/
theorem reset_of_large_size_partly_written :
    appendQuicFrameInto [] (.resetStream { finalSize := 2 ^ 62 }) = ([4, 0, 0], true) ∧
      ¬IsAtomicOn [] (.resetStream { finalSize := 2 ^ 62 }) := by
  unfold IsAtomicOn
  decide +kernel

end AsynGyanis.Quic
