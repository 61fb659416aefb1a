import AsynGyanis.Http3.Connection

/-!
# Who asks whether the connection drains

Only the first step of a request stream does: it turns a new stream away at
or above the boundary. All that comes after works on the record of the
stream and never looks at the drain, so setting or clearing the mark before
a call is the same as setting or clearing it afterwards.
-/

namespace AsynGyanis.Http3

open Quic Library

variable {D E V : Type}

namespace Http3Connection

/-- The connection with its drain mark set or taken away. -/
def withDraining (c : Http3Connection D E V) (isDraining : Bool) : Http3Connection D E V :=
  { c with isDraining := isDraining }

variable (fields : List QpackHeaderField)

section Fields

variable (c : Http3Connection D E V) (isDraining : Bool)

@[simp] theorem withDraining_configuration :
    (c.withDraining isDraining).configuration = c.configuration := rfl

@[simp] theorem withDraining_streams : (c.withDraining isDraining).streams = c.streams := rfl

@[simp] theorem withDraining_isBroken : (c.withDraining isDraining).isBroken = c.isBroken := rfl

@[simp] theorem withDraining_qpackDecoder :
    (c.withDraining isDraining).qpackDecoder = c.qpackDecoder := rfl

@[simp] theorem withDraining_streamState (streamId : Nat) :
    (c.withDraining isDraining).streamState streamId = c.streamState streamId := rfl

@[simp] theorem withDraining_readerByteCount (streamId : Nat) :
    (c.withDraining isDraining).readerByteCount streamId = c.readerByteCount streamId := rfl

@[simp] theorem withDraining_isLocalServer :
    (c.withDraining isDraining).isLocalServer = c.isLocalServer := rfl

@[simp] theorem withDraining_inboundMessageKind :
    (c.withDraining isDraining).inboundMessageKind = c.inboundMessageKind := rfl

@[simp] theorem withDraining_isInboundInformationalSection (isTrailers : Bool) :
    (c.withDraining isDraining).isInboundInformationalSection fields isTrailers =
      c.isInboundInformationalSection fields isTrailers := rfl

@[simp] theorem ite_withDraining (p : Prop) [Decidable p] (a b : Http3Connection D E V) :
    (if p then a else b).withDraining isDraining =
      if p then a.withDraining isDraining else b.withDraining isDraining :=
  apply_ite (fun c => c.withDraining isDraining) p a b

end Fields

variable (codec : Http3Codec D E V) (c : Http3Connection D E V)
  (isDraining : Bool)
variable (streamId : Nat)

@[simp] theorem emit_withDraining (output : Http3Output) :
    (c.withDraining isDraining).emit output = (c.emit output).withDraining isDraining := rfl

@[simp] theorem credit_withDraining (streamId byteCount : Nat) :
    (c.withDraining isDraining).credit streamId byteCount =
      (c.credit streamId byteCount).withDraining isDraining := by
  simp [credit]

@[simp] theorem breakConnection_withDraining (errorCode : Http3ErrorCode) (reason : String) :
    (c.withDraining isDraining).breakConnection errorCode reason =
      (c.breakConnection errorCode reason).withDraining isDraining := by
  unfold breakConnection
  rw [ite_withDraining]
  rfl

@[simp] theorem modifyStream_withDraining (update : StreamState V → StreamState V) :
    (c.withDraining isDraining).modifyStream streamId update =
      (c.modifyStream streamId update).withDraining isDraining := by
  unfold modifyStream
  rw [withDraining_streams]
  cases c.streams.find? streamId with
  | some state => rfl
  | none => rfl

@[simp] theorem noteUncredited_withDraining (streamId byteCount : Nat) :
    (c.withDraining isDraining).noteUncredited streamId byteCount =
      (c.noteUncredited streamId byteCount).withDraining isDraining := by
  simp [noteUncredited]

@[simp] theorem eraseStream_withDraining :
    (c.withDraining isDraining).eraseStream streamId =
      (c.eraseStream streamId).withDraining isDraining :=
  noteUncredited_withDraining { c with streams := c.streams.erase streamId }
    isDraining streamId (c.heldByteCount streamId)

@[simp] theorem noteStranded_withDraining :
    (c.withDraining isDraining).noteStranded streamId =
      (c.noteStranded streamId).withDraining isDraining := by
  unfold noteStranded
  rw [ite_withDraining]
  exact if_congr Iff.rfl rfl rfl

@[simp] theorem queueOutboundBytes_withDraining (bytes : Bytes) (isEndStream : Bool) :
    (c.withDraining isDraining).queueOutboundBytes streamId bytes isEndStream =
      (c.queueOutboundBytes streamId bytes isEndStream).withDraining
        isDraining := by
  unfold queueOutboundBytes
  rw [ite_withDraining]
  refine if_congr Iff.rfl rfl ?_
  dsimp only [withDraining, emit]
  cases c.outbound.find? streamId with
  | some outbound => rfl
  | none => rfl

@[simp] theorem discardOutbound_withDraining :
    (c.withDraining isDraining).discardOutbound streamId =
      (c.discardOutbound streamId).withDraining isDraining := rfl

theorem decoder_withDraining (decoder : D) (bytes : Bytes) :
    { c.withDraining isDraining with qpackDecoder := decoder }.queueDecoderInstructions bytes =
    ({ c with qpackDecoder := decoder }.queueDecoderInstructions
      bytes).withDraining isDraining := by
  unfold queueDecoderInstructions
  rw [ite_withDraining]
  refine if_congr Iff.rfl rfl ?_
  exact queueOutboundBytes_withDraining { c with qpackDecoder := decoder } isDraining _ _ _

@[simp] theorem noteStreamClosedByEncoder_withDraining :
    (c.withDraining isDraining).noteStreamClosedByEncoder codec streamId =
      (c.noteStreamClosedByEncoder codec streamId).withDraining isDraining := rfl

@[simp] theorem abandonInboundFieldSections_withDraining :
    (c.withDraining isDraining).abandonInboundFieldSections codec streamId =
      (c.abandonInboundFieldSections codec streamId).withDraining
        isDraining := by
  unfold abandonInboundFieldSections
  rw [ite_withDraining]
  exact if_congr Iff.rfl (decoder_withDraining c isDraining _ _) rfl

@[simp] theorem closeStreamIfDone_withDraining :
    (c.withDraining isDraining).closeStreamIfDone codec streamId =
      (c.closeStreamIfDone codec streamId).withDraining isDraining := by
  unfold closeStreamIfDone
  rw [withDraining_streams]
  cases c.streams.find? streamId with
  | some state => simp
  | none => rfl

@[simp] theorem failStream_withDraining (errorCode : Http3ErrorCode) (reason : String) :
    (c.withDraining isDraining).failStream codec streamId errorCode reason =
      (c.failStream codec streamId errorCode reason).withDraining
        isDraining := by
  simp [failStream]

@[simp] theorem pruneAbandonedStream_withDraining :
    (c.withDraining isDraining).pruneAbandonedStream streamId =
      (c.pruneAbandonedStream streamId).withDraining isDraining := by
  simp [pruneAbandonedStream]

@[simp] theorem rejectRequestHead_withDraining (reason : String) :
    (c.withDraining isDraining).rejectRequestHead codec streamId reason =
      (c.rejectRequestHead codec streamId reason).withDraining
        isDraining := by
  simp [rejectRequestHead]

@[simp] theorem noteFieldSectionDelivered_withDraining :
    (c.withDraining isDraining).noteFieldSectionDelivered codec streamId =
      (c.noteFieldSectionDelivered codec streamId).withDraining isDraining :=
  decoder_withDraining c isDraining _ _

@[simp] theorem handOverFieldSection_withDraining (isTrailers : Bool) :
    (c.withDraining isDraining).handOverFieldSection codec streamId fields isTrailers =
      (c.handOverFieldSection codec streamId fields isTrailers).withDraining isDraining := by
  have hfields : ∀ c : Http3Connection D E V, fields.foldl (fun c field =>
        c.emit (.headerField streamId field isTrailers))
        (c.withDraining isDraining) =
      (fields.foldl (fun c field =>
        c.emit (.headerField streamId field isTrailers)) c).withDraining
          isDraining := by
    induction fields with
    | nil => exact fun _ => rfl
    | cons field rest ih => exact fun c => ih (c.emit _)
  simp [handOverFieldSection, hfields]

@[simp] theorem deliverFieldSection_withDraining (isTrailers : Bool) :
    (c.withDraining isDraining).deliverFieldSection codec streamId fields isTrailers =
      (c.deliverFieldSection codec streamId fields isTrailers).withDraining isDraining := by
  unfold deliverFieldSection
  simp only [withDraining_configuration, withDraining_streamState,
    withDraining_inboundMessageKind, modifyStream_withDraining,
    withDraining_isInboundInformationalSection, ite_withDraining]
  refine if_congr Iff.rfl ?_ ?_
  · rcases judgeFieldSection codec _ isTrailers fields with
      ⟨_ | message, validator⟩
    · exact noteFieldSectionDelivered_withDraining _ _ _ _
    · exact rejectRequestHead_withDraining _ _ _ _ _
  rcases judgeFieldSection codec _ isTrailers fields with
    ⟨_ | message, validator⟩
  · exact handOverFieldSection_withDraining _ _ _ _ _ _
  · exact rejectRequestHead_withDraining _ _ _ _ _

@[simp] theorem finishRequestStreamIfEnded_withDraining :
    (c.withDraining isDraining).finishRequestStreamIfEnded codec streamId =
      (c.finishRequestStreamIfEnded codec streamId).withDraining
        isDraining := by
  unfold finishRequestStreamIfEnded
  simp only [withDraining_streamState, withDraining_isLocalServer,
    failStream_withDraining, emit_withDraining,
    closeStreamIfDone_withDraining, ite_withDraining]
  exact if_congr Iff.rfl (if_congr Iff.rfl rfl rfl) (if_congr Iff.rfl rfl rfl)

@[simp] theorem handleHeadersFrame_withDraining (encodedFieldSection : Bytes) :
    (c.withDraining isDraining).handleHeadersFrame codec streamId encodedFieldSection =
      (c.handleHeadersFrame codec streamId encodedFieldSection).withDraining
        isDraining := by
  unfold handleHeadersFrame
  simp only [withDraining_streamState, failStream_withDraining,
    modifyStream_withDraining, emit_withDraining, ite_withDraining]
  refine if_congr Iff.rfl rfl ?_
  simp only [decoder_withDraining, withDraining_qpackDecoder]
  split
  · exact breakConnection_withDraining _ _ _ _
  · exact modifyStream_withDraining _ _ _ _
  simp

@[simp] theorem handleDataFrame_withDraining (payload : Bytes) :
    (c.withDraining isDraining).handleDataFrame codec streamId payload =
      (c.handleDataFrame codec streamId payload).withDraining isDraining := by
  simp [handleDataFrame]

@[simp] theorem handleRequestFrame_withDraining (frame : Http3Frame) :
    (c.withDraining isDraining).handleRequestFrame codec streamId frame =
      (c.handleRequestFrame codec streamId frame).withDraining
        isDraining := by
  unfold handleRequestFrame
  rw [ite_withDraining]
  refine if_congr Iff.rfl (breakConnection_withDraining _ _ _ _) ?_
  cases frame with
  | headers _ => exact handleHeadersFrame_withDraining _ _ _ _ _
  | data _ => exact handleDataFrame_withDraining _ _ _ _ _
  | unknown _ _ => rfl
  | _ => simp

@[simp] theorem creditConsumedBytes_withDraining (streamId payloadByteCount : Nat) :
    (c.withDraining isDraining).creditConsumedBytes streamId payloadByteCount =
      (c.creditConsumedBytes streamId payloadByteCount).withDraining
        isDraining := by
  unfold creditConsumedBytes
  simp only [withDraining_streamState, withDraining_configuration,
    modifyStream_withDraining, credit_withDraining]
  split
  · rfl
  · rw [ite_withDraining]

theorem feedReader_withDraining (data : Bytes) :
    (c.withDraining isDraining).feedReader streamId data =
      ((c.feedReader streamId data).1, (c.feedReader streamId data).2.withDraining isDraining) := by
  simp [feedReader]

theorem consumeRequestFrames_withDraining (streamId rounds payloadByteCount : Nat) :
    consumeRequestFrames codec streamId rounds payloadByteCount (c.withDraining isDraining) =
      ((consumeRequestFrames codec streamId rounds payloadByteCount c).1.withDraining isDraining,
        (consumeRequestFrames codec streamId rounds payloadByteCount c).2) := by
  induction rounds generalizing c payloadByteCount with
  | zero => rfl
  | succ rounds ih =>
    unfold consumeRequestFrames
    simp only [withDraining_isBroken, withDraining_streamState,
      modifyStream_withDraining, breakConnection_withDraining,
      handleRequestFrame_withDraining, ih]
    split
    · rfl
    split
    · rfl
    split
    · rfl
    · rfl
    · rfl

theorem processRequestStream_withDraining (data : Bytes) (isEndStream : Bool) :
    (c.withDraining isDraining).processRequestStream codec streamId data isEndStream =
      (c.processRequestStream codec streamId data isEndStream).withDraining
        isDraining := by
  unfold processRequestStream
  simp only [withDraining_streamState, credit_withDraining,
    feedReader_withDraining, ite_withDraining]
  refine if_congr Iff.rfl rfl ?_
  rcases c.feedReader streamId data with ⟨_ | error, d⟩
  · simp only [withDraining_readerByteCount, consumeRequestFrames_withDraining]
    rcases consumeRequestFrames codec streamId (d.readerByteCount streamId) 0
      d with ⟨d', _ | payloadByteCount⟩
    · rfl
    · simp [apply_ite (fun c => pruneAbandonedStream c streamId)]
  · exact breakConnection_withDraining _ _ _ _

@[simp] theorem ensureStream_withDraining :
    (c.withDraining isDraining).ensureStream streamId =
      (c.ensureStream streamId).withDraining isDraining := by
  unfold ensureStream
  rw [withDraining_streams]
  cases c.streams.find? streamId with
  | some state => rfl
  | none => rfl

theorem consumeRequestStream_below {streamId : Nat} (data : Bytes)
    (isEndStream : Bool) (hbelow : streamId < c.rejectedFromStreamId) :
    c.consumeRequestStream codec streamId data isEndStream =
      (if (c.streams.find? streamId).isNone &&
          (c.ensureStream streamId).lastProcessedRequestStreamId.all (· < streamId) then
        { c.ensureStream streamId with
          lastProcessedRequestStreamId := some streamId }
      else c.ensureStream streamId).processRequestStream codec streamId data
        isEndStream := by
  unfold consumeRequestStream
  simp [hbelow]

theorem consumeStreamData_withDraining {streamId : Nat} (data : Bytes) (isEndStream : Bool)
    (hbidirectional : isUnidirectionalStream streamId = false)
    (hbelow : streamId < c.rejectedFromStreamId) :
    (c.withDraining isDraining).consumeStreamData codec streamId data isEndStream =
      (c.consumeStreamData codec streamId data isEndStream).withDraining
        isDraining := by
  have hrequest : (c.withDraining isDraining).consumeRequestStream codec streamId data isEndStream =
        (c.consumeRequestStream codec streamId data isEndStream).withDraining isDraining := by
    rw [consumeRequestStream_below codec c data isEndStream hbelow,
      consumeRequestStream_below codec (c.withDraining isDraining) data
        isEndStream hbelow, ensureStream_withDraining,
      ← processRequestStream_withDraining, ite_withDraining]
    rfl
  unfold consumeStreamData
  simp only [hbidirectional, Bool.false_eq_true, if_false, ite_withDraining,
    hrequest, credit_withDraining]
  rfl

end Http3Connection

end AsynGyanis.Http3
