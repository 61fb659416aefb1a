import AsynGyanis.Quic.Streams.State

/-!
# The stream layer's entry points

One definition for each public operation except `collectFrames`, which has
a module of its own. A frame handler returns its status next to the layer:
a violation does not undo what the handler did before it noticed (a stream
record created just before its first frame overruns the window stays), and
the connection is closed by the caller.

The receiving half (`onStreamFrame`, `onResetStreamFrame`) and the sending
half (`writeStreamData`, `onSendRangesAcknowledged`, `onSendRangesLost`)
share nothing but the tables' notion of which streams are retired. Both
ask it before they look a stream up or create it.
-/

namespace AsynGyanis.Quic

open Library

namespace QuicStreamLayer

variable (layer : QuicStreamLayer) (streamId : Nat) (stream : OutgoingStream)

def adoptPeerParameters (peerParameters : QuicTransportParameters) : QuicStreamLayer :=
  let layer := { layer with
    peerParameters := peerParameters
    hasPeerParameters := true
    connectionSendLimit := peerParameters.initialMaximumData
    outgoingBidirectionalLimit := peerParameters.initialMaximumBidirectionalStreams
    outgoingUnidirectionalLimit := peerParameters.initialMaximumUnidirectionalStreams }
  layer.outgoing.keys.foldl (fun layer streamId =>
    match layer.outgoing.find? streamId, layer.initialSendWindowFor streamId with
    | some stream, some window =>
      layer.setOutgoing streamId { stream with streamLimit := window }
    | _, _ => layer) layer

/-! ## Receiving STREAM frames -/

/-- What the lookup at the head of `onStreamFrame` decides. -/
inductive StreamAdmission
  | ignored
  | refused (status : QuicStreamViolationStatus)
  | admitted (layer : QuicStreamLayer)

def streamKindText : String :=
  if isUnidirectional streamId then "单" else "双"

/-- Finding or creating the record a STREAM frame is for. -/
def admitStreamFrame :
    StreamAdmission :=
  match layer.incoming.find? streamId with
  | some _ => .admitted layer
  | none =>
    if layer.isPeerStreamSideRetired streamId true then .ignored
    else if layer.isLocalBidiStreamSideRetired streamId true then .ignored
    else if layer.isLocallyInitiated streamId then
      if isUnidirectional streamId then
        .refused (makeViolation kProtocolViolation s!"对端在本端发起的单向流 {streamId} 上发了数据（RFC 9000 §2.1）")
      else if (layer.outgoing.find? streamId).isNone &&
          !layer.isLocalBidiStreamSideRetired streamId false then
        .refused (makeViolation kProtocolViolation s!"对端在本端还没发起的双向流 {streamId} 上回了数据（RFC 9000 §3）")
      else .admitted (layer.createIncomingStream streamId)
    else if streamIndexOfType streamId ≥ layer.advertisedStreamsOf streamId then
      .refused (makeViolation kStreamLimitError s!"对端发起了第 {streamIndexOfType streamId} 条{streamKindText streamId}向流，超出本端宣告的上限 {layer.advertisedStreamsOf streamId}（RFC 9000 §4.6）")
    else .admitted (layer.createIncomingStream streamId)

/-- `drainContiguousBytes`: deliver what has become contiguous, and the
final mark with it, once. -/
def drainContiguousBytes (stream : IncomingStream)
    (streamId : Nat) : IncomingStream × QuicStreamLayer :=
  let drained := stream.reassembly.drain
  let stream := { stream with reassembly := drained.2 }
  let isFinal := stream.finalOffset = some stream.reassembly.deliveredOffset
  if drained.1 = [] ∧ ¬ (isFinal ∧ stream.isFinalDelivered = false) then
    (stream, layer)
  else
    ({ stream with isFinalDelivered := stream.isFinalDelivered || isFinal },
      { layer with
        deliveries := layer.deliveries.pushBack ⟨streamId, drained.1, isFinal⟩ })

/-- The tail of `onStreamFrame`, once every check has passed. -/
def storeStreamFrame (stream : IncomingStream) (frame : QuicStreamFrame) : QuicStreamLayer :=
  let endOffset := frame.offset + frame.data.length
  let fresh := endOffset - stream.receivedHighWaterOffset
  let layer := { layer with
    connectionReceivedBytes := layer.connectionReceivedBytes + fresh }
  let stream := { stream with
    receivedHighWaterOffset := stream.receivedHighWaterOffset + fresh
    reassembly := stream.reassembly.insert frame.offset frame.data }
  let drained := layer.drainContiguousBytes stream frame.streamId
  let stream := drained.1
  let stream :=
    if stream.finalOffset = some stream.reassembly.deliveredOffset then
      { stream with isFinished := true, receiveStop := none }
    else stream
  drained.2.setIncoming frame.streamId stream

/-- The checks of `onStreamFrame` on a record that exists. -/
def receiveStreamFrame (stream : IncomingStream)
    (frame : QuicStreamFrame) : QuicStreamViolationStatus × QuicStreamLayer :=
  let endOffset := frame.offset + frame.data.length
  if stream.isReset then (.ok (), layer)
  else if endOffset > stream.streamLimit then
    (makeViolation kFlowControlError s!"流 {frame.streamId} 的偏移到了 {endOffset}，超出本端宣告的接收上限 {stream.streamLimit}（RFC 9000 §4.5）", layer)
  else if endOffset > stream.receivedHighWaterOffset ∧ layer.connectionReceivedBytes +
        (endOffset - stream.receivedHighWaterOffset) > layer.connectionAdvertisedLimit then
    (makeViolation kFlowControlError s!"各流累计偏移将超过连接级上限 {layer.connectionAdvertisedLimit}（RFC 9000 §4.1）", layer)
  else if stream.finalOffset.any (fun final => endOffset > final) then
    (makeViolation kFinalSizeError s!"流 {frame.streamId} 已经收尾在 {stream.finalOffset.getD 0}，又收到越过该长度的数据（RFC 9000 §4.5）", layer)
  else if frame.isFinal && stream.finalOffset.any (fun final => final ≠ endOffset) then
    (makeViolation kFinalSizeError s!"流 {frame.streamId} 两次收尾长度不一致：{stream.finalOffset.getD 0} 与 {endOffset}（RFC 9000 §4.5）", layer)
  else
    let stream :=
      if frame.isFinal then { stream with finalOffset := some endOffset }
      else stream
    if stream.isFinished then (.ok (), layer.setIncoming frame.streamId stream)
    else (.ok (), layer.storeStreamFrame stream frame)

def onStreamFrame (frame : QuicStreamFrame) : QuicStreamViolationStatus × QuicStreamLayer :=
  match layer.admitStreamFrame frame.streamId with
  | .ignored => (.ok (), layer)
  | .refused status => (status, layer)
  | .admitted layer =>
    match layer.incoming.find? frame.streamId with
    | none => (.ok (), layer)
    | some stream => layer.receiveStreamFrame stream frame

/-! ## The other frames -/

def onMaxDataFrame (frame : QuicMaxDataFrame) : QuicStreamViolationStatus × QuicStreamLayer :=
  (.ok (), { layer with
    connectionSendLimit := max layer.connectionSendLimit frame.maximumData })

def onMaxStreamDataFrame (frame : QuicMaxStreamDataFrame) :
    QuicStreamViolationStatus × QuicStreamLayer :=
  let raise (layer : QuicStreamLayer) (stream : OutgoingStream) :=
    layer.setOutgoing frame.streamId { stream with
      streamLimit := max stream.streamLimit frame.maximumStreamData }
  if isUnidirectional frame.streamId && !layer.isLocallyInitiated frame.streamId then
    (makeViolation kStreamStateError s!"对端在本端无权发送的单向流 {frame.streamId} 上发了 MAX_STREAM_DATA（RFC 9000 §4.6）", layer)
  else
    match layer.outgoing.find? frame.streamId with
    | some stream => (.ok (), raise layer stream)
    | none =>
      if layer.isPeerStreamSideRetired frame.streamId false ||
          layer.isLocalBidiStreamSideRetired frame.streamId false then
        (.ok (), layer)
      else if layer.isLocallyInitiated frame.streamId then
        (makeViolation kStreamStateError s!"对端给了本端尚未创建的本端发起流 {frame.streamId} 额度（RFC 9000 §19.10）", layer)
      else if streamIndexOfType frame.streamId ≥ layer.advertisedBidirectionalStreams then
        (makeViolation kStreamLimitError s!"对端给了超出本端宣告上限 {layer.advertisedBidirectionalStreams} 的双向流 {frame.streamId} 额度（RFC 9000 §4.6）", layer)
      else
        (.ok (), raise layer { streamLimit := (layer.initialSendWindowFor frame.streamId).getD 0 })

def onMaxStreamsFrame (frame : QuicMaxStreamsFrame) : QuicStreamViolationStatus × QuicStreamLayer :=
  if frame.maximumStreams > kQuicMaximumStreamLimitValue then
    let kind := if frame.isUnidirectional then "单向" else "双向"
    (makeViolation kFrameEncodingError s!"对端通告的 {kind} 向流数上限 {frame.maximumStreams} 超过 2^60（RFC 9000 §4.6），再按它算流号就超出变长整数能表达的范围", layer)
  else if frame.isUnidirectional then
    (.ok (), { layer with
      outgoingUnidirectionalLimit := max layer.outgoingUnidirectionalLimit frame.maximumStreams })
  else
    (.ok (), { layer with
      outgoingBidirectionalLimit := max layer.outgoingBidirectionalLimit frame.maximumStreams })

def onResetStreamFrame (frame : QuicResetStreamFrame) :
    QuicStreamViolationStatus × QuicStreamLayer :=
  if isUnidirectional frame.streamId && layer.isLocallyInitiated frame.streamId then
    (makeViolation kStreamStateError s!"对端复位了本端发起的单向流 {frame.streamId}（RFC 9000 §4.5）", layer)
  else
    match layer.incoming.find? frame.streamId with
    | none =>
      if !layer.isLocallyInitiated frame.streamId && streamIndexOfType frame.streamId ≥
            layer.advertisedStreamsOf frame.streamId then
        (makeViolation kStreamLimitError s!"对端复位了第 {streamIndexOfType frame.streamId} 条{streamKindText frame.streamId}向流 {frame.streamId}，超出本端宣告的上限 {layer.advertisedStreamsOf frame.streamId}（RFC 9000 §4.6）", layer)
      else (.ok (), layer)
    | some stream =>
      let deliveredOffset := stream.reassembly.deliveredOffset
      if stream.finalOffset.any (fun final => final ≠ frame.finalSize) then
        (makeViolation kFinalSizeError s!"流 {frame.streamId} 的 RESET_STREAM 收尾长度是 {frame.finalSize}，与已知的 {stream.finalOffset.getD 0} 不符（RFC 9000 §4.5）", layer)
      else if frame.finalSize < deliveredOffset then
        (makeViolation kFinalSizeError s!"流 {frame.streamId} 的 RESET_STREAM 收尾长度 {frame.finalSize} 小于已交付的 {deliveredOffset}", layer)
      else
        -- only the first reset settles what will never be delivered: the
        -- buffer is emptied here, so a second one would count from 0
        let stream :=
          if stream.isReset then stream
          else { stream with
            discardedByteCount := stream.receivedHighWaterOffset - deliveredOffset
            reassembly := .empty }
        let stream := { stream with
          finalOffset := some frame.finalSize
          isReset := true
          receiveStop := none }
        let layer := layer.setIncoming frame.streamId stream
        (.ok (), { layer with
          abortedStreams := layer.abortedStreams.pushBack
            ⟨frame.streamId, frame.applicationErrorCode, true⟩ })

/-- What a STOP_SENDING does to the sending side it names. -/
def stopOutgoing (applicationErrorCode : Nat) :
    OutgoingStream :=
  let stream := { stream with pendingQueue := [], isAborted := true }
  if !stream.isFinalSentToPeer && stream.sendAbort.isNone then
    { stream with
      sendAbort := some ⟨applicationErrorCode, stream.sentHighWater, false, false⟩
      finalOffset := some stream.sentHighWater
      inFlight := .empty }
  else stream

def onStopSendingFrame (frame : QuicStopSendingFrame) :
    QuicStreamViolationStatus × QuicStreamLayer :=
  let stop (layer : QuicStreamLayer) : QuicStreamViolationStatus × QuicStreamLayer :=
    let (stream, layer) := layer.outgoingStream frame.streamId
    if stream.isAborted then (.ok (), layer)
    else
      let layer := layer.setOutgoing frame.streamId (stopOutgoing stream frame.applicationErrorCode)
      (.ok (), { layer with
        abortedStreams := layer.abortedStreams.pushBack
          ⟨frame.streamId, frame.applicationErrorCode, false⟩ })
  if isUnidirectional frame.streamId && !layer.isLocallyInitiated frame.streamId then
    (makeViolation kStreamStateError s!"对端让本端停止发送本端只能收的单向流 {frame.streamId}（RFC 9000 §4.5）", layer)
  else if layer.isPeerStreamSideRetired frame.streamId false ||
      layer.isLocalBidiStreamSideRetired frame.streamId false then
    (.ok (), layer)
  else if layer.isLocallyInitiated frame.streamId then
    if (layer.outgoing.find? frame.streamId).isNone then
      (makeViolation kStreamStateError s!"对端叫停了本端尚未创建的本端发起流 {frame.streamId}（RFC 9000 §19.5）", layer)
    else stop layer
  else if streamIndexOfType frame.streamId ≥ layer.advertisedBidirectionalStreams then
    (makeViolation kStreamLimitError s!"对端叫停了超出本端宣告上限 {layer.advertisedBidirectionalStreams} 的双向流 {frame.streamId}（RFC 9000 §4.6）", layer)
  else stop layer

/-! ## The application's side -/

/-- The limit on streams of this type the peer granted this end. -/
def outgoingLimitOf : Nat :=
  if isUnidirectional streamId then layer.outgoingUnidirectionalLimit
  else layer.outgoingBidirectionalLimit

/-- The bytes both send buffers, the stream's and the connection's, still
have room for. -/
def sendRoomOf : Nat := min (kMaximumPendingSendByteCount - pendingQueueByteCount stream)
    (kMaximumConnectionPendingSendByteCount - layer.totalPendingSendByteCount)

/-- Queueing the accepted part of a write: the FIN only goes with a write
that was taken whole. -/
def appendChunk (bytes : Bytes) (acceptedByteCount : Nat) (isFinal : Bool) : OutgoingStream :=
  let chunk : QuicStreamChunk :=
    { beginOffset := stream.nextWriteOffset
      bytes := bytes.take acceptedByteCount
      isFinal := (acceptedByteCount = bytes.length) && isFinal }
  { stream with
    nextWriteOffset := stream.nextWriteOffset + acceptedByteCount
    finalOffset :=
      if chunk.isFinal then some (stream.nextWriteOffset + acceptedByteCount)
      else stream.finalOffset
    pendingQueue := stream.pendingQueue ++ [chunk] }

def writeStreamData (bytes : Bytes) (isFinal : Bool) : Nat × QuicStreamLayer :=
  if layer.isLocallyInitiated streamId &&
      streamIndexOfType streamId ≥ layer.outgoingLimitOf streamId then
    (0, layer)
  else if layer.isPeerStreamSideRetired streamId false ||
      layer.isLocalBidiStreamSideRetired streamId false then (0, layer)
  else
    let (stream, layer) := layer.outgoingStream streamId
    if stream.isAborted || stream.finalOffset.isSome then (0, layer)
    else if bytes = [] ∧ isFinal = false then (0, layer)
    else
      let acceptedByteCount := min bytes.length (layer.sendRoomOf stream)
      if acceptedByteCount = 0 ∧ bytes ≠ [] then (0, layer)
      else
        (acceptedByteCount, layer.setOutgoing streamId
          (appendChunk stream bytes acceptedByteCount isFinal))

def takeDrainedSendByteCount : Nat × QuicStreamLayer :=
  (layer.drainedSendByteCount, { layer with drainedSendByteCount := 0 })

/-- What `resetStreamSending` does to a sending side it may still reset. -/
def resetOutgoing (applicationErrorCode : Nat) :
    OutgoingStream :=
  { stream with
    sendAbort := some ⟨applicationErrorCode, stream.sentHighWater, false, false⟩
    finalOffset := some stream.sentHighWater
    pendingQueue := []
    inFlight := .empty }

def resetStreamSending (streamId applicationErrorCode : Nat) : QuicStreamLayer :=
  if layer.isPeerStreamSideRetired streamId false ||
      layer.isLocalBidiStreamSideRetired streamId false then layer
  else
    let (stream, layer) := layer.outgoingStream streamId
    if stream.sendAbort.isSome || stream.isFinalSentToPeer || stream.finalOffset.isSome then layer
    else layer.setOutgoing streamId (resetOutgoing stream applicationErrorCode)

def stopStreamReceiving (streamId applicationErrorCode : Nat) : QuicStreamLayer :=
  match layer.incoming.find? streamId with
  | none => layer
  | some stream =>
    if stream.isReset || stream.receiveStop.isSome then layer
    else layer.setIncoming streamId { stream with
      receiveStop := some ⟨applicationErrorCode, 0, false, false⟩ }

def openUnidirectionalStream : Option Nat × QuicStreamLayer :=
  let streamId := layer.nextUnidirectionalStreamId
  if streamIndexOfType streamId ≥ layer.outgoingUnidirectionalLimit then
    (none, layer)
  else
    let layer := { layer with
      nextUnidirectionalStreamId := streamId + kStreamIdStride }
    (some streamId, (layer.outgoingStream streamId).2)

def openBidirectionalStream : Option Nat × QuicStreamLayer :=
  let streamId := layer.nextBidirectionalStreamId
  if streamIndexOfType streamId ≥ layer.outgoingBidirectionalLimit then
    (none, layer)
  else
    let layer := { layer with
      nextBidirectionalStreamId := streamId + kStreamIdStride }
    (some streamId, (layer.outgoingStream streamId).2)

/-- The stream's record after the application consumed `consumedByteCount`
more bytes. -/
def consumeIncoming (stream : IncomingStream) (consumedByteCount : Nat) : IncomingStream :=
  let consumed := stream.consumedByteCount + consumedByteCount
  let window := raiseWindowAfterConsumption consumed
    (layer.incomingInitialWindowOf streamId) stream.streamLimit
    stream.windowUpdatePending
  { stream with
    consumedByteCount := consumed
    streamLimit := window.1
    windowUpdatePending := window.2 }

def releaseReceiveWindow (streamId consumedByteCount : Nat) : QuicStreamLayer :=
  if consumedByteCount = 0 then layer
  else
    match layer.incoming.find? streamId with
    | none => layer
    | some stream =>
      let consumed := layer.connectionConsumedBytes + consumedByteCount
      let window := raiseWindowAfterConsumption consumed layer.localParameters.initialMaximumData
        layer.connectionAdvertisedLimit layer.connectionWindowUpdatePending
      let layer := layer.setIncoming streamId
        (layer.consumeIncoming streamId stream consumedByteCount)
      let layer := { layer with
        connectionConsumedBytes := consumed
        connectionAdvertisedLimit := window.1
        connectionWindowUpdatePending := window.2 }
      layer.raiseAdvertisedStreamLimits

def takeDelivery : Option QuicStreamDelivery × QuicStreamLayer :=
  let taken := layer.deliveries.takeFront
  (taken.1, { layer with deliveries := taken.2 })

def takeAbortedStream : Option QuicAbortedStream × QuicStreamLayer :=
  let taken := layer.abortedStreams.takeFront
  (taken.1, { layer with abortedStreams := taken.2 })

/-! ## Acknowledgement and loss -/

def acknowledgeRange (range : QuicStreamRange) :
    QuicStreamLayer :=
  match layer.outgoing.find? range.streamId with
  | none => layer
  | some stream => layer.setOutgoing range.streamId { stream with
      inFlight := stream.inFlight.erase range.beginOffset }

def onSendRangesAcknowledged (acknowledgedRanges : List QuicStreamRange) : QuicStreamLayer :=
  acknowledgedRanges.foldl acknowledgeRange layer

/-- A lost chunk goes back to the front of the queue with the FIN its
packet carried. -/
def requeueLost (range : QuicStreamRange) (lost : QuicStreamChunk) : OutgoingStream :=
  let stream := { stream with
    inFlight := stream.inFlight.erase range.beginOffset
    isFinalSentToPeer := !range.isFinal && stream.isFinalSentToPeer }
  if stream.isAborted then stream
  else { stream with
    pendingQueue := { lost with isFinal := range.isFinal } :: stream.pendingQueue }

def loseRange (range : QuicStreamRange) :
    QuicStreamLayer :=
  match layer.outgoing.find? range.streamId with
  | none => layer
  | some stream =>
    match stream.inFlight.find? range.beginOffset with
    | none => layer
    | some lost =>
      layer.setOutgoing range.streamId (requeueLost stream range lost)

def sortPendingQueue : OutgoingStream :=
  { stream with
    pendingQueue := stream.pendingQueue.insertionSort (fun a b => a.beginOffset ≤ b.beginOffset) }

def sortQueueOf : QuicStreamLayer :=
  match layer.outgoing.find? streamId with
  | none => layer
  | some stream => layer.setOutgoing streamId (sortPendingQueue stream)

def onSendRangesLost (lostRanges : List QuicStreamRange) : QuicStreamLayer :=
  let layer := lostRanges.foldl loseRange layer
  layer.outgoing.keys.foldl sortQueueOf layer

/-- `abortAnnouncementOf` with the update its two callers make. -/
def updateAnnouncement (update : AbortAnnouncement → AbortAnnouncement)
    (layer : QuicStreamLayer) (announcement : QuicStreamAnnouncement) :
    QuicStreamLayer :=
  if announcement.isResetStream then
    match layer.outgoing.find? announcement.streamId with
    | none => layer
    | some stream => layer.setOutgoing announcement.streamId { stream with
        sendAbort := stream.sendAbort.map update }
  else
    match layer.incoming.find? announcement.streamId with
    | none => layer
    | some stream => layer.setIncoming announcement.streamId { stream with
        receiveStop := stream.receiveStop.map update }

def onStreamAnnouncementsAcknowledged
    (acknowledged : List QuicStreamAnnouncement) : QuicStreamLayer :=
  acknowledged.foldl (updateAnnouncement fun a =>
    { a with isAcknowledged := true, isInFlight := false }) layer

def onStreamAnnouncementsLost (lost : List QuicStreamAnnouncement) : QuicStreamLayer :=
  lost.foldl (updateAnnouncement fun a =>
    if a.isAcknowledged then a else { a with isInFlight := false }) layer

end QuicStreamLayer

end AsynGyanis.Quic
