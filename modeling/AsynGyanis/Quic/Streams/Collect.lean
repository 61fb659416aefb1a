import AsynGyanis.Quic.Streams.Operations

/-!
# Collecting frames

`collectFrames` fills one packet: it first drops the records of settled
streams, then spends its byte budget on abort announcements, on window
updates and on stream data, in this order. Each collector walks a table
in ascending stream number, and the data collector does so twice, from
the rotation cursor to the end and then from the start to the cursor, so
that a large response does not always go first.

The passes are folds over the keys of a table, one small step for each
stream, with everything they change in `Collecting`. An encoder exception
ends the whole call; it is kept in `failure` and every later step is then
a no-op.

The data collector's inner loop runs on fuel. A round that goes on either
sends at least one byte or removes an empty closing chunk, so the queued
bytes plus the queued chunks bound the rounds, and that is the fuel the
definition passes.
-/

namespace AsynGyanis.Quic

open Library

namespace QuicStreamLayer

/-! ## Retiring settled streams -/

def isIncomingSettled (stream : IncomingStream) : Bool :=
  if stream.isFinished && !stream.isFinalDelivered then false
  else if !stream.isFinished && !stream.isReset then false
  else if stream.consumedByteCount + stream.discardedByteCount ≠
      stream.receivedHighWaterOffset then false
  else !stream.windowUpdatePending && stream.receiveStop.all (fun stop => stop.isAcknowledged)

def isOutgoingSettled (stream : OutgoingStream) : Bool :=
  if !stream.pendingQueue.isEmpty || !stream.inFlight.entries.isEmpty then false
  else if stream.sendAbort.any (fun abort => !abort.isAcknowledged) then false
  else stream.isFinalSentToPeer || stream.sendAbort.isSome

/-- One round of the first loop of `retireSettledStreams`. -/
def retireIncoming (layer : QuicStreamLayer) (streamId : Nat) :
    QuicStreamLayer :=
  match layer.incoming.find? streamId with
  | none => layer
  | some stream =>
    if !isIncomingSettled stream then layer
    else if layer.isLocallyInitiated streamId then
      if isUnidirectional streamId then layer
      else
        let layer := layer.noteLocalBidiStreamRetired streamId true
        { layer with incoming := layer.incoming.erase streamId }
    else
      let layer := layer.noteStreamRetired streamId true
      { layer with incoming := layer.incoming.erase streamId }

/-- One round of the second loop. -/
def retireOutgoing (layer : QuicStreamLayer) (streamId : Nat) :
    QuicStreamLayer :=
  match layer.outgoing.find? streamId with
  | none => layer
  | some stream =>
    if !isOutgoingSettled stream then layer
    else if layer.isLocallyInitiated streamId then
      if isUnidirectional streamId then layer
      else
        let layer := layer.noteLocalBidiStreamRetired streamId false
        { layer with outgoing := layer.outgoing.erase streamId }
    else
      let layer := layer.noteStreamRetired streamId false
      { layer with outgoing := layer.outgoing.erase streamId }

def retireSettledStreams (layer : QuicStreamLayer) : QuicStreamLayer :=
  let layer := layer.incoming.keys.foldl retireIncoming layer
  layer.outgoing.keys.foldl retireOutgoing layer

/-! ## Appending one frame -/

/-- `tryAppendFrame`: the buffer and the count with the frame, or nothing
when it does not fit. -/
def tryAppendFrame (frames : Bytes) (byteBudget usedByteCount : Nat)
    (frame : QuicFrame) : Except InvalidArgument (Option (Bytes × Nat)) :=
  match appendQuicFrame frames frame with
  | .error message => .error message
  | .ok appended =>
    if appended.length - frames.length > byteBudget - usedByteCount then
      .ok none
    else .ok (some (appended, usedByteCount + (appended.length - frames.length)))

/-- Everything a collection pass changes. `usedByteCount` counts from the
start of the current collector; `isStopped` is an early `return`. -/
structure Collecting where
  layer : QuicStreamLayer
  frames : Bytes
  usedByteCount : Nat := 0
  sentRanges : List QuicStreamRange := []
  announcements : List QuicStreamAnnouncement := []
  isStopped : Bool := false
  failure : Option InvalidArgument := none

variable (byteBudget : Nat) (c : Collecting) (layer : QuicStreamLayer)
variable (streamId : Nat) (frames : Bytes)

/-- Appending a frame if it fits, with what then has to be noted. -/
def Collecting.tryAppend (byteBudget : Nat)
    (frame : QuicFrame) (note : Collecting → Collecting) : Collecting :=
  if c.failure.isSome then c
  else
    match tryAppendFrame c.frames byteBudget c.usedByteCount frame with
    | .error message => { c with failure := some message }
    | .ok none => c
    | .ok (some (frames, usedByteCount)) =>
      note { c with frames := frames, usedByteCount := usedByteCount }

def owesAnnouncement (announcement : Option AbortAnnouncement) : Bool :=
  announcement.any fun a => !a.isInFlight && !a.isAcknowledged

/-! ## Abort announcements -/

def markInFlight (a : AbortAnnouncement) : AbortAnnouncement := { a with isInFlight := true }

def announceReset :
    Collecting :=
  match c.layer.outgoing.find? streamId with
  | none => c
  | some stream =>
    match stream.sendAbort with
    | none => c
    | some abort =>
      if abort.isInFlight || abort.isAcknowledged then c
      else
        c.tryAppend byteBudget
          (.resetStream ⟨streamId, abort.applicationErrorCode, abort.finalSize⟩)
          fun c => { c with
            layer := c.layer.setOutgoing streamId
              { stream with sendAbort := some (markInFlight abort) }
            announcements := c.announcements ++ [⟨streamId, true⟩] }

def announceStop :
    Collecting :=
  match c.layer.incoming.find? streamId with
  | none => c
  | some stream =>
    match stream.receiveStop with
    | none => c
    | some stop =>
      if stop.isInFlight || stop.isAcknowledged then c
      else
        c.tryAppend byteBudget (.stopSending ⟨streamId, stop.applicationErrorCode⟩)
          fun c => { c with
            layer := c.layer.setIncoming streamId
              { stream with receiveStop := some (markInFlight stop) }
            announcements := c.announcements ++ [⟨streamId, false⟩] }

def collectAbortAnnouncements :
    Collecting :=
  let c := c.layer.outgoing.keys.foldl (announceReset byteBudget) c
  c.layer.incoming.keys.foldl (announceStop byteBudget) c

/-! ## Window updates -/

def updateConnectionWindow : Collecting :=
  if c.layer.connectionWindowUpdatePending then
    c.tryAppend byteBudget (.maxData ⟨c.layer.connectionAdvertisedLimit⟩)
      fun c => { c with
        layer := { c.layer with connectionWindowUpdatePending := false } }
  else c

def updateBidirectionalStreams :
    Collecting :=
  if c.layer.streamsBidirectionalUpdatePending then
    c.tryAppend byteBudget (.maxStreams ⟨c.layer.advertisedBidirectionalStreams, false⟩)
      fun c => { c with
        layer := { c.layer with streamsBidirectionalUpdatePending := false } }
  else c

def updateUnidirectionalStreams :
    Collecting :=
  if c.layer.streamsUnidirectionalUpdatePending then
    c.tryAppend byteBudget (.maxStreams ⟨c.layer.advertisedUnidirectionalStreams, true⟩)
      fun c => { c with
        layer := { c.layer with streamsUnidirectionalUpdatePending := false } }
  else c

/-- One stream's MAX_STREAM_DATA. The loop breaks once the budget is used
up exactly; from then on nothing is tried. -/
def updateStreamWindow :
    Collecting :=
  match c.layer.incoming.find? streamId with
  | none => c
  | some stream =>
    if !stream.windowUpdatePending || c.usedByteCount = byteBudget then c
    else
      c.tryAppend byteBudget (.maxStreamData ⟨streamId, stream.streamLimit⟩)
        fun c => { c with
          layer := c.layer.setIncoming streamId { stream with windowUpdatePending := false } }

def collectWindowUpdates : Collecting :=
  let c := updateConnectionWindow byteBudget c
  let c := updateBidirectionalStreams byteBudget c
  let c := updateUnidirectionalStreams byteBudget c
  c.layer.incoming.keys.foldl (updateStreamWindow byteBudget) c

/-! ## Stream data -/

/-- How much of a chunk may go out now: what lies below the high-water mark
was paid for when it was first sent. -/
def sendableByteCountOf (chunkBeginOffset chunkByteCount sentHighWater
    newCreditByteCount : Nat) : Nat :=
  let chunkEndOffset := chunkBeginOffset + chunkByteCount
  let resendableEnd := min chunkEndOffset sentHighWater
  min chunkByteCount (resendableEnd - chunkBeginOffset + newCreditByteCount)

def streamFrameHeaderByteLength (streamId offset : Nat) : Nat :=
  kQuicStreamFrameTypeByteLength + quicVariableLengthIntegerByteCount streamId +
    (if offset = 0 then 0 else quicVariableLengthIntegerByteCount offset)

/-- The payload the next frame carries, once with a one-byte length field
and once more when that turns out too narrow; `none` when not even an
empty frame fits. -/
def payloadByteLengthFor (remainingBudget headerByteLength chunkByteCount
    sendableByteCount : Nat) : Option Nat :=
  if remainingBudget ≤ headerByteLength + 1 then none
  else
    let payloadByteLength := min (min chunkByteCount sendableByteCount)
      (remainingBudget - headerByteLength - 1)
    let widenedByteCount := quicVariableLengthIntegerByteCount payloadByteLength
    if widenedByteCount > 1 then
      if remainingBudget ≤ headerByteLength + widenedByteCount then none
      else some (min (min chunkByteCount sendableByteCount)
        (remainingBudget - headerByteLength - widenedByteCount))
    else some payloadByteLength

/-- The sending side after its front chunk gave up `payloadByteLength`
bytes to a frame. -/
def sendFromQueue (stream : OutgoingStream) (front : QuicStreamChunk)
    (rest : List QuicStreamChunk) (payloadByteLength : Nat) :
    OutgoingStream :=
  let carriesFinal := front.isFinal && payloadByteLength = front.bytes.length
  let endOffset := front.beginOffset + payloadByteLength
  { stream with
    sentHighWater := max stream.sentHighWater endOffset
    isFinalSentToPeer := stream.isFinalSentToPeer || carriesFinal
    inFlight := stream.inFlight.insert front.beginOffset
      ⟨front.beginOffset, front.bytes.take payloadByteLength, carriesFinal⟩
    pendingQueue :=
      if payloadByteLength = front.bytes.length then rest
      else
        { front with
          beginOffset := endOffset
          bytes := front.bytes.drop payloadByteLength } :: rest }

/-- The STREAM frame for the first `payloadByteLength` bytes of a chunk. -/
def streamFrameOf (streamId : Nat) (front : QuicStreamChunk)
    (payloadByteLength : Nat) : QuicStreamFrame where
  streamId := streamId
  offset := front.beginOffset
  data := front.bytes.take payloadByteLength
  isFinal := front.isFinal && payloadByteLength = front.bytes.length

/-- Writing that frame down, with everything it changes. -/
def emitStreamFrame (stream : OutgoingStream)
    (front : QuicStreamChunk) (rest : List QuicStreamChunk)
    (payloadByteLength : Nat) (appended : Bytes) : Collecting :=
  let endOffset := front.beginOffset + payloadByteLength
  let frame := streamFrameOf streamId front payloadByteLength
  let layer := c.layer.setOutgoing streamId (sendFromQueue stream front rest payloadByteLength)
  { c with
    layer := { layer with
      nextSendStreamId := streamId + 1
      connectionSentHighWater := layer.connectionSentHighWater + (endOffset - stream.sentHighWater)
      drainedSendByteCount := layer.drainedSendByteCount + payloadByteLength }
    frames := appended
    usedByteCount := c.usedByteCount + (appended.length - c.frames.length)
    sentRanges := c.sentRanges ++ [⟨streamId, front.beginOffset, endOffset, frame.isFinal⟩] }

/-- How one round of the inner loop ends. -/
inductive SendRound
  | nextStream
  | stop
  | failed (message : InvalidArgument)
  | sent (c : Collecting)

/-- One round of `while (!stream.pendingQueue.empty())`. -/
def sendFront (stream : OutgoingStream) (front : QuicStreamChunk)
    (rest : List QuicStreamChunk) : SendRound :=
  let sendableByteCount := sendableByteCountOf front.beginOffset
    front.bytes.length stream.sentHighWater (c.layer.sendCreditOf stream)
  if sendableByteCount = 0 ∧ ¬ (front.isFinal = true ∧ front.bytes = []) then
    .nextStream
  else
    match payloadByteLengthFor (byteBudget - c.usedByteCount)
      (streamFrameHeaderByteLength streamId front.beginOffset)
      front.bytes.length sendableByteCount with
    | none => .stop
    | some payloadByteLength =>
      if payloadByteLength = 0 ∧ front.isFinal = false then .stop
      else
        match appendQuicFrame c.frames
          (.stream (streamFrameOf streamId front payloadByteLength)) with
        | .error message => .failed message
        | .ok appended => .sent
          (emitStreamFrame c streamId stream front rest payloadByteLength appended)

/-- The inner loop on one stream. -/
def collectStream (byteBudget streamId : Nat) : Nat → Collecting → Collecting
  | 0, c => c
  | fuel + 1, c =>
    match c.layer.outgoing.find? streamId with
    | none => c
    | some stream =>
      if stream.isAborted then c
      else
        match stream.pendingQueue with
        | [] => c
        | front :: rest =>
          match sendFront byteBudget c streamId stream front rest with
          | .nextStream => c
          | .stop => { c with isStopped := true }
          | .failed message =>
            { c with
              layer := { c.layer with nextSendStreamId := streamId + 1 }
              isStopped := true
              failure := some message }
          | .sent c => collectStream byteBudget streamId fuel c

/-- A bound on the rounds a stream can keep the inner loop busy. -/
def sendRounds : Nat :=
  match layer.outgoing.find? streamId with
  | none => 0
  | some stream => pendingQueueByteCount stream + stream.pendingQueue.length

/-- `collectRange`: the streams of one part of the table, until the packet
is full. -/
def collectRange (streamIds : List Nat) :
    Collecting :=
  streamIds.foldl (fun c streamId =>
    if c.isStopped then c
    else collectStream byteBudget streamId (sendRounds c.layer streamId) c) c

def collectStreamData : Collecting :=
  if !c.layer.hasPeerParameters || c.failure.isSome then c
  else
    let keys := c.layer.outgoing.keys
    let cursor := c.layer.nextSendStreamId
    let c := collectRange byteBudget c (keys.filter fun k => cursor ≤ k)
    if c.usedByteCount < byteBudget && c.failure.isNone then
      collectRange byteBudget { c with isStopped := false } (keys.filter fun k => k < cursor)
    else c

/-! ## The whole call -/

/-- The out-parameters of `collectFrames` and its result. -/
structure CollectResult where
  layer : QuicStreamLayer
  frames : Bytes
  sentRanges : List QuicStreamRange
  announcements : List QuicStreamAnnouncement
  hasFrames : Bool
  failure : Option InvalidArgument

/-- Starting the next collector with what the last one left. -/
def Collecting.restart : Collecting := { c with usedByteCount := 0, isStopped := false }

@[simp] theorem Collecting.restart_layer : c.restart.layer = c.layer := rfl

@[simp] theorem Collecting.restart_frames : c.restart.frames = c.frames := rfl

@[simp] theorem Collecting.restart_sentRanges : c.restart.sentRanges = c.sentRanges := rfl

@[simp] theorem Collecting.restart_usedByteCount : c.restart.usedByteCount = 0 := rfl

/-- The three collectors in turn, each on what the ones before it left of
the budget. -/
def announcementPass (byteBudget : Nat) : Collecting := collectAbortAnnouncements byteBudget
    { layer := layer.retireSettledStreams, frames := frames }

def windowUpdatePass (byteBudget : Nat) : Collecting :=
  let announced := layer.announcementPass frames byteBudget
  collectWindowUpdates (byteBudget - announced.usedByteCount) announced.restart

def streamDataPass (byteBudget : Nat) : Collecting :=
  let announced := layer.announcementPass frames byteBudget
  let updated := layer.windowUpdatePass frames byteBudget
  collectStreamData (byteBudget - announced.usedByteCount - updated.usedByteCount) updated.restart

def collectFrames (byteBudget : Nat) : CollectResult :=
  let announced := layer.announcementPass frames byteBudget
  let updated := layer.windowUpdatePass frames byteBudget
  let c := layer.streamDataPass frames byteBudget
  { layer := c.layer
    frames := c.frames
    sentRanges := c.sentRanges
    announcements := c.announcements
    hasFrames := announced.usedByteCount + updated.usedByteCount + c.usedByteCount > 0
    failure := c.failure }

theorem collectFrames_layer (byteBudget : Nat) : (layer.collectFrames frames byteBudget).layer =
      (layer.streamDataPass frames byteBudget).layer := by
  simp only [collectFrames]

theorem collectFrames_frames (byteBudget : Nat) : (layer.collectFrames frames byteBudget).frames =
      (layer.streamDataPass frames byteBudget).frames := by
  simp only [collectFrames]

theorem collectFrames_sentRanges
    (byteBudget : Nat) : (layer.collectFrames frames byteBudget).sentRanges =
      (layer.streamDataPass frames byteBudget).sentRanges := by
  simp only [collectFrames]

def hasOutgoingFrames : Bool := layer.connectionWindowUpdatePending ||
  layer.streamsBidirectionalUpdatePending ||
  layer.streamsUnidirectionalUpdatePending ||
  layer.incoming.values.any (fun stream => stream.windowUpdatePending) ||
  layer.incoming.values.any (fun stream =>
    owesAnnouncement stream.receiveStop) ||
  layer.outgoing.values.any (fun stream =>
    owesAnnouncement stream.sendAbort) ||
  layer.outgoing.values.any (fun stream =>
    !stream.isAborted && !stream.pendingQueue.isEmpty)

end QuicStreamLayer

end AsynGyanis.Quic
