import AsynGyanis.Library.SortedMap
import AsynGyanis.Quic.Codec.Frame
import AsynGyanis.Quic.ReassemblyBuffer

/-!
# The stream layer's state

`QuicStreamLayer` is the part of a QUIC connection that owns its streams:
two tables, one of receiving sides and one of sending sides, the flow
control counters of the connection, and what is remembered of streams
whose records are gone. The tables are `std::map`s and keep their order
here, because every collection pass walks them in ascending stream number.

Offsets, limits and counters are natural numbers. The decoder bounds each
of them by 2^62 - 1, and the sums the layer forms of them stay far below
the 2^64 at which the source's integers would wrap.

Retired streams are remembered in two ways, and the difference matters
more than anything else in this file. For streams the peer opened there
is one boundary for each side and direction, raised to the largest
retired index plus one (`noteStreamRetired`). For the local bidirectional
streams the boundary only moves over a contiguous prefix and the indices
beyond it are kept one by one (`noteLocalBidiStreamRetired`).
-/

namespace AsynGyanis.Quic

open Library

/-! ## Transport error codes and bounds -/

def kFlowControlError : Nat := 0x03

def kStreamLimitError : Nat := 0x04

def kStreamStateError : Nat := 0x05

def kFinalSizeError : Nat := 0x06

def kFrameEncodingError : Nat := 0x07

def kProtocolViolation : Nat := 0x0a

def kStreamIdStride : Nat := 4

def kQuicStreamFrameTypeByteLength : Nat := 1

def kMaximumPendingSendByteCount : Nat := 1024 * 1024

def kMaximumConnectionPendingSendByteCount : Nat := 8 * 1024 * 1024

/-! ## Stream numbers -/

/-- Bit 1 of a stream number. -/
def isUnidirectional (streamId : Nat) : Bool := streamId / 2 % 2 = 1

/-- The stream's position among those of its type. -/
def streamIndexOfType (streamId : Nat) : Nat := streamId / kStreamIdStride

inductive QuicConnectionRole
  | server
  | client
  deriving DecidableEq, Repr

/-- An array of two indexed by a flag. -/
structure PerFlag (α : Type) where
  whenTrue : α
  whenFalse : α
  deriving DecidableEq, Repr

def PerFlag.get {α : Type} (p : PerFlag α) (flag : Bool) : α :=
  if flag then p.whenTrue else p.whenFalse

def PerFlag.set {α : Type} (p : PerFlag α) (flag : Bool) (a : α) : PerFlag α :=
  if flag then { p with whenTrue := a } else { p with whenFalse := a }

@[simp] theorem PerFlag.get_set_self {α : Type} (p : PerFlag α) (flag : Bool)
    (a : α) : (p.set flag a).get flag = a := by
  cases flag <;> rfl

theorem PerFlag.get_set_of_ne {α : Type} (p : PerFlag α) {flag flag' : Bool}
    (a : α) (h : flag' ≠ flag) : (p.set flag a).get flag' = p.get flag' := by
  cases flag <;> cases flag' <;> first | rfl | exact absurd rfl h

/-! ## What the layer reports -/

structure QuicStreamViolation where
  errorCode : Nat
  reasonPhrase : String
  deriving DecidableEq, Repr

/-- `std::expected<void, QuicStreamViolation>`. -/
abbrev QuicStreamViolationStatus := Except QuicStreamViolation Unit

def makeViolation (errorCode : Nat) (reasonPhrase : String) :
    QuicStreamViolationStatus :=
  .error ⟨errorCode, reasonPhrase⟩

structure QuicStreamDelivery where
  streamId : Nat
  bytes : Bytes
  isFinal : Bool
  deriving DecidableEq, Repr

structure QuicAbortedStream where
  streamId : Nat
  applicationErrorCode : Nat
  isResetByPeer : Bool
  deriving DecidableEq, Repr

/-- The layer's own FIFO: taken items stay in front of the read position
until half of the vector is dead. -/
structure PendingQueue (α : Type) where
  items : List α
  readPosition : Nat
  inside : readPosition ≤ items.length
  deriving DecidableEq

namespace PendingQueue

variable {α : Type}

def new : PendingQueue α := ⟨[], 0, Nat.le_refl 0⟩

def pushBack (q : PendingQueue α) (item : α) : PendingQueue α :=
  ⟨q.items ++ [item], q.readPosition, by
    have h := q.inside
    simp only [List.length_append, List.length_singleton]
    omega⟩

def takeFront (q : PendingQueue α) : Option α × PendingQueue α :=
  if h : q.readPosition < q.items.length then
    (some q.items[q.readPosition],
      if (q.readPosition + 1) * 2 ≥ q.items.length then
        ⟨q.items.drop (q.readPosition + 1), 0, Nat.zero_le _⟩
      else ⟨q.items, q.readPosition + 1, h⟩)
  else (none, q)

/-- What is still waiting, oldest first. -/
def toList (q : PendingQueue α) : List α := q.items.drop q.readPosition

@[simp] theorem toList_new : (new : PendingQueue α).toList = [] := rfl

@[simp] theorem toList_pushBack (q : PendingQueue α) (item : α) :
    (q.pushBack item).toList = q.toList ++ [item] := List.drop_append_of_le_length q.inside

/-- Reclaiming the dead half never shows: taking is `head?` and `tail`. -/
theorem takeFront_toList (q : PendingQueue α) : q.takeFront.1 = q.toList.head? ∧
      q.takeFront.2.toList = q.toList.tail := by
  simp only [takeFront, toList]
  split
  · next h =>
    rw [List.drop_eq_getElem_cons h]
    refine ⟨rfl, ?_⟩
    split <;> simp
  have hnil : q.items.drop q.readPosition = [] := List.drop_eq_nil_of_le (by omega)
  rw [hnil]
  exact ⟨rfl, rfl⟩

end PendingQueue

/-! ## The records -/

structure QuicStreamChunk where
  beginOffset : Nat := 0
  bytes : Bytes := []
  isFinal : Bool := false
  deriving DecidableEq, Repr

/-- A RESET_STREAM or STOP_SENDING the layer owes the peer: its content is
fixed once, only its delivery state changes. -/
structure AbortAnnouncement where
  applicationErrorCode : Nat := 0
  finalSize : Nat := 0
  isInFlight : Bool := false
  isAcknowledged : Bool := false
  deriving DecidableEq, Repr

structure OutgoingStream where
  pendingQueue : List QuicStreamChunk := []
  inFlight : SortedMap Nat QuicStreamChunk := .empty
  nextWriteOffset : Nat := 0
  sentHighWater : Nat := 0
  streamLimit : Nat := 0
  finalOffset : Option Nat := none
  sendAbort : Option AbortAnnouncement := none
  isFinalSentToPeer : Bool := false
  isAborted : Bool := false

structure IncomingStream where
  reassembly : QuicReassemblyBuffer := .empty
  consumedByteCount : Nat := 0
  discardedByteCount : Nat := 0
  receivedHighWaterOffset : Nat := 0
  streamLimit : Nat := 0
  finalOffset : Option Nat := none
  receiveStop : Option AbortAnnouncement := none
  isFinished : Bool := false
  isFinalDelivered : Bool := false
  isReset : Bool := false
  windowUpdatePending : Bool := false

/-- The fields of the transport parameters the stream layer reads. -/
structure QuicTransportParameters where
  initialMaximumData : Nat := 0
  initialMaximumStreamDataBidirectionalLocal : Nat := 0
  initialMaximumStreamDataBidirectionalRemote : Nat := 0
  initialMaximumStreamDataUnidirectional : Nat := 0
  initialMaximumBidirectionalStreams : Nat := 0
  initialMaximumUnidirectionalStreams : Nat := 0
  deriving DecidableEq, Repr

structure QuicStreamLayer where
  localParameters : QuicTransportParameters
  peerParameters : QuicTransportParameters := {}
  hasPeerParameters : Bool := false
  incoming : SortedMap Nat IncomingStream := .empty
  outgoing : SortedMap Nat OutgoingStream := .empty
  nextSendStreamId : Nat := 0
  /-- By side (true: receiving) and direction (true: unidirectional). -/
  retiredPeerStreamBoundaries : PerFlag (PerFlag Nat) := ⟨⟨0, 0⟩, ⟨0, 0⟩⟩
  /-- By side (true: receiving). -/
  retiredLocalBidiBoundaries : PerFlag Nat := ⟨0, 0⟩
  retiredLocalBidiGaps : PerFlag (List Nat) := ⟨[], []⟩
  deliveries : PendingQueue QuicStreamDelivery := .new
  abortedStreams : PendingQueue QuicAbortedStream := .new
  drainedSendByteCount : Nat := 0
  connectionReceivedBytes : Nat := 0
  connectionConsumedBytes : Nat := 0
  connectionAdvertisedLimit : Nat
  connectionWindowUpdatePending : Bool := false
  connectionSentHighWater : Nat := 0
  connectionSendLimit : Nat := 0
  incomingBidirectionalCount : Nat := 0
  incomingUnidirectionalCount : Nat := 0
  advertisedBidirectionalStreams : Nat
  advertisedUnidirectionalStreams : Nat
  streamsBidirectionalUpdatePending : Bool := false
  streamsUnidirectionalUpdatePending : Bool := false
  isLocalServer : Bool
  nextBidirectionalStreamId : Nat
  nextUnidirectionalStreamId : Nat
  outgoingBidirectionalLimit : Nat := 0
  outgoingUnidirectionalLimit : Nat := 0

namespace QuicStreamLayer

/-- The constructor. -/
def new (localParameters : QuicTransportParameters)
    (role : QuicConnectionRole) : QuicStreamLayer where
  localParameters := localParameters
  connectionAdvertisedLimit := localParameters.initialMaximumData
  advertisedBidirectionalStreams := localParameters.initialMaximumBidirectionalStreams
  advertisedUnidirectionalStreams := localParameters.initialMaximumUnidirectionalStreams
  isLocalServer := role = .server
  nextBidirectionalStreamId := if role = .server then 0x01 else 0x00
  nextUnidirectionalStreamId := if role = .server then 0x03 else 0x02

variable (layer : QuicStreamLayer) (streamId : Nat)

/-- Bit 0 of the number names the side that opened the stream. -/
def isLocallyInitiated : Bool := streamId % 2 = if layer.isLocalServer then 1 else 0

/-! ## Remembered streams -/

def noteStreamRetired (isReceiveSide : Bool) : QuicStreamLayer :=
  let side := layer.retiredPeerStreamBoundaries.get isReceiveSide
  let boundary := side.get (isUnidirectional streamId)
  { layer with
    retiredPeerStreamBoundaries := layer.retiredPeerStreamBoundaries.set isReceiveSide
        (side.set (isUnidirectional streamId) (max boundary (streamIndexOfType streamId + 1))) }

/-- `while (gaps.erase(boundary) != 0) ++boundary`. Each round takes one
gap away, so as many rounds as there are gaps are enough. -/
def absorbGaps : Nat → Nat → List Nat → Nat × List Nat
  | 0, boundary, gaps => (boundary, gaps)
  | fuel + 1, boundary, gaps =>
    if boundary ∈ gaps then absorbGaps fuel (boundary + 1) (gaps.erase boundary)
    else (boundary, gaps)

def noteLocalBidiStreamRetired (isReceiveSide : Bool) : QuicStreamLayer :=
  let gaps := (layer.retiredLocalBidiGaps.get isReceiveSide).insert (streamIndexOfType streamId)
  let absorbed := absorbGaps gaps.length (layer.retiredLocalBidiBoundaries.get isReceiveSide) gaps
  { layer with
    retiredLocalBidiBoundaries := layer.retiredLocalBidiBoundaries.set isReceiveSide absorbed.1
    retiredLocalBidiGaps := layer.retiredLocalBidiGaps.set isReceiveSide absorbed.2 }

def isPeerStreamSideRetired (isReceiveSide : Bool) : Bool :=
  if layer.isLocallyInitiated streamId then false
  else streamIndexOfType streamId < (layer.retiredPeerStreamBoundaries.get isReceiveSide).get
      (isUnidirectional streamId)

def isLocalBidiStreamSideRetired (isReceiveSide : Bool) : Bool :=
  if !layer.isLocallyInitiated streamId || isUnidirectional streamId then false
  else
    streamIndexOfType streamId < layer.retiredLocalBidiBoundaries.get isReceiveSide ||
      (layer.retiredLocalBidiGaps.get isReceiveSide).contains (streamIndexOfType streamId)

/-! ## Windows and limits -/

def initialSendWindowFor : Option Nat :=
  if !layer.hasPeerParameters then none
  else if isUnidirectional streamId then
    if layer.isLocallyInitiated streamId then
      some layer.peerParameters.initialMaximumStreamDataUnidirectional
    else some 0
  else if layer.isLocallyInitiated streamId then
    some layer.peerParameters.initialMaximumStreamDataBidirectionalRemote
  else some layer.peerParameters.initialMaximumStreamDataBidirectionalLocal

def incomingInitialWindowOf : Nat :=
  if isUnidirectional streamId then
    if layer.isLocallyInitiated streamId then 0
    else layer.localParameters.initialMaximumStreamDataUnidirectional
  else if layer.isLocallyInitiated streamId then
    layer.localParameters.initialMaximumStreamDataBidirectionalLocal
  else layer.localParameters.initialMaximumStreamDataBidirectionalRemote

/-- The number of streams of this type the peer was told it may open. -/
def advertisedStreamsOf : Nat :=
  if isUnidirectional streamId then layer.advertisedUnidirectionalStreams
  else layer.advertisedBidirectionalStreams

def sendCreditOf (stream : OutgoingStream) : Nat := min (stream.streamLimit - stream.sentHighWater)
    (layer.connectionSendLimit - layer.connectionSentHighWater)

/-- The limit and the pending flag after `consumedBytes` were consumed. -/
def raiseWindowAfterConsumption (consumedBytes initialWindowBytes limit : Nat)
    (isUpdatePending : Bool) : Nat × Bool :=
  if limit - consumedBytes > initialWindowBytes / 2 then
    (limit, isUpdatePending)
  else if consumedBytes + initialWindowBytes ≤ limit then
    (limit, isUpdatePending)
  else (consumedBytes + initialWindowBytes, true)

/-- The closure `raise` of `raiseAdvertisedStreamLimits`. -/
def raiseStreamLimit (usedCount initialStreams limit : Nat) (isUpdatePending : Bool) : Nat × Bool :=
  if limit > usedCount ∧ limit - usedCount > initialStreams / 2 then
    (limit, isUpdatePending)
  else if usedCount + initialStreams ≤ limit then (limit, isUpdatePending)
  else (usedCount + initialStreams, true)

def raiseAdvertisedStreamLimits : QuicStreamLayer :=
  let bidirectional := raiseStreamLimit layer.incomingBidirectionalCount
    layer.localParameters.initialMaximumBidirectionalStreams
    layer.advertisedBidirectionalStreams layer.streamsBidirectionalUpdatePending
  let unidirectional := raiseStreamLimit layer.incomingUnidirectionalCount
    layer.localParameters.initialMaximumUnidirectionalStreams
    layer.advertisedUnidirectionalStreams
    layer.streamsUnidirectionalUpdatePending
  { layer with
    advertisedBidirectionalStreams := bidirectional.1
    streamsBidirectionalUpdatePending := bidirectional.2
    advertisedUnidirectionalStreams := unidirectional.1
    streamsUnidirectionalUpdatePending := unidirectional.2 }

/-! ## Table updates -/

def setIncoming (stream : IncomingStream) : QuicStreamLayer :=
  { layer with incoming := layer.incoming.insert streamId stream }

def setOutgoing (stream : OutgoingStream) : QuicStreamLayer :=
  { layer with outgoing := layer.outgoing.insert streamId stream }

def createIncomingStream :
    QuicStreamLayer :=
  let fresh := (layer.incoming.find? streamId).getD {}
  let layer := layer.setIncoming streamId
    { fresh with streamLimit := layer.incomingInitialWindowOf streamId }
  if layer.isLocallyInitiated streamId then layer
  else
    let opened := streamIndexOfType streamId + 1
    let layer :=
      if isUnidirectional streamId then
        { layer with
          incomingUnidirectionalCount := max layer.incomingUnidirectionalCount opened }
      else
        { layer with
          incomingBidirectionalCount := max layer.incomingBidirectionalCount opened }
    layer.raiseAdvertisedStreamLimits

/-- `outgoingStream`: the record of the sending side, created on demand. -/
def outgoingStream : OutgoingStream × QuicStreamLayer :=
  match layer.outgoing.find? streamId with
  | some stream => (stream, layer)
  | none =>
    let fresh : OutgoingStream := { streamLimit := (layer.initialSendWindowFor streamId).getD 0 }
    (fresh, layer.setOutgoing streamId fresh)

def pendingQueueByteCount (stream : OutgoingStream) : Nat :=
  (stream.pendingQueue.map (·.bytes.length)).sum

def totalPendingSendByteCount : Nat := layer.outgoing.sumBy pendingQueueByteCount

def pendingSendByteCount : Nat :=
  match layer.outgoing.find? streamId with
  | none => 0
  | some stream => pendingQueueByteCount stream

def trackedStreamCount : Nat := layer.incoming.size + layer.outgoing.size

end QuicStreamLayer

end AsynGyanis.Quic
