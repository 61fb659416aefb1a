import AsynGyanis.Library.Reach
import AsynGyanis.Quic.Streams.Collect

/-!
# Runs of the stream layer

Every public operation is one event, and a run is a sequence of events
from a freshly constructed layer. What a property needs to know of the
past and the layer has forgotten is kept next to it in `StreamHistory`:
the frames received, the deliveries taken out, the packets under way and
the records at the moment they were retired. The history observes; the
layer in it is exactly what the operations compute.

`Regular` is the contract of the layer's caller, the connection core. The
core adopts the peer's parameters once, stops after a violation, reports
each packet it sent at most once as acknowledged or lost, and does not
hand out a stream number a second time.
-/

namespace AsynGyanis.Quic

open Library

inductive StreamEvent
  | adoptPeerParameters (parameters : QuicTransportParameters)
  | streamFrame (frame : QuicStreamFrame)
  | maxDataFrame (frame : QuicMaxDataFrame)
  | maxStreamDataFrame (frame : QuicMaxStreamDataFrame)
  | maxStreamsFrame (frame : QuicMaxStreamsFrame)
  | resetStreamFrame (frame : QuicResetStreamFrame)
  | stopSendingFrame (frame : QuicStopSendingFrame)
  | collectFrames (frames : Bytes) (byteBudget : Nat)
  | writeStreamData (streamId : Nat) (bytes : Bytes) (isFinal : Bool)
  | resetStreamSending (streamId applicationErrorCode : Nat)
  | stopStreamReceiving (streamId applicationErrorCode : Nat)
  | openUnidirectionalStream
  | openBidirectionalStream
  | releaseReceiveWindow (streamId consumedByteCount : Nat)
  | takeDelivery
  | takeAbortedStream
  | takeDrainedSendByteCount
  | sendRangesAcknowledged (ranges : List QuicStreamRange)
  | sendRangesLost (ranges : List QuicStreamRange)
  | announcementsAcknowledged (announcements : List QuicStreamAnnouncement)
  | announcementsLost (announcements : List QuicStreamAnnouncement)

/-- The layer after an event, with the status a frame handler reports. -/
def QuicStreamLayer.apply (layer : QuicStreamLayer) :
    StreamEvent → QuicStreamViolationStatus × QuicStreamLayer
  | .adoptPeerParameters parameters =>
    (.ok (), layer.adoptPeerParameters parameters)
  | .streamFrame frame => layer.onStreamFrame frame
  | .maxDataFrame frame => layer.onMaxDataFrame frame
  | .maxStreamDataFrame frame => layer.onMaxStreamDataFrame frame
  | .maxStreamsFrame frame => layer.onMaxStreamsFrame frame
  | .resetStreamFrame frame => layer.onResetStreamFrame frame
  | .stopSendingFrame frame => layer.onStopSendingFrame frame
  | .collectFrames frames byteBudget =>
    (.ok (), (layer.collectFrames frames byteBudget).layer)
  | .writeStreamData streamId bytes isFinal =>
    (.ok (), (layer.writeStreamData streamId bytes isFinal).2)
  | .resetStreamSending streamId code =>
    (.ok (), layer.resetStreamSending streamId code)
  | .stopStreamReceiving streamId code =>
    (.ok (), layer.stopStreamReceiving streamId code)
  | .openUnidirectionalStream => (.ok (), layer.openUnidirectionalStream.2)
  | .openBidirectionalStream => (.ok (), layer.openBidirectionalStream.2)
  | .releaseReceiveWindow streamId count =>
    (.ok (), layer.releaseReceiveWindow streamId count)
  | .takeDelivery => (.ok (), layer.takeDelivery.2)
  | .takeAbortedStream => (.ok (), layer.takeAbortedStream.2)
  | .takeDrainedSendByteCount => (.ok (), layer.takeDrainedSendByteCount.2)
  | .sendRangesAcknowledged ranges =>
    (.ok (), layer.onSendRangesAcknowledged ranges)
  | .sendRangesLost ranges => (.ok (), layer.onSendRangesLost ranges)
  | .announcementsAcknowledged announcements =>
    (.ok (), layer.onStreamAnnouncementsAcknowledged announcements)
  | .announcementsLost announcements =>
    (.ok (), layer.onStreamAnnouncementsLost announcements)

structure StreamHistory where
  layer : QuicStreamLayer
  /-- STREAM frames received so far. -/
  received : List QuicStreamFrame := []
  /-- RESET_STREAM frames received so far. -/
  resets : List QuicResetStreamFrame := []
  /-- Of these, the ones for which the layer had neither a record nor a
  memory of a retired stream. -/
  unheldResets : List QuicResetStreamFrame := []
  /-- Deliveries the application has taken out, oldest first. -/
  taken : List QuicStreamDelivery := []
  /-- The stream ranges of each packet neither acknowledged nor lost. -/
  inTransit : List (List QuicStreamRange) := []
  acknowledged : List QuicStreamRange := []
  retiredIncoming : List (Nat × IncomingStream) := []
  retiredOutgoing : List (Nat × OutgoingStream) := []

namespace StreamHistory

def start (localParameters : QuicTransportParameters) (role : QuicConnectionRole) : StreamHistory :=
  { layer := .new localParameters role }

/-- What the history notes of an event besides the layer itself. -/
def note (h : StreamHistory) (e : StreamEvent) : StreamHistory :=
  match e with
  | .streamFrame frame => { h with received := h.received ++ [frame] }
  | .resetStreamFrame frame =>
    { h with
      resets := h.resets ++ [frame]
      unheldResets :=
        if (h.layer.incoming.find? frame.streamId).isNone &&
            !h.layer.isPeerStreamSideRetired frame.streamId true &&
            !h.layer.isLocalBidiStreamSideRetired frame.streamId true then
          h.unheldResets ++ [frame]
        else h.unheldResets }
  | .takeDelivery =>
    { h with taken := h.taken ++ h.layer.takeDelivery.1.toList }
  | .collectFrames frames byteBudget =>
    let result := h.layer.collectFrames frames byteBudget
    { h with
      inTransit := result.sentRanges :: h.inTransit
      retiredIncoming := SortedMap.departed h.layer.incoming result.layer.incoming ++
          h.retiredIncoming
      retiredOutgoing := SortedMap.departed h.layer.outgoing result.layer.outgoing ++
          h.retiredOutgoing }
  | .sendRangesAcknowledged ranges =>
    { h with
      inTransit := h.inTransit.erase ranges
      acknowledged := ranges ++ h.acknowledged }
  | .sendRangesLost ranges => { h with inTransit := h.inTransit.erase ranges }
  | _ => h

def step (h : StreamHistory) (e : StreamEvent) : StreamHistory :=
  { h.note e with layer := (h.layer.apply e).2 }

/-- What the caller promises about an event. -/
def promised (h : StreamHistory) : StreamEvent → Bool
  | .adoptPeerParameters _ => !h.layer.hasPeerParameters
  | .sendRangesAcknowledged ranges => ranges ∈ h.inTransit
  | .sendRangesLost ranges => ranges ∈ h.inTransit
  | .openBidirectionalStream =>
    !h.layer.isLocalBidiStreamSideRetired h.layer.nextBidirectionalStreamId false
  | _ => true

instance (s : QuicStreamViolationStatus) : Decidable (s = .ok ()) :=
  match s with
  | .ok () => isTrue rfl
  | .error _ => isFalse (fun h => by cases h)

/-- What the layer's caller keeps to. -/
def Regular (h : StreamHistory) (e : StreamEvent) : Prop :=
  (h.layer.apply e).1 = .ok () ∧ h.promised e = true

instance (h : StreamHistory) (e : StreamEvent) : Decidable (h.Regular e) :=
  inferInstanceAs (Decidable (_ ∧ _))

/-- The layer's caller may do anything the contract allows. -/
def Reachable (localParameters : QuicTransportParameters)
    (role : QuicConnectionRole) (extra : StreamHistory → StreamEvent → Prop) :
    StreamHistory → Prop :=
  Reach step (fun h e => h.Regular e ∧ extra h e) (start localParameters role)

@[simp] theorem step_layer (h : StreamHistory) (e : StreamEvent) :
    (h.step e).layer = (h.layer.apply e).2 := rfl

theorem step_collectFrames (h : StreamHistory) (frames : Bytes) (byteBudget : Nat) :
    (h.step (.collectFrames frames byteBudget)).layer =
      (h.layer.collectFrames frames byteBudget).layer := by
  simp only [step, QuicStreamLayer.apply]

end StreamHistory

end AsynGyanis.Quic
