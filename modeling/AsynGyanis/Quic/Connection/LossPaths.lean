import AsynGyanis.Quic.Connection.RunSteps

/-!
# The two ways to lose a packet

An acknowledgement declares lost what it leaves far behind, the timer what
has waited too long. `handleAcknowledgement` and `reactToTimeout` each put
back what such packets carried, in two pieces of code: one puts back the
stream data before the rest, the other behind it, and only the first marks
the connection IDs to go out again.

The order makes no difference. Stream data and announcements change
different parts of a stream, so an update of one commutes with an update of
the other on every stream and therefore on the table of streams
(`SortedMap.modify_comm`). What is left between the two is the mark, and with
it the `NEW_CONNECTION_ID` frames of a lost packet.
-/

namespace AsynGyanis.Quic

open Library SortedMap List

/-! ## Losses on one stream -/

namespace QuicStreamLayer

def loseChunk (range : QuicStreamRange) (stream : OutgoingStream) :
    OutgoingStream :=
  match stream.inFlight.find? range.beginOffset with
  | none => stream
  | some lost => requeueLost stream range lost

theorem loseRange_eq (layer : QuicStreamLayer) (range : QuicStreamRange) :
    layer.loseRange range = { layer with
      outgoing := layer.outgoing.modify range.streamId (loseChunk range) } := by
  unfold loseRange
  split
  · next hnone => rw [modify_of_none _ hnone]
  rename_i stream hstream
  split
  · next hnone =>
    have hfixed : loseChunk range stream = stream := by
      rw [loseChunk, hnone]
    rw [modify_of_fixed hstream hfixed]
  · next lost hlost =>
    rw [modify_of_some _ hstream, loseChunk, hlost]
    rfl

theorem sortQueueOf_eq (layer : QuicStreamLayer) (streamId : Nat) :
    layer.sortQueueOf streamId = { layer with
      outgoing := layer.outgoing.modify streamId sortPendingQueue } := by
  unfold sortQueueOf
  split
  · next hnone => rw [modify_of_none _ hnone]
  rename_i stream hstream
  rw [modify_of_some _ hstream]
  rfl

def updateReset (update : AbortAnnouncement → AbortAnnouncement)
    (stream : OutgoingStream) : OutgoingStream :=
  { stream with sendAbort := stream.sendAbort.map update }

theorem loseChunk_updateReset (range : QuicStreamRange)
    (update : AbortAnnouncement → AbortAnnouncement) (stream : OutgoingStream) :
    loseChunk range (updateReset update stream) = updateReset update (loseChunk range stream) := by
  show (match stream.inFlight.find? range.beginOffset with
    | none => updateReset update stream
    | some lost => requeueLost (updateReset update stream) range lost) = _
  unfold loseChunk
  cases stream.inFlight.find? range.beginOffset with
  | none => rfl
  | some lost =>
    show (if stream.isAborted then _ else _) =
      updateReset update (if stream.isAborted then _ else _)
    split <;> rfl

theorem sortPendingQueue_updateReset (update : AbortAnnouncement → AbortAnnouncement)
    (stream : OutgoingStream) :
    sortPendingQueue (updateReset update stream) =
      updateReset update (sortPendingQueue stream) := rfl

/-! ## Losses and announcements -/

variable (update : AbortAnnouncement → AbortAnnouncement)
variable (layer : QuicStreamLayer) (announcement : QuicStreamAnnouncement)

def updateStop (stream : IncomingStream) : IncomingStream :=
  { stream with receiveStop := stream.receiveStop.map update }

theorem updateAnnouncement_eq : updateAnnouncement update layer announcement =
      if announcement.isResetStream then
        { layer with
          outgoing := layer.outgoing.modify announcement.streamId (updateReset update) }
      else
        { layer with
          incoming := layer.incoming.modify announcement.streamId (updateStop update) } := by
  unfold updateAnnouncement
  split
  · split
    · next hnone => rw [modify_of_none _ hnone]
    rename_i stream hstream
    rw [modify_of_some _ hstream]
    rfl
  split
  · next hnone => rw [modify_of_none _ hnone]
  rename_i stream hstream
  rw [modify_of_some _ hstream]
  rfl

/-- What changes one stream to send by a function that commutes with an
announcement commutes with it. -/
theorem updateAnnouncement_modify (streamId : Nat) {f : OutgoingStream → OutgoingStream}
    (hf : ∀ stream, f (updateReset update stream) =
      updateReset update (f stream)) (announcement : QuicStreamAnnouncement) :
    updateAnnouncement update { layer with outgoing := layer.outgoing.modify streamId f }
        announcement =
      { updateAnnouncement update layer announcement with
        outgoing := (updateAnnouncement update layer announcement).outgoing.modify
            streamId f } := by
  rw [updateAnnouncement_eq, updateAnnouncement_eq]
  split
  · show { layer with outgoing := _ } = { layer with outgoing := _ }
    rw [layer.outgoing.modify_comm streamId announcement.streamId hf]
  · rfl

theorem updateAnnouncement_keys : (updateAnnouncement update layer announcement).outgoing.keys =
      layer.outgoing.keys := by
  rw [updateAnnouncement_eq]
  split
  · exact layer.outgoing.keys_modify _ _
  · rfl

theorem onSendRangesLost_updateAnnouncement (ranges : List QuicStreamRange) :
    (updateAnnouncement update layer announcement).onSendRangesLost ranges =
      updateAnnouncement update (layer.onSendRangesLost ranges)
        announcement := by
  have hranges : ranges.foldl loseRange (updateAnnouncement update layer announcement) =
      updateAnnouncement update (ranges.foldl loseRange layer)
        announcement := by
    refine foldl_hom (updateAnnouncement update · announcement) fun layer range => ?_
    rw [loseRange_eq, loseRange_eq]
    exact (updateAnnouncement_modify update layer range.streamId
      (loseChunk_updateReset range update) announcement).symm
  show (foldl loseRange _ ranges).outgoing.keys.foldl sortQueueOf
      (foldl loseRange _ ranges) = _
  rw [hranges, updateAnnouncement_keys]
  refine foldl_hom (updateAnnouncement update · announcement) fun layer streamId => ?_
  rw [sortQueueOf_eq, sortQueueOf_eq]
  exact (updateAnnouncement_modify update layer streamId
    (sortPendingQueue_updateReset update) announcement).symm

theorem onSendRangesLost_onStreamAnnouncementsLost (announcements : List QuicStreamAnnouncement)
    (ranges : List QuicStreamRange) :
    (layer.onStreamAnnouncementsLost announcements).onSendRangesLost ranges =
      (layer.onSendRangesLost ranges).onStreamAnnouncementsLost
        announcements :=
  (List.foldl_hom (QuicStreamLayer.onSendRangesLost · ranges) fun layer announcement =>
      (onSendRangesLost_updateAnnouncement _ layer announcement ranges).symm).symm

theorem losses_comm (lost : List QuicSentPacketInfo) :
    lost.foldl (fun streams packet =>
        streams.onStreamAnnouncementsLost packet.streamAnnouncements)
        (lost.foldl (fun streams packet =>
          streams.onSendRangesLost packet.streamRanges) layer) =
      lost.foldl (fun streams packet =>
        streams.onSendRangesLost packet.streamRanges)
        (lost.foldl (fun streams packet =>
          streams.onStreamAnnouncementsLost packet.streamAnnouncements)
          layer) := by
  refine foldl_hom (fun streams : QuicStreamLayer =>
    lost.foldl (fun streams packet =>
      streams.onSendRangesLost packet.streamRanges) streams)
    fun layer packet => ?_
  exact (foldl_hom (fun streams : QuicStreamLayer =>
    streams.onStreamAnnouncementsLost packet.streamAnnouncements)
    fun layer other => onSendRangesLost_onStreamAnnouncementsLost layer
      packet.streamAnnouncements other.streamRanges).symm

end QuicStreamLayer

/-! ## The two paths -/

namespace QuicConnectionCore

variable (core : QuicConnectionCore) (space : PacketNumberSpace)
  (lost : List QuicSentPacketInfo)

/-- What an acknowledgement does with the packets it declares lost. -/
def declareLostByAcknowledgement (core : QuicConnectionCore)
    (space : PacketNumberSpace) (lost : List QuicSentPacketInfo) :
    QuicConnectionCore :=
  let core := lost.foldl losePacket core
  if lost.isEmpty then core else core.queueRetransmissions space lost

/-- What the timer does with the packets it declares lost. -/
def declareLostByTimer (core : QuicConnectionCore)
    (space : PacketNumberSpace) (lost : List QuicSentPacketInfo) :
    QuicConnectionCore :=
  if lost.isEmpty then core
  else
    let core := core.queueRetransmissions space lost
    { core with
      streams := lost.foldl (fun streams packet =>
        streams.onSendRangesLost packet.streamRanges) core.streams }

/-- What comes before the losses when an acknowledgement for 1-RTT packets
is handled. -/
def settleAcknowledged (core : QuicConnectionCore)
    (frame : QuicAcknowledgementFrame) (arrivalTime : QuicTime) :
    QuicConnectionCore :=
  let (core, update) := core.acknowledgePackets .application frame arrivalTime
  let core := core.noteKeyPhaseAcknowledged .application update.acknowledged
  let core := core.notePersistentCongestion update.isPersistentCongestionDetected arrivalTime
  let core := update.acknowledged.foldl settlePacket core
  core.noteProbeAcknowledged update.acknowledged arrivalTime

theorem handleAcknowledgement_declares (frame : QuicAcknowledgementFrame) (arrivalTime : QuicTime) :
    core.handleAcknowledgement frame .application arrivalTime =
      (core.settleAcknowledged frame arrivalTime).declareLostByAcknowledgement .application
        (core.acknowledgePackets .application frame arrivalTime).2.lost := rfl

/-- What comes before the losses when the timer went off. -/
def noteTimerLosses (core : QuicConnectionCore) (now : QuicTime) :
    QuicConnectionCore :=
  let (recovery, action) := core.recovery.onDeadlineReached now
  let core := { core with recovery := recovery }
  if action.lost.isEmpty then core
  else
    noteResolved { core with
        congestion := core.congestion.onCongestionUpdate [] action.lost now }
      action.lostSpace .lost action.lost

theorem resolveTimerLosses_declares (now : QuicTime) :
    core.resolveTimerLosses now = (core.noteTimerLosses now).declareLostByTimer
        (core.recovery.onDeadlineReached now).2.lostSpace
        (core.recovery.onDeadlineReached now).2.lost := by
  unfold resolveTimerLosses noteTimerLosses declareLostByTimer
  generalize core.recovery.onDeadlineReached now = reached
  obtain ⟨recovery, action⟩ := reached
  by_cases hnone : action.lost.isEmpty
  · simp [hnone]
  · simp only [hnone]
    rfl

/-! ## What is owed -/

/-- Everything a connection has yet to send again: handshake bytes by space,
the streams with their data, limits and announcements, the frames for
connection IDs, `HANDSHAKE_DONE` and the frames for paths. -/
structure OwedRetransmissions where
  cryptoRanges : PerSpace (List QuicCryptoRange)
  streams : QuicStreamLayer
  newConnectionIdFrames : List IssuedConnectionId
  retirementNotices : List PendingRetirementNotice
  handshakeDone : Bool
  pathChallenges : List PendingPathChallenge
  pathResponses : List PendingPathResponse

/-- The connection IDs the next packet takes, as
`appendIssuedConnectionId` picks them. -/
def owedConnectionIds (core : QuicConnectionCore) : List IssuedConnectionId :=
  core.issuedConnectionIds.filter fun issued =>
    !(issued.isAdvertised && !core.isConnectionIdFramesDirty)

def owedRetransmissions (core : QuicConnectionCore) : OwedRetransmissions where
  cryptoRanges :=
    ⟨core.spaces.initial.pendingRetransmissions, core.spaces.handshake.pendingRetransmissions,
      core.spaces.application.pendingRetransmissions⟩
  streams := core.streams
  newConnectionIdFrames := core.owedConnectionIds
  retirementNotices := core.pendingRetirementNotices
  handshakeDone := core.isHandshakeDonePending
  pathChallenges := core.pendingPathChallenges
  pathResponses := core.pendingPathResponses

theorem foldl_losePacket : lost.foldl losePacket core = { core with
      streams := lost.foldl (fun streams packet =>
        streams.onSendRangesLost packet.streamRanges) core.streams
      isConnectionIdFramesDirty := core.isConnectionIdFramesDirty ||
        lost.any (·.carriesConnectionIdFrames) } := by
  induction lost generalizing core with
  | nil => simp
  | cons packet lost ih =>
    rw [foldl_cons, ih, foldl_cons, any_cons, ← Bool.or_assoc]
    rfl

theorem foldl_requeuePacket (packets : List QuicSentPacketInfo) :
    packets.foldl requeuePacket core = { core with
      isHandshakeDoneInFlight := packets.foldl (fun inFlight packet =>
        inFlight && !packet.carriesHandshakeDone) core.isHandshakeDoneInFlight
      streams := packets.foldl (fun streams packet =>
        streams.onStreamAnnouncementsLost packet.streamAnnouncements)
        core.streams
      pendingRetirementNotices := packets.foldl (fun notices packet =>
        packet.retiredConnectionIdSequences.foldl releaseRetirementNotice
          notices) core.pendingRetirementNotices } := by
  induction packets generalizing core with
  | nil => rfl
  | cons packet packets ih =>
    rw [foldl_cons, ih]
    rfl

theorem queueRetransmissions_eq (packets : List QuicSentPacketInfo) :
    core.queueRetransmissions space packets = { core with
      isHandshakeDoneInFlight := packets.foldl (fun inFlight packet =>
        inFlight && !packet.carriesHandshakeDone) core.isHandshakeDoneInFlight
      streams := packets.foldl (fun streams packet =>
        streams.onStreamAnnouncementsLost packet.streamAnnouncements)
        core.streams
      pendingRetirementNotices := packets.foldl (fun notices packet =>
        packet.retiredConnectionIdSequences.foldl releaseRetirementNotice
          notices) core.pendingRetirementNotices
      spaces := core.spaces.set space { core.spaceState space with
        pendingRetransmissions := mergeCryptoRanges
          ((core.spaceState space).pendingRetransmissions ++
            packets.filterMap carriedCryptoRange) } } := by
  unfold queueRetransmissions
  rw [foldl_requeuePacket]
  rfl

theorem declareLostByAcknowledgement_eq : core.declareLostByAcknowledgement space lost =
      { core.declareLostByTimer space lost with
        isConnectionIdFramesDirty := core.isConnectionIdFramesDirty ||
          lost.any (·.carriesConnectionIdFrames) } := by
  unfold declareLostByAcknowledgement declareLostByTimer
  rw [foldl_losePacket]
  split
  · next hnone =>
    rw [isEmpty_iff.mp hnone]
    rfl
  rw [queueRetransmissions_eq, queueRetransmissions_eq]
  rw [QuicStreamLayer.losses_comm]
  rfl

/-- Another mark changes nothing where there is one already or where every
ID is still to be advertised. -/
theorem owedConnectionIds_same_iff (issued : List IssuedConnectionId) (dirty carried : Bool) :
    issued.filter (fun issued =>
          !(issued.isAdvertised && !(dirty || carried))) =
        issued.filter (fun issued => !(issued.isAdvertised && !dirty)) ↔
      carried = false ∨ dirty = true ∨ ∀ id ∈ issued, id.isAdvertised = false := by
  cases dirty with
  | true => simp
  | false =>
    cases carried with
    | false => simp
    | true =>
      have hall : issued.filter (fun id =>
          !(id.isAdvertised && !(false || true))) = issued := by simp
      rw [hall, eq_comm, filter_eq_self]
      simp

theorem declareLostByTimer_connectionIds :
    (core.declareLostByTimer space lost).isConnectionIdFramesDirty =
        core.isConnectionIdFramesDirty ∧
      (core.declareLostByTimer space lost).issuedConnectionIds =
        core.issuedConnectionIds := by
  unfold declareLostByTimer
  split
  · exact ⟨rfl, rfl⟩
  · rw [queueRetransmissions_eq]
    exact ⟨rfl, rfl⟩

/-- The two paths leave the same owed exactly when the connection IDs of no
lost packet have to be marked: none carried any, or they are marked already,
or all of them wait for their first packet anyway. -/
theorem loss_paths_owe_alike (core : QuicConnectionCore)
    (space : PacketNumberSpace) (lost : List QuicSentPacketInfo) :
    (core.declareLostByAcknowledgement space lost).owedRetransmissions =
        (core.declareLostByTimer space lost).owedRetransmissions ↔
      (∀ packet ∈ lost, packet.carriesConnectionIdFrames = false) ∨
        core.isConnectionIdFramesDirty = true ∨
        ∀ issued ∈ core.issuedConnectionIds, issued.isAdvertised = false := by
  obtain ⟨hdirty, hissued⟩ := core.declareLostByTimer_connectionIds space lost
  rw [declareLostByAcknowledgement_eq]
  generalize core.declareLostByTimer space lost = timed at hdirty hissued
  have hsame : ({ timed with
        isConnectionIdFramesDirty := core.isConnectionIdFramesDirty ||
          lost.any (·.carriesConnectionIdFrames) }).owedRetransmissions =
        timed.owedRetransmissions ↔
      core.issuedConnectionIds.filter (fun issued =>
          !(issued.isAdvertised && !(core.isConnectionIdFramesDirty ||
            lost.any (·.carriesConnectionIdFrames)))) =
        core.issuedConnectionIds.filter fun issued =>
          !(issued.isAdvertised && !core.isConnectionIdFramesDirty) := by
    rw [← hissued, ← hdirty]
    constructor
    · exact congrArg OwedRetransmissions.newConnectionIdFrames
    intro hids
    show OwedRetransmissions.mk _ _ _ _ _ _ _ = OwedRetransmissions.mk _ _ _ _ _ _ _
    exact congrArg (fun ids => OwedRetransmissions.mk _ _ ids _ _ _ _) hids
  rw [hsame, owedConnectionIds_same_iff, List.any_eq_false]
  simp

def announcingServer : QuicConnectionCoreConfiguration where
  role := .server
  localConnectionId := [1]
  peerConnectionId := [2]

/-- A new connection ID under the number 0, handshake bytes under the number
1, and an acknowledgement of the second alone. -/
def announcingCore : QuicConnectionCore :=
  [.driven (plainReport []) 4 0, .datagramReceived
      (plainDatagram 100 [plainPacket .application [1] [2] 0 1 [.ping]]) 0 none
      kUnspecifiedQuicPathKey,
    .driven (plainReport []) 4 10,
    .driven (plainReport [(.application, [7])]) 4 20,
    .datagramReceived
      (plainDatagram 100 [plainPacket .application [1] [2] 1 1
        [.acknowledgement { largestAcknowledgedPacketNumber := 1, ranges := [⟨1, 1⟩] }]])
      1020 none kUnspecifiedQuicPathKey].foldl (apply plainEnvironment)
    (start plainEnvironment announcingServer)

theorem announcingCore_reachable : Reachable plainEnvironment announcingServer announcingCore :=
  Reach.run .start _ ⟨trivial, trivial, trivial, trivial, trivial, trivial⟩

/-- The timer finds the first packet lost. By an acknowledgement its
connection ID would be owed again; after the timer it is not, and no packet
in flight carries it. -/
theorem loss_paths_owe_differently :
    let lost := (announcingCore.recovery.onDeadlineReached 2500).2.lost
    Reachable plainEnvironment announcingServer announcingCore ∧
      lost.map (·.carriesConnectionIdFrames) = [true] ∧
      ((announcingCore.noteTimerLosses 2500).declareLostByAcknowledgement
          .application lost).owedRetransmissions ≠
        ((announcingCore.noteTimerLosses 2500).declareLostByTimer
          .application lost).owedRetransmissions ∧
      (announcingCore.apply plainEnvironment (.timedOut 4 2500)).owedConnectionIds = [] ∧
      ((announcingCore.apply plainEnvironment (.timedOut 4 2500)).recovery.unacknowledgedPackets
          .application) = [] := by
  refine ⟨announcingCore_reachable, by decide +kernel, fun howed => ?_,
    by decide +kernel, by decide +kernel⟩
  have hids := congrArg OwedRetransmissions.newConnectionIdFrames howed
  revert hids
  decide +kernel

end QuicConnectionCore

end AsynGyanis.Quic
