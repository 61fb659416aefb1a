import AsynGyanis.Quic.Connection.Send

/-!
# The receiving side

A datagram is a row of packets; a packet is handled only when its key is
there and its tag verifies, and only then does it touch the books: the
number is restored and noted, a number seen before ends the matter, and the
frames are handled one by one. What a packet contains depends on the key it
is opened with, so an arriving packet is a pair of functions of the key,
one for its header and one for its payload, as a ciphertext is to a
receiver that cannot look inside.
-/

namespace AsynGyanis.Quic

open Library PacketNumberSpace

/-- The header once its protection is off. -/
structure UnprotectedHeader where
  truncatedPacketNumber : Nat
  packetNumberByteCount : Nat
  isKeyPhaseBitSet : Bool := false
  areReservedBitsClear : Bool := true
  /-- There is more than an authentication tag behind the header. -/
  hasPayload : Bool := true
  deriving DecidableEq, Repr

/-- The frames of a payload, or why they do not decode. -/
abbrev QuicDecodedPayload := Except QuicDecodeError (List QuicFrame)

structure QuicArrivingPacket where
  /-- Nothing for the packet types no key of ours opens: 0-RTT and Retry. -/
  level : Option PacketNumberSpace
  destinationConnectionId : Bytes
  /-- Empty in a short header. -/
  sourceConnectionId : Bytes
  unprotect : QuicPacketKeys → Option UnprotectedHeader
  openPayload : QuicPacketKeys → Nat → Option QuicDecodedPayload

structure QuicRetryPacketHeader where
  destinationConnectionId : Bytes
  sourceConnectionId : Bytes
  token : Bytes
  /-- The integrity tag verifies with this original connection ID. -/
  isIntactFor : Bytes → Bool

/-- A Retry stands alone in its datagram; anything else is packets up to
the first header that does not decode. -/
inductive QuicDatagramBody
  | retry (decoded : Option QuicRetryPacketHeader)
  | packets (packets : List QuicArrivingPacket)

structure QuicArrivingDatagram where
  byteCount : Nat
  /-- The last 16 bytes, if there are as many. -/
  trailingBytes : Option Bytes := none
  body : QuicDatagramBody

def isAcknowledgementEliciting : QuicFrame → Bool
  | .padding | .acknowledgement _ => false
  | _ => true

def isOneRttOnlyFrameType (frameType : Nat) : Bool :=
  frameType == 0x04 || frameType == 0x05 || frameType == 0x07 ||
    (0x08 ≤ frameType && frameType ≤ 0x1b) || frameType == 0x1e

def isNonProbingFrame : QuicFrame → Bool
  | .padding | .pathChallenge _ | .pathResponse _ | .newConnectionId _ => false
  | _ => true

/-- `{:x}`. -/
def hexText (value : Nat) : String := String.ofList (Nat.toDigits 16 value)

namespace QuicConnectionCore

/-! ## Handshake progress -/

variable (environment : QuicEnvironment) (core : QuicConnectionCore)
variable (pathKey : QuicPathKey) (now : QuicTime) (space : PacketNumberSpace)
variable (packetNumber : Nat)

/-- The path in use counts as validated with the handshake. -/
def validateSendPath : QuicConnectionCore :=
  if core.hasAdoptedPeerPath && !core.hasValidatedPeerPath then
    updatePathState
      { core with
        hasValidatedPeerPath := true
        validatedPathKey := core.sendPathKey }
      core.sendPathKey fun state => { state with isValidated := true }
  else core

def confirmHandshake :
    QuicConnectionCore :=
  if core.isHandshakeConfirmed then core
  else
    let core := validateSendPath { core with isHandshakeConfirmed := true }
    let peerMaximumDelayMilliseconds :=
      match core.peerParameters with
      | some parameters => parameters.maximumAcknowledgmentDelayMilliseconds
      | none => kQuicDefaultMaximumAcknowledgmentDelayMilliseconds
    { core with
      recovery := core.recovery.onHandshakeConfirmed (peerMaximumDelayMilliseconds * 1000 : Int)
      pathMtu :=
        if core.configuration.pathMtuProbeAllowed then
          core.pathMtu.onHandshakeConfirmed now
        else core.pathMtu }

/-- A client follows the connection ID the server chose, once. -/
def followPeerConnectionId (isLongHeader : Bool)
    (sourceConnectionId : Bytes) : QuicConnectionCore :=
  if core.isLocalServer || core.hasAdoptedPeerConnectionId || !isLongHeader ||
      sourceConnectionId.isEmpty then core
  else
    { core with
      hasAdoptedPeerConnectionId := true
      configuration := { core.configuration with
        peerConnectionId := sourceConnectionId }
      peerConnectionIds := [{ id := sourceConnectionId, sequence := 0 }]
      history := { core.history with
        adoptionThresholds := core.history.adoptionThresholds ++ [core.peerRetirePriorTo] } }

/-! ## Key updates -/

/-- Pulling the write keys level with a phase the peer moved to. -/
def followKeyPhase : QuicConnectionCore :=
  if core.isSendKeyPhaseSet = core.isReadKeyPhaseSet then core
  else
    let application := core.spaceState .application
    let core := core.setSpaceState .application
      { application with
        writeKeys := application.writeKeys.map environment.deriveQuicUpdatedPacketKeys }
    { core with
      isSendKeyPhaseSet := core.isReadKeyPhaseSet
      lowestPacketNumberSentInKeyPhase := some application.nextPacketNumber
      isKeyPhaseAcknowledged := false }

def applyPeerKeyUpdate : QuicConnectionCore :=
  let state := core.spaceState .application
  let core := core.setSpaceState .application
    { state with
      previousReadKeys := state.readKeys
      readKeys := state.nextReadKeys
      nextReadKeys := state.nextReadKeys.map environment.deriveQuicUpdatedPacketKeys }
  followKeyPhase environment
    { core with
      isReadKeyPhaseSet := !core.isReadKeyPhaseSet
      keyPhaseChangedAt := some now }

/-! ## Path validation -/

/-- The pending challenges with room for one more on the path, or nothing
when there is none. -/
def makeRoomForChallenge (challenges : List PendingPathChallenge)
    (pathKey : QuicPathKey) (isCandidate : Bool) :
    List PendingPathChallenge × Bool :=
  let kept := challenges.filter fun existing =>
    !(existing.key == pathKey || (isCandidate && existing.isCandidate))
  if kept.length ≥ kMaximumPendingPathChallenges then
    let candidates := kept.filter (·.isCandidate)
    (candidates, candidates.length < kMaximumPendingPathChallenges)
  else (kept, true)

def toPathValidationData (bytes : Bytes) : Option QuicPathValidationData :=
  if h : bytes.length = kQuicPathValidationDataByteLength then
    some ⟨bytes.toArray, by simpa using h⟩
  else none

def armPathChallenge (isCandidate : Bool) (now : QuicTime) : QuicConnectionCore :=
  let (random, core) := core.takeRandomBytes environment kQuicPathValidationDataByteLength
  match toPathValidationData random with
  | none => core
  | some data =>
    let challenge : PendingPathChallenge :=
      { key := pathKey
        data := data
        isCandidate := isCandidate
        abandonDeadline := now + max core.recovery.probeTimeout
          core.recovery.initialProbeTimeout * 3
        retransmitDeadline := now + core.recovery.probeTimeout }
    match makeRoomForChallenge core.pendingPathChallenges pathKey isCandidate
    with
    | (challenges, true) =>
      { core with pendingPathChallenges := challenges ++ [challenge] }
    | (challenges, false) => { core with pendingPathChallenges := challenges }

def confirmPeerPathValidated (wasExpanded : Bool) (now : QuicTime) : QuicConnectionCore :=
  let core := core.updatePathState pathKey fun state =>
    { state with isValidated := true }
  let core := { core with
    hasValidatedPeerPath := true
    validatedPathKey := pathKey
    congestion := core.congestion.resetToInitialState
    recovery := core.recovery.resetForPathChange }
  if wasExpanded then core
  else core.armPathChallenge environment pathKey false now

def handlePathResponseFrame (data : QuicPathValidationData) (now : QuicTime) : QuicConnectionCore :=
  match core.pendingPathChallenges.find? fun challenge =>
      challenge.data == data with
  | none => core
  | some matched =>
    let core := { core with
      pendingPathChallenges := core.pendingPathChallenges.eraseP
        fun challenge => challenge.data == data }
    if matched.isCandidate then
      { core.confirmPeerPathValidated environment matched.key matched.wasExpanded now with
        sendPathKey := matched.key }
    else core

def queuePathResponse (data : QuicPathValidationData) : QuicConnectionCore :=
  if core.pendingPathResponses.length ≥ kMaximumPendingPathResponses then core
  else
    { core with
      pendingPathResponses := core.pendingPathResponses ++ [{ key := pathKey, data := data }] }

/-- A non-probing packet from elsewhere: switch to a path that was
validated before, else challenge it. -/
def considerMigration :
    QuicConnectionCore :=
  if (core.findPathState pathKey).any (·.isValidated) then
    { core with
      sendPathKey := pathKey
      validatedPathKey := pathKey
      pendingPathChallenges := core.pendingPathChallenges.filter fun challenge =>
          !challenge.isCandidate }
  else if core.pendingPathChallenges.any fun challenge =>
      challenge.key == pathKey && challenge.isCandidate then core
  else core.armPathChallenge environment pathKey true now

/-- Following the peer to another path, and challenging the one it left. -/
def migrate : QuicConnectionCore :=
  let previousPathKey := core.sendPathKey
  let core := core.considerMigration environment pathKey now
  if (core.findPathState previousPathKey).any (·.isValidated) then
    core.armPathChallenge environment previousPathKey false now
  else core

def followPeerPath (carriesNonProbingFrame : Bool) (now : QuicTime) : QuicConnectionCore :=
  let core := core.updatePathState pathKey fun state =>
    { state with hasReceivedAuthenticatedPacket := true }
  if !core.hasAdoptedPeerPath then
    { core with hasAdoptedPeerPath := true, sendPathKey := pathKey }
  else if !carriesNonProbingFrame then core
  else if (core.largestNonProbingPacketNumbers.get space).any fun largest =>
      packetNumber ≤ largest then core
  else
    let core := { core with
      largestNonProbingPacketNumbers :=
        core.largestNonProbingPacketNumbers.set space (some packetNumber) }
    if pathKey == core.sendPathKey || !core.isLocalServer then core
    else core.migrate environment pathKey now

/-! ## Retransmission -/

/-- Overlapping and touching ranges become one. -/
def mergeCryptoRange (merged : List QuicCryptoRange)
    (range : QuicCryptoRange) : List QuicCryptoRange :=
  match merged.getLast? with
  | some last =>
    if range.beginOffset ≤ last.endOffset then
      merged.dropLast ++ [{ last with endOffset := max last.endOffset range.endOffset }]
    else merged ++ [range]
  | none => [range]

def mergeCryptoRanges (ranges : List QuicCryptoRange) : List QuicCryptoRange :=
  (ranges.mergeSort fun a b => a.beginOffset ≤ b.beginOffset).foldl mergeCryptoRange []

/-- The handshake bytes a packet carried, if any. -/
def carriedCryptoRange (packet : QuicSentPacketInfo) : Option QuicCryptoRange :=
  packet.cryptoRange.filter fun range => range.beginOffset < range.endOffset

/-- The first notice with the number may go out again. -/
def releaseRetirementNotice : List PendingRetirementNotice → Nat → List PendingRetirementNotice
  | [], _ => []
  | notice :: rest, sequence =>
    if notice.sequence = sequence then
      { notice with isInFlight := false } :: rest
    else notice :: releaseRetirementNotice rest sequence

/-- What goes back into the queues besides handshake bytes. -/
def requeuePacket (packet : QuicSentPacketInfo) :
    QuicConnectionCore :=
  { core with
    isHandshakeDoneInFlight := core.isHandshakeDoneInFlight && !packet.carriesHandshakeDone
    streams := core.streams.onStreamAnnouncementsLost packet.streamAnnouncements
    pendingRetirementNotices := packet.retiredConnectionIdSequences.foldl
      releaseRetirementNotice core.pendingRetirementNotices }

def queueRetransmissions (packets : List QuicSentPacketInfo) :
    QuicConnectionCore :=
  let core := packets.foldl requeuePacket core
  let state := core.spaceState space
  core.setSpaceState space
    { state with
      pendingRetransmissions := mergeCryptoRanges
        (state.pendingRetransmissions ++ packets.filterMap carriedCryptoRange) }

/-! ## Acknowledgements -/

/-- The reported delay in microseconds, capped before it is scaled. -/
def acknowledgementDelayOf (frame : QuicAcknowledgementFrame) : QuicTime :=
  let peerExponent :=
    match core.peerParameters with
    | some parameters => parameters.acknowledgmentDelayExponent
    | none => kQuicDefaultAcknowledgmentDelayExponent
  let shiftBitCount := min peerExponent 20
  let unscaledLimit := (60 * 1000 * 1000) >>> shiftBitCount
  ((min frame.acknowledgementDelay unscaledLimit) <<< shiftBitCount : Nat)

def noteResolved (fate : PacketFate) (packets : List QuicSentPacketInfo) :
    QuicConnectionCore :=
  core.note fun history => { history with
    resolvedPackets := history.resolvedPackets ++ packets.map fun packet => ⟨space, packet, fate⟩ }

/-- A packet of the current key phase was acknowledged. -/
def noteKeyPhaseAcknowledged (acknowledged : List QuicSentPacketInfo) :
    QuicConnectionCore :=
  match core.lowestPacketNumberSentInKeyPhase with
  | none => core
  | some lowest =>
    if space = .application ∧ acknowledged.any (fun packet => packet.packetNumber ≥ lowest) then
      { core with isKeyPhaseAcknowledged := true }
    else core

/-- Recovery and congestion control for one ACK frame. The source runs the
recovery layer first and the congestion layer on what it reports. -/
def acknowledgePackets (frame : QuicAcknowledgementFrame) (arrivalTime : QuicTime) :
    QuicConnectionCore × QuicAcknowledgementUpdate :=
  let (recovery, update) := core.recovery.onAcknowledgementReceived space frame
    arrivalTime (core.acknowledgementDelayOf frame)
  let congestion := core.congestion.setSmoothedRoundTripTime recovery.estimate.smoothed
  let congestion :=
    match update.ecnCongestionEventTime with
    | some eventTime => congestion.noteEcnCongestionEvent eventTime
    | none => congestion
  let congestion := congestion.onCongestionUpdate update.acknowledged update.lost arrivalTime
  let congestion :=
    if update.isPersistentCongestionDetected then
      congestion.restartAfterPersistentCongestion
    else congestion
  let core := { core with recovery := recovery, congestion := congestion }
  ((core.noteResolved space .acknowledged update.acknowledged).noteResolved
    space .lost update.lost, update)

def notePersistentCongestion (isDetected : Bool) (now : QuicTime) : QuicConnectionCore :=
  if isDetected then
    { core with
      persistentCongestionEventCount := core.persistentCongestionEventCount + 1
      pathMtu := core.pathMtu.onConnectivityLost now }
  else core

/-- What one acknowledged packet settles outside the ledgers. -/
def settlePacket (packet : QuicSentPacketInfo) :
    QuicConnectionCore :=
  { core with
    streams := (core.streams.onSendRangesAcknowledged
      packet.streamRanges).onStreamAnnouncementsAcknowledged packet.streamAnnouncements
    pendingRetirementNotices :=
      if packet.retiredConnectionIdSequences.isEmpty then
        core.pendingRetirementNotices
      else core.pendingRetirementNotices.filter fun notice =>
        !packet.retiredConnectionIdSequences.contains notice.sequence
    isHandshakeDoneAcknowledged := core.isHandshakeDoneAcknowledged || packet.carriesHandshakeDone
    isHandshakeDoneInFlight := core.isHandshakeDoneInFlight && !packet.carriesHandshakeDone }

def noteProbeAcknowledged (acknowledged : List QuicSentPacketInfo) (now : QuicTime) :
    QuicConnectionCore :=
  if acknowledged.any (·.isPathMtuProbe) then
    { core with pathMtu := core.pathMtu.onProbeAcknowledged now }
  else core

/-- What one lost packet does besides being retransmitted. -/
def losePacket (packet : QuicSentPacketInfo) :
    QuicConnectionCore :=
  { core with
    streams := core.streams.onSendRangesLost packet.streamRanges
    isConnectionIdFramesDirty :=
      core.isConnectionIdFramesDirty || packet.carriesConnectionIdFrames }

def handleAcknowledgement (frame : QuicAcknowledgementFrame) (space : PacketNumberSpace)
    (arrivalTime : QuicTime) : QuicConnectionCore :=
  let (core, update) := core.acknowledgePackets space frame arrivalTime
  let core := core.noteKeyPhaseAcknowledged space update.acknowledged
  let core := core.notePersistentCongestion update.isPersistentCongestionDetected arrivalTime
  let core := update.acknowledged.foldl settlePacket core
  let core := core.noteProbeAcknowledged update.acknowledged arrivalTime
  let core := update.lost.foldl losePacket core
  let core :=
    if space = .handshake ∧ !update.acknowledged.isEmpty then
      core.confirmHandshake arrivalTime
    else core
  if update.lost.isEmpty then core
  else core.queueRetransmissions space update.lost

/-! ## Connection IDs -/

/-- The answer to a frame whose number or ID is held already: nothing when
it is the same frame again, the complaint when the two do not match. -/
def checkAgainstHeld (frame : QuicNewConnectionIdFrame) :
    List PeerConnectionId → Option (Option String)
  | [] => none
  | existing :: rest =>
    if existing.sequence = frame.sequenceNumber then
      if existing.id ≠ frame.connectionId ∨
          existing.statelessResetToken ≠ frame.statelessResetToken then
        some (some "对端用同一个序列号报了另一条连接标识（RFC 9000 §19.15）")
      else some none
    else if existing.id = frame.connectionId then
      some (some "对端用两个序列号报了同一条连接标识（RFC 9000 §19.15）")
    else checkAgainstHeld frame rest

/-- The notice that a sequence is retired, unless there is one. -/
def addRetirementNotice (notices : List PendingRetirementNotice)
    (sequence : Nat) : List PendingRetirementNotice :=
  if notices.any fun notice => notice.sequence == sequence then notices
  else notices ++ [{ sequence := sequence }]

def retirePeerConnectionIdsBelow (retirePriorTo : Nat) : QuicConnectionCore :=
  let retired := (core.peerConnectionIds.filter fun held =>
    held.sequence < retirePriorTo).map (·.sequence)
  { core with
    peerConnectionIds := core.peerConnectionIds.filter fun held =>
      held.sequence ≥ retirePriorTo
    largestRetiredSequenceSent := retired.foldl max core.largestRetiredSequenceSent
    pendingRetirementNotices := retired.foldl addRetirementNotice core.pendingRetirementNotices
    history := { core.history with
      retiredSequences := core.history.retiredSequences ++ retired } }

/-- The held connection ID with the lowest sequence, the first of equals. -/
def lowestHeld : List PeerConnectionId → Option PeerConnectionId
  | [] => none
  | held :: rest =>
    match lowestHeld rest with
    | none => some held
    | some lowest =>
      if lowest.sequence < held.sequence then some lowest else some held

def ensureActivePeerConnectionIdIsStillHeld :
    QuicConnectionCore :=
  if core.peerConnectionIds.any fun held =>
      held.id == core.configuration.peerConnectionId then core
  else
    match lowestHeld core.peerConnectionIds with
    | none => core
    | some lowest =>
      { core with
        configuration := { core.configuration with
          peerConnectionId := lowest.id } }

/-- Retire first, then add, then make sure a held ID is in use. -/
def adoptNewConnectionId (frame : QuicNewConnectionIdFrame) : QuicConnectionCore :=
  let core :=
    if frame.retirePriorTo > core.peerRetirePriorTo then
      retirePeerConnectionIdsBelow { core with peerRetirePriorTo := frame.retirePriorTo }
        frame.retirePriorTo
    else core
  ensureActivePeerConnectionIdIsStillHeld
    { core with
      peerConnectionIds := core.peerConnectionIds ++
        [{ id := frame.connectionId
           sequence := frame.sequenceNumber
           statelessResetToken := frame.statelessResetToken
           hasStatelessResetToken := true }] }

def noteNewConnectionIdFrame (frame : QuicNewConnectionIdFrame) : QuicConnectionCore :=
  core.note fun history => { history with
    newConnectionIdFrames := history.newConnectionIdFrames ++
      [{ frame := frame
         retirePriorTo := core.peerRetirePriorTo
         held := core.peerConnectionIds }] }

def noteConnectionIdLimitError :
    QuicConnectionCore :=
  core.note fun history => { history with
    connectionIdLimitErrors := history.connectionIdLimitErrors ++
      [history.newConnectionIdFrames.length] }

def handleNewConnectionIdFrame (frame : QuicNewConnectionIdFrame) (arrivalTime : QuicTime) :
    QuicConnectionCore :=
  let core := core.noteNewConnectionIdFrame frame
  if frame.retirePriorTo > frame.sequenceNumber then
    core.beginClose kQuicFrameEncodingError
      "对端 NEW_CONNECTION_ID 的 Retire Prior To 大于序列号（RFC 9000 §19.15）"
      arrivalTime
  else
    match checkAgainstHeld frame core.peerConnectionIds with
    | some none => core
    | some (some complaint) =>
      core.beginClose kQuicProtocolViolation complaint arrivalTime
    | none =>
      let core := core.adoptNewConnectionId frame
      if core.peerConnectionIds.length >
          core.configuration.transportParameters.activeConnectionIdLimit then
        core.noteConnectionIdLimitError.beginClose kQuicConnectionIdLimitError
          "对端给的连接标识条数超过本端通告的 active_connection_id_limit（RFC 9000 §5.1.1）"
          arrivalTime
      else core

def handleRetireConnectionIdFrame
    (sequenceNumber : Nat) (arrivalTime : QuicTime) : QuicConnectionCore :=
  if sequenceNumber ≥ core.nextConnectionIdSequence then
    core.beginClose kQuicProtocolViolation "对端撤回了一条本端从未签发的连接标识（RFC 9000 §19.16）" arrivalTime
  else
    { core with
      issuedConnectionIds := core.issuedConnectionIds.eraseP fun issued =>
        issued.sequence == sequenceNumber }

/-! ## Frames -/

def handleCryptoBytes (frame : QuicCryptoFrame) (arrivalTime : QuicTime) : QuicConnectionCore :=
  let state := core.spaceState space
  if state.reassembly.bufferedByteCount + frame.data.length > kQuicCryptoBufferByteLimit then
    core.beginClose kQuicCryptoBufferExceeded "乱序早到的 CRYPTO 字节超过本端缓存上限（RFC 9000 §11.1）" arrivalTime
  else
    -- the drained bytes go to TLS, whose side of the story is an input here
    core.setSpaceState space
      { state with
        reassembly := (state.reassembly.insert frame.offset frame.data).drain.2 }

/-- A frame of the stream layer, with its violation reported. -/
def handleStreamEvent (event : StreamEvent) (arrivalTime : QuicTime) : QuicConnectionCore :=
  let (status, streams) := core.streams.apply event
  let core := { core with streams := streams }
  match status with
  | .ok () => core
  | .error violation =>
    core.beginClose violation.errorCode violation.reasonPhrase arrivalTime

/-- The peer closed: nothing more is sent. -/
def handlePeerClose : QuicConnectionCore := { core with outboundDatagrams := [], phase := .closing }

def handleHandshakeDone (arrivalTime : QuicTime) :
    QuicConnectionCore :=
  if core.isLocalServer then
    core.beginClose kQuicProtocolViolation "对端向服务端发了 HANDSHAKE_DONE（RFC 9000 §19.20）" arrivalTime
  else core.confirmHandshake arrivalTime

def handleNewToken (token : Bytes) (arrivalTime : QuicTime) : QuicConnectionCore :=
  if core.isLocalServer then
    core.beginClose kQuicProtocolViolation "客户端不得发送 NEW_TOKEN（RFC 9000 §19.7）" arrivalTime
  else if token.isEmpty then
    core.beginClose kQuicFrameEncodingError
      "NEW_TOKEN 的令牌为零长（RFC 9000 §19.7 要求令牌至少 1 字节）" arrivalTime
  else core

def handleFrame (frame : QuicFrame) (space : PacketNumberSpace) (arrivalTime : QuicTime)
    (pathKey : QuicPathKey) : QuicConnectionCore :=
  match frame with
  | .acknowledgement frame => core.handleAcknowledgement frame space arrivalTime
  | .crypto frame => core.handleCryptoBytes space frame arrivalTime
  | .stream frame => core.handleStreamEvent (.streamFrame frame) arrivalTime
  | .maxData frame => core.handleStreamEvent (.maxDataFrame frame) arrivalTime
  | .maxStreamData frame =>
    core.handleStreamEvent (.maxStreamDataFrame frame) arrivalTime
  | .maxStreams frame =>
    core.handleStreamEvent (.maxStreamsFrame frame) arrivalTime
  | .resetStream frame =>
    core.handleStreamEvent (.resetStreamFrame frame) arrivalTime
  | .stopSending frame =>
    core.handleStreamEvent (.stopSendingFrame frame) arrivalTime
  | .connectionClose _ => core.handlePeerClose
  | .handshakeDone => core.handleHandshakeDone arrivalTime
  | .newToken token => core.handleNewToken token arrivalTime
  | .newConnectionId frame => core.handleNewConnectionIdFrame frame arrivalTime
  | .retireConnectionId sequenceNumber =>
    core.handleRetireConnectionIdFrame sequenceNumber arrivalTime
  | .pathChallenge data => core.queuePathResponse pathKey data
  | .pathResponse data =>
    core.handlePathResponseFrame environment data arrivalTime
  | .padding | .ping | .dataBlocked _ | .streamDataBlocked _ | .streamsBlocked _ => core

/-- The frames of a packet, in order; the first that its packet may not
carry ends the matter. The answer says whether all were handled. -/
def handleFrameList (environment : QuicEnvironment)
    (space : PacketNumberSpace) (arrivalTime : QuicTime)
    (pathKey : QuicPathKey) : QuicConnectionCore → List QuicFrame → QuicConnectionCore × Bool
  | core, [] => (core, true)
  | core, frame :: rest =>
    let frameType := quicFrameTypeValue frame
    if isOneRttOnlyFrameType frameType && space != .application then
      (core.beginClose kQuicProtocolViolation
        s!"帧 0x{hexText frameType} 出现在非 1-RTT 包里（RFC 9000 §19 表 3 的 Pkts 列）"
        arrivalTime, false)
    else
      let core := core.handleFrame environment frame space arrivalTime pathKey
      if core.exception.isSome then (core, false)
      else handleFrameList environment space arrivalTime pathKey core rest

/-- An ack-eliciting packet: its number heads the next ACK. -/
def noteAckEliciting (arrivalTime : QuicTime) : QuicConnectionCore := core.setSpaceState space
    { core.spaceState space with
      largestAckElicitingReceived := some packetNumber
      largestAckElicitingArrival := some arrivalTime
      isAcknowledgementPending := true }

def handleFrames (frames : List QuicFrame) (space : PacketNumberSpace) (packetNumber : Nat)
    (pathKey : QuicPathKey) (arrivalTime : QuicTime) : QuicConnectionCore :=
  let core := { core with
    hasProcessedServerInitial := core.hasProcessedServerInitial ||
      (!core.isLocalServer && space == .initial) }
  match handleFrameList environment space arrivalTime pathKey core frames with
  | (core, false) => core
  | (core, true) =>
    let core :=
      if frames.any isAcknowledgementEliciting then
        core.noteAckEliciting space packetNumber arrivalTime
      else core
    core.followPeerPath environment pathKey space packetNumber
      (frames.any isNonProbingFrame) arrivalTime

/-! ## Packets -/

/-- The ECN mark of the datagram counted for one of its packets. -/
def countEcnMark (counts : QuicEcnCounts) (codepoint : Nat) : QuicEcnCounts :=
  if codepoint = kEcnCodepointEctZero then
    { counts with ectZero := counts.ectZero + 1 }
  else if codepoint = kEcnCodepointEctOne then
    { counts with ectOne := counts.ectOne + 1 }
  else if codepoint = kEcnCodepointCe then { counts with ce := counts.ce + 1 }
  else counts

def noteArrival (isAccepted : Bool) : QuicConnectionCore :=
  core.note fun history => { history with
    arrivals := history.arrivals ++ [(space, packetNumber)]
    accepted := history.accepted ++
      if isAccepted then [(space, packetNumber)] else [] }

/-- The books with an authenticated packet in them, and whether its number
is new. -/
def noteReceivedPacket : QuicConnectionCore × Bool :=
  let state := core.spaceState space
  match state.receivedPacketNumbers.insert packetNumber with
  | (false, _) => (core.noteArrival space packetNumber false, false)
  | (true, received) =>
    let core := { core with
      receivedEcnCounts :=
        match core.incomingEcnCodepoint with
        | some codepoint => core.receivedEcnCounts.set space
            (countEcnMark (core.receivedEcnCounts.get space) codepoint)
        | none => core.receivedEcnCounts }
    let core := core.setSpaceState space
      { state with
        receivedPacketNumbers := received.dropOldestUntil kQuicMaximumTrackedPacketNumbers
        largestReceivedPacketNumber :=
          match state.largestReceivedPacketNumber with
          | some largest =>
            if packetNumber > largest then some packetNumber else some largest
          | none => some packetNumber }
    (core.noteArrival space packetNumber true, true)

/-- A destination this connection answers to: any ID it issued, and in an
Initial the one the client made up. -/
def isOwnDestination (packet : QuicArrivingPacket) : Bool :=
  packet.destinationConnectionId == core.configuration.localConnectionId ||
    (core.issuedConnectionIds.any fun issued =>
      packet.destinationConnectionId == issued.id) ||
    (packet.level == some .initial && packet.destinationConnectionId ==
      core.configuration.originalDestinationConnectionId)

/-- The keys a 1-RTT packet is opened with, and whether they are the next
generation's. -/
def readingKeysFor (readKeys : QuicPacketKeys) (isKeyPhaseBitSet : Bool)
    (packetNumber : Nat) : Option (QuicPacketKeys × Bool) :=
  let state := core.spaceState space
  if space = .application ∧ isKeyPhaseBitSet ≠ core.isReadKeyPhaseSet then
    let looksNewer := state.largestReceivedPacketNumber.all fun largest =>
      packetNumber > largest
    if looksNewer then state.nextReadKeys.map fun keys => (keys, true)
    else state.previousReadKeys.map fun keys => (keys, false)
  else some (readKeys, false)

/-- What a fresh packet means before its frames are looked at. -/
def noteFreshPacket (packet : QuicArrivingPacket)
    (space : PacketNumberSpace) (arrivalTime : QuicTime) :
    QuicConnectionCore :=
  let core : QuicConnectionCore := { core with
    peerFirstInitialSourceConnectionId :=
      if space = initial ∧ core.peerFirstInitialSourceConnectionId.isNone then
        some packet.sourceConnectionId
      else core.peerFirstInitialSourceConnectionId }
  let core := core.followPeerConnectionId (space != application) packet.sourceConnectionId
  let core :=
    if !core.isLocalServer && space == application then
      core.confirmHandshake arrivalTime
    else core
  let core := core.restartIdleTimer arrivalTime
  { core with
    hasSentAckElicitingSinceReceipt := false
    isAddressValidated := core.isAddressValidated || space != initial }

/-- A packet that authenticated: noted, and its frames handled if it is
new. The answer is whether the rest of the datagram is still looked at. -/
def handleAuthenticated (packet : QuicArrivingPacket)
    (space : PacketNumberSpace) (packetNumber : Nat)
    (payload : QuicDecodedPayload) (arrivalTime : QuicTime)
    (pathKey : QuicPathKey) : QuicConnectionCore × Bool :=
  if !core.isLocalServer && core.hasAdoptedPeerPath && pathKey != core.sendPathKey then (core, true)
  else
    match core.noteReceivedPacket space packetNumber with
    | (core, false) => (core, true)
    | (core, true) =>
      let core := core.noteFreshPacket packet space arrivalTime
      match payload with
      | .error error =>
        (core.beginClose
          (if error.kind = .truncated then kQuicProtocolViolation
            else kQuicFrameEncodingError)
          s!"帧序列不合 RFC 9000 §19：{error.message}" arrivalTime, false)
      | .ok frames =>
        (core.handleFrames environment frames space packetNumber pathKey arrivalTime, true)

/-- A packet whose header is readable. -/
def handleUnprotected (packet : QuicArrivingPacket)
    (space : PacketNumberSpace) (readKeys : QuicPacketKeys)
    (header : UnprotectedHeader) (arrivalTime : QuicTime)
    (pathKey : QuicPathKey) : QuicConnectionCore × Bool :=
  if !header.areReservedBitsClear then
    (core.beginClose kQuicProtocolViolation
      "报文首字节的保留位在去头部保护后非 0（RFC 9000 §17.2/§17.3.1）" arrivalTime,
      false)
  else
    let packetNumber := restoreQuicPacketNumber
      ((core.spaceState space).largestReceivedPacketNumber.getD 0)
      header.truncatedPacketNumber header.packetNumberByteCount
    if !header.hasPayload then (core, true)
    else
      match core.readingKeysFor space readKeys header.isKeyPhaseBitSet packetNumber with
      | none => (core, true)
      | some (reading, opensWithNextKeys) =>
        match packet.openPayload reading packetNumber with
        | none => (core, true)
        | some payload =>
          let core :=
            if opensWithNextKeys then
              core.applyPeerKeyUpdate environment arrivalTime
            else core
          core.handleAuthenticated environment packet space packetNumber payload arrivalTime pathKey

def handlePacket (packet : QuicArrivingPacket) (arrivalTime : QuicTime)
    (pathKey : QuicPathKey) : QuicConnectionCore × Bool :=
  match packet.level with
  | none => (core, true)
  | some space =>
    if !core.isOwnDestination packet then (core, true)
    else
      match (core.spaceState space).readKeys with
      | none => (core, true)
      | some readKeys =>
        match packet.unprotect readKeys with
        | none => (core, true)
        | some header =>
          core.handleUnprotected environment packet space readKeys header arrivalTime pathKey

def handlePackets (environment : QuicEnvironment) (arrivalTime : QuicTime)
    (pathKey : QuicPathKey) : QuicConnectionCore → List QuicArrivingPacket → QuicConnectionCore
  | core, [] => core
  | core, packet :: rest =>
    match core.handlePacket environment packet arrivalTime pathKey with
    | (core, false) => core
    | (core, true) =>
      core.andThen fun core =>
        handlePackets environment arrivalTime pathKey core rest

/-! ## Retry -/

/-- All books of a space's unresolved packets closed at once. -/
def discardSentPackets : QuicConnectionCore :=
  let discarded := core.recovery.unacknowledgedPackets space
  noteResolved
    { core with
      recovery := core.recovery.discardSpace space
      congestion := core.congestion.onPacketsDiscarded discarded }
    space .discarded discarded

def acceptsRetry (retry : QuicRetryPacketHeader) :
    Bool :=
  retry.destinationConnectionId == core.configuration.localConnectionId &&
    retry.sourceConnectionId != core.configuration.originalDestinationConnectionId &&
    !retry.token.isEmpty &&
    retry.isIntactFor core.configuration.originalDestinationConnectionId

/-- The handshake starts over with the server's ID and token; the packet
numbers go on. -/
def acceptRetry (retry : QuicRetryPacketHeader) : QuicConnectionCore :=
  let core := { core with
    hasProcessedRetry := true
    retryToken := retry.token
    configuration := { core.configuration with
      retrySourceConnectionId := retry.sourceConnectionId
      peerConnectionId := retry.sourceConnectionId }
    history := { core.history with
      adoptionThresholds := core.history.adoptionThresholds ++ [core.peerRetirePriorTo] } }
  let core := core.withInitialKeys environment retry.sourceConnectionId
  let core := core.setSpaceState .initial
    { core.spaceState .initial with
      cryptoWriteOffset := 0
      pendingRetransmissions := [] }
  let core := core.discardSentPackets .initial
  { core with
    recovery := core.recovery.resetForPathChange
    congestion := core.congestion.resetToInitialState
    outboundDatagrams := []
    probeSpace :=
      if core.probeSpace = some .initial then none else core.probeSpace }

def handleRetryPacket (decoded : Option QuicRetryPacketHeader) :
    QuicConnectionCore :=
  if core.isLocalServer || core.hasProcessedRetry ||
      core.hasProcessedServerInitial || core.phase != .handshaking then core
  else
    match decoded with
    | none => core
    | some retry =>
      if core.acceptsRetry retry then core.acceptRetry environment retry
      else core

/-! ## Datagrams -/

def isStatelessResetDatagram (datagram : QuicArrivingDatagram) : Bool :=
  match datagram.trailingBytes, core.peerConnectionIds.find? fun held =>
      held.id == core.configuration.peerConnectionId with
  | some trailing, some active =>
    active.hasStatelessResetToken && active.statelessResetToken == trailing
  | _, _ => false

/-- The bytes of a datagram count whether or not anything in it is good. -/
def countReceivedDatagram (byteCount : Nat) (pathKey : QuicPathKey) : QuicConnectionCore :=
  let core := { core with
    receivedByteCount := core.receivedByteCount + byteCount
    history := { core.history with
      receivedDatagrams := core.history.receivedDatagrams ++ [(pathKey, byteCount)] } }
  core.updatePathState pathKey fun state =>
    { state with receivedByteCount := state.receivedByteCount + byteCount }

def onDatagramReceived (datagram : QuicArrivingDatagram)
    (arrivalTime : QuicTime) (ecnCodepoint : Option Nat)
    (pathKey : QuicPathKey) : QuicConnectionCore :=
  let core := { core with
    incomingEcnCodepoint := ecnCodepoint
    isEcnFieldReadable := core.isEcnFieldReadable || ecnCodepoint.isSome }
  if core.isStatelessResetDatagram datagram then core.closeSilently
  else
    let core := core.countReceivedDatagram datagram.byteCount pathKey
    match datagram.body with
    | .retry decoded => core.handleRetryPacket environment decoded
    | .packets packets =>
      handlePackets environment arrivalTime pathKey core packets

end QuicConnectionCore

end AsynGyanis.Quic
