import AsynGyanis.Quic.Connection.Receive

/-!
# Runs of a connection

Besides arriving datagrams there are two calls that make a connection move,
`drive` and `onTimeout`; the rest lets the application in: the stream
layer's operations, a close, a keepalive, a key update and taking out what
was queued. Each call is one event and a run is any sequence of them.

TLS works behind a door of its own: what it did during one `drive`, the keys
it installed, the records it produced and the verdict it reached, is part of
the event, and nothing is assumed about it.
-/

namespace AsynGyanis.Quic

open Library

/-- The packet keys TLS holds, by level and direction. -/
structure QuicTlsKeys where
  reading : PerSpace (Option QuicPacketKeys) := .replicate none
  writing : PerSpace (Option QuicPacketKeys) := .replicate none
  deriving DecidableEq, Repr

inductive QuicTlsProgress
  | inProgress
  | completed
  | failed (alert : Option Nat)
  deriving DecidableEq, Repr

/-- One call of the TLS side: its keys before and after, the records to
send, where the handshake stands, and the peer's transport parameters once
they are known. -/
structure QuicTlsReport where
  keysBefore : QuicTlsKeys := {}
  keysAfter : QuicTlsKeys := {}
  outboundRecords : List (PacketNumberSpace × Bytes) := []
  progress : QuicTlsProgress := .inProgress
  peerTransportParameters : Option (Except String QuicConnectionTransportParameters) := none
  deriving DecidableEq, Repr

namespace QuicConnectionCore

/-! ## What TLS hands over -/

variable (environment : QuicEnvironment) (core : QuicConnectionCore)
variable (now : QuicTime)

def adoptTlsKeysOf (keys : QuicTlsKeys) (core : QuicConnectionCore) (space : PacketNumberSpace) :
    QuicConnectionCore :=
  let state := core.spaceState space
  let state :=
    match keys.reading.get space, state.readKeys with
    | some reading, none =>
      { state with
        readKeys := some reading
        nextReadKeys :=
          if space = PacketNumberSpace.application then
            some (environment.deriveQuicUpdatedPacketKeys reading)
          else state.nextReadKeys }
    | _, _ => state
  let state :=
    match keys.writing.get space, state.writeKeys with
    | some writing, none => { state with writeKeys := some writing }
    | _, _ => state
  core.setSpaceState space state

/-- Initial keys are never TLS's; the other two levels' are. -/
def adoptTlsKeys (keys : QuicTlsKeys) (core : QuicConnectionCore) : QuicConnectionCore :=
  [PacketNumberSpace.handshake, .application].foldl (adoptTlsKeysOf environment keys) core

def adoptTlsRecord (record : PacketNumberSpace × Bytes) : QuicConnectionCore :=
  let state := core.spaceState record.1
  core.setSpaceState record.1 { state with cryptoStream := state.cryptoStream ++ record.2 }

def adoptTlsRecords (records : List (PacketNumberSpace × Bytes)) : QuicConnectionCore :=
  records.foldl adoptTlsRecord core

/-- The first held ID with sequence 0 gets the token of the handshake. -/
def notePeerHandshakeStatelessResetToken (token : QuicStatelessResetToken) :
    List PeerConnectionId → List PeerConnectionId
  | [] => []
  | held :: rest =>
    if held.sequence = 0 then
      { held with
        statelessResetToken := token.toList
        hasStatelessResetToken := true } :: rest
    else held :: notePeerHandshakeStatelessResetToken token rest

/-- Why the peer's parameters do not bind this connection (§7.3). -/
def connectionIdBindingComplaint (parameters : QuicConnectionTransportParameters) : Option String :=
  if core.peerFirstInitialSourceConnectionId.isNone ∨ parameters.initialSourceConnectionId ≠
        core.peerFirstInitialSourceConnectionId then
    some "对端的 initial_source_connection_id 与它第一个 Initial 里的源标识不符（RFC 9000 §7.3）"
  else if core.isLocalServer then none
  else if parameters.originalDestinationConnectionId ≠
      some core.configuration.originalDestinationConnectionId then
    some "服务端的 original_destination_connection_id 与本端第一个 Initial 的目的标识不符（RFC 9000 §7.3）"
  else if core.hasProcessedRetry then
    if parameters.retrySourceConnectionId ≠ some core.configuration.retrySourceConnectionId then
      some "服务端的 retry_source_connection_id 与 Retry 报文里的源标识不符（RFC 9000 §7.3）"
    else none
  else if parameters.retrySourceConnectionId.isSome then
    some "本端没处理过 Retry，服务端却发了 retry_source_connection_id（RFC 9000 §7.3）"
  else none

def takeOverPeerParameters (parameters : QuicConnectionTransportParameters) : QuicConnectionCore :=
  { core with
    peerParameters := some parameters
    peerConnectionIds :=
      match parameters.statelessResetToken with
      | some token =>
        notePeerHandshakeStatelessResetToken token core.peerConnectionIds
      | none => core.peerConnectionIds
    streams := core.streams.adoptPeerParameters parameters.toQuicTransportParameters
    pathMtu := core.pathMtu.onPeerMaximumPayload parameters.maximumUdpPayloadSize }

def adoptPeerTransportParameters
    (received : Option (Except String QuicConnectionTransportParameters))
    (now : QuicTime) : QuicConnectionCore :=
  if core.peerParameters.isSome then core
  else
    match received with
    | none => core
    | some (.error message) =>
      core.beginClose kQuicTransportParameterError s!"对端传输参数不合格：{message}" now
    | some (.ok parameters) =>
      match core.connectionIdBindingComplaint parameters with
      | some complaint =>
        core.beginClose kQuicTransportParameterError complaint now
      | none => core.takeOverPeerParameters parameters

/-! ## Retiring keys and spaces -/

def retireStaleKeyPhase :
    QuicConnectionCore :=
  let state := core.spaceState .application
  match state.previousReadKeys, core.keyPhaseChangedAt with
  | some _, some changedAt =>
    if now - changedAt > core.recovery.probeTimeout * 3 then
      core.setSpaceState .application { state with previousReadKeys := none }
    else core
  | _, _ => core

def discardSpace (space : PacketNumberSpace) :
    QuicConnectionCore :=
  let state := core.spaceState space
  if state.readKeys.isNone && state.writeKeys.isNone then core
  else
    let core := core.setSpaceState space
      { state with
        readKeys := none
        writeKeys := none
        cryptoStream := []
        pendingRetransmissions := []
        reassembly := .empty }
    discardSentPackets
      { core with
        probeSpace :=
          if core.probeSpace = some space then none else core.probeSpace
        history := { core.history with
          discardedSpaces := core.history.discardedSpaces ++ [space] } }
      space

/-! ## Driving -/

def queueAllSpacePackets (rounds : Nat)
    (now : QuicTime) (core : QuicConnectionCore) : QuicConnectionCore :=
  [PacketNumberSpace.initial, .handshake, .application].foldl
    (fun core space =>
      core.andThen fun core =>
        core.queueSpacePackets environment rounds now space) core

def concludeTlsProgress (progress : QuicTlsProgress) (now : QuicTime) : QuicConnectionCore :=
  match progress with
  | .failed (some alert) =>
    core.beginClose (kQuicCryptoErrorBase + alert)
      "TLS 握手失败，错误码是 RFC 9001 §4.8 映射出的 CRYPTO_ERROR" now
  | .failed none =>
    core.beginClose kQuicProtocolViolation "TLS 拒绝了握手数据" now
  | .completed => { core with phase := .established }
  | .inProgress => core

def driveTls (report : QuicTlsReport)
    (now : QuicTime) (core : QuicConnectionCore) : QuicConnectionCore :=
  let core := core.adoptTlsKeys environment report.keysAfter
  let core := core.adoptTlsRecords report.outboundRecords
  (core.concludeTlsProgress report.progress now).andThen fun core =>
    core.adoptPeerTransportParameters report.peerTransportParameters now

def sendWhatIsDue (rounds : Nat)
    (now : QuicTime) (core : QuicConnectionCore) : QuicConnectionCore :=
  let core := { core with
    congestion := core.congestion.setMaximumDatagramByteLength
      core.pathMtu.maximumDatagramPayloadByteLength }
  (core.queuePathValidationPackets now).andThen (queueAllSpacePackets environment rounds now)

def drive (report : QuicTlsReport) (rounds : Nat) (now : QuicTime) (core : QuicConnectionCore) :
    QuicConnectionCore :=
  let core := core.retireStaleKeyPhase now
  let core :=
    if core.isAddressValidated then core.discardSpace .initial else core
  let core := core.adoptTlsKeys environment report.keysBefore
  let core :=
    if core.phase ≠ .closing then core.driveTls environment report now
    else core
  core.andThen fun core =>
    if core.phase ≠ .closing then core.sendWhatIsDue environment rounds now
    else core

/-! ## Timers -/

/-- Giving up on a path: back to the last one validated, or, with none,
the end. -/
def abandonPathValidation : QuicConnectionCore :=
  if core.hasValidatedPeerPath then
    { core with sendPathKey := core.validatedPathKey }
  else core.closeSilently

/-- A candidate's challenge whose answer is overdue gets fresh data and
another period. -/
def renewPathChallenge (challenge : PendingPathChallenge)
    (now : QuicTime) : QuicConnectionCore × PendingPathChallenge :=
  let extended := { challenge with
    retransmitDeadline := now + core.recovery.probeTimeout }
  if challenge.isSendPending then (core, extended)
  else
    let (fresh, core) := core.takeRandomBytes environment kQuicPathValidationDataByteLength
    match toPathValidationData fresh with
    | some data => (core, { extended with data := data, isSendPending := true })
    | none => (core, extended)

def expirePathChallenge (acc : QuicConnectionCore × List PendingPathChallenge)
    (challenge : PendingPathChallenge) :
    QuicConnectionCore × List PendingPathChallenge :=
  if now ≥ challenge.abandonDeadline then
    (if challenge.isCandidate then acc.1.abandonPathValidation else acc.1, acc.2)
  else if challenge.isCandidate && now ≥ challenge.retransmitDeadline then
    let (core, renewed) := acc.1.renewPathChallenge environment challenge now
    (core, acc.2 ++ [renewed])
  else (acc.1, acc.2 ++ [challenge])

def expirePathChallenges (core : QuicConnectionCore) : QuicConnectionCore :=
  let expired := core.pendingPathChallenges.foldl (expirePathChallenge environment now) (core, [])
  { expired.1 with pendingPathChallenges := expired.2 }

/-- The recovery timer went off: packets are lost, or a probe is owed. -/
def reactToTimeout (core : QuicConnectionCore) :
    QuicConnectionCore :=
  let (recovery, action) := core.recovery.onDeadlineReached now
  let core := { core with recovery := recovery }
  let core :=
    if action.lost.isEmpty then core
    else
      let core := { core with
        congestion := core.congestion.onCongestionUpdate [] action.lost now }
      let core := core.noteResolved action.lostSpace .lost action.lost
      let core := core.queueRetransmissions action.lostSpace action.lost
      { core with
        streams := action.lost.foldl (fun streams packet =>
          streams.onSendRangesLost packet.streamRanges) core.streams }
  if action.isProbeTimeout then
    queueRetransmissions { core with probeSpace := some action.probeSpace }
      action.probeSpace (core.recovery.unacknowledgedPackets action.probeSpace)
  else core

def onTimeout (rounds : Nat) (now : QuicTime) (core : QuicConnectionCore) : QuicConnectionCore :=
  if core.phase = .closing then core
  else if core.idleDeadline.any fun deadline => deadline ≤ now then
    core.closeSilently
  else
    let core := { core with pathMtu := core.pathMtu.onDeadlineReached now }
    let core := core.expirePathChallenges environment now
    if core.phase = .closing then core
    else
      ((core.reactToTimeout now).queueAllSpacePackets environment rounds
        now).andThen fun core => core.queuePathValidationPackets now

/-! ## The application's calls -/

def requestKeepalive : QuicConnectionCore × Bool :=
  match core.idlePeriod, core.idleDeadline with
  | some period, some deadline =>
    if core.phase ≠ .established ∨ deadline - now > period.tdiv 2 ∨
        core.probeSpace.isSome ∨ (core.lastKeepalive.any fun last =>
          now - last < period.tdiv 4) then (core, false)
    else
      ({ core with
          probeSpace := some .application
          lastKeepalive := some now }, true)
  | _, _ => (core, false)

def canInitiateKeyUpdate : Bool := core.isHandshakeConfirmed && core.phase == .established &&
    (core.lowestPacketNumberSentInKeyPhase.isNone || core.isKeyPhaseAcknowledged) &&
    core.keyPhaseChangedAt.all fun changedAt =>
      now - changedAt ≥ core.recovery.probeTimeout * 3

def initiateKeyUpdate : QuicConnectionCore × Bool :=
  let state := core.spaceState .application
  match state.writeKeys with
  | none => (core, false)
  | some writeKeys =>
    if !core.canInitiateKeyUpdate now then (core, false)
    else
      let core := core.setSpaceState .application
        { state with
          writeKeys := some (environment.deriveQuicUpdatedPacketKeys writeKeys) }
      ({ core with
          isSendKeyPhaseSet := !core.isSendKeyPhaseSet
          lowestPacketNumberSentInKeyPhase := some state.nextPacketNumber
          isKeyPhaseAcknowledged := false
          keyPhaseChangedAt := some now }, true)

def takeOutboundDatagram : QuicConnectionCore × Option QuicOutboundDatagram :=
  match core.outboundDatagrams with
  | [] => (core, none)
  | datagram :: rest => ({ core with outboundDatagrams := rest }, some datagram)

end QuicConnectionCore

/-! ## Events -/

inductive QuicConnectionEvent
  | datagramReceived (datagram : QuicArrivingDatagram)
      (arrivalTime : QuicTime) (ecnCodepoint : Option Nat)
      (pathKey : QuicPathKey)
  | driven (report : QuicTlsReport) (rounds : Nat) (now : QuicTime)
  | timedOut (rounds : Nat) (now : QuicTime)
  | closeRequested (errorCode : Nat) (reasonPhrase : String) (now : QuicTime)
  | keepaliveRequested (now : QuicTime)
  | keyUpdateInitiated (now : QuicTime)
  | outboundDatagramTaken
  | streamLayerCalled (event : StreamEvent)

namespace QuicConnectionCore

def apply (environment : QuicEnvironment) (core : QuicConnectionCore)
    (event : QuicConnectionEvent) : QuicConnectionCore :=
  let core := { core with exception := none }
  match event with
  | .datagramReceived datagram arrivalTime ecnCodepoint pathKey =>
    core.onDatagramReceived environment datagram arrivalTime ecnCodepoint pathKey
  | .driven report rounds now => core.drive environment report rounds now
  | .timedOut rounds now => core.onTimeout environment rounds now
  | .closeRequested errorCode reasonPhrase now =>
    core.beginClose errorCode reasonPhrase now
  | .keepaliveRequested now => (core.requestKeepalive now).1
  | .keyUpdateInitiated now => (core.initiateKeyUpdate environment now).1
  | .outboundDatagramTaken => core.takeOutboundDatagram.1
  | .streamLayerCalled event =>
    { core with streams := (core.streams.apply event).2 }

/-- Every state some sequence of calls leads to. -/
def Reachable (environment : QuicEnvironment) (configuration : QuicConnectionCoreConfiguration) :
    QuicConnectionCore → Prop :=
  Reach (apply environment) (fun _ _ => True) (start environment configuration)

end QuicConnectionCore

/-! ## A plain environment

To run a connection on concrete input something has to stand for the
cryptography: keys named after the connection ID, packets any key opens. -/

def plainEnvironment : QuicEnvironment where
  deriveQuicInitialPacketKeys := fun connectionId _ => ⟨connectionId⟩
  deriveQuicUpdatedPacketKeys := id
  hmacSha256 := fun _ _ => none
  randomBytes := fun request byteLength =>
    List.replicate byteLength (UInt8.ofNat request)

/-- A packet whose header carries the number in so many bytes. -/
def plainPacket (space : PacketNumberSpace) (destination source : Bytes)
    (packetNumber packetNumberByteCount : Nat) (frames : List QuicFrame) :
    QuicArrivingPacket where
  level := some space
  destinationConnectionId := destination
  sourceConnectionId := source
  unprotect := fun _ => some
    { truncatedPacketNumber := packetNumber
      packetNumberByteCount := packetNumberByteCount }
  openPayload := fun _ _ => some (.ok frames)

def plainDatagram (byteCount : Nat) (packets : List QuicArrivingPacket) : QuicArrivingDatagram where
  byteCount := byteCount
  body := .packets packets

/-- A TLS side that has its keys from the start and this to send. -/
def plainReport (records : List (PacketNumberSpace × Bytes)) : QuicTlsReport where
  keysBefore :=
    { reading := .replicate (some ⟨[1]⟩)
      writing := .replicate (some ⟨[1]⟩) }
  outboundRecords := records

end AsynGyanis.Quic
