import AsynGyanis.Quic.Codec.TransportParameters
import AsynGyanis.Quic.ReceivedPacketNumbers
import AsynGyanis.Quic.Recovery.Congestion
import AsynGyanis.Quic.PathMtuDiscovery
import AsynGyanis.Quic.Packet
import AsynGyanis.Quic.Streams.Run

/-!
# The state of a QUIC connection

`QuicConnectionCore` turns datagrams in and timers into datagrams out. It
owns three packet number spaces, the loss recovery and congestion control
over them, the path MTU search, the stream layer, the connection IDs of
both sides and the table of the paths the peer was seen on.

What lies outside the connection is a parameter, `QuicEnvironment`: the key
schedule, the random source and the hash behind the reset tokens. Keys are
strings nobody looks into. What TLS did in a call and what a packet turns
out to contain under a key arrive with the event.

The last field of the state, the history, is written by the functions that
send, receive and resolve packets and read by none: it is what the
statements about whole runs are about.
-/

namespace AsynGyanis.Quic

open Library

def kQuicPathKeyByteLength : Nat := 24

/-- The canonical bytes of a peer address. -/
abbrev QuicPathKey := Vector UInt8 kQuicPathKeyByteLength

def kUnspecifiedQuicPathKey : QuicPathKey := Vector.replicate _ 0

def isUnspecifiedQuicPathKey (pathKey : QuicPathKey) : Bool := pathKey == kUnspecifiedQuicPathKey

structure QuicPacketKeys where
  material : Bytes
  deriving DecidableEq, Repr

inductive QuicPacketDirection
  | clientToServer
  | serverToClient
  deriving DecidableEq, Repr

/-- The code outside the connection. `randomBytes` answers the n-th request
of a connection for so many bytes; an empty answer is a failure. -/
structure QuicEnvironment where
  deriveQuicInitialPacketKeys : Bytes → QuicPacketDirection → QuicPacketKeys
  deriveQuicUpdatedPacketKeys : QuicPacketKeys → QuicPacketKeys
  hmacSha256 : Bytes → Bytes → Option QuicStatelessResetToken
  randomBytes : Nat → Nat → Bytes

/-! ## Constants -/

def kQuicCryptoBufferByteLimit : Nat := 65536

def kQuicMaximumTrackedPacketNumbers : Nat := 4096

def kQuicNoError : Nat := 0x00

def kQuicFrameEncodingError : Nat := 0x07

def kQuicTransportParameterError : Nat := 0x08

def kQuicConnectionIdLimitError : Nat := 0x09

def kQuicProtocolViolation : Nat := 0x0a

def kQuicCryptoBufferExceeded : Nat := 0x0d

def kQuicCryptoErrorBase : Nat := 0x0100

def kQuicMinimumStatelessResetKeyByteLength : Nat := 16

def kQuicSelfGeneratedStatelessResetKeyByteLength : Nat := 32

def kMaximumTrackedPeerPaths : Nat := 4

def kMaximumPendingPathResponses : Nat := 8

def kMaximumPendingPathChallenges : Nat := 3

def kQuicAmplificationFactor : Nat := 3

def kUnlimitedAmplificationByteCount : Nat := 2 ^ 64 - 1

/-! ## Configuration -/

structure QuicConnectionCoreConfiguration where
  role : QuicConnectionRole := .server
  localConnectionId : Bytes := []
  peerConnectionId : Bytes := []
  originalDestinationConnectionId : Bytes := []
  retrySourceConnectionId : Bytes := []
  transportParameters : QuicConnectionTransportParameters := {}
  supportsPerDatagramEcnField : Bool := true
  pathMtuProbeAllowed : Bool := true
  congestionAlgorithm : QuicCongestionAlgorithmKind := .newReno
  statelessResetKey : Bytes := []
  deriving DecidableEq, Repr

/-! ## Parts of the state -/

inductive QuicConnectionPhase
  | handshaking
  | established
  | closing
  deriving DecidableEq, Repr

structure QuicSpaceState where
  readKeys : Option QuicPacketKeys := none
  writeKeys : Option QuicPacketKeys := none
  nextReadKeys : Option QuicPacketKeys := none
  previousReadKeys : Option QuicPacketKeys := none
  nextPacketNumber : Nat := 0
  largestReceivedPacketNumber : Option Nat := none
  receivedPacketNumbers : QuicReceivedPacketNumbers := .empty
  largestAckElicitingReceived : Option Nat := none
  largestAckElicitingArrival : Option QuicTime := none
  isAcknowledgementPending : Bool := false
  cryptoStream : Bytes := []
  cryptoWriteOffset : Nat := 0
  pendingRetransmissions : List QuicCryptoRange := []
  reassembly : QuicReassemblyBuffer := .empty

structure IssuedConnectionId where
  id : Bytes
  sequence : Nat
  statelessResetToken : QuicStatelessResetToken
  isAdvertised : Bool
  deriving DecidableEq, Repr

/-- A token nobody gave is all zero; only one the peer really sent may end
the connection. -/
structure PeerConnectionId where
  id : Bytes
  sequence : Nat
  statelessResetToken : Bytes := List.replicate kQuicStatelessResetTokenByteLength 0
  hasStatelessResetToken : Bool := false
  deriving DecidableEq, Repr

structure PeerPathState where
  key : QuicPathKey
  receivedByteCount : Nat := 0
  sentByteCount : Nat := 0
  isValidated : Bool := false
  hasReceivedAuthenticatedPacket : Bool := false
  deriving DecidableEq

structure PendingPathChallenge where
  key : QuicPathKey
  data : QuicPathValidationData
  isCandidate : Bool := false
  isSendPending : Bool := true
  wasExpanded : Bool := false
  sentTime : QuicTime := 0
  abandonDeadline : QuicTime := 0
  retransmitDeadline : QuicTime := 0
  deriving DecidableEq

structure PendingPathResponse where
  key : QuicPathKey
  data : QuicPathValidationData
  deriving DecidableEq

structure PendingRetirementNotice where
  sequence : Nat
  isInFlight : Bool := false
  deriving DecidableEq, Repr

/-- The datagram as it is handed out: its frames stand for its protected
payload. -/
structure QuicOutboundDatagram where
  byteCount : Nat
  space : PacketNumberSpace
  frames : Bytes
  ecnCodepoint : Nat
  pathKey : QuicPathKey
  deriving DecidableEq

/-! ## The history -/

/-- How a sent packet left the books. -/
inductive PacketFate
  | acknowledged
  | lost
  | discarded
  deriving DecidableEq, Repr

structure SentPacketNote where
  space : PacketNumberSpace
  packet : QuicSentPacketInfo
  pathKey : QuicPathKey
  /-- What the amplification limits left for the path before the packet. -/
  allowance : Nat
  /-- The size the packet would have with only what no budget was asked
  for: its leading frames, a PING, the whole of an MTU probe. -/
  unbudgetedByteCount : Nat
  /-- The path had a record when the packet left. -/
  hasPathRecord : Bool
  /-- The datagram size the path was known to carry. -/
  maximumDatagramByteLength : Nat
  /-- The size asked of a path MTU probe. -/
  probeByteLength : Option Nat
  /-- The size the packet would have with only the frames that go in
  unmeasured, its leading frames, a PING, a CONNECTION_CLOSE, and no
  padding. -/
  unmeasuredByteCount : Nat
  deriving DecidableEq

/-- A probe has the size it was asked to have at most. Any other packet is
within the datagram size if what goes in unmeasured is; only a client's
Initial may be one byte longer, when its padding widens the Length field. -/
def SentPacketNote.IsMeasured (note : SentPacketNote) : Prop :=
  match note.probeByteLength with
  | some probeByteLength => note.packet.byteCount ≤ probeByteLength
  | none => note.unmeasuredByteCount ≤ note.maximumDatagramByteLength →
      note.packet.byteCount ≤ note.maximumDatagramByteLength ∨ note.space = .initial ∧
          note.packet.byteCount = kQuicMinimumInitialDatagramByteLength + 1

structure ResolvedPacketNote where
  space : PacketNumberSpace
  packet : QuicSentPacketInfo
  fate : PacketFate
  deriving DecidableEq

/-- An ACK frame and what it was built from: the numbers tracked then, the
number acknowledged up to, how long ago that one had arrived, and the ECN
counts there were to report. -/
structure AcknowledgementNote where
  space : PacketNumberSpace
  tracked : QuicReceivedPacketNumbers
  acknowledgedUpTo : Nat
  elapsed : QuicTime
  ecnCounts : Option QuicEcnCounts
  frame : QuicAcknowledgementFrame

/-- A NEW_CONNECTION_ID frame, and the Retire Prior To in force and the IDs
held when it arrived. -/
structure NewConnectionIdNote where
  frame : QuicNewConnectionIdFrame
  retirePriorTo : Nat
  held : List PeerConnectionId
  deriving DecidableEq, Repr

/-- All lists grow at the end. -/
structure QuicConnectionHistory where
  /-- The numbers of the authenticated packets, duplicates included. -/
  arrivals : List (PacketNumberSpace × Nat) := []
  /-- Those whose frames were processed. -/
  accepted : List (PacketNumberSpace × Nat) := []
  acknowledgements : List AcknowledgementNote := []
  receivedDatagrams : List (QuicPathKey × Nat) := []
  sentPackets : List SentPacketNote := []
  resolvedPackets : List ResolvedPacketNote := []
  discardedSpaces : List PacketNumberSpace := []
  newConnectionIdFrames : List NewConnectionIdNote := []
  /-- The Retire Prior To in force each time a client took the ID to send to
  from a header or a Retry. -/
  adoptionThresholds : List Nat := []
  retiredSequences : List Nat := []
  /-- How many of the frames were there each time the peer was told that
  it has too many connection IDs active. -/
  connectionIdLimitErrors : List Nat := []

/-! ## The connection -/

structure QuicConnectionCore where
  configuration : QuicConnectionCoreConfiguration
  recovery : QuicRecovery := {}
  congestion : QuicCongestionAlgorithm
  pathMtu : QuicPathMtuDiscovery := {}
  persistentCongestionEventCount : Nat := 0
  streams : QuicStreamLayer
  receivedByteCount : Nat := 0
  sentByteCount : Nat := 0
  spaces : PerSpace QuicSpaceState := .replicate {}
  receivedEcnCounts : PerSpace QuicEcnCounts := .replicate {}
  incomingEcnCodepoint : Option Nat := none
  isEcnFieldReadable : Bool := false
  outboundDatagrams : List QuicOutboundDatagram := []
  phase : QuicConnectionPhase := .handshaking
  localCloseErrorCode : Option Nat := none
  localCloseReasonPhrase : String := ""
  isHandshakeDoneAcknowledged : Bool := false
  isHandshakeDoneInFlight : Bool := false
  isHandshakeConfirmed : Bool := false
  isAddressValidated : Bool := false
  hasAdoptedPeerConnectionId : Bool := false
  hasProcessedRetry : Bool := false
  hasProcessedServerInitial : Bool := false
  retryToken : Bytes := []
  probeSpace : Option PacketNumberSpace := none
  idleDeadline : Option QuicTime := none
  idlePeriod : Option QuicTime := none
  lastKeepalive : Option QuicTime := none
  hasSentAckElicitingSinceReceipt : Bool := false
  isSendKeyPhaseSet : Bool := false
  isReadKeyPhaseSet : Bool := false
  keyPhaseChangedAt : Option QuicTime := none
  lowestPacketNumberSentInKeyPhase : Option Nat := none
  isKeyPhaseAcknowledged : Bool := false
  peerParameters : Option QuicConnectionTransportParameters := none
  peerFirstInitialSourceConnectionId : Option Bytes := none
  issuedConnectionIds : List IssuedConnectionId := []
  nextConnectionIdSequence : Nat := 1
  peerConnectionIds : List PeerConnectionId := []
  peerRetirePriorTo : Nat := 0
  largestRetiredSequenceSent : Nat := 0
  pendingRetirementNotices : List PendingRetirementNotice := []
  isConnectionIdFramesDirty : Bool := false
  statelessResetKey : Bytes := []
  peerPaths : List PeerPathState := []
  sendPathKey : QuicPathKey := kUnspecifiedQuicPathKey
  hasAdoptedPeerPath : Bool := false
  validatedPathKey : QuicPathKey := kUnspecifiedQuicPathKey
  hasValidatedPeerPath : Bool := false
  largestNonProbingPacketNumbers : PerSpace (Option Nat) := .replicate none
  pendingPathChallenges : List PendingPathChallenge := []
  pendingPathResponses : List PendingPathResponse := []
  /-- How many requests went to the random source. -/
  randomRequestCount : Nat := 0
  /-- An exception on its way to the caller: what is left of the call is
  skipped. The next call starts without it. -/
  exception : Option InvalidArgument := none
  history : QuicConnectionHistory := {}

namespace QuicConnectionCore

variable (core : QuicConnectionCore)

def isLocalServer : Bool := core.configuration.role == .server

def spaceState (space : PacketNumberSpace) :
    QuicSpaceState :=
  core.spaces.get space

def setSpaceState (space : PacketNumberSpace) (state : QuicSpaceState) : QuicConnectionCore :=
  { core with spaces := core.spaces.set space state }

def note (history : QuicConnectionHistory → QuicConnectionHistory) :
    QuicConnectionCore :=
  { core with history := history core.history }

/-- One request to the random source. -/
def takeRandomBytes (environment : QuicEnvironment) (core : QuicConnectionCore) (byteLength : Nat) :
    Bytes × QuicConnectionCore :=
  (environment.randomBytes core.randomRequestCount byteLength,
    { core with randomRequestCount := core.randomRequestCount + 1 })

/-! ## Reset tokens and the idle timer -/

def deriveQuicStatelessResetToken (environment : QuicEnvironment)
    (staticKey connectionId : Bytes) : QuicStatelessResetToken :=
  if staticKey.length < kQuicMinimumStatelessResetKeyByteLength ∨
      connectionId.isEmpty then Vector.replicate _ 0
  else
    (environment.hmacSha256 staticKey connectionId).getD (Vector.replicate _ 0)

def statelessResetTokenOf (environment : QuicEnvironment)
    (core : QuicConnectionCore) (connectionId : Bytes) :
    QuicStatelessResetToken :=
  deriveQuicStatelessResetToken environment core.statelessResetKey connectionId

def kMaximumUsableIdleTimeoutMilliseconds : Nat := (2 ^ 63 - 1) / 2000

def effectiveIdleTimeout : Option QuicTime :=
  let localMilliseconds := core.configuration.transportParameters.maximumIdleTimeoutMilliseconds
  let peerMilliseconds :=
    match core.peerParameters with
    | some parameters => parameters.maximumIdleTimeoutMilliseconds
    | none => 0
  let effectiveMilliseconds :=
    if localMilliseconds ≠ 0 ∧ peerMilliseconds ≠ 0 then
      min localMilliseconds peerMilliseconds
    else if localMilliseconds ≠ 0 then localMilliseconds
    else peerMilliseconds
  if effectiveMilliseconds = 0 then none
  else if effectiveMilliseconds > kMaximumUsableIdleTimeoutMilliseconds then
    none
  else
    some (max (effectiveMilliseconds * 1000 : Int) (core.recovery.probeTimeout * 3))

def restartIdleTimer (now : QuicTime) :
    QuicConnectionCore :=
  match core.effectiveIdleTimeout with
  | none => { core with idlePeriod := none }
  | some period =>
    { core with idlePeriod := some period, idleDeadline := some (now + period) }

/-! ## Construction -/

/-- The parameters this side declares: what the connection IDs bind is
filled in here, and only a server may declare it. -/
def localParametersOf (configuration : QuicConnectionCoreConfiguration)
    (handshakeToken : QuicStatelessResetToken) :
    QuicConnectionTransportParameters :=
  let parameters := { configuration.transportParameters with
    initialSourceConnectionId := some configuration.localConnectionId }
  match configuration.role with
  | .server =>
    { parameters with
      originalDestinationConnectionId := some configuration.originalDestinationConnectionId
      retrySourceConnectionId :=
        if configuration.retrySourceConnectionId.isEmpty then
          parameters.retrySourceConnectionId
        else some configuration.retrySourceConnectionId
      statelessResetToken := some handshakeToken }
  | .client => { parameters with originalDestinationConnectionId := none }

def inboundDirectionOf : QuicConnectionRole → QuicPacketDirection
  | .server => .clientToServer
  | .client => .serverToClient

def outboundDirectionOf : QuicConnectionRole → QuicPacketDirection
  | .server => .serverToClient
  | .client => .clientToServer

/-- The Initial keys of both directions, derived from a connection ID. -/
def withInitialKeys (environment : QuicEnvironment)
    (core : QuicConnectionCore) (connectionId : Bytes) : QuicConnectionCore :=
  let role := core.configuration.role
  core.setSpaceState .initial
    { core.spaceState .initial with
      readKeys := some (environment.deriveQuicInitialPacketKeys connectionId
        (inboundDirectionOf role))
      writeKeys := some (environment.deriveQuicInitialPacketKeys connectionId
        (outboundDirectionOf role)) }

/-- The constructor, past its checks of the arguments. -/
def start (environment : QuicEnvironment)
    (configuration : QuicConnectionCoreConfiguration) : QuicConnectionCore :=
  let statelessResetKey :=
    if configuration.statelessResetKey.isEmpty then
      environment.randomBytes 0 kQuicSelfGeneratedStatelessResetKeyByteLength
    else configuration.statelessResetKey
  let handshakeToken := deriveQuicStatelessResetToken environment
    statelessResetKey configuration.localConnectionId
  let core : QuicConnectionCore :=
    { configuration := { configuration with
        transportParameters := localParametersOf configuration handshakeToken }
      congestion := .make configuration.congestionAlgorithm kQuicMaximumDatagramPayloadByteLength
      streams := .new configuration.transportParameters.toQuicTransportParameters configuration.role
      statelessResetKey := statelessResetKey
      issuedConnectionIds :=
        [{ id := configuration.localConnectionId
           sequence := 0
           statelessResetToken := handshakeToken
           isAdvertised := true }]
      peerConnectionIds :=
        match configuration.role with
        | .server => [{ id := configuration.peerConnectionId, sequence := 0 }]
        | .client => []
      randomRequestCount :=
        if configuration.statelessResetKey.isEmpty then 1 else 0 }
  let core := core.withInitialKeys environment
    (if configuration.retrySourceConnectionId.isEmpty then
      configuration.originalDestinationConnectionId
    else configuration.retrySourceConnectionId)
  let core := core.restartIdleTimer 0
  if configuration.supportsPerDatagramEcnField then core
  else { core with recovery := core.recovery.disableEcn }

end QuicConnectionCore

end AsynGyanis.Quic
