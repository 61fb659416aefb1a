import AsynGyanis.Quic.Connection.State

/-!
# The sending side

Every packet leaves through `emitPacket`, which sizes it, hands it to the
outbound queue and enters it into the four books kept of sent bytes:
recovery, congestion control, the connection's total and the path's. What
goes into a packet of a space is put together in a fixed order, ACK,
connection IDs, HANDSHAKE_DONE, CRYPTO, stream frames, PING; from CRYPTO on
each part asks for a budget first.

A frame that cannot be encoded throws. The exception stays in the state and
the rest of the call is skipped, which `andThen` spells out. The loops that
build packets have no bound in the source; here the caller says how many
rounds it watches, and every result holds whatever it says.
-/

namespace AsynGyanis.Quic

open Library

namespace QuicConnectionCore

variable (core : QuicConnectionCore) (space : PacketNumberSpace)
variable (now : QuicTime) (pathKey : QuicPathKey)

/-- Going on unless an exception is on its way. -/
def andThen (rest : QuicConnectionCore → QuicConnectionCore) : QuicConnectionCore :=
  if core.exception.isSome then core else rest core

def throw (message : InvalidArgument) :
    QuicConnectionCore :=
  { core with exception := some message }

/-! ## The path table -/

def findPathState : Option PeerPathState := core.peerPaths.find? fun state => state.key == pathKey

/-- A record no eviction may take: validated, the one sent to, or the
candidate of a challenge. -/
def isPathInUse (state : PeerPathState) : Bool :=
  state.isValidated || state.key == core.sendPathKey ||
    core.pendingPathChallenges.any fun challenge =>
      challenge.isCandidate && challenge.key == state.key

/-- The table with a fresh record in place of the oldest one not in use. -/
def replaceUnused (core : QuicConnectionCore) (pathKey : QuicPathKey) :
    List PeerPathState → Option (List PeerPathState)
  | [] => none
  | state :: rest =>
    if core.isPathInUse state then
      (core.replaceUnused pathKey rest).map (state :: ·)
    else some ({ key := pathKey } :: rest)

/-- The table with a record for the path, if there is or can be one. -/
def admitPath : Option (List PeerPathState) :=
  if (core.findPathState pathKey).isSome then some core.peerPaths
  else if core.peerPaths.length ≥ kMaximumTrackedPeerPaths then
    core.replaceUnused pathKey core.peerPaths
  else some (core.peerPaths ++ [{ key := pathKey }])

/-- `pathStateFor` with what the caller then does to the record; a path
without a record is passed over. -/
def updatePathState (update : PeerPathState → PeerPathState) : QuicConnectionCore :=
  match core.admitPath pathKey with
  | none => core
  | some paths =>
    { core with
      peerPaths := paths.map fun state =>
        if state.key = pathKey then update state else state }

/-! ## Budgets -/

/-- What both amplification limits leave for a path: three times the bytes
received, of the connection until the address is validated and of the path
until it is. -/
def amplificationLimitForPath : Nat :=
  let remaining :=
    if core.isLocalServer && !core.isAddressValidated then
      saturatingSubtract (kQuicAmplificationFactor * core.receivedByteCount) core.sentByteCount
    else kUnlimitedAmplificationByteCount
  if core.isLocalServer && !isUnspecifiedQuicPathKey pathKey then
    match core.findPathState pathKey with
    | some state =>
      if !state.isValidated then
        min remaining (saturatingSubtract (kQuicAmplificationFactor * state.receivedByteCount)
          state.sentByteCount)
      else remaining
    | none => remaining
  else remaining

def amplificationRemainingByteCount : Nat := core.amplificationLimitForPath core.sendPathKey

def isAmplificationLimited : Bool :=
  if !core.isLocalServer then false
  else if !core.isAddressValidated then true
  else if isUnspecifiedQuicPathKey core.sendPathKey then false
  else
    match core.findPathState core.sendPathKey with
    | some state => !state.isValidated
    | none => false

def isBlockedByAmplificationLimit (reservedByteLength : Nat) : Bool :=
  core.isAmplificationLimited && reservedByteLength > core.amplificationRemainingByteCount

def sendByteBudget (reservedByteLength : Nat) (ignoresCongestionWindow : Bool) : Nat :=
  let budget := saturatingSubtract core.pathMtu.maximumDatagramPayloadByteLength reservedByteLength
  let budget :=
    if !ignoresCongestionWindow then
      min budget (saturatingSubtract core.congestion.remainingByteBudget reservedByteLength)
    else budget
  if core.isAmplificationLimited then
    min budget (saturatingSubtract core.amplificationRemainingByteCount reservedByteLength)
  else budget

/-! ## Emitting a packet -/

structure DatagramPadding where
  datagramByteLength : Nat := 0
  isPathMtuProbe : Bool := false
  deriving DecidableEq, Repr

/-- The arguments of `emitPacket`. -/
structure PacketContents where
  space : PacketNumberSpace
  frames : Bytes
  isAckEliciting : Bool
  cryptoRange : Option QuicCryptoRange := none
  streamRanges : List QuicStreamRange := []
  carriesHandshakeDone : Bool := false
  streamAnnouncements : List QuicStreamAnnouncement := []
  carriesConnectionIdFrames : Bool := false
  retirementSequences : List Nat := []
  padding : Option DatagramPadding := none
  pathKey : QuicPathKey
  /-- For the history: how many bytes of the frames took no budget. -/
  unbudgetedFrameByteLength : Nat := 0
  /-- And how many were not measured against the size of a datagram. -/
  unmeasuredFrameByteLength : Nat := 0

/-- What a packet of the space would look like if it were sent now. -/
def packetShape (core : QuicConnectionCore) (space : PacketNumberSpace) : PacketShape where
  isLongHeader := space ≠ .application
  carriesToken := space = .initial
  destinationConnectionIdLength := core.configuration.peerConnectionId.length
  sourceConnectionIdLength := core.configuration.localConnectionId.length
  tokenByteLength := if space = .initial then core.retryToken.length else 0
  packetNumberByteCount := quicPacketNumberByteCountFor (core.spaceState space).nextPacketNumber

def paddingTargetByteLength (contents : PacketContents) : Nat :=
  if !core.isLocalServer && contents.space == .initial then
    kQuicMinimumInitialDatagramByteLength
  else
    match contents.padding with
    | some padding => padding.datagramByteLength
    | none => 0

/-- The frames with the PADDING the packet is owed. -/
def paddedFrames (contents : PacketContents) :
    Bytes :=
  let target := core.paddingTargetByteLength contents
  let paddingByteLength :=
    if target = 0 then 0
    else (core.packetShape contents.space).datagramPaddingByteLength contents.frames.length target
  contents.frames ++ List.replicate paddingByteLength 0

def datagramByteCount (contents : PacketContents) :
    Nat :=
  (core.packetShape contents.space).outboundPacketByteCount (core.paddedFrames contents).length

/-- The credential kept of the packet. -/
def sentPacketRecord (core : QuicConnectionCore) (contents : PacketContents)
    (now : QuicTime) : QuicSentPacketInfo where
  packetNumber := (core.spaceState contents.space).nextPacketNumber
  timeSent := now
  byteCount := core.datagramByteCount contents
  isAckEliciting := contents.isAckEliciting
  ecnCodepoint := core.recovery.outgoingEcnCodepoint
  cryptoRange := contents.cryptoRange
  streamRanges := contents.streamRanges
  streamAnnouncements := contents.streamAnnouncements
  carriesHandshakeDone := contents.carriesHandshakeDone
  carriesConnectionIdFrames := contents.carriesConnectionIdFrames
  retiredConnectionIdSequences := contents.retirementSequences
  isPathMtuProbe := contents.padding.any (·.isPathMtuProbe)

/-- The first packet after a receipt restarts the idle timer. -/
def extendIdleDeadline (isAckEliciting : Bool) (now : QuicTime) : QuicConnectionCore :=
  match core.idlePeriod with
  | some period =>
    if isAckEliciting && !core.hasSentAckElicitingSinceReceipt then
      { core with
        idleDeadline := some (now + period)
        hasSentAckElicitingSinceReceipt := true }
    else core
  | none => core

/-- The books of sent bytes, all four. -/
def recordSentPacket (packet : QuicSentPacketInfo) :
    QuicConnectionCore :=
  let core := { core with
    congestion := core.congestion.onPacketSent packet
    recovery := core.recovery.onPacketSent space packet
    sentByteCount := core.sentByteCount + packet.byteCount }
  core.updatePathState pathKey fun state =>
    { state with sentByteCount := state.sentByteCount + packet.byteCount }

/-- What the history keeps of the packet. -/
def sentPacketNote (core : QuicConnectionCore) (contents : PacketContents)
    (now : QuicTime) : SentPacketNote where
  space := contents.space
  packet := core.sentPacketRecord contents now
  pathKey := contents.pathKey
  allowance := core.amplificationLimitForPath contents.pathKey
  unbudgetedByteCount :=
    if contents.padding.any (·.isPathMtuProbe) then
      core.datagramByteCount contents
    else if contents.unbudgetedFrameByteLength = 0 then 0
    else (core.packetShape contents.space).outboundPacketByteCount
      contents.unbudgetedFrameByteLength
  hasPathRecord := (core.findPathState contents.pathKey).isSome
  maximumDatagramByteLength := core.pathMtu.maximumDatagramPayloadByteLength
  probeByteLength := contents.padding.bind fun padding =>
    if padding.isPathMtuProbe then some padding.datagramByteLength else none
  unmeasuredByteCount := (core.packetShape contents.space).outboundPacketByteCount
      contents.unmeasuredFrameByteLength

/-- `validateOutboundPacket`, as far as the callers can fail it. -/
def outboundPacketError : Option InvalidArgument :=
  let packetNumber := (core.spaceState space).nextPacketNumber
  let destinationLength := core.configuration.peerConnectionId.length
  let sourceLength := core.configuration.localConnectionId.length
  if packetNumber > kQuicMaximumIntegerValue then
    some s!"QUIC 组包失败：包号 {packetNumber} 超过 2^62-1 的上限（RFC 9000 §12.3）：这条连接该按收包号上限处理，不能继续发"
  else if destinationLength > kQuicMaximumConnectionIdLength ∨
      space ≠ .application ∧ sourceLength > kQuicMaximumConnectionIdLength then
    some s!"QUIC 组包失败：连接标识长度（目的 {destinationLength} 字节、源 {sourceLength} 字节）超过版本 1 的上限 {kQuicMaximumConnectionIdLength} 字节（RFC 9000 §5.1.1、§17.2）"
  else none

def emitPacket (contents : PacketContents) (now : QuicTime) : QuicConnectionCore :=
  match core.outboundPacketError contents.space with
  | some message => core.throw message
  | none =>
    let sent := core.sentPacketRecord contents now
    let noted := core.sentPacketNote contents now
    let state := core.spaceState contents.space
    let core : QuicConnectionCore := { core with
      outboundDatagrams := core.outboundDatagrams ++
        [{ byteCount := sent.byteCount
           space := contents.space
           frames := core.paddedFrames contents
           ecnCodepoint := sent.ecnCodepoint
           pathKey := contents.pathKey }]
      isHandshakeDoneInFlight := core.isHandshakeDoneInFlight || contents.carriesHandshakeDone
      history := { core.history with
        sentPackets := core.history.sentPackets ++ [noted] } }
    let core := core.setSpaceState contents.space
      { state with nextPacketNumber := state.nextPacketNumber + 1 }
    (core.extendIdleDeadline contents.isAckEliciting now).recordSentPacket
      contents.space contents.pathKey sent

/-! ## Closing -/

def highestSpaceWithWriteKeys :
    PacketNumberSpace :=
  if (core.spaceState .application).writeKeys.isSome then .application
  else if (core.spaceState .handshake).writeKeys.isSome then .handshake
  else .initial

def queueConnectionClosePacket :
    QuicConnectionCore :=
  let space := core.highestSpaceWithWriteKeys
  match appendQuicFrame [] (.connectionClose
    { errorCode := core.localCloseErrorCode.getD kQuicNoError
      reasonPhrase := core.localCloseReasonPhrase.toUTF8.toList }) with
  | .error message => core.throw message
  | .ok frames =>
    if core.isBlockedByAmplificationLimit
        ((core.packetShape space).packetOverheadByteLength + frames.length)
    then core
    else
      core.emitPacket
        { space := space
          frames := frames
          isAckEliciting := false
          pathKey := core.sendPathKey
          unmeasuredFrameByteLength := frames.length } now

def beginClose (errorCode : Nat) (reasonPhrase : String) (now : QuicTime) : QuicConnectionCore :=
  if core.phase = .closing then core
  else
    queueConnectionClosePacket
      { core with
        localCloseErrorCode := some errorCode
        localCloseReasonPhrase := reasonPhrase
        phase := .closing } now

/-- Closing without a word: the idle timeout, a stateless reset, a failed
path validation with nowhere to return to. -/
def closeSilently : QuicConnectionCore :=
  { core with
    phase := .closing
    localCloseErrorCode := none
    localCloseReasonPhrase := ""
    outboundDatagrams := [] }

/-! ## Path validation packets -/

/-- Expanding to 1200 bytes takes the room for it under both limits. -/
def canExpandPathValidationDatagram : Bool := core.amplificationLimitForPath pathKey ≥
      kQuicMinimumInitialDatagramByteLength &&
    core.pathMtu.maximumDatagramPayloadByteLength ≥ kQuicMinimumInitialDatagramByteLength &&
    core.congestion.maySend kQuicMinimumInitialDatagramByteLength

/-- Whether a packet with the frames may go out on the path at all. -/
def mayEmitPathFrame (frames : Bytes) (pathKey : QuicPathKey) : Bool :=
  let packetByteLength := (core.packetShape .application).packetOverheadByteLength + frames.length
  packetByteLength ≤ core.amplificationLimitForPath pathKey &&
    core.congestion.maySend packetByteLength

def pathValidationPadding : Option DatagramPadding :=
  if core.canExpandPathValidationDatagram pathKey then
    some { datagramByteLength := kQuicMinimumInitialDatagramByteLength }
  else none

/-- One path frame in a packet of its own, if it may go. -/
def emitPathFrame (frame : QuicFrame)
    (pathKey : QuicPathKey) (now : QuicTime) : QuicConnectionCore × Bool :=
  match appendQuicFrame [] frame with
  | .error message => (core.throw message, false)
  | .ok frames =>
    if !core.mayEmitPathFrame frames pathKey then (core, false)
    else
      (core.emitPacket
        { space := .application
          frames := frames
          isAckEliciting := true
          padding := core.pathValidationPadding pathKey
          pathKey := pathKey } now, true)

/-- One owed response: sent, or put off to the next call. -/
def sendPathResponse (acc : QuicConnectionCore × List PendingPathResponse)
    (response : PendingPathResponse) :
    QuicConnectionCore × List PendingPathResponse :=
  if acc.1.exception.isSome then acc
  else
    match acc.1.emitPathFrame (.pathResponse response.data) response.key now
    with
    | (core, true) => (core, acc.2)
    | (core, false) => (core, acc.2 ++ [response])

def sendPathResponses :
    QuicConnectionCore :=
  let sent := core.pendingPathResponses.foldl (sendPathResponse now) (core, [])
  sent.1.andThen fun core => { core with pendingPathResponses := sent.2 }

def noteChallengeSent (wasExpanded : Bool) (probeTimeoutPeriod now : QuicTime)
    (challenge : PendingPathChallenge) : PendingPathChallenge :=
  { challenge with
    isSendPending := false
    wasExpanded := wasExpanded
    sentTime := now
    retransmitDeadline := now + probeTimeoutPeriod }

/-- The challenge at one position of the list, if it is due. -/
def sendPathChallenge (core : QuicConnectionCore) (position : Nat) : QuicConnectionCore :=
  match core.pendingPathChallenges[position]? with
  | none => core
  | some challenge =>
    if core.exception.isSome || !challenge.isSendPending then core
    else
      let padding := core.pathValidationPadding challenge.key
      match core.emitPathFrame (.pathChallenge challenge.data) challenge.key now with
      | (core, false) => core
      | (core, true) =>
        core.andThen fun core =>
          { core with
            pendingPathChallenges := core.pendingPathChallenges.set position
              (noteChallengeSent padding.isSome core.recovery.probeTimeout now challenge) }

def sendPathChallenges :
    QuicConnectionCore :=
  (List.range core.pendingPathChallenges.length).foldl (sendPathChallenge now) core

def queuePathValidationPackets :
    QuicConnectionCore :=
  if (core.spaceState .application).writeKeys.isNone then core
  else (core.sendPathResponses now).andThen (·.sendPathChallenges now)

/-! ## Connection IDs -/

def hasRoomForAnotherConnectionId : Bool :=
  let peerLimit :=
    match core.peerParameters with
    | some parameters => parameters.activeConnectionIdLimit
    | none => kQuicDefaultActiveConnectionIdLimit
  core.issuedConnectionIds.length < peerLimit

/-- A new connection ID, if the random source has one to give. -/
def issueConnectionId (environment : QuicEnvironment)
    (core : QuicConnectionCore) (isAdvertised : Bool) : QuicConnectionCore :=
  let (id, core) := core.takeRandomBytes environment core.configuration.localConnectionId.length
  if id.isEmpty then core
  else
    { core with
      issuedConnectionIds := core.issuedConnectionIds ++
        [{ id := id
           sequence := core.nextConnectionIdSequence
           statelessResetToken := core.statelessResetTokenOf environment id
           isAdvertised := isAdvertised }]
      nextConnectionIdSequence := core.nextConnectionIdSequence + 1 }

/-- What is being put into one packet of a space, with the two debts the
loop carries from packet to packet. -/
structure PacketAssembly where
  core : QuicConnectionCore
  owesHandshakeDone : Bool
  owesProbe : Bool
  frames : Bytes := []
  elicitsAcknowledgement : Bool := false
  carriesHandshakeDone : Bool := false
  carriesConnectionIdFrames : Bool := false
  retirementSequences : List Nat := []
  unbudgetedFrameByteLength : Nat := 0
  carriedRange : Option QuicCryptoRange := none
  sentRanges : List QuicStreamRange := []
  announcements : List QuicStreamAnnouncement := []
  carriesStreamFrames : Bool := false

namespace PacketAssembly

def andThen (assembly : PacketAssembly) (rest : PacketAssembly → PacketAssembly) : PacketAssembly :=
  if assembly.core.exception.isSome then assembly else rest assembly

def appendFrame (assembly : PacketAssembly) (frame : QuicFrame) :
    PacketAssembly :=
  match appendQuicFrame assembly.frames frame with
  | .ok frames => { assembly with frames := frames }
  | .error message => { assembly with core := assembly.core.throw message }

end PacketAssembly

/-! ## What goes into a packet -/

/-- How long ago the packet that heads the ACK arrived. -/
def acknowledgementElapsed : QuicTime :=
  now - (core.spaceState space).largestAckElicitingArrival.getD now

def reportedEcnCounts : Option QuicEcnCounts :=
  if core.isEcnFieldReadable then some (core.receivedEcnCounts.get space)
  else none

/-- The ACK frame of `appendAcknowledgementIfPending`. -/
def acknowledgementFrameOf (core : QuicConnectionCore)
    (space : PacketNumberSpace) (largest : Nat) (now : QuicTime) :
    QuicAcknowledgementFrame where
  largestAcknowledgedPacketNumber := largest
  ranges := buildQuicAcknowledgementRanges (core.spaceState space).receivedPacketNumbers largest
  acknowledgementDelay := (core.acknowledgementElapsed space now).toNat >>>
      min core.configuration.transportParameters.acknowledgmentDelayExponent 20
  hasEcnCounts := (core.reportedEcnCounts space).isSome
  ecnCounts := (core.reportedEcnCounts space).getD {}

def noteAcknowledgement (largest : Nat) (now : QuicTime) :
    QuicConnectionCore :=
  core.note fun history => { history with
    acknowledgements := history.acknowledgements ++
      [{ space := space
         tracked := (core.spaceState space).receivedPacketNumbers
         acknowledgedUpTo := largest
         elapsed := core.acknowledgementElapsed space now
         ecnCounts := core.reportedEcnCounts space
         frame := core.acknowledgementFrameOf space largest now }] }

def appendAcknowledgementIfPending (assembly : PacketAssembly) : PacketAssembly :=
  let core := assembly.core
  let state := core.spaceState space
  let settled := core.setSpaceState space { state with isAcknowledgementPending := false }
  match state.isAcknowledgementPending, state.largestAckElicitingReceived with
  | true, some largest =>
    { assembly with core := settled.noteAcknowledgement space largest now }.appendFrame
        (.acknowledgement (core.acknowledgementFrameOf space largest now))
  | _, _ => { assembly with core := settled }

def newConnectionIdFrameOf (issued : IssuedConnectionId) : QuicNewConnectionIdFrame where
  sequenceNumber := issued.sequence
  retirePriorTo := 0
  connectionId := issued.id
  statelessResetToken := issued.statelessResetToken.toList

def appendIssuedConnectionId (isDirty : Bool) (assembly : PacketAssembly)
    (issued : IssuedConnectionId) : PacketAssembly :=
  if issued.isAdvertised && !isDirty then assembly
  else
    assembly.andThen fun assembly =>
      { assembly with carriesConnectionIdFrames := true }.appendFrame
        (.newConnectionId (newConnectionIdFrameOf issued))

/-- The retirement notice at one position of the list, unless it is in
flight. -/
def appendRetirementNotice (assembly : PacketAssembly) (position : Nat) :
    PacketAssembly :=
  match assembly.core.pendingRetirementNotices[position]? with
  | none => assembly
  | some notice =>
    if notice.isInFlight then assembly
    else
      (assembly.andThen (·.appendFrame
        (.retireConnectionId notice.sequence))).andThen fun assembly =>
          { assembly with
            carriesConnectionIdFrames := true
            retirementSequences := assembly.retirementSequences ++ [notice.sequence]
            core := { assembly.core with
              pendingRetirementNotices := assembly.core.pendingRetirementNotices.set position
                  { notice with isInFlight := true } } }

/-- Everything pending counts as advertised once a frame was appended. -/
def markConnectionIdsAdvertised (assembly : PacketAssembly) : PacketAssembly :=
  if assembly.carriesConnectionIdFrames then
    { assembly with
      elicitsAcknowledgement := true
      core := { assembly.core with
        issuedConnectionIds := assembly.core.issuedConnectionIds.map
          fun issued => { issued with isAdvertised := true }
        isConnectionIdFramesDirty := false } }
  else assembly

def appendPendingConnectionIdFrames (assembly : PacketAssembly) :
    PacketAssembly :=
  let core := assembly.core
  let appended := core.issuedConnectionIds.foldl
    (appendIssuedConnectionId core.isConnectionIdFramesDirty) assembly
  let appended := (List.range core.pendingRetirementNotices.length).foldl
    appendRetirementNotice appended
  appended.andThen markConnectionIdsAdvertised

def appendHandshakeDone (assembly : PacketAssembly) : PacketAssembly :=
  if assembly.owesHandshakeDone then
    { assembly with
      carriesHandshakeDone := true
      owesHandshakeDone := false
      elicitsAcknowledgement := true }.appendFrame .handshakeDone
  else assembly

/-- The next fragment of handshake bytes, lost ones first, and the books
without it. -/
def takeNextCryptoFragment (state : QuicSpaceState)
    (remainingByteBudget : Nat) : QuicSpaceState × Option QuicCryptoRange :=
  match state.pendingRetransmissions with
  | queuedRange :: rest =>
    let fragmentByteLength :=
      min (queuedRange.endOffset - queuedRange.beginOffset) remainingByteBudget
    let middle := queuedRange.beginOffset + fragmentByteLength
    ({ state with
        pendingRetransmissions :=
          if middle = queuedRange.endOffset then rest
          else { queuedRange with beginOffset := middle } :: rest },
      if fragmentByteLength = 0 then none
      else some { beginOffset := queuedRange.beginOffset, endOffset := middle })
  | [] =>
    let fragmentByteLength := min (state.cryptoStream.length - state.cryptoWriteOffset)
        remainingByteBudget
    if state.cryptoWriteOffset < state.cryptoStream.length ∧ fragmentByteLength ≠ 0 then
      let middle := state.cryptoWriteOffset + fragmentByteLength
      ({ state with cryptoWriteOffset := middle },
        some { beginOffset := state.cryptoWriteOffset, endOffset := middle })
    else (state, none)

def cryptoFrameOf (state : QuicSpaceState) (range : QuicCryptoRange) : QuicCryptoFrame where
  offset := range.beginOffset
  data := (state.cryptoStream.drop range.beginOffset).take (range.endOffset - range.beginOffset)

/-- `fixedOverheadByteLength` and what the frames take already. -/
def reservedByteLength (assembly : PacketAssembly) : Nat :=
  (assembly.core.packetShape space).packetOverheadByteLength + assembly.frames.length

def appendCrypto (isProbingSpace : Bool) (assembly : PacketAssembly) : PacketAssembly :=
  let budget := assembly.core.sendByteBudget (reservedByteLength space assembly) isProbingSpace
  let taken := takeNextCryptoFragment (assembly.core.spaceState space) budget
  let assembly := { assembly with
    unbudgetedFrameByteLength := assembly.frames.length
    core := assembly.core.setSpaceState space taken.1
    carriedRange := taken.2 }
  match taken.2 with
  | none => assembly
  | some range =>
    { assembly with elicitsAcknowledgement := true }.appendFrame
      (.crypto (cryptoFrameOf taken.1 range))

def appendStreamFrames (isProbingSpace : Bool) (assembly : PacketAssembly) : PacketAssembly :=
  if space ≠ .application then assembly
  else
    let budget := assembly.core.sendByteBudget (reservedByteLength space assembly) isProbingSpace
    let collected := assembly.core.streams.collectFrames assembly.frames budget
    { assembly with
      core := { assembly.core with
        streams := collected.layer
        exception := collected.failure }
      frames := collected.frames
      sentRanges := collected.sentRanges
      announcements := collected.announcements
      carriesStreamFrames := collected.hasFrames
      elicitsAcknowledgement := assembly.elicitsAcknowledgement || collected.hasFrames }

def appendProbe (assembly : PacketAssembly) : PacketAssembly :=
  if !assembly.owesProbe then assembly
  else
    let pinged :=
      if assembly.elicitsAcknowledgement then assembly
      else
        { assembly with
          elicitsAcknowledgement := true
          unbudgetedFrameByteLength := assembly.unbudgetedFrameByteLength + 1 }.appendFrame .ping
    pinged.andThen fun assembly =>
      { assembly with
        owesProbe := false
        core := { assembly.core with probeSpace := none } }

/-- The frames of one packet of the space. -/
def assemblePacket (isProbingSpace : Bool)
    (now : QuicTime) (assembly : PacketAssembly) : PacketAssembly :=
  let acknowledged := appendAcknowledgementIfPending space now assembly
  let identified :=
    if space = .application then
      acknowledged.andThen appendPendingConnectionIdFrames
    else acknowledged
  let announced := identified.andThen appendHandshakeDone
  let crypto := announced.andThen (appendCrypto space isProbingSpace)
  let streamed := crypto.andThen (appendStreamFrames space isProbingSpace)
  streamed.andThen appendProbe

/-! ## The packets of a space -/

def contentsOf (space : PacketNumberSpace) (assembly : PacketAssembly) : PacketContents where
  space := space
  frames := assembly.frames
  isAckEliciting := assembly.elicitsAcknowledgement
  cryptoRange := assembly.carriedRange
  streamRanges := assembly.sentRanges
  carriesHandshakeDone := assembly.carriesHandshakeDone
  streamAnnouncements := assembly.announcements
  carriesConnectionIdFrames := assembly.carriesConnectionIdFrames
  retirementSequences := assembly.retirementSequences
  pathKey := assembly.core.sendPathKey
  unbudgetedFrameByteLength := assembly.unbudgetedFrameByteLength
  unmeasuredFrameByteLength := assembly.unbudgetedFrameByteLength

def hasMoreWork :
    Bool :=
  let state := core.spaceState space
  !state.pendingRetransmissions.isEmpty || state.cryptoWriteOffset < state.cryptoStream.length ||
    (space == .application && core.streams.hasOutgoingFrames)

/-- One round of the loop of `queueSpacePackets`: a packet, if there is
anything to put into one. The answer says whether to go round again. -/
def sendSpacePacket (isProbingSpace : Bool)
    (now : QuicTime) (assembly : PacketAssembly) : PacketAssembly × Bool :=
  let assembled := assemblePacket space isProbingSpace now
    { core := assembly.core
      owesHandshakeDone := assembly.owesHandshakeDone
      owesProbe := assembly.owesProbe }
  if assembled.core.exception.isSome || assembled.frames.isEmpty then
    (assembled, false)
  else
    ({ assembled with
        core := assembled.core.emitPacket (contentsOf space assembled) now },
      assembled.core.hasMoreWork space &&
        (assembled.carriedRange.isSome || assembled.carriesStreamFrames))

def sendSpacePackets (space : PacketNumberSpace) (isProbingSpace : Bool)
    (now : QuicTime) : Nat → PacketAssembly → PacketAssembly
  | 0, assembly => assembly
  | rounds + 1, assembly =>
    match sendSpacePacket space isProbingSpace now assembly with
    | (assembly, false) => assembly
    | (assembly, true) =>
      assembly.andThen (sendSpacePackets space isProbingSpace now rounds)

def queuePathMtuProbe :
    QuicConnectionCore :=
  let due := core.pathMtu.probeByteLengthIfDue now core.congestion.remainingByteBudget
  let core := { core with pathMtu := due.1 }
  match due.2 with
  | none => core
  | some probeByteLength =>
    match appendQuicFrame [] .ping with
    | .error message => core.throw message
    | .ok frames =>
      core.emitPacket
        { space := .application
          frames := frames
          isAckEliciting := true
          padding := some { datagramByteLength := probeByteLength, isPathMtuProbe := true }
          pathKey := core.sendPathKey } now

def prepareOneRttPackets (environment : QuicEnvironment)
    (core : QuicConnectionCore) (now : QuicTime) : QuicConnectionCore :=
  (core.queuePathMtuProbe now).andThen fun core =>
    if core.hasRoomForAnotherConnectionId then
      core.issueConnectionId environment false
    else core

def isHandshakeDonePending : Bool :=
  !core.isHandshakeDoneAcknowledged && !core.isHandshakeDoneInFlight

def owesHandshakeDone :
    Bool :=
  core.isLocalServer && space == .application && core.phase == .established &&
    core.isHandshakeConfirmed && core.isHandshakeDonePending

def queueSpacePackets (environment : QuicEnvironment) (rounds : Nat)
    (now : QuicTime) (core : QuicConnectionCore) (space : PacketNumberSpace) :
    QuicConnectionCore :=
  if (core.spaceState space).writeKeys.isNone then core
  else if core.isBlockedByAmplificationLimit
      (core.packetShape space).packetOverheadByteLength then core
  else
    let core :=
      if space = .application then core.prepareOneRttPackets environment now
      else core
    core.andThen fun core =>
      let owesProbe := core.probeSpace == some space
      (sendSpacePackets space owesProbe now rounds
        { core := core
          owesHandshakeDone := core.owesHandshakeDone space
          owesProbe := owesProbe }).core

end QuicConnectionCore

end AsynGyanis.Quic
