import AsynGyanis.Quic.Connection.Run
import AsynGyanis.Quic.Recovery.Resolution

/-!
# The books of a connection

Most of what a connection does leaves its books alone: keys come and go,
timers are set, challenges are armed, datagrams wait in a queue. What the
statements about whole runs speak of is kept in a handful of fields, the
packets under way and their bytes, the numbers received, the handshake
bytes, the totals of bytes and the table of paths, the connection IDs of
the peer. `QuicConnectionLedgers` is that part of the state, and
`LedgerStep` lists everything that can happen to it, each entry with what
the connection has checked before making it.

The list is a specification: a statement about runs is an invariant of the
dozen entries here, and that the connection makes no others is one theorem,
`apply_steps`, proved once.
-/

namespace AsynGyanis.Quic

open Library

/-- The books of one packet number space, recovery's part included. -/
structure SpaceLedger where
  nextPacketNumber : Nat := 0
  received : QuicReceivedPacketNumbers := .empty
  largestAckElicitingReceived : Option Nat := none
  cryptoStream : Bytes := []
  cryptoWriteOffset : Nat := 0
  pendingRetransmissions : List QuicCryptoRange := []
  unacknowledged : SortedMap Nat QuicSentPacketInfo := .empty

structure QuicConnectionLedgers where
  role : QuicConnectionRole
  localParameters : QuicConnectionTransportParameters
  peerConnectionId : Bytes
  spaces : PacketNumberSpace → SpaceLedger
  inFlightByteCount : Int
  bytesInFlight : Nat
  isAddressValidated : Bool
  receivedByteCount : Nat
  sentByteCount : Nat
  peerPaths : List PeerPathState
  sendPathKey : QuicPathKey
  peerConnectionIds : List PeerConnectionId
  peerRetirePriorTo : Nat
  history : QuicConnectionHistory

namespace QuicConnectionLedgers

def setSpace (l : QuicConnectionLedgers) (space : PacketNumberSpace)
    (state : SpaceLedger) : QuicConnectionLedgers :=
  { l with spaces := Function.update l.spaces space state }

def isLocalServer (l : QuicConnectionLedgers) : Bool := l.role == .server

/-! ## Paths -/

def findPathState (l : QuicConnectionLedgers) (pathKey : QuicPathKey) : Option PeerPathState :=
  l.peerPaths.find? fun state => state.key == pathKey

/-- What the two amplification limits leave for a path. -/
def amplificationLimitForPath (l : QuicConnectionLedgers) (pathKey : QuicPathKey) : Nat :=
  let remaining :=
    if l.isLocalServer && !l.isAddressValidated then
      saturatingSubtract (kQuicAmplificationFactor * l.receivedByteCount) l.sentByteCount
    else kUnlimitedAmplificationByteCount
  if l.isLocalServer && !isUnspecifiedQuicPathKey pathKey then
    match l.findPathState pathKey with
    | some state =>
      if !state.isValidated then
        min remaining (saturatingSubtract (kQuicAmplificationFactor * state.receivedByteCount)
          state.sentByteCount)
      else remaining
    | none => remaining
  else remaining

/-- One of the limits applies to the path. -/
def IsLimited (l : QuicConnectionLedgers) (pathKey : QuicPathKey) : Prop := l.isLocalServer = true ∧
    (l.isAddressValidated = false ∨ isUnspecifiedQuicPathKey pathKey = false ∧
        ∃ state, l.findPathState pathKey = some state ∧ state.isValidated = false)

end QuicConnectionLedgers

/-- What looking up a path may do to the table: nothing, or a fresh record,
appended or in the place of one that was not validated. -/
inductive Admitted (pathKey : QuicPathKey) :
    List PeerPathState → List PeerPathState → Prop
  | kept {paths : List PeerPathState} : Admitted pathKey paths paths
  | added {paths : List PeerPathState} : paths.find? (fun state => state.key == pathKey) = none →
      Admitted pathKey paths (paths ++ [{ key := pathKey }])
  | replaced {before after : List PeerPathState} {old : PeerPathState} :
      (before ++ old :: after).find? (fun state => state.key == pathKey) = none →
      old.isValidated = false →
      Admitted pathKey (before ++ old :: after) (before ++ { key := pathKey } :: after)

/-- An update that leaves the byte counts of a record alone and takes no
validation back. -/
structure PathMark (update : PeerPathState → PeerPathState) : Prop where
  key : ∀ state, (update state).key = state.key
  received : ∀ state, (update state).receivedByteCount = state.receivedByteCount
  sent : ∀ state, (update state).sentByteCount = state.sentByteCount
  validated : ∀ state, state.isValidated → (update state).isValidated

/-- The record of the path, if there is one, updated. -/
def updatePath (pathKey : QuicPathKey)
    (update : PeerPathState → PeerPathState) (paths : List PeerPathState) :
    List PeerPathState :=
  paths.map fun state => if state.key = pathKey then update state else state

/-! ## Packets -/

namespace SpaceLedger

/-- The next fragment of handshake bytes, lost ones first. -/
def takeFragment (state : SpaceLedger) (byteBudget : Nat) : SpaceLedger × Option QuicCryptoRange :=
  match state.pendingRetransmissions with
  | queuedRange :: rest =>
    let fragmentByteLength := min (queuedRange.endOffset - queuedRange.beginOffset) byteBudget
    let middle := queuedRange.beginOffset + fragmentByteLength
    ({ state with
        pendingRetransmissions :=
          if middle = queuedRange.endOffset then rest
          else { queuedRange with beginOffset := middle } :: rest },
      if fragmentByteLength = 0 then none
      else some { beginOffset := queuedRange.beginOffset, endOffset := middle })
  | [] =>
    let fragmentByteLength := min (state.cryptoStream.length - state.cryptoWriteOffset) byteBudget
    if state.cryptoWriteOffset < state.cryptoStream.length ∧ fragmentByteLength ≠ 0 then
      let middle := state.cryptoWriteOffset + fragmentByteLength
      ({ state with cryptoWriteOffset := middle },
        some { beginOffset := state.cryptoWriteOffset, endOffset := middle })
    else (state, none)

/-- What a packet's CRYPTO frame does to the books of its space: nothing
when it has none, else a fragment is taken. -/
inductive Takes (state : SpaceLedger) :
    SpaceLedger → Option QuicCryptoRange → Prop
  | nothing : Takes state state none
  | fragment (byteBudget : Nat) : Takes state (state.takeFragment byteBudget).1
        (state.takeFragment byteBudget).2

end SpaceLedger

namespace QuicConnectionLedgers

variable (l : QuicConnectionLedgers) (space : PacketNumberSpace)

/-- A sent packet entered everywhere it has to be: the map of its space,
both counts of bytes in flight, the totals, its path, the history. -/
def enterSent (note : SentPacketNote) (paths : List PeerPathState) : QuicConnectionLedgers :=
  let state := l.spaces note.space
  let packet := note.packet
  { l with
    spaces := Function.update l.spaces note.space
      { state with
        nextPacketNumber := state.nextPacketNumber + 1
        unacknowledged := state.unacknowledged.insert packet.packetNumber packet }
    inFlightByteCount :=
      (match state.unacknowledged.find? packet.packetNumber with
        | some existing => l.inFlightByteCount - existing.byteCount
        | none => l.inFlightByteCount) + packet.byteCount
    bytesInFlight :=
      if packet.isAckEliciting then l.bytesInFlight + packet.byteCount
      else l.bytesInFlight
    sentByteCount := l.sentByteCount + packet.byteCount
    peerPaths := updatePath note.pathKey (fun state =>
      { state with
        sentByteCount := state.sentByteCount + packet.byteCount }) paths
    history := { l.history with
      sentPackets := l.history.sentPackets ++ [note] } }

def notedAs (fate : PacketFate) (packets : List QuicSentPacketInfo) : List ResolvedPacketNote :=
  packets.map fun packet => ⟨space, packet, fate⟩

/-- Packets acknowledged and packets lost, taken out of the books. -/
def takeOut (acknowledged lost : List QuicSentPacketInfo) : QuicConnectionLedgers :=
  let state := l.spaces space
  let packets := acknowledged ++ lost
  { l with
    spaces := Function.update l.spaces space
      { state with unacknowledged := eraseAll packets state.unacknowledged }
    inFlightByteCount := l.inFlightByteCount - totalByteCount packets
    bytesInFlight := QuicCongestionAlgorithm.writeOffBytes packets l.bytesInFlight
    history := { l.history with
      resolvedPackets := l.history.resolvedPackets ++
        (notedAs space .acknowledged acknowledged ++ notedAs space .lost lost) } }

/-- The handshake bytes of the packets queued again. -/
def requeueRanges (packets : List QuicSentPacketInfo) : QuicConnectionLedgers :=
  let state := l.spaces space
  l.setSpace space
    { state with
      pendingRetransmissions := QuicConnectionCore.mergeCryptoRanges
        (state.pendingRetransmissions ++ packets.filterMap QuicConnectionCore.carriedCryptoRange) }

/-- Taking packets out and queueing again what the lost ones carried are
one entry. -/
def resolve (acknowledged lost : List QuicSentPacketInfo) : QuicConnectionLedgers :=
  let l := l.takeOut space acknowledged lost
  if lost.isEmpty then l else l.requeueRanges space lost

/-- Everything unresolved queued a second time, for a probe. -/
def requeue :
    QuicConnectionLedgers :=
  l.requeueRanges space (l.spaces space).unacknowledged.values

/-- All unresolved packets of a space written off at once, `state` being
what else becomes of the space. -/
def discardPackets (state : SpaceLedger) : QuicConnectionLedgers :=
  let packets := (l.spaces space).unacknowledged.values
  { l with
    spaces := Function.update l.spaces space { state with unacknowledged := .empty }
    inFlightByteCount := l.inFlightByteCount - totalByteCount packets
    bytesInFlight := QuicCongestionAlgorithm.writeOffBytes packets l.bytesInFlight
    history := { l.history with
      resolvedPackets := l.history.resolvedPackets ++ notedAs space .discarded packets } }

def discard :
    QuicConnectionLedgers :=
  let l := { l with
    history := { l.history with
      discardedSpaces := l.history.discardedSpaces ++ [space] } }
  l.discardPackets space { l.spaces space with cryptoStream := [], pendingRetransmissions := [] }

/-- A Retry: the handshake bytes go out again from the start, to the ID the
server gave. -/
def startOver (peerConnectionId : Bytes) :
    QuicConnectionLedgers :=
  let l := { l with
    peerConnectionId := peerConnectionId
    history := { l.history with
      adoptionThresholds := l.history.adoptionThresholds ++ [l.peerRetirePriorTo] } }
  l.discardPackets .initial
    { l.spaces .initial with
      cryptoWriteOffset := 0
      pendingRetransmissions := [] }

/-! ## Arrivals -/

def noteArrival (packetNumber : Nat) (isAccepted : Bool) : QuicConnectionLedgers :=
  { l with
    history := { l.history with
      arrivals := l.history.arrivals ++ [(space, packetNumber)]
      accepted := l.history.accepted ++
        if isAccepted then [(space, packetNumber)] else [] } }

/-- An authenticated packet: refused if its number is tracked, else
tracked, within the bound. -/
def arrive (packetNumber : Nat) : QuicConnectionLedgers :=
  let state := l.spaces space
  match state.received.insert packetNumber with
  | (false, _) => l.noteArrival space packetNumber false
  | (true, received) =>
    (l.setSpace space
      { state with
        received := received.dropOldestUntil kQuicMaximumTrackedPacketNumbers }
      ).noteArrival space packetNumber true

def elicitAcknowledgement (packetNumber : Nat) : QuicConnectionLedgers := l.setSpace space
    { l.spaces space with largestAckElicitingReceived := some packetNumber }

def noteAcknowledgement (note : AcknowledgementNote) : QuicConnectionLedgers :=
  { l with
    history := { l.history with
      acknowledgements := l.history.acknowledgements ++ [note] } }

def receiveBytes (byteCount : Nat) (pathKey : QuicPathKey) (paths : List PeerPathState) :
    QuicConnectionLedgers :=
  { l with
    receivedByteCount := l.receivedByteCount + byteCount
    peerPaths := updatePath pathKey (fun state =>
      { state with
        receivedByteCount := state.receivedByteCount + byteCount }) paths
    history := { l.history with
      receivedDatagrams := l.history.receivedDatagrams ++ [(pathKey, byteCount)] } }

def writeCrypto (bytes : Bytes) : QuicConnectionLedgers :=
  let state := l.spaces space
  l.setSpace space { state with cryptoStream := state.cryptoStream ++ bytes }

/-! ## Connection IDs -/

def noteNewConnectionIdFrame (frame : QuicNewConnectionIdFrame) : QuicConnectionLedgers :=
  { l with
    history := { l.history with
      newConnectionIdFrames := l.history.newConnectionIdFrames ++
        [{ frame := frame
           retirePriorTo := l.peerRetirePriorTo
           held := l.peerConnectionIds }] } }

def noteConnectionIdLimitError :
    QuicConnectionLedgers :=
  { l with
    history := { l.history with
      connectionIdLimitErrors := l.history.connectionIdLimitErrors ++
        [l.history.newConnectionIdFrames.length] } }

/-- The first client-side ID: the one the server's header carries. -/
def followPeerConnectionId (connectionId : Bytes) : QuicConnectionLedgers :=
  { l with
    peerConnectionId := connectionId
    peerConnectionIds := [{ id := connectionId, sequence := 0 }]
    history := { l.history with
      adoptionThresholds := l.history.adoptionThresholds ++ [l.peerRetirePriorTo] } }

def retirePeerConnectionIdsBelow (retirePriorTo : Nat) : QuicConnectionLedgers :=
  { l with
    peerRetirePriorTo := retirePriorTo
    peerConnectionIds := l.peerConnectionIds.filter fun held =>
      held.sequence ≥ retirePriorTo
    history := { l.history with
      retiredSequences := l.history.retiredSequences ++
        (l.peerConnectionIds.filter fun held =>
          held.sequence < retirePriorTo).map (·.sequence) } }

def holdPeerConnectionId (frame : QuicNewConnectionIdFrame) : QuicConnectionLedgers :=
  { l with
    peerConnectionIds := l.peerConnectionIds ++
      [{ id := frame.connectionId
         sequence := frame.sequenceNumber
         statelessResetToken := frame.statelessResetToken
         hasStatelessResetToken := true }] }

def ensureActiveIsHeld :
    QuicConnectionLedgers :=
  if l.peerConnectionIds.any fun held => held.id == l.peerConnectionId then l
  else
    match QuicConnectionCore.lowestHeld l.peerConnectionIds with
    | none => l
    | some lowest => { l with peerConnectionId := lowest.id }

def adoptNewConnectionId (frame : QuicNewConnectionIdFrame) : QuicConnectionLedgers :=
  let l :=
    if frame.retirePriorTo > l.peerRetirePriorTo then
      l.retirePeerConnectionIdsBelow frame.retirePriorTo
    else l
  (l.holdPeerConnectionId frame).ensureActiveIsHeld

end QuicConnectionLedgers

/-! ## The entries -/

open QuicConnectionLedgers in
/-- One entry in the books. The flag says that the call it is made in ends
in an exception: only then may handshake bytes be taken and not sent. -/
inductive LedgerStep (throws : Bool) :
    QuicConnectionLedgers → QuicConnectionLedgers → Prop
  | receive {l : QuicConnectionLedgers} (byteCount : Nat)
      (pathKey : QuicPathKey) {paths : List PeerPathState} :
      Admitted pathKey l.peerPaths paths →
      LedgerStep throws l (l.receiveBytes byteCount pathKey paths)
  | markPath {l : QuicConnectionLedgers} (pathKey : QuicPathKey)
      {update : PeerPathState → PeerPathState} {paths : List PeerPathState} :
      Admitted pathKey l.peerPaths paths → PathMark update →
      LedgerStep throws l { l with peerPaths := updatePath pathKey update paths }
  | movePath {l : QuicConnectionLedgers} (pathKey : QuicPathKey) :
      LedgerStep throws l { l with sendPathKey := pathKey }
  | validateAddress {l : QuicConnectionLedgers} :
      LedgerStep throws l { l with isAddressValidated := true }
  | arrive {l : QuicConnectionLedgers} (space : PacketNumberSpace) (packetNumber : Nat) :
      LedgerStep throws l (l.arrive space packetNumber)
  | elicit {l : QuicConnectionLedgers} (space : PacketNumberSpace) (packetNumber : Nat) :
      (space, packetNumber) ∈ l.history.accepted →
      LedgerStep throws l (l.elicitAcknowledgement space packetNumber)
  | acknowledge {l : QuicConnectionLedgers} (note : AcknowledgementNote) :
      note.tracked = (l.spaces note.space).received →
      (l.spaces note.space).largestAckElicitingReceived = some note.acknowledgedUpTo →
      note.frame =
        { largestAcknowledgedPacketNumber := note.acknowledgedUpTo
          ranges := buildQuicAcknowledgementRanges note.tracked note.acknowledgedUpTo
          acknowledgementDelay := note.elapsed.toNat >>>
            min l.localParameters.acknowledgmentDelayExponent 20
          hasEcnCounts := note.ecnCounts.isSome
          ecnCounts := note.ecnCounts.getD {} } →
      LedgerStep throws l (l.noteAcknowledgement note)
  | send {l : QuicConnectionLedgers} (note : SentPacketNote)
      {state : SpaceLedger} {paths : List PeerPathState} :
      (l.spaces note.space).Takes state note.packet.cryptoRange →
      Admitted note.pathKey l.peerPaths paths →
      note.packet.packetNumber = (l.spaces note.space).nextPacketNumber →
      note.allowance = l.amplificationLimitForPath note.pathKey →
      note.hasPathRecord = (l.findPathState note.pathKey).isSome →
      (l.IsLimited note.pathKey → note.packet.byteCount ≤
        max note.allowance note.unbudgetedByteCount) →
      note.IsMeasured →
      LedgerStep throws l ((l.setSpace note.space state).enterSent note paths)
  | takeFragment {l : QuicConnectionLedgers} (space : PacketNumberSpace)
      {state : SpaceLedger} {range : Option QuicCryptoRange} :
      (range = none ∨ throws = true) → (l.spaces space).Takes state range →
      LedgerStep throws l (l.setSpace space state)
  | resolve {l : QuicConnectionLedgers} (space : PacketNumberSpace)
      (acknowledged lost : List QuicSentPacketInfo) :
      HeldPackets (acknowledged ++ lost) (l.spaces space).unacknowledged →
      LedgerStep throws l (l.resolve space acknowledged lost)
  | requeue {l : QuicConnectionLedgers} (space : PacketNumberSpace) :
      LedgerStep throws l (l.requeue space)
  | discard {l : QuicConnectionLedgers} (space : PacketNumberSpace) :
      LedgerStep throws l (l.discard space)
  | startOver {l : QuicConnectionLedgers} (peerConnectionId : Bytes) : l.role = .client →
      LedgerStep throws l (l.startOver peerConnectionId)
  | writeCrypto {l : QuicConnectionLedgers} (space : PacketNumberSpace) (bytes : Bytes) :
      LedgerStep throws l (l.writeCrypto space bytes)
  | followConnectionId {l : QuicConnectionLedgers} (connectionId : Bytes) : l.role = .client →
      LedgerStep throws l (l.followPeerConnectionId connectionId)
  | noteConnectionIdFrame {l : QuicConnectionLedgers} (frame : QuicNewConnectionIdFrame) :
      (frame.retirePriorTo ≤ frame.sequenceNumber →
        (∃ held ∈ l.peerConnectionIds, held.sequence = frame.sequenceNumber ∨
            held.id = frame.connectionId)) →
      LedgerStep throws l (l.noteNewConnectionIdFrame frame)
  | adoptConnectionId {l : QuicConnectionLedgers} (frame : QuicNewConnectionIdFrame) :
      frame.retirePriorTo ≤ frame.sequenceNumber →
      (∀ held ∈ l.peerConnectionIds, held.sequence ≠ frame.sequenceNumber ∧
          held.id ≠ frame.connectionId) →
      LedgerStep throws l ((l.noteNewConnectionIdFrame frame).adoptNewConnectionId frame)
  | limitError {l : QuicConnectionLedgers} : l.peerConnectionIds.length >
        l.localParameters.activeConnectionIdLimit →
      LedgerStep throws l l.noteConnectionIdLimitError
  | noteToken {l : QuicConnectionLedgers} (token : QuicStatelessResetToken) : LedgerStep throws l
        { l with
          peerConnectionIds := QuicConnectionCore.notePeerHandshakeStatelessResetToken token
              l.peerConnectionIds }

/-- Any number of entries. -/
def LedgerSteps (throws : Bool) : QuicConnectionLedgers → QuicConnectionLedgers → Prop :=
  Relation.ReflTransGen (LedgerStep throws)

variable {l l' : QuicConnectionLedgers}

/-- A call that ends well makes no entry that one ending in an exception
could not. -/
theorem LedgerStep.mono (h : LedgerStep false l l') : LedgerStep true l l':= by
  cases h with
  | receive byteCount pathKey hpaths => exact .receive byteCount pathKey hpaths
  | markPath pathKey hpaths hmark => exact .markPath pathKey hpaths hmark
  | movePath pathKey => exact .movePath pathKey
  | validateAddress => exact .validateAddress
  | arrive space packetNumber => exact .arrive space packetNumber
  | elicit space packetNumber h => exact .elicit space packetNumber h
  | acknowledge note htracked hlargest hframe =>
    exact .acknowledge note htracked hlargest hframe
  | send note htakes hpaths hnumber hallowance hrecord hsize hmeasured =>
    exact .send note htakes hpaths hnumber hallowance hrecord hsize hmeasured
  | takeFragment space hlost htakes =>
    exact .takeFragment space (hlost.imp_right fun h => by cases h) htakes
  | resolve space acknowledged lost hheld =>
    exact .resolve space acknowledged lost hheld
  | requeue space => exact .requeue space
  | discard space => exact .discard space
  | startOver peerConnectionId h => exact .startOver peerConnectionId h
  | writeCrypto space bytes => exact .writeCrypto space bytes
  | followConnectionId connectionId h =>
    exact .followConnectionId connectionId h
  | noteConnectionIdFrame frame h => exact .noteConnectionIdFrame frame h
  | adoptConnectionId frame hretire hnew =>
    exact .adoptConnectionId frame hretire hnew
  | limitError h => exact .limitError h
  | noteToken token => exact .noteToken token

theorem LedgerSteps.mono {throws : Bool}
    (h : LedgerSteps false l l') : LedgerSteps throws l l' := by
  cases throws with
  | false => exact h
  | true => exact Relation.ReflTransGen.mono (fun _ _ => LedgerStep.mono) _ _ h

theorem LedgerSteps.weaken {throws throws' : Bool} (h : LedgerSteps throws l l')
    (hle : throws → throws') : LedgerSteps throws' l l' := by
  cases throws with
  | false => exact h.mono
  | true =>
    cases throws' with
    | false => exact absurd (hle rfl) (by simp)
    | true => exact h

/-! ## The books of a core -/

/-- The books of a space, with the map recovery keeps for it. -/
def QuicSpaceState.ledger (state : QuicSpaceState)
    (unacknowledged : SortedMap Nat QuicSentPacketInfo) : SpaceLedger where
  nextPacketNumber := state.nextPacketNumber
  received := state.receivedPacketNumbers
  largestAckElicitingReceived := state.largestAckElicitingReceived
  cryptoStream := state.cryptoStream
  cryptoWriteOffset := state.cryptoWriteOffset
  pendingRetransmissions := state.pendingRetransmissions
  unacknowledged := unacknowledged

namespace QuicConnectionCore

def ledgers (core : QuicConnectionCore) : QuicConnectionLedgers where
  role := core.configuration.role
  localParameters := core.configuration.transportParameters
  peerConnectionId := core.configuration.peerConnectionId
  spaces := fun space =>
    (core.spaceState space).ledger (core.recovery.unacknowledgedOf space)
  inFlightByteCount := core.recovery.inFlightByteCount
  bytesInFlight := core.congestion.bytesInFlight
  isAddressValidated := core.isAddressValidated
  receivedByteCount := core.receivedByteCount
  sentByteCount := core.sentByteCount
  peerPaths := core.peerPaths
  sendPathKey := core.sendPathKey
  peerConnectionIds := core.peerConnectionIds
  peerRetirePriorTo := core.peerRetirePriorTo
  history := core.history

end QuicConnectionCore

end AsynGyanis.Quic
