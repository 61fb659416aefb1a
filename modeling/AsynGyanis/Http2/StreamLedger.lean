import AsynGyanis.Http2.SendSide

/-!
# The ledger of the streams

What a connection owes its peer can be told from a few fields: the table
of the streams with its counters, the two kinds of send windows, the
header block being assembled, the GOAWAY that was announced. `StreamLedger`
is that part of a connection, together with what its past emitted, was
granted and handed to the application. The rest of the connection (the
receive windows, the compression tables, the budgets) does not show in it.

The operations move the ledger in few ways, and each way is a constructor
below. Quiet moves send no DATA and touch no window: frames of the other
kinds go out, a record changes its state or is terminated, a request is
handed over, the connection changes its state. Grants come from the peer's
WINDOW_UPDATE and SETTINGS. Body bytes are accepted from the application,
and sending moves emit DATA frames. Whatever event a connection meets, a
stream may begin or a piece of a body be accepted first, then come the
grants and then the frames they allow (`StepMoves`), so a property of all
runs is checked constructor by constructor.
-/

namespace AsynGyanis.Http2

open Library Relation Http2SettingIdentifier

/-- What a connection has already handed out or was given: the frames
written, the body pieces accepted, the WINDOW_UPDATE increments received
with the stream they name (0 is the connection) and the streams of the
requests the application took. -/
structure Past where
  written : List OutgoingFrame := []
  accepted : List (Nat × Bytes) := []
  granted : List (Nat × Nat) := []
  requests : List Nat := []

structure StreamLedger where
  state : Http2ConnectionState
  isAssemblingHeaderBlock : Bool
  pendingHeaderStreamId : Nat
  pendingHeaderPurpose : HeaderBlockPurpose
  streams : SortedMap Nat StreamRecord
  terminatedStreamIds : List Nat
  openStreamCount : Nat
  maximumConcurrentStreams : Nat
  highestPeerStreamId : Nat
  connectionSendWindowByteCount : Int
  peerSettings : SortedMap Nat Nat
  goAwayLastStreamId : Option Nat
  emitted : List OutgoingFrame
  accepted : List (Nat × Bytes)
  granted : List (Nat × Nat)
  requests : List Nat

namespace Http2Connection

variable {D E H : Type}

/-- The ledger of a connection with a past. -/
def ledger (c : Http2Connection D E H) (past : Past) : StreamLedger where
  state := c.state
  isAssemblingHeaderBlock := c.isAssemblingHeaderBlock
  pendingHeaderStreamId := c.pendingHeaderStreamId
  pendingHeaderPurpose := c.pendingHeaderPurpose
  streams := c.streams
  terminatedStreamIds := c.terminatedStreamIds
  openStreamCount := c.openStreamCount
  maximumConcurrentStreams := c.configuration.maximumConcurrentStreams
  highestPeerStreamId := c.highestPeerStreamId
  connectionSendWindowByteCount := c.connectionSendWindowByteCount
  peerSettings := c.peerSettings
  goAwayLastStreamId := c.goAwayLastStreamId
  emitted := past.written ++ c.outgoing
  accepted := past.accepted
  granted := past.granted
  requests := past.requests ++ c.pendingRequests.map (·.streamId)

end Http2Connection

/-! ## Pieces of the moves -/

namespace OutgoingFrame

/-- Neither DATA nor GOAWAY. -/
def isPlain : OutgoingFrame → Bool
  | .data .. => false
  | .goAway _ => false
  | _ => true

end OutgoingFrame

/-- The states a connection enters without announcing anything. -/
inductive Http2ConnectionState.Enters :
    Http2ConnectionState → Http2ConnectionState → Prop
  | preface : Enters .awaitingPreface .awaitingSettings
  | settings : Enters .awaitingSettings .open
  | peerGoAway : Enters .open .closing

/-- A change of a record that keeps its queue and its window. -/
structure StreamRecord.Touches (old new : StreamRecord) : Prop where
  queue : new.sendQueue = old.sendQueue
  pending : new.isEndStreamPending = old.isEndStreamPending
  window : new.sendWindowByteCount = old.sendWindowByteCount
  state : new.state = old.state ∨ old.state = .open ∧
    (new.state = .halfClosedRemote ∨ new.state = .halfClosedLocal)

/-- A record after a change of the peer's initial window. -/
def StreamRecord.shift (windowDelta : Int) (stream : StreamRecord) :
    StreamRecord :=
  if stream.state = .closed then stream
  else { stream with
    sendWindowByteCount := stream.sendWindowByteCount + windowDelta }

/-- Equal up to the send window. -/
def StreamRecord.SameButWindow (old new : StreamRecord) : Prop :=
  new = { old with sendWindowByteCount := new.sendWindowByteCount }

namespace StreamLedger

variable (l : StreamLedger)

def setStream (streamId : Nat) (stream : StreamRecord) :
    StreamLedger :=
  { l with streams := l.streams.insert streamId stream }

def emit (frames : List OutgoingFrame) : StreamLedger := { l with emitted := l.emitted ++ frames }

/-- Remembering a terminated stream, as the connection does it. -/
def remember (streamId : Nat) : StreamLedger :=
  let terminated := l.terminatedStreamIds ++ [streamId]
  let evictedCount := terminated.length - kTerminatedStreamMemoryCount
  { l with
    streams := (terminated.take evictedCount).foldl
      (fun streams evicted => streams.erase evicted) l.streams
    terminatedStreamIds := terminated.drop evictedCount }

theorem remember_eq (streamId : Nat) :
    l.remember streamId = { l with
      streams := (l.remember streamId).streams
      terminatedStreamIds := (l.remember streamId).terminatedStreamIds } := by
  simp only [remember]

/-- Sending a GOAWAY and entering a state with it. -/
def announce (state : Http2ConnectionState)
    (errorCode : Http2ErrorCode) (debugData : Bytes) : StreamLedger :=
  let fixed := l.goAwayLastStreamId.getD l.highestPeerStreamId
  { l with
    state := state
    goAwayLastStreamId := some fixed
    emitted := l.emitted ++ [.goAway ⟨min fixed l.highestPeerStreamId, errorCode, debugData⟩] }

def peerMaximumFrameSize : Nat := (l.peerSettings.find? maxFrameSize).getD
    kHttp2DefaultMaximumFrameSize

def peerInitialWindowSize : Nat := (l.peerSettings.find? initialWindowSize).getD
    kHttp2InitialWindowSizeByteCount

/-- The send windows and the frame size let these bytes go out in one
frame. -/
def Fits (stream : StreamRecord) (byteCount : Nat) :
    Prop :=
  (byteCount : Int) ≤ stream.sendWindowByteCount ∧
    (byteCount : Int) ≤ l.connectionSendWindowByteCount ∧
    byteCount ≤ l.peerMaximumFrameSize

end StreamLedger

/-- Every stream with a record has been used. -/
def StreamsKnown (l : StreamLedger) : Prop :=
  ∀ {streamId stream}, l.streams.find? streamId = some stream → streamId ≤ l.highestPeerStreamId

/-! ## The moves -/

open StreamLedger in
/-- Moves without DATA and without a change of a window. -/
inductive QuietMove : StreamLedger → StreamLedger → Prop
  | emit (l : StreamLedger) (frames : List OutgoingFrame)
      (hplain : ∀ f ∈ frames, f.isPlain = true) :
      QuietMove l (l.emit frames)
  | enter (l : StreamLedger) (state : Http2ConnectionState) (henters : l.state.Enters state) :
      QuietMove l { l with state := state }
  | announce (l : StreamLedger) (debugData : Bytes) (hopen : l.state = .open) :
      QuietMove l (l.announce .closing .noError debugData)
  | fail (l : StreamLedger) (errorCode : Http2ErrorCode)
      (debugData : Bytes) (halive : l.state ≠ .failed) :
      QuietMove l ({ l with isAssemblingHeaderBlock := false }.announce .failed errorCode debugData)
  | beginBlock (l : StreamLedger) (streamId : Nat)
      (purpose : HeaderBlockPurpose) (hother : purpose ≠ .request) :
      QuietMove l { l with
        isAssemblingHeaderBlock := true
        pendingHeaderStreamId := streamId
        pendingHeaderPurpose := purpose }
  | endBlock (l : StreamLedger) : QuietMove l { l with isAssemblingHeaderBlock := false }
  | request (l : StreamLedger) (hassembling : l.isAssemblingHeaderBlock = true)
      (hpurpose : l.pendingHeaderPurpose = .request) :
      QuietMove l { l with
        isAssemblingHeaderBlock := false
        requests := l.requests ++ [l.pendingHeaderStreamId] }
  | touch (l : StreamLedger) (streamId : Nat) (old new : StreamRecord)
      (hold : l.streams.find? streamId = some old)
      (htouches : old.Touches new) :
      QuietMove l (l.setStream streamId new)
  | terminate (l : StreamLedger) (streamId : Nat) (old : StreamRecord)
      (termination : StreamTermination)
      (hold : l.streams.find? streamId = some old)
      (hopen : old.state ≠ .closed) :
      QuietMove l ({ l.setStream streamId (Http2Connection.terminatedRecord old termination) with
          openStreamCount := l.openStreamCount - 1 }.remember streamId)

/-- The beginning of a stream. -/
inductive Begins : StreamLedger → StreamLedger → Prop
  | openStream (l : StreamLedger) (streamId : Nat) (receiveWindow : Int)
      (hfresh : l.highestPeerStreamId < streamId)
      (hclosing : l.state ≠ .closing) (halive : l.state ≠ .failed)
      (hroom : l.openStreamCount < l.maximumConcurrentStreams) :
      Begins l { l.setStream streamId
          { state := .open
            sendWindowByteCount := l.peerInitialWindowSize
            receiveWindowByteCount := receiveWindow } with
        openStreamCount := l.openStreamCount + 1
        highestPeerStreamId := streamId
        isAssemblingHeaderBlock := true
        pendingHeaderStreamId := streamId
        pendingHeaderPurpose := .request }
  | refuse (l : StreamLedger) (streamId : Nat) (hfresh : l.highestPeerStreamId < streamId) :
      Begins l ((({ l with highestPeerStreamId := streamId }.emit
        [.rstStream streamId .refusedStream]).setStream streamId
          { state := .closed, termination := .resetByLocal }).remember streamId)

/-- What the peer's WINDOW_UPDATE and SETTINGS do. -/
inductive GrantMove : StreamLedger → StreamLedger → Prop
  | quiet {l l' : StreamLedger} (h : QuietMove l l') : GrantMove l l'
  | connection (l : StreamLedger) (increment : Nat) :
      GrantMove l { l with
        connectionSendWindowByteCount := l.connectionSendWindowByteCount + increment
        granted := l.granted ++ [(0, increment)] }
  | stream (l : StreamLedger) (streamId : Nat) (old : StreamRecord)
      (increment : Nat) (hid : streamId ≠ 0)
      (hold : l.streams.find? streamId = some old) :
      GrantMove l { l.setStream streamId { old with
          sendWindowByteCount := old.sendWindowByteCount + increment } with
        granted := l.granted ++ [(streamId, increment)] }
  /-- An increment for a stream that is over or a connection that is. -/
  | spent (l : StreamLedger) (streamId increment : Nat)
      (hover : l.state = .failed ∨ streamId ≠ 0 ∧ streamId ≤ l.highestPeerStreamId ∧
        ∀ stream, l.streams.find? streamId = some stream → stream.state = .closed) :
      GrantMove l { l with granted := l.granted ++ [(streamId, increment)] }
  | initialWindow (l : StreamLedger) (value : Nat) (streams : SortedMap Nat StreamRecord)
      (hshift : ∀ streamId, streams.find? streamId = (l.streams.find? streamId).map
          (StreamRecord.shift ((value : Int) - l.peerInitialWindowSize))) :
      GrantMove l { l with
        streams := streams
        peerSettings := l.peerSettings.insert initialWindowSize value }
  | setting (l : StreamLedger) (identifier value : Nat) (hother : identifier ≠ initialWindowSize)
      (hsize : identifier = maxFrameSize → kHttp2DefaultMaximumFrameSize ≤ value) :
      GrantMove l { l with
        peerSettings := l.peerSettings.insert identifier value }
  /-- The windows a connection left half shifted when it failed. -/
  | spoil (l : StreamLedger) (streams : SortedMap Nat StreamRecord) (hfailed : l.state = .failed)
      (hsame : ∀ streamId, Option.Rel StreamRecord.SameButWindow
        (l.streams.find? streamId) (streams.find? streamId)) :
      GrantMove l { l with streams := streams }

open StreamLedger in
/-- `sendResponseData` accepts a piece of a body. -/
inductive Accepts : StreamLedger → StreamLedger → Prop
  | queue (l : StreamLedger) (streamId : Nat) (old : StreamRecord)
      (data : Bytes) (isEndStreamPending : Bool)
      (halive : l.state ≠ .failed)
      (hold : l.streams.find? streamId = some old)
      (hopen : old.state ≠ .closed) (hlocal : old.state ≠ .halfClosedLocal) :
      Accepts l { l.setStream streamId { old with
          sendQueue := old.sendQueue.append data
          isEndStreamPending := isEndStreamPending } with
        accepted := l.accepted ++ [(streamId, data)] }
  | direct (l : StreamLedger) (streamId : Nat) (old : StreamRecord)
      (data : Bytes) (endStream : Bool) (halive : l.state ≠ .failed)
      (hold : l.streams.find? streamId = some old)
      (hopen : old.state ≠ .closed) (hlocal : old.state ≠ .halfClosedLocal)
      (hempty : old.sendQueue.remaining = [])
      (hfits : l.Fits old data.length) :
      Accepts l { (l.emit [.data streamId data endStream]).setStream streamId
          { old with
            sendWindowByteCount := old.sendWindowByteCount - data.length } with
        connectionSendWindowByteCount := l.connectionSendWindowByteCount - data.length
        accepted := l.accepted ++ [(streamId, data)] }

open StreamLedger in
/-- Emitting DATA from a queue. -/
inductive SendMove : StreamLedger → StreamLedger → Prop
  | quiet {l l' : StreamLedger} (h : QuietMove l l') : SendMove l l'
  | segment (l : StreamLedger) (streamId : Nat) (old : StreamRecord)
      (byteCount : Nat) (endStream isEndStreamPending : Bool)
      (halive : l.state ≠ .failed)
      (hold : l.streams.find? streamId = some old)
      (hqueued : old.sendQueue.remaining ≠ [])
      (hinside : byteCount ≤ old.sendQueue.remaining.length)
      (hend : endStream = true → byteCount = old.sendQueue.remaining.length)
      (hfits : l.Fits old byteCount) :
      SendMove l { (l.emit [.data streamId
            (old.sendQueue.remaining.take byteCount) endStream]).setStream
          streamId
          { old with
            sendQueue := old.sendQueue.consume byteCount
            sendWindowByteCount := old.sendWindowByteCount - byteCount
            isEndStreamPending := isEndStreamPending } with
        connectionSendWindowByteCount := l.connectionSendWindowByteCount - byteCount }
  | ending (l : StreamLedger) (streamId : Nat) (old : StreamRecord) (halive : l.state ≠ .failed)
      (hold : l.streams.find? streamId = some old)
      (hopen : old.state ≠ .closed)
      (hempty : old.sendQueue.remaining = []) :
      SendMove l ((l.emit [.data streamId [] true]).setStream streamId
        { old with isEndStreamPending := false })

/-! ## Sequences of moves -/

def Quietly : StreamLedger → StreamLedger → Prop := ReflTransGen QuietMove

def Grants : StreamLedger → StreamLedger → Prop := ReflTransGen GrantMove

def Sends : StreamLedger → StreamLedger → Prop := ReflTransGen SendMove

variable {l l' : StreamLedger}

theorem Quietly.grants (h : Quietly l l') : Grants l l' :=
  ReflTransGen.mono (p := GrantMove) (fun _ _ hmove => .quiet hmove) _ _ h

theorem Quietly.sends (h : Quietly l l') : Sends l l' :=
  ReflTransGen.mono (p := SendMove) (fun _ _ hmove => .quiet hmove) _ _ h

/-- What the connection does about a stream it knows: the peer's grants take
effect and then DATA goes out. -/
def Answers (l l' : StreamLedger) : Prop := ∃ granted, Grants l granted ∧ Sends granted l'

/-- A stream may begin, and nothing is granted or sent. -/
def QuietStep (l l' : StreamLedger) : Prop :=
  ∃ begun, (begun = l ∨ Begins l begun) ∧ Quietly begun l'

/-- What one event does: perhaps a stream begins and then the connection
answers, or a piece of a body is accepted and sent as far as it can be. -/
def StepMoves (l l' : StreamLedger) : Prop :=
  (∃ begun, (begun = l ∨ Begins l begun) ∧ Answers begun l') ∨
    ∃ accepted, Accepts l accepted ∧ Sends accepted l'

theorem Answers.refl (l : StreamLedger) : Answers l l := ⟨l, .refl, .refl⟩

theorem Grants.answers (h : Grants l l') : Answers l l' := ⟨l', h, .refl⟩

theorem Sends.answers (h : Sends l l') : Answers l l' := ⟨l, .refl, h⟩

theorem Answers.after {l l' l'' : StreamLedger} (h' : Answers l' l'')
    (h : Grants l l') : Answers l l'' := by
  obtain ⟨granted, hgrants, hsends⟩ := h'
  exact ⟨granted, h.trans hgrants, hsends⟩

theorem Answers.stepMoves (h : Answers l l') : StepMoves l l' := .inl ⟨l, .inl rfl, h⟩

theorem Quietly.quietStep (h : Quietly l l') : QuietStep l l' := ⟨l, .inl rfl, h⟩

theorem QuietStep.stepMoves (h : QuietStep l l') : StepMoves l l' := by
  obtain ⟨begun, hbegun, hquiet⟩ := h
  exact .inl ⟨begun, hbegun, hquiet.grants.answers⟩

theorem keeps_of_moves {α : Type} {r : α → α → Prop} {P : α → Prop}
    (hmove : ∀ a b, r a b → P a → P b) {a b : α} (h : ReflTransGen r a b) (ha : P a) : P b := by
  induction h with
  | refl => exact ha
  | tail _ hlast ih => exact hmove _ _ hlast ih

/-- A property of ledgers survives an event if every kind of move keeps
it. -/
theorem StepMoves.keeps {P : StreamLedger → Prop} {l l' : StreamLedger} (h : StepMoves l l')
    (hbegin : ∀ a b, Begins a b → P a → P b) (haccept : ∀ a b, Accepts a b → P a → P b)
    (hgrant : ∀ a b, GrantMove a b → P a → P b)
    (hsend : ∀ a b, SendMove a b → P a → P b) (hl : P l) : P l' := by
  rcases h with ⟨begun, hbegun, granted, hgrants, hsends⟩ | ⟨accepted, haccepts, hsends⟩
  · have hfirst : P begun := by
      rcases hbegun with rfl | hbegun
      · exact hl
      · exact hbegin _ _ hbegun hl
    exact keeps_of_moves hsend hsends (keeps_of_moves hgrant hgrants hfirst)
  · exact keeps_of_moves hsend hsends (haccept _ _ haccepts hl)

end AsynGyanis.Http2
