import AsynGyanis.Http3.Run

/-!
# The moves of the connection

Every function of the connection is a sequence of a few elementary moves:
an output, a change of one stream's record, a change of a buffer, a new
state of the codec, the break. `Via scope c c'` says that `c'` is reached
from `c` by moves of a scope, and a scope says which streams the moves may
touch, which they may read from, and whether they may break the connection
for a critical stream that ended.

What a scope leaves alone is said once for all functions: the fields of the
connection (`Kept`), the record of a stream out of reach and what is
reported about it.
-/

namespace AsynGyanis.Http3

open Quic Library SortedMap List

variable {D E V : Type}

/-! ## Moves -/

/-- No mark of a stream is taken back. -/
structure StreamState.Advances (state state' : StreamState V) : Prop where
  isAbandoned : state.isAbandoned = true → state'.isAbandoned = true
  isHeadRejected : state.isHeadRejected = true → state'.isHeadRejected = true
  isPeerFinished : state.isPeerFinished = true → state'.isPeerFinished = true
  isLocalFinished : state.isLocalFinished = true → state'.isLocalFinished = true

/-- A stream is neither given up nor finished by its peer. -/
structure StreamState.KeepsEnd (state state' : StreamState V) : Prop where
  isAbandoned : state'.isAbandoned = state.isAbandoned
  isPeerFinished : state'.isPeerFinished = state.isPeerFinished

/-- Nothing was read. -/
structure StreamState.KeepsReader (state state' : StreamState V) : Prop where
  reader : state'.reader = state.reader
  fedByteCount : state'.fedByteCount = state.fedByteCount
  creditedByteCount : state'.creditedByteCount = state.creditedByteCount

/-- The stream a callback is about. -/
def Http3Output.reportedStream? : Http3Output → Option Nat
  | .headerSectionStarted streamId _ | .headerField streamId _ _
  | .headerBlockReceived streamId _ | .bodyBytes streamId _
  | .requestEnded streamId | .streamClosed streamId
  | .streamReset streamId _ _ _ | .malformedRequest streamId _ =>
    some streamId
  | .credited _ _ | .connectionClosed _ _ | .written _ _ _ _
  | .queued _ _ _ | .discarded _ | .uncredited _ _ | .stranded _ _ => none

/-- What the application was told about a stream. -/
def reportsOn (streamId : Nat) (outputs : List Http3Output) : List Http3Output :=
  outputs.filter fun output => output.reportedStream? = some streamId

inductive Http3Move (D E V : Type)
  | emit (output : Http3Output)
  | breakConnection (errorCode : Http3ErrorCode) (reason : String)
  | queue (streamId : Nat) (bytes : Bytes) (isEndStream : Bool)
  | discard (streamId : Nat)
  /-- The front of the rotation is offered to the stream writer. -/
  | offer (acceptedByteCount : Nat)
  | ensure (streamId : Nat)
  | update (streamId : Nat) (update : StreamState V → StreamState V)
  /-- The end of a stream, with what waits to be read. -/
  | finish (streamId : Nat) (update : StreamState V → StreamState V)
  /-- The reader of a stream and its counters. -/
  | read (streamId : Nat) (update : StreamState V → StreamState V)
  | erase (streamId : Nat)
  | decoder (decoder : D)
  | encoder (encoder : E)
  /-- What the peer's control stream has said. -/
  | peerFacts (peerMaximumBlockedStreamCount
      peerMaximumFieldSectionSizeByteCount maximumPushId : Nat)
      (isPeerSettingsReceived isPeerGoAwayReceived : Bool)
  /-- What the peer's unidirectional streams are. -/
  | roles (kinds : SortedMap Nat PeerStreamKind) (buffers : SortedMap Nat Bytes)
      (controlStreamId encoderStreamId decoderStreamId : Option Nat)
  | drain (isDraining : Bool) (rejectedFromStreamId : Nat)
  /-- A request stream is turned away because of the drain. -/
  | reject (streamId : Nat)
  /-- A request stream is taken on. -/
  | process (streamId : Nat)

namespace Http3Connection

/-- One round of the rotation as far as buffers go. -/
def offerFront (c : Http3Connection D E V) (acceptedByteCount : Nat) : Http3Connection D E V :=
  match c.outboundOrder with
  | [] => c
  | streamId :: rest =>
    let c := { c with outboundOrder := rest }
    match c.outbound.find? streamId with
    | none => c
    | some outbound =>
      let c := { c with outbound := c.outbound.erase streamId }
      if outbound.bytes.isEmpty then
        if outbound.isEndStream then c.emit (.written streamId [] true 0)
        else c
      else
        let offered := outbound.bytes.drop outbound.sentByteCount
        let acceptedByteCount := min acceptedByteCount offered.length
        let c := c.emit (.written streamId offered outbound.isEndStream acceptedByteCount)
        let outbound := { outbound with
          sentByteCount := outbound.sentByteCount + acceptedByteCount }
        if outbound.sentByteCount < outbound.bytes.length then
          c.retainUnsentOutboundBytes streamId outbound
        else c

def perform (c : Http3Connection D E V) : Http3Move D E V → Http3Connection D E V
  | .emit output => c.emit output
  | .breakConnection errorCode reason => c.breakConnection errorCode reason
  | .queue streamId bytes isEndStream =>
    c.queueOutboundBytes streamId bytes isEndStream
  | .discard streamId => c.discardOutbound streamId
  | .offer acceptedByteCount => c.offerFront acceptedByteCount
  | .ensure streamId => c.ensureStream streamId
  | .update streamId update | .read streamId update =>
    c.modifyStream streamId update
  | .finish streamId update =>
    (c.modifyStream streamId update).noteStranded streamId
  | .erase streamId => c.eraseStream streamId
  | .decoder decoder => { c with qpackDecoder := decoder }
  | .encoder encoder => { c with qpackEncoder := encoder }
  | .peerFacts blocked limit pushId isSettingsReceived isGoAwayReceived =>
    { c with
      peerMaximumBlockedStreamCount := blocked
      peerMaximumFieldSectionSizeByteCount := limit
      maximumPushId := pushId
      isPeerSettingsReceived := isSettingsReceived
      isPeerGoAwayReceived := isGoAwayReceived }
  | .roles kinds buffers control encoder decoder =>
    { c with
      peerStreamKinds := kinds
      peerStreamTypeBuffers := buffers
      peerControlStreamId := control
      peerEncoderStreamId := encoder
      peerDecoderStreamId := decoder }
  | .drain isDraining rejectedFrom =>
    { c with
      isDraining := isDraining
      rejectedFromStreamId := rejectedFrom }
  | .reject streamId =>
    { c with lastRejectedDrainedStreamId := some streamId }
  | .process streamId =>
    if c.lastProcessedRequestStreamId.all (· < streamId) then
      { c with lastProcessedRequestStreamId := some streamId }
    else c

end Http3Connection

/-! ## Scopes -/

structure Scope where
  /-- Streams whose record the moves may change and report about. -/
  touches : Nat → Prop
  /-- Streams the moves may make a record for and read from. -/
  reads : Nat → Prop := fun _ => False
  /-- Streams whose payload the moves may hand over. -/
  hands : Nat → Prop := reads
  /-- Streams the moves may give back credit for. -/
  credits : Nat → Prop := fun _ => False
  /-- The moves may break the connection for a critical stream. -/
  endsCritical : Prop := False
  /-- The moves may set the roles of the peer's streams. -/
  setsRoles : Prop := False
  /-- The moves may begin the drain. -/
  setsDrain : Prop := False
  /-- The moves may turn a stream away because of the drain. -/
  rejects : Prop := False
  /-- The moves may offer bytes to the stream writer. -/
  offers : Prop := False

/-- Everything is allowed. -/
def Scope.any : Scope where
  touches := fun _ => True
  reads := fun _ => True
  credits := fun _ => True
  endsCritical := True
  setsRoles := True
  setsDrain := True
  rejects := True
  offers := True

def Scope.AllowsOutput (scope : Scope) : Http3Output → Prop
  | .headerSectionStarted streamId _ | .headerField streamId _ _
  | .headerBlockReceived streamId _ | .requestEnded streamId
  | .streamClosed streamId | .streamReset streamId _ _ _
  | .malformedRequest streamId _ => scope.touches streamId
  | .bodyBytes streamId _ => scope.touches streamId ∧ scope.hands streamId
  | .credited streamId _ => scope.credits streamId
  | .uncredited streamId _ => scope.hands streamId
  | .stranded _ _ => True
  | .connectionClosed _ _ | .written _ _ _ _ | .queued _ _ _
  | .discarded _ => False

def Scope.Allows (scope : Scope) : Http3Move D E V → Prop
  | .emit output => scope.AllowsOutput output
  | .breakConnection errorCode _ =>
    errorCode = .closedCriticalStream → scope.endsCritical
  | .queue _ _ _ | .discard _ | .decoder _ | .encoder _
  | .peerFacts _ _ _ _ _ => True
  | .erase streamId => scope.touches streamId
  | .offer _ => scope.offers
  | .ensure streamId | .process streamId => scope.reads streamId
  | .update streamId update =>
    scope.touches streamId ∧ ∀ state : StreamState V, state.Advances (update state) ∧
        state.KeepsEnd (update state) ∧ state.KeepsReader (update state)
  | .finish streamId update =>
    scope.touches streamId ∧ ∀ state : StreamState V,
        state.Advances (update state) ∧ state.KeepsReader (update state)
  | .read streamId update =>
    scope.reads streamId ∧ ∀ state : StreamState V, state.Advances (update state)
  | .roles _ _ _ _ _ => scope.setsRoles
  | .drain _ _ => scope.setsDrain
  | .reject _ => scope.rejects

/-- All that reading from a stream takes. -/
structure Scope.Opens (scope : Scope) (streamId : Nat) : Prop where
  touches : scope.touches streamId
  reads : scope.reads streamId
  hands : scope.hands streamId
  credits : scope.credits streamId

/-- A stream the moves may not touch has no record and gets none. -/
def Scope.Covers (scope : Scope) (c : Http3Connection D E V) : Prop :=
  ∀ streamId, scope.touches streamId ∨ ¬ scope.reads streamId ∧ c.streams.find? streamId = none

namespace Http3Connection

/-! ## What a move changes -/

section Fields

variable (c : Http3Connection D E V)

theorem ensureStream_eq (streamId : Nat) : ∃ streams,
    c.ensureStream streamId = { c with streams := streams } := by
  unfold ensureStream
  split
  · exact ⟨c.streams, rfl⟩
  · exact ⟨_, rfl⟩

theorem modifyStream_eq (streamId : Nat) (update : StreamState V → StreamState V) : ∃ streams,
    c.modifyStream streamId update = { c with streams := streams } := by
  unfold modifyStream
  split
  · exact ⟨_, rfl⟩
  · exact ⟨c.streams, rfl⟩

theorem modifyStream_find_of_ne {streamId other : Nat}
    (update : StreamState V → StreamState V) (hne : other ≠ streamId) :
    (c.modifyStream streamId update).streams.find? other = c.streams.find? other := by
  unfold modifyStream
  split
  · exact find?_insert_of_ne _ _ hne
  · rfl

theorem noteStranded_eq (streamId : Nat) : ∃ outputs,
    c.noteStranded streamId = { c with outputs := outputs } := by
  unfold noteStranded
  split
  · exact ⟨c.outputs, rfl⟩
  · exact ⟨_, rfl⟩

theorem noteStranded_find (streamId other : Nat) :
    (c.noteStranded streamId).streams.find? other = c.streams.find? other := by
  obtain ⟨_, heq⟩ := c.noteStranded_eq streamId
  rw [heq]

theorem perform_finish_eq (streamId : Nat)
    (update : StreamState V → StreamState V) : ∃ streams outputs,
    c.perform (.finish streamId update) = { c with
      streams := streams
      outputs := outputs } := by
  obtain ⟨streams, hmodified⟩ := c.modifyStream_eq streamId update
  obtain ⟨outputs, hnoted⟩ := (c.modifyStream streamId update).noteStranded_eq streamId
  exact ⟨streams, outputs, by rw [perform, hnoted, hmodified]⟩

theorem eraseStream_eq (streamId : Nat) : ∃ outputs,
    c.eraseStream streamId = { c with
      streams := c.streams.erase streamId
      outputs := outputs } := by
  unfold eraseStream noteUncredited
  split
  · exact ⟨_, rfl⟩
  · exact ⟨_, rfl⟩

theorem breakConnection_eq (errorCode : Http3ErrorCode) (reason : String) :
    ∃ isBroken errorCode' reason' outputs,
      c.breakConnection errorCode reason = { c with
        isBroken := isBroken
        connectionErrorCode := errorCode'
        connectionErrorReason := reason'
        outputs := outputs } := by
  unfold breakConnection
  split
  · exact ⟨c.isBroken, c.connectionErrorCode, c.connectionErrorReason, c.outputs, rfl⟩
  · exact ⟨_, _, _, _, rfl⟩

theorem queueOutboundBytes_eq (streamId : Nat) (bytes : Bytes)
    (isEndStream : Bool) : ∃ outbound outboundOrder outputs,
    c.queueOutboundBytes streamId bytes isEndStream = { c with
      outbound := outbound
      outboundOrder := outboundOrder
      outputs := outputs } := by
  unfold queueOutboundBytes
  split
  · exact ⟨c.outbound, c.outboundOrder, c.outputs, rfl⟩
  dsimp only
  split
  · exact ⟨_, _, _, rfl⟩
  · exact ⟨_, _, _, rfl⟩

theorem offerFront_eq (acceptedByteCount : Nat) : ∃ outbound outboundOrder outputs,
      c.offerFront acceptedByteCount = { c with
        outbound := outbound
        outboundOrder := outboundOrder
        outputs := outputs } := by
  unfold offerFront
  split
  · exact ⟨c.outbound, c.outboundOrder, c.outputs, rfl⟩
  dsimp only
  split
  · exact ⟨c.outbound, _, c.outputs, rfl⟩
  split
  · split
    · exact ⟨_, _, _, rfl⟩
    · exact ⟨_, _, c.outputs, rfl⟩
  split
  · exact ⟨_, _, _, rfl⟩
  · exact ⟨_, _, _, rfl⟩

theorem credit_encoderStream (streamId byteCount : Nat) :
    (c.credit streamId byteCount).peerEncoderStreamId =
      c.peerEncoderStreamId := by
  unfold credit
  split
  · rfl
  · rfl

theorem perform_process_eq (streamId : Nat) : ∃ lastProcessed, c.perform (.process streamId) =
      { c with lastProcessedRequestStreamId := lastProcessed } := by
  simp only [perform]
  split
  · exact ⟨_, rfl⟩
  · exact ⟨c.lastProcessedRequestStreamId, rfl⟩

end Fields

/-- What moves of a scope leave as it is. -/
structure Kept (scope : Scope) (c c' : Http3Connection D E V) : Prop where
  configuration : c'.configuration = c.configuration
  isUsable : c'.isUsable = c.isUsable
  isBroken : c.isBroken = true → c'.isBroken = true
  notCritical : ¬ scope.endsCritical → c.connectionErrorCode ≠ .closedCriticalStream →
      c'.connectionErrorCode ≠ .closedCriticalStream
  roles : ¬ scope.setsRoles → c'.peerStreamKinds = c.peerStreamKinds ∧
    c'.peerStreamTypeBuffers = c.peerStreamTypeBuffers ∧
    c'.peerControlStreamId = c.peerControlStreamId ∧
    c'.peerEncoderStreamId = c.peerEncoderStreamId ∧
    c'.peerDecoderStreamId = c.peerDecoderStreamId
  drain : ¬ scope.setsDrain → c'.isDraining = c.isDraining ∧
    c'.rejectedFromStreamId = c.rejectedFromStreamId
  rejected : ¬ scope.rejects → c'.lastRejectedDrainedStreamId = c.lastRejectedDrainedStreamId
  /-- The mark of the streams taken on only goes up. -/
  processed : ∀ streamId, c'.lastProcessedRequestStreamId.all (· < streamId) = true →
      c.lastProcessedRequestStreamId.all (· < streamId) = true

namespace Kept

variable {c} {scope : Scope} {c' c'' : Http3Connection D E V}

theorem refl (c : Http3Connection D E V) : Kept scope c c :=
  ⟨rfl, rfl, id, fun _ => id, fun _ => ⟨rfl, rfl, rfl, rfl, rfl⟩,
    fun _ => ⟨rfl, rfl⟩, fun _ => rfl, fun _ => id⟩

theorem trans (h : Kept scope c c') (h' : Kept scope c' c'') : Kept scope c c'' where
  configuration := h'.configuration.trans h.configuration
  isUsable := h'.isUsable.trans h.isUsable
  isBroken := fun hbroken => h'.isBroken (h.isBroken hbroken)
  notCritical := fun hscope hcode =>
    h'.notCritical hscope (h.notCritical hscope hcode)
  roles := fun hscope => by
    obtain ⟨h₁, h₂, h₃, h₄, h₅⟩ := h.roles hscope
    rw [← h₁, ← h₂, ← h₃, ← h₄, ← h₅]
    exact h'.roles hscope
  drain := fun hscope => by
    obtain ⟨h₁, h₂⟩ := h.drain hscope
    rw [← h₁, ← h₂]
    exact h'.drain hscope
  rejected := fun hscope => (h'.rejected hscope).trans (h.rejected hscope)
  processed := fun streamId hall => h.processed _ (h'.processed _ hall)

theorem isLocalServer (h : Kept scope c c') : c'.isLocalServer = c.isLocalServer := by
  rw [Http3Connection.isLocalServer, h.configuration]
  rfl

theorem other (streams : SortedMap Nat (StreamState V))
    (outbound : SortedMap Nat OutboundStream) (outboundOrder : List Nat)
    (outputs : List Http3Output) (encoder : E) (decoder : D)
    (blocked limit pushId : Nat) (isSettingsReceived isGoAwayReceived : Bool) :
    Kept scope c { c with
      streams := streams
      outbound := outbound
      outboundOrder := outboundOrder
      outputs := outputs
      qpackEncoder := encoder
      qpackDecoder := decoder
      peerMaximumBlockedStreamCount := blocked
      peerMaximumFieldSectionSizeByteCount := limit
      maximumPushId := pushId
      isPeerSettingsReceived := isSettingsReceived
      isPeerGoAwayReceived := isGoAwayReceived } :=
  ⟨rfl, rfl, id, fun _ => id, fun _ => ⟨rfl, rfl, rfl, rfl, rfl⟩,
    fun _ => ⟨rfl, rfl⟩, fun _ => rfl, fun _ => id⟩

theorem perform {move : Http3Move D E V} (h : scope.Allows move) :
    Kept scope c (c.perform move) := by
  cases move with
  | ensure id =>
    obtain ⟨_, heq⟩ := c.ensureStream_eq id
    rw [Http3Connection.perform, heq]
    exact .other _ _ _ _ _ _ _ _ _ _ _
  | update id update | read id update =>
    obtain ⟨_, heq⟩ := c.modifyStream_eq id update
    rw [Http3Connection.perform, heq]
    exact .other _ _ _ _ _ _ _ _ _ _ _
  | finish id update =>
    obtain ⟨_, _, heq⟩ := c.perform_finish_eq id update
    rw [heq]
    exact .other _ _ _ _ _ _ _ _ _ _ _
  | erase id =>
    obtain ⟨_, heq⟩ := c.eraseStream_eq id
    rw [Http3Connection.perform, heq]
    exact .other _ _ _ _ _ _ _ _ _ _ _
  | queue id bytes isEndStream =>
    obtain ⟨_, _, _, heq⟩ := c.queueOutboundBytes_eq id bytes isEndStream
    rw [Http3Connection.perform, heq]
    exact .other _ _ _ _ _ _ _ _ _ _ _
  | offer acceptedByteCount =>
    obtain ⟨_, _, _, heq⟩ := c.offerFront_eq acceptedByteCount
    rw [Http3Connection.perform, heq]
    exact .other _ _ _ _ _ _ _ _ _ _ _
  | breakConnection errorCode reason =>
    simp only [Http3Connection.perform, breakConnection]
    split
    · exact .refl c
    exact ⟨rfl, rfl, fun _ => rfl, fun hscope _ heq => hscope (h heq),
      fun _ => ⟨rfl, rfl, rfl, rfl, rfl⟩, fun _ => ⟨rfl, rfl⟩,
      fun _ => rfl, fun _ => id⟩
  | roles _ _ _ _ _ =>
    exact ⟨rfl, rfl, id, fun _ => id, fun hscope => absurd h hscope,
      fun _ => ⟨rfl, rfl⟩, fun _ => rfl, fun _ => id⟩
  | drain _ _ =>
    exact ⟨rfl, rfl, id, fun _ => id, fun _ => ⟨rfl, rfl, rfl, rfl, rfl⟩,
      fun hscope => absurd h hscope, fun _ => rfl, fun _ => id⟩
  | reject _ =>
    exact ⟨rfl, rfl, id, fun _ => id, fun _ => ⟨rfl, rfl, rfl, rfl, rfl⟩,
      fun _ => ⟨rfl, rfl⟩, fun hscope => absurd h hscope, fun _ => id⟩
  | process streamId =>
    simp only [Http3Connection.perform]
    split
    · next hall =>
      refine ⟨rfl, rfl, id, fun _ => id, fun _ => ⟨rfl, rfl, rfl, rfl, rfl⟩,
        fun _ => ⟨rfl, rfl⟩, fun _ => rfl, fun other hother => ?_⟩
      simp only [Option.all_some, decide_eq_true_eq] at hother
      cases hlast : c.lastProcessedRequestStreamId with
      | none => rfl
      | some last =>
        rw [hlast] at hall
        simp only [Option.all_some, decide_eq_true_eq] at hall ⊢
        omega
    · exact .refl c
  | emit _ | discard _ | decoder _ | encoder _ | peerFacts _ _ _ _ _ =>
    exact .other _ _ _ _ _ _ _ _ _ _ _

end Kept

/-! ## What a move reports -/

theorem offerFront_outputs (c : Http3Connection D E V) (acceptedByteCount : Nat) : ∃ added,
    (c.offerFront acceptedByteCount).outputs = c.outputs ++ added ∧
      ∀ output ∈ added, ∃ streamId bytes isEndStream count,
        output = .written streamId bytes isEndStream count := by
  unfold offerFront
  have hnone : ∃ added, c.outputs = c.outputs ++ added ∧
      ∀ output ∈ added, ∃ streamId bytes isEndStream count,
        output = .written streamId bytes isEndStream count :=
    ⟨[], (append_nil _).symm, fun _ hmem => nomatch hmem⟩
  have hwritten : ∀ streamId bytes isEndStream count, ∃ added,
      c.outputs ++ [.written streamId bytes isEndStream count] = c.outputs ++ added ∧
      ∀ output ∈ added, ∃ streamId bytes isEndStream count,
        output = .written streamId bytes isEndStream count :=
    fun streamId bytes isEndStream count => ⟨_, rfl, fun output hmem =>
      ⟨streamId, bytes, isEndStream, count, mem_singleton.mp hmem⟩⟩
  split
  · exact hnone
  dsimp only
  split
  · exact hnone
  split
  · split
    · exact hwritten _ _ _ _
    · exact hnone
  split
  · exact hwritten _ _ _ _
  · exact hwritten _ _ _ _

/-- A move only adds to what was reported, and only about streams it may
touch. -/
theorem perform_outputs (c : Http3Connection D E V) {scope : Scope}
    {move : Http3Move D E V} (h : scope.Allows move) : ∃ added,
    (c.perform move).outputs = c.outputs ++ added ∧ ∀ output ∈ added, ∀ streamId,
        output.reportedStream? = some streamId → scope.touches streamId := by
  have hsame : ∃ added, c.outputs = c.outputs ++ added ∧
      ∀ output ∈ added, ∀ streamId, Http3Output.reportedStream? output =
        some streamId → scope.touches streamId :=
    ⟨[], (append_nil _).symm, fun _ hmem => nomatch hmem⟩
  have hsilent : ∀ output : Http3Output, output.reportedStream? = none →
      ∃ added, c.outputs ++ [output] = c.outputs ++ added ∧
        ∀ output ∈ added, ∀ streamId, Http3Output.reportedStream? output =
          some streamId → scope.touches streamId := by
    refine fun output hnone => ⟨_, rfl, fun other hmem streamId hid => ?_⟩
    rw [mem_singleton.mp hmem, hnone] at hid
    cases hid
  cases move with
  | emit output =>
    refine ⟨[output], rfl, fun other hmem streamId hid => ?_⟩
    rw [mem_singleton.mp hmem] at hid
    cases output with
    | bodyBytes _ _ =>
      cases hid
      exact h.1
    | credited _ _ | connectionClosed _ _ | written _ _ _ _ | queued _ _ _
    | discarded _ | uncredited _ _ | stranded _ _ => exact nomatch hid
    | _ =>
      cases hid
      exact h
  | breakConnection errorCode reason =>
    simp only [perform, breakConnection]
    split
    · exact hsame
    · exact hsilent _ rfl
  | queue id bytes isEndStream =>
    simp only [perform, queueOutboundBytes, Http3Connection.emit]
    split
    · exact hsame
    split
    · exact hsilent _ rfl
    · exact hsilent _ rfl
  | offer acceptedByteCount =>
    obtain ⟨added, heq, hwritten⟩ := c.offerFront_outputs acceptedByteCount
    refine ⟨added, heq, fun output hmem streamId hid => ?_⟩
    obtain ⟨_, _, _, _, rfl⟩ := hwritten output hmem
    cases hid
  | ensure id =>
    obtain ⟨_, heq⟩ := c.ensureStream_eq id
    rw [perform, heq]
    exact hsame
  | update id update | read id update =>
    obtain ⟨_, heq⟩ := c.modifyStream_eq id update
    rw [perform, heq]
    exact hsame
  | finish id update =>
    obtain ⟨_, heq⟩ := c.modifyStream_eq id update
    rw [perform, heq, noteStranded]
    split
    · exact hsame
    · exact hsilent _ rfl
  | erase id =>
    simp only [perform, eraseStream, noteUncredited]
    split
    · exact hsame
    · exact hsilent _ rfl
  | process id =>
    obtain ⟨_, heq⟩ := c.perform_process_eq id
    rw [heq]
    exact hsame
  | discard id => exact hsilent _ rfl
  | decoder _ | encoder _ | peerFacts _ _ _ _ _ | roles _ _ _ _ _
  | drain _ _ | reject _ => exact hsame

/-! ## Sequences of moves -/

def Via (scope : Scope) (c c' : Http3Connection D E V) : Prop :=
  Reach perform (fun _ move => scope.Allows move) c c'

namespace Via

variable {scope scope' : Scope} {c c' c'' : Http3Connection D E V}

theorem refl (c : Http3Connection D E V) : Via scope c c := Reach.start

theorem trans (h : Via scope c c') (h' : Via scope c' c'') : Via scope c c'' := Reach.trans h h'

theorem move (c : Http3Connection D E V) (m : Http3Move D E V)
    (h : scope.Allows m) : Via scope c (c.perform m) := Reach.single h

theorem kept (h : Via scope c c') : Kept scope c c' :=
  @Reach.invariant _ _ _ _ _ (Kept scope c) _ h (.refl c)
    fun _ _ hkept hmove => hkept.trans (.perform hmove)

theorem reports (h : Via scope c c') {streamId : Nat} (htouches : ¬ scope.touches streamId) :
    reportsOn streamId c'.outputs = reportsOn streamId c.outputs := by
  refine @Reach.invariant _ _ _ _ _
    (fun d => reportsOn streamId d.outputs = reportsOn streamId c.outputs) _ h
    rfl fun d move hsame hmove => ?_
  obtain ⟨added, heq, hadded⟩ := d.perform_outputs hmove
  have hnone : reportsOn streamId added = [] := by
    refine filter_eq_nil_iff.mpr fun output hmem hid => ?_
    exact htouches (hadded output hmem streamId (of_decide_eq_true hid))
  rw [heq, reportsOn, filter_append]
  exact (congrArg _ hnone).trans ((append_nil _).trans hsame)

theorem absent (h : Via scope c c') {streamId : Nat} (hreads : ¬ scope.reads streamId)
    (hnone : c.streams.find? streamId = none) : c'.streams.find? streamId = none := by
  refine @Reach.invariant _ _ _ _ _ (fun c => c.streams.find? streamId = none) _ h hnone
    fun c move hnone hmove => ?_
  have hmodified : ∀ id update, (c.modifyStream id update).streams.find? streamId = none := by
    intro id update
    by_cases hne : streamId = id
    · subst hne
      rw [Http3Connection.modifyStream, hnone]
      exact hnone
    · exact (c.modifyStream_find_of_ne update hne).trans hnone
  cases move with
  | ensure id =>
    have hne : streamId ≠ id := fun heq => hreads (heq ▸ hmove)
    simp only [perform, ensureStream]
    split
    · exact hnone
    · exact (find?_insert_of_ne _ _ hne).trans hnone
  | update id update | read id update => exact hmodified id update
  | finish id update =>
    exact (noteStranded_find _ _ _).trans (hmodified id update)
  | erase id =>
    obtain ⟨outputs, heq⟩ := c.eraseStream_eq id
    rw [perform, heq]
    simp only [find?_erase, hnone, ite_self]
  | breakConnection errorCode reason =>
    obtain ⟨_, _, _, _, heq⟩ := c.breakConnection_eq errorCode reason
    rw [perform, heq]
    exact hnone
  | queue id bytes isEndStream =>
    obtain ⟨_, _, _, heq⟩ := c.queueOutboundBytes_eq id bytes isEndStream
    rw [perform, heq]
    exact hnone
  | offer acceptedByteCount =>
    obtain ⟨_, _, _, heq⟩ := c.offerFront_eq acceptedByteCount
    rw [perform, heq]
    exact hnone
  | process id =>
    obtain ⟨_, heq⟩ := c.perform_process_eq id
    rw [heq]
    exact hnone
  | emit _ | discard _ | decoder _ | encoder _ | peerFacts _ _ _ _ _
  | roles _ _ _ _ _ | drain _ _ | reject _ => exact hnone

theorem record (h : Via scope c c') {streamId : Nat}
    (htouches : ¬ scope.touches streamId) (hreads : ¬ scope.reads streamId) :
    c'.streams.find? streamId = c.streams.find? streamId := by
  refine @Reach.invariant _ _ _ _ _
    (fun d => d.streams.find? streamId = c.streams.find? streamId) _ h rfl
    fun d move hsame hmove => ?_
  cases move with
  | ensure id =>
    have hne : streamId ≠ id := fun heq => hreads (heq ▸ hmove)
    simp only [perform, ensureStream]
    split
    · exact hsame
    · exact (find?_insert_of_ne _ _ hne).trans hsame
  | update id update =>
    have hne : streamId ≠ id := fun heq => htouches (heq ▸ hmove.1)
    exact (d.modifyStream_find_of_ne update hne).trans hsame
  | finish id update =>
    have hne : streamId ≠ id := fun heq => htouches (heq ▸ hmove.1)
    rw [perform, noteStranded_find]
    exact (d.modifyStream_find_of_ne update hne).trans hsame
  | read id update =>
    have hne : streamId ≠ id := fun heq => hreads (heq ▸ hmove.1)
    exact (d.modifyStream_find_of_ne update hne).trans hsame
  | erase id =>
    have hne : streamId ≠ id := fun heq => htouches (heq ▸ hmove)
    obtain ⟨outputs, heq⟩ := d.eraseStream_eq id
    rw [perform, heq]
    exact (find?_erase_of_ne _ hne).trans hsame
  | breakConnection errorCode reason =>
    obtain ⟨_, _, _, _, heq⟩ := d.breakConnection_eq errorCode reason
    rw [perform, heq]
    exact hsame
  | queue id bytes isEndStream =>
    obtain ⟨_, _, _, heq⟩ := d.queueOutboundBytes_eq id bytes isEndStream
    rw [perform, heq]
    exact hsame
  | offer acceptedByteCount =>
    obtain ⟨_, _, _, heq⟩ := d.offerFront_eq acceptedByteCount
    rw [perform, heq]
    exact hsame
  | process id =>
    obtain ⟨_, heq⟩ := d.perform_process_eq id
    rw [heq]
    exact hsame
  | emit _ | discard _ | decoder _ | encoder _ | peerFacts _ _ _ _ _
  | roles _ _ _ _ _ | drain _ _ | reject _ => exact hsame

theorem touches (h : Via scope c c') (hcovers : scope.Covers c)
    {streamId : Nat} {state : StreamState V}
    (hfind : c'.streams.find? streamId = some state) : scope.touches streamId := by
  refine (hcovers streamId).resolve_right fun ⟨hreads, hnone⟩ => ?_
  rw [h.absent hreads hnone] at hfind
  cases hfind

end Via

end Http3Connection

end AsynGyanis.Http3
