import AsynGyanis.Quic.Streams.Accounting
import AsynGyanis.Quic.Streams.SendAccounting

/-!
# Writing to the peer's streams

A bidirectional stream the peer opened has a sending side here, and as
long as it was neither finished nor aborted the application may write to
it or reset it and the peer may stop it. All three ask for the retired
boundary before they look the stream up, and the boundary is one number
for all streams of the type: it passes a stream that is still being
answered as soon as a later one is done (`retired_boundary_blocks_write`).

A held stream is writable exactly when its number is above the boundary
(`writable_iff_above`). It stays above it in every run in which no
collection retires a settled sending side while an earlier stream is
still open, and no STREAM frame opens a stream below the boundary
(`held_streams_writable`).

The proof follows one open sending record backwards. No edit opens a
record that was closed or creates one below the boundary (`KeepsOpen`),
so an open record was open before or is new; only a collection moves the
boundary, and only past what it retires.
-/

namespace AsynGyanis.Quic

open Library QuicStreamLayer QuicStreamLayer SortedMap List

/-- The sending side is neither finished, reset nor stopped. -/
structure OutgoingStream.IsOpen (stream : OutgoingStream) : Prop where
  unstopped : stream.isAborted = false
  unreset : stream.sendAbort = none
  unfinished : stream.finalOffset = none

/-! ## What an open stream lets one do -/

/-- The bytes waiting on a stream. -/
def queuedBytes (layer : QuicStreamLayer) (streamId : Nat) : Bytes :=
  match layer.outgoing.find? streamId with
  | none => []
  | some stream => (stream.pendingQueue.map (·.bytes)).flatten

/-- The room both send buffers have for a stream. -/
def sendRoom (layer : QuicStreamLayer) (streamId : Nat) : Nat :=
  min (kMaximumPendingSendByteCount - layer.pendingSendByteCount streamId)
    (kMaximumConnectionPendingSendByteCount - layer.totalPendingSendByteCount)

/-- The three operations work on the stream. -/
structure Writable (layer : QuicStreamLayer) (streamId : Nat) : Prop where
  writes : ∀ bytes isFinal, (layer.writeStreamData streamId bytes isFinal).1 =
      min bytes.length (sendRoom layer streamId) ∧
    queuedBytes (layer.writeStreamData streamId bytes isFinal).2 streamId =
      queuedBytes layer streamId ++ bytes.take (sendRoom layer streamId)
  resets : ∀ code, ∃ stream abort,
    (layer.resetStreamSending streamId code).outgoing.find? streamId =
      some stream ∧ stream.sendAbort = some abort ∧
    abort.applicationErrorCode = code ∧ stream.pendingQueue = []
  /-- A peer that was allowed to open the stream may stop it. -/
  stops : streamIndexOfType streamId < layer.advertisedBidirectionalStreams →
    ∀ frame : QuicStopSendingFrame, frame.streamId = streamId →
    (layer.onStopSendingFrame frame).1 = .ok () ∧
    (∃ stream, (layer.onStopSendingFrame frame).2.outgoing.find? streamId =
      some stream ∧ stream.isAborted = true ∧ stream.sendAbort.isSome = true ∧
      stream.pendingQueue = []) ∧
    (layer.onStopSendingFrame frame).2.abortedStreams.toList = layer.abortedStreams.toList ++
        [⟨streamId, frame.applicationErrorCode, false⟩]

section Layer

variable {layer : QuicStreamLayer} {streamId : Nat}

/-- The record a sending operation works on, found or created. -/
structure Opens (layer : QuicStreamLayer) (streamId : Nat) : Prop where
  isOpen : (layer.outgoingStream streamId).1.IsOpen
  unsent : (layer.outgoingStream streamId).1.isFinalSentToPeer = false

theorem outgoingStream_pending (layer : QuicStreamLayer) (streamId : Nat) :
    pendingQueueByteCount (layer.outgoingStream streamId).1 = layer.pendingSendByteCount streamId ∧
    (layer.outgoingStream streamId).2.totalPendingSendByteCount = layer.totalPendingSendByteCount ∧
    ((layer.outgoingStream streamId).1.pendingQueue.map (·.bytes)).flatten =
      queuedBytes layer streamId := by
  unfold outgoingStream pendingSendByteCount queuedBytes
  cases hfind : layer.outgoing.find? streamId with
  | some stream => exact ⟨rfl, rfl, rfl⟩
  | none =>
    refine ⟨rfl, ?_, rfl⟩
    have hsum := sumBy_insert_of_none pendingQueueByteCount
      { streamLimit := (layer.initialSendWindowFor streamId).getD 0 } hfind
    simp only [totalPendingSendByteCount, setOutgoing]
    rw [hsum]
    exact Nat.zero_add _

theorem outgoingStream_find (layer : QuicStreamLayer) (streamId : Nat) :
    (layer.outgoingStream streamId).2.outgoing.find? streamId =
      some (layer.outgoingStream streamId).1 := by
  unfold outgoingStream
  split
  · next hfind => exact hfind
  · exact find?_insert_self _ _ _

theorem Opens.writes (h : Opens layer streamId) (hpeer : layer.isLocallyInitiated streamId = false)
    (habove : layer.isStreamSideRetired streamId false = false)
    (bytes : Bytes) (isFinal : Bool) :
    (layer.writeStreamData streamId bytes isFinal).1 = min bytes.length (sendRoom layer streamId) ∧
    queuedBytes (layer.writeStreamData streamId bytes isFinal).2 streamId =
      queuedBytes layer streamId ++ bytes.take (sendRoom layer streamId) := by
  obtain ⟨hpending, htotal, hqueued⟩ := outgoingStream_pending layer streamId
  have hfind := outgoingStream_find layer streamId
  have hroom : (layer.outgoingStream streamId).2.sendRoomOf
      (layer.outgoingStream streamId).1 = sendRoom layer streamId := by
    simp only [sendRoomOf, sendRoom, hpending, htotal]
  have hsame : queuedBytes (layer.outgoingStream streamId).2 streamId =
      queuedBytes layer streamId := by
    rw [queuedBytes, hfind]
    exact hqueued
  unfold isStreamSideRetired at habove
  unfold writeStreamData
  rw [hpeer, habove]
  simp only [Bool.false_and, Bool.false_eq_true, if_false,
    h.isOpen.unstopped, h.isOpen.unfinished, Option.isSome_none, Bool.or_self,
    hroom]
  split
  · next hempty =>
    rw [hsame, hempty.1]
    simp
  split
  · next hfull =>
    rw [hsame, hfull.1]
    have hzero : sendRoom layer streamId = 0 := by
      have hlength := length_pos_iff.mpr hfull.2
      omega
    rw [hzero, take_zero, append_nil]
    exact ⟨rfl, rfl⟩
  refine ⟨rfl, ?_⟩
  simp only [queuedBytes, setOutgoing, find?_insert_self,
    appendChunk, map_append, flatten_append, map_cons,
    map_nil, flatten_cons, flatten_nil, append_nil]
  rw [hqueued]
  simp only [queuedBytes]
  congr 1
  rcases Nat.le_total bytes.length (sendRoom layer streamId) with hle | hle
  · rw [Nat.min_eq_left hle, take_length, take_of_length_le hle]
  · rw [Nat.min_eq_right hle]

theorem Opens.resets (h : Opens layer streamId)
    (habove : layer.isStreamSideRetired streamId false = false) (code : Nat) :
    ∃ stream abort, (layer.resetStreamSending streamId code).outgoing.find? streamId =
        some stream ∧ stream.sendAbort = some abort ∧
      abort.applicationErrorCode = code ∧ stream.pendingQueue = [] := by
  unfold isStreamSideRetired at habove
  unfold resetStreamSending
  rw [habove]
  simp only [Bool.false_eq_true, if_false, h.isOpen.unreset, h.unsent,
    h.isOpen.unfinished, Option.isSome_none, Bool.or_self]
  exact ⟨_, _, find?_insert_self _ _ _, rfl, rfl, rfl⟩

theorem Opens.stops (h : Opens layer streamId) (hpeer : layer.isLocallyInitiated streamId = false)
    (hdir : isUnidirectional streamId = false)
    (habove : layer.isStreamSideRetired streamId false = false)
    (hadvertised : streamIndexOfType streamId < layer.advertisedBidirectionalStreams)
    {frame : QuicStopSendingFrame} (hframe : frame.streamId = streamId) :
    (layer.onStopSendingFrame frame).1 = .ok () ∧
    (∃ stream, (layer.onStopSendingFrame frame).2.outgoing.find? streamId =
      some stream ∧ stream.isAborted ∧ stream.sendAbort.isSome ∧
      stream.pendingQueue = []) ∧
    (layer.onStopSendingFrame frame).2.abortedStreams.toList = layer.abortedStreams.toList ++
        [⟨streamId, frame.applicationErrorCode, false⟩] := by
  subst hframe
  have hstopped : stopOutgoing (layer.outgoingStream frame.streamId).1
      frame.applicationErrorCode = { (layer.outgoingStream frame.streamId).1 with
        pendingQueue := []
        isAborted := true
        sendAbort := some ⟨frame.applicationErrorCode,
          (layer.outgoingStream frame.streamId).1.sentHighWater, false, false⟩
        finalOffset := some (layer.outgoingStream frame.streamId).1.sentHighWater
        inFlight := .empty } := by
    unfold stopOutgoing
    simp [h.unsent, h.isOpen.unreset]
  have hqueue : (layer.outgoingStream frame.streamId).2.abortedStreams =
      layer.abortedStreams := by
    unfold outgoingStream
    split <;> rfl
  unfold isStreamSideRetired at habove
  unfold onStopSendingFrame
  rw [hdir, hpeer, habove]
  simp only [Bool.false_and, Bool.false_eq_true, if_false,
    Nat.not_le.mpr hadvertised, h.isOpen.unstopped, hstopped]
  refine ⟨trivial, ⟨_, find?_insert_self _ _ _, rfl, rfl, rfl⟩, ?_⟩
  show ((layer.outgoingStream frame.streamId).2.abortedStreams.pushBack _).toList = _
  rw [PendingQueue.toList_pushBack, hqueue]

end Layer

/-! ## Keeping a sending side open -/

/-- What an edit means for an open sending side: a record that is open
now was open before, or is new and above the boundary. -/
structure KeepsOpen (a b : QuicStreamLayer) : Prop where
  remembers : RemembersAlike false a b
  opened : ∀ streamId stream, b.outgoing.find? streamId = some stream →
    stream.IsOpen →
    (∃ before, a.outgoing.find? streamId = some before ∧ before.IsOpen) ∨
      (a.outgoing.find? streamId = none ∧ a.isStreamSideRetired streamId false = false)
  held : ∀ streamId, b.outgoing.find? streamId = none → a.outgoing.find? streamId = none

namespace KeepsOpen

variable {a b c layer : QuicStreamLayer} {streamId : Nat}
  {stream stream' : OutgoingStream}

theorem of_alike (houtgoing : b.outgoing = a.outgoing)
    (hremembers : RemembersAlike false a b) : KeepsOpen a b where
  remembers := hremembers
  opened := fun _ stream hfind hopen => .inl ⟨stream, houtgoing ▸ hfind, hopen⟩
  held := fun _ hnone => houtgoing ▸ hnone

theorem refl (a : QuicStreamLayer) : KeepsOpen a a := of_alike rfl (.refl a)

theorem trans (hab : KeepsOpen a b) (hbc : KeepsOpen b c) : KeepsOpen a c where
  remembers := hab.remembers.trans hbc.remembers
  opened := by
    intro streamId stream hfind hopen
    rcases hbc.opened streamId stream hfind hopen with
      ⟨before, hbefore, hwas⟩ | ⟨hnone, habove⟩
    · exact hab.opened streamId before hbefore hwas
    refine .inr ⟨hab.held streamId hnone, ?_⟩
    rw [← hab.remembers.isStreamSideRetired]
    exact habove
  held := fun streamId hnone => hab.held streamId (hbc.held streamId hnone)

theorem foldl {α : Type} {f : QuicStreamLayer → α → QuicStreamLayer}
    (hf : ∀ layer x, KeepsOpen layer (f layer x)) (xs : List α)
    (layer : QuicStreamLayer) : KeepsOpen layer (xs.foldl f layer) :=
  foldl_invariant (P := KeepsOpen layer) (fun _ x h => h.trans (hf _ x)) xs layer (refl layer)

theorem setOutgoing (hfind : layer.outgoing.find? streamId = some stream)
    (hopen : stream'.IsOpen → stream.IsOpen) :
    KeepsOpen layer (layer.setOutgoing streamId stream') where
  remembers := ⟨rfl, rfl, rfl, rfl⟩
  opened := by
    intro k kept hk hkept
    simp only [QuicStreamLayer.setOutgoing, SortedMap.find?_insert] at hk
    split at hk
    · next heq =>
      injection hk with hk
      subst heq hk
      exact .inl ⟨stream, hfind, hopen hkept⟩
    · exact .inl ⟨kept, hk, hkept⟩
  held := by
    intro k hk
    have hnone := setOutgoing_held stream' hfind k
    rw [hk] at hnone
    exact Option.isNone_iff_eq_none.mp hnone.symm

theorem create {limit : Nat} (hnone : layer.outgoing.find? streamId = none)
    (habove : layer.isStreamSideRetired streamId false = false) :
    KeepsOpen layer (layer.setOutgoing streamId { streamLimit := limit }) where
  remembers := ⟨rfl, rfl, rfl, rfl⟩
  opened := by
    intro k kept hk hkept
    simp only [QuicStreamLayer.setOutgoing, SortedMap.find?_insert] at hk
    split at hk
    · next heq =>
      subst heq
      exact .inr ⟨hnone, habove⟩
    · exact .inl ⟨kept, hk, hkept⟩
  held := by
    intro k hk
    simp only [QuicStreamLayer.setOutgoing, SortedMap.find?_insert] at hk
    split at hk
    · cases hk
    · exact hk

theorem change (h : OutgoingChange stream stream') (hopen : stream'.IsOpen) : stream.IsOpen := by
  cases h with
  | raiseLimit =>
    exact ⟨hopen.unstopped, hopen.unreset, hopen.unfinished⟩
  | append hrunning hlive =>
    exact ⟨hopen.unstopped, hopen.unreset, hlive⟩
  | stop code =>
    have hstopped := hopen.unstopped
    unfold stopOutgoing at hstopped
    dsimp only at hstopped
    split at hstopped <;> cases hstopped
  | reset hsent hlive => cases hopen.unreset
  | announce update =>
    exact ⟨hopen.unstopped, by simpa using hopen.unreset, hopen.unfinished⟩

variable (layer)

theorem acknowledgeRange (range : QuicStreamRange) :
    KeepsOpen layer (layer.acknowledgeRange range) := by
  unfold QuicStreamLayer.acknowledgeRange
  split
  · exact refl layer
  · next hfind =>
    exact setOutgoing hfind fun h => ⟨h.unstopped, h.unreset, h.unfinished⟩

theorem loseRange (range : QuicStreamRange) : KeepsOpen layer (layer.loseRange range) := by
  unfold QuicStreamLayer.loseRange
  split
  · exact refl layer
  next stream hfind =>
  split
  · exact refl layer
  refine setOutgoing hfind fun hopen => ?_
  unfold requeueLost at hopen
  dsimp only at hopen
  split at hopen <;>
    exact ⟨hopen.unstopped, hopen.unreset, hopen.unfinished⟩

theorem sortQueueOf (streamId : Nat) : KeepsOpen layer (layer.sortQueueOf streamId) := by
  unfold QuicStreamLayer.sortQueueOf
  split
  · exact refl layer
  · next hfind =>
    exact setOutgoing hfind fun h => ⟨h.unstopped, h.unreset, h.unfinished⟩

theorem adoptPeerParameters (parameters : QuicTransportParameters) :
    KeepsOpen layer (layer.adoptPeerParameters parameters) := by
  refine trans (b := { layer with
    peerParameters := parameters
    hasPeerParameters := true
    connectionSendLimit := parameters.initialMaximumData
    outgoingBidirectionalLimit := parameters.initialMaximumBidirectionalStreams
    outgoingUnidirectionalLimit := parameters.initialMaximumUnidirectionalStreams })
    (of_alike rfl ⟨rfl, rfl, rfl, rfl⟩) ?_
  refine foldl (fun layer streamId => ?_) _ _
  split
  · next hfind _ =>
    exact setOutgoing hfind fun h => ⟨h.unstopped, h.unreset, h.unfinished⟩
  · exact refl layer

variable {layer}

theorem sent {front : QuicStreamChunk} {rest : List QuicStreamChunk}
    {count : Nat} (hfind : layer.outgoing.find? streamId = some stream) :
    KeepsOpen layer (sentLayer layer streamId stream front rest count) := by
  have hset : KeepsOpen layer (layer.setOutgoing streamId
      (sendFromQueue stream front rest count)) :=
    setOutgoing hfind fun h => ⟨h.unstopped, h.unreset, h.unfinished⟩
  exact hset.trans (of_alike rfl ⟨rfl, rfl, rfl, rfl⟩)

theorem edit {b b' : SendBooks} (hedit : SendEdit b b') : KeepsOpen b.layer b'.layer := by
  cases hedit with
  | other halike => exact of_alike halike.outgoing halike.remembers
  | permute => exact refl _
  | adopt parameters => exact adoptPeerParameters _ _
  | create hnone habove => exact create hnone habove
  | change hfind hchange => exact setOutgoing hfind (change hchange)
  | acknowledge => exact acknowledgeRange _ _
  | lose => exact loseRange _ _
  | sortAll => exact foldl sortQueueOf _ _
  | send _ _ hfind => exact sent hfind

theorem edits {b b' : SendBooks} (hedits : SendEdits b b') : KeepsOpen b.layer b'.layer :=
  hedits.invariant (P := fun c => KeepsOpen b.layer c.layer) (refl _)
    fun _ _ hedit h => h.trans (edit hedit)

end KeepsOpen

/-- Retiring the settled sending sides leaves the boundary below every
stream whose number is larger than theirs. -/
theorem retireSettledStreams_above {layer : QuicStreamLayer} {streamId : Nat}
    (habove : layer.isPeerStreamSideRetired streamId false = false)
    (hbelow : ∀ settled stream, layer.outgoing.find? settled = some stream →
      isOutgoingSettled stream →
      layer.isLocallyInitiated settled = false →
      isUnidirectional settled = isUnidirectional streamId →
      streamIndexOfType settled < streamIndexOfType streamId) :
    layer.retireSettledStreams.isPeerStreamSideRetired streamId false =
      false := by
  -- what both loops keep: no record is new, and the boundary stays below
  let Kept (x : QuicStreamLayer) : Prop := x.isLocalServer = layer.isLocalServer ∧
    (∀ k stream, x.outgoing.find? k = some stream → layer.outgoing.find? k = some stream) ∧
    x.isPeerStreamSideRetired streamId false = false
  have hincoming : Kept (layer.incoming.keys.foldl retireIncoming layer) := by
    refine foldl_invariant (P := Kept) (fun x k hx => ?_) _ _ ⟨rfl, fun _ _ h => h, habove⟩
    rcases retireIncoming_cases x k with heq | ⟨_, _, _, _, heq⟩
    · rw [heq]
      exact hx
    have hremembers := RemembersAlike.noteRetired_other x k true false (by decide)
    have houtgoing := (RetiresOutgoing.noteRetired_fields x k true).1
    rw [heq]
    refine ⟨hremembers.isLocalServer.trans hx.1, fun k' stream hfind =>
      hx.2.1 k' stream (houtgoing ▸ hfind), ?_⟩
    exact (hremembers.isPeerStreamSideRetired streamId).trans hx.2.2
  have houtgoing : Kept layer.retireSettledStreams := by
    refine foldl_invariant (P := Kept) (fun x k hx => ?_) _ _ hincoming
    rcases retireOutgoing_cases x k with
      heq | ⟨stream, hfind, hsettled, _, heq⟩
    · rw [heq]
      exact hx
    have hserver : (x.noteRetired k false).isLocalServer =
        x.isLocalServer := by
      unfold noteRetired
      split <;> rfl
    have hlocal : ∀ k, x.isLocallyInitiated k = layer.isLocallyInitiated k := fun k => by
      unfold isLocallyInitiated
      rw [hx.1]
    rw [heq]
    refine ⟨hserver.trans hx.1, fun k' stream' hfind' => ?_, ?_⟩
    · change (x.outgoing.erase k).find? k' = some stream' at hfind'
      rw [find?_erase] at hfind'
      split at hfind'
      · cases hfind'
      · exact hx.2.1 k' stream' hfind'
    · exact isPeerStreamSideRetired_note_above hx.2.2 fun hpeer hdir =>
        hbelow k stream (hx.2.1 k stream hfind) hsettled ((hlocal k).symm.trans hpeer) hdir
  exact houtgoing.2.2

/-! ## The run -/

namespace StreamHistory

variable {h : StreamHistory} {e : StreamEvent} {streamId : Nat}
  {parameters : QuicTransportParameters} {role : QuicConnectionRole}

/-- A bidirectional stream of the peer with a record here whose sending
side is neither finished nor aborted, now or when it was retired. -/
structure PeerHeld (h : StreamHistory) (streamId : Nat) : Prop where
  peer : h.layer.isLocallyInitiated streamId = false
  bidirectional : isUnidirectional streamId = false
  held : (h.layer.incoming.find? streamId).isSome = true ∨
    (h.layer.outgoing.find? streamId).isSome = true
  isOpen : ∀ stream, h.layer.outgoing.find? streamId = some stream → stream.IsOpen
  unretired : ∀ entry ∈ h.retiredOutgoing, entry.1 ≠ streamId

theorem PeerHeld.unanswered (hpeer : h.layer.isLocallyInitiated streamId = false)
    (hbidirectional : isUnidirectional streamId = false)
    (hincoming : (h.layer.incoming.find? streamId).isSome)
    (hnone : (h.layer.outgoing.find? streamId).isNone)
    (hunretired : ∀ entry ∈ h.retiredOutgoing, entry.1 ≠ streamId) : h.PeerHeld streamId where
  peer := hpeer
  bidirectional := hbidirectional
  held := .inl hincoming
  isOpen := by
    intro stream hfind
    rw [hfind] at hnone
    cases hnone
  unretired := hunretired

theorem PeerHeld.answered {stream : OutgoingStream}
    (hpeer : h.layer.isLocallyInitiated streamId = false)
    (hbidirectional : isUnidirectional streamId = false)
    (hfind : h.layer.outgoing.find? streamId = some stream) (hopen : stream.IsOpen)
    (hunretired : ∀ entry ∈ h.retiredOutgoing, entry.1 ≠ streamId) : h.PeerHeld streamId where
  peer := hpeer
  bidirectional := hbidirectional
  held := .inr (by rw [hfind]; rfl)
  isOpen := by
    intro stream' hfind'
    rw [hfind] at hfind'
    injection hfind' with heq
    exact heq ▸ hopen
  unretired := hunretired

/-- The next collection leaves the stream a record. -/
def StaysHeld (layer : QuicStreamLayer) (streamId : Nat) : Prop :=
  (layer.outgoing.find? streamId).isSome = true ∨
    ∃ stream, layer.incoming.find? streamId = some stream ∧ isIncomingSettled stream = false

/-- A collection retires no sending side above a stream that stays open,
and no STREAM frame opens a stream below the boundary. -/
def KeepsOpenAbove (h : StreamHistory) : StreamEvent → Prop
  | .collectFrames _ _ => ∀ streamId, h.PeerHeld streamId →
    StaysHeld h.layer streamId → ∀ settled stream,
    h.layer.outgoing.find? settled = some stream →
    isOutgoingSettled stream = true →
    h.layer.isLocallyInitiated settled = false →
    isUnidirectional settled = false →
    streamIndexOfType settled < streamIndexOfType streamId
  | .streamFrame frame =>
    h.layer.isLocallyInitiated frame.streamId = false →
    isUnidirectional frame.streamId = false →
    h.layer.incoming.find? frame.streamId = none →
    h.layer.outgoing.find? frame.streamId = none →
    (∀ entry ∈ h.retiredOutgoing, entry.1 ≠ frame.streamId) →
    h.layer.isPeerStreamSideRetired frame.streamId true = false →
    h.layer.isPeerStreamSideRetired frame.streamId false = false
  | _ => True

theorem PeerHeld.opens (hheld : h.PeerHeld streamId)
    (hbalanced : SendBalanced h.sendBooks h.retiredOutgoing) : Opens h.layer streamId := by
  cases hfind : h.layer.outgoing.find? streamId with
  | none =>
    constructor <;> simp only [outgoingStream, hfind]
    exact ⟨rfl, rfl, rfl⟩
  | some stream =>
    have hopen := hheld.isOpen stream hfind
    refine ⟨?_, ?_⟩ <;> simp only [outgoingStream, hfind]
    · exact hopen
    by_contra hsent
    have hfinal := (hbalanced.records streamId stream hfind).finalSent (by simpa using hsent)
    rw [hopen.unfinished] at hfinal
    cases hfinal

theorem writable_iff_above {extra : StreamHistory → StreamEvent → Prop}
    (hreach : Reachable parameters role extra h) (hheld : h.PeerHeld streamId) :
    Writable h.layer streamId ↔ h.layer.isPeerStreamSideRetired streamId false = false := by
  have hopens := hheld.opens hreach.balanced
  constructor
  · intro hwritable
    by_contra hretired
    have hside : h.layer.isPeerStreamSideRetired streamId false := by
      simpa using hretired
    obtain ⟨stream, abort, hfind, habort, _⟩ := hwritable.resets 0
    have hsame : h.layer.resetStreamSending streamId 0 = h.layer := by
      unfold resetStreamSending
      rw [hside, Bool.true_or, if_pos rfl]
    rw [hsame] at hfind
    rw [(hheld.isOpen stream hfind).unreset] at habort
    cases habort
  · intro habove
    have hside : h.layer.isStreamSideRetired streamId false = false :=
      (isStreamSideRetired_of_peer hheld.peer false).trans habove
    exact ⟨hopens.writes hheld.peer hside, hopens.resets hside,
      fun hadvertised _ hframe => hopens.stops hheld.peer
        hheld.bidirectional hside hadvertised hframe⟩

theorem step_creates_incoming (hcollect : ∀ frames byteBudget, e ≠ .collectFrames frames byteBudget)
    (hnone : h.layer.incoming.find? streamId = none)
    (hsome : ((h.step e).layer.incoming.find? streamId).isSome) :
    ∃ frame, e = .streamFrame frame ∧ frame.streamId = streamId ∧
      h.layer.isStreamSideRetired streamId true = false := by
  have hchanged : (h.step e).layer.incoming.find? streamId ≠ none := by
    intro hgone
    rw [hgone] at hsome
    cases hsome
  by_cases hnothing : e.receivesNothing
  · exact absurd ((h.step_receivesAlike hnothing).fresh streamId hnone) hchanged
  cases e with
  | streamFrame frame =>
    have hid : frame.streamId = streamId := by
      by_contra hne
      have hother := (OnlyStream.onStreamFrame h.layer frame).others streamId (Ne.symm hne)
      exact hchanged (hother.trans hnone)
    refine ⟨frame, rfl, hid, ?_⟩
    subst hid
    simp only [step_layer, apply, onStreamFrame] at hchanged
    cases hadmitted : h.layer.admitStreamFrame frame.streamId with
    | ignored =>
      rw [hadmitted] at hchanged
      exact absurd hnone hchanged
    | refused status =>
      rw [hadmitted] at hchanged
      exact absurd hnone hchanged
    | admitted admitted =>
      rcases admitStreamFrame_cases hadmitted with
        ⟨_, hheld⟩ | ⟨_, _, habove⟩
      · rw [hnone] at hheld
        cases hheld
      · exact habove
  | resetStreamFrame frame =>
    refine absurd ?_ hchanged
    by_cases hid : streamId = frame.streamId
    · subst hid
      simp only [step_layer, apply, onResetStreamFrame, hnone]
      repeat' split
      all_goals exact hnone
    · exact ((OnlyStream.onResetStreamFrame h.layer frame).others streamId hid).trans hnone
  | collectFrames frames byteBudget =>
    exact absurd rfl (hcollect frames byteBudget)
  | takeDelivery => exact absurd hnone hchanged
  | _ => exact absurd rfl hnothing

/-- Every held open stream is above the boundary. -/
def HeldAbove (h : StreamHistory) : Prop := ∀ streamId, h.PeerHeld streamId →
    h.layer.isPeerStreamSideRetired streamId false = false

theorem HeldAbove.step (habove : h.HeldAbove)
    (hbalanced : SendBalanced h.sendBooks h.retiredOutgoing)
    (hregular : h.Regular e) (hok : h.KeepsOpenAbove e)
    (hcollect : ∀ frames byteBudget, e ≠ .collectFrames frames byteBudget) :
    (h.step e).HeldAbove := by
  intro streamId hheld
  have hkeeps : KeepsOpen h.layer (h.step e).layer :=
    .edits (step_edits hbalanced.localIds hregular hcollect)
  have hpeer : h.layer.isLocallyInitiated streamId = false :=
    (hkeeps.remembers.isLocallyInitiated streamId).symm.trans hheld.peer
  have hunretired : ∀ entry ∈ h.retiredOutgoing, entry.1 ≠ streamId := by
    have hsame := hheld.unretired
    rw [step_retiredOutgoing hcollect] at hsame
    exact hsame
  rw [hkeeps.remembers.isPeerStreamSideRetired]
  cases hfind : (h.step e).layer.outgoing.find? streamId with
  | some stream =>
    rcases hkeeps.opened streamId stream hfind (hheld.isOpen stream hfind)
      with ⟨before, hbefore, hopen⟩ | ⟨_, hside⟩
    · exact habove streamId (.answered hpeer hheld.bidirectional hbefore hopen hunretired)
    · exact (isStreamSideRetired_of_peer hpeer false).symm.trans hside
  | none =>
    have hnone := hkeeps.held streamId hfind
    have hincoming : ((h.step e).layer.incoming.find? streamId).isSome := by
      rcases hheld.held with hin | hout
      · exact hin
      · rw [hfind] at hout
        cases hout
    cases hbefore : h.layer.incoming.find? streamId with
    | some stream =>
      exact habove streamId (.unanswered hpeer hheld.bidirectional
        (by rw [hbefore]; rfl) (by rw [hnone]; rfl) hunretired)
    | none =>
      obtain ⟨frame, rfl, hid, hside⟩ := step_creates_incoming hcollect hbefore hincoming
      subst hid
      exact hok hpeer hheld.bidirectional hbefore hnone hunretired
        ((isStreamSideRetired_of_peer hpeer true).symm.trans hside)

theorem HeldAbove.collect {frames : Bytes} {byteBudget : Nat} (habove : h.HeldAbove)
    (hok : h.KeepsOpenAbove (.collectFrames frames byteBudget)) :
    (h.step (.collectFrames frames byteBudget)).HeldAbove := by
  intro streamId hheld
  have hretires := RetiresOutgoing.retireSettledStreams h.layer
  have hkeeps : KeepsOpen h.layer.retireSettledStreams
      (h.layer.collectFrames frames byteBudget).layer :=
    .edits (collectFrames_edits h.layer frames byteBudget [] [])
  have hincoming := RetiresIncoming.foldl h.layer.incoming.keys h.layer
  have halike := collectFrames_receivesAlike h.layer frames byteBudget
  have hlocal := (halike.remembers.isLocallyInitiated streamId).trans
    (hincoming.isLocallyInitiated streamId)
  obtain ⟨hpeer', hbidirectional, hholds, hopen, hunretired⟩ := hheld
  rw [step_collectFrames] at hpeer' hholds hopen ⊢
  have hpeer : h.layer.isLocallyInitiated streamId = false := hlocal.symm.trans hpeer'
  have hunretired' : ∀ entry ∈ h.retiredOutgoing, entry.1 ≠ streamId :=
    fun entry hentry => hunretired entry (mem_append_right _ hentry)
  -- a stream held before and after is above by the condition
  have hstays (hheld : h.PeerHeld streamId) (hstays : StaysHeld h.layer streamId) :
      h.layer.retireSettledStreams.isPeerStreamSideRetired streamId false =
        false :=
    retireSettledStreams_above (habove streamId hheld)
      fun settled stream hfind hsettled hlocal hdir =>
        hok streamId hheld hstays settled stream hfind hsettled hlocal (hdir.trans hbidirectional)
  rw [hkeeps.remembers.isPeerStreamSideRetired]
  cases hfind : (h.layer.collectFrames frames byteBudget).layer.outgoing.find? streamId with
  | some stream =>
    rcases hkeeps.opened streamId stream hfind (hopen stream hfind) with
      ⟨before, hbefore, hwas⟩ | ⟨_, hside⟩
    · have hfirst := hretires.kept streamId before hbefore
      exact hstays (.answered hpeer hbidirectional hfirst hwas hunretired')
        (.inl (by rw [hfirst]; rfl))
    · refine (isStreamSideRetired_of_peer ?_ false).symm.trans hside
      exact (hkeeps.remembers.isLocallyInitiated streamId).symm.trans hpeer'
  | none =>
    have hnone : h.layer.outgoing.find? streamId = none := by
      cases hbefore : h.layer.outgoing.find? streamId with
      | none => rfl
      | some stream =>
        refine absurd rfl (hunretired (streamId, stream) (mem_append_left _ ?_))
        exact mem_departed.mpr ⟨hbefore, hfind⟩
    have hsome : ∃ stream, (h.layer.incoming.keys.foldl
        retireIncoming h.layer).incoming.find? streamId = some stream := by
      cases hmid : (h.layer.incoming.keys.foldl retireIncoming h.layer).incoming.find? streamId with
      | some stream => exact ⟨stream, rfl⟩
      | none =>
        rw [hfind, halike.fresh streamId hmid] at hholds
        exact absurd hholds (by decide)
    obtain ⟨stream, hmid⟩ := hsome
    have hbefore := hincoming.kept streamId stream hmid
    have hunsettled := retireIncoming_unsettled (mem_keys_iff.mpr ⟨stream, hbefore⟩) hpeer hmid
    exact hstays (.unanswered hpeer hbidirectional (by rw [hbefore]; rfl)
      (by rw [hnone]; rfl) hunretired') (.inr ⟨stream, hbefore, hunsettled⟩)

/-- In every run that retires no sending side above an open stream and
opens none below the boundary, each held stream whose sending side is
neither finished nor aborted can be written to, reset and stopped. -/
theorem held_streams_writable (hreach : Reachable parameters role KeepsOpenAbove h)
    (hheld : h.PeerHeld streamId) : Writable h.layer streamId := by
  have habove : h.HeldAbove := by
    refine Reach.invariant_with (P := fun h : StreamHistory =>
      SendBalanced h.sendBooks h.retiredOutgoing) hreach
      (fun s hs => Reachable.balanced hs) ?_ ?_
    · intro streamId hheld
      rcases hheld.held with hin | hout
      · cases hin
      · cases hout
    intro s e hbalanced habove ok
    by_cases hcollect : ∃ frames byteBudget, e = .collectFrames frames byteBudget
    · obtain ⟨frames, byteBudget, rfl⟩ := hcollect
      exact habove.collect ok.2
    · exact habove.step hbalanced ok.1 ok.2 fun frames byteBudget heq =>
        hcollect ⟨frames, byteBudget, heq⟩
  exact (writable_iff_above hreach hheld).mpr (habove streamId hheld)

/-- Stream 0 is open when a collection finds nothing to retire. -/
theorem held_streams_writable_single :
    Writable (((start exampleParameters .server).step
      (.streamFrame ⟨0, 0, [7], false⟩)).step (.collectFrames [] 100)).layer
      0 := by
  refine @held_streams_writable _ 0 exampleParameters .server (.next (.next
    .start ⟨by decide, fun _ _ _ _ _ _ => by decide⟩) ⟨by decide, ?_⟩) ?_
  · intro streamId _ _ settled stream hfind
    cases hfind
  · exact .unanswered (by decide) (by decide) (by decide) (by decide) (by decide)

/-- Stream 4 is answered and acknowledged while stream 0 is still open. -/
def overtakingAnswer : List StreamEvent :=
  [.adoptPeerParameters exampleParameters,
    .streamFrame ⟨0, 0, [7], false⟩, .streamFrame ⟨4, 0, [7], false⟩,
    .writeStreamData 4 [1] true, .collectFrames [] 1200,
    .sendRangesAcknowledged [⟨4, 0, 1, true⟩], .collectFrames [] 1200]

/-- Stream 0 is held and open, and takes no byte. -/
theorem retired_boundary_blocks_write :
    ∃ h, Reachable exampleParameters .server (fun _ _ => True) h ∧
      h.PeerHeld 0 ∧ (h.layer.writeStreamData 0 [1] false).1 = 0 ∧
      ¬ Writable h.layer 0 := by
  have hrefused : ((overtakingAnswer.foldl step
      (start exampleParameters .server)).layer.writeStreamData 0 [1] false).1 = 0 := by decide
  have hroom : sendRoom (overtakingAnswer.foldl step
      (start exampleParameters .server)).layer 0 ≠ 0 := by decide
  refine ⟨overtakingAnswer.foldl step (start exampleParameters .server),
    Reach.run .start _ ?_, ?_, hrefused, fun hwritable => ?_⟩
  · exact ⟨⟨by decide, trivial⟩, ⟨by decide, trivial⟩, ⟨by decide, trivial⟩,
      ⟨by decide, trivial⟩, ⟨by decide, trivial⟩, ⟨by decide, trivial⟩,
      ⟨by decide, trivial⟩, trivial⟩
  · exact .unanswered (by decide) (by decide) (by decide) (by decide) (by decide)
  · have haccepted := (hwritable.writes [1] false).1
    rw [hrefused, List.length_singleton] at haccepted
    omega

end StreamHistory

end AsynGyanis.Quic
