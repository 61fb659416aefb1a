import AsynGyanis.Quic.Streams.Receiving

/-!
# What an operation does to the sending half

Whatever an operation of the layer does, its effect on the sending half is
a sequence of edits from a short list: a record is created, a chunk is
queued, sent, acknowledged, lost or dropped, a limit is raised. `SendEdit`
is that list. It works on `SendBooks`, the layer together with the stream
ranges that are still under way and those that were acknowledged, because
what an acknowledgement may do to the tables depends on what was sent.

`step_edits` takes every event but a collection apart into edits; a
collection has a module of its own. An invariant of the sending half then
has one case for each kind of edit, however many operations there are.
-/

namespace AsynGyanis.Quic

open Library

namespace QuicStreamLayer

/-- The numbers the layer hands out next are its own. -/
structure LocalIds (layer : QuicStreamLayer) : Prop where
  bidirectional : layer.isLocallyInitiated layer.nextBidirectionalStreamId = true
  unidirectional : layer.isLocallyInitiated layer.nextUnidirectionalStreamId = true
  isUnidirectional : isUnidirectional layer.nextUnidirectionalStreamId = true

/-- The sending half is the same, but for a raised connection limit. -/
structure SendsAlike (a b : QuicStreamLayer) : Prop where
  outgoing : b.outgoing = a.outgoing
  connectionSentHighWater : b.connectionSentHighWater = a.connectionSentHighWater
  connectionSendLimit : a.connectionSendLimit ≤ b.connectionSendLimit
  hasPeerParameters : b.hasPeerParameters = a.hasPeerParameters
  remembers : RemembersAlike false a b
  localIds : a.LocalIds → b.LocalIds

theorem SendsAlike.of_eq {a b : QuicStreamLayer} (houtgoing : b.outgoing = a.outgoing)
    (hsent : b.connectionSentHighWater = a.connectionSentHighWater)
    (hlimit : a.connectionSendLimit ≤ b.connectionSendLimit)
    (hparameters : b.hasPeerParameters = a.hasPeerParameters)
    (hremembers : RemembersAlike false a b)
    (hbidirectional : b.nextBidirectionalStreamId = a.nextBidirectionalStreamId)
    (hunidirectional : b.nextUnidirectionalStreamId = a.nextUnidirectionalStreamId) :
    SendsAlike a b where
  outgoing := houtgoing
  connectionSentHighWater := hsent
  connectionSendLimit := hlimit
  hasPeerParameters := hparameters
  remembers := hremembers
  localIds := by
    rintro ⟨h1, h2, h3⟩
    exact ⟨by rw [hbidirectional, hremembers.isLocallyInitiated, h1],
      by rw [hunidirectional, hremembers.isLocallyInitiated, h2],
      by rw [hunidirectional, h3]⟩

theorem SendsAlike.refl (a : QuicStreamLayer) : SendsAlike a a :=
  ⟨rfl, rfl, Nat.le_refl _, rfl, .refl a, id⟩

theorem SendsAlike.trans {a b c : QuicStreamLayer} (hab : SendsAlike a b)
    (hbc : SendsAlike b c) : SendsAlike a c where
  outgoing := hbc.outgoing.trans hab.outgoing
  connectionSentHighWater := hbc.connectionSentHighWater.trans hab.connectionSentHighWater
  connectionSendLimit := Nat.le_trans hab.connectionSendLimit hbc.connectionSendLimit
  hasPeerParameters := hbc.hasPeerParameters.trans hab.hasPeerParameters
  remembers := hab.remembers.trans hbc.remembers
  localIds := fun h => hbc.localIds (hab.localIds h)

theorem SendsAlike.setIncoming (layer : QuicStreamLayer) (streamId : Nat)
    (stream : IncomingStream) : SendsAlike layer (layer.setIncoming streamId stream) :=
  of_eq rfl rfl (Nat.le_refl _) rfl ⟨rfl, rfl, rfl, rfl⟩ rfl rfl

theorem SendsAlike.abortedStreams (layer : QuicStreamLayer)
    (queue : PendingQueue QuicAbortedStream) :
    SendsAlike layer { layer with abortedStreams := queue } :=
  of_eq rfl rfl (Nat.le_refl _) rfl ⟨rfl, rfl, rfl, rfl⟩ rfl rfl

end QuicStreamLayer

open QuicStreamLayer

/-! ## Edits -/

/-- What may become of one sending record while it stays in the table and
nothing is sent, acknowledged or lost. -/
inductive OutgoingChange (stream : OutgoingStream) : OutgoingStream → Prop
  | raiseLimit {limit : Nat} (h : stream.streamLimit ≤ limit) :
      OutgoingChange stream { stream with streamLimit := limit }
  | append {bytes : Bytes} {count : Nat} {isFinal : Bool}
      (hopen : stream.isAborted = false) (hlive : stream.finalOffset = none)
      (hcount : count ≤ bytes.length)
      (hsome : count = 0 → bytes = [] ∧ isFinal = true) :
      OutgoingChange stream (appendChunk stream bytes count isFinal)
  | stop (code : Nat) : OutgoingChange stream (stopOutgoing stream code)
  | reset {code : Nat} (hsent : stream.isFinalSentToPeer = false)
      (hlive : stream.finalOffset = none) :
      OutgoingChange stream (resetOutgoing stream code)
  | announce (update : AbortAnnouncement → AbortAnnouncement) : OutgoingChange stream
        { stream with sendAbort := stream.sendAbort.map update }

/-- The layer with the ranges under way and the ranges acknowledged;
`isSorted` says that every queue is in the order of its offsets. -/
structure SendBooks where
  layer : QuicStreamLayer
  outstanding : List QuicStreamRange
  acknowledged : List QuicStreamRange
  isSorted : Bool

/-- The layer after the front chunk of a stream gave `count` bytes to a
frame. -/
def sentLayer (layer : QuicStreamLayer) (streamId : Nat)
    (stream : OutgoingStream) (front : QuicStreamChunk)
    (rest : List QuicStreamChunk) (count : Nat) : QuicStreamLayer :=
  { layer.setOutgoing streamId (sendFromQueue stream front rest count) with
    nextSendStreamId := streamId + 1
    connectionSentHighWater := layer.connectionSentHighWater +
      (front.beginOffset + count - stream.sentHighWater)
    drainedSendByteCount := layer.drainedSendByteCount + count }

def sentRange (streamId : Nat) (front : QuicStreamChunk) (count : Nat) :
    QuicStreamRange :=
  ⟨streamId, front.beginOffset, front.beginOffset + count,
    front.isFinal && count = front.bytes.length⟩

/-- How much of the front chunk a round may send. -/
structure Sendable (layer : QuicStreamLayer) (stream : OutgoingStream)
    (front : QuicStreamChunk) (count : Nat) : Prop where
  inside : count ≤ front.bytes.length
  credit : count ≤ sendableByteCountOf front.beginOffset front.bytes.length
    stream.sentHighWater (layer.sendCreditOf stream)
  empty : count = 0 → front.isFinal = true ∧ front.bytes = []

inductive SendEdit : SendBooks → SendBooks → Prop
  | other {b : SendBooks} {layer : QuicStreamLayer}
      (h : SendsAlike b.layer layer) : SendEdit b { b with layer := layer }
  | permute {b : SendBooks} {outstanding acknowledged : List QuicStreamRange}
      (h : b.outstanding.Perm outstanding)
      (h' : b.acknowledged.Perm acknowledged) :
      SendEdit b { b with
        outstanding := outstanding, acknowledged := acknowledged }
  | adopt {b : SendBooks} (parameters : QuicTransportParameters)
      (h : b.layer.hasPeerParameters = false) :
      SendEdit b { b with layer := b.layer.adoptPeerParameters parameters }
  | create {b : SendBooks} {streamId limit : Nat} (hnone : b.layer.outgoing.find? streamId = none)
      (hopen : b.layer.isStreamSideRetired streamId false = false) :
      SendEdit b { b with
        layer := b.layer.setOutgoing streamId { streamLimit := limit } }
  | change {b : SendBooks} {streamId : Nat} {stream stream' : OutgoingStream}
      (hfind : b.layer.outgoing.find? streamId = some stream)
      (h : OutgoingChange stream stream') :
      SendEdit b { b with layer := b.layer.setOutgoing streamId stream' }
  | acknowledge {b : SendBooks} {range : QuicStreamRange}
      {rest : List QuicStreamRange} (h : b.outstanding = range :: rest) :
      SendEdit b { b with
        layer := b.layer.acknowledgeRange range
        outstanding := rest
        acknowledged := range :: b.acknowledged }
  | lose {b : SendBooks} {range : QuicStreamRange}
      {rest : List QuicStreamRange} (h : b.outstanding = range :: rest) :
      SendEdit b { b with
        layer := b.layer.loseRange range
        outstanding := rest
        isSorted := false }
  | sortAll {b : SendBooks} :
      SendEdit b { b with
        layer := b.layer.outgoing.keys.foldl sortQueueOf b.layer
        isSorted := true }
  | send {b : SendBooks} {streamId count : Nat} {stream : OutgoingStream}
      {front : QuicStreamChunk} {rest : List QuicStreamChunk}
      (hsorted : b.isSorted = true)
      (hparameters : b.layer.hasPeerParameters = true)
      (hfind : b.layer.outgoing.find? streamId = some stream)
      (hopen : stream.isAborted = false)
      (hqueue : stream.pendingQueue = front :: rest)
      (hsendable : Sendable b.layer stream front count) :
      SendEdit b { b with
        layer := sentLayer b.layer streamId stream front rest count
        outstanding := b.outstanding ++ [sentRange streamId front count] }

/-- A sequence of edits. -/
abbrev SendEdits : SendBooks → SendBooks → Prop := Relation.ReflTransGen SendEdit

theorem SendEdits.invariant {P : SendBooks → Prop} {a b : SendBooks}
    (h : SendEdits a b) (ha : P a) (hstep : ∀ a b, SendEdit a b → P a → P b) : P b := by
  induction h with
  | refl => exact ha
  | tail _ hedit ih => exact hstep _ _ hedit ih

/-! ## One operation at a time -/

theorem isLocallyInitiated_stride (layer : QuicStreamLayer) (streamId : Nat) :
    layer.isLocallyInitiated (streamId + kStreamIdStride) = layer.isLocallyInitiated streamId := by
  have hmod : (streamId + kStreamIdStride) % 2 = streamId % 2 := by
    unfold kStreamIdStride
    omega
  simp only [isLocallyInitiated, hmod]

theorem isUnidirectional_stride (streamId : Nat) :
    isUnidirectional (streamId + kStreamIdStride) = isUnidirectional streamId := by
  have hmod : (streamId + kStreamIdStride) / 2 % 2 = streamId / 2 % 2 := by
    unfold kStreamIdStride
    omega
  simp only [isUnidirectional, hmod]

section Operations

variable {layer : QuicStreamLayer} {o a : List QuicStreamRange} {s : Bool}

/-- Edits between two layers with the same ranges on either side. -/
abbrev LayerEdits (o a : List QuicStreamRange) (s : Bool) (before after : QuicStreamLayer) : Prop :=
  SendEdits ⟨before, o, a, s⟩ ⟨after, o, a, s⟩

theorem LayerEdits.alike {after : QuicStreamLayer}
    (h : SendsAlike layer after) : LayerEdits o a s layer after := .single (.other h)

theorem LayerEdits.change {streamId : Nat} {stream stream' : OutgoingStream}
    (hfind : layer.outgoing.find? streamId = some stream) (h : OutgoingChange stream stream') :
    LayerEdits o a s layer (layer.setOutgoing streamId stream') :=
  .single (.change (b := ⟨layer, o, a, s⟩) hfind h)

theorem LayerEdits.foldl {α : Type} {f : QuicStreamLayer → α → QuicStreamLayer}
    (hf : ∀ layer x, LayerEdits o a s layer (f layer x)) (xs : List α)
    (layer : QuicStreamLayer) : LayerEdits o a s layer (xs.foldl f layer) :=
  foldl_invariant (P := LayerEdits o a s layer) (fun _ x h => h.trans (hf _ x)) xs layer .refl

theorem outgoingStream_edits {streamId : Nat}
    (hopen : layer.isStreamSideRetired streamId false = false) :
    LayerEdits o a s layer (layer.outgoingStream streamId).2 ∧
      (layer.outgoingStream streamId).2.outgoing.find? streamId =
        some (layer.outgoingStream streamId).1 := by
  unfold outgoingStream
  split
  · next stream hfind => exact ⟨.refl, hfind⟩
  rename_i hnone
  exact ⟨.single (.create (b := ⟨layer, o, a, s⟩) hnone hopen), SortedMap.find?_insert_self _ _ _⟩

theorem isStreamSideRetired_false {streamId : Nat} {side : Bool}
    (h : ¬ (layer.isPeerStreamSideRetired streamId side ||
      layer.isLocalBidiStreamSideRetired streamId side)) :
    layer.isStreamSideRetired streamId side = false := by
  simpa [isStreamSideRetired] using h

theorem onMaxStreamDataFrame_edits (frame : QuicMaxStreamDataFrame) :
    LayerEdits o a s layer (layer.onMaxStreamDataFrame frame).2 := by
  unfold onMaxStreamDataFrame
  split
  · exact .refl
  split
  · next stream hfind =>
    exact .change hfind (.raiseLimit (Nat.le_max_left _ _))
  rename_i hnone
  split
  · exact .refl
  next hretired =>
  split
  · exact .refl
  split
  · exact .refl
  exact .single (.create (b := ⟨layer, o, a, s⟩) hnone (isStreamSideRetired_false hretired))

theorem onStopSendingFrame_edits (frame : QuicStopSendingFrame) :
    LayerEdits o a s layer (layer.onStopSendingFrame frame).2 := by
  unfold onStopSendingFrame
  dsimp only
  split
  · exact .refl
  split
  · exact .refl
  next hretired =>
  obtain ⟨hedits, hfind⟩ := outgoingStream_edits (o := o) (a := a) (s := s)
    (isStreamSideRetired_false hretired)
  have hstopped := hedits.trans (LayerEdits.change hfind (.stop frame.applicationErrorCode))
  repeat' split
  all_goals first
    | exact .refl
    | exact hedits
    | exact hstopped.trans (LayerEdits.alike (.abortedStreams _ _))

theorem writeStreamData_edits (streamId : Nat) (bytes : Bytes) (isFinal : Bool) :
    LayerEdits o a s layer (layer.writeStreamData streamId bytes isFinal).2 := by
  unfold writeStreamData
  split
  · exact .refl
  split
  · exact .refl
  next hretired =>
  obtain ⟨hedits, hfind⟩ := outgoingStream_edits (o := o) (a := a) (s := s)
    (isStreamSideRetired_false hretired)
  dsimp only
  split
  · exact hedits
  next hlive =>
  split
  · exact hedits
  next hbytes =>
  split
  · exact hedits
  next haccepted =>
  simp only [Bool.or_eq_true, not_or, Bool.not_eq_true] at hlive
  refine hedits.trans (LayerEdits.change hfind (.append hlive.1
    (by simpa using hlive.2) (Nat.min_le_left _ _) fun hzero => ?_))
  have hempty : bytes = [] := by
    by_contra hne
    exact haccepted ⟨hzero, hne⟩
  refine ⟨hempty, ?_⟩
  by_contra hfinal
  exact hbytes ⟨hempty, by simpa using hfinal⟩

theorem resetStreamSending_edits (streamId code : Nat) :
    LayerEdits o a s layer (layer.resetStreamSending streamId code) := by
  unfold resetStreamSending
  split
  · exact .refl
  next hretired =>
  obtain ⟨hedits, hfind⟩ := outgoingStream_edits (o := o) (a := a) (s := s)
    (isStreamSideRetired_false hretired)
  dsimp only
  split
  · exact hedits
  next hlive =>
  simp only [Bool.or_eq_true, not_or, Bool.not_eq_true] at hlive
  exact hedits.trans (LayerEdits.change hfind (.reset hlive.1.2 (by simpa using hlive.2)))

theorem updateAnnouncement_edits (update : AbortAnnouncement →
    AbortAnnouncement) (announcement : QuicStreamAnnouncement)
    (layer : QuicStreamLayer) :
    LayerEdits o a s layer (layer.updateAnnouncement update announcement) := by
  unfold updateAnnouncement
  split
  · split
    · exact .refl
    · next hfind => exact .change hfind (.announce update)
  split
  · exact .refl
  · exact .alike (.setIncoming _ _ _)

variable (ranges : List QuicStreamRange)

theorem acknowledgeRanges_edits (layer : QuicStreamLayer) (o a : List QuicStreamRange) :
    SendEdits ⟨layer, ranges ++ o, a, s⟩
      ⟨layer.onSendRangesAcknowledged ranges, o, ranges.reverse ++ a, s⟩ := by
  induction ranges generalizing layer a with
  | nil => exact .refl
  | cons range rest ih =>
    refine .head (.acknowledge rfl) ?_
    rw [List.reverse_cons, List.append_assoc]
    exact ih _ _

theorem loseRanges_edits (layer : QuicStreamLayer) (o : List QuicStreamRange) :
    ∃ s', SendEdits ⟨layer, ranges ++ o, a, s⟩ ⟨ranges.foldl loseRange layer, o, a, s'⟩ := by
  induction ranges generalizing layer s with
  | nil => exact ⟨s, .refl⟩
  | cons range rest ih =>
    obtain ⟨s', hedits⟩ := ih (s := false) (layer.loseRange range)
    exact ⟨s', .head (.lose rfl) hedits⟩

theorem onSendRangesLost_edits (layer : QuicStreamLayer) (o : List QuicStreamRange) :
    SendEdits ⟨layer, ranges ++ o, a, s⟩ ⟨layer.onSendRangesLost ranges, o, a, true⟩ := by
  obtain ⟨s', hedits⟩ := loseRanges_edits ranges layer o
  exact hedits.tail .sortAll

theorem openUnidirectionalStream_edits (hids : layer.LocalIds) :
    LayerEdits o a s layer layer.openUnidirectionalStream.2 := by
  unfold openUnidirectionalStream
  dsimp only
  split
  · exact .refl
  refine (LayerEdits.alike ?_).trans (outgoingStream_edits ?_).1
  · refine ⟨rfl, rfl, Nat.le_refl _, rfl, ⟨rfl, rfl, rfl, rfl⟩,
      fun hids => ⟨hids.bidirectional, ?_, ?_⟩⟩
    · exact (isLocallyInitiated_stride layer _).trans hids.unidirectional
    · exact (isUnidirectional_stride _).trans hids.isUnidirectional
  have hpeer : layer.isPeerStreamSideRetired layer.nextUnidirectionalStreamId false = false := by
    rw [isPeerStreamSideRetired, if_pos hids.unidirectional]
  have hlocal : layer.isLocalBidiStreamSideRetired
      layer.nextUnidirectionalStreamId false = false := by
    simp [isLocalBidiStreamSideRetired, hids.isUnidirectional]
  show (layer.isPeerStreamSideRetired _ _ || layer.isLocalBidiStreamSideRetired _ _) = false
  rw [hpeer, hlocal]
  rfl

theorem openBidirectionalStream_edits (hids : layer.LocalIds)
    (hfresh : layer.isLocalBidiStreamSideRetired layer.nextBidirectionalStreamId false = false) :
    LayerEdits o a s layer layer.openBidirectionalStream.2 := by
  unfold openBidirectionalStream
  dsimp only
  split
  · exact .refl
  refine (LayerEdits.alike ?_).trans (outgoingStream_edits ?_).1
  · refine ⟨rfl, rfl, Nat.le_refl _, rfl, ⟨rfl, rfl, rfl, rfl⟩,
      fun hids => ⟨?_, hids.unidirectional, hids.isUnidirectional⟩⟩
    exact (isLocallyInitiated_stride layer _).trans hids.bidirectional
  have hpeer : layer.isPeerStreamSideRetired layer.nextBidirectionalStreamId false = false := by
    rw [isPeerStreamSideRetired, if_pos hids.bidirectional]
  show (layer.isPeerStreamSideRetired _ _ || layer.isLocalBidiStreamSideRetired _ _) = false
  rw [hpeer, hfresh]
  rfl

end Operations

/-! ## Frames that only touch the receiving half -/

namespace QuicStreamLayer

variable {layer : QuicStreamLayer}

variable (layer)

theorem SendsAlike.createIncomingStream (streamId : Nat) :
    SendsAlike layer (layer.createIncomingStream streamId) := by
  unfold QuicStreamLayer.createIncomingStream
  dsimp only
  repeat' split
  all_goals
    exact .of_eq rfl rfl (Nat.le_refl _) rfl ⟨rfl, rfl, rfl, rfl⟩ rfl rfl

theorem SendsAlike.storeStreamFrame (stream : IncomingStream) (frame : QuicStreamFrame) :
    SendsAlike layer (layer.storeStreamFrame stream frame) := by
  unfold QuicStreamLayer.storeStreamFrame drainContiguousBytes
  dsimp only
  repeat' split
  all_goals
    exact .of_eq rfl rfl (Nat.le_refl _) rfl ⟨rfl, rfl, rfl, rfl⟩ rfl rfl

theorem SendsAlike.receiveStreamFrame (stream : IncomingStream) (frame : QuicStreamFrame) :
    SendsAlike layer (layer.receiveStreamFrame stream frame).2 := by
  unfold QuicStreamLayer.receiveStreamFrame
  dsimp only
  repeat' split
  all_goals first
    | exact .refl _
    | exact .setIncoming _ _ _
    | exact .storeStreamFrame _ _ _

theorem SendsAlike.onStreamFrame (frame : QuicStreamFrame) :
    SendsAlike layer (layer.onStreamFrame frame).2 := by
  unfold QuicStreamLayer.onStreamFrame
  split
  · exact .refl _
  · exact .refl _
  rename_i admitted hadmitted
  have hadmitted : SendsAlike layer admitted := by
    unfold admitStreamFrame at hadmitted
    repeat' split at hadmitted
    all_goals first
      | cases hadmitted
        done
      | injection hadmitted with hadmitted
        subst hadmitted
        first
          | exact .refl _
          | exact .createIncomingStream _ _
  split
  · exact hadmitted
  · exact hadmitted.trans (.receiveStreamFrame _ _ _)

theorem SendsAlike.onResetStreamFrame (frame : QuicResetStreamFrame) :
    SendsAlike layer (layer.onResetStreamFrame frame).2 := by
  unfold QuicStreamLayer.onResetStreamFrame
  dsimp only
  repeat' split
  all_goals
    exact .of_eq rfl rfl (Nat.le_refl _) rfl ⟨rfl, rfl, rfl, rfl⟩ rfl rfl

theorem SendsAlike.onMaxStreamsFrame (frame : QuicMaxStreamsFrame) :
    SendsAlike layer (layer.onMaxStreamsFrame frame).2 := by
  unfold QuicStreamLayer.onMaxStreamsFrame
  repeat' split
  all_goals
    exact .of_eq rfl rfl (Nat.le_refl _) rfl ⟨rfl, rfl, rfl, rfl⟩ rfl rfl

theorem SendsAlike.onMaxDataFrame (frame : QuicMaxDataFrame) :
    SendsAlike layer (layer.onMaxDataFrame frame).2 :=
  .of_eq rfl rfl (Nat.le_max_left _ _) rfl ⟨rfl, rfl, rfl, rfl⟩ rfl rfl

theorem SendsAlike.stopStreamReceiving (streamId code : Nat) :
    SendsAlike layer (layer.stopStreamReceiving streamId code) := by
  unfold QuicStreamLayer.stopStreamReceiving
  repeat' split
  all_goals first | exact .refl _ | exact .setIncoming _ _ _

theorem SendsAlike.releaseReceiveWindow (streamId count : Nat) :
    SendsAlike layer (layer.releaseReceiveWindow streamId count) := by
  unfold QuicStreamLayer.releaseReceiveWindow
  repeat' split
  all_goals first
    | exact .refl _
    | exact .of_eq rfl rfl (Nat.le_refl _) rfl ⟨rfl, rfl, rfl, rfl⟩ rfl rfl

end QuicStreamLayer

/-! ## Whole events -/

namespace StreamHistory

variable {h : StreamHistory} {e : StreamEvent}

/-- The books of the sending half at this point of the run. -/
def sendBooks (h : StreamHistory) : SendBooks :=
  ⟨h.layer, h.inTransit.flatten, h.acknowledged, true⟩

theorem inTransit_perm {packets : List (List QuicStreamRange)}
    {ranges : List QuicStreamRange} (hmem : ranges ∈ packets) :
    packets.flatten.Perm (ranges ++ (packets.erase ranges).flatten) :=
  (List.perm_cons_erase hmem).flatten

theorem step_edits (hids : h.layer.LocalIds) (hregular : h.Regular e)
    (hcollect : ∀ frames byteBudget, e ≠ .collectFrames frames byteBudget) :
    SendEdits h.sendBooks (h.step e).sendBooks := by
  have hpromised := hregular.2
  cases e with
  | adoptPeerParameters parameters =>
    have hnone : h.layer.hasPeerParameters = false := by
      simpa [promised] using hpromised
    exact .single (.adopt (b := h.sendBooks) parameters hnone)
  | streamFrame frame => exact LayerEdits.alike (.onStreamFrame _ _)
  | maxDataFrame frame => exact LayerEdits.alike (.onMaxDataFrame _ _)
  | maxStreamDataFrame frame => exact onMaxStreamDataFrame_edits frame
  | maxStreamsFrame frame => exact LayerEdits.alike (.onMaxStreamsFrame _ _)
  | resetStreamFrame frame =>
    exact LayerEdits.alike (.onResetStreamFrame _ _)
  | stopSendingFrame frame => exact onStopSendingFrame_edits frame
  | collectFrames frames byteBudget =>
    exact absurd rfl (hcollect frames byteBudget)
  | writeStreamData streamId bytes isFinal =>
    exact writeStreamData_edits streamId bytes isFinal
  | resetStreamSending streamId code =>
    exact resetStreamSending_edits streamId code
  | stopStreamReceiving streamId code =>
    exact LayerEdits.alike (.stopStreamReceiving _ _ _)
  | openUnidirectionalStream => exact openUnidirectionalStream_edits hids
  | openBidirectionalStream =>
    exact openBidirectionalStream_edits hids (by simpa [promised] using hpromised)
  | releaseReceiveWindow streamId count =>
    exact LayerEdits.alike (.releaseReceiveWindow _ _ _)
  | takeDelivery =>
    exact LayerEdits.alike (.of_eq rfl rfl (Nat.le_refl _) rfl ⟨rfl, rfl, rfl, rfl⟩ rfl rfl)
  | takeAbortedStream => exact LayerEdits.alike (.abortedStreams _ _)
  | takeDrainedSendByteCount =>
    exact LayerEdits.alike (.of_eq rfl rfl (Nat.le_refl _) rfl ⟨rfl, rfl, rfl, rfl⟩ rfl rfl)
  | sendRangesAcknowledged ranges =>
    have hmem : ranges ∈ h.inTransit := by simpa [promised] using hpromised
    refine .head (.permute (b := h.sendBooks) (inTransit_perm hmem) (.refl _)) ?_
    refine (acknowledgeRanges_edits ranges h.layer _ _).tail ?_
    exact .permute (.refl _) ((List.reverse_perm ranges).append_right _)
  | sendRangesLost ranges =>
    have hmem : ranges ∈ h.inTransit := by simpa [promised] using hpromised
    refine .head (.permute (b := h.sendBooks) (inTransit_perm hmem) (.refl _)) ?_
    exact onSendRangesLost_edits ranges h.layer _
  | announcementsAcknowledged announcements =>
    exact LayerEdits.foldl (fun layer x => updateAnnouncement_edits _ x layer) _ _
  | announcementsLost announcements =>
    exact LayerEdits.foldl (fun layer x => updateAnnouncement_edits _ x layer) _ _

end StreamHistory

end AsynGyanis.Quic
