import AsynGyanis.Quic.Streams.Retirement

/-!
# What leaves the receiving half alone

Of the twenty-one events only four change what the layer has received:
a STREAM frame, a RESET_STREAM frame, a collection (by the records it
retires) and the application taking a delivery. Every other operation may
touch an incoming record, to raise its window or to note an announcement,
but not the bytes, the final size or the mark. `ReceivesAlike` states
that once, for one operation at a time, so an invariant of the receiving
half has four cases to prove and not twenty-one.
-/

namespace AsynGyanis.Quic

open Library SortedMap

/-- The same data received, and at least the same window. -/
structure IncomingStream.Continues (a b : IncomingStream) : Prop where
  reassembly : b.reassembly = a.reassembly
  discardedByteCount : b.discardedByteCount = a.discardedByteCount
  receivedHighWaterOffset : b.receivedHighWaterOffset = a.receivedHighWaterOffset
  finalOffset : b.finalOffset = a.finalOffset
  isFinished : b.isFinished = a.isFinished
  isFinalDelivered : b.isFinalDelivered = a.isFinalDelivered
  isReset : b.isReset = a.isReset
  streamLimit : a.streamLimit ≤ b.streamLimit

theorem IncomingStream.Continues.refl (a : IncomingStream) : a.Continues a :=
  ⟨rfl, rfl, rfl, rfl, rfl, rfl, rfl, Nat.le_refl _⟩

theorem IncomingStream.Continues.trans {a b c : IncomingStream}
    (hab : a.Continues b) (hbc : b.Continues c) : a.Continues c :=
  ⟨hbc.1.trans hab.1, hbc.2.trans hab.2, hbc.3.trans hab.3,
    hbc.4.trans hab.4, hbc.5.trans hab.5, hbc.6.trans hab.6,
    hbc.7.trans hab.7, Nat.le_trans hab.8 hbc.8⟩

namespace QuicStreamLayer

structure ReceivesAlike (a b : QuicStreamLayer) : Prop where
  kept : ∀ streamId stream, a.incoming.find? streamId = some stream →
    ∃ stream', b.incoming.find? streamId = some stream' ∧ stream.Continues stream'
  fresh : ∀ streamId, a.incoming.find? streamId = none → b.incoming.find? streamId = none
  deliveries : b.deliveries = a.deliveries
  remembers : RemembersAlike true a b
  connectionReceivedBytes : b.connectionReceivedBytes = a.connectionReceivedBytes
  connectionAdvertisedLimit : a.connectionAdvertisedLimit ≤ b.connectionAdvertisedLimit

namespace ReceivesAlike

variable {a b c layer : QuicStreamLayer}
variable (byteBudget : Nat)

theorem of_eq (hincoming : b.incoming = a.incoming) (hdeliveries : b.deliveries = a.deliveries)
    (hremembers : RemembersAlike true a b)
    (hreceived : b.connectionReceivedBytes = a.connectionReceivedBytes)
    (hlimit : a.connectionAdvertisedLimit ≤ b.connectionAdvertisedLimit) :
    ReceivesAlike a b where
  kept := fun _ stream h => ⟨stream, hincoming ▸ h, .refl stream⟩
  fresh := fun _ h => hincoming ▸ h
  deliveries := hdeliveries
  remembers := hremembers
  connectionReceivedBytes := hreceived
  connectionAdvertisedLimit := hlimit

theorem refl (a : QuicStreamLayer) : ReceivesAlike a a :=
  of_eq rfl rfl (.refl a) rfl (Nat.le_refl _)

theorem trans (hab : ReceivesAlike a b) (hbc : ReceivesAlike b c) : ReceivesAlike a c where
  kept := fun streamId stream h =>
    let ⟨_, hb, hcont⟩ := hab.kept streamId stream h
    let ⟨stream'', hc, hcont'⟩ := hbc.kept streamId _ hb
    ⟨stream'', hc, hcont.trans hcont'⟩
  fresh := fun streamId h => hbc.fresh streamId (hab.fresh streamId h)
  deliveries := hbc.deliveries.trans hab.deliveries
  remembers := hab.remembers.trans hbc.remembers
  connectionReceivedBytes := hbc.connectionReceivedBytes.trans hab.connectionReceivedBytes
  connectionAdvertisedLimit :=
    Nat.le_trans hab.connectionAdvertisedLimit hbc.connectionAdvertisedLimit

theorem foldl {α : Type} {f : QuicStreamLayer → α → QuicStreamLayer}
    (hf : ∀ layer x, ReceivesAlike layer (f layer x)) (xs : List α)
    (layer : QuicStreamLayer) : ReceivesAlike layer (xs.foldl f layer) :=
  foldl_invariant (P := ReceivesAlike layer) (fun _ x h => h.trans (hf _ x)) xs layer (refl layer)

variable (layer)

theorem setOutgoing (streamId : Nat) (stream : OutgoingStream) :
    ReceivesAlike layer (layer.setOutgoing streamId stream) :=
  of_eq rfl rfl ⟨rfl, rfl, rfl, rfl⟩ rfl (Nat.le_refl _)

theorem outgoingStream (streamId : Nat) :
    ReceivesAlike layer (layer.outgoingStream streamId).2 := by
  unfold QuicStreamLayer.outgoingStream
  split
  · exact refl layer
  · exact setOutgoing _ _ _

variable {layer}

theorem setIncoming {streamId : Nat} {stream stream' : IncomingStream}
    (h : layer.incoming.find? streamId = some stream) (hcont : stream.Continues stream') :
    ReceivesAlike layer (layer.setIncoming streamId stream') where
  kept := by
    intro k s hk
    by_cases heq : k = streamId
    · subst heq
      rw [h] at hk
      injection hk with hk
      exact ⟨stream', find?_insert_self _ _ _, hk ▸ hcont⟩
    · exact ⟨s, (find?_insert_of_ne _ _ heq).trans hk, .refl s⟩
  fresh := by
    intro k hk
    have hne : k ≠ streamId := by
      rintro rfl
      rw [h] at hk
      cases hk
    exact (find?_insert_of_ne _ _ hne).trans hk
  deliveries := rfl
  remembers := ⟨rfl, rfl, rfl, rfl⟩
  connectionReceivedBytes := rfl
  connectionAdvertisedLimit := Nat.le_refl _

/-! ## One operation at a time -/

variable (layer)

theorem raiseAdvertisedStreamLimits : ReceivesAlike layer layer.raiseAdvertisedStreamLimits :=
  of_eq rfl rfl ⟨rfl, rfl, rfl, rfl⟩ rfl (Nat.le_refl _)

theorem adoptPeerParameters (parameters : QuicTransportParameters) :
    ReceivesAlike layer (layer.adoptPeerParameters parameters) := by
  refine trans (b := { layer with
    peerParameters := parameters
    hasPeerParameters := true
    connectionSendLimit := parameters.initialMaximumData
    outgoingBidirectionalLimit := parameters.initialMaximumBidirectionalStreams
    outgoingUnidirectionalLimit := parameters.initialMaximumUnidirectionalStreams })
    (of_eq rfl rfl ⟨rfl, rfl, rfl, rfl⟩ rfl (Nat.le_refl _)) ?_
  refine foldl (fun layer streamId => ?_) _ _
  split
  · exact setOutgoing _ _ _
  · exact refl layer

theorem onMaxDataFrame (frame : QuicMaxDataFrame) :
    ReceivesAlike layer (layer.onMaxDataFrame frame).2 :=
  of_eq rfl rfl ⟨rfl, rfl, rfl, rfl⟩ rfl (Nat.le_refl _)

theorem onMaxStreamDataFrame (frame : QuicMaxStreamDataFrame) :
    ReceivesAlike layer (layer.onMaxStreamDataFrame frame).2 := by
  unfold QuicStreamLayer.onMaxStreamDataFrame
  repeat' split
  all_goals first | exact refl layer | exact setOutgoing _ _ _

theorem onMaxStreamsFrame (frame : QuicMaxStreamsFrame) :
    ReceivesAlike layer (layer.onMaxStreamsFrame frame).2 := by
  unfold QuicStreamLayer.onMaxStreamsFrame
  repeat' split
  all_goals exact of_eq rfl rfl ⟨rfl, rfl, rfl, rfl⟩ rfl (Nat.le_refl _)

theorem abortedStreams (queue : PendingQueue QuicAbortedStream) :
    ReceivesAlike layer { layer with abortedStreams := queue } :=
  of_eq rfl rfl ⟨rfl, rfl, rfl, rfl⟩ rfl (Nat.le_refl _)

theorem onStopSendingFrame (frame : QuicStopSendingFrame) :
    ReceivesAlike layer (layer.onStopSendingFrame frame).2 := by
  unfold QuicStreamLayer.onStopSendingFrame
  dsimp only
  repeat' split
  all_goals first
    | exact refl layer
    | exact outgoingStream _ _
    | exact (outgoingStream _ _).trans ((setOutgoing _ _ _).trans (abortedStreams _ _))

theorem writeStreamData (streamId : Nat) (bytes : Bytes) (isFinal : Bool) :
    ReceivesAlike layer (layer.writeStreamData streamId bytes isFinal).2 := by
  unfold QuicStreamLayer.writeStreamData
  dsimp only
  repeat' split
  all_goals first
    | exact refl layer
    | exact outgoingStream _ _
    | exact (outgoingStream _ _).trans (setOutgoing _ _ _)

theorem resetStreamSending (streamId code : Nat) :
    ReceivesAlike layer (layer.resetStreamSending streamId code) := by
  unfold QuicStreamLayer.resetStreamSending
  dsimp only
  repeat' split
  all_goals first
    | exact refl layer
    | exact outgoingStream _ _
    | exact (outgoingStream _ _).trans (setOutgoing _ _ _)

theorem stopStreamReceiving (streamId code : Nat) :
    ReceivesAlike layer (layer.stopStreamReceiving streamId code) := by
  unfold QuicStreamLayer.stopStreamReceiving
  split
  · exact refl layer
  rename_i hfind
  split
  · exact refl layer
  · exact setIncoming hfind ⟨rfl, rfl, rfl, rfl, rfl, rfl, rfl, Nat.le_refl _⟩

theorem openUnidirectionalStream : ReceivesAlike layer layer.openUnidirectionalStream.2 := by
  unfold QuicStreamLayer.openUnidirectionalStream
  dsimp only
  split
  · exact refl layer
  refine trans (b := { layer with nextUnidirectionalStreamId := _ }) ?_ (outgoingStream _ _)
  exact of_eq rfl rfl ⟨rfl, rfl, rfl, rfl⟩ rfl (Nat.le_refl _)

theorem openBidirectionalStream : ReceivesAlike layer layer.openBidirectionalStream.2 := by
  unfold QuicStreamLayer.openBidirectionalStream
  dsimp only
  split
  · exact refl layer
  refine trans (b := { layer with nextBidirectionalStreamId := _ }) ?_ (outgoingStream _ _)
  exact of_eq rfl rfl ⟨rfl, rfl, rfl, rfl⟩ rfl (Nat.le_refl _)

theorem raiseWindow_le (consumed initial limit : Nat) (pending : Bool) :
    limit ≤ (raiseWindowAfterConsumption consumed initial limit pending).1 := by
  unfold raiseWindowAfterConsumption
  split
  · exact Nat.le_refl _
  split
  · exact Nat.le_refl _
  · dsimp only; omega

theorem releaseReceiveWindow (streamId count : Nat) :
    ReceivesAlike layer (layer.releaseReceiveWindow streamId count) := by
  unfold QuicStreamLayer.releaseReceiveWindow
  split
  · exact refl layer
  split
  · exact refl layer
  rename_i hfind
  refine trans ?_ (raiseAdvertisedStreamLimits _)
  refine trans (@setIncoming layer streamId _ (layer.consumeIncoming streamId _ count) hfind
    ⟨rfl, rfl, rfl, rfl, rfl, rfl, rfl, raiseWindow_le _ _ _ _⟩) ?_
  exact of_eq rfl rfl ⟨rfl, rfl, rfl, rfl⟩ rfl (raiseWindow_le _ _ _ _)

theorem takeAbortedStream : ReceivesAlike layer layer.takeAbortedStream.2 := abortedStreams _ _

theorem takeDrainedSendByteCount : ReceivesAlike layer layer.takeDrainedSendByteCount.2 :=
  of_eq rfl rfl ⟨rfl, rfl, rfl, rfl⟩ rfl (Nat.le_refl _)

theorem onSendRangesAcknowledged (ranges : List QuicStreamRange) :
    ReceivesAlike layer (layer.onSendRangesAcknowledged ranges) := by
  refine foldl (fun layer range => ?_) _ _
  unfold acknowledgeRange
  split
  · exact refl layer
  · exact setOutgoing _ _ _

theorem onSendRangesLost (ranges : List QuicStreamRange) :
    ReceivesAlike layer (layer.onSendRangesLost ranges) := by
  refine trans (b := ranges.foldl loseRange layer) ?_ ?_
  · refine foldl (fun layer range => ?_) _ _
    unfold loseRange
    repeat' split
    all_goals first | exact refl layer | exact setOutgoing _ _ _
  refine foldl (fun layer streamId => ?_) _ _
  unfold sortQueueOf
  split
  · exact refl layer
  · exact setOutgoing _ _ _

theorem updateAnnouncement (update : AbortAnnouncement → AbortAnnouncement)
    (layer : QuicStreamLayer) (announcement : QuicStreamAnnouncement) :
    ReceivesAlike layer (layer.updateAnnouncement update announcement) := by
  unfold QuicStreamLayer.updateAnnouncement
  split
  · split
    · exact refl layer
    · exact setOutgoing _ _ _
  split
  · exact refl layer
  rename_i hfind
  exact setIncoming hfind ⟨rfl, rfl, rfl, rfl, rfl, rfl, rfl, Nat.le_refl _⟩

theorem retireOutgoing (streamId : Nat) :
    ReceivesAlike layer (layer.retireOutgoing streamId) := by
  rcases retireOutgoing_cases layer streamId with heq | ⟨_, _, _, _, heq⟩
  · rw [heq]
    exact refl layer
  rw [heq]
  refine trans (b := layer.noteRetired streamId false) ?_
    (of_eq rfl rfl ⟨rfl, rfl, rfl, rfl⟩ rfl (Nat.le_refl _))
  have hremembers := RemembersAlike.noteRetired_other layer streamId false true (by decide)
  unfold noteRetired at hremembers ⊢
  split at hremembers
  · next hlocal =>
    rw [if_pos hlocal]
    exact of_eq rfl rfl hremembers rfl (Nat.le_refl _)
  rename_i hlocal
  rw [if_neg hlocal]
  exact of_eq rfl rfl hremembers rfl (Nat.le_refl _)

/-! ## The collectors -/

variable {layer}

theorem tryAppend {c : Collecting} {byteBudget : Nat} {frame : QuicFrame}
    {note : Collecting → Collecting}
    (hnote : ∀ c', c'.layer = c.layer → ReceivesAlike c.layer (note c').layer) :
    ReceivesAlike c.layer (c.tryAppend byteBudget frame note).layer := by
  unfold Collecting.tryAppend
  split
  · exact refl _
  split
  · exact refl _
  · exact refl _
  · exact hnote _ rfl

theorem foldCollecting {α : Type} {f : Collecting → α → Collecting}
    (hf : ∀ c x, ReceivesAlike c.layer (f c x).layer) (xs : List α)
    (c : Collecting) : ReceivesAlike c.layer (xs.foldl f c).layer :=
  foldl_invariant (P := fun c' => ReceivesAlike c.layer c'.layer)
    (fun _ x h => h.trans (hf _ x)) xs c (refl c.layer)

theorem collectAbortAnnouncements (c : Collecting) :
    ReceivesAlike c.layer (collectAbortAnnouncements byteBudget c).layer := by
  refine trans (foldCollecting (fun c streamId => ?_) c.layer.outgoing.keys c)
    (foldCollecting (fun c streamId => ?_) _ _)
  · unfold announceReset
    repeat' split
    all_goals first
      | exact refl _
      | exact tryAppend fun c' hc' => by
          dsimp only
          rw [hc']
          exact setOutgoing _ _ _
  unfold announceStop
  split
  · exact refl _
  rename_i hfind
  repeat' split
  all_goals first
    | exact refl _
    | exact tryAppend fun c' hc' => by
        dsimp only
        rw [hc']
        exact setIncoming hfind ⟨rfl, rfl, rfl, rfl, rfl, rfl, rfl, Nat.le_refl _⟩

theorem updateConnectionWindow (c : Collecting) :
    ReceivesAlike c.layer (updateConnectionWindow byteBudget c).layer := by
  unfold QuicStreamLayer.updateConnectionWindow
  split
  · exact tryAppend fun c' hc' => hc' ▸ of_eq rfl rfl ⟨rfl, rfl, rfl, rfl⟩ rfl (Nat.le_refl _)
  · exact refl _

theorem updateBidirectionalStreams (c : Collecting) :
    ReceivesAlike c.layer (updateBidirectionalStreams byteBudget c).layer := by
  unfold QuicStreamLayer.updateBidirectionalStreams
  split
  · exact tryAppend fun c' hc' => hc' ▸ of_eq rfl rfl ⟨rfl, rfl, rfl, rfl⟩ rfl (Nat.le_refl _)
  · exact refl _

theorem updateUnidirectionalStreams (c : Collecting) : ReceivesAlike c.layer
      (updateUnidirectionalStreams byteBudget c).layer := by
  unfold QuicStreamLayer.updateUnidirectionalStreams
  split
  · exact tryAppend fun c' hc' => hc' ▸ of_eq rfl rfl ⟨rfl, rfl, rfl, rfl⟩ rfl (Nat.le_refl _)
  · exact refl _

theorem collectWindowUpdates (c : Collecting) :
    ReceivesAlike c.layer (collectWindowUpdates byteBudget c).layer := by
  refine trans (updateConnectionWindow byteBudget c) ?_
  refine trans (updateBidirectionalStreams byteBudget _) ?_
  refine trans (updateUnidirectionalStreams byteBudget _) ?_
  refine foldCollecting (fun c streamId => ?_) _ _
  unfold updateStreamWindow
  split
  · exact refl _
  rename_i hfind
  split
  · exact refl _
  exact tryAppend fun c' hc' => by
    dsimp only
    rw [hc']
    exact setIncoming hfind ⟨rfl, rfl, rfl, rfl, rfl, rfl, rfl, Nat.le_refl _⟩

theorem collectStream (byteBudget streamId fuel : Nat) (c : Collecting) :
    ReceivesAlike c.layer (collectStream byteBudget streamId fuel c).layer := by
  induction fuel generalizing c with
  | zero => exact refl _
  | succ fuel ih =>
    unfold QuicStreamLayer.collectStream
    split
    · exact refl _
    rename_i stream hfind
    split
    · exact refl _
    split
    · exact refl _
    rename_i front rest hqueue
    split
    · exact refl _
    · exact refl _
    · exact of_eq rfl rfl ⟨rfl, rfl, rfl, rfl⟩ rfl (Nat.le_refl _)
    rename_i c' hsent
    refine trans ?_ (ih c')
    unfold sendFront at hsent
    dsimp only at hsent
    repeat' split at hsent
    all_goals first
      | cases hsent
        done
      | injection hsent with hsent
        subst hsent
        exact of_eq rfl rfl ⟨rfl, rfl, rfl, rfl⟩ rfl (Nat.le_refl _)

theorem collectStreamData (c : Collecting) :
    ReceivesAlike c.layer (collectStreamData byteBudget c).layer := by
  have hrange : ∀ (c : Collecting) (ids : List Nat),
      ReceivesAlike c.layer (collectRange byteBudget c ids).layer := by
    intro c ids
    refine foldCollecting (fun c streamId => ?_) ids c
    split
    · exact refl _
    · exact collectStream _ _ _ _
  unfold QuicStreamLayer.collectStreamData
  split
  · exact refl _
  dsimp only
  split
  · exact (hrange _ _).trans (hrange { collectRange _ _ _ with
      isStopped := false } _)
  · exact hrange _ _

end ReceivesAlike

/-! ## Retirement -/

/-- Some settled incoming records are gone and remembered as retired;
everything else is as it was. -/
structure RetiresIncoming (a b : QuicStreamLayer) : Prop where
  kept : ∀ streamId stream, b.incoming.find? streamId = some stream →
    a.incoming.find? streamId = some stream
  settled : ∀ streamId stream, a.incoming.find? streamId = some stream →
    b.incoming.find? streamId = none → isIncomingSettled stream = true ∧
      b.isStreamSideRetired streamId true = true
  monotone : ∀ streamId, a.isStreamSideRetired streamId true = true →
    b.isStreamSideRetired streamId true = true
  deliveries : b.deliveries = a.deliveries
  isLocalServer : b.isLocalServer = a.isLocalServer
  connectionReceivedBytes : b.connectionReceivedBytes = a.connectionReceivedBytes
  connectionAdvertisedLimit : b.connectionAdvertisedLimit = a.connectionAdvertisedLimit

namespace RetiresIncoming

variable {a b c layer : QuicStreamLayer}

theorem refl (a : QuicStreamLayer) : RetiresIncoming a a where
  kept := fun _ _ h => h
  settled := fun _ _ h h' => by rw [h] at h'; cases h'
  monotone := fun _ h => h
  deliveries := rfl
  isLocalServer := rfl
  connectionReceivedBytes := rfl
  connectionAdvertisedLimit := rfl

theorem trans (hab : RetiresIncoming a b) (hbc : RetiresIncoming b c) : RetiresIncoming a c where
  kept := fun streamId stream h =>
    hab.kept streamId stream (hbc.kept streamId stream h)
  settled := by
    intro streamId stream ha hc
    cases hb : b.incoming.find? streamId with
    | none =>
      obtain ⟨hs, hr⟩ := hab.settled streamId stream ha hb
      exact ⟨hs, hbc.monotone streamId hr⟩
    | some stream' =>
      have heq := hab.kept streamId stream' hb
      rw [ha] at heq
      injection heq with heq
      subst heq
      exact hbc.settled streamId stream hb hc
  monotone := fun streamId h => hbc.monotone streamId (hab.monotone streamId h)
  deliveries := hbc.deliveries.trans hab.deliveries
  isLocalServer := hbc.isLocalServer.trans hab.isLocalServer
  connectionReceivedBytes := hbc.connectionReceivedBytes.trans hab.connectionReceivedBytes
  connectionAdvertisedLimit := hbc.connectionAdvertisedLimit.trans hab.connectionAdvertisedLimit

theorem fresh (h : RetiresIncoming a b) {streamId : Nat}
    (hnone : a.incoming.find? streamId = none) : b.incoming.find? streamId = none := by
  cases hfind : b.incoming.find? streamId with
  | none => rfl
  | some stream =>
    rw [h.kept streamId stream hfind] at hnone
    cases hnone

theorem isLocallyInitiated (h : RetiresIncoming a b) (streamId : Nat) :
    b.isLocallyInitiated streamId = a.isLocallyInitiated streamId := by
  unfold QuicStreamLayer.isLocallyInitiated
  rw [h.isLocalServer]

theorem retireIncoming (layer : QuicStreamLayer) (streamId : Nat) :
    RetiresIncoming layer (layer.retireIncoming streamId) := by
  rcases retireIncoming_cases layer streamId with
    heq | ⟨stream, hfind, hsettled, hdir, heq⟩
  · rw [heq]
    exact refl layer
  have hfields : (layer.noteRetired streamId true).deliveries = layer.deliveries ∧
      (layer.noteRetired streamId true).isLocalServer = layer.isLocalServer ∧
      (layer.noteRetired streamId true).connectionReceivedBytes = layer.connectionReceivedBytes ∧
      (layer.noteRetired streamId true).connectionAdvertisedLimit =
        layer.connectionAdvertisedLimit := by
    unfold noteRetired
    split <;> exact ⟨rfl, rfl, rfl, rfl⟩
  rw [heq]
  refine ⟨?_, ?_, ?_, hfields.1, hfields.2.1, hfields.2.2.1, hfields.2.2.2⟩
  · intro k s h
    change (layer.incoming.erase streamId).find? k = some s at h
    rw [find?_erase] at h
    split at h
    · cases h
    · exact h
  · intro k s h h'
    change (layer.incoming.erase streamId).find? k = none at h'
    rw [find?_erase] at h'
    split at h'
    · next hk =>
      subst hk
      rw [hfind] at h
      injection h with h
      exact ⟨h ▸ hsettled, isStreamSideRetired_note true hdir⟩
    · rw [h] at h'
      cases h'
  · exact fun k h => isStreamSideRetired_mono layer streamId true h

end RetiresIncoming

variable (streamId : Nat) (stream : IncomingStream)

theorem collectFrames_receivesAlike (layer : QuicStreamLayer) (frames : Bytes) (byteBudget : Nat) :
    ReceivesAlike (layer.incoming.keys.foldl QuicStreamLayer.retireIncoming layer)
      (layer.collectFrames frames byteBudget).layer := by
  have hretire : ReceivesAlike (layer.incoming.keys.foldl QuicStreamLayer.retireIncoming layer)
      layer.retireSettledStreams :=
    .foldl ReceivesAlike.retireOutgoing _ _
  have hannounce : ReceivesAlike layer.retireSettledStreams
      (layer.announcementPass frames byteBudget).layer :=
    .collectAbortAnnouncements byteBudget { layer := layer.retireSettledStreams, frames := frames }
  have hupdate : ReceivesAlike (layer.announcementPass frames byteBudget).restart.layer
      (layer.windowUpdatePass frames byteBudget).layer :=
    .collectWindowUpdates _ _
  have hdata : ReceivesAlike (layer.windowUpdatePass frames byteBudget).restart.layer
      (layer.streamDataPass frames byteBudget).layer :=
    .collectStreamData _ _
  rw [Collecting.restart_layer] at hupdate hdata
  rw [collectFrames_layer]
  exact hretire.trans (hannounce.trans (hupdate.trans hdata))

theorem RetiresIncoming.foldl (streamIds : List Nat) (layer : QuicStreamLayer) :
    RetiresIncoming layer (streamIds.foldl QuicStreamLayer.retireIncoming layer) :=
  foldl_invariant (P := RetiresIncoming layer)
    (fun _ k h => h.trans (.retireIncoming _ k)) _ _ (.refl layer)

theorem collectFrames_receiving (layer : QuicStreamLayer) (frames : Bytes) (byteBudget : Nat) :
    ∃ retired, RetiresIncoming layer retired ∧
      ReceivesAlike retired (layer.collectFrames frames byteBudget).layer :=
  ⟨_, .foldl _ _, collectFrames_receivesAlike layer frames byteBudget⟩

/-- The first loop leaves no settled record of a peer's stream it visits. -/
theorem retireIncoming_unsettled {streamIds : List Nat}
    {layer : QuicStreamLayer} {streamId : Nat} {stream : IncomingStream}
    (hmem : streamId ∈ streamIds) (hpeer : layer.isLocallyInitiated streamId = false)
    (hfind : (streamIds.foldl QuicStreamLayer.retireIncoming
      layer).incoming.find? streamId = some stream) :
    isIncomingSettled stream = false := by
  induction streamIds generalizing layer with
  | nil => cases hmem
  | cons head rest ih =>
    rcases List.mem_cons.mp hmem with heq | hrest
    · subst heq
      have hkept := (RetiresIncoming.foldl rest _).kept _ _ hfind
      by_contra hsettled
      have hbefore := (RetiresIncoming.retireIncoming layer streamId).kept
        _ _ hkept
      unfold QuicStreamLayer.retireIncoming at hkept
      simp [hbefore, hsettled, hpeer] at hkept
    · refine ih hrest ?_ hfind
      rw [(RetiresIncoming.retireIncoming layer head).isLocallyInitiated]
      exact hpeer

/-! ## One stream's frames -/

theorem createIncomingStream_frame (layer : QuicStreamLayer) (streamId : Nat) :
    (layer.createIncomingStream streamId).deliveries = layer.deliveries ∧
    RemembersAlike true layer (layer.createIncomingStream streamId) ∧
    ∀ k, k ≠ streamId → (layer.createIncomingStream streamId).incoming.find? k =
        layer.incoming.find? k := by
  unfold createIncomingStream
  dsimp only
  split
  · exact ⟨rfl, ⟨rfl, rfl, rfl, rfl⟩, fun k h => find?_insert_of_ne _ _ h⟩
  split <;>
    exact ⟨rfl, ⟨rfl, rfl, rfl, rfl⟩, fun k h => find?_insert_of_ne _ _ h⟩

theorem createIncomingStream_find (layer : QuicStreamLayer) {streamId : Nat}
    (h : layer.incoming.find? streamId = none) :
    (layer.createIncomingStream streamId).incoming.find? streamId =
      some { streamLimit := layer.incomingInitialWindowOf streamId } := by
  unfold createIncomingStream
  dsimp only
  rw [h]
  split
  · exact find?_insert_self _ _ _
  · split <;> exact find?_insert_self _ _ _

theorem drainContiguousBytes_incoming (layer : QuicStreamLayer)
    (stream : IncomingStream) (streamId : Nat) :
    (layer.drainContiguousBytes stream streamId).2.incoming = layer.incoming ∧
      RemembersAlike true layer (layer.drainContiguousBytes stream streamId).2 ∧
      ∃ added : List QuicStreamDelivery,
        (layer.drainContiguousBytes stream streamId).2.deliveries.toList =
          layer.deliveries.toList ++ added ∧
        ∀ d ∈ added, d.streamId = streamId := by
  unfold drainContiguousBytes
  dsimp only
  split
  · exact ⟨rfl, .refl _, [], by simp, by simp⟩
  refine ⟨rfl, ⟨rfl, rfl, rfl, rfl⟩, _, PendingQueue.toList_pushBack _ _, ?_⟩
  intro d hd
  rw [List.mem_singleton.mp hd]

/-- What a STREAM frame leaves alone: every other stream's record and
deliveries, and the boundaries. -/
structure OnlyStream (streamId : Nat) (a b : QuicStreamLayer) : Prop where
  others : ∀ k, k ≠ streamId → b.incoming.find? k = a.incoming.find? k
  added : ∃ added : List QuicStreamDelivery, b.deliveries.toList = a.deliveries.toList ++ added ∧
    ∀ d ∈ added, d.streamId = streamId
  remembers : RemembersAlike true a b

theorem OnlyStream.refl (a : QuicStreamLayer) : OnlyStream streamId a a :=
  ⟨fun _ _ => rfl, ⟨[], by simp, by simp⟩, .refl a⟩

theorem OnlyStream.trans {streamId : Nat} {a b c : QuicStreamLayer}
    (hab : OnlyStream streamId a b) (hbc : OnlyStream streamId b c) :
    OnlyStream streamId a c where
  others := fun k h => (hbc.others k h).trans (hab.others k h)
  added := by
    obtain ⟨x, hx, hxid⟩ := hab.added
    obtain ⟨y, hy, hyid⟩ := hbc.added
    refine ⟨x ++ y, by rw [hy, hx, List.append_assoc], ?_⟩
    intro d hd
    exact (List.mem_append.mp hd).elim (hxid d) (hyid d)
  remembers := hab.remembers.trans hbc.remembers

theorem OnlyStream.setIncoming (layer : QuicStreamLayer) (streamId : Nat)
    (stream : IncomingStream) : OnlyStream streamId layer (layer.setIncoming streamId stream) :=
  ⟨fun _ h => find?_insert_of_ne _ _ h, ⟨[], by simp; rfl, by simp⟩, ⟨rfl, rfl, rfl, rfl⟩⟩

theorem OnlyStream.storeStreamFrame (layer : QuicStreamLayer)
    (stream : IncomingStream) (frame : QuicStreamFrame) :
    OnlyStream frame.streamId layer (layer.storeStreamFrame stream frame) := by
  unfold QuicStreamLayer.storeStreamFrame
  refine OnlyStream.trans ?_ (OnlyStream.setIncoming _ _ _)
  obtain ⟨hin, hremembers, added, hadded, hids⟩ := drainContiguousBytes_incoming
      { layer with
        connectionReceivedBytes := layer.connectionReceivedBytes +
          (frame.offset + frame.data.length - stream.receivedHighWaterOffset) }
      { stream with
        receivedHighWaterOffset := stream.receivedHighWaterOffset +
          (frame.offset + frame.data.length - stream.receivedHighWaterOffset)
        reassembly := stream.reassembly.insert frame.offset frame.data }
      frame.streamId
  exact ⟨fun k _ => by rw [hin], ⟨added, hadded, hids⟩,
    hremembers.1, hremembers.2, hremembers.3, hremembers.4⟩

theorem OnlyStream.receiveStreamFrame (layer : QuicStreamLayer)
    (stream : IncomingStream) (frame : QuicStreamFrame) :
    OnlyStream frame.streamId layer (layer.receiveStreamFrame stream frame).2 := by
  unfold QuicStreamLayer.receiveStreamFrame
  dsimp only
  repeat' split
  all_goals first
    | exact .refl _ _
    | exact .setIncoming _ _ _
    | exact .storeStreamFrame _ _ _

theorem OnlyStream.afterAdmission (layer : QuicStreamLayer) {streamId : Nat}
    {layer' : QuicStreamLayer} (h : layer.admitStreamFrame streamId = .admitted layer') :
    OnlyStream streamId layer layer' := by
  obtain ⟨hdel, hremembers, hothers⟩ := createIncomingStream_frame layer streamId
  have hcreated : OnlyStream streamId layer (layer.createIncomingStream streamId) :=
    ⟨hothers, ⟨[], by simp [hdel], by simp⟩, hremembers⟩
  unfold admitStreamFrame at h
  repeat' split at h
  all_goals first
    | cases h
      done
    | injection h with h
      subst h
      first | exact .refl _ _ | exact hcreated

theorem OnlyStream.onStreamFrame (layer : QuicStreamLayer) (frame : QuicStreamFrame) :
    OnlyStream frame.streamId layer (layer.onStreamFrame frame).2 := by
  unfold QuicStreamLayer.onStreamFrame
  split
  · exact .refl _ _
  · exact .refl _ _
  rename_i admitted hadmitted
  have hfirst := OnlyStream.afterAdmission layer hadmitted
  split
  · exact hfirst
  · exact hfirst.trans (.receiveStreamFrame _ _ _)

theorem OnlyStream.onResetStreamFrame (layer : QuicStreamLayer) (frame : QuicResetStreamFrame) :
    OnlyStream frame.streamId layer (layer.onResetStreamFrame frame).2 := by
  unfold QuicStreamLayer.onResetStreamFrame
  dsimp only
  repeat' split
  all_goals first
    | exact .refl _ _
    | exact ⟨fun _ h => find?_insert_of_ne _ _ h, ⟨[], by simp; rfl, by simp⟩, ⟨rfl, rfl, rfl, rfl⟩⟩

end QuicStreamLayer

/-! ## Events that receive nothing -/

/-- Every event but the four that carry or hand over received data. -/
def StreamEvent.receivesNothing : StreamEvent → Bool
  | .streamFrame _ => false
  | .resetStreamFrame _ => false
  | .collectFrames _ _ => false
  | .takeDelivery => false
  | _ => true

namespace StreamHistory

/-- The history's record of the receiving half is the same. -/
structure SameReceived (a b : StreamHistory) : Prop where
  received : b.received = a.received
  resets : b.resets = a.resets
  unheldResets : b.unheldResets = a.unheldResets
  taken : b.taken = a.taken
  retiredIncoming : b.retiredIncoming = a.retiredIncoming

theorem step_receivesNothing (h : StreamHistory) {e : StreamEvent}
    (he : e.receivesNothing) : SameReceived h (h.step e) := by
  cases e with
  | streamFrame frame => cases he
  | resetStreamFrame frame => cases he
  | collectFrames frames byteBudget => cases he
  | takeDelivery => cases he
  | _ => exact ⟨rfl, rfl, rfl, rfl, rfl⟩

theorem step_receivesAlike (h : StreamHistory) {e : StreamEvent} (he : e.receivesNothing) :
    QuicStreamLayer.ReceivesAlike h.layer (h.step e).layer := by
  cases e with
  | streamFrame frame => cases he
  | resetStreamFrame frame => cases he
  | collectFrames frames byteBudget => cases he
  | takeDelivery => cases he
  | adoptPeerParameters parameters => exact .adoptPeerParameters _ _
  | maxDataFrame frame => exact .onMaxDataFrame _ _
  | maxStreamDataFrame frame => exact .onMaxStreamDataFrame _ _
  | maxStreamsFrame frame => exact .onMaxStreamsFrame _ _
  | stopSendingFrame frame => exact .onStopSendingFrame _ _
  | writeStreamData streamId bytes isFinal => exact .writeStreamData _ _ _ _
  | resetStreamSending streamId code => exact .resetStreamSending _ _ _
  | stopStreamReceiving streamId code => exact .stopStreamReceiving _ _ _
  | openUnidirectionalStream => exact .openUnidirectionalStream _
  | openBidirectionalStream => exact .openBidirectionalStream _
  | releaseReceiveWindow streamId count =>
    exact .releaseReceiveWindow _ _ _
  | takeAbortedStream => exact .takeAbortedStream _
  | takeDrainedSendByteCount => exact .takeDrainedSendByteCount _
  | sendRangesAcknowledged ranges => exact .onSendRangesAcknowledged _ _
  | sendRangesLost ranges => exact .onSendRangesLost _ _
  | announcementsAcknowledged announcements =>
    exact .foldl (.updateAnnouncement _) _ _
  | announcementsLost announcements =>
    exact .foldl (.updateAnnouncement _) _ _

end StreamHistory

end AsynGyanis.Quic
