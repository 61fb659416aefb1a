import AsynGyanis.Quic.Streams.Sending

/-!
# Packing a packet

A collection in two respects: what it does to the sending half, as a
sequence of edits after the settled records are gone, and how many bytes
it appends. The first says which ranges the packet carries; the second
that no packet outgrows its budget, whichever of the three passes spends
it. The inner loop is where both meet: a round that sends is inverted once
(`sendFront_sent`), with the bound on the frame it appended and the bound
on the bytes it took.
-/

namespace AsynGyanis.Quic

open Library QuicStreamLayer Collecting List

/-! ## One round of the inner loop -/

section Round

variable {byteBudget streamId count : Nat} {c c' : Collecting}
  {stream : OutgoingStream} {front : QuicStreamChunk}
  {rest : List QuicStreamChunk}

/-- The payload chosen for a frame fits with its header and length field,
and is empty only when there is nothing to send. -/
theorem payloadByteLengthFor_spec {remaining header chunk sendable : Nat}
    (h : payloadByteLengthFor remaining header chunk sendable = some count) :
    count ≤ chunk ∧ count ≤ sendable ∧
      header + quicVariableLengthIntegerByteCount count + count ≤ remaining ∧
      (count = 0 → chunk = 0 ∨ sendable = 0) := by
  unfold payloadByteLengthFor at h
  split at h
  · cases h
  next hroom =>
  dsimp only at h
  generalize hnarrow : min (min chunk sendable) (remaining - header - 1) = narrow at h
  split at h
  · next hwide =>
    split at h
    · cases h
    next hroom' =>
    injection h with h
    -- the wider field leaves less payload, whose own field is no wider
    have hle : count ≤ narrow := by omega
    have hmax : narrow ≤ kQuicMaximumIntegerValue := by
      by_contra hbig
      have hzero : quicVariableLengthIntegerByteCount narrow = 0 := by
        unfold quicVariableLengthIntegerByteCount
        unfold kQuicMaximumOneByteIntegerValue kQuicMaximumTwoByteIntegerValue
          kQuicMaximumFourByteIntegerValue
        unfold kQuicMaximumIntegerValue at hbig ⊢
        repeat' split
        all_goals omega
      omega
    have hmono := quicVariableLengthIntegerByteCount_mono hle hmax
    omega
  · next hnarrowField =>
    injection h with h
    subst h
    omega

/-- What a round that sends has done. -/
structure RoundSent (byteBudget : Nat) (c : Collecting) (streamId : Nat)
    (stream : OutgoingStream) (front : QuicStreamChunk)
    (rest : List QuicStreamChunk) (count : Nat) (c' : Collecting) :
    Prop where
  layer : c'.layer = sentLayer c.layer streamId stream front rest count
  ranges : c'.sentRanges = c.sentRanges ++ [sentRange streamId front count]
  sendable : Sendable c.layer stream front count
  used : c'.usedByteCount + c.frames.length = c.usedByteCount + c'.frames.length
  within : c'.usedByteCount ≤ byteBudget
  grows : c.usedByteCount < c'.usedByteCount

theorem sendFront_sent (h : sendFront byteBudget c streamId stream front rest = .sent c') :
    ∃ count, RoundSent byteBudget c streamId stream front rest count c' := by
  unfold sendFront at h
  dsimp only at h
  split at h
  · cases h
  next hcredit =>
  split at h
  · cases h
  next count hcount =>
  split at h
  · cases h
  next hempty =>
  split at h
  · cases h
  next appended happend =>
  injection h with h
  obtain ⟨hinside, hsendable, hroom, hzero⟩ := payloadByteLengthFor_spec hcount
  have hlength := appendQuicFrame_stream_length happend
  have hdata : (streamFrameOf streamId front count).data.length = count := by
    simp only [streamFrameOf, length_take]
    omega
  have hheader : streamFrameHeaderByteLength streamId front.beginOffset =
      1 + quicVariableLengthIntegerByteCount streamId +
        (if front.beginOffset = 0 then 0
          else quicVariableLengthIntegerByteCount front.beginOffset) := rfl
  have hstream : (streamFrameOf streamId front count).streamId = streamId := rfl
  have hoffset : (streamFrameOf streamId front count).offset =
    front.beginOffset := rfl
  rw [hdata, hstream, hoffset] at hlength
  subst h
  refine ⟨count, rfl, rfl, ⟨hinside, hsendable, ?_⟩, ?_, ?_, ?_⟩
  · intro hnone
    by_contra hmore
    have hchunk : front.bytes.length = 0 := by
      by_contra hlen
      rcases hzero hnone with hc | hs
      · exact hlen hc
      refine hcredit ⟨hs, fun hfin => ?_⟩
      rw [hfin.2] at hlen
      exact hlen rfl
    have hnil := length_eq_zero_iff.mp hchunk
    refine hempty ⟨hnone, ?_⟩
    by_contra hfinal
    exact hmore ⟨by simpa using hfinal, hnil⟩
  · show c.usedByteCount + (appended.length - c.frames.length) +
      c.frames.length = c.usedByteCount + appended.length
    omega
  · show c.usedByteCount + (appended.length - c.frames.length) ≤ byteBudget
    omega
  · show c.usedByteCount < c.usedByteCount + (appended.length - c.frames.length)
    omega

theorem sendRounds_lt (h : RoundSent byteBudget c streamId stream front rest count c')
    (hfind : c.layer.outgoing.find? streamId = some stream)
    (hqueue : stream.pendingQueue = front :: rest) :
    sendRounds c'.layer streamId < sendRounds c.layer streamId := by
  have hinside := h.sendable.inside
  have hafter : c'.layer.outgoing.find? streamId =
      some (sendFromQueue stream front rest count) := by
    rw [h.layer]
    exact SortedMap.find?_insert_self _ _ _
  simp only [sendRounds, hafter, hfind, pendingQueueByteCount, hqueue,
    map_cons, sum_cons, length_cons]
  by_cases hall : count = front.bytes.length
  · simp only [sendFromQueue, if_pos hall]
    omega
  have hpos : count ≠ 0 := by
    intro hzero
    have hempty := (h.sendable.empty hzero).2
    rw [hzero, hempty] at hall
    exact hall rfl
  simp only [sendFromQueue, if_neg hall, map_cons, sum_cons,
    length_cons, length_drop]
  omega

/-- The fuel the collector passes is enough: more changes nothing. -/
theorem collectStream_fuel {fuel : Nat} (h : sendRounds c.layer streamId ≤ fuel) :
    collectStream byteBudget streamId (fuel + 1) c = collectStream byteBudget streamId fuel c := by
  induction fuel generalizing c with
  | zero =>
    simp only [collectStream]
    split
    · rfl
    next stream hfind =>
    split
    · rfl
    split
    · rfl
    next front rest hqueue =>
    simp only [sendRounds, hfind, hqueue, length_cons] at h
    omega
  | succ fuel ih =>
    rw [collectStream]
    conv_rhs => rw [collectStream]
    split
    · rfl
    next stream hfind =>
    split
    · rfl
    split
    · rfl
    next front rest hqueue =>
    split
    · rfl
    · rfl
    · rfl
    rename_i c' hsent
    obtain ⟨count, hround⟩ := sendFront_sent hsent
    have hlt := sendRounds_lt hround hfind hqueue
    exact ih (by omega)

theorem collectStream_ends (more : Nat) :
    collectStream byteBudget streamId (sendRounds c.layer streamId + more) c =
      collectStream byteBudget streamId (sendRounds c.layer streamId) c := by
  induction more with
  | zero => rfl
  | succ more ih => exact (collectStream_fuel (Nat.le_add_right _ _)).trans ih

end Round

/-! ## The passes -/

/-- From one point of a collection to a later one: the ranges added, the
edits that account for them, and the bytes appended within the budget. -/
structure Packs (byteBudget : Nat) (c c' : Collecting) : Prop where
  edits : ∃ added, c'.sentRanges = c.sentRanges ++ added ∧
    ∀ o a, SendEdits ⟨c.layer, o, a, true⟩ ⟨c'.layer, o ++ added, a, true⟩
  used : c'.usedByteCount + c.frames.length = c.usedByteCount + c'.frames.length
  within : c.usedByteCount ≤ byteBudget → c'.usedByteCount ≤ byteBudget
  hasPeerParameters : c'.layer.hasPeerParameters = c.layer.hasPeerParameters
  held : ∀ k, (c'.layer.outgoing.find? k).isNone = (c.layer.outgoing.find? k).isNone

theorem setOutgoing_held {layer : QuicStreamLayer} {streamId : Nat}
    {stream : OutgoingStream} (stream' : OutgoingStream)
    (hfind : layer.outgoing.find? streamId = some stream) (k : Nat) :
    ((layer.setOutgoing streamId stream').outgoing.find? k).isNone =
      (layer.outgoing.find? k).isNone := by
  simp only [setOutgoing, SortedMap.find?_insert]
  split
  · next heq =>
    rw [heq, hfind]
    rfl
  · rfl

namespace Packs

variable {byteBudget : Nat} {c c' c'' : Collecting}

theorem refl (byteBudget : Nat) (c : Collecting) : Packs byteBudget c c where
  edits := ⟨[], (List.append_nil _).symm, fun o a => by
    rw [List.append_nil]⟩
  used := rfl
  within := id
  hasPeerParameters := rfl
  held := fun _ => rfl

theorem trans (h : Packs byteBudget c c') (h' : Packs byteBudget c' c'') :
    Packs byteBudget c c'' where
  edits := by
    obtain ⟨x, hx, hedits⟩ := h.edits
    obtain ⟨y, hy, hedits'⟩ := h'.edits
    refine ⟨x ++ y, by rw [hy, hx, append_assoc], fun o a => ?_⟩
    rw [← append_assoc]
    exact (hedits o a).trans (hedits' (o ++ x) a)
  used := by
    have h1 := h.used
    have h2 := h'.used
    omega
  within := fun hw => h'.within (h.within hw)
  hasPeerParameters := h'.hasPeerParameters.trans h.hasPeerParameters
  held := fun k => (h'.held k).trans (h.held k)

theorem of_layer (hframes : c'.frames = c.frames) (hused : c'.usedByteCount = c.usedByteCount)
    (hranges : c'.sentRanges = c.sentRanges)
    (hparameters : c'.layer.hasPeerParameters = c.layer.hasPeerParameters)
    (hheld : ∀ k, (c'.layer.outgoing.find? k).isNone = (c.layer.outgoing.find? k).isNone)
    (hedits : ∀ o a, LayerEdits o a true c.layer c'.layer) : Packs byteBudget c c' where
  edits := ⟨[], by rw [hranges, List.append_nil], fun o a => by
    rw [List.append_nil]
    exact hedits o a⟩
  used := by rw [hframes, hused]
  within := fun hw => by rw [hused]; exact hw
  hasPeerParameters := hparameters
  held := hheld

theorem foldl {α : Type} {f : Collecting → α → Collecting}
    (hf : ∀ c x, Packs byteBudget c (f c x)) (xs : List α) (c : Collecting) :
    Packs byteBudget c (xs.foldl f c) :=
  foldl_invariant (P := Packs byteBudget c) (fun _ x h => h.trans (hf _ x)) xs c (refl byteBudget c)

theorem tryAppend {frame : QuicFrame} {note : Collecting → Collecting}
    (hnote : ∀ c', c'.layer = c.layer → Packs byteBudget c' (note c')) :
    Packs byteBudget c (c.tryAppend byteBudget frame note) := by
  unfold Collecting.tryAppend tryAppendFrame
  split
  · exact refl _ _
  cases happend : appendQuicFrame c.frames frame with
  | error message => exact ⟨(refl byteBudget c).edits, rfl, id, rfl, fun _ => rfl⟩
  | ok appended =>
    have hgrows := appendQuicFrame_grows happend
    dsimp only
    split
    · exact ⟨(refl byteBudget c).edits, rfl, id, rfl, fun _ => rfl⟩
    · exact ⟨(refl byteBudget c).edits, rfl, id, rfl, fun _ => rfl⟩
    rename_i frames used hfits
    split at hfits
    · cases hfits
    next hroom =>
    simp only [Except.ok.injEq, Option.some.injEq, Prod.mk.injEq] at hfits
    obtain ⟨rfl, rfl⟩ := hfits
    refine trans ?_ (hnote _ rfl)
    refine ⟨(refl byteBudget c).edits, ?_, ?_, rfl, fun _ => rfl⟩
    · show c.usedByteCount + (appended.length - c.frames.length) +
        c.frames.length = c.usedByteCount + appended.length
      omega
    intro hw
    show c.usedByteCount + (appended.length - c.frames.length) ≤ byteBudget
    omega

theorem collectAbortAnnouncements (byteBudget : Nat) (c : Collecting) :
    Packs byteBudget c (collectAbortAnnouncements byteBudget c) := by
  refine trans (foldl (fun c streamId => ?_) c.layer.outgoing.keys c)
    (foldl (fun c streamId => ?_) _ _)
  · unfold announceReset
    split
    · exact refl _ _
    next stream hfind =>
    split
    · exact refl _ _
    next abort habort =>
    split
    · exact refl _ _
    refine tryAppend fun c' hc' => of_layer rfl rfl rfl rfl
      (setOutgoing_held _ (hc'.symm ▸ hfind)) fun o a => ?_
    have hsame : { stream with sendAbort := some (markInFlight abort) } =
        { stream with sendAbort := stream.sendAbort.map markInFlight } := by
      rw [habort, Option.map_some]
    dsimp only
    rw [hsame, hc']
    exact LayerEdits.change hfind (.announce markInFlight)
  · unfold announceStop
    repeat' split
    all_goals first
      | exact refl _ _
      | exact tryAppend fun c' _ => of_layer rfl rfl rfl rfl (fun _ => rfl)
          fun o a => LayerEdits.alike (.setIncoming _ _ _)

theorem noteUpdate (note : QuicStreamLayer → QuicStreamLayer)
    (hnote : ∀ layer, SendsAlike layer (note layer)) (c : Collecting) :
    Packs byteBudget c { c with layer := note c.layer } :=
  of_layer rfl rfl rfl (hnote c.layer).hasPeerParameters (fun k => by rw [(hnote c.layer).outgoing])
    fun _ _ => LayerEdits.alike (hnote c.layer)

theorem updateConnectionWindow (byteBudget : Nat) (c : Collecting) :
    Packs byteBudget c (updateConnectionWindow byteBudget c) := by
  unfold QuicStreamLayer.updateConnectionWindow
  split
  · exact tryAppend fun c' _ => noteUpdate
      (fun layer => { layer with connectionWindowUpdatePending := false })
      (fun _ => .of_eq rfl rfl (Nat.le_refl _) rfl ⟨rfl, rfl, rfl, rfl⟩ rfl
        rfl) c'
  · exact refl _ _

theorem updateBidirectionalStreams (byteBudget : Nat) (c : Collecting) :
    Packs byteBudget c (updateBidirectionalStreams byteBudget c) := by
  unfold QuicStreamLayer.updateBidirectionalStreams
  split
  · exact tryAppend fun c' _ => noteUpdate
      (fun layer => { layer with streamsBidirectionalUpdatePending := false })
      (fun _ => .of_eq rfl rfl (Nat.le_refl _) rfl ⟨rfl, rfl, rfl, rfl⟩ rfl
        rfl) c'
  · exact refl _ _

theorem updateUnidirectionalStreams (byteBudget : Nat) (c : Collecting) :
    Packs byteBudget c (updateUnidirectionalStreams byteBudget c) := by
  unfold QuicStreamLayer.updateUnidirectionalStreams
  split
  · exact tryAppend fun c' _ => noteUpdate
      (fun layer => { layer with streamsUnidirectionalUpdatePending := false })
      (fun _ => .of_eq rfl rfl (Nat.le_refl _) rfl ⟨rfl, rfl, rfl, rfl⟩ rfl
        rfl) c'
  · exact refl _ _

theorem collectWindowUpdates (byteBudget : Nat) (c : Collecting) :
    Packs byteBudget c (collectWindowUpdates byteBudget c) := by
  refine trans (updateConnectionWindow byteBudget c) ?_
  refine trans (updateBidirectionalStreams byteBudget _) ?_
  refine trans (updateUnidirectionalStreams byteBudget _) ?_
  refine foldl (fun c streamId => ?_) _ _
  unfold updateStreamWindow
  split
  · exact refl _ _
  next stream hfind =>
  split
  · exact refl _ _
  · exact tryAppend fun c' _ => of_layer rfl rfl rfl rfl (fun _ => rfl)
      fun o a => LayerEdits.alike (.setIncoming _ _ _)

theorem of_round {streamId count : Nat} {stream : OutgoingStream}
    {front : QuicStreamChunk} {rest : List QuicStreamChunk}
    (h : RoundSent byteBudget c streamId stream front rest count c')
    (hparameters : c.layer.hasPeerParameters)
    (hfind : c.layer.outgoing.find? streamId = some stream)
    (hopen : stream.isAborted = false) (hqueue : stream.pendingQueue = front :: rest) :
    Packs byteBudget c c' where
  edits := by
    refine ⟨[sentRange streamId front count], h.ranges, fun o a => ?_⟩
    rw [h.layer]
    exact .single (.send (b := ⟨c.layer, o, a, true⟩) rfl hparameters hfind hopen hqueue h.sendable)
  used := h.used
  within := fun _ => h.within
  hasPeerParameters := by
    rw [h.layer]
    rfl
  held := fun k => by
    rw [h.layer]
    exact setOutgoing_held _ hfind k

theorem collectStream (byteBudget streamId fuel : Nat) (hparameters : c.layer.hasPeerParameters) :
    Packs byteBudget c (collectStream byteBudget streamId fuel c) := by
  induction fuel generalizing c with
  | zero => exact refl _ _
  | succ fuel ih =>
    unfold QuicStreamLayer.collectStream
    split
    · exact refl _ _
    next stream hfind =>
    split
    · exact refl _ _
    next hopen =>
    split
    · exact refl _ _
    next front rest hqueue =>
    split
    · exact refl _ _
    · exact of_layer rfl rfl rfl rfl (fun _ => rfl) fun o a => .refl
    · exact of_layer rfl rfl rfl rfl (fun _ => rfl) fun o a =>
        LayerEdits.alike (.of_eq rfl rfl (Nat.le_refl _) rfl ⟨rfl, rfl, rfl, rfl⟩ rfl rfl)
    rename_i c' hsent
    obtain ⟨count, hround⟩ := sendFront_sent hsent
    have hfirst := of_round hround hparameters hfind (by simpa using hopen) hqueue
    exact hfirst.trans (ih (hfirst.hasPeerParameters.trans hparameters))

theorem collectRange (byteBudget : Nat) (streamIds : List Nat)
    (hparameters : c.layer.hasPeerParameters) :
    Packs byteBudget c (collectRange byteBudget c streamIds) := by
  refine foldl_invariant (P := Packs byteBudget c) (fun c' streamId h => ?_) streamIds c (refl _ _)
  split
  · exact h
  · exact h.trans (collectStream _ _ _ (h.hasPeerParameters.trans hparameters))

theorem collectStreamData (byteBudget : Nat) (c : Collecting) :
    Packs byteBudget c (collectStreamData byteBudget c) := by
  unfold QuicStreamLayer.collectStreamData
  split
  · exact refl _ _
  next hguard =>
  have hparameters : c.layer.hasPeerParameters := by
    simp only [Bool.or_eq_true, not_or, Bool.not_eq_true'] at hguard
    simpa using hguard.1
  dsimp only
  generalize c.layer.outgoing.keys.filter (fun k => decide (c.layer.nextSendStreamId ≤ k)) = tail
  have hfirst := collectRange byteBudget tail hparameters
  split
  · have hresume : Packs byteBudget (QuicStreamLayer.collectRange byteBudget c tail)
        { QuicStreamLayer.collectRange byteBudget c tail with
          isStopped := false } :=
      of_layer rfl rfl rfl rfl (fun _ => rfl) fun o a => .refl
    refine (hfirst.trans hresume).trans (collectRange byteBudget _ ?_)
    exact hfirst.hasPeerParameters.trans hparameters
  · exact hfirst

end Packs

/-! ## The whole call -/

section WholeCall

variable (layer : QuicStreamLayer) (frames : Bytes) (byteBudget : Nat)

theorem announcementPass_packs :
    Packs byteBudget { layer := layer.retireSettledStreams, frames := frames }
      (layer.announcementPass frames byteBudget) := .collectAbortAnnouncements _ _

theorem windowUpdatePass_packs : Packs
      (byteBudget - (layer.announcementPass frames byteBudget).usedByteCount)
      (layer.announcementPass frames byteBudget).restart
      (layer.windowUpdatePass frames byteBudget) := .collectWindowUpdates _ _

theorem streamDataPass_packs : Packs
      (byteBudget - (layer.announcementPass frames byteBudget).usedByteCount -
        (layer.windowUpdatePass frames byteBudget).usedByteCount)
      (layer.windowUpdatePass frames byteBudget).restart
      (layer.streamDataPass frames byteBudget) := .collectStreamData _ _

/-- After the settled records are gone a collection is a sequence of
edits. -/
theorem collectFrames_edits (o a : List QuicStreamRange) :
    SendEdits ⟨layer.retireSettledStreams, o, a, true⟩
      ⟨(layer.collectFrames frames byteBudget).layer,
        o ++ (layer.collectFrames frames byteBudget).sentRanges, a, true⟩ := by
  obtain ⟨x, hx, hannounce⟩ := (announcementPass_packs layer frames byteBudget).edits
  obtain ⟨y, hy, hupdate⟩ := (windowUpdatePass_packs layer frames byteBudget).edits
  obtain ⟨z, hz, hdata⟩ := (streamDataPass_packs layer frames byteBudget).edits
  rw [restart_sentRanges] at hy hz
  rw [collectFrames_sentRanges, collectFrames_layer, hz, hy, hx,
    nil_append, ← append_assoc, ← append_assoc]
  exact ((hannounce o a).trans (hupdate (o ++ x) a)).trans (hdata (o ++ x ++ y) a)

theorem collectFrames_held (k : Nat) :
    ((layer.collectFrames frames byteBudget).layer.outgoing.find? k).isNone =
      (layer.retireSettledStreams.outgoing.find? k).isNone := by
  have hannounce := (announcementPass_packs layer frames byteBudget).held k
  have hupdate := (windowUpdatePass_packs layer frames byteBudget).held k
  have hdata := (streamDataPass_packs layer frames byteBudget).held k
  rw [restart_layer] at hupdate hdata
  rw [collectFrames_layer, hdata, hupdate, hannounce]

theorem collectFrames_within : (layer.collectFrames frames byteBudget).frames.length ≤
      frames.length + byteBudget := by
  have hannounce := announcementPass_packs layer frames byteBudget
  have hupdate := windowUpdatePass_packs layer frames byteBudget
  have hdata := streamDataPass_packs layer frames byteBudget
  have h1 := hannounce.used
  have h2 := hupdate.used
  have h3 := hdata.used
  have hw1 := hannounce.within (Nat.zero_le _)
  have hw2 := hupdate.within (Nat.zero_le _)
  have hw3 := hdata.within (Nat.zero_le _)
  rw [restart_frames, restart_usedByteCount] at h2 h3
  rw [collectFrames_frames]
  dsimp only at h1
  omega

theorem collectFrames_grows : frames.length ≤
    (layer.collectFrames frames byteBudget).frames.length := by
  have h1 := (announcementPass_packs layer frames byteBudget).used
  have h2 := (windowUpdatePass_packs layer frames byteBudget).used
  have h3 := (streamDataPass_packs layer frames byteBudget).used
  rw [restart_frames, restart_usedByteCount] at h2 h3
  rw [collectFrames_frames]
  dsimp only at h1
  omega

theorem collectFrames_without_frames
    (h : (layer.collectFrames frames byteBudget).hasFrames = false) :
    (layer.collectFrames frames byteBudget).frames.length =
      frames.length := by
  have h1 := (announcementPass_packs layer frames byteBudget).used
  have h2 := (windowUpdatePass_packs layer frames byteBudget).used
  have h3 := (streamDataPass_packs layer frames byteBudget).used
  rw [restart_frames, restart_usedByteCount] at h2 h3
  have hused : (layer.announcementPass frames byteBudget).usedByteCount +
      (layer.windowUpdatePass frames byteBudget).usedByteCount +
      (layer.streamDataPass frames byteBudget).usedByteCount = 0 := by
    simpa [collectFrames] using h
  rw [collectFrames_frames]
  dsimp only at h1
  omega

end WholeCall

end AsynGyanis.Quic
