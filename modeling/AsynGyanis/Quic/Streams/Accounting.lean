import AsynGyanis.Quic.Streams.Delivery

/-!
# Final sizes and the received-byte counter

Two numbers describe what a stream has used up of the connection's
window: the received high-water mark while it is running, and its final
size once it is reset. The layer keeps the first one in step with the
connection's counter and never looks at the second one again.

So the books balance as long as the two numbers are the same when the
final size is learned. A FIN may only arrive at or beyond everything
received so far, and a RESET_STREAM may only name the high-water mark
itself. Neither is checked by the code: an early FIN is recorded below
the mark (`early_final_size_accepted`), and a RESET_STREAM is neither
held against the mark nor charged to the counter. `FinalSizesAgree` is
the condition under which a frame does no harm, and `receive_accounting`
is what then holds in every run.
-/

namespace AsynGyanis.Quic

open Library SortedMap List

/-- What the stream counts for in the connection's total. -/
def IncomingStream.countedByteCount (stream : IncomingStream) : Nat :=
  if stream.isReset then stream.finalOffset.getD 0
  else stream.receivedHighWaterOffset

/-- A record whose final size, once known, is its high-water mark. -/
structure IncomingStream.Accounted (stream : IncomingStream) : Prop where
  within : stream.receivedHighWaterOffset ≤ stream.streamLimit
  final : ∀ size, stream.finalOffset = some size → stream.receivedHighWaterOffset = size
  reset : stream.isReset = true → stream.finalOffset.isSome = true
  finished : stream.isFinished = true → stream.finalOffset.isSome = true

namespace IncomingStream

variable {a b stream : IncomingStream}

theorem Accounted.counted (h : stream.Accounted) :
    stream.countedByteCount = stream.receivedHighWaterOffset := by
  unfold countedByteCount
  split
  · next hreset =>
    obtain ⟨size, hsize⟩ := Option.isSome_iff_exists.mp (h.reset hreset)
    rw [hsize, h.final size hsize, Option.getD_some]
  · rfl

theorem Continues.counted (h : a.Continues b) : b.countedByteCount = a.countedByteCount := by
  unfold countedByteCount
  rw [h.isReset, h.finalOffset, h.receivedHighWaterOffset]

theorem Accounted.continues (ha : a.Accounted) (h : a.Continues b) : b.Accounted where
  within := by
    have hwithin := ha.within
    have hlimit := h.streamLimit
    rw [h.receivedHighWaterOffset]
    omega
  final := by
    rw [h.receivedHighWaterOffset, h.finalOffset]
    exact ha.final
  reset := by
    rw [h.isReset, h.finalOffset]
    exact ha.reset
  finished := by
    rw [h.isFinished, h.finalOffset]
    exact ha.finished

theorem Accounted.fresh (streamLimit : Nat) :
    ({ streamLimit := streamLimit } : IncomingStream).Accounted where
  within := Nat.zero_le _
  final := fun _ h => by cases h
  reset := fun h => by cases h
  finished := fun h => by cases h

end IncomingStream

open IncomingStream

namespace QuicStreamLayer

/-- The books of the layer, given what is charged to streams it no longer
holds. -/
structure ReceiveBalanced (layer : QuicStreamLayer) (elsewhere : Nat) :
    Prop where
  records : ∀ streamId stream, layer.incoming.find? streamId = some stream → stream.Accounted
  total : layer.incoming.sumBy countedByteCount + elsewhere = layer.connectionReceivedBytes
  within : layer.connectionReceivedBytes ≤ layer.connectionAdvertisedLimit

section Balance

variable {a b layer : QuicStreamLayer} {elsewhere : Nat}
  {stream : IncomingStream} {frame : QuicStreamFrame}

theorem ReceiveBalanced.alike (ha : a.ReceiveBalanced elsewhere)
    (h : ReceivesAlike a b) : b.ReceiveBalanced elsewhere where
  records := by
    intro streamId stream hfind
    cases hfind' : a.incoming.find? streamId with
    | none =>
      rw [h.fresh streamId hfind'] at hfind
      cases hfind
    | some stream' =>
      obtain ⟨kept, hkept, hcont⟩ := h.kept streamId stream' hfind'
      rw [hkept] at hfind
      injection hfind with hfind
      exact hfind ▸ (ha.records streamId stream' hfind').continues hcont
  total := by
    have hsum := sumBy_congr a.incoming b.incoming
      countedByteCount (fun streamId stream hfind =>
        let ⟨kept, hkept, hcont⟩ := h.kept streamId stream hfind
        ⟨kept, hkept, hcont.counted⟩) h.fresh
    rw [hsum, h.connectionReceivedBytes]
    exact ha.total
  within := by
    have hwithin := ha.within
    have hlimit := h.connectionAdvertisedLimit
    rw [h.connectionReceivedBytes]
    omega

theorem ReceiveBalanced.retires (ha : a.ReceiveBalanced elsewhere) (h : RetiresIncoming a b) :
    b.ReceiveBalanced (((departed a.incoming b.incoming).map
      fun e => e.2.countedByteCount).sum + elsewhere) where
  records := fun streamId stream hfind =>
    ha.records streamId stream (h.kept streamId stream hfind)
  total := by
    have hsum := sumBy_add_departed a.incoming b.incoming countedByteCount
      fun streamId stream hfind => ⟨stream, h.kept streamId stream hfind, rfl⟩
    rw [← Nat.add_assoc, hsum, h.connectionReceivedBytes]
    exact ha.total
  within := by
    rw [h.connectionReceivedBytes, h.connectionAdvertisedLimit]
    exact ha.within

theorem ReceiveBalanced.create (ha : layer.ReceiveBalanced elsewhere)
    {streamId : Nat} (hnone : layer.incoming.find? streamId = none) :
    (layer.createIncomingStream streamId).ReceiveBalanced elsewhere := by
  have hcreated : ∃ layer', layer.createIncomingStream streamId = layer' ∧
      layer'.incoming = layer.incoming.insert streamId
        { streamLimit := layer.incomingInitialWindowOf streamId } ∧
      layer'.connectionReceivedBytes = layer.connectionReceivedBytes ∧
      layer'.connectionAdvertisedLimit = layer.connectionAdvertisedLimit := by
    refine ⟨_, rfl, ?_⟩
    unfold createIncomingStream
    dsimp only
    rw [hnone]
    repeat' split
    all_goals exact ⟨rfl, rfl, rfl⟩
  obtain ⟨layer', heq, hincoming, hreceived, hlimit⟩ := hcreated
  rw [heq]
  refine ⟨?_, ?_, by rw [hreceived, hlimit]; exact ha.within⟩
  · intro k kept hfind
    rw [hincoming, find?_insert] at hfind
    split at hfind
    · injection hfind with hfind
      exact hfind ▸ .fresh _
    · exact ha.records k kept hfind
  · rw [hincoming, hreceived, sumBy_insert_of_none _ _ hnone]
    have htotal := ha.total
    have hzero : ({ streamLimit := layer.incomingInitialWindowOf streamId } :
        IncomingStream).countedByteCount = 0 := rfl
    omega

theorem ReceiveBalanced.overwrite (ha : a.ReceiveBalanced elsewhere)
    {streamId : Nat} {stream' : IncomingStream} (hfind : a.incoming.find? streamId = some stream)
    (hincoming : b.incoming = a.incoming.insert streamId stream')
    (haccounted : stream'.Accounted)
    (hcounter : b.connectionReceivedBytes + stream.receivedHighWaterOffset =
      a.connectionReceivedBytes + stream'.receivedHighWaterOffset)
    (hwithin : b.connectionReceivedBytes ≤ b.connectionAdvertisedLimit) :
    b.ReceiveBalanced elsewhere where
  records := by
    intro k kept hk
    rw [hincoming, find?_insert] at hk
    split at hk
    · injection hk with hk
      exact hk ▸ haccounted
    · exact ha.records k kept hk
  total := by
    have hsum := sumBy_overwrite countedByteCount stream' hfind
    rw [(ha.records streamId stream hfind).counted, haccounted.counted] at hsum
    have htotal := ha.total
    rw [hincoming]
    omega
  within := hwithin

/-! ## One frame -/

theorem storeStreamFrame_books (layer : QuicStreamLayer)
    (stream : IncomingStream) (frame : QuicStreamFrame) :
    ∃ stream', (layer.storeStreamFrame stream frame).incoming =
        layer.incoming.insert frame.streamId stream' ∧
      (layer.storeStreamFrame stream frame).connectionReceivedBytes =
        layer.connectionReceivedBytes + (frame.offset + frame.data.length -
          stream.receivedHighWaterOffset) ∧
      (layer.storeStreamFrame stream frame).connectionAdvertisedLimit =
        layer.connectionAdvertisedLimit ∧
      stream'.receivedHighWaterOffset = stream.receivedHighWaterOffset +
        (frame.offset + frame.data.length - stream.receivedHighWaterOffset) ∧
      stream'.streamLimit = stream.streamLimit ∧
      stream'.finalOffset = stream.finalOffset ∧
      stream'.isReset = stream.isReset ∧
      (stream'.isFinished → stream.isFinished = true ∨ stream.finalOffset.isSome) := by
  unfold storeStreamFrame drainContiguousBytes
  dsimp only
  repeat' split
  all_goals refine ⟨_, rfl, rfl, rfl, rfl, rfl, rfl, rfl, ?_⟩
  all_goals
    intro hfinished
    first
      | exact .inl hfinished
      | next hend => exact .inr (by simp at hend ⊢; simp [hend])

/-- The record of `streamId` in both layers, its final size kept. -/
def KeepsFinalOffset (streamId : Nat) (a b : QuicStreamLayer) : Prop :=
  ∀ stream size, a.incoming.find? streamId = some stream → stream.finalOffset = some size →
    ∃ stream', b.incoming.find? streamId = some stream' ∧ stream'.finalOffset = some size

/-- A frame that is not a violation balances, unless it carries the first
FIN of the stream and ends below the high-water mark. -/
theorem ReceiveBalanced.receiveStreamFrame (ha : layer.ReceiveBalanced elsewhere)
    (hfind : layer.incoming.find? frame.streamId = some stream)
    (hagree : stream.isReset = false → stream.finalOffset = none → frame.isFinal →
      stream.receivedHighWaterOffset ≤ frame.offset + frame.data.length)
    (hok : (layer.receiveStreamFrame stream frame).1 = .ok ()) :
    (layer.receiveStreamFrame stream frame).2.ReceiveBalanced elsewhere ∧
      KeepsFinalOffset frame.streamId layer (layer.receiveStreamFrame stream frame).2 := by
  have hrecord := ha.records _ _ hfind
  unfold QuicStreamLayer.receiveStreamFrame at hok ⊢
  dsimp only at hok ⊢
  split at hok
  · next hreset =>
    rw [if_pos hreset]
    exact ⟨ha, fun kept size hkept hsize => ⟨kept, hkept, hsize⟩⟩
  next hreset =>
  split at hok
  · cases hok
  next hlimit =>
  split at hok
  · cases hok
  next hconnection =>
  split at hok
  · cases hok
  next hbeyond =>
  split at hok
  · cases hok
  next hsame =>
  rw [if_neg hreset, if_neg hlimit, if_neg hconnection, if_neg hbeyond, if_neg hsame]
  -- what the FIN leaves in the record is the mark the frame moves it to
  have hknown : ∀ size, stream.finalOffset = some size → frame.offset + frame.data.length ≤ size ∧
        (frame.isFinal → frame.offset + frame.data.length = size) := by
    intro size hsize
    simp only [hsize, Option.any_some, decide_eq_true_eq, Bool.and_eq_true] at hbeyond hsame
    refine ⟨by omega, fun hfinal => ?_⟩
    by_contra hne
    exact hsame ⟨hfinal, Ne.symm hne⟩
  generalize hupdated : (if frame.isFinal = true then
    { stream with finalOffset := some (frame.offset + frame.data.length) }
    else stream) = updated
  have hmark : updated.receivedHighWaterOffset =
      stream.receivedHighWaterOffset := by subst hupdated; split <;> rfl
  have hwindow : updated.streamLimit = stream.streamLimit := by
    subst hupdated; split <;> rfl
  have hunreset : updated.isReset = false := by
    subst hupdated; split <;> simpa using hreset
  have hfinished : updated.isFinished = stream.isFinished := by
    subst hupdated; split <;> rfl
  have hkeeps : ∀ size, stream.finalOffset = some size → updated.finalOffset = some size := by
    intro size hsize
    subst hupdated
    split
    · next hfinal => rw [(hknown size hsize).2 hfinal]
    · exact hsize
  have hfinal : ∀ size, updated.finalOffset = some size →
      stream.receivedHighWaterOffset ≤ size ∧ max stream.receivedHighWaterOffset
          (frame.offset + frame.data.length) = size := by
    intro size hsize
    cases hstream : stream.finalOffset with
    | some known =>
      rw [hkeeps known hstream] at hsize
      injection hsize with hsize
      have hmarked := hrecord.final known hstream
      have hle := (hknown known hstream).1
      omega
    | none =>
      subst hupdated
      split at hsize
      · next hfinal =>
        injection hsize with hsize
        have hle := hagree (by simpa using hreset) hstream hfinal
        omega
      · rw [hstream] at hsize
        cases hsize
  split
  · next hdone =>
    obtain ⟨size, hsize⟩ := Option.isSome_iff_exists.mp (hrecord.finished (hfinished ▸ hdone))
    refine ⟨ha.overwrite hfind rfl ⟨?_, ?_, ?_, ?_⟩ ?_ ha.within, ?_⟩
    · rw [hmark, hwindow]
      exact hrecord.within
    · intro size' hsize'
      rw [hkeeps size hsize] at hsize'
      injection hsize' with hsize'
      rw [hmark, ← hsize']
      exact hrecord.final size hsize
    · intro h
      rw [hunreset] at h
      cases h
    · intro _
      rw [hkeeps size hsize]
      rfl
    · rw [hmark]
      rfl
    · intro kept known hkept hknown'
      rw [hfind] at hkept
      injection hkept with hkept
      exact ⟨updated, find?_insert_self _ _ _, hkeeps known (hkept ▸ hknown')⟩
  rename_i hopen
  obtain ⟨stream', hincoming, hcounter, hadvertised, hmark', hwindow',
    hfinal', hreset', hfinished'⟩ := storeStreamFrame_books layer updated frame
  have hwithin := ha.within
  refine ⟨ha.overwrite hfind hincoming ⟨?_, ?_, ?_, ?_⟩ ?_ ?_, ?_⟩
  · have hle := hrecord.within
    omega
  · intro size hsize
    rw [hfinal'] at hsize
    have hmax := (hfinal size hsize).2
    omega
  · intro h
    rw [hreset', hunreset] at h
    cases h
  · intro h
    rw [hfinal']
    rcases hfinished' h with hdone | hsome
    · exact absurd hdone hopen
    · exact hsome
  · rw [hcounter, hmark']
    omega
  · rw [hcounter, hadvertised]
    omega
  · intro kept known hkept hknown'
    rw [hfind] at hkept
    injection hkept with hkept
    refine ⟨stream', ?_, ?_⟩
    · rw [hincoming]
      exact find?_insert_self _ _ _
    · rw [hfinal']
      exact hkeeps known (hkept ▸ hknown')

/-- A STREAM frame is admitted to the record there is, or to a new one of
a stream that is neither held nor remembered. -/
theorem admitStreamFrame_cases {streamId : Nat} {admitted : QuicStreamLayer}
    (h : layer.admitStreamFrame streamId = .admitted admitted) :
    (admitted = layer ∧ (layer.incoming.find? streamId).isSome) ∨
    (admitted = layer.createIncomingStream streamId ∧ layer.incoming.find? streamId = none ∧
      layer.isStreamSideRetired streamId true = false) := by
  unfold admitStreamFrame at h
  split at h
  · next hfind =>
    injection h with h
    exact .inl ⟨h.symm, by rw [hfind]; rfl⟩
  rename_i hnone
  split at h
  · cases h
  next hpeer =>
  split at h
  · cases h
  next hlocal =>
  have hretired : layer.isStreamSideRetired streamId true = false := by
    simp [isStreamSideRetired, hpeer, hlocal]
  repeat' split at h
  all_goals first
    | cases h
      done
    | injection h with h
      exact .inr ⟨h.symm, hnone, hretired⟩

/-- A FIN tells the final size of a running stream, and puts it below what
the stream already received. -/
def FinBelowMark (layer : QuicStreamLayer) (frame : QuicStreamFrame) : Prop :=
  ∃ stream, layer.incoming.find? frame.streamId = some stream ∧
    stream.isReset = false ∧ stream.finalOffset = none ∧
    frame.isFinal = true ∧
    frame.offset + frame.data.length < stream.receivedHighWaterOffset

theorem ReceiveBalanced.onStreamFrame (ha : layer.ReceiveBalanced elsewhere)
    (hagree : ¬ layer.FinBelowMark frame) (hok : (layer.onStreamFrame frame).1 = .ok ()) :
    (layer.onStreamFrame frame).2.ReceiveBalanced elsewhere ∧
      KeepsFinalOffset frame.streamId layer (layer.onStreamFrame frame).2 ∧
      (layer.isStreamSideRetired frame.streamId true → layer.incoming.find? frame.streamId = none →
        (layer.onStreamFrame frame).2.incoming.find? frame.streamId = none) := by
  unfold QuicStreamLayer.onStreamFrame at hok ⊢
  split at hok
  · next hadmitted =>
    exact ⟨ha, fun kept size hkept hsize => ⟨kept, hkept, hsize⟩, fun _ hnone => hnone⟩
  · next status hadmitted =>
    exact ⟨ha, fun kept size hkept hsize => ⟨kept, hkept, hsize⟩, fun _ hnone => hnone⟩
  rename_i admitted hadmitted
  rcases admitStreamFrame_cases hadmitted with
    ⟨rfl, hsome⟩ | ⟨rfl, hnone, hretired⟩
  · obtain ⟨stream, hfind⟩ := Option.isSome_iff_exists.mp hsome
    simp only [hfind] at hok ⊢
    obtain ⟨hbalanced, hkeeps⟩ := ha.receiveStreamFrame hfind (by
      intro hreset hfinal hfin
      by_contra hlt
      exact hagree ⟨stream, hfind, hreset, hfinal, hfin, by omega⟩) hok
    refine ⟨hbalanced, hkeeps, fun _ hnone => ?_⟩
    cases hnone
  have hfind := createIncomingStream_find layer hnone
  simp only [hfind] at hok ⊢
  obtain ⟨hbalanced, _⟩ := (ha.create hnone).receiveStreamFrame hfind
    (fun _ _ _ => Nat.zero_le _) hok
  refine ⟨hbalanced, ?_, ?_⟩
  · intro kept size hkept _
    rw [hnone] at hkept
    cases hkept
  intro h
  rw [hretired] at h
  cases h

theorem ReceiveBalanced.onResetStreamFrame {frame : QuicResetStreamFrame}
    (ha : layer.ReceiveBalanced elsewhere)
    (hagree : ∀ stream, layer.incoming.find? frame.streamId = some stream →
      stream.finalOffset = none →
      frame.finalSize = stream.receivedHighWaterOffset)
    (hok : (layer.onResetStreamFrame frame).1 = .ok ()) :
    (layer.onResetStreamFrame frame).2.ReceiveBalanced elsewhere ∧
      KeepsFinalOffset frame.streamId layer (layer.onResetStreamFrame frame).2 := by
  unfold QuicStreamLayer.onResetStreamFrame at hok ⊢
  dsimp only at hok ⊢
  split at hok
  · cases hok
  next hkind =>
  rw [if_neg hkind]
  split at hok
  · next hnone =>
    split <;> exact ⟨ha, fun kept size hkept hsize => ⟨kept, hkept, hsize⟩⟩
  rename_i stream hfind
  split at hok
  · cases hok
  next hsame =>
  split at hok
  · cases hok
  next hdelivered =>
  rw [if_neg hsame, if_neg hdelivered]
  have hrecord := ha.records _ _ hfind
  have hknown : ∀ size, stream.finalOffset = some size → frame.finalSize = size := by
    intro size hsize
    simp only [hsize, Option.any_some, decide_eq_true_eq, not_not] at hsame
    exact hsame.symm
  have hmark : frame.finalSize = stream.receivedHighWaterOffset := by
    cases hfinal : stream.finalOffset with
    | none => exact hagree stream hfind hfinal
    | some size => rw [hknown size hfinal, hrecord.final size hfinal]
  generalize hdiscarded : (if stream.isReset = true then stream
    else { stream with
      discardedByteCount := stream.receivedHighWaterOffset - stream.reassembly.deliveredOffset
      reassembly := .empty }) = discarded
  have hwater : discarded.receivedHighWaterOffset =
      stream.receivedHighWaterOffset := by
    subst hdiscarded; split <;> rfl
  have hwindow : discarded.streamLimit = stream.streamLimit := by
    subst hdiscarded; split <;> rfl
  refine ⟨ha.overwrite hfind rfl ⟨?_, ?_, fun _ => rfl, fun _ => rfl⟩ ?_ ha.within, ?_⟩
  · show discarded.receivedHighWaterOffset ≤ discarded.streamLimit
    rw [hwater, hwindow]
    exact hrecord.within
  · intro size hsize
    injection hsize with hsize
    rw [← hsize, hmark]
    exact hwater
  · show _ = _ + discarded.receivedHighWaterOffset
    rw [hwater]
    rfl
  · intro kept size hkept hsize
    rw [hfind] at hkept
    injection hkept with hkept
    refine ⟨_, find?_insert_self _ _ _, ?_⟩
    exact congrArg some (hknown size (hkept ▸ hsize))

end Balance

theorem ReceivesAlike.departed {a b c : QuicStreamLayer} (h : ReceivesAlike b c) :
    departed a.incoming c.incoming = departed a.incoming b.incoming := by
  refine filter_congr fun entry _ => ?_
  cases hfind : b.incoming.find? entry.1 with
  | none => rw [h.fresh entry.1 hfind]
  | some stream =>
    obtain ⟨stream', hfind', _⟩ := h.kept entry.1 stream hfind
    rw [hfind']
    rfl

end QuicStreamLayer

open QuicStreamLayer

/-! ## The run -/

namespace StreamHistory

variable {h later : StreamHistory} {e : StreamEvent}
  {parameters : QuicTransportParameters} {role : QuicConnectionRole}

/-- What is charged to streams the layer holds no record of: those it
retired, and those that were reset before anything else arrived. -/
def chargedElsewhere (h : StreamHistory) : Nat :=
  (h.retiredIncoming.map fun entry => entry.2.countedByteCount).sum +
    (h.unheldResets.map fun frame => frame.finalSize).sum

/-- The final size of a stream as the layer recorded it, also after the
record is gone. -/
def knownFinalOffset (h : StreamHistory) (streamId : Nat) : Option Nat :=
  match h.layer.incoming.find? streamId with
  | some stream => stream.finalOffset
  | none => (h.retiredIncoming.find? fun entry =>
    entry.1 = streamId).bind fun entry => entry.2.finalOffset

/-- The frame tells no final size that differs from what the stream has
already been charged. -/
def FinalSizesAgree (h : StreamHistory) : StreamEvent → Prop
  | .streamFrame frame => ¬ h.layer.FinBelowMark frame
  | .resetStreamFrame frame =>
    match h.layer.incoming.find? frame.streamId with
    | some stream => stream.finalOffset = none → frame.finalSize = stream.receivedHighWaterOffset
    | none => h.layer.isStreamSideRetired frame.streamId true = false → frame.finalSize = 0
  | _ => True

/-- The books of the whole run. -/
structure ReceiveAccounted (h : StreamHistory) : Prop where
  balanced : h.layer.ReceiveBalanced h.chargedElsewhere
  retired : ∀ entry ∈ h.retiredIncoming, entry.2.Accounted ∧
    h.layer.isStreamSideRetired entry.1 true = true ∧
    h.layer.incoming.find? entry.1 = none

theorem ReceiveAccounted.start : (StreamHistory.start parameters role).ReceiveAccounted where
  balanced := {
    records := fun _ _ hfind => by cases hfind
    total := rfl
    within := Nat.zero_le _ }
  retired := fun _ hentry => absurd hentry List.not_mem_nil

theorem ReceiveAccounted.receivesNothing (hinv : h.ReceiveAccounted)
    (he : e.receivesNothing) : (h.step e).ReceiveAccounted := by
  have hsame := h.step_receivesNothing he
  have halike := h.step_receivesAlike he
  have hcharged : (h.step e).chargedElsewhere = h.chargedElsewhere := by
    unfold chargedElsewhere
    rw [hsame.retiredIncoming, hsame.unheldResets]
  refine ⟨?_, ?_⟩
  · rw [hcharged]
    exact hinv.balanced.alike halike
  rw [hsame.retiredIncoming]
  intro entry hentry
  obtain ⟨haccounted, hretired, hnone⟩ := hinv.retired entry hentry
  refine ⟨haccounted, ?_, halike.fresh _ hnone⟩
  rw [halike.remembers.isStreamSideRetired]
  exact hretired

variable {streamId size : Nat}

/-- A frame of one stream keeps the retired records retired, as long as it
does not open its own stream again. -/
theorem ReceiveAccounted.retired_of_only (hinv : h.ReceiveAccounted) {layer : QuicStreamLayer}
    (honly : QuicStreamLayer.OnlyStream streamId h.layer layer)
    (hown : h.layer.isStreamSideRetired streamId true → h.layer.incoming.find? streamId = none →
      layer.incoming.find? streamId = none) :
    ∀ entry ∈ h.retiredIncoming, entry.2.Accounted ∧ layer.isStreamSideRetired entry.1 true ∧
      layer.incoming.find? entry.1 = none := by
  intro entry hentry
  obtain ⟨haccounted, hretired, hnone⟩ := hinv.retired entry hentry
  refine ⟨haccounted, ?_, ?_⟩
  · rw [honly.remembers.isStreamSideRetired]
    exact hretired
  by_cases heq : entry.1 = streamId
  · rw [heq] at hretired hnone ⊢
    exact hown hretired hnone
  · rw [honly.others _ heq]
    exact hnone

theorem ReceiveAccounted.streamFrame {frame : QuicStreamFrame}
    (hinv : h.ReceiveAccounted) (hregular : h.Regular (.streamFrame frame))
    (hagree : ¬ h.layer.FinBelowMark frame) :
    (h.step (.streamFrame frame)).ReceiveAccounted := by
  obtain ⟨hbalanced, _, hown⟩ := hinv.balanced.onStreamFrame hagree hregular.1
  exact ⟨hbalanced, hinv.retired_of_only
    (QuicStreamLayer.OnlyStream.onStreamFrame h.layer frame) hown⟩

theorem onResetStreamFrame_none {layer : QuicStreamLayer} {frame : QuicResetStreamFrame}
    (hnone : layer.incoming.find? frame.streamId = none) :
    (layer.onResetStreamFrame frame).2 = layer := by
  unfold onResetStreamFrame
  rw [hnone]
  dsimp only
  repeat' split
  all_goals rfl

theorem ReceiveAccounted.resetStreamFrame {frame : QuicResetStreamFrame} (hinv : h.ReceiveAccounted)
    (hregular : h.Regular (.resetStreamFrame frame))
    (hagree : h.FinalSizesAgree (.resetStreamFrame frame)) :
    (h.step (.resetStreamFrame frame)).ReceiveAccounted := by
  have honly := QuicStreamLayer.OnlyStream.onResetStreamFrame h.layer frame
  simp only [FinalSizesAgree] at hagree
  obtain ⟨hbalanced, _⟩ := hinv.balanced.onResetStreamFrame (by
    intro stream hfind
    rw [hfind] at hagree
    exact hagree) hregular.1
  have hcharged : (h.step (.resetStreamFrame frame)).chargedElsewhere =
      h.chargedElsewhere := by
    simp only [chargedElsewhere, step, note]
    split
    · next hunheld =>
      simp only [Bool.and_eq_true, Option.isNone_iff_eq_none, Bool.not_eq_true'] at hunheld
      rw [hunheld.1.1] at hagree
      have hzero := hagree (by
        simp [isStreamSideRetired, hunheld.1.2, hunheld.2])
      simp [hzero]
    · rfl
  refine ⟨by rw [hcharged]; exact hbalanced, ?_⟩
  refine hinv.retired_of_only honly fun _ hnone => ?_
  rw [step_layer, show (h.layer.apply (.resetStreamFrame frame)).2 = h.layer
    from onResetStreamFrame_none hnone]
  exact hnone

theorem ReceiveAccounted.collectFrames {frames : Bytes} {byteBudget : Nat}
    (hinv : h.ReceiveAccounted) :
    (h.step (.collectFrames frames byteBudget)).ReceiveAccounted := by
  obtain ⟨retired, hretires, halike⟩ := collectFrames_receiving h.layer frames byteBudget
  have hdeparted := halike.departed (a := h.layer)
  have hcharged : (h.step (.collectFrames frames byteBudget)).chargedElsewhere
      = ((departed h.layer.incoming retired.incoming).map
          fun entry => entry.2.countedByteCount).sum +
        h.chargedElsewhere := by
    simp only [chargedElsewhere, step, note, hdeparted, map_append,
      sum_append, Nat.add_assoc]
  have hretired : (h.step (.collectFrames frames byteBudget)).retiredIncoming
      = departed h.layer.incoming retired.incoming ++
        h.retiredIncoming :=
    congrArg (· ++ h.retiredIncoming) hdeparted
  rw [← step_collectFrames] at halike
  refine ⟨?_, ?_⟩
  · rw [hcharged]
    exact (hinv.balanced.retires hretires).alike halike
  intro entry hentry
  rw [hretired] at hentry
  rw [halike.remembers.isStreamSideRetired]
  rcases mem_append.mp hentry with hgone | hold
  · obtain ⟨hfind, hnone⟩ := mem_departed.mp hgone
    exact ⟨hinv.balanced.records _ _ hfind,
      (hretires.settled _ _ hfind hnone).2, halike.fresh _ hnone⟩
  obtain ⟨haccounted, hside, hnone⟩ := hinv.retired entry hold
  exact ⟨haccounted, hretires.monotone _ hside, halike.fresh _ (hretires.fresh hnone)⟩

theorem ReceiveAccounted.step (hinv : h.ReceiveAccounted)
    (hregular : h.Regular e) (hagree : h.FinalSizesAgree e) : (h.step e).ReceiveAccounted := by
  cases e with
  | streamFrame frame => exact hinv.streamFrame hregular hagree
  | resetStreamFrame frame => exact hinv.resetStreamFrame hregular hagree
  | collectFrames frames byteBudget => exact hinv.collectFrames
  | takeDelivery =>
    exact ⟨⟨hinv.balanced.records, hinv.balanced.total, hinv.balanced.within⟩, hinv.retired⟩
  | _ => exact hinv.receivesNothing rfl

/-! ## Known final sizes -/

theorem knownFinalOffset_of_some {stream : IncomingStream}
    (hfind : h.layer.incoming.find? streamId = some stream) :
    h.knownFinalOffset streamId = stream.finalOffset := by
  unfold knownFinalOffset
  rw [hfind]

theorem knownFinalOffset_of_none (hfind : h.layer.incoming.find? streamId = none) :
    h.knownFinalOffset streamId = (h.retiredIncoming.find? fun entry =>
      entry.1 = streamId).bind fun entry => entry.2.finalOffset := by
  unfold knownFinalOffset
  rw [hfind]

theorem knownFinalOffset_keeps
    (hkept : QuicStreamLayer.KeepsFinalOffset streamId h.layer later.layer)
    (hnone : h.layer.incoming.find? streamId = none →
      (∃ entry ∈ h.retiredIncoming, entry.1 = streamId) →
      later.layer.incoming.find? streamId = none)
    (hretired : later.retiredIncoming = h.retiredIncoming)
    (hknown : h.knownFinalOffset streamId = some size) :
    later.knownFinalOffset streamId = some size := by
  cases hfind : h.layer.incoming.find? streamId with
  | some stream =>
    rw [knownFinalOffset_of_some hfind] at hknown
    obtain ⟨stream', hfind', hsize⟩ := hkept stream size hfind hknown
    rw [knownFinalOffset_of_some hfind', hsize]
  | none =>
    rw [knownFinalOffset_of_none hfind] at hknown
    obtain ⟨entry, hentry, _⟩ := Option.bind_eq_some_iff.mp hknown
    have hmem := mem_of_find?_eq_some hentry
    have hid : entry.1 = streamId := by
      simpa using find?_some hentry
    rw [knownFinalOffset_of_none (hnone hfind ⟨entry, hmem, hid⟩), hretired]
    exact hknown

theorem knownFinalOffset_receivesNothing (he : e.receivesNothing)
    (hknown : h.knownFinalOffset streamId = some size) :
    (h.step e).knownFinalOffset streamId = some size := by
  have halike := h.step_receivesAlike he
  refine knownFinalOffset_keeps ?_ (fun hnone _ => halike.fresh _ hnone)
    (h.step_receivesNothing he).retiredIncoming hknown
  intro stream size hfind hsize
  obtain ⟨stream', hfind', hcont⟩ := halike.kept streamId stream hfind
  exact ⟨stream', hfind', hcont.finalOffset.trans hsize⟩

theorem knownFinalOffset_retires {retired : QuicStreamLayer}
    (hretires : QuicStreamLayer.RetiresIncoming h.layer retired)
    (halike : QuicStreamLayer.ReceivesAlike retired later.layer)
    (hretired : later.retiredIncoming = departed h.layer.incoming
      retired.incoming ++ h.retiredIncoming)
    (hknown : h.knownFinalOffset streamId = some size) :
    later.knownFinalOffset streamId = some size := by
  cases hfind : h.layer.incoming.find? streamId with
  | none =>
    have hfresh := hretires.fresh hfind
    have hgone : (departed h.layer.incoming
        retired.incoming).find? (fun entry => entry.1 = streamId) =
          none := by
      refine find?_eq_none.mpr fun entry hentry hid => ?_
      have hheld := (mem_departed.mp hentry).1
      rw [of_decide_eq_true hid, hfind] at hheld
      cases hheld
    rw [knownFinalOffset_of_none hfind] at hknown
    rw [knownFinalOffset_of_none (halike.fresh _ hfresh), hretired,
      find?_append, hgone, Option.none_or]
    exact hknown
  | some stream =>
    rw [knownFinalOffset_of_some hfind] at hknown
    cases hfind' : retired.incoming.find? streamId with
    | some stream' =>
      have heq := hretires.kept streamId stream' hfind'
      rw [hfind] at heq
      injection heq with heq
      subst heq
      obtain ⟨kept, hkept, hcont⟩ := halike.kept streamId stream hfind'
      rw [knownFinalOffset_of_some hkept, hcont.finalOffset]
      exact hknown
    | none =>
      have hmem : (streamId, stream) ∈ departed h.layer.incoming retired.incoming :=
        mem_departed.mpr ⟨hfind, hfind'⟩
      obtain ⟨entry, hentry⟩ := Option.isSome_iff_exists.mp
        (find?_isSome (p := fun e => e.1 = streamId).mpr ⟨_, hmem, decide_eq_true rfl⟩)
      have hheld := (mem_departed.mp (mem_of_find?_eq_some hentry)).1
      have hid : entry.1 = streamId := by
        simpa using find?_some hentry
      rw [hid, hfind] at hheld
      injection hheld with hheld
      rw [knownFinalOffset_of_none (halike.fresh _ hfind'), hretired,
        find?_append, hentry, Option.some_or, Option.bind_some,
        ← hheld]
      exact hknown

theorem knownFinalOffset_step (hinv : h.ReceiveAccounted) (hregular : h.Regular e)
    (hagree : h.FinalSizesAgree e) (hknown : h.knownFinalOffset streamId = some size) :
    (h.step e).knownFinalOffset streamId = some size := by
  cases e with
  | streamFrame frame =>
    have honly := QuicStreamLayer.OnlyStream.onStreamFrame h.layer frame
    obtain ⟨_, hkept, hown⟩ := hinv.balanced.onStreamFrame hagree hregular.1
    by_cases heq : streamId = frame.streamId
    · subst heq
      refine knownFinalOffset_keeps (h := h) hkept ?_ rfl hknown
      rintro hnone ⟨entry, hentry, hid⟩
      exact hown (hid ▸ (hinv.retired entry hentry).2.1) hnone
    have hfind := honly.others streamId heq
    refine knownFinalOffset_keeps (h := h) ?_ ?_ rfl hknown
    · exact fun stream size hs hsize => ⟨stream, hfind.trans hs, hsize⟩
    · exact fun hnone _ => hfind.trans hnone
  | resetStreamFrame frame =>
    have honly := QuicStreamLayer.OnlyStream.onResetStreamFrame h.layer frame
    by_cases heq : streamId = frame.streamId
    · subst heq
      refine knownFinalOffset_keeps (h := h) ?_ ?_ rfl hknown
      · refine (hinv.balanced.onResetStreamFrame ?_ hregular.1).2
        intro stream hfind
        simp only [FinalSizesAgree, hfind] at hagree
        exact hagree
      intro hnone _
      rw [step_layer, show (h.layer.apply (.resetStreamFrame frame)).2 =
        h.layer from onResetStreamFrame_none hnone]
      exact hnone
    · have hfind := honly.others streamId heq
      refine knownFinalOffset_keeps (h := h) ?_ ?_ rfl hknown
      · exact fun stream size hs hsize => ⟨stream, hfind.trans hs, hsize⟩
      · exact fun hnone _ => hfind.trans hnone
  | collectFrames frames byteBudget =>
    obtain ⟨retired, hretires, halike⟩ := collectFrames_receiving h.layer frames byteBudget
    have hdeparted := halike.departed (a := h.layer)
    exact knownFinalOffset_retires hretires halike
      (congrArg (· ++ h.retiredIncoming) hdeparted) hknown
  | takeDelivery => exact hknown
  | _ => exact knownFinalOffset_receivesNothing rfl hknown

/-- A stream whose final size the layer knows has received no more than
that, within the window it was granted, and the counter of the connection
is what all streams together were charged. -/
structure ReceivesWithinLimits (h : StreamHistory) : Prop where
  finalSizes : ∀ streamId stream size, h.layer.incoming.find? streamId = some stream ∨
      (streamId, stream) ∈ h.retiredIncoming →
    stream.finalOffset = some size →
    stream.receivedHighWaterOffset ≤ size ∧ size ≤ stream.streamLimit
  total : h.layer.incoming.sumBy countedByteCount +
    h.chargedElsewhere = h.layer.connectionReceivedBytes
  within : h.layer.connectionReceivedBytes ≤ h.layer.connectionAdvertisedLimit

theorem ReceiveAccounted.withinLimits (hinv : h.ReceiveAccounted) : h.ReceivesWithinLimits where
  finalSizes := by
    intro streamId stream size hstream hsize
    have haccounted : stream.Accounted := by
      rcases hstream with hfind | hmem
      · exact hinv.balanced.records streamId stream hfind
      · exact (hinv.retired _ hmem).1
    have hmark := haccounted.final size hsize
    have hwithin := haccounted.within
    omega
  total := hinv.balanced.total
  within := hinv.balanced.within

/-- In every run whose frames agree on the final sizes the books balance,
and a final size the layer knows stays the same in every later state. -/
theorem receive_accounting (hreach : Reachable parameters role FinalSizesAgree h)
    (hlater : Reach step (fun h e => h.Regular e ∧ h.FinalSizesAgree e) h later) :
    h.ReceivesWithinLimits ∧ ∀ streamId size, h.knownFinalOffset streamId = some size →
      later.knownFinalOffset streamId = some size := by
  have hinv : h.ReceiveAccounted := Reach.invariant hreach .start
    fun h e hinv ok => hinv.step ok.1 ok.2
  refine ⟨hinv.withinLimits, fun streamId size hknown => ?_⟩
  refine (Reach.invariant (P := fun later => later.ReceiveAccounted ∧
    later.knownFinalOffset streamId = some size) hlater ⟨hinv, hknown⟩ ?_).2
  intro h e hboth ok
  exact ⟨hboth.1.step ok.1 ok.2, knownFinalOffset_step hboth.1 ok.1 ok.2 hboth.2⟩

/-- Data, a FIN at the end of it and a RESET_STREAM that names the same
size. -/
def agreeingRun : List StreamEvent :=
  [.streamFrame ⟨0, 0, [7, 7], false⟩, .streamFrame ⟨0, 2, [], true⟩, .resetStreamFrame ⟨0, 0, 2⟩]

theorem receive_accounting_agreeing :
    (agreeingRun.foldl StreamHistory.step
      (.start exampleParameters .server)).ReceivesWithinLimits := by
  have hreach : Reachable exampleParameters .server FinalSizesAgree
      (agreeingRun.foldl StreamHistory.step (.start exampleParameters .server)) := by
    refine Reach.run .start _ ⟨⟨by decide, ?_⟩, ⟨by decide, ?_⟩, ⟨by decide, ?_⟩, trivial⟩
    · rintro ⟨stream, hfind, _⟩
      cases hfind
    · rintro ⟨stream, hfind, _, _, _, hlt⟩
      injection hfind with hfind
      subst hfind
      exact absurd hlt (by decide)
    · intro hnone
      cases hnone
  exact (receive_accounting hreach .start).1

/-- A FIN below the high-water mark. -/
def earlyFinalRun : List StreamEvent :=
  [.streamFrame ⟨0, 0, [7, 7, 7, 7, 7], false⟩, .streamFrame ⟨0, 3, [], true⟩]

/-- A RESET_STREAM that names more than has arrived. -/
def unchargedResetRun : List StreamEvent :=
  [.streamFrame ⟨0, 0, [7], false⟩, .resetStreamFrame ⟨0, 0, 5⟩]

/-- Both are accepted: the first leaves a final size of 3 below a mark of
5, the second a counter of 1 for a stream of 5 bytes. -/
theorem early_final_size_accepted :
    (∃ h, Reachable exampleParameters .server (fun _ _ => True) h ∧ ¬ h.ReceivesWithinLimits) ∧
    ∃ h, Reachable exampleParameters .server (fun _ _ => True) h ∧
      h.layer.incoming.sumBy countedByteCount = 5 ∧
      h.layer.connectionReceivedBytes = 1 := by
  refine ⟨⟨_, Reach.run .start earlyFinalRun ?_, ?_⟩, _,
    Reach.run .start unchargedResetRun ?_, by decide, by decide⟩
  · exact ⟨⟨by decide, trivial⟩, ⟨by decide, trivial⟩, trivial⟩
  · intro hwithin
    have hsize := hwithin.finalSizes 0 _ 3 (.inl rfl) (by decide)
    exact absurd hsize.1 (by decide)
  · exact ⟨⟨by decide, trivial⟩, ⟨by decide, trivial⟩, trivial⟩

end StreamHistory

end AsynGyanis.Quic
