import AsynGyanis.Quic.Streams.Receiving

/-!
# Delivery

What the application is handed on one stream, over a whole run. The
bytes are those of the stream up to the first position that has not
arrived, and the mark comes with the last of them.

The invariant has one case for each thing the layer may know of a peer's
stream: a record (`StreamIntact`), nothing yet, or a retired record, in
which case the stream was complete (`StreamDone`). Frames for a retired
stream are dropped, which is right for a stream that was complete and
wrong for one that never was. The boundary cannot tell the two apart: it
is raised by the largest retired index and then also covers every smaller
index whose first frame is still on its way. So the invariant survives a
step exactly as long as no first frame of a stream arrives below the
boundary, and `retired_boundary_drops_stream` is the run in which one does.
-/

namespace AsynGyanis.Quic

open Library QuicReassemblyBuffer List StreamHistory

/-! ## Observations -/

def framesOf (frames : List QuicStreamFrame) (streamId : Nat) : List QuicStreamFrame :=
  frames.filter fun f => f.streamId = streamId

def deliveriesOf (deliveries : List QuicStreamDelivery) (streamId : Nat) :
    List QuicStreamDelivery :=
  deliveries.filter fun d => d.streamId = streamId

/-- Some frame carried the byte at `x`. -/
def ReceivedAt (frames : List QuicStreamFrame) (x : Nat) : Prop :=
  ∃ f ∈ frames, f.offset ≤ x ∧ x < f.offset + f.data.length

/-- Some frame carried the FIN. -/
def FinReceived (frames : List QuicStreamFrame) : Prop := ∃ f ∈ frames, f.isFinal = true

instance (frames : List QuicStreamFrame) : Decidable (FinReceived frames) :=
  inferInstanceAs (Decidable (∃ f ∈ frames, f.isFinal = true))

def deliveredBytes (deliveries : List QuicStreamDelivery) : Bytes :=
  (deliveries.map (·.bytes)).flatten

def finalMarkCount (deliveries : List QuicStreamDelivery) : Nat := deliveries.countP (·.isFinal)

/-- Every delivery of the run so far, oldest first. -/
def StreamHistory.delivered (h : StreamHistory) : List QuicStreamDelivery :=
  h.taken ++ h.layer.deliveries.toList

/-- A peer that sends one content of one length. -/
structure PeerStreams where
  content : Nat → Nat → UInt8
  size : Nat → Nat

/-- The frame's bytes are the stream's, and it ends where the stream does
if it carries the FIN. -/
structure PeerStreams.Sends (peer : PeerStreams) (frame : QuicStreamFrame) :
    Prop where
  agrees : (QuicFragment.mk frame.offset frame.data).Agrees (peer.content frame.streamId)
  inside : frame.offset + frame.data.length ≤ peer.size frame.streamId
  final : frame.isFinal = true → frame.offset + frame.data.length = peer.size frame.streamId

/-- What the application must have been handed on one stream. -/
def DeliversPrefix (content : Nat → UInt8) (size : Nat)
    (frames : List QuicStreamFrame) (deliveries : List QuicStreamDelivery) :
    Prop :=
  ∃ n, (∀ x, x < n → ReceivedAt frames x) ∧ ¬ ReceivedAt frames n ∧
    deliveredBytes deliveries = contentSlice content 0 n ∧
    finalMarkCount deliveries =
      if FinReceived frames ∧ n = size then 1 else 0

/-! ## The record of one stream -/

variable {stream : IncomingStream}

section OneStream

variable {content : Nat → UInt8} {size : Nat}
  {frames : List QuicStreamFrame} {deliveries : List QuicStreamDelivery}

structure StreamIntact (content : Nat → UInt8) (size : Nat)
    (frames : List QuicStreamFrame) (deliveries : List QuicStreamDelivery)
    (stream : IncomingStream) : Prop where
  unreset : stream.isReset = false
  agrees : stream.reassembly.Agrees content
  covered : ∀ x, ReceivedAt frames x ↔
    x < stream.reassembly.deliveredOffset ∨ stream.reassembly.Holds x
  stopped : ¬ stream.reassembly.Holds stream.reassembly.deliveredOffset
  bytes : deliveredBytes deliveries = contentSlice content 0 stream.reassembly.deliveredOffset
  inside : ∀ x, ReceivedAt frames x → x < size
  final : stream.finalOffset = if FinReceived frames then some size else none
  finished : stream.isFinished = true ↔ stream.finalOffset = some stream.reassembly.deliveredOffset
  marked : stream.isFinalDelivered = stream.isFinished
  marks : finalMarkCount deliveries = if stream.isFinished then 1 else 0

/-- A stream that arrived, and was delivered, in full. -/
structure StreamDone (content : Nat → UInt8) (size : Nat)
    (frames : List QuicStreamFrame) (deliveries : List QuicStreamDelivery) :
    Prop where
  fin : FinReceived frames
  all : ∀ x, ReceivedAt frames x ↔ x < size
  bytes : deliveredBytes deliveries = contentSlice content 0 size
  marks : finalMarkCount deliveries = 1

theorem contentSlice_self (content : Nat → UInt8) (a : Nat) : contentSlice content a a = [] := by
  simp [contentSlice]

theorem receivedAt_append (frames : List QuicStreamFrame) (frame : QuicStreamFrame) (x : Nat) :
    ReceivedAt (frames ++ [frame]) x ↔ ReceivedAt frames x ∨
      (frame.offset ≤ x ∧ x < frame.offset + frame.data.length) := by
  simp only [ReceivedAt, mem_append, mem_singleton, or_and_right, exists_or, exists_eq_left]

theorem finReceived_append (frames : List QuicStreamFrame) (frame : QuicStreamFrame) :
    FinReceived (frames ++ [frame]) ↔ FinReceived frames ∨ frame.isFinal := by
  simp only [FinReceived, mem_append, mem_singleton, or_and_right, exists_or, exists_eq_left]

theorem deliveredBytes_append (a b : List QuicStreamDelivery) :
    deliveredBytes (a ++ b) = deliveredBytes a ++ deliveredBytes b := by
  simp [deliveredBytes]

theorem finalMarkCount_append (a b : List QuicStreamDelivery) :
    finalMarkCount (a ++ b) = finalMarkCount a + finalMarkCount b := by
  simp [finalMarkCount]

theorem StreamIntact.fresh (content : Nat → UInt8) (size streamLimit : Nat) :
    StreamIntact content size [] [] { streamLimit := streamLimit } where
  unreset := rfl
  agrees := empty_agrees
  covered := fun x => by
    constructor
    · rintro ⟨f, hf, _⟩
      exact absurd hf not_mem_nil
    rintro (h | h)
    · exact absurd h (Nat.not_lt_zero x)
    · exact absurd h (empty_not_holds x)
  stopped := empty_not_holds _
  bytes := (contentSlice_self content 0).symm
  inside := by
    rintro x ⟨f, hf, _⟩
    exact absurd hf not_mem_nil
  final := by simp [FinReceived]
  finished := by simp
  marked := rfl
  marks := rfl

theorem StreamIntact.continues {a b : IncomingStream}
    (h : StreamIntact content size frames deliveries a) (hcont : a.Continues b) :
    StreamIntact content size frames deliveries b := by
  obtain ⟨hr, _, _, hf, hfin, hmark, hreset, _⟩ := hcont
  refine ⟨?_, ?_, ?_, ?_, ?_, h.inside, ?_, ?_, ?_, ?_⟩
  · rw [hreset]; exact h.unreset
  · rw [hr]; exact h.agrees
  · rw [hr]; exact h.covered
  · rw [hr]; exact h.stopped
  · rw [hr]; exact h.bytes
  · rw [hf]; exact h.final
  · rw [hfin, hf, hr]; exact h.finished
  · rw [hmark, hfin]; exact h.marked
  · rw [hfin]; exact h.marks

theorem StreamIntact.size_eq (h : StreamIntact content size frames deliveries stream)
    (hfin : stream.isFinished) :
    FinReceived frames ∧ stream.reassembly.deliveredOffset = size := by
  have hfinal := h.finished.mp hfin
  rw [h.final] at hfinal
  split at hfinal
  · next hrec => exact ⟨hrec, (Option.some.inj hfinal).symm⟩
  · cases hfinal

theorem StreamIntact.done (h : StreamIntact content size frames deliveries stream)
    (hfin : stream.isFinished) : StreamDone content size frames deliveries where
  fin := (h.size_eq hfin).1
  all := fun x => by
    have hsize := (h.size_eq hfin).2
    refine ⟨h.inside x, fun hx => (h.covered x).mpr (.inl ?_)⟩
    omega
  bytes := (h.size_eq hfin).2 ▸ h.bytes
  marks := by rw [h.marks, if_pos hfin]

theorem StreamIntact.delivers (h : StreamIntact content size frames deliveries stream) :
    DeliversPrefix content size frames deliveries := by
  refine ⟨stream.reassembly.deliveredOffset,
    fun x hx => (h.covered x).mpr (.inl hx), ?_, h.bytes, ?_⟩
  · rw [h.covered]
    rintro (hlt | hheld)
    · exact absurd hlt (Nat.lt_irrefl _)
    · exact h.stopped hheld
  rw [h.marks]
  by_cases hfin : stream.isFinished
  · rw [if_pos hfin, if_pos (h.size_eq hfin)]
  rw [if_neg hfin, if_neg]
  rintro ⟨hrec, hsize⟩
  refine hfin (h.finished.mpr ?_)
  rw [h.final, if_pos hrec, hsize]

theorem StreamDone.delivers (h : StreamDone content size frames deliveries) :
    DeliversPrefix content size frames deliveries := by
  refine ⟨size, fun x hx => (h.all x).mpr hx, ?_, h.bytes, ?_⟩
  · rw [h.all]
    exact Nat.lt_irrefl size
  · rw [h.marks, if_pos ⟨h.fin, rfl⟩]

theorem StreamDone.late (h : StreamDone content size frames deliveries) {frame : QuicStreamFrame}
    (hinside : frame.offset + frame.data.length ≤ size) :
    StreamDone content size (frames ++ [frame]) deliveries where
  fin := (finReceived_append _ _).mpr (.inl h.fin)
  all := fun x => by
    rw [receivedAt_append, h.all]
    omega
  bytes := h.bytes
  marks := h.marks

end OneStream

namespace QuicStreamLayer

/-! ## One STREAM frame -/

section Frame

variable {content : Nat → UInt8} {size : Nat}
  {frames : List QuicStreamFrame} {deliveries : List QuicStreamDelivery}
  {layer : QuicStreamLayer} {stream : IncomingStream}
  {frame : QuicStreamFrame}

/-- What a drain adds to the delivery queue, and what it does to the
record. -/
theorem drainContiguousBytes_spec (layer : QuicStreamLayer)
    (stream : IncomingStream) (streamId : Nat) (hmark : stream.isFinalDelivered = false) :
    ∃ added : List QuicStreamDelivery,
      (layer.drainContiguousBytes stream streamId).2.deliveries.toList =
        layer.deliveries.toList ++ added ∧
      (∀ d ∈ added, d.streamId = streamId) ∧
      deliveredBytes added = stream.reassembly.drain.1 ∧
      finalMarkCount added =
        (if stream.finalOffset = some stream.reassembly.drain.2.deliveredOffset then 1 else 0) ∧
      (layer.drainContiguousBytes stream streamId).1 =
        { stream with
          reassembly := stream.reassembly.drain.2
          isFinalDelivered := decide (stream.finalOffset = some
            stream.reassembly.drain.2.deliveredOffset) } := by
  unfold drainContiguousBytes
  dsimp only
  split
  · next hnone =>
    have hnot : stream.finalOffset ≠ some stream.reassembly.drain.2.deliveredOffset := by
      intro hfin
      exact hnone.2 ⟨by simpa using hfin, hmark⟩
    refine ⟨[], by simp, by simp, hnone.1.symm, ?_, ?_⟩
    · rw [if_neg hnot]
      rfl
    · rw [decide_eq_false hnot, ← hmark]
  · refine ⟨_, PendingQueue.toList_pushBack _ _, ?_, ?_, ?_, ?_⟩
    · intro d hd
      rw [mem_singleton.mp hd]
    · simp [deliveredBytes]
    · simp [finalMarkCount, countP_cons]
    · rw [hmark]
      simp

theorem storeStreamFrame_deliveries (layer : QuicStreamLayer)
    (stream : IncomingStream) (frame : QuicStreamFrame)
    (hmark : stream.isFinalDelivered = false) :
    ∃ added : List QuicStreamDelivery, (layer.storeStreamFrame stream frame).deliveries.toList =
        layer.deliveries.toList ++ added ∧
      (∀ d ∈ added, d.streamId = frame.streamId) ∧
      let buffer := (stream.reassembly.insert frame.offset frame.data).drain
      deliveredBytes added = buffer.1 ∧
      finalMarkCount added =
        (if stream.finalOffset = some buffer.2.deliveredOffset
          then 1 else 0) ∧
      ∃ stream', (layer.storeStreamFrame stream frame).incoming.find?
          frame.streamId = some stream' ∧
        stream'.isReset = stream.isReset ∧
        stream'.reassembly = buffer.2 ∧
        stream'.finalOffset = stream.finalOffset ∧
        stream'.isFinalDelivered =
          decide (stream.finalOffset = some buffer.2.deliveredOffset) ∧
        stream'.isFinished = (stream.isFinished ||
          decide (stream.finalOffset = some buffer.2.deliveredOffset)) := by
  obtain ⟨added, htoList, hids, hbytes, hmarks, hrecord⟩ := drainContiguousBytes_spec
      { layer with
        connectionReceivedBytes := layer.connectionReceivedBytes +
          (frame.offset + frame.data.length - stream.receivedHighWaterOffset) }
      { stream with
        receivedHighWaterOffset := stream.receivedHighWaterOffset +
          (frame.offset + frame.data.length - stream.receivedHighWaterOffset)
        reassembly := stream.reassembly.insert frame.offset frame.data }
      frame.streamId hmark
  refine ⟨added, htoList, hids, hbytes, hmarks, ?_⟩
  unfold storeStreamFrame
  dsimp only
  rw [hrecord]
  refine ⟨_, SortedMap.find?_insert_self _ _ _, ?_⟩
  by_cases hfin : stream.finalOffset = some
    (stream.reassembly.insert frame.offset frame.data).drain.2.deliveredOffset
  · simp [hfin]
  · simp [hfin]

theorem StreamIntact.store (h : StreamIntact content size frames deliveries stream)
    (hopen : stream.isFinished = false)
    (hagrees : (QuicFragment.mk frame.offset frame.data).Agrees content)
    (hinside : frame.offset + frame.data.length ≤ size)
    (hfinal : frame.isFinal → frame.offset + frame.data.length = size)
    (layer : QuicStreamLayer) : let updated:=
      if frame.isFinal then
        { stream with finalOffset := some (frame.offset + frame.data.length) }
      else stream
    ∃ added stream', (layer.storeStreamFrame updated frame).deliveries.toList =
        layer.deliveries.toList ++ added ∧
      (∀ d ∈ added, d.streamId = frame.streamId) ∧
      (layer.storeStreamFrame updated frame).incoming.find? frame.streamId = some stream' ∧
      StreamIntact content size (frames ++ [frame]) (deliveries ++ added)
        stream' := by
  intro updated
  have hreassembly : updated.reassembly = stream.reassembly := by
    simp only [updated]; split <;> rfl
  have hreset : updated.isReset = stream.isReset := by
    simp only [updated]; split <;> rfl
  have hfinished : updated.isFinished = false := by
    simp only [updated]; split <;> exact hopen
  have hmark : updated.isFinalDelivered = false := by
    have hold : stream.isFinalDelivered = false := by rw [h.marked, hopen]
    simp only [updated]; split <;> exact hold
  have hfin : updated.finalOffset =
      if FinReceived (frames ++ [frame]) then some size else none := by
    by_cases hf : frame.isFinal
    · simp only [updated, if_pos hf]
      rw [if_pos ((finReceived_append _ _).mpr (.inr hf)), hfinal hf]
    have hsame : FinReceived (frames ++ [frame]) ↔ FinReceived frames :=
      (finReceived_append _ _).trans (or_iff_left hf)
    simp only [updated, if_neg hf, h.final, hsame]
  obtain ⟨added, htoList, hids, hbytes, hmarks, stream', hfind, hs1, hs2,
    hs3, hs4, hs5⟩ := storeStreamFrame_deliveries layer updated frame hmark
  rw [hreassembly] at hbytes hmarks hs2 hs4 hs5
  have hagrees' : (stream.reassembly.insert frame.offset frame.data).Agrees
      content := insert_agrees h.agrees hagrees
  refine ⟨added, stream', htoList, hids, hfind, ?_⟩
  have hcovered : ∀ x, ReceivedAt (frames ++ [frame]) x ↔
      x < stream'.reassembly.deliveredOffset ∨ stream'.reassembly.Holds x := by
    intro x
    rw [hs2, drain_holds, insert_holds, insert_deliveredOffset, receivedAt_append, h.covered]
    constructor
    · rintro ((hx | hx) | hx)
      · exact .inl hx
      · exact .inr (.inl hx)
      by_cases hlt : x < stream.reassembly.deliveredOffset
      · exact .inl hlt
      · exact .inr (.inr ⟨by omega, hx⟩)
    · rintro (hx | hx | hx)
      · exact .inl (.inl hx)
      · exact .inl (.inr hx)
      · exact .inr hx.2
  refine ⟨?_, ?_, hcovered, ?_, ?_, ?_, ?_, ?_, ?_, ?_⟩
  · rw [hs1, hreset]; exact h.unreset
  · rw [hs2]; exact drain_agrees hagrees'
  · rw [hs2]; exact drain_stops
  · have hle := drain_deliveredOffset_le (b := stream.reassembly.insert frame.offset frame.data)
    rw [insert_deliveredOffset] at hle
    rw [deliveredBytes_append, h.bytes, hbytes, drain_bytes hagrees', insert_deliveredOffset, hs2]
    exact contentSlice_append content (Nat.zero_le _) hle
  · intro x hx
    rcases (receivedAt_append _ _ _).mp hx with hx | hx
    · exact h.inside x hx
    · omega
  · rw [hs3]; exact hfin
  · rw [hs5, hs3, hfinished, hs2]
    simp
  · rw [hs4, hs5, hfinished]
    simp
  · rw [finalMarkCount_append, h.marks, hmarks, hs5, hfinished, hopen]
    by_cases hend : updated.finalOffset = some (stream.reassembly.insert
      frame.offset frame.data).drain.2.deliveredOffset <;> simp [hend]

/-- On a record a frame is dropped when the stream is finished and stored
otherwise, unless it is a violation. -/
theorem StreamIntact.receive (h : StreamIntact content size frames deliveries stream)
    (hagrees : (QuicFragment.mk frame.offset frame.data).Agrees content)
    (hinside : frame.offset + frame.data.length ≤ size)
    (hfinal : frame.isFinal → frame.offset + frame.data.length = size)
    {layer : QuicStreamLayer} (hok : (layer.receiveStreamFrame stream frame).1 = .ok ()) :
    ∃ added stream', (layer.receiveStreamFrame stream frame).2.deliveries.toList =
        layer.deliveries.toList ++ added ∧
      (∀ d ∈ added, d.streamId = frame.streamId) ∧
      (layer.receiveStreamFrame stream frame).2.incoming.find? frame.streamId = some stream' ∧
      StreamIntact content size (frames ++ [frame]) (deliveries ++ added)
        stream' := by
  unfold receiveStreamFrame at hok ⊢
  rw [if_neg (by simp [h.unreset])] at hok ⊢
  split at hok
  · cases hok
  next h1 =>
  split at hok
  · cases hok
  next h2 =>
  split at hok
  · cases hok
  next h3 =>
  split at hok
  · cases hok
  next h4 =>
  rw [if_neg h1, if_neg h2, if_neg h3, if_neg h4]
  by_cases hfin : stream.isFinished
  · have hupdated : (if frame.isFinal = true then
        { stream with finalOffset := some (frame.offset + frame.data.length) }
        else stream).isFinished := by split <;> exact hfin
    rw [if_pos hupdated]
    have hdone := h.done hfin
    refine ⟨[], _, (append_nil _).symm, by simp, SortedMap.find?_insert_self _ _ _, ?_⟩
    rw [append_nil]
    have hsame : (if frame.isFinal = true then
        { stream with finalOffset := some (frame.offset + frame.data.length) }
        else stream) = stream := by
      split
      · next hf =>
        have hoff : stream.finalOffset = some size := by
          rw [h.final, if_pos hdone.fin]
        rw [hfinal hf, ← hoff]
      · rfl
    rw [hsame]
    have hlate := hdone.late hinside
    refine ⟨h.unreset, h.agrees, ?_, h.stopped, h.bytes, ?_, ?_, h.finished, h.marked, h.marks⟩
    · intro x
      rw [← h.covered, hlate.all, hdone.all]
    · exact fun x hx => (hlate.all x).mp hx
    · rw [h.final, if_pos hdone.fin, if_pos hlate.fin]
  · have hopen : stream.isFinished = false := by simpa using hfin
    have hupdated : ¬ (if frame.isFinal = true then
        { stream with finalOffset := some (frame.offset + frame.data.length) }
        else stream).isFinished := by split <;> exact hfin
    rw [if_neg hupdated]
    exact StreamIntact.store h hopen hagrees hinside hfinal layer

end Frame

end QuicStreamLayer

open QuicStreamLayer

/-! ## The run -/

section Run

variable {peer : PeerStreams} {h : StreamHistory} {streamId : Nat}

/-- What the layer knows of a peer's stream. -/
inductive StreamKnown (peer : PeerStreams) (h : StreamHistory)
    (streamId : Nat) : Prop
  | held (stream : IncomingStream) (find : h.layer.incoming.find? streamId = some stream)
      (intact : StreamIntact (peer.content streamId) (peer.size streamId)
        (framesOf h.received streamId) (deliveriesOf h.delivered streamId)
        stream)
  | unseen (find : h.layer.incoming.find? streamId = none)
      (frames : framesOf h.received streamId = [])
      (deliveries : deliveriesOf h.delivered streamId = [])
  | retired (find : h.layer.incoming.find? streamId = none)
      (done : StreamDone (peer.content streamId) (peer.size streamId)
        (framesOf h.received streamId) (deliveriesOf h.delivered streamId))
      (below : h.layer.isStreamSideRetired streamId true = true)

/-- A first frame finds its stream's number above the retired boundary. -/
def FirstFrameAboveBoundary (h : StreamHistory) (frame : QuicStreamFrame) :
    Prop :=
  framesOf h.received frame.streamId = [] →
    h.layer.isPeerStreamSideRetired frame.streamId true = false

/-- The peer sends one content for each stream it opens. -/
def PeerConsistent (peer : PeerStreams) (h : StreamHistory) : StreamEvent → Prop
  | .streamFrame frame =>
    h.layer.isLocallyInitiated frame.streamId = false → peer.Sends frame
  | _ => True

/-- Every first STREAM frame of a peer's stream meets the condition. -/
def FirstFramesAboveBoundary (h : StreamHistory) : StreamEvent → Prop
  | .streamFrame frame =>
    h.layer.isLocallyInitiated frame.streamId = false → FirstFrameAboveBoundary h frame
  | _ => True

/-- The streams the invariant is about: opened by the peer and not reset
by it. -/
def PeerStreamsKnown (peer : PeerStreams) (h : StreamHistory) : Prop :=
  ∀ streamId, h.layer.isLocallyInitiated streamId = false →
    (∀ r ∈ h.resets, r.streamId ≠ streamId) → StreamKnown peer h streamId

theorem StreamKnown.delivers (hk : StreamKnown peer h streamId) :
    DeliversPrefix (peer.content streamId) (peer.size streamId)
      (framesOf h.received streamId) (deliveriesOf h.delivered streamId) := by
  cases hk with
  | held stream _ intact => exact intact.delivers
  | unseen _ frames deliveries =>
    rw [frames, deliveries]
    exact (StreamIntact.fresh _ _ 0).delivers
  | retired _ done _ => exact done.delivers

variable {h' : StreamHistory}

theorem StreamKnown.of_alike (hk : StreamKnown peer h streamId)
    (halike : QuicStreamLayer.ReceivesAlike h.layer h'.layer)
    (hreceived : h'.received = h.received) (htaken : h'.taken = h.taken) :
    StreamKnown peer h' streamId := by
  have hdelivered : h'.delivered = h.delivered := by
    simp only [delivered, htaken, halike.deliveries]
  cases hk with
  | held stream find intact =>
    obtain ⟨stream', hfind', hcont⟩ := halike.kept streamId stream find
    refine .held stream' hfind' ?_
    rw [hreceived, hdelivered]
    exact intact.continues hcont
  | unseen find frames deliveries =>
    exact .unseen (halike.fresh streamId find) (hreceived ▸ frames) (hdelivered ▸ deliveries)
  | retired find done below =>
    refine .retired (halike.fresh streamId find) ?_ ?_
    · rw [hreceived, hdelivered]
      exact done
    · rw [halike.remembers.isStreamSideRetired]
      exact below

theorem StreamKnown.of_retires (hk : StreamKnown peer h streamId)
    (hretires : QuicStreamLayer.RetiresIncoming h.layer h'.layer)
    (hreceived : h'.received = h.received) (htaken : h'.taken = h.taken) :
    StreamKnown peer h' streamId := by
  have hdelivered : h'.delivered = h.delivered := by
    simp only [delivered, htaken, hretires.deliveries]
  cases hk with
  | held stream find intact =>
    cases hfind' : h'.layer.incoming.find? streamId with
    | some stream' =>
      have heq := hretires.kept streamId stream' hfind'
      rw [find] at heq
      injection heq with heq
      subst heq
      refine .held stream hfind' ?_
      rw [hreceived, hdelivered]
      exact intact
    | none =>
      obtain ⟨hsettled, hbelow⟩ := hretires.settled streamId stream find hfind'
      have hfin : stream.isFinished := by
        unfold isIncomingSettled at hsettled
        rw [intact.unreset] at hsettled
        cases hf : stream.isFinished with
        | true => rfl
        | false => simp [hf] at hsettled
      refine .retired hfind' ?_ hbelow
      rw [hreceived, hdelivered]
      exact intact.done hfin
  | unseen find frames deliveries =>
    exact .unseen (hretires.fresh find) (hreceived ▸ frames) (hdelivered ▸ deliveries)
  | retired find done below =>
    refine .retired (hretires.fresh find) ?_ (hretires.monotone streamId below)
    rw [hreceived, hdelivered]
    exact done

theorem StreamKnown.of_other {other : Nat}
    (hk : StreamKnown peer h streamId) (hne : streamId ≠ other)
    (honly : QuicStreamLayer.OnlyStream other h.layer h'.layer)
    (hreceived : framesOf h'.received streamId = framesOf h.received streamId)
    (htaken : h'.taken = h.taken) : StreamKnown peer h' streamId := by
  have hfind := honly.others streamId hne
  have hdelivered : deliveriesOf h'.delivered streamId = deliveriesOf h.delivered streamId := by
    obtain ⟨added, hadded, hids⟩ := honly.added
    have hnone : deliveriesOf added streamId = [] := by
      refine filter_eq_nil_iff.mpr fun d hd => ?_
      rw [hids d hd]
      simpa using Ne.symm hne
    simp only [delivered, htaken, hadded, deliveriesOf, filter_append] at hnone ⊢
    rw [hnone, append_nil]
  have hretired := honly.remembers.isStreamSideRetired streamId
  cases hk with
  | held stream find intact =>
    exact .held stream (hfind.trans find) (by rw [hreceived, hdelivered]; exact intact)
  | unseen find frames deliveries =>
    exact .unseen (hfind.trans find) (hreceived.trans frames) (hdelivered.trans deliveries)
  | retired find done below =>
    exact .retired (hfind.trans find)
      (by rw [hreceived, hdelivered]; exact done) (hretired.trans below)

theorem StreamKnown.of_frame {frame : QuicStreamFrame} (hk : StreamKnown peer h frame.streamId)
    (hpeer : h.layer.isLocallyInitiated frame.streamId = false)
    (hok : (h.layer.onStreamFrame frame).1 = .ok ())
    (hsends : peer.Sends frame) (habove : FirstFrameAboveBoundary h frame) :
    StreamKnown peer (h.step (.streamFrame frame)) frame.streamId := by
  have hreceived : framesOf (h.step (.streamFrame frame)).received
      frame.streamId = framesOf h.received frame.streamId ++ [frame] := by
    show framesOf (h.received ++ [frame]) frame.streamId = _
    simp [framesOf]
  -- the record the frame is checked against, once there is one
  have hrecord : ∀ (layer : QuicStreamLayer) (stream : IncomingStream),
      h.layer.onStreamFrame frame = layer.receiveStreamFrame stream frame →
      layer.deliveries.toList = h.layer.deliveries.toList →
      StreamIntact (peer.content frame.streamId) (peer.size frame.streamId)
        (framesOf h.received frame.streamId)
        (deliveriesOf h.delivered frame.streamId) stream →
      StreamKnown peer (h.step (.streamFrame frame)) frame.streamId := by
    intro layer stream heq hdel intact
    rw [heq] at hok
    obtain ⟨added, stream', hadded, hids, hfind', hintact'⟩ :=
      QuicStreamLayer.StreamIntact.receive intact hsends.agrees hsends.inside hsends.final hok
    have hlayer : (h.step (.streamFrame frame)).layer = (layer.receiveStreamFrame stream frame).2 :=
      congrArg Prod.snd heq
    refine .held stream' (by rw [hlayer]; exact hfind') ?_
    have hdelivered : deliveriesOf (h.step (.streamFrame frame)).delivered
        frame.streamId = deliveriesOf h.delivered frame.streamId ++ added := by
      have hall : deliveriesOf added frame.streamId = added :=
        filter_eq_self.mpr fun d hd => by simpa using hids d hd
      have hdel' : (h.step (.streamFrame frame)).delivered = h.delivered ++ added := by
        show h.taken ++ (h.step (.streamFrame frame)).layer.deliveries.toList =
          h.taken ++ h.layer.deliveries.toList ++ added
        rw [hlayer, hadded, hdel, append_assoc]
      rw [hdel', deliveriesOf, filter_append]
      exact congrArg _ hall
    rw [hreceived, hdelivered]
    exact hintact'
  cases hk with
  | held stream find intact =>
    refine hrecord h.layer stream ?_ rfl intact
    unfold onStreamFrame admitStreamFrame
    simp only [find]
  | unseen find frames deliveries =>
    have hnot := habove frames
    have hlocal : h.layer.isLocalBidiStreamSideRetired frame.streamId true =
        false := by
      simp [isLocalBidiStreamSideRetired, hpeer]
    by_cases hlimit : streamIndexOfType frame.streamId ≥ h.layer.advertisedStreamsOf frame.streamId
    · unfold onStreamFrame admitStreamFrame at hok
      simp [find, hnot, hlocal, hpeer, hlimit, makeViolation] at hok
    have hadmitted : h.layer.admitStreamFrame frame.streamId =
        .admitted (h.layer.createIncomingStream frame.streamId) := by
      unfold admitStreamFrame
      simp [find, hnot, hlocal, hpeer, hlimit]
    refine hrecord (h.layer.createIncomingStream frame.streamId)
      { streamLimit := h.layer.incomingInitialWindowOf frame.streamId }
      ?_ ?_ ?_
    · unfold onStreamFrame
      simp only [hadmitted, createIncomingStream_find h.layer find]
    · rw [(createIncomingStream_frame h.layer frame.streamId).1]
    · rw [frames, deliveries]
      exact .fresh _ _ _
  | retired find done below =>
    have hdrop : h.layer.onStreamFrame frame = (.ok (), h.layer) := by
      unfold onStreamFrame admitStreamFrame
      rw [isStreamSideRetired_of_peer hpeer] at below
      simp only [find, below, if_true]
    have hlayer : (h.step (.streamFrame frame)).layer = h.layer := congrArg Prod.snd hdrop
    refine .retired (by rw [hlayer]; exact find) ?_ (by rw [hlayer]; exact below)
    rw [hreceived]
    have hdelivered : (h.step (.streamFrame frame)).delivered =
        h.delivered := by
      show h.taken ++ (h.step (.streamFrame frame)).layer.deliveries.toList =
        h.taken ++ h.layer.deliveries.toList
      rw [hlayer]
    rw [hdelivered]
    exact done.late hsends.inside

theorem PeerStreamsKnown.of_alike (hinv : PeerStreamsKnown peer h)
    (halike : QuicStreamLayer.ReceivesAlike h.layer h'.layer)
    (hreceived : h'.received = h.received) (htaken : h'.taken = h.taken)
    (hresets : h'.resets = h.resets) : PeerStreamsKnown peer h' := by
  intro streamId hpeer hnoReset
  rw [halike.remembers.isLocallyInitiated] at hpeer
  rw [hresets] at hnoReset
  exact (hinv streamId hpeer hnoReset).of_alike halike hreceived htaken

theorem PeerStreamsKnown.receivesNothing {e : StreamEvent}
    (hinv : PeerStreamsKnown peer h) (he : e.receivesNothing) :
    PeerStreamsKnown peer (h.step e) :=
  have hsame := h.step_receivesNothing he
  hinv.of_alike (h.step_receivesAlike he) hsame.received hsame.taken hsame.resets

theorem PeerStreamsKnown.start (peer : PeerStreams)
    (parameters : QuicTransportParameters) (role : QuicConnectionRole) :
    PeerStreamsKnown peer (.start parameters role) := fun _ _ _ => .unseen rfl rfl rfl

theorem PeerStreamsKnown.step {e : StreamEvent}
    (hinv : PeerStreamsKnown peer h) (hregular : h.Regular e)
    (hpeerOk : PeerConsistent peer h e) (habove : FirstFramesAboveBoundary h e) :
    PeerStreamsKnown peer (h.step e) := by
  cases e with
  | streamFrame frame =>
    have honly := QuicStreamLayer.OnlyStream.onStreamFrame h.layer frame
    intro streamId hpeer hnoReset
    have hpeer' : h.layer.isLocallyInitiated streamId = false := by
      rw [← honly.remembers.isLocallyInitiated]
      exact hpeer
    have hknown := hinv streamId hpeer' hnoReset
    by_cases heq : streamId = frame.streamId
    · subst heq
      exact hknown.of_frame hpeer' hregular.1 (hpeerOk hpeer') (habove hpeer')
    refine hknown.of_other heq honly ?_ rfl
    show framesOf (h.received ++ [frame]) streamId = _
    simp [framesOf, Ne.symm heq]
  | resetStreamFrame frame =>
    have honly := QuicStreamLayer.OnlyStream.onResetStreamFrame h.layer frame
    intro streamId hpeer hnoReset
    have hpeer' : h.layer.isLocallyInitiated streamId = false := by
      rw [← honly.remembers.isLocallyInitiated]
      exact hpeer
    have hresets : ∀ r ∈ h.resets ++ [frame], r.streamId ≠ streamId := hnoReset
    refine (hinv streamId hpeer' fun r hr =>
      hresets r (mem_append_left _ hr)).of_other (Ne.symm (hresets frame (by simp))) honly rfl rfl
  | collectFrames frames byteBudget =>
    obtain ⟨retired, hretires, halike⟩ := collectFrames_receiving h.layer frames byteBudget
    rw [← step_collectFrames] at halike
    intro streamId hpeer hnoReset
    rw [halike.remembers.isLocallyInitiated, hretires.isLocallyInitiated] at hpeer
    have hmid : StreamKnown peer { h with layer := retired } streamId :=
      (hinv streamId hpeer hnoReset).of_retires hretires rfl rfl
    exact StreamKnown.of_alike hmid halike rfl rfl
  | takeDelivery =>
    intro streamId hpeer hnoReset
    have htake := PendingQueue.takeFront_toList h.layer.deliveries
    have hdelivered : (h.step .takeDelivery).delivered = h.delivered := by
      show h.taken ++ h.layer.deliveries.takeFront.1.toList ++
        h.layer.deliveries.takeFront.2.toList = _
      rw [htake.1, htake.2, delivered, append_assoc]
      cases h.layer.deliveries.toList <;> rfl
    cases hinv streamId hpeer hnoReset with
    | held stream find intact =>
      exact .held stream find (by rw [hdelivered]; exact intact)
    | unseen find frames deliveries =>
      exact .unseen find frames (by rw [hdelivered]; exact deliveries)
    | retired find done below =>
      exact .retired find (by rw [hdelivered]; exact done) below
  | _ => exact hinv.receivesNothing rfl

end Run

/-- A server with generous windows, for concrete runs. -/
def exampleParameters : QuicTransportParameters where
  initialMaximumData := 100
  initialMaximumStreamDataBidirectionalLocal := 100
  initialMaximumStreamDataBidirectionalRemote := 100
  initialMaximumStreamDataUnidirectional := 100
  initialMaximumBidirectionalStreams := 10
  initialMaximumUnidirectionalStreams := 10

/-- Streams of one byte each, the byte being 7. -/
def examplePeer : PeerStreams where
  content := fun _ _ => 7
  size := fun _ => 1

theorem examplePeer_sends (streamId : Nat) : examplePeer.Sends ⟨streamId, 0, [7], true⟩ where
  agrees := by
    intro i hi
    have hzero : i = 0 := by
      simp only [length_singleton] at hi
      omega
    subst hzero
    rfl
  inside := Nat.le_refl _
  final := fun _ => rfl

/-- In every run in which each first STREAM frame of a peer's stream finds
the stream's number above the retired boundary, each stream delivers at
every moment the longest contiguous prefix of what arrived, and the final
mark exactly once, with the last byte. -/
theorem delivers_prefix {peer : PeerStreams}
    {parameters : QuicTransportParameters} {role : QuicConnectionRole}
    {h : StreamHistory}
    (hreach : StreamHistory.Reachable parameters role
      (fun h e => PeerConsistent peer h e ∧ FirstFramesAboveBoundary h e) h)
    {streamId : Nat} (hpeer : h.layer.isLocallyInitiated streamId = false)
    (hnoReset : ∀ r ∈ h.resets, r.streamId ≠ streamId) :
    DeliversPrefix (peer.content streamId) (peer.size streamId)
      (framesOf h.received streamId) (deliveriesOf h.delivered streamId) := by
  have hinv : PeerStreamsKnown peer h := hreach.invariant (.start peer parameters role)
      fun h e hinv ok => hinv.step ok.1 ok.2.1 ok.2.2
  exact (hinv streamId hpeer hnoReset).delivers

theorem delivers_prefix_single :
    DeliversPrefix (fun _ => 7) 1 [⟨0, 0, [7], true⟩] [⟨0, [7], true⟩] :=
  @ delivers_prefix examplePeer exampleParameters .server
    ((start exampleParameters .server).step (.streamFrame ⟨0, 0, [7], true⟩))
    (.next .start ⟨by decide, fun _ => examplePeer_sends 0, fun _ _ => by decide⟩)
    0 (by decide) (by decide)

/-- Stream 4 arrives, is consumed and retired before the first frame of
stream 0. The boundary then covers stream 0 too. -/
def overtakingRun : List StreamEvent :=
  [.streamFrame ⟨4, 0, [7], true⟩, .releaseReceiveWindow 4 1,
    .collectFrames [] 1200, .streamFrame ⟨0, 0, [7], true⟩]

/-- The whole of stream 0 arrives and nothing of it is delivered. -/
theorem retired_boundary_drops_stream : ∃ h, StreamHistory.Reachable exampleParameters .server
        (PeerConsistent examplePeer) h ∧
      h.layer.isLocallyInitiated 0 = false ∧ h.resets = [] ∧
      ¬ DeliversPrefix (examplePeer.content 0) (examplePeer.size 0)
        (framesOf h.received 0) (deliveriesOf h.delivered 0) := by
  refine ⟨overtakingRun.foldl step
    (.start exampleParameters .server), Reach.run .start _ ?_, ?_, rfl, ?_⟩
  · exact ⟨⟨by decide, fun _ => examplePeer_sends 4⟩, ⟨by decide, trivial⟩,
      ⟨by decide, trivial⟩, ⟨by decide, fun _ => examplePeer_sends 0⟩, trivial⟩
  · decide
  have hframes : framesOf (overtakingRun.foldl step
      (.start exampleParameters .server)).received 0 = [⟨0, 0, [7], true⟩] := by decide
  have hdeliveries : deliveriesOf (overtakingRun.foldl step
      (.start exampleParameters .server)).delivered 0 = [] := by decide
  rw [hframes, hdeliveries]
  rintro ⟨n, _, hstop, hbytes, _⟩
  have hlength := congrArg length hbytes
  simp only [deliveredBytes, contentSlice, map_nil, flatten_nil,
    length_nil, length_map, length_range'] at hlength
  have hzero : n = 0 := by omega
  subst hzero
  exact hstop ⟨_, mem_singleton_self _, by decide⟩

end AsynGyanis.Quic
