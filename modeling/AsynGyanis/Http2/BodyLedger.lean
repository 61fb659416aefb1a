import AsynGyanis.Http2.StreamSteps
import AsynGyanis.Http2.ResponseOrder

/-!
# Body bytes and the windows they go through

The body of a response passes three accounts. What was accepted on a stream
is what was emitted and what its record still queues; the stream's send
window and the bytes emitted on it add up to the peer's initial window and
the increments it granted; and the same holds for the connection with its
65535 bytes. `BodiesSound` states the three for a ledger, and the moves
keep it: quiet moves do not touch the accounts (`BodyAlike`), a grant is
booked on both sides, and a DATA frame takes its bytes out of the queue and
out of both windows.

A failed connection sends nothing more, so from then on only the bounds
are kept, not the equations.
-/

namespace AsynGyanis.Http2

open Library Relation List ResponsesOrdered SortedMap StreamLedger

/-! ## Observations -/

/-- The increments granted for a stream; 0 is the connection. -/
def grantedOn (streamId : Nat) (granted : List (Nat × Nat)) : Nat :=
  (granted.map fun grant => if grant.1 = streamId then grant.2 else 0).sum

@[simp] theorem grantedOn_append (streamId : Nat) (a b : List (Nat × Nat)) :
    grantedOn streamId (a ++ b) = grantedOn streamId a + grantedOn streamId b := by
  simp [grantedOn]

theorem grantedOn_self (streamId increment : Nat) :
    grantedOn streamId [(streamId, increment)] = increment := by
  simp [grantedOn]

variable {streamId : Nat}

theorem grantedOn_other {other increment : Nat}
    (h : streamId ≠ other) : grantedOn other [(streamId, increment)] = 0 := by
  simp [grantedOn, h]

/-- The body bytes a frame carries. -/
def OutgoingFrame.bodyByteCount : OutgoingFrame → Nat
  | .data _ payload _ => payload.length
  | _ => 0

def bodyByteCount (frames : List OutgoingFrame) : Nat :=
  (frames.map OutgoingFrame.bodyByteCount).sum

@[simp] theorem bodyByteCount_append (a b : List OutgoingFrame) :
    bodyByteCount (a ++ b) = bodyByteCount a + bodyByteCount b := by
  simp [bodyByteCount]

/-- Frames without DATA among them. -/
def Dataless (frames : List OutgoingFrame) : Prop := ∀ f ∈ frames, ∀ streamId payload endStream,
    f ≠ .data streamId payload endStream

theorem Dataless.nil : Dataless [] := fun _ hf => absurd hf not_mem_nil

theorem Dataless.append {a b : List OutgoingFrame} (ha : Dataless a)
    (hb : Dataless b) : Dataless (a ++ b) := fun f hf =>
  (mem_append.mp hf).elim (ha f) (hb f)

theorem Dataless.singleton {f : OutgoingFrame}
    (h : ∀ streamId payload endStream, f ≠ .data streamId payload endStream) : Dataless [f] :=
  fun _ hg => mem_singleton.mp hg ▸ h

variable {frames : List OutgoingFrame}

theorem dataless_of_isPlain (h : ∀ f ∈ frames, f.isPlain) : Dataless frames:= by
  rintro f hf streamId payload endStream rfl
  cases h _ hf

theorem Dataless.bodyOn (h : Dataless frames)
    (streamId : Nat) : Http2.bodyOn streamId frames = [] := by
  refine flatMap_eq_nil_iff.mpr fun f hf => ?_
  cases f with
  | data id payload endStream =>
    exact absurd rfl (h _ hf id payload endStream)
  | _ => rfl

theorem Dataless.bodyByteCount (h : Dataless frames) : Http2.bodyByteCount frames = 0 := by
  refine List.sum_eq_zero fun count hcount => ?_
  obtain ⟨f, hf, rfl⟩ := mem_map.mp hcount
  cases f with
  | data id payload endStream =>
    exact absurd rfl (h _ hf id payload endStream)
  | _ => rfl

theorem bodyOn_data_self (streamId : Nat) (payload : Bytes) (endStream : Bool) :
    bodyOn streamId [.data streamId payload endStream] = payload := by
  simp [bodyOn, OutgoingFrame.bodyOn]

theorem bodyOn_data_other {other : Nat} (payload : Bytes)
    (endStream : Bool) (h : streamId ≠ other) :
    bodyOn other [.data streamId payload endStream] = [] := by
  simp [bodyOn, OutgoingFrame.bodyOn, h]

theorem bodyByteCount_data (streamId : Nat) (payload : Bytes) (endStream : Bool) :
    bodyByteCount [.data streamId payload endStream] = payload.length := by
  simp [bodyByteCount, OutgoingFrame.bodyByteCount]

/-! ## Moves that leave the accounts alone -/

/-- A record that lost its queue with its stream, or kept what the accounts
depend on. -/
def StreamRecord.BodyKept (old new : StreamRecord) : Prop :=
  (new.state = .closed ∧ new.sendQueue.remaining = []) ∨
    (new.sendQueue = old.sendQueue ∧ new.isEndStreamPending = old.isEndStreamPending ∧
      new.sendWindowByteCount = old.sendWindowByteCount ∧
      (new.state = .closed ↔ old.state = .closed))

theorem StreamRecord.BodyKept.refl (stream : StreamRecord) : stream.BodyKept stream :=
  .inr ⟨rfl, rfl, rfl, Iff.rfl⟩

theorem StreamRecord.Touches.bodyKept {old new : StreamRecord}
    (h : old.Touches new) : old.BodyKept new := by
  refine .inr ⟨h.queue, h.pending, h.window, ?_⟩
  rcases h.state with hsame | ⟨hopen, hhalf | hhalf⟩
  · rw [hsame]
  · rw [hopen, hhalf]
    decide
  · rw [hopen, hhalf]
    decide

structure BodyAlike (l l' : StreamLedger) : Prop where
  emitted : ∃ frames, l'.emitted = l.emitted ++ frames ∧ Dataless frames
  accepted : l'.accepted = l.accepted
  granted : l'.granted = l.granted
  settings : l'.peerSettings = l.peerSettings
  window : l'.connectionSendWindowByteCount = l.connectionSendWindowByteCount
  highest : l'.highestPeerStreamId = l.highestPeerStreamId
  alive : l'.state ≠ .failed → l.state ≠ .failed
  records : ∀ {streamId new}, l'.streams.find? streamId = some new →
    ∃ old, l.streams.find? streamId = some old ∧ old.BodyKept new

variable {l l' : StreamLedger}

theorem BodyAlike.of_emitting
    (hemitted : l'.emitted = l.emitted ++ frames) (hframes : Dataless frames)
    (haccepted : l'.accepted = l.accepted) (hgranted : l'.granted = l.granted)
    (hsettings : l'.peerSettings = l.peerSettings)
    (hwindow : l'.connectionSendWindowByteCount = l.connectionSendWindowByteCount)
    (hhighest : l'.highestPeerStreamId = l.highestPeerStreamId)
    (hstreams : l'.streams = l.streams)
    (halive : l'.state ≠ .failed → l.state ≠ .failed) : BodyAlike l l' where
  emitted := ⟨frames, hemitted, hframes⟩
  accepted := haccepted
  granted := hgranted
  settings := hsettings
  window := hwindow
  highest := hhighest
  alive := halive
  records := fun {streamId new} hnew => by
    rw [hstreams] at hnew
    exact ⟨new, hnew, .refl new⟩

theorem BodyAlike.remember (l : StreamLedger) (streamId : Nat) :
    BodyAlike l (l.remember streamId) := by
  rw [StreamLedger.remember_eq]
  refine ⟨⟨[], (List.append_nil _).symm, .nil⟩, rfl, rfl, rfl, rfl, rfl, id,
    fun {other record} hrecord => ?_⟩
  simp only [StreamLedger.remember] at hrecord
  exact ⟨record, Http2Connection.find?_of_find?_foldl_erase _ hrecord, .refl record⟩

theorem QuietMove.bodyAlike (h : QuietMove l l') : BodyAlike l l' := by
  have hnothing : l.emitted = l.emitted ++ [] := (append_nil _).symm
  cases h with
  | emit frames hplain =>
    exact .of_emitting rfl (dataless_of_isPlain hplain) rfl rfl rfl rfl rfl
      rfl id
  | enter state henters =>
    refine .of_emitting hnothing .nil rfl rfl rfl rfl rfl rfl fun _ hfailed => ?_
    rw [hfailed] at henters
    cases henters
  | announce debugData hopen =>
    refine .of_emitting rfl (.singleton fun _ _ _ => by simp) rfl rfl rfl
      rfl rfl rfl fun _ hfailed => ?_
    rw [hopen] at hfailed
    cases hfailed
  | fail errorCode debugData halive =>
    exact .of_emitting rfl (.singleton fun _ _ _ => by simp) rfl rfl rfl rfl
      rfl rfl fun _ => halive
  | beginBlock | endBlock | request =>
    exact .of_emitting hnothing .nil rfl rfl rfl rfl rfl rfl id
  | touch streamId old new hold htouches =>
    refine ⟨⟨[], hnothing, .nil⟩, rfl, rfl, rfl, rfl, rfl, id, fun {other record} hrecord => ?_⟩
    simp only [setStream, find?_insert] at hrecord
    split at hrecord
    · next heq =>
      injection hrecord with hrecord
      subst heq hrecord
      exact ⟨old, hold, htouches.bodyKept⟩
    · exact ⟨record, hrecord, .refl record⟩
  | terminate streamId old termination hold hopen =>
    rw [remember_eq]
    refine ⟨⟨[], hnothing, .nil⟩, rfl, rfl, rfl, rfl, rfl, id, fun {other record} hrecord => ?_⟩
    simp only [remember] at hrecord
    have hset := Http2Connection.find?_of_find?_foldl_erase _ hrecord
    simp only [setStream, find?_insert] at hset
    split at hset
    · next heq =>
      injection hset with hset
      subst heq hset
      exact ⟨old, hold, .inl ⟨rfl, rfl⟩⟩
    · exact ⟨record, hset, .refl record⟩

/-! ## The accounts -/

/-- What a record says about the bytes of its stream. -/
structure RecordBody (l : StreamLedger) (streamId : Nat)
    (stream : StreamRecord) : Prop where
  finished : stream.state = .closed → stream.sendQueue.remaining = []
  queued : stream.state ≠ .closed → acceptedOn streamId l.accepted =
      bodyOn streamId l.emitted ++ stream.sendQueue.remaining
  window : stream.state ≠ .closed → l.state ≠ .failed →
    stream.sendWindowByteCount + (bodyOn streamId l.emitted).length =
      l.peerInitialWindowSize + grantedOn streamId l.granted

structure BodiesSound (l : StreamLedger) : Prop where
  frameSize : kHttp2DefaultMaximumFrameSize ≤ l.peerMaximumFrameSize
  known : ∀ {streamId stream}, l.streams.find? streamId = some stream →
    0 < streamId ∧ streamId ≤ l.highestPeerStreamId
  record : ∀ {streamId stream}, l.streams.find? streamId = some stream →
    RecordBody l streamId stream
  sent : ∀ streamId, bodyOn streamId l.emitted <+: acceptedOn streamId l.accepted
  fresh : ∀ {streamId}, l.highestPeerStreamId < streamId →
    bodyOn streamId l.emitted = [] ∧ acceptedOn streamId l.accepted = [] ∧
      (l.state ≠ .failed → grantedOn streamId l.granted = 0)
  window : 0 ≤ l.connectionSendWindowByteCount
  balance : l.state ≠ .failed → l.connectionSendWindowByteCount + bodyByteCount l.emitted =
      kHttp2InitialWindowSizeByteCount + grantedOn 0 l.granted
  bounded : bodyByteCount l.emitted ≤ kHttp2InitialWindowSizeByteCount + grantedOn 0 l.granted

variable {stream : StreamRecord}

namespace BodiesSound

variable {l l' : StreamLedger}

theorem of_alike (h : BodiesSound l) (halike : BodyAlike l l') : BodiesSound l' := by
  obtain ⟨frames, hemitted, hdataless⟩ := halike.emitted
  have hbody : ∀ streamId, bodyOn streamId l'.emitted = bodyOn streamId l.emitted := by
    intro streamId
    rw [hemitted, bodyOn_append, hdataless.bodyOn, append_nil]
  have htotal : bodyByteCount l'.emitted = bodyByteCount l.emitted := by
    rw [hemitted, bodyByteCount_append, hdataless.bodyByteCount, add_zero]
  have hinitial : l'.peerInitialWindowSize = l.peerInitialWindowSize := by
    simp only [peerInitialWindowSize, halike.settings]
  constructor
  · have hsize := h.frameSize
    simp only [peerMaximumFrameSize] at hsize ⊢
    rw [halike.settings]
    exact hsize
  · intro streamId new hnew
    obtain ⟨old, hold, _⟩ := halike.records hnew
    rw [halike.highest]
    exact h.known hold
  · intro streamId new hnew
    obtain ⟨old, hold, hkept⟩ := halike.records hnew
    have hrecord := h.record hold
    rcases hkept with ⟨hclosed, hempty⟩ | ⟨hqueue, _, hwindow, hiff⟩
    · exact ⟨fun _ => hempty, fun hopen => absurd hclosed hopen, fun hopen => absurd hclosed hopen⟩
    refine ⟨fun hclosed => ?_, fun hopen => ?_, fun hopen halive => ?_⟩
    · rw [hqueue]
      exact hrecord.finished (hiff.mp hclosed)
    · rw [hqueue, hbody, halike.accepted]
      exact hrecord.queued fun hclosed => hopen (hiff.mpr hclosed)
    · rw [hwindow, hbody, hinitial, halike.granted]
      exact hrecord.window (fun hclosed => hopen (hiff.mpr hclosed)) (halike.alive halive)
  · intro streamId
    rw [hbody, halike.accepted]
    exact h.sent streamId
  · intro streamId hhigh
    rw [halike.highest] at hhigh
    obtain ⟨hnothing, hnone, hgranted⟩ := h.fresh hhigh
    rw [hbody, halike.accepted, halike.granted]
    exact ⟨hnothing, hnone, fun halive => hgranted (halike.alive halive)⟩
  · rw [halike.window]
    exact h.window
  · intro halive
    rw [halike.window, htotal, halike.granted]
    exact h.balance (halike.alive halive)
  · rw [htotal, halike.granted]
    exact h.bounded

/-! ## Grants -/

/-- Records that differ in nothing but the window, with a new initial window
and new increments. -/
theorem of_windows (h : BodiesSound l) (hemitted : l'.emitted = l.emitted)
    (haccepted : l'.accepted = l.accepted)
    (hhighest : l'.highestPeerStreamId = l.highestPeerStreamId)
    (hsize : kHttp2DefaultMaximumFrameSize ≤ l'.peerMaximumFrameSize)
    (hrecords : ∀ {streamId new}, l'.streams.find? streamId = some new →
      ∃ old, l.streams.find? streamId = some old ∧
        new.sendQueue = old.sendQueue ∧ new.state = old.state ∧
        (new.state ≠ .closed → l'.state ≠ .failed →
          new.sendWindowByteCount + (bodyOn streamId l.emitted).length =
            l'.peerInitialWindowSize + grantedOn streamId l'.granted))
    (hfresh : ∀ {streamId}, l.highestPeerStreamId < streamId →
      l'.state ≠ .failed → grantedOn streamId l'.granted = 0)
    (hwindow : 0 ≤ l'.connectionSendWindowByteCount)
    (hbalance : l'.state ≠ .failed → l'.connectionSendWindowByteCount + bodyByteCount l.emitted =
        kHttp2InitialWindowSizeByteCount + grantedOn 0 l'.granted)
    (hbounded : bodyByteCount l.emitted ≤
      kHttp2InitialWindowSizeByteCount + grantedOn 0 l'.granted) :
    BodiesSound l' := by
  refine ⟨hsize, fun hnew => ?_, fun hnew => ?_, fun streamId => ?_,
    fun hhigh => ?_, hwindow, hemitted ▸ hbalance, hemitted ▸ hbounded⟩
  · obtain ⟨old, hold, _⟩ := hrecords hnew
    rw [hhighest]
    exact h.known hold
  · obtain ⟨old, hold, hqueue, hstate, hnewWindow⟩ := hrecords hnew
    have hrecord := h.record hold
    refine ⟨fun hclosed => ?_, fun hopen => ?_, ?_⟩
    · rw [hqueue]
      exact hrecord.finished (hstate ▸ hclosed)
    · rw [hqueue, hemitted, haccepted]
      exact hrecord.queued (hstate ▸ hopen)
    · rw [hemitted]
      exact hnewWindow
  · rw [hemitted, haccepted]
    exact h.sent streamId
  · rw [hhighest] at hhigh
    obtain ⟨hnothing, hnone, _⟩ := h.fresh hhigh
    rw [hemitted, haccepted]
    exact ⟨hnothing, hnone, hfresh hhigh⟩

variable {streamId : Nat}

theorem keeps (h : BodiesSound l) (hstream : l.streams.find? streamId = some stream)
    (halive : l'.state ≠ .failed → l.state ≠ .failed)
    (hinitial : l'.peerInitialWindowSize = l.peerInitialWindowSize)
    (hgranted : grantedOn streamId l'.granted = grantedOn streamId l.granted) :
    ∃ old, l.streams.find? streamId = some old ∧
      stream.sendQueue = old.sendQueue ∧ stream.state = old.state ∧
      (stream.state ≠ .closed → l'.state ≠ .failed →
        stream.sendWindowByteCount + (bodyOn streamId l.emitted).length =
          l'.peerInitialWindowSize + grantedOn streamId l'.granted) := by
  refine ⟨stream, hstream, rfl, rfl, fun hopen halive' => ?_⟩
  rw [hinitial, hgranted]
  exact (h.record hstream).window hopen (halive halive')

theorem grant (h : BodiesSound l) (hmove : GrantMove l l') : BodiesSound l' := by
  have hwindow := h.window
  have hbalance := h.balance
  have hbounded := h.bounded
  cases hmove with
  | quiet hquiet => exact h.of_alike hquiet.bodyAlike
  | connection increment =>
    have hzero : grantedOn 0 [(0, increment)] = increment := grantedOn_self 0 increment
    have hother : ∀ {streamId}, 0 < streamId →
        grantedOn streamId (l.granted ++ [(0, increment)]) = grantedOn streamId l.granted := by
      intro streamId hpositive
      rw [grantedOn_append, grantedOn_other (ne_of_lt hpositive), add_zero]
    refine h.of_windows rfl rfl rfl h.frameSize (fun hnew => ?_)
      (fun hhigh halive => ?_) ?_ (fun halive => ?_) ?_
    · exact h.keeps hnew id rfl (hother (h.known hnew).1)
    · exact (hother (lt_of_le_of_lt (Nat.zero_le _) hhigh)).trans ((h.fresh hhigh).2.2 halive)
    · show 0 ≤ l.connectionSendWindowByteCount + increment
      omega
    · have hbefore := hbalance halive
      show l.connectionSendWindowByteCount + increment +
        bodyByteCount l.emitted = _ + ((grantedOn 0 (l.granted ++ _) : Nat) : Int)
      rw [grantedOn_append, hzero]
      omega
    · rw [show granted _ = l.granted ++ [(0, increment)] from rfl, grantedOn_append, hzero]
      omega
  | stream streamId old increment hid hold =>
    have hzero : grantedOn 0 (l.granted ++ [(streamId, increment)]) = grantedOn 0 l.granted := by
      rw [grantedOn_append, grantedOn_other hid, add_zero]
    refine h.of_windows rfl rfl rfl h.frameSize
      (fun {other new} hnew => ?_) (fun {other} hhigh halive => ?_) hwindow
      (fun halive => ?_) ?_
    · simp only [setStream, find?_insert] at hnew
      split at hnew
      · next heq =>
        injection hnew with hnew
        subst heq hnew
        refine ⟨old, hold, rfl, rfl, fun hopen halive => ?_⟩
        have hbefore := (h.record hold).window hopen halive
        show old.sendWindowByteCount + increment + _ = _ +
          ((grantedOn other (l.granted ++ _) : Nat) : Int)
        rw [grantedOn_append, grantedOn_self]
        show old.sendWindowByteCount + increment + _ = (l.peerInitialWindowSize : Int) + _
        omega
      · next hne =>
        refine h.keeps hnew id rfl ?_
        show grantedOn other (l.granted ++ _) = _
        rw [grantedOn_append, grantedOn_other (Ne.symm hne), add_zero]
    · have hne : streamId ≠ other := by
        rintro rfl
        exact absurd (h.known hold).2 (Nat.not_le_of_lt hhigh)
      show grantedOn other (l.granted ++ _) = 0
      rw [grantedOn_append, grantedOn_other hne, (h.fresh hhigh).2.2 halive]
    · show l.connectionSendWindowByteCount + _ = _ + ((grantedOn 0 (l.granted ++ _) : Nat) : Int)
      rw [hzero]
      exact hbalance halive
    · show _ ≤ _ + grantedOn 0 (l.granted ++ _)
      rw [hzero]
      exact hbounded
  | spent streamId increment hover =>
    have hmore : grantedOn 0 l.granted ≤ grantedOn 0 (l.granted ++ [(streamId, increment)]) := by
      rw [grantedOn_append]
      omega
    have hunused : l.state ≠ .failed → streamId ≠ 0 ∧ streamId ≤ l.highestPeerStreamId ∧
        ∀ stream, l.streams.find? streamId = some stream → stream.state = .closed := fun halive =>
      hover.resolve_left halive
    refine h.of_windows rfl rfl rfl h.frameSize
      (fun {other new} hnew => ?_) (fun {other} hhigh halive => ?_) hwindow
      (fun halive => ?_) ?_
    · refine ⟨new, hnew, rfl, rfl, fun hopen halive => ?_⟩
      have hbefore := (h.record hnew).window hopen halive
      have hne : streamId ≠ other := by
        rintro rfl
        exact hopen ((hunused halive).2.2 new hnew)
      show new.sendWindowByteCount + _ = _ + ((grantedOn other (l.granted ++ _) : Nat) : Int)
      rw [grantedOn_append, grantedOn_other hne, add_zero]
      exact hbefore
    · have hne : streamId ≠ other := by
        rintro rfl
        exact absurd (hunused halive).2.1 (Nat.not_le_of_lt hhigh)
      show grantedOn other (l.granted ++ _) = 0
      rw [grantedOn_append, grantedOn_other hne, (h.fresh hhigh).2.2 halive]
    · show l.connectionSendWindowByteCount + _ = _ + ((grantedOn 0 (l.granted ++ _) : Nat) : Int)
      rw [grantedOn_append, grantedOn_other (hunused halive).1, add_zero]
      exact hbalance halive
    · show _ ≤ _ + grantedOn 0 (l.granted ++ _)
      omega
  | initialWindow value streams hshift =>
    have hinitial : peerInitialWindowSize { l with
        streams := streams
        peerSettings := l.peerSettings.insert
          Http2SettingIdentifier.initialWindowSize value } = value := by
      simp [peerInitialWindowSize, find?_insert_self]
    refine h.of_windows rfl rfl rfl ?_ (fun {other new} hnew => ?_)
      (fun hhigh halive => (h.fresh hhigh).2.2 halive) hwindow hbalance
      hbounded
    · simp only [peerMaximumFrameSize]
      rw [find?_insert_of_ne _ _ (by decide)]
      exact h.frameSize
    have hnew : streams.find? other = some new := hnew
    rw [hshift, Option.map_eq_some_iff] at hnew
    obtain ⟨old, hold, rfl⟩ := hnew
    refine ⟨old, hold, ?_, ?_, fun hopen halive => ?_⟩
    · unfold StreamRecord.shift
      split <;> rfl
    · unfold StreamRecord.shift
      split <;> rfl
    have hold_open : old.state ≠ .closed := by
      intro hclosed
      rw [StreamRecord.shift, if_pos hclosed] at hopen
      exact hopen hclosed
    have hbefore := (h.record hold).window hold_open halive
    rw [hinitial, StreamRecord.shift, if_neg hold_open]
    show old.sendWindowByteCount + _ + _ = (value : Int) + ((grantedOn other l.granted : Nat) : Int)
    omega
  | setting identifier value hother hsize =>
    have hinitial : peerInitialWindowSize { l with
        peerSettings := l.peerSettings.insert identifier value } =
          l.peerInitialWindowSize := by
      simp only [peerInitialWindowSize]
      rw [find?_insert_of_ne _ _ (Ne.symm hother)]
    refine h.of_windows rfl rfl rfl ?_ (fun hnew => ?_)
      (fun hhigh halive => (h.fresh hhigh).2.2 halive) hwindow hbalance
      hbounded
    · simp only [peerMaximumFrameSize, find?_insert]
      split
      · next heq => exact hsize heq.symm
      · exact h.frameSize
    · exact h.keeps hnew id hinitial rfl
  | spoil streams hfailed hsame =>
    refine h.of_windows rfl rfl rfl h.frameSize (fun {other new} hnew => ?_)
      (fun hhigh halive => absurd hfailed halive) hwindow hbalance hbounded
    have hnew : streams.find? other = some new := hnew
    have hrel := hsame other
    rw [hnew] at hrel
    cases hold : l.streams.find? other with
    | none =>
      rw [hold] at hrel
      cases hrel
    | some old =>
      rw [hold] at hrel
      cases hrel with
      | some hwindow =>
        refine ⟨old, rfl, ?_, ?_, fun _ halive => absurd hfailed halive⟩
        · rw [hwindow]
        · rw [hwindow]

/-! ## DATA -/

/-- A DATA frame takes its bytes out of what the record queues, or out of a
piece accepted just now, and out of both windows. -/
theorem emitting (h : BodiesSound l) {old : StreamRecord} (new : StreamRecord) (payload : Bytes)
    {endStream : Bool} (halive : l.state ≠ .failed) (hold : l.streams.find? streamId = some old)
    (hopen : old.state ≠ .closed) (hstate : new.state = old.state)
    (hwindow : new.sendWindowByteCount = old.sendWindowByteCount - payload.length)
    (hfits : (payload.length : Int) ≤ l.connectionSendWindowByteCount)
    (hemitted : l'.emitted = l.emitted ++ [.data streamId payload endStream])
    (hstreams : l'.streams = l.streams.insert streamId new)
    (hconnection : l'.connectionSendWindowByteCount =
      l.connectionSendWindowByteCount - payload.length)
    (haccepted : acceptedOn streamId l'.accepted =
      bodyOn streamId l.emitted ++ payload ++ new.sendQueue.remaining)
    (hothers : ∀ other, other ≠ streamId →
      acceptedOn other l'.accepted = acceptedOn other l.accepted)
    (hhighest : l'.highestPeerStreamId = l.highestPeerStreamId)
    (hsettings : l'.peerSettings = l.peerSettings)
    (hgranted : l'.granted = l.granted) : BodiesSound l' := by
  have hbody : bodyOn streamId l'.emitted = bodyOn streamId l.emitted ++ payload := by
    rw [hemitted, bodyOn_append, bodyOn_data_self]
  have hbodyOther : ∀ other, other ≠ streamId →
      bodyOn other l'.emitted = bodyOn other l.emitted := by
    intro other hne
    rw [hemitted, bodyOn_append, bodyOn_data_other _ _ (Ne.symm hne), append_nil]
  have htotal : bodyByteCount l'.emitted = bodyByteCount l.emitted + payload.length := by
    rw [hemitted, bodyByteCount_append, bodyByteCount_data]
  have hinitial : l'.peerInitialWindowSize = l.peerInitialWindowSize := by
    simp only [peerInitialWindowSize, hsettings]
  have hbalance := h.balance halive
  refine ⟨?_, fun {other record} hrecord => ?_, fun {other record} hrecord => ?_, fun other => ?_,
    fun {other} hhigh => ?_, ?_, fun _ => ?_, ?_⟩
  · have hsize := h.frameSize
    simp only [peerMaximumFrameSize] at hsize ⊢
    rw [hsettings]
    exact hsize
  · rw [hstreams, find?_insert] at hrecord
    rw [hhighest]
    split at hrecord
    · next heq => exact heq ▸ h.known hold
    · exact h.known hrecord
  · rw [hstreams, find?_insert] at hrecord
    split at hrecord
    · next heq =>
      injection hrecord with hrecord
      subst heq hrecord
      refine ⟨fun hclosed => absurd (hstate ▸ hclosed) hopen, fun _ => ?_, fun _ _ => ?_⟩
      · rw [haccepted, hbody]
      have hbefore := (h.record hold).window hopen halive
      rw [hwindow, hbody, hinitial, hgranted, length_append]
      omega
    · next hne =>
      have hkept := h.record hrecord
      refine ⟨hkept.finished, fun hrecordOpen => ?_, fun hrecordOpen _ => ?_⟩
      · rw [hothers other hne, hbodyOther other hne]
        exact hkept.queued hrecordOpen
      · rw [hbodyOther other hne, hinitial, hgranted]
        exact hkept.window hrecordOpen halive
  · by_cases heq : other = streamId
    · subst heq
      rw [haccepted, hbody]
      exact prefix_append _ _
    · rw [hothers other heq, hbodyOther other heq]
      exact h.sent other
  · rw [hhighest] at hhigh
    have hne : other ≠ streamId := by
      rintro rfl
      exact absurd (h.known hold).2 (Nat.not_le_of_lt hhigh)
    obtain ⟨hnothing, hnone, hnever⟩ := h.fresh hhigh
    rw [hothers other hne, hbodyOther other hne, hgranted]
    exact ⟨hnothing, hnone, fun _ => hnever halive⟩
  · omega
  · rw [hconnection, htotal, hgranted]
    omega
  · rw [htotal, hgranted]
    omega

theorem open_of_queued (h : BodiesSound l) (hstream : l.streams.find? streamId = some stream)
    (hqueued : stream.sendQueue.remaining ≠ []) : stream.state ≠ .closed :=
  fun hclosed => hqueued ((h.record hstream).finished hclosed)

theorem send (h : BodiesSound l) (hmove : SendMove l l') : BodiesSound l' := by
  cases hmove with
  | quiet hquiet => exact h.of_alike hquiet.bodyAlike
  | segment streamId old byteCount endStream isEndStreamPending halive hold
    hqueued hinside hend hfits =>
      have hopen := h.open_of_queued hold hqueued
      have hlength : (old.sendQueue.remaining.take byteCount).length =
          byteCount := length_take_of_le hinside
      refine h.emitting { old with
          sendQueue := old.sendQueue.consume byteCount
          sendWindowByteCount := old.sendWindowByteCount - byteCount
          isEndStreamPending := isEndStreamPending }
        (old.sendQueue.remaining.take byteCount) halive hold hopen rfl ?_ ?_
        rfl rfl ?_ ?_ (fun _ _ => rfl) rfl rfl rfl
      · rw [hlength]
      · rw [hlength]
        exact hfits.2.1
      · rw [hlength]
      · show acceptedOn streamId l.accepted = _
        rw [(h.record hold).queued hopen, SendQueue.remaining_consume,
          append_assoc, take_append_drop]
  | ending streamId old halive hold hopen hempty =>
    refine h.emitting { old with isEndStreamPending := false } [] halive
      hold hopen rfl ?_ h.window rfl rfl ?_ ?_ (fun _ _ => rfl) rfl rfl rfl
    · show old.sendWindowByteCount = old.sendWindowByteCount - ((0 : Nat) : Int)
      omega
    · show l.connectionSendWindowByteCount = l.connectionSendWindowByteCount - ((0 : Nat) : Int)
      omega
    · show acceptedOn streamId l.accepted = _
      rw [(h.record hold).queued hopen, append_nil]

theorem accept (h : BodiesSound l) (hmove : Accepts l l') : BodiesSound l' := by
  cases hmove with
  | queue streamId old data isEndStreamPending halive hold hopen hlocal =>
    refine ⟨h.frameSize, fun {other record} hrecord => ?_,
      fun {other record} hrecord => ?_, fun other => ?_,
      fun {other} hhigh => ?_, h.window, h.balance, h.bounded⟩
    · simp only [setStream, find?_insert] at hrecord
      split at hrecord
      · next heq =>
        subst heq
        exact h.known hold
      · exact h.known hrecord
    · simp only [setStream, find?_insert] at hrecord
      split at hrecord
      · next heq =>
        injection hrecord with hrecord
        subst heq hrecord
        refine ⟨fun hclosed => absurd hclosed hopen, fun _ => ?_, (h.record hold).window⟩
        rw [show acceptedOn other _ = acceptedOn other (l.accepted ++ [(other, data)]) from rfl,
          acceptedOn_self, (h.record hold).queued hopen,
          SendQueue.remaining_append, append_assoc]
        rfl
      · next hne =>
        have hkept := h.record hrecord
        refine ⟨hkept.finished, fun hrecordOpen => ?_, hkept.window⟩
        rw [show acceptedOn other _ = acceptedOn other (l.accepted ++ [(streamId, data)]) from rfl,
          acceptedOn_other data hne]
        exact hkept.queued hrecordOpen
    · show bodyOn other l.emitted <+: acceptedOn other (l.accepted ++ [(streamId, data)])
      rw [acceptedOn_append]
      exact (h.sent other).trans (prefix_append _ _)
    · obtain ⟨hnothing, hnone, hnever⟩ := h.fresh hhigh
      have hne : other ≠ streamId := by
        rintro rfl
        exact absurd (h.known hold).2 (Nat.not_le_of_lt hhigh)
      refine ⟨hnothing, ?_, hnever⟩
      show acceptedOn other (l.accepted ++ [(streamId, data)]) = []
      rw [acceptedOn_other data hne]
      exact hnone
  | direct streamId old data endStream halive hold hopen hlocal hempty hfits =>
      refine h.emitting { old with
          sendWindowByteCount := old.sendWindowByteCount - data.length }
        data halive hold hopen rfl rfl hfits.2.1 rfl rfl rfl ?_
        (fun other hne => acceptedOn_other data hne) rfl rfl
        rfl
      show acceptedOn streamId (l.accepted ++ [(streamId, data)]) = _
      rw [acceptedOn_self, (h.record hold).queued hopen, hempty, append_nil, append_nil]

/-! ## New streams -/

theorem refused (h : BodiesSound l) (hfresh : l.highestPeerStreamId < streamId) :
    BodiesSound (({ l with highestPeerStreamId := streamId }.emit
      [.rstStream streamId .refusedStream]).setStream streamId
        { state := .closed, termination := .resetByLocal }) := by
  have hreset : ∀ other, bodyOn other (l.emitted ++
      [.rstStream streamId .refusedStream]) = bodyOn other l.emitted := by
    intro other
    rw [bodyOn_append]
    exact List.append_nil _
  have htotal : bodyByteCount (l.emitted ++
      [.rstStream streamId .refusedStream]) = bodyByteCount l.emitted := by
    rw [bodyByteCount_append]
    rfl
  refine ⟨h.frameSize, fun {other record} hrecord => ?_,
    fun {other record} hrecord => ?_, fun other => ?_,
    fun {other} hhigh => ?_, h.window, fun halive => ?_, ?_⟩
  · simp only [StreamLedger.setStream, StreamLedger.emit, SortedMap.find?_insert] at hrecord
    show 0 < other ∧ other ≤ streamId
    split at hrecord
    · omega
    · have hused := h.known hrecord
      omega
  · simp only [StreamLedger.setStream, StreamLedger.emit, SortedMap.find?_insert] at hrecord
    split at hrecord
    · injection hrecord with hrecord
      subst hrecord
      exact ⟨fun _ => rfl, fun hopen => absurd rfl hopen, fun hopen => absurd rfl hopen⟩
    have hkept := h.record hrecord
    refine ⟨hkept.finished, fun hopen => ?_, fun hopen halive => ?_⟩
    · show _ = bodyOn other (l.emitted ++ _) ++ _
      rw [hreset]
      exact hkept.queued hopen
    show _ + ((bodyOn other (l.emitted ++ _)).length : Int) = _
    rw [hreset]
    exact hkept.window hopen halive
  · show bodyOn other (l.emitted ++ _) <+: _
    rw [hreset]
    exact h.sent other
  · obtain ⟨hnothing, hrest⟩ := h.fresh (lt_trans hfresh hhigh)
    refine ⟨?_, hrest⟩
    show bodyOn other (l.emitted ++ _) = []
    rw [hreset]
    exact hnothing
  · show _ + ((bodyByteCount (l.emitted ++ _) : Nat) : Int) = _
    rw [htotal]
    exact h.balance halive
  · show bodyByteCount (l.emitted ++ _) ≤ _
    rw [htotal]
    exact h.bounded

theorem begin (h : BodiesSound l) (hmove : Begins l l') : BodiesSound l' := by
  cases hmove with
  | openStream streamId receiveWindow hfresh hclosing halive hroom =>
    obtain ⟨hnothing, hnone, hnever⟩ := h.fresh hfresh
    refine ⟨h.frameSize, fun {other record} hrecord => ?_,
      fun {other record} hrecord => ?_, h.sent, fun {other} hhigh => ?_,
      h.window, h.balance, h.bounded⟩
    · simp only [setStream, find?_insert] at hrecord
      show 0 < other ∧ other ≤ streamId
      split at hrecord
      · omega
      · have hused := h.known hrecord
        omega
    · simp only [setStream, find?_insert] at hrecord
      split at hrecord
      · next heq =>
        injection hrecord with hrecord
        subst heq hrecord
        refine ⟨fun hclosed => Http2StreamState.noConfusion hclosed, fun _ => ?_, fun _ _ => ?_⟩
        · show acceptedOn other l.accepted = bodyOn other l.emitted ++ []
          rw [hnothing, hnone, append_nil]
        show (l.peerInitialWindowSize : Int) + (bodyOn other l.emitted).length =
          l.peerInitialWindowSize + grantedOn other l.granted
        rw [hnothing, hnever halive]
        rfl
      · have hkept := h.record hrecord
        exact ⟨hkept.finished, hkept.queued, hkept.window⟩
    · exact h.fresh (lt_trans hfresh hhigh)
  | refuse streamId hfresh =>
    refine of_alike (refused h hfresh) (.remember _ streamId)

theorem sends (h : BodiesSound l) (hsends : Sends l l') : BodiesSound l' :=
  keeps_of_moves (fun _ _ hmove hbefore => hbefore.send hmove) hsends h

theorem grants (h : BodiesSound l) (hgrants : Grants l l') : BodiesSound l' :=
  keeps_of_moves (fun _ _ hmove hbefore => hbefore.grant hmove) hgrants h

theorem step (h : BodiesSound l) (hmoves : StepMoves l l') : BodiesSound l' :=
  hmoves.keeps (fun _ _ hmove hbefore => hbefore.begin hmove)
    (fun _ _ hmove hbefore => hbefore.accept hmove)
    (fun _ _ hmove hbefore => hbefore.grant hmove)
    (fun _ _ hmove hbefore => hbefore.send hmove) h

end BodiesSound

/-! ## What one event emits -/

/-- A payload emitted after `before` fits a frame, and if it is not empty
it fits the windows. -/
structure StreamLedger.Inside (l : StreamLedger)
    (before : List OutgoingFrame) (streamId : Nat) (payload : Bytes) :
    Prop where
  frame : payload.length ≤ l.peerMaximumFrameSize
  stream : payload ≠ [] → (bodyOn streamId before).length + payload.length ≤
      l.peerInitialWindowSize + grantedOn streamId l.granted
  connection : payload ≠ [] → bodyByteCount before + payload.length ≤
      kHttp2InitialWindowSizeByteCount + grantedOn 0 l.granted

/-- Every DATA frame emitted after `emitted` was inside when it went out. -/
def StreamLedger.Metered (l : StreamLedger) (emitted : List OutgoingFrame) :
    Prop :=
  ∃ frames, l.emitted = emitted ++ frames ∧ ∀ earlier streamId payload endStream later,
      frames = earlier ++ .data streamId payload endStream :: later →
      l.Inside (emitted ++ earlier) streamId payload

namespace StreamLedger.Metered

variable {l l' : StreamLedger} {emitted : List OutgoingFrame}

theorem of_dataless (hemitted : l.emitted = emitted ++ frames) (h : Dataless frames) :
    l.Metered emitted := by
  refine ⟨frames, hemitted, ?_⟩
  rintro earlier streamId payload endStream later rfl
  exact absurd rfl (h _ (mem_append_right _ mem_cons_self) streamId payload endStream)

theorem of_data {payload : Bytes} {endStream : Bool}
    (hemitted : l.emitted = emitted ++ [.data streamId payload endStream])
    (h : l.Inside emitted streamId payload) : l.Metered emitted := by
  refine ⟨_, hemitted, fun earlier streamId' payload' endStream' later heq =>
    ?_⟩
  cases earlier with
  | nil =>
    injection heq with hframe _
    injection hframe with hid hpayload
    subst hid hpayload
    rw [append_nil]
    exact h
  | cons first rest =>
    injection heq with _ hrest
    cases rest <;> cases hrest

theorem trans (h : l.Metered emitted) (h' : l'.Metered l.emitted)
    (hsettings : l'.peerSettings = l.peerSettings)
    (hgranted : l'.granted = l.granted) : l'.Metered emitted := by
  obtain ⟨frames, hframes, hinside⟩ := h
  obtain ⟨more, hmore, hmoreInside⟩ := h'
  refine ⟨frames ++ more, by rw [hmore, hframes, append_assoc], ?_⟩
  intro earlier streamId payload endStream later heq
  rcases append_eq_append_iff.mp heq with
    ⟨between, hearlier, hdata⟩ | ⟨between, hdata, hrest⟩
  · have hfits := hmoreInside _ _ _ _ _ hdata
    rw [hearlier, ← append_assoc, ← hframes]
    exact hfits
  cases between with
  | nil =>
    have hfits := hmoreInside [] _ _ _ _ hrest.symm
    rw [append_nil] at hfits hdata
    rw [← hdata, ← hframes]
    exact hfits
  | cons first between =>
    injection hrest with hfirst _
    subst hfirst
    have hfits := hinside _ _ _ _ _ hdata
    refine ⟨?_, ?_, ?_⟩
    · simp only [peerMaximumFrameSize, hsettings]
      exact hfits.frame
    · simp only [peerInitialWindowSize, hsettings, hgranted]
      exact hfits.stream
    · rw [hgranted]
      exact hfits.connection

end StreamLedger.Metered

namespace BodiesSound

variable {l l' : StreamLedger}

theorem inside (h : BodiesSound l) {payload : Bytes} (halive : l.state ≠ .failed)
    (hstream : l.streams.find? streamId = some stream)
    (hopen : stream.state ≠ .closed) (hfits : l.Fits stream payload.length) :
    l.Inside l.emitted streamId payload := by
  have hwindow := (h.record hstream).window hopen halive
  have hbalance := h.balance halive
  obtain ⟨hstreamFits, hconnectionFits, hframe⟩ := hfits
  refine ⟨hframe, fun _ => ?_, fun _ => ?_⟩
  · omega
  · omega

theorem send_metered (h : BodiesSound l) (hmove : SendMove l l') :
    l'.Metered l.emitted ∧ l'.peerSettings = l.peerSettings ∧ l'.granted = l.granted := by
  cases hmove with
  | quiet hquiet =>
    obtain ⟨frames, hemitted, hdataless⟩ := hquiet.bodyAlike.emitted
    exact ⟨.of_dataless hemitted hdataless, hquiet.bodyAlike.settings, hquiet.bodyAlike.granted⟩
  | segment streamId old byteCount endStream isEndStreamPending halive hold
    hqueued hinside hend hfits =>
      have hlength : (old.sendQueue.remaining.take byteCount).length =
          byteCount := length_take_of_le hinside
      have hpayload := h.inside halive hold (h.open_of_queued hold hqueued) (hlength.symm ▸ hfits)
      exact ⟨.of_data rfl ⟨hpayload.frame, hpayload.stream, hpayload.connection⟩, rfl, rfl⟩
  | ending streamId old halive hold hopen hempty =>
    exact ⟨.of_data rfl ⟨Nat.zero_le _, fun hne => absurd rfl hne,
      fun hne => absurd rfl hne⟩, rfl, rfl⟩

theorem sends_metered (h : BodiesSound l) (hsends : Sends l l')
    {emitted : List OutgoingFrame} (hmetered : l.Metered emitted) : l'.Metered emitted := by
  induction hsends with
  | refl => exact hmetered
  | tail hbefore hmove ih =>
    obtain ⟨hnext, hsettings, hgranted⟩ := (h.sends hbefore).send_metered hmove
    exact ih.trans hnext hsettings hgranted

end BodiesSound

theorem GrantMove.dataless (h : GrantMove l l') :
    ∃ frames, l'.emitted = l.emitted ++ frames ∧ Dataless frames := by
  cases h with
  | quiet hquiet => exact hquiet.bodyAlike.emitted
  | connection | stream | spent | initialWindow | setting | spoil =>
    exact ⟨[], (append_nil _).symm, .nil⟩

theorem Grants.dataless (h : Grants l l') :
    ∃ frames, l'.emitted = l.emitted ++ frames ∧ Dataless frames := by
  induction h with
  | refl => exact ⟨[], (append_nil _).symm, .nil⟩
  | tail _ hmove ih =>
    obtain ⟨frames, hemitted, hdataless⟩ := ih
    obtain ⟨more, hmore, hmoreDataless⟩ := hmove.dataless
    exact ⟨frames ++ more, by rw [hmore, hemitted, append_assoc], hdataless.append hmoreDataless⟩

theorem Begins.dataless (h : Begins l l') :
    ∃ frames, l'.emitted = l.emitted ++ frames ∧ Dataless frames := by
  cases h with
  | openStream => exact ⟨[], (append_nil _).symm, .nil⟩
  | refuse streamId hfresh =>
    exact ⟨_, rfl, .singleton fun _ _ _ => by simp⟩

theorem BodiesSound.step_metered (h : BodiesSound l)
    (hmoves : StepMoves l l') : l'.Metered l.emitted := by
  rcases hmoves with ⟨begun, hbegun, granted, hgrants, hsends⟩ | ⟨accepted, haccepts, hsends⟩
  · have hfirst : BodiesSound begun ∧ ∃ frames,
        begun.emitted = l.emitted ++ frames ∧ Dataless frames := by
      rcases hbegun with rfl | hbegins
      · exact ⟨h, [], (append_nil _).symm, .nil⟩
      · exact ⟨h.begin hbegins, hbegins.dataless⟩
    obtain ⟨hbegunSound, frames, hemitted, hdataless⟩ := hfirst
    obtain ⟨more, hmore, hmoreDataless⟩ := hgrants.dataless
    have hall : granted.emitted = l.emitted ++ (frames ++ more) := by
      rw [hmore, hemitted, append_assoc]
    exact (hbegunSound.grants hgrants).sends_metered hsends
      (.of_dataless hall (hdataless.append hmoreDataless))
  · refine (h.accept haccepts).sends_metered hsends ?_
    cases haccepts with
    | queue => exact .of_dataless (append_nil _).symm .nil
    | direct streamId old data endStream halive hold hopen hlocal hempty hfits =>
        have hpayload := h.inside halive hold hopen hfits
        exact .of_data rfl ⟨hpayload.frame, hpayload.stream, hpayload.connection⟩

/-! ## END_STREAM -/

/-- A DATA frame with END_STREAM is the end of what was accepted. -/
def BodiesEnded (l : StreamLedger) : Prop :=
  ∀ streamId payload, .data streamId payload true ∈ l.emitted →
    bodyOn streamId l.emitted = acceptedOn streamId l.accepted

namespace BodiesEnded

variable {l l' : StreamLedger}

theorem of_dataless (h : BodiesEnded l)
    (hemitted : l'.emitted = l.emitted ++ frames) (hframes : Dataless frames)
    (haccepted : l'.accepted = l.accepted) : BodiesEnded l' := by
  intro streamId payload hend
  rw [hemitted] at hend
  rw [hemitted, haccepted, bodyOn_append, hframes.bodyOn, append_nil]
  rcases mem_append.mp hend with hend | hend
  · exact h streamId payload hend
  · exact absurd rfl (hframes _ hend streamId payload true)

/-- A DATA frame goes out: with END_STREAM nothing is left, and without it
the stream has not ended yet. -/
theorem of_data (h : BodiesEnded l) {payload : Bytes} {endStream : Bool}
    (hemitted : l'.emitted = l.emitted ++ [.data streamId payload endStream])
    (hothers : ∀ other, other ≠ streamId →
      acceptedOn other l'.accepted = acceptedOn other l.accepted)
    (hself : (endStream = true ∨ ∃ before, .data streamId before true ∈ l.emitted) →
      bodyOn streamId l.emitted ++ payload = acceptedOn streamId l'.accepted) : BodiesEnded l' := by
  intro other piece hend
  rw [hemitted, mem_append, mem_singleton] at hend
  rw [hemitted, bodyOn_append]
  by_cases heq : other = streamId
  · subst heq
    rw [bodyOn_data_self]
    refine hself ?_
    rcases hend with hend | hend
    · exact .inr ⟨piece, hend⟩
    · injection hend with _ _ hflag
      exact .inl hflag.symm
  · rw [bodyOn_data_other _ _ (Ne.symm heq), append_nil, hothers other heq]
    rcases hend with hend | hend
    · exact h other piece hend
    · injection hend with hid
      exact absurd hid heq

theorem quiet (h : BodiesEnded l) (hmove : QuietMove l l') : BodiesEnded l' := by
  obtain ⟨frames, hemitted, hdataless⟩ := hmove.bodyAlike.emitted
  exact h.of_dataless hemitted hdataless hmove.bodyAlike.accepted

theorem begin (h : BodiesEnded l) (hmove : Begins l l') : BodiesEnded l' := by
  obtain ⟨frames, hemitted, hdataless⟩ := hmove.dataless
  refine h.of_dataless hemitted hdataless ?_
  cases hmove with
  | openStream => rfl
  | refuse streamId hfresh =>
    rw [remember_eq]
    rfl

theorem grant (h : BodiesEnded l) (hmove : GrantMove l l') : BodiesEnded l' := by
  obtain ⟨frames, hemitted, hdataless⟩ := hmove.dataless
  refine h.of_dataless hemitted hdataless ?_
  cases hmove with
  | quiet hquiet => exact hquiet.bodyAlike.accepted
  | connection | stream | spent | initialWindow | setting | spoil => rfl

theorem send (h : BodiesEnded l) (hsound : BodiesSound l)
    (hmove : SendMove l l') : BodiesEnded l' := by
  cases hmove with
  | quiet hquiet => exact h.quiet hquiet
  | segment streamId old byteCount endStream isEndStreamPending halive hold
    hqueued hinside hend hfits =>
      have haccepted := (hsound.record hold).queued (hsound.open_of_queued hold hqueued)
      refine h.of_data rfl (fun _ _ => rfl) ?_
      show _ → _ = acceptedOn streamId l.accepted
      rintro (hlast | ⟨before, hearlier⟩)
      · rw [haccepted, hend hlast, take_length]
      -- an ended stream has nothing queued
      rw [h streamId before hearlier] at haccepted
      exact absurd (self_eq_append_right.mp haccepted) hqueued
  | ending streamId old halive hold hopen hempty =>
    refine h.of_data rfl (fun _ _ => rfl) fun _ => ?_
    show _ = acceptedOn streamId l.accepted
    rw [(hsound.record hold).queued hopen, hempty]

theorem accept (h : BodiesEnded l) (hsound : BodiesSound l) (hmove : Accepts l l')
    (hlive : ∀ {streamId stream}, l.streams.find? streamId = some stream →
      stream.state ≠ .closed → stream.state ≠ .halfClosedLocal →
      ∀ payload, .data streamId payload true ∉ l.emitted) :
    BodiesEnded l' := by
  cases hmove with
  | queue streamId old data isEndStreamPending halive hold hopen hlocal =>
    intro other payload hend
    by_cases heq : other = streamId
    · subst heq
      exact absurd hend (hlive hold hopen hlocal payload)
    show _ = acceptedOn other (l.accepted ++ [(streamId, data)])
    rw [acceptedOn_other data heq]
    exact h other payload hend
  | direct streamId old data endStream halive hold hopen hlocal hempty hfits =>
      refine h.of_data rfl (fun other hne =>
        acceptedOn_other data hne) fun _ => ?_
      show _ = acceptedOn streamId (l.accepted ++ [(streamId, data)])
      rw [acceptedOn_self, (hsound.record hold).queued hopen, hempty, append_nil]

theorem sends (h : BodiesEnded l) (hsound : BodiesSound l)
    (hsends : Sends l l') : BodiesEnded l' := by
  induction hsends with
  | refl => exact h
  | tail hbefore hmove ih => exact ih.send (hsound.sends hbefore) hmove

theorem step (h : BodiesEnded l) (hsound : BodiesSound l) (hmoves : StepMoves l l')
    (hlive : ∀ {streamId stream}, l.streams.find? streamId = some stream →
      stream.state ≠ .closed → stream.state ≠ .halfClosedLocal →
      ∀ payload, .data streamId payload true ∉ l.emitted) :
    BodiesEnded l' := by
  rcases hmoves with ⟨begun, hbegun, granted, hgrants, hsends⟩ | ⟨accepted, haccepts, hsends⟩
  · have hfirst : BodiesEnded begun ∧ BodiesSound begun := by
      rcases hbegun with rfl | hbegins
      · exact ⟨h, hsound⟩
      · exact ⟨h.begin hbegins, hsound.begin hbegins⟩
    have hgranted : BodiesEnded granted :=
      keeps_of_moves (fun _ _ hmove hbefore => hbefore.grant hmove) hgrants hfirst.1
    exact hgranted.sends (hfirst.2.grants hgrants) hsends
  · exact (h.accept hsound haccepts hlive).sends (hsound.accept haccepts) hsends

end BodiesEnded

end AsynGyanis.Http2
