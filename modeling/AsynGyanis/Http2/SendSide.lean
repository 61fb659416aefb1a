import AsynGyanis.Http2.ReadSide

/-!
# What the operations leave alone on the sending side

The order of the frames on a stream depends on three things only: the
frames already emitted, the records of the streams and the largest stream
number the peer used. Most operations emit nothing but control frames and
change a record, if at all, in a way that finishes it: the stream is
terminated and its queue emptied, or the peer's side ends. `SendAlike`
says this of two states of a connection; it composes, and the small steps
the handlers are made of satisfy it.
-/

namespace AsynGyanis.Http2

open Library

/-! ## Frames of a message -/

/-- DATA or HEADERS on the stream. -/
def OutgoingFrame.isMessageOn (streamId : Nat) : OutgoingFrame → Bool
  | .data id _ _ => id = streamId
  | .headers id _ _ _ => id = streamId
  | _ => false

/-- Carrying END_STREAM. -/
def OutgoingFrame.endsStream (streamId : Nat) : OutgoingFrame → Bool
  | .data id _ endStream => id = streamId && endStream
  | .headers id _ endStream _ => id = streamId && endStream
  | _ => false

/-- Frames that belong to no message. -/
def Quiet (frames : List OutgoingFrame) : Prop :=
  ∀ f ∈ frames, ∀ streamId, f.isMessageOn streamId = false

theorem Quiet.nil : Quiet [] := fun _ hf => absurd hf List.not_mem_nil

theorem Quiet.append {a b : List OutgoingFrame} (ha : Quiet a)
    (hb : Quiet b) : Quiet (a ++ b) := fun f hf =>
  (List.mem_append.mp hf).elim (ha f) (hb f)

theorem Quiet.singleton {f : OutgoingFrame}
    (h : ∀ streamId, f.isMessageOn streamId = false) : Quiet [f] :=
  fun _ hg => List.mem_singleton.mp hg ▸ h

/-! ## Records -/

namespace StreamRecord

/-- The application has not ended the stream. -/
def IsLive (stream : StreamRecord) : Prop := stream.state = .open ∨ stream.state = .halfClosedRemote

/-- Nothing will be sent on the stream any more. -/
structure IsDone (stream : StreamRecord) : Prop where
  ended : stream.state = .halfClosedLocal ∨ stream.state = .closed
  drained : stream.sendQueue.remaining = []
  settled : stream.isEndStreamPending = false

/-- A change of a record that the sending side need not know of: it stays
live with the same queue, or it is done. -/
def Finishes (old new : StreamRecord) : Prop := new.IsDone ∨
    (new.sendQueue = old.sendQueue ∧ new.isEndStreamPending = old.isEndStreamPending ∧
      (new.state = old.state ∨ (old.IsLive ∧ new.IsLive)))

theorem Finishes.refl (stream : StreamRecord) : Finishes stream stream := .inr ⟨rfl, rfl, .inl rfl⟩

theorem Finishes.trans {a b c : StreamRecord} (hab : Finishes a b)
    (hbc : Finishes b c) : Finishes a c := by
  rcases hbc with hdone | ⟨hqueue, hpending, hstate⟩
  · exact .inl hdone
  rcases hab with hdone | ⟨hqueue', hpending', hstate'⟩
  · rcases hstate with hstate | ⟨hlive, _⟩
    · exact .inl ⟨hstate ▸ hdone.ended, hqueue ▸ hdone.drained, hpending ▸ hdone.settled⟩
    rcases hdone.ended with hended | hended <;>
      rcases hlive with hlive | hlive <;>
      rw [hended] at hlive <;> cases hlive
  refine .inr ⟨hqueue.trans hqueue', hpending.trans hpending', ?_⟩
  rcases hstate with hstate | ⟨hlive, hlive'⟩
  · rcases hstate' with hstate' | ⟨hlive, hlive'⟩
    · exact .inl (hstate.trans hstate')
    refine .inr ⟨hlive, ?_⟩
    rw [IsLive, hstate]
    exact hlive'
  rcases hstate' with hstate' | ⟨hlive'', _⟩
  · refine .inr ⟨?_, hlive'⟩
    rw [IsLive, ← hstate']
    exact hlive
  · exact .inr ⟨hlive'', hlive'⟩

end StreamRecord

open StreamRecord

/-! ## Connections -/

namespace Http2Connection

variable {D E H : Type}

/-- Nothing but control frames was emitted, no stream opened, and the
records that are left were changed at most in the ways above. -/
structure SendAlike (c c' : Http2Connection D E H) : Prop where
  emits : ∃ control, Quiet control ∧ c'.outgoing = c.outgoing ++ control
  highest : c'.highestPeerStreamId = c.highestPeerStreamId
  records : ∀ {streamId new}, c'.streams.find? streamId = some new →
    ∃ old, c.streams.find? streamId = some old ∧ Finishes old new

theorem terminatedRecord_isDone (stream : StreamRecord) (termination : StreamTermination) :
    (terminatedRecord stream termination).IsDone := ⟨.inr rfl, rfl, rfl⟩

theorem SendAlike.refl (c : Http2Connection D E H) : SendAlike c c :=
  ⟨⟨[], Quiet.nil, by simp⟩, rfl, fun {_ new} h => ⟨new, h, .refl new⟩⟩

variable {c c' : Http2Connection D E H}

theorem SendAlike.trans {c'' : Http2Connection D E H}
    (h : SendAlike c c') (h' : SendAlike c' c'') : SendAlike c c'' := by
  obtain ⟨control, hquiet, houtgoing⟩ := h.emits
  obtain ⟨control', hquiet', houtgoing'⟩ := h'.emits
  refine ⟨⟨control ++ control', hquiet.append hquiet', ?_⟩,
    h'.highest.trans h.highest, fun {streamId new} hnew => ?_⟩
  · rw [houtgoing', houtgoing, List.append_assoc]
  obtain ⟨middle, hmiddle, hfinishes'⟩ := h'.records hnew
  obtain ⟨old, hold, hfinishes⟩ := h.records hmiddle
  exact ⟨old, hold, hfinishes.trans hfinishes'⟩

theorem SendAlike.of_same (houtgoing : c'.outgoing = c.outgoing)
    (hhighest : c'.highestPeerStreamId = c.highestPeerStreamId)
    (hstreams : c'.streams = c.streams) : SendAlike c c' :=
  ⟨⟨[], Quiet.nil, by simp [houtgoing]⟩, hhighest, fun {_ new} h =>
    ⟨new, hstreams ▸ h, .refl new⟩⟩

theorem SendAlike.of_emitted {control : List OutgoingFrame}
    (houtgoing : c'.outgoing = c.outgoing ++ control)
    (hhighest : c'.highestPeerStreamId = c.highestPeerStreamId)
    (hstreams : c'.streams = c.streams) (hquiet : Quiet control) : SendAlike c c' :=
  ⟨⟨control, hquiet, houtgoing⟩, hhighest, fun {_ new} h =>
    ⟨new, hstreams ▸ h, .refl new⟩⟩

variable (c)

theorem appendOutgoing_sendAlike {control : List OutgoingFrame} (h : Quiet control) :
    SendAlike c (c.appendOutgoing control) :=
  ⟨⟨control, h, rfl⟩, rfl, fun {_ new} hnew => ⟨new, hnew, .refl new⟩⟩

variable {c}

theorem setStream_sendAlike {streamId : Nat}
    {old new : StreamRecord} (hold : c.streams.find? streamId = some old)
    (h : Finishes old new) : SendAlike c (c.setStream streamId new) := by
  refine ⟨⟨[], Quiet.nil, by simp [setStream]⟩, rfl, fun {id new'} hnew => ?_⟩
  simp only [setStream, SortedMap.find?_insert] at hnew
  split at hnew
  · next heq =>
    injection hnew with hnew
    subst heq hnew
    exact ⟨old, hold, h⟩
  · exact ⟨new', hnew, .refl new'⟩

variable (c)

theorem fail_sendAlike (errorCode : Http2ErrorCode) (reason : String) :
    SendAlike c (c.fail errorCode reason) := by
  unfold fail
  split
  · exact .refl c
  refine SendAlike.trans ?_ (appendOutgoing_sendAlike _ (Quiet.singleton fun _ => rfl))
  simp only [fixGoAwayLastStreamId]
  split <;> exact .of_same rfl rfl rfl

theorem find?_of_find?_foldl_erase {id : Nat} {stream : StreamRecord}
    (evicted : List Nat) {streams : SortedMap Nat StreamRecord}
    (h : (evicted.foldl (fun streams id => streams.erase id) streams).find? id = some stream) :
    streams.find? id = some stream := by
  induction evicted generalizing streams with
  | nil => exact h
  | cons first rest ih =>
    have herased := ih h
    rw [SortedMap.find?_erase] at herased
    split at herased
    · cases herased
    · exact herased

theorem rememberTerminatedStream_sendAlike (streamId : Nat) :
    SendAlike c (c.rememberTerminatedStream streamId) := by
  refine ⟨⟨[], Quiet.nil, by simp only [rememberTerminatedStream,
    List.append_nil]⟩, by simp only [rememberTerminatedStream],
    fun {id new} hnew => ⟨new, ?_, .refl new⟩⟩
  simp only [rememberTerminatedStream] at hnew
  exact find?_of_find?_foldl_erase _ hnew

theorem terminateStream_sendAlike (streamId : Nat) (termination : StreamTermination) :
    SendAlike c (c.terminateStream streamId termination) := by
  unfold terminateStream
  split
  · exact .refl c
  rename_i stream hstream
  split
  · exact .refl c
  refine SendAlike.trans (setStream_sendAlike hstream
    (.inl (terminatedRecord_isDone stream termination))) ?_
  refine SendAlike.trans ?_ (rememberTerminatedStream_sendAlike _ streamId)
  exact .of_same rfl rfl rfl

theorem noteStreamError_sendAlike (reason : String) :
    SendAlike c { c with lastStreamErrorMessage := reason } := .of_same rfl rfl rfl

end Http2Connection

end AsynGyanis.Http2
