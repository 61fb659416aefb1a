import AsynGyanis.Http3.Effects

/-!
# Where the bytes of a stream went

The peer may send as much as it was given credit for, and every byte that
arrives uses some of it up. A byte is settled when its credit has gone back
or when it was handed to `onBodyBytes`, whose receiver gives the credit
back; until then it waits in the reader of its stream or in the buffer of
the stream's type.

The books of a stream are kept in two parts. `Books` says of the reader that
what it was fed is what has been settled and what the record still holds;
it is kept by every move that neither reads from the stream nor hands its
payload over. A delivery on the stream is the rest: it feeds, reads frames,
and gives credit for what was read at its end.
-/

namespace AsynGyanis.Http3

open Quic Library List

variable {D E V : Type}

/-! ## Counting -/

namespace Http3Output

def creditedByteCount (streamId : Nat) : Http3Output → Nat
  | .credited id byteCount => if id = streamId then byteCount else 0
  | _ => 0

/-- DATA payload in the hands of `onBodyBytes`. -/
def handedByteCount (streamId : Nat) : Http3Output → Nat
  | .bodyBytes id bytes => if id = streamId then bytes.length else 0
  | _ => 0

/-- Bytes that are gone without credit. -/
def lostByteCount (streamId : Nat) : Http3Output → Nat
  | .uncredited id byteCount => if id = streamId then byteCount else 0
  | _ => 0

/-- All that leaves the connection for good, one way or another. -/
def settledByteCount (streamId : Nat) (output : Http3Output) : Nat :=
  output.creditedByteCount streamId + output.handedByteCount streamId +
    output.lostByteCount streamId

end Http3Output

open Http3Output

/-- A count summed up over a history. -/
def total (count : Http3Output → Nat) (outputs : List Http3Output) : Nat := (outputs.map count).sum

@[simp] theorem total_append (count : Http3Output → Nat) (outputs added : List Http3Output) :
    total count (outputs ++ added) = total count outputs + total count added := by
  simp [total]

namespace StreamState.KeepsReader

variable {state state' state'' : StreamState V}

theorem refl (state : StreamState V) : state.KeepsReader state := ⟨rfl, rfl, rfl⟩

theorem trans (h : state.KeepsReader state')
    (h' : state'.KeepsReader state'') : state.KeepsReader state'' :=
  ⟨h'.reader.trans h.reader, h'.fedByteCount.trans h.fedByteCount,
    h'.creditedByteCount.trans h.creditedByteCount⟩

end StreamState.KeepsReader

namespace Http3Connection

/-! ## The books of a stream -/

/-- The bytes of a type that is not complete. -/
def typeByteCount (c : Http3Connection D E V) (streamId : Nat) : Nat :=
  ((c.peerStreamTypeBuffers.find? streamId).map (·.length)).getD 0

/-- A bidirectional stream is given up with an empty reader, or that is
noted. The control stream goes on after it. -/
def NotesAbandoned (streamId : Nat) (c : Http3Connection D E V) : Prop :=
  isUnidirectionalStream streamId = false →
  (c.streamState streamId).isAbandoned = true → c.readerByteCount streamId = 0 ∨
      ∃ byteCount, .stranded streamId byteCount ∈ c.outputs

/-- Settled and held bytes. -/
def accountedByteCount (c : Http3Connection D E V) (streamId : Nat) : Nat :=
  total (·.settledByteCount streamId) c.outputs + c.heldByteCount streamId

/-- A stream whose record and history balance at some count. -/
structure Books (streamId count : Nat) (c : Http3Connection D E V) :
    Prop where
  balance : c.accountedByteCount streamId = count
  /-- Everything read has its credit. -/
  atRest : (c.streamState streamId).fedByteCount =
    (c.streamState streamId).creditedByteCount + c.readerByteCount streamId
  abandoned : c.NotesAbandoned streamId

/-- Nothing of a stream was read or settled in between. -/
structure Unread (streamId : Nat) (c c' : Http3Connection D E V) : Prop where
  record : (c.streamState streamId).KeepsReader (c'.streamState streamId) ∨
    StreamState.KeepsReader {} (c'.streamState streamId)
  balance : c'.accountedByteCount streamId = c.accountedByteCount streamId
  abandoned : c.NotesAbandoned streamId → c'.NotesAbandoned streamId

variable {codec : Http3Codec D E V} {c c' c'' : Http3Connection D E V}
  {streamId count : Nat}

/-- History entries that settle nothing. -/
def AddsNothing (streamId : Nat) (c c' : Http3Connection D E V) : Prop :=
  ∃ added, c'.outputs = c.outputs ++ added ∧ total (·.settledByteCount streamId) added = 0

theorem AddsNothing.of_eq (h : c'.outputs = c.outputs) : AddsNothing streamId c c' :=
  ⟨[], by rw [h, List.append_nil], rfl⟩

theorem accounted_of_kept (hreader : (c.streamState streamId).KeepsReader (c'.streamState streamId))
    (houtputs : AddsNothing streamId c c') :
    c'.accountedByteCount streamId = c.accountedByteCount streamId := by
  obtain ⟨added, heq, hnone⟩ := houtputs
  rw [accountedByteCount, heq, total_append, hnone, heldByteCount,
    hreader.fedByteCount, hreader.creditedByteCount, add_zero]
  rfl

namespace Unread

theorem refl (c : Http3Connection D E V) : Unread streamId c c := ⟨.inl (.refl _), rfl, id⟩

theorem trans (h : Unread streamId c c') (h' : Unread streamId c' c'') : Unread streamId c c'' where
  record := by
    rcases h'.record with hkeeps | hfresh
    · exact h.record.imp (·.trans hkeeps) (·.trans hkeeps)
    · exact .inr hfresh
  balance := h'.balance.trans h.balance
  abandoned := fun hnotes => h'.abandoned (h.abandoned hnotes)

theorem of_kept (hreader : (c.streamState streamId).KeepsReader (c'.streamState streamId))
    (houtputs : AddsNothing streamId c c')
    (habandoned : c.NotesAbandoned streamId → c'.NotesAbandoned streamId) :
    Unread streamId c c' := ⟨.inl hreader, accounted_of_kept hreader houtputs, habandoned⟩

theorem of_quiet (hreader : (c.streamState streamId).KeepsReader (c'.streamState streamId))
    (hend : (c'.streamState streamId).isAbandoned = (c.streamState streamId).isAbandoned)
    (houtputs : AddsNothing streamId c c') : Unread streamId c c' := by
  refine of_kept hreader houtputs fun hnotes hrequest habandoned => ?_
  obtain ⟨added, heq, _⟩ := houtputs
  rw [hend] at habandoned
  rw [readerByteCount, hreader.reader]
  refine (hnotes hrequest habandoned).imp_right fun ⟨byteCount, hmem⟩ => ?_
  exact ⟨byteCount, heq ▸ mem_append_left _ hmem⟩

theorem of_state (hstate : c'.streamState streamId = c.streamState streamId)
    (houtputs : AddsNothing streamId c c') : Unread streamId c c' :=
  of_quiet (hstate ▸ .refl _) (by rw [hstate]) houtputs

theorem of_same (hfind : c'.streams.find? streamId = c.streams.find? streamId)
    (houtputs : AddsNothing streamId c c') : Unread streamId c c' := by
  refine of_state ?_ houtputs
  rw [streamState, hfind]
  rfl

/-! ## Moves that do not read -/

theorem modifyStream {other : Nat} {update : StreamState V → StreamState V}
    (hupdate : ∀ state : StreamState V,
      state.KeepsEnd (update state) ∧ state.KeepsReader (update state)) :
    Unread streamId c (c.modifyStream other update) := by
  have houtputs : AddsNothing streamId c (c.modifyStream other update) :=
    .of_eq (modifyStream_outputs _)
  by_cases hne : streamId = other
  · subst hne
    cases hfind : c.streams.find? streamId with
    | none =>
      refine of_same ?_ houtputs
      rw [modifyStream_find_self, hfind]
      rfl
    | some state =>
      have hold := streamState_eq hfind
      have hnew := streamState_eq (modifyStream_find hfind update)
      refine of_quiet ?_ ?_ houtputs
      · rw [hold, hnew]
        exact (hupdate state).2
      · rw [hold, hnew]
        exact (hupdate state).1.isAbandoned
  · exact of_same (c.modifyStream_find_of_ne update hne) houtputs

theorem noteStranded_outputs (c : Http3Connection D E V) (streamId other : Nat) :
    AddsNothing streamId c (c.noteStranded other) := by
  unfold noteStranded
  split
  · exact .of_eq rfl
  · exact ⟨[_], rfl, rfl⟩

theorem noteStranded_state (c : Http3Connection D E V) (streamId other : Nat) :
    (c.noteStranded other).streamState streamId = c.streamState streamId := by
  rw [streamState, noteStranded_find]
  rfl

theorem noteStranded_spec (c : Http3Connection D E V) (streamId : Nat) :
    c.bufferedByteCount streamId = 0 ∨ ∃ byteCount, .stranded streamId byteCount ∈
        (c.noteStranded streamId).outputs := by
  unfold noteStranded
  split
  · next hnone => exact .inl hnone
  · exact .inr ⟨_, mem_append_right _ mem_cons_self⟩

theorem finishStream {other : Nat} {update : StreamState V → StreamState V}
    (hupdate : ∀ state : StreamState V, state.KeepsReader (update state)) :
    Unread streamId c ((c.modifyStream other update).noteStranded other) := by
  have houtputs : AddsNothing streamId c ((c.modifyStream other update).noteStranded other) := by
    have hnoted := noteStranded_outputs (c.modifyStream other update) streamId other
    rwa [AddsNothing, modifyStream_outputs] at hnoted
  by_cases hne : streamId = other
  · subst hne
    have hkeeps : (c.streamState streamId).KeepsReader
        (((c.modifyStream streamId update).noteStranded streamId).streamState streamId) := by
      rw [noteStranded_state]
      cases hfind : c.streams.find? streamId with
      | none =>
        rw [Http3Connection.modifyStream, hfind]
        exact .refl _
      | some state =>
        rw [streamState_eq hfind, streamState_eq (modifyStream_find hfind update)]
        exact hupdate state
    refine of_kept hkeeps houtputs fun _ _ _ => ?_
    refine (noteStranded_spec _ _).imp_left fun hempty => ?_
    rw [readerByteCount, noteStranded_state]
    exact (Nat.add_eq_zero_iff.mp hempty).1
  · refine of_same ?_ houtputs
    rw [noteStranded_find]
    exact c.modifyStream_find_of_ne update hne

theorem eraseStream (other : Nat) : Unread streamId c (c.eraseStream other) := by
  by_cases hne : streamId = other
  · subst hne
    have hstate : (c.eraseStream streamId).streamState streamId = {} := by
      rw [streamState, eraseStream_find_self]
      rfl
    have hheld : (c.eraseStream streamId).heldByteCount streamId = 0 := by
      rw [heldByteCount, hstate]
      rfl
    have htotal : total (·.settledByteCount streamId) (c.eraseStream streamId).outputs =
          total (·.settledByteCount streamId) c.outputs + c.heldByteCount streamId := by
      unfold Http3Connection.eraseStream noteUncredited
      split
      · next hnone => rw [hnone]; rfl
      refine (total_append _ _ _).trans ?_
      simp [total, settledByteCount, creditedByteCount, handedByteCount, lostByteCount]
    refine ⟨.inr (hstate ▸ .refl _), ?_, fun _ _ habandoned => ?_⟩
    · rw [accountedByteCount, htotal, hheld]
      rfl
    · rw [hstate] at habandoned
      cases habandoned
  · obtain ⟨_, hfields⟩ := c.eraseStream_eq other
    refine of_same ?_ ?_
    · rw [hfields]
      exact SortedMap.find?_erase_of_ne _ hne
    unfold Http3Connection.eraseStream noteUncredited
    split
    · exact .of_eq rfl
    refine ⟨[_], rfl, ?_⟩
    simp [total, settledByteCount, Ne.symm hne, creditedByteCount, handedByteCount, lostByteCount]

end Unread

/-- Everything but reading a stream, handing over its payload or giving back
its credit. -/
def awayFrom (streamId : Nat) : Scope :=
  { Scope.any with
    reads := (· ≠ streamId)
    hands := (· ≠ streamId)
    credits := (· ≠ streamId) }

theorem total_of_allowed {output : Http3Output} (h : (awayFrom streamId).AllowsOutput output) :
    total (·.settledByteCount streamId) [output] = 0 := by
  cases output with
  | credited id byteCount | uncredited id byteCount =>
    have hne : id ≠ streamId := h
    simp [total, settledByteCount, hne, creditedByteCount, handedByteCount, lostByteCount]
  | bodyBytes id bytes =>
    have hne : id ≠ streamId := h.2
    simp [total, settledByteCount, hne, creditedByteCount, handedByteCount, lostByteCount]
  | _ => rfl

theorem Unread.perform {move : Http3Move D E V} (hmove : (awayFrom streamId).Allows move) :
    Unread streamId c (c.perform move) := by
  cases move with
  | emit output => exact .of_same rfl ⟨[output], rfl, total_of_allowed hmove⟩
  | breakConnection errorCode reason =>
    simp only [Http3Connection.perform, breakConnection]
    split
    · exact .refl c
    · exact .of_same rfl ⟨[_], rfl, rfl⟩
  | queue id bytes isEndStream =>
    simp only [Http3Connection.perform, queueOutboundBytes]
    split
    · exact .refl c
    split
    · exact .of_same rfl ⟨[_], rfl, rfl⟩
    · exact .of_same rfl ⟨[_], rfl, rfl⟩
  | discard id => exact .of_same rfl ⟨[_], rfl, rfl⟩
  | offer acceptedByteCount =>
    obtain ⟨added, heq, hwritten⟩ := c.offerFront_outputs acceptedByteCount
    obtain ⟨_, _, _, hfields⟩ := c.offerFront_eq acceptedByteCount
    refine .of_same (congrArg (·.streams.find? streamId) hfields)
      ⟨added, heq, sum_eq_zero fun n hn => ?_⟩
    obtain ⟨output, hmem, rfl⟩ := mem_map.mp hn
    obtain ⟨_, _, _, _, rfl⟩ := hwritten output hmem
    rfl
  | ensure id =>
    have hne : streamId ≠ id := Ne.symm hmove
    refine .of_same ?_ (.of_eq ensureStream_outputs)
    simp only [Http3Connection.perform, ensureStream]
    split
    · rfl
    · exact SortedMap.find?_insert_of_ne _ _ hne
  | update id update => exact .modifyStream fun state => (hmove.2 state).2
  | finish id update => exact .finishStream fun state => (hmove.2 state).2
  | read id update =>
    have hne : streamId ≠ id := Ne.symm hmove.1
    exact .of_same (c.modifyStream_find_of_ne update hne) (.of_eq (modifyStream_outputs _))
  | erase id => exact .eraseStream id
  | process id =>
    obtain ⟨_, heq⟩ := c.perform_process_eq id
    rw [heq]
    exact .of_same rfl (.of_eq rfl)
  | decoder _ | encoder _ | peerFacts _ _ _ _ _ | roles _ _ _ _ _
  | drain _ _ | reject _ => exact .of_same rfl (.of_eq rfl)

theorem Via.unread (h : Via (awayFrom streamId) c c') : Unread streamId c c' :=
  Reach.invariant (P := Unread streamId c) h (.refl c)
    fun _ _ hunread hmove => hunread.trans (.perform hmove)

theorem Books.of_unread (h : Books streamId count c)
    (hunread : Unread streamId c c') : Books streamId count c' where
  balance := hunread.balance.trans h.balance
  atRest := by
    rcases hunread.record with hkeeps | hkeeps
    · rw [readerByteCount, hkeeps.fedByteCount, hkeeps.creditedByteCount, hkeeps.reader]
      exact h.atRest
    rw [readerByteCount, hkeeps.fedByteCount, hkeeps.creditedByteCount, hkeeps.reader]
    rfl
  abandoned := hunread.abandoned h.abandoned

end Http3Connection

end AsynGyanis.Http3
