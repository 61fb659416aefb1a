import Mathlib

/-!
# Sending from several buffers

A vectored write may be cut anywhere. `VectoredSendCursor` keeps the place of
the next byte as the index of a buffer and an offset in it, and each write is
offered what is left: the rest of that buffer and the ones behind it, empty
ones left out.

What is pending is the text behind the place. A snapshot is a part of its
front, and advancing drops what was accepted. So nothing is sent twice and
nothing is left out.
-/

namespace AsynGyanis.Core

open List

structure VectoredSendCursor where
  buffers : List (List UInt8)
  totalLength : Nat
  sentLength : Nat := 0
  pendingIndex : Nat := 0
  offsetInPending : Nat := 0

namespace VectoredSendCursor

/-! ## The code -/

def construct (buffers : List (List UInt8)) : VectoredSendCursor where
  buffers := buffers
  totalLength := (buffers.map length).sum

variable (cursor : VectoredSendCursor)

def isFinished : Bool := cursor.totalLength ≤ cursor.sentLength

/-- The loop over the buffers behind the pending one, with room for so many. -/
def wholeBuffers (room : Nat) : List (List UInt8) → List (List UInt8)
  | [] => []
  | buffer :: rest =>
    if room = 0 then []
    else if buffer.length = 0 then wholeBuffers room rest
    else buffer :: wholeBuffers (room - 1) rest

def snapshotPending (capacity : Nat) : List (List UInt8) :=
  let first :=
    match cursor.buffers[cursor.pendingIndex]? with
    | some pending =>
      if 0 < capacity ∧ cursor.offsetInPending < pending.length then
        [pending.drop cursor.offsetInPending]
      else []
    | none => []
  first ++ wholeBuffers (capacity - first.length) (cursor.buffers.drop (cursor.pendingIndex + 1))

/-- The place behind the buffers that are used up, the buffers from the
pending one on being given. -/
def skipExhaustedSegments (index offset : Nat) : List (List UInt8) → Nat × Nat
  | [] => (index, offset)
  | buffer :: rest =>
    if buffer.length ≤ offset then skipExhaustedSegments (index + 1) 0 rest
    else (index, offset)

/-- The loop of `advance`. It returns where the rest ends within a buffer and
skips what is used up otherwise. -/
def advanceFrom (remaining index offset : Nat) : List (List UInt8) → Nat × Nat
  | [] => (index, offset)
  | buffer :: rest =>
    if remaining = 0 then skipExhaustedSegments index offset (buffer :: rest)
    else if remaining < buffer.length - offset then (index, offset + remaining)
    else advanceFrom (remaining - (buffer.length - offset)) (index + 1) 0 rest

def advance (byteCount : Nat) : VectoredSendCursor :=
  if byteCount = 0 ∨ cursor.isFinished then cursor
  else
    let place := advanceFrom byteCount cursor.pendingIndex cursor.offsetInPending
      (cursor.buffers.drop cursor.pendingIndex)
    { cursor with
      sentLength := cursor.sentLength + byteCount
      pendingIndex := place.1
      offsetInPending := place.2 }

/-! ## What is pending -/

/-- The bytes behind a place in a list of buffers. -/
def textBehind (buffers : List (List UInt8)) (place : Nat × Nat) : List UInt8 :=
  (buffers.drop place.1).flatten.drop place.2

def InBuffer (buffers : List (List UInt8)) (place : Nat × Nat) : Prop :=
  place.2 ≤ ((buffers.drop place.1).headD []).length

variable {buffers rest : List (List UInt8)} {buffer : List UInt8} {index offset : Nat}

theorem drop_succ_of_drop (h : buffers.drop index = buffer :: rest) :
    buffers.drop (index + 1) = rest := by
  rw [← tail_drop, h, tail_cons]

theorem textBehind_succ (h : buffers.drop index = buffer :: rest)
    (hin : InBuffer buffers (index, offset)) :
    offset ≤ buffer.length ∧ textBehind buffers (index, offset) =
      buffer.drop offset ++ textBehind buffers (index + 1, 0) := by
  rw [InBuffer, h] at hin
  refine ⟨hin, ?_⟩
  rw [textBehind, textBehind, h, drop_succ_of_drop h, flatten_cons, drop_zero]
  exact drop_append_of_le_length hin

theorem skipExhaustedSegments_spec (h : buffers.drop index = rest)
    (hin : InBuffer buffers (index, offset)) :
    textBehind buffers (skipExhaustedSegments index offset rest) =
        textBehind buffers (index, offset) ∧
      InBuffer buffers (skipExhaustedSegments index offset rest) := by
  induction rest generalizing index offset with
  | nil => exact ⟨rfl, hin⟩
  | cons buffer rest ih =>
    rw [skipExhaustedSegments]
    split
    · next hle =>
      rw [(textBehind_succ h hin).2, drop_eq_nil_of_le hle]
      exact ih (drop_succ_of_drop h) (Nat.zero_le _)
    · exact ⟨rfl, hin⟩

theorem advanceFrom_spec {remaining : Nat} (h : buffers.drop index = rest)
    (hin : InBuffer buffers (index, offset)) :
    textBehind buffers (advanceFrom remaining index offset rest) =
        (textBehind buffers (index, offset)).drop remaining ∧
      InBuffer buffers (advanceFrom remaining index offset rest) := by
  induction rest generalizing remaining index offset with
  | nil =>
    exact ⟨by simp [advanceFrom, textBehind, h], hin⟩
  | cons buffer rest ih =>
    obtain ⟨hle, htext⟩ := textBehind_succ h hin
    rw [advanceFrom]
    split
    · next hzero =>
      rw [hzero, drop_zero]
      exact skipExhaustedSegments_spec h hin
    split
    · next hlt =>
      refine ⟨by rw [textBehind, textBehind, drop_drop], ?_⟩
      rw [InBuffer, h]
      show offset + remaining ≤ buffer.length
      omega
    · next hge =>
      have hwhole : (buffer.drop offset).drop remaining = [] := by
        rw [drop_drop]
        exact drop_eq_nil_of_le (by omega)
      rw [htext, drop_append, hwhole, nil_append, length_drop]
      exact ih (drop_succ_of_drop h) (Nat.zero_le _)

/-- The buffers that are offered follow each other at the front of what is
pending, and none is empty. -/
theorem wholeBuffers_spec (room : Nat) (pending : List (List UInt8)) :
    (wholeBuffers room pending).flatten <+: pending.flatten ∧
      (∀ buffer ∈ wholeBuffers room pending, buffer ≠ []) ∧
      (pending.length ≤ room → (wholeBuffers room pending).flatten = pending.flatten) ∧
      (0 < room → pending.flatten ≠ [] → wholeBuffers room pending ≠ []) := by
  induction pending generalizing room with
  | nil => exact ⟨prefix_refl _, nofun, fun _ => rfl, fun _ hne => absurd rfl hne⟩
  | cons buffer pending ih =>
    rw [wholeBuffers]
    split
    · next hroom =>
      refine ⟨ nil_prefix, nofun, fun hle => ?_, fun hpos => ?_⟩
      · rw [length_cons] at hle
        omega
      · omega
    rw [length_cons, flatten_cons]
    split
    · next hempty =>
      rw [length_eq_zero_iff.mp hempty, nil_append]
      obtain ⟨hbegins, hne, hall, hsome⟩ := ih room
      exact ⟨hbegins, hne, fun hle => hall (by omega), hsome⟩
    · next hbuffer =>
      obtain ⟨hbegins, hne, hall, -⟩ := ih (room - 1)
      rw [flatten_cons, forall_mem_cons]
      refine ⟨(prefix_append_right_inj buffer).mpr hbegins,
        ⟨fun hnil => hbuffer (length_eq_zero_iff.mpr hnil), hne⟩, fun hle => ?_, fun _ _ => nofun⟩
      rw [hall (by omega)]

theorem snapshotPending_eq (hin : InBuffer cursor.buffers
    (cursor.pendingIndex, cursor.offsetInPending)) {capacity : Nat} (hcapacity : 1 ≤ capacity) :
    ∃ pending, cursor.snapshotPending capacity = wholeBuffers capacity pending ∧
      pending.length ≤ cursor.buffers.length ∧ pending.flatten =
        textBehind cursor.buffers (cursor.pendingIndex, cursor.offsetInPending) := by
  rw [snapshotPending]
  cases hpending : cursor.buffers[cursor.pendingIndex]? with
  | none =>
    have hle := getElem?_eq_none_iff.mp hpending
    refine ⟨[], ?_, Nat.zero_le _, ?_⟩
    · dsimp only
      rw [drop_eq_nil_of_le (Nat.le_succ_of_le hle)]
      rfl
    · rw [textBehind, drop_eq_nil_of_le hle]
      exact drop_nil.symm
  | some pending =>
    obtain ⟨hlt, hget⟩ := List.getElem?_eq_some_iff.mp hpending
    have hdrop := drop_eq_getElem_cons hlt
    rw [hget] at hdrop
    refine ⟨pending.drop cursor.offsetInPending ::
      cursor.buffers.drop (cursor.pendingIndex + 1), ?_, ?_, ?_⟩
    · rw [wholeBuffers, if_neg (by omega), length_drop]
      dsimp only
      by_cases hrest : cursor.offsetInPending < pending.length
      · rw [if_pos ⟨hcapacity, hrest⟩, if_neg (by omega)]
        rfl
      · rw [if_neg (fun h => hrest h.2), if_pos (by omega)]
        rfl
    · rw [length_cons, length_drop]
      omega
    · rw [(textBehind_succ hdrop hin).2, flatten_cons, textBehind, drop_zero]

/-! ## Runs -/

/-- Where a cursor stands after `accepted`. -/
structure Sent (buffers : List (List UInt8)) (accepted : List UInt8)
    (cursor : VectoredSendCursor) : Prop where
  same : cursor.buffers = buffers
  total : cursor.totalLength = buffers.flatten.length
  count : cursor.sentLength = accepted.length
  inside : InBuffer buffers (cursor.pendingIndex, cursor.offsetInPending)
  pending : accepted ++ textBehind buffers (cursor.pendingIndex, cursor.offsetInPending) =
    buffers.flatten

/-- A cursor and the bytes that were accepted: each write is offered a snapshot
and accepts a part of it. -/
inductive Sending (buffers : List (List UInt8)) : VectoredSendCursor → List UInt8 → Prop
  | start : Sending buffers (construct buffers) []
  | write {cursor : VectoredSendCursor} {accepted : List UInt8}
    (h : Sending buffers cursor accepted) {capacity byteCount : Nat} (hcapacity : 1 ≤ capacity)
    (hcount : byteCount ≤ (cursor.snapshotPending capacity).flatten.length) :
    Sending buffers (cursor.advance byteCount)
      (accepted ++ (cursor.snapshotPending capacity).flatten.take byteCount)

variable {cursor : VectoredSendCursor} {accepted : List UInt8} {capacity : Nat}

theorem Sent.isFinished_iff (h : Sent buffers accepted cursor) :
    cursor.isFinished ↔ accepted = buffers.flatten := by
  have hlength := congrArg List.length h.pending
  rw [length_append] at hlength
  rw [isFinished, decide_eq_true_iff, h.total, h.count]
  refine ⟨fun hle => IsPrefix.eq_of_length ⟨_, h.pending⟩ (by omega), fun heq => ?_⟩
  exact Nat.le_of_eq (congrArg List.length heq.symm)

theorem Sent.advance (h : Sent buffers accepted cursor) {byteCount : Nat} (hcapacity : 1 ≤ capacity)
    (hcount : byteCount ≤ (cursor.snapshotPending capacity).flatten.length) :
    Sent buffers (accepted ++ (cursor.snapshotPending capacity).flatten.take byteCount)
      (cursor.advance byteCount) := by
  obtain ⟨rfl, htotal, hlength, hin, htext⟩ := h
  obtain ⟨pending, hsnapshot, -, hpending⟩ := snapshotPending_eq cursor hin hcapacity
  obtain ⟨⟨behind, hbehind⟩, -⟩ := wholeBuffers_spec capacity pending
  rw [← hsnapshot, hpending] at hbehind
  rw [← hbehind] at htext
  rw [VectoredSendCursor.advance]
  split
  · next hskip =>
    have hzero : byteCount = 0 := by
      rcases hskip with hzero | hfinished
      · exact hzero
      · have hequal := congrArg List.length htext
        rw [length_append, length_append] at hequal
        rw [isFinished, decide_eq_true_iff, htotal, hlength] at hfinished
        omega
    rw [hzero, take_zero, append_nil]
    exact ⟨rfl, htotal, hlength, hin, hbehind ▸ htext⟩
  · obtain ⟨hrest, hin⟩ := @advanceFrom_spec _ _ _ _ byteCount rfl hin
    refine ⟨rfl, htotal, ?_, hin, ?_⟩
    · rw [length_append, length_take, Nat.min_eq_left hcount, ← hlength]
    · dsimp only
      rw [hrest, ← hbehind, append_assoc, drop_append_of_le_length hcount,
        ← append_assoc _ _ behind, take_append_drop, htext]

theorem Sending.sent (h : Sending buffers cursor accepted) : Sent buffers accepted cursor := by
  induction h with
  | start => exact ⟨rfl, length_flatten.symm, rfl, Nat.zero_le _, rfl⟩
  | write _ hcapacity hcount ih => exact ih.advance hcapacity hcount

/-- A cursor offers exactly what is missing. -/
theorem cursor_sends_exactly (h : Sending buffers cursor accepted) :
    (∀ capacity, 1 ≤ capacity → buffers.length ≤ capacity →
      accepted ++ (cursor.snapshotPending capacity).flatten = buffers.flatten) ∧
    (∀ capacity, 1 ≤ capacity → cursor.isFinished = false →
      (cursor.snapshotPending capacity).flatten ≠ []) ∧
    (cursor.isFinished = true ↔ accepted = buffers.flatten) := by
  obtain hsent := h.sent
  obtain ⟨rfl, -, -, hin, htext⟩ := hsent
  refine ⟨fun capacity hcapacity hfull => ?_, fun capacity hcapacity hmore hnil => ?_,
    h.sent.isFinished_iff⟩
  · obtain ⟨pending, hsnapshot, hlength, hpending⟩ := snapshotPending_eq cursor hin hcapacity
    rw [hsnapshot, (wholeBuffers_spec capacity pending).2.2.1 (by omega), hpending, htext]
  · obtain ⟨pending, hsnapshot, -, hpending⟩ := snapshotPending_eq cursor hin hcapacity
    obtain ⟨-, hne, -, hsome⟩ := wholeBuffers_spec capacity pending
    have hmissing : pending.flatten ≠ [] := by
      intro hnothing
      rw [← hpending, hnothing, append_nil] at htext
      rw [h.sent.isFinished_iff.mpr htext] at hmore
      cases hmore
    rw [hsnapshot] at hnil
    cases hbuffers : wholeBuffers capacity pending with
    | nil => exact hsome hcapacity hmissing hbuffers
    | cons buffer others =>
      rw [hbuffers] at hne hnil
      exact hne buffer mem_cons_self (append_eq_nil_iff.mp hnil).1

/-- Two buffers with an empty one between, cut within the second. -/
theorem cursor_sends_exactly_cut :
    [1, 2, 3] ++ ((((construct [[1, 2], [], [3, 4]]).advance 1).advance
      2).snapshotPending 3).flatten = [1, 2, 3, 4] :=
  (cursor_sends_exactly (@Sending.write _ _ _ (@Sending.write [[1, 2], [], [3, 4]] _ _ .start 1 1
    (by decide) (by decide)) 3 2 (by decide) (by decide))).1 3 (by decide) (by decide)

end VectoredSendCursor

end AsynGyanis.Core
