import Mathlib

/-!
# Texts cut in two

A text cut at the first place where a separator stands, and at the last
place where a mark does: what a search from the front or from the back and
the two slices around the place it finds come to.
-/

namespace AsynGyanis.Library

open List

variable {α : Type} [DecidableEq α]

/-- What stands before and behind the first `separator`. -/
def cutAt (separator : List α) : List α → Option (List α × List α)
  | [] => if separator = [] then some ([], []) else none
  | head :: rest =>
    if separator <+: head :: rest then
      some ([], (head :: rest).drop separator.length)
    else (cutAt separator rest).map fun cut => (head :: cut.1, cut.2)

/-- What stands before and behind the last `mark`. -/
def cutAtLast (mark : α) (text : List α) : Option (List α × List α) :=
  if mark ∈ text then
    some ((text.rdropWhile (· ≠ mark)).dropLast, text.rtakeWhile (· ≠ mark))
  else none

variable {separator text before behind : List α}

theorem cutAt_spec (h : cutAt separator text = some (before, behind)) :
    text = before ++ separator ++ behind := by
  induction text generalizing before with
  | nil =>
    rw [cutAt] at h
    split at h
    · next hempty =>
      cases h
      rw [hempty]
      rfl
    · cases h
  | cons head rest ih =>
    rw [cutAt] at h
    split at h
    · next hbegins =>
      cases h
      obtain ⟨more, hmore⟩ := hbegins
      rw [← hmore, drop_left]
      rfl
    · obtain ⟨⟨before', behind'⟩, hcut, heq⟩ := Option.map_eq_some_iff.mp h
      cases heq
      rw [ih hcut]
      rfl

theorem cutAt_append (h : cutAt separator text = some (before, behind)) (more : List α) :
    cutAt separator (text ++ more) = some (before, behind ++ more) := by
  induction text generalizing before with
  | nil =>
    rw [cutAt] at h
    split at h
    · next hempty =>
      cases h
      cases more <;> simp [cutAt, hempty]
    · cases h
  | cons head rest ih =>
    have hlength := congrArg length (cutAt_spec h)
    simp only [length_append] at hlength
    rw [cutAt] at h
    rw [cons_append, cutAt]
    split at h
    · next hbegins =>
      cases h
      have hmore : separator <+: head :: (rest ++ more) :=
        hbegins.trans (prefix_append (head :: rest) more)
      rw [if_pos hmore, ← cons_append, drop_append_of_le_length hbegins.length_le]
    · next hnot =>
      obtain ⟨⟨before', behind'⟩, hcut, heq⟩ := Option.map_eq_some_iff.mp h
      cases heq
      have hmore : ¬separator <+: head :: (rest ++ more) := fun hbegins =>
        hnot (prefix_of_prefix_length_le hbegins
          (prefix_append (head :: rest) more) (by omega))
      rw [if_neg hmore, ih hcut]
      rfl

theorem cutAt_dropWhile {p : α → Bool} (hhead : ∀ first ∈ separator.head?, p first = false)
    (hne : separator ≠ []) (h : cutAt separator text = some (before, behind)) :
    cutAt separator (text.dropWhile p) = some (before.dropWhile p, behind) := by
  induction text generalizing before with
  | nil =>
    rw [cutAt, if_neg hne] at h
    cases h
  | cons first rest ih =>
    cases hfirst : p first with
    | false =>
      rw [dropWhile_cons_of_neg (by simp [hfirst]), h]
      cases before with
      | nil => rfl
      | cons head before =>
        have htext := cutAt_spec h
        injection htext with hhead _
        rw [dropWhile_cons_of_neg (by simp [← hhead, hfirst])]
    | true =>
      have hnot : ¬separator <+: first :: rest := by
        intro hbegins
        cases separator with
        | nil => exact hne rfl
        | cons head separator =>
          have heq := (cons_prefix_cons.mp hbegins).1
          have hfalse := hhead head rfl
          rw [heq, hfirst] at hfalse
          cases hfalse
      rw [cutAt, if_neg hnot] at h
      obtain ⟨⟨before', behind'⟩, hcut, heq⟩ := Option.map_eq_some_iff.mp h
      cases heq
      rw [dropWhile_cons_of_pos hfirst, ih hcut, dropWhile_cons_of_pos hfirst]

theorem cutAt_eq_none_iff : cutAt separator text = none ↔ ¬separator <:+: text := by
  induction text with
  | nil =>
    rw [cutAt, infix_nil]
    split <;> simp [*]
  | cons head rest ih =>
    rw [cutAt, infix_cons_iff]
    split
    · next hbegins => simp [hbegins]
    · next hnot => rw [Option.map_eq_none_iff, ih, or_iff_right hnot]

theorem cutAtLast_append {mark : α} (h : mark ∉ behind) :
    cutAtLast mark (before ++ mark :: behind) = some (before, behind) := by
  have hall : ∀ x ∈ behind.reverse, decide (x ≠ mark) := fun x hx =>
    decide_eq_true fun heq => h (heq ▸ mem_reverse.mp hx)
  have hreverse : (before ++ mark :: behind).reverse =
      behind.reverse ++ mark :: before.reverse := by simp
  rw [cutAtLast, if_pos (by simp), rdropWhile, rtakeWhile, hreverse,
    dropWhile_append_of_pos hall, takeWhile_append_of_pos hall]
  simp

end AsynGyanis.Library
