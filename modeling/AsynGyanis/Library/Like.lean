import Mathlib

/-!
# The patterns of `LIKE`

A percent sign stands for any text, an underscore for one character, and
every other character for itself; so does the one behind the escape
character. `likeMatches` tries the texts a percent sign can stand for one
after the other, from the longest rest of the value to the shortest.
-/

namespace AsynGyanis.Library.Sql

def likeMatches (escape : Char) : List Char → List Char → Bool
  | [], value => value.isEmpty
  | mark :: pattern, value =>
    if mark = escape then
      match pattern, value with
      | literal :: pattern, character :: value =>
        literal == character && likeMatches escape pattern value
      | _, _ => false
    else if mark = '%' then
      value.tails.any fun rest => likeMatches escape pattern rest
    else
      match value with
      | [] => false
      | character :: value =>
        (mark = '_' || mark == character) && likeMatches escape pattern value

/-- A text as a pattern for itself. -/
def escaped (escape : Char) (text : List Char) : List Char := text.flatMap fun character =>
    if character = '%' ∨ character = '_' ∨ character = escape then
      [escape, character]
    else [character]

variable {escape : Char}

theorem likeMatches_percent (h : '%' ≠ escape) (pattern value : List Char) :
    likeMatches escape ('%' :: pattern) value ↔
      ∃ rest, rest <:+ value ∧ likeMatches escape pattern rest := by
  rw [likeMatches.eq_def]
  dsimp only
  rw [if_neg h, if_pos rfl, List.any_eq_true]
  simp

theorem likeMatches_anything (h : '%' ≠ escape) (value : List Char) :
    likeMatches escape ['%'] value :=
  (likeMatches_percent h [] value).mpr ⟨[], List.nil_suffix, rfl⟩

theorem likeMatches_escaped_cons (character : Char) (pattern value : List Char) :
    likeMatches escape ((if character = '%' ∨ character = '_' ∨
        character = escape then [escape, character] else [character]) ++
        pattern) value ↔
      ∃ rest, value = character :: rest ∧ likeMatches escape pattern rest := by
  split
  · rw [List.cons_append, List.singleton_append, likeMatches.eq_def]
    dsimp only
    rw [if_pos rfl]
    cases value with
    | nil => simp
    | cons first value =>
      rw [Bool.and_eq_true, beq_iff_eq]
      constructor
      · rintro ⟨rfl, hrest⟩
        exact ⟨value, rfl, hrest⟩
      · rintro ⟨rest, heq, hrest⟩
        cases heq
        exact ⟨rfl, hrest⟩
  · next hplain =>
    obtain ⟨hpercent, hplain⟩ := not_or.mp hplain
    obtain ⟨hunderscore, hescape⟩ := not_or.mp hplain
    rw [List.singleton_append, likeMatches.eq_def]
    dsimp only
    rw [if_neg hescape, if_neg hpercent]
    cases value with
    | nil => simp
    | cons first value =>
      dsimp only
      rw [decide_eq_false hunderscore, Bool.false_or, Bool.and_eq_true, beq_iff_eq]
      constructor
      · rintro ⟨rfl, hrest⟩
        exact ⟨value, rfl, hrest⟩
      · rintro ⟨rest, heq, hrest⟩
        cases heq
        exact ⟨rfl, hrest⟩

theorem likeMatches_escaped (text pattern value : List Char) :
    likeMatches escape (escaped escape text ++ pattern) value ↔
      ∃ rest, value = text ++ rest ∧ likeMatches escape pattern rest := by
  induction text generalizing value with
  | nil => simp [escaped]
  | cons character text ih =>
    rw [escaped, List.flatMap_cons, List.append_assoc, likeMatches_escaped_cons]
    constructor
    · rintro ⟨behind, rfl, hmatch⟩
      obtain ⟨rest, rfl, hrest⟩ := (ih behind).mp hmatch
      exact ⟨rest, rfl, hrest⟩
    · rintro ⟨rest, rfl, hrest⟩
      exact ⟨text ++ rest, rfl, (ih _).mpr ⟨rest, rfl, hrest⟩⟩

end AsynGyanis.Library.Sql
