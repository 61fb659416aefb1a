import AsynGyanis.Database.ConditionReading
import AsynGyanis.Library.Like

/-!
# Conditions on a literal text

`contains`, `startsWith` and `endsWith` take a text as it is. They escape the
wild cards in it and put their own at its ends, and the statement names the
escape character (`kLikeEscapeClauseText`).
-/

namespace AsynGyanis.Database

open Library.Sql

def kLikeEscapeCharacter : Char := '!'

def escapeLikeLiteralText (text : List Char) : List Char := text.flatMap fun character =>
    if character = '%' ∨ character = '_' ∨ character = '!' then
      [kLikeEscapeCharacter, character]
    else [character]

def makeLikeLiteralCondition (columnName pattern : List Char) :
    WhereCondition :=
  .mk ⟨columnName⟩ .likeLiteral (.parameter (.string pattern)) [] []

def contains (columnName text : List Char) : WhereCondition :=
  makeLikeLiteralCondition columnName (['%'] ++ escapeLikeLiteralText text ++ ['%'])

def startsWith (columnName text : List Char) : WhereCondition :=
  makeLikeLiteralCondition columnName (escapeLikeLiteralText text ++ ['%'])

def endsWith (columnName text : List Char) : WhereCondition :=
  makeLikeLiteralCondition columnName (['%'] ++ escapeLikeLiteralText text)

/-- What the statement says of a value: the pattern that is bound matches it,
by the escape character that is named. -/
def MatchesLiterally (condition : WhereCondition) (value : List Char) : Prop :=
  ∃ left op pattern inValues children escape,
    condition = .mk left op (.parameter (.string pattern)) inValues children ∧
    escapeOf op = some [escape] ∧ likeMatches escape pattern value = true

theorem matchesLiterally_iff (columnName pattern value : List Char) :
    MatchesLiterally (makeLikeLiteralCondition columnName pattern) value ↔
      likeMatches kLikeEscapeCharacter pattern value := by
  constructor
  · rintro ⟨left, op, pattern, inValues, children, escape, heq, hescape, hmatch⟩
    cases heq
    cases hescape
    exact hmatch
  · intro hmatch
    exact ⟨_, _, pattern, _, _, kLikeEscapeCharacter, rfl, rfl, hmatch⟩

theorem percent_ne_escape : '%' ≠ kLikeEscapeCharacter := by decide

theorem matches_escapeLikeLiteralText (text pattern value : List Char) :
    likeMatches kLikeEscapeCharacter (escapeLikeLiteralText text ++ pattern) value ↔
      ∃ rest, value = text ++ rest ∧ likeMatches kLikeEscapeCharacter pattern rest :=
  likeMatches_escaped text pattern value

/-- A value matches exactly if the text stands in it, at its beginning or at
its end. -/
theorem literal_like (columnName text value : List Char) :
    (MatchesLiterally (contains columnName text) value ↔ text <:+: value) ∧
    (MatchesLiterally (startsWith columnName text) value ↔ text <+: value) ∧
    (MatchesLiterally (endsWith columnName text) value ↔ text <:+ value) := by
  refine ⟨?_, ?_, ?_⟩
  · rw [contains, matchesLiterally_iff, List.append_assoc,
      List.singleton_append, likeMatches_percent percent_ne_escape]
    constructor
    · rintro ⟨rest, ⟨before, rfl⟩, hmatch⟩
      obtain ⟨behind, rfl, -⟩ := (matches_escapeLikeLiteralText text _ _).mp hmatch
      exact ⟨before, behind, List.append_assoc _ _ _⟩
    · rintro ⟨before, behind, rfl⟩
      refine ⟨text ++ behind, ⟨before, (List.append_assoc _ _ _).symm⟩, ?_⟩
      exact (matches_escapeLikeLiteralText text _ _).mpr
        ⟨behind, rfl, likeMatches_anything percent_ne_escape behind⟩
  · rw [startsWith, matchesLiterally_iff, matches_escapeLikeLiteralText]
    constructor
    · rintro ⟨rest, rfl, -⟩
      exact ⟨rest, rfl⟩
    · rintro ⟨rest, rfl⟩
      exact ⟨rest, rfl, likeMatches_anything percent_ne_escape rest⟩
  · rw [endsWith, matchesLiterally_iff, List.singleton_append,
      likeMatches_percent percent_ne_escape]
    have hend : ∀ rest, likeMatches kLikeEscapeCharacter
        (escapeLikeLiteralText text) rest = true ↔ rest = text := by
      intro rest
      have hiff := matches_escapeLikeLiteralText text [] rest
      simpa [likeMatches] using hiff
    simp only [hend]
    constructor
    · rintro ⟨rest, hrest, rfl⟩
      exact hrest
    · intro hsuffix
      exact ⟨text, hsuffix, rfl⟩

example : likeMatches '!' (escapeLikeLiteralText "5%!".toList) "5%!".toList =
    true := by decide

end AsynGyanis.Database
