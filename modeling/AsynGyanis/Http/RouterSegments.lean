import AsynGyanis.Http.RouterDispatch

/-!
# Patterns and whole segments

A pattern matches a path segment by segment, and a slash behind the last
segment counts on neither side. For a plain pattern this is all. In front of
the star of `<prefix>/*` a slash does count, for the prefix ends in an empty
segment there; `precomputeSegments` drops this segment, and such a pattern
matches outside of its prefix (`matchesPattern_iff`).
-/

namespace AsynGyanis.Http

open List

variable {Handler : Type}

/-! ## The specification -/

/-- A segment of a path at the place of one of a pattern. -/
def Fits (patternSegment segment : Bytes) : Prop :=
  if patternSegment.head? = some 0x3A then segment ≠ []
  else segment = patternSegment

/-- The segments of a prefix, an empty one behind a slash at its end too. -/
def prefixSegments (fixed : Bytes) : List Bytes :=
  if fixed = [] then [] else (dropLeadingSlash fixed).splitOn 0x2F

def kWildcardEnd : Bytes := [0x2F, 0x2A]

inductive MatchesBySegments : Bytes → Bytes → Prop
  | plain {pattern rest : Bytes} (hplain : pattern ≠ [0x2A]) (hend : ¬kWildcardEnd <:+ pattern)
      (hfits : List.Forall₂ Fits (splitSegments (dropLeadingSlash pattern)) (splitSegments rest)) :
      MatchesBySegments pattern (0x2F :: rest)
  | bare (rest : Bytes) : MatchesBySegments [0x2A] (0x2F :: rest)
  | wildcard {fixed rest : Bytes} {taken more : List Bytes}
      (hrest : rest.splitOn 0x2F = taken ++ more)
      (hfits : List.Forall₂ Fits (prefixSegments fixed) taken) :
      MatchesBySegments (fixed ++ kWildcardEnd) (0x2F :: rest)

/-! ## Segments -/

theorem splitSegments_of_ne_nil {text : Bytes} (h : text ≠ []) :
    splitSegments text = text.takeWhile (· ≠ 0x2F) ::
      splitSegments (text.dropWhile (· ≠ 0x2F)).tail := by
  cases text with
  | nil => exact absurd rfl h
  | cons first rest =>
    rw [splitSegments]
    split
    · next hdrop => rw [hdrop, tail_nil, splitSegments]
    · next hdrop => rw [hdrop, tail_cons]

theorem splitOn_eq_splitSegments (text : Bytes) : text.splitOn 0x2F = splitSegments text ++
      if text.getLast?.all (· = 0x2F) then [[]] else [] := by
  induction hn : text.length using Nat.strongRecOn generalizing text with
  | ind n ih =>
    by_cases hnil : text = []
    · subst hnil
      rw [splitSegments]
      rfl
    have hwhole := takeWhile_append_dropWhile (p := fun c : UInt8 => decide (c ≠ 0x2F)) (l := text)
    rw [splitOn_of_dropWhile, splitSegments_of_ne_nil hnil, cons_append]
    congr 1
    cases hdrop : text.dropWhile (· ≠ 0x2F) with
    | nil =>
      rw [hdrop, append_nil] at hwhole
      have hlast : text.getLast?.all (· = 0x2F) = false := by
        cases hlast : text.getLast? with
        | none => exact absurd (getLast?_eq_none_iff.mp hlast) hnil
        | some c =>
          have hmem := mem_of_getLast? hlast
          rw [← hwhole] at hmem
          simpa using mem_takeWhile_imp hmem
      rw [hlast, tail_nil, splitSegments]
      rfl
    | cons slash after =>
      have hslash : slash = 0x2F := by
        have h := head_dropWhile_not (· ≠ 0x2F) (l := text) (by rw [hdrop]; exact cons_ne_nil _ _)
        simp only [hdrop, head_cons] at h
        simpa using h
      rw [hdrop, hslash] at hwhole
      have hlast : text.getLast?.all (· = 0x2F) = after.getLast?.all (· = 0x2F) := by
        rw [← hwhole, getLast?_append, getLast?_cons]
        cases after.getLast? <;> rfl
      rw [hlast, tail_cons]
      refine ih after.length ?_ after rfl
      rw [← hn, ← hwhole, length_append, length_cons]
      omega

theorem matchSegments_isSome_iff (segments : List Bytes) (isWildcard : Bool)
    (remaining : Bytes) (collected : PathParameters) :
    (matchSegments segments isWildcard remaining collected).isSome ↔
      ∃ taken more, splitSegments remaining = taken ++ more ∧
        List.Forall₂ Fits segments taken ∧ (isWildcard = true ∨ more = []) := by
  induction segments generalizing remaining collected with
  | nil =>
    simp only [forall₂_nil_left_iff, matchSegments]
    by_cases hremaining : remaining = []
    · cases isWildcard <;> simp [hremaining, splitSegments]
    · cases isWildcard <;>
        simp [hremaining, splitSegments_of_ne_nil hremaining]
  | cons patternSegment rest ih =>
    rw [matchSegments]
    by_cases hremaining : remaining = []
    · subst hremaining
      rw [if_pos rfl, splitSegments]
      constructor
      · rintro ⟨⟩
      · rintro ⟨taken, more, heq, hfits, -⟩
        rw [(append_eq_nil_iff.mp heq.symm).1] at hfits
        cases hfits
    rw [if_neg hremaining, splitSegments_of_ne_nil hremaining]
    generalize remaining.takeWhile (· ≠ 0x2F) = segment
    generalize (remaining.dropWhile (· ≠ 0x2F)).tail = behind
    have hcons : (∃ taken more, segment :: splitSegments behind =
          taken ++ more ∧ List.Forall₂ Fits (patternSegment :: rest) taken ∧
          (isWildcard = true ∨ more = [])) ↔
        Fits patternSegment segment ∧ ∃ taken more, splitSegments behind =
          taken ++ more ∧ List.Forall₂ Fits rest taken ∧
          (isWildcard = true ∨ more = []) := by
      constructor
      · rintro ⟨taken, more, heq, hfits, hend⟩
        cases hfits with
        | cons hfit hfits =>
          obtain ⟨rfl, hmore⟩ := cons.inj heq
          exact ⟨hfit, _, more, hmore, hfits, hend⟩
      · rintro ⟨hfit, taken, more, heq, hfits, hend⟩
        exact ⟨segment :: taken, more, by rw [heq]; rfl, .cons hfit hfits, hend⟩
    rw [hcons, Fits]
    split
    · by_cases hsegment : segment = []
      · simp [hsegment]
      · rw [if_neg hsegment, ih]
        simp [hsegment]
    · by_cases hsegment : segment = patternSegment
      · rw [if_neg (by simp [hsegment]), ih]
        simp [hsegment]
      · rw [if_pos (Ne.symm hsegment)]
        simp [hsegment]

/-! ## Patterns -/

theorem pattern_cases (pattern : Bytes) : pattern = [0x2A] ∨
    (∃ fixed, pattern = fixed ++ kWildcardEnd) ∨
    (pattern ≠ [0x2A] ∧ ¬kWildcardEnd <:+ pattern) := by
  by_cases hbare : pattern = [0x2A]
  · exact .inl hbare
  by_cases hend : kWildcardEnd <:+ pattern
  · obtain ⟨fixed, rfl⟩ := hend
    exact .inr (.inl ⟨fixed, rfl⟩)
  · exact .inr (.inr ⟨hbare, hend⟩)

theorem precomputeSegments_wildcard (fixed : Bytes) : precomputeSegments (fixed ++ kWildcardEnd) =
      ⟨splitSegments (dropLeadingSlash fixed), fixed ++ [0x2F], true⟩ := by
  have hprefix : (fixed ++ kWildcardEnd).dropLast = fixed ++ [0x2F] := by
    rw [kWildcardEnd, append_cons, dropLast_concat]
  simp [precomputeSegments, hprefix, kWildcardEnd]

theorem precomputeSegments_plain {pattern : Bytes} (hplain : pattern ≠ [0x2A])
    (hend : ¬kWildcardEnd <:+ pattern) : precomputeSegments pattern =
      ⟨splitSegments (dropLeadingSlash pattern), [], false⟩ := by
  have hnot : (decide (pattern.getLast? = some 0x2A) &&
      ((decide (pattern.dropLast = []) || decide (pattern.dropLast = [0x2F]))
        || decide (pattern.dropLast.getLast? = some 0x2F))) = false := by
    by_contra h
    simp only [Bool.not_eq_false, Bool.and_eq_true, Bool.or_eq_true, decide_eq_true_eq] at h
    obtain ⟨hstar, hprefix⟩ := h
    obtain ⟨front, rfl⟩ := getLast?_eq_some_iff.mp hstar
    rw [dropLast_concat] at hprefix
    rcases hprefix with (rfl | rfl) | hslash
    · exact hplain rfl
    · exact hend ⟨[], rfl⟩
    · obtain ⟨fixed, rfl⟩ := getLast?_eq_some_iff.mp hslash
      exact hend ⟨fixed, by simp [kWildcardEnd]⟩
  simp [precomputeSegments, hnot]

variable (route : PatternRoute Handler)

theorem matchesPattern_of_not_rooted {path : Bytes}
    (h : path.head? ≠ some 0x2F) : matchesPattern route path = none := by
  rw [matchesPattern.eq_def]
  split
  · exact absurd rfl h
  · rfl

theorem matchesPattern_plain (hplain : route.pattern ≠ [0x2A])
    (hend : ¬kWildcardEnd <:+ route.pattern) (path : Bytes) :
    (matchesPattern route path).isSome ↔ MatchesBySegments route.pattern path := by
  have hmatch : ∀ rest, (matchesPattern route (0x2F :: rest)).isSome ↔
      List.Forall₂ Fits (splitSegments (dropLeadingSlash route.pattern)) (splitSegments rest) := by
    intro rest
    rw [matchesPattern, route.parts_eq, precomputeSegments_plain hplain hend,
      matchSegments_isSome_iff]
    constructor
    · rintro ⟨taken, more, heq, hfits, hnone⟩
      rw [hnone.resolve_left Bool.false_ne_true, append_nil] at heq
      rwa [heq]
    · exact fun hfits => ⟨_, [], (append_nil _).symm, hfits, .inr rfl⟩
  constructor
  · intro h
    by_cases hrooted : path.head? = some 0x2F
    · obtain ⟨rest, rfl⟩ := head?_eq_some_iff.mp hrooted
      exact .plain hplain hend ((hmatch rest).mp h)
    · rw [matchesPattern_of_not_rooted route hrooted] at h
      cases h
  · intro h
    generalize hpattern : route.pattern = pattern at h
    cases h with
    | plain _ _ hfits => exact (hmatch _).mpr (hpattern ▸ hfits)
    | bare => exact absurd hpattern hplain
    | wildcard => exact absurd ⟨_, hpattern.symm⟩ hend

/-! ## Wildcards -/

section Wildcard

variable {route} {fixed : Bytes} (hpattern : route.pattern = fixed ++ kWildcardEnd)

include hpattern

omit hpattern in
theorem not_mem_of_splitSegments {text segment : Bytes}
    (h : segment ∈ splitSegments text) : (0x2F : UInt8) ∉ segment := by
  induction hn : text.length using Nat.strongRecOn generalizing text with
  | ind n ih =>
    by_cases hnil : text = []
    · rw [hnil, splitSegments] at h
      cases h
    rw [splitSegments_of_ne_nil hnil] at h
    rcases mem_cons.mp h with rfl | h
    · intro hmem
      simpa using mem_takeWhile_imp hmem
    refine ih _ ?_ h rfl
    have hle := (dropWhile_suffix (l := text) (· ≠ 0x2F)).length_le
    have hpos := length_pos_iff.mpr hnil
    rw [length_tail]
    omega

theorem matchesPattern_wildcard (rest : Bytes) : (matchesPattern route (0x2F :: rest)).isSome ↔
      ∃ taken more, splitSegments rest = taken ++ more ∧
        List.Forall₂ Fits (splitSegments (dropLeadingSlash fixed)) taken := by
  rw [matchesPattern, route.parts_eq, hpattern, precomputeSegments_wildcard,
    matchSegments_isSome_iff]
  simp

theorem matchesBySegments_wildcard (rest : Bytes) : MatchesBySegments route.pattern (0x2F :: rest) ↔
      ∃ taken more, rest.splitOn 0x2F = taken ++ more ∧
        List.Forall₂ Fits (prefixSegments fixed) taken := by
  constructor
  · intro h
    generalize route.pattern = pattern at hpattern h
    cases h with
    | plain _ hend _ => exact absurd ⟨fixed, hpattern.symm⟩ hend
    | bare =>
      have hlength := congrArg length hpattern
      simp [kWildcardEnd] at hlength
    | wildcard hrest hfits =>
      cases append_cancel_right hpattern
      exact ⟨_, _, hrest, hfits⟩
  · rintro ⟨taken, more, hrest, hfits⟩
    rw [hpattern]
    exact .wildcard hrest hfits

omit hpattern in
theorem trailing_dropLeadingSlash (hne : fixed ≠ []) :
    (dropLeadingSlash fixed).getLast?.all (· = 0x2F) =
      decide (fixed.getLast? = some 0x2F) := by
  rw [dropLeadingSlash.eq_def]
  split
  · next rest =>
    rw [getLast?_cons]
    cases rest.getLast? <;> simp
  · cases hlast : fixed.getLast? with
    | none => exact absurd (getLast?_eq_none_iff.mp hlast) hne
    | some c => simp

omit hpattern in
theorem eq_nil_of_fits {patternSegment : Bytes} (h : Fits patternSegment []) :
    patternSegment = [] := by
  rw [Fits] at h
  split at h
  · exact absurd rfl h
  · exact h.symm

omit hpattern in
theorem fits_of_concat {segments taken : List Bytes} {patternSegment segment : Bytes}
    (h : List.Forall₂ Fits (segments ++ [patternSegment])
      (taken ++ [segment])) : Fits patternSegment segment := by
  have hlength : segments.length = taken.length := by
    simpa using h.length_eq
  have hlast := forall₂_drop_append _ _ _ h
  rw [← hlength, drop_left] at hlast
  exact (forall₂_cons.mp hlast).1

omit hpattern in
theorem ne_concat_nil {text : Bytes}
    (h : text.getLast?.all (· = 0x2F) = false) (segments : List Bytes) :
    text.splitOn 0x2F ≠ segments ++ [[]] := by
  intro hsplit
  have hjoin : _ = text := intercalate_splitOn 0x2F
  rw [hsplit] at hjoin
  by_cases hnil : segments = []
  · subst hnil
    rw [← hjoin] at h
    exact nomatch h
  · have hlast : ([0x2F].intercalate (segments ++ [[]])).getLast? = some 0x2F := by
      rw [intercalate_append hnil (cons_ne_nil _ _)]
      simp
    rw [← hjoin, hlast] at h
    exact nomatch h

theorem wildcard_kept (hslash : fixed.getLast? ≠ some 0x2F) (rest : Bytes) :
    (matchesPattern route (0x2F :: rest)).isSome ↔
      MatchesBySegments route.pattern (0x2F :: rest) := by
  rw [matchesPattern_wildcard hpattern, matchesBySegments_wildcard hpattern, prefixSegments]
  by_cases hnil : fixed = []
  · subst hnil
    rw [if_pos rfl, dropLeadingSlash, splitSegments]
    · simp
    · rintro _ ⟨⟩
  have htrailing := trailing_dropLeadingSlash hnil
  rw [decide_eq_false hslash] at htrailing
  have hsame := splitOn_eq_splitSegments (dropLeadingSlash fixed)
  rw [htrailing, if_neg Bool.false_ne_true, append_nil] at hsame
  rw [if_neg hnil, ← hsame, splitOn_eq_splitSegments rest]
  constructor
  · rintro ⟨taken, more, hrest, hfits⟩
    exact ⟨taken, _, by rw [hrest, append_assoc], hfits⟩
  rintro ⟨taken, more, hrest, hfits⟩
  split at hrest
  · rcases eq_nil_or_concat more with rfl | ⟨more, last, rfl⟩
    · rw [append_nil] at hrest
      rw [← hrest] at hfits
      obtain ⟨segments, last, hlast⟩ :=
        (eq_nil_or_concat _).resolve_left (splitOn_ne_nil 0x2F (dropLeadingSlash fixed))
      rw [concat_eq_append] at hlast
      rw [hlast] at hfits
      rw [eq_nil_of_fits (fits_of_concat hfits)] at hlast
      exact absurd hlast (ne_concat_nil htrailing segments)
    · rw [concat_eq_append, ← append_assoc] at hrest
      exact ⟨taken, more, (append_inj' hrest rfl).1, hfits⟩
  · rw [append_nil] at hrest
    exact ⟨taken, more, hrest, hfits⟩

theorem wildcard_escape (hslash : fixed.getLast? = some 0x2F) :
    ∃ rest, (matchesPattern route (0x2F :: rest)).isSome ∧
      ¬MatchesBySegments route.pattern (0x2F :: rest) := by
  have hne : fixed ≠ [] := by
    rintro rfl
    cases hslash
  have htrailing := trailing_dropLeadingSlash hne
  rw [decide_eq_true hslash] at htrailing
  have hsplit := splitOn_eq_splitSegments (dropLeadingSlash fixed)
  rw [htrailing, if_pos rfl] at hsplit
  let chosen : Bytes → Bytes := fun segment =>
    if segment.head? = some 0x3A then [0x78] else segment
  generalize hsegments : splitSegments (dropLeadingSlash fixed) = segments at hsplit
  have hfree : ∀ segment ∈ segments.map chosen ++ [[0x78]], (0x2F : UInt8) ∉ segment := by
    intro segment hmem
    rcases mem_append.mp hmem with hmem | hmem
    · obtain ⟨patternSegment, hin, rfl⟩ := mem_map.mp hmem
      show _ ∉ if patternSegment.head? = some 0x3A then _ else _
      split
      · decide
      · exact not_mem_of_splitSegments (hsegments ▸ hin)
    · rw [mem_singleton.mp hmem]
      decide
  have hpath := splitOn_intercalate 0x2F hfree (by simp)
  refine ⟨[0x2F].intercalate (segments.map chosen ++ [[0x78]]), ?_, ?_⟩
  · rw [matchesPattern_wildcard hpattern, hsegments]
    rw [splitOn_eq_splitSegments] at hpath
    split at hpath
    · exact nomatch (append_inj' hpath rfl).2
    rw [append_nil] at hpath
    refine ⟨segments.map chosen, [[0x78]], hpath, ?_⟩
    rw [forall₂_map_right_iff, forall₂_same]
    intro segment _
    show Fits segment (if segment.head? = some 0x3A then _ else _)
    rw [Fits]
    split
    · exact cons_ne_nil _ _
    · rfl
  · rw [matchesBySegments_wildcard hpattern, hpath, prefixSegments, if_neg hne, hsplit]
    rintro ⟨taken, more, hrest, hfits⟩
    have hlength := congrArg length hrest
    rw [length_append, length_append, length_map, ← hfits.length_eq, length_append] at hlength
    have hnone : more = [] := length_eq_zero_iff.mp (by simpa using hlength)
    rw [hnone, append_nil] at hrest
    rw [← hrest] at hfits
    exact nomatch (fits_of_concat hfits : Fits [] [0x78])

omit hpattern in
theorem eq_of_literal {segments taken : List Bytes}
    (hliteral : ∀ segment ∈ segments, (0x3A : UInt8) ∉ segment)
    (hfits : List.Forall₂ Fits segments taken) : taken = segments := by
  induction hfits with
  | nil => rfl
  | @cons segment _ _ _ hfit _ ih =>
    rw [ih fun s hmem => hliteral s (mem_cons_of_mem _ hmem)]
    have hname : segment.head? ≠ some 0x3A := fun hname =>
      hliteral segment mem_cons_self (mem_of_mem_head? hname)
    rw [Fits, if_neg hname] at hfit
    rw [hfit]

theorem below_prefix (hliteral : (0x3A : UInt8) ∉ fixed)
    (hrooted : fixed.head?.all (· = 0x2F)) {rest : Bytes}
    (h : MatchesBySegments route.pattern (0x2F :: rest)) :
    0x2F :: rest = fixed ∨ fixed ++ [0x2F] <+: 0x2F :: rest := by
  obtain ⟨taken, more, hrest, hfits⟩ := (matchesBySegments_wildcard hpattern rest).mp h
  cases fixed with
  | nil => exact .inr ⟨rest, rfl⟩
  | cons slash text =>
    have hslash : slash = 0x2F := by simpa using hrooted
    subst hslash
    rw [prefixSegments, if_neg (cons_ne_nil _ _), dropLeadingSlash] at hfits
    have htaken := eq_of_literal (fun segment hmem hcolon => by
      rw [splitOn_eq_splitSegments] at hmem
      rcases mem_append.mp hmem with hmem | hmem
      · exact hliteral (mem_cons_of_mem _ (mem_splitSegments hmem hcolon))
      · split at hmem
        · rw [mem_singleton.mp hmem] at hcolon
          cases hcolon
        · exact nomatch hmem) hfits
    have hjoin : _ = rest := intercalate_splitOn 0x2F
    rw [hrest, htaken] at hjoin
    by_cases hmore : more = []
    · rw [hmore, append_nil, intercalate_splitOn] at hjoin
      exact .inl (by rw [hjoin])
    · rw [intercalate_append (splitOn_ne_nil _ _) hmore, intercalate_splitOn] at hjoin
      exact .inr ⟨_, by rw [← hjoin]; rfl⟩

end Wildcard

variable {route}

theorem matchesPattern_bare (hpattern : route.pattern = [0x2A])
    (rest : Bytes) : (matchesPattern route (0x2F :: rest)).isSome := by
  have hparts : precomputeSegments [0x2A] = ⟨[], [], true⟩ := by
    simp [precomputeSegments, dropLeadingSlash, splitSegments]
  rw [matchesPattern, route.parts_eq, hpattern, hparts]
  rfl

theorem rooted_of_matches {pattern path : Bytes}
    (h : MatchesBySegments pattern path) : path.head? = some 0x2F := by
  cases h <;> rfl

/-- A route matches by whole segments, and below its prefix, unless its
pattern ends in a slash, a slash and the star. -/
theorem matchesPattern_iff :
    ((∀ path, (matchesPattern route path).isSome ↔ MatchesBySegments route.pattern path) ∧
      ∀ fixed, route.pattern = fixed ++ kWildcardEnd →
        (0x3A : UInt8) ∉ fixed → fixed.head?.all (· = 0x2F) →
        ∀ path, (matchesPattern route path).isSome → path = fixed ∨ fixed ++ [0x2F] <+: path) ↔
    ¬(0x2F :: kWildcardEnd) <:+ route.pattern := by
  constructor
  · rintro ⟨hall, -⟩ ⟨front, hpattern⟩
    obtain ⟨rest, hmatch, hnot⟩ := @wildcard_escape _ route (front ++ [0x2F])
        (by rw [← hpattern, append_assoc]; rfl) (by simp)
    exact hnot ((hall _).mp hmatch)
  intro hend
  have hall : ∀ path, (matchesPattern route path).isSome ↔
      MatchesBySegments route.pattern path := by
    intro path
    by_cases hrooted : path.head? = some 0x2F
    swap
    · rw [matchesPattern_of_not_rooted route hrooted]
      exact ⟨nofun, fun h => absurd (rooted_of_matches h) hrooted⟩
    obtain ⟨rest, rfl⟩ := head?_eq_some_iff.mp hrooted
    rcases pattern_cases route.pattern with hbare | ⟨fixed, hpattern⟩ | ⟨hplain, hstar⟩
    · rw [hbare]
      exact ⟨fun _ => .bare rest, fun _ => matchesPattern_bare hbare rest⟩
    · refine wildcard_kept hpattern (fun hslash => hend ?_) rest
      obtain ⟨front, rfl⟩ := getLast?_eq_some_iff.mp hslash
      exact ⟨front, by rw [hpattern, append_assoc]; rfl⟩
    · exact matchesPattern_plain route hplain hstar _
  refine ⟨hall, fun fixed hpattern hliteral hfirst path hmatch => ?_⟩
  have hmatch := (hall path).mp hmatch
  obtain ⟨rest, rfl⟩ := head?_eq_some_iff.mp (rooted_of_matches hmatch)
  exact below_prefix hpattern hliteral hfirst hmatch

/-- The prefix `/a/` has an empty segment at its end, and `/a/x` is outside
of it. -/
theorem wildcard_outside_prefix :
    (matchesPattern (PatternRoute.create .get false (asciiText "/a//*") ()
      false) (asciiText "/a/x")).isSome = true ∧
    asciiText "/a/x" ≠ asciiText "/a/" ∧
    ¬asciiText "/a//" <+: asciiText "/a/x" := by
  refine ⟨?_, by decide, by decide⟩
  rw [show asciiText "/a/x" = 0x2F :: [0x61, 0x2F, 0x78] from rfl,
    @matchesPattern_wildcard _ _ [0x2F, 0x61, 0x2F] rfl]
  exact ⟨[[0x61]], [[0x78]], by simp [splitSegments_of_ne_nil, splitSegments],
    by simp [dropLeadingSlash, splitSegments_of_ne_nil, splitSegments, Fits]⟩

end AsynGyanis.Http
