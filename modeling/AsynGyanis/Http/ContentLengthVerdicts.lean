import AsynGyanis.Http.HttpParserCuts
import AsynGyanis.Http.HttpResponseParser
import AsynGyanis.Http2.RequestHead
import AsynGyanis.Http3.HeaderValidation

/-!
# Four verdicts on a declared length

The parser of HTTP/1 requests, that of responses, the HTTP/2 connection and
the HTTP/3 validator each judge the content-length fields of a message. All
of them want one number, in digits only, and the same one each time. Three
call `parseContentLengthValue`, which takes up to 19 characters; the parser of
requests calls `from_chars`, which takes as many zeros in front as there are
and all numbers of 64 bits. `contentLength_verdicts` says for which values
that makes a difference.

A verdict is `none` if the values are refused, and else the length, if there
is one. The two HTTP/1 parsers also refuse a length above their limit for
bodies.
-/

namespace AsynGyanis.Http

open Http2 (acceptRequestContentLength)
open Http3 (Http3HeaderValidator)

/-! ## The verdicts -/

/-- The parser of requests sees the values of its fields trimmed. -/
def requestVerdict (limits : HttpParserLimits) (values : List Bytes) : Option (Option Nat) :=
  (values.foldlM (fun (p : HttpParser) value =>
    p.parseContentLength (trimOptionalWhitespace value))
    { limits := limits }).toOption.map fun p =>
      if p.hasContentLength then some p.contentLength else none

/-- The parser of responses sees them without white space in front. -/
def responseVerdict (maximumBodySize : Nat) (values : List Bytes) : Option (Option Nat) :=
  (HttpResponseParser.framingFields (values.map fun value =>
    (asciiText "content-length", value.dropWhile isOptionalWhitespace))).bind fun fields =>
    if fields.hasContentLength then
      if exceedsBudget fields.declaredLength maximumBodySize then none
      else some (some fields.declaredLength)
    else some none

def http2Verdict (values : List Bytes) : Option (Option Nat) :=
  (values.foldlM (fun length value =>
    (acceptRequestContentLength length value).map some) none).toOption

def http3Verdict (kind : Http3.Http3MessageKind) (values : List Bytes) : Option (Option Nat) :=
  (values.foldlM (fun (v : Http3HeaderValidator) value =>
    v.onContentLengthField value) { messageKind := kind }).toOption.map (·.contentLengthByteCount)

/-! ## One number -/

/-- One value more: a number, and the same as before. -/
def noteLength (number : Bytes → Option Nat) (length : Option Nat)
    (value : Bytes) : Option (Option Nat) :=
  (number value).bind fun n =>
    if length.any (· ≠ n) then none else some (some n)

/-- What values come to when each is read with `number`. -/
def agreedLength (number : Bytes → Option Nat) (values : List Bytes) : Option (Option Nat) :=
  values.foldlM (noteLength number) none

section Agreed

variable {number : Bytes → Option Nat} {values : List Bytes} {n : Nat}

theorem foldlM_noteLength (length : Option Nat) :
    values.foldlM (noteLength number) length = some (some n) ↔
      (∀ m ∈ length, m = n) ∧ (∀ value ∈ values, number value = some n) ∧
        (values = [] → length = some n) := by
  induction values generalizing length with
  | nil =>
    constructor
    · intro h
      cases h
      simp
    rintro ⟨-, -, h⟩
    rw [h rfl]
    rfl
  | cons value values ih =>
    rw [List.foldlM_cons, noteLength]
    cases hnumber : number value with
    | none => simp [hnumber]
    | some m =>
      by_cases hsame : ∀ k ∈ length, k = m
      · have hany : length.any (· ≠ m) = false := by
          cases length <;> simp_all
        rw [Option.bind_some, hany, if_neg Bool.false_ne_true]
        show values.foldlM (noteLength number) (some m) = _ ↔ _
        rw [ih]
        constructor
        · rintro ⟨hm, hvalues, -⟩
          have hm : m = n := hm m rfl
          subst hm
          refine ⟨hsame, fun v hv => ?_, nofun⟩
          rcases List.mem_cons.mp hv with rfl | hv
          · exact hnumber
          · exact hvalues v hv
        rintro ⟨-, hvalues, -⟩
        have hm := hvalues value List.mem_cons_self
        rw [hnumber, Option.some.injEq] at hm
        subst hm
        exact ⟨fun k hk => (Option.some.inj hk).symm,
          fun v hv => hvalues v (List.mem_cons_of_mem _ hv),
          fun _ => rfl⟩
      · have hany : length.any (· ≠ m) := by
          cases length <;> simp_all
        rw [Option.bind_some, hany, if_pos rfl]
        constructor
        · exact nofun
        rintro ⟨hlength, hvalues, -⟩
        have hm := hvalues value List.mem_cons_self
        rw [hnumber, Option.some.injEq] at hm
        subst hm
        exact absurd hlength hsame

theorem agreedLength_eq_some : agreedLength number values = some (some n) ↔
    values ≠ [] ∧ ∀ value ∈ values, number value = some n := by
  rw [agreedLength, foldlM_noteLength]
  constructor
  · exact fun ⟨_, hvalues, hnil⟩ => ⟨(nomatch hnil ·), hvalues⟩
  · exact fun ⟨hne, hvalues⟩ => ⟨nofun, hvalues, fun h => absurd h hne⟩

theorem agreedLength_ne_absent (h : values ≠ []) : agreedLength number values ≠ some none := by
  have hgeneral : ∀ (values : List Bytes) (length : Option Nat), values ≠ [] ∨ length ≠ none →
      values.foldlM (noteLength number) length ≠ some none := by
    intro values
    induction values with
    | nil =>
      rintro length (h | h) heq
      · exact h rfl
      · exact h (Option.some.inj heq)
    | cons value values ih =>
      intro length _ heq
      obtain ⟨next, hnext, heq⟩ := Option.bind_eq_some_iff.mp heq
      refine ih next (.inr ?_) heq
      obtain ⟨m, -, hnext⟩ := Option.bind_eq_some_iff.mp hnext
      split at hnext
      · cases hnext
      · cases hnext
        exact nofun
  exact hgeneral values none (.inl h)

end Agreed

theorem foldlM_agreed {σ : Type} {f : σ → Bytes → Option σ}
    {noted : σ → Option Nat} (inv : σ → Prop) {number : Bytes → Option Nat}
    (hstep : ∀ s value, inv s → (f s value).map noted = noteLength number (noted s) value)
    (hinv : ∀ s value t, inv s → f s value = some t → inv t)
    {s : σ} (hs : inv s) (values : List Bytes) :
    (values.foldlM f s).map noted = values.foldlM (noteLength number) (noted s) := by
  induction values generalizing s with
  | nil => rfl
  | cons value values ih =>
    rw [List.foldlM_cons, List.foldlM_cons]
    have hone := hstep s value hs
    cases hf : f s value with
    | none =>
      rw [hf] at hone
      rw [← hone]
      rfl
    | some t =>
      rw [hf] at hone
      rw [← hone]
      exact ih (hinv s value t hs hf)

theorem toOption_foldlM {σ ε : Type} (f : σ → Bytes → Except ε σ) (s : σ)
    (values : List Bytes) : (values.foldlM f s).toOption =
      values.foldlM (fun s value => (f s value).toOption) s := by
  induction values generalizing s with
  | nil => rfl
  | cons value values ih =>
    rw [List.foldlM_cons, List.foldlM_cons]
    cases f s value with
    | error e => rfl
    | ok t => exact ih t

theorem agreedLength_filter (number : Bytes → Option Nat) (P : Nat → Bool) (values : List Bytes) :
    agreedLength (fun value => (number value).filter P) values =
      (agreedLength number values).filter fun length => length.all P := by
  by_cases hnil : values = []
  · subst hnil
    rfl
  obtain ⟨first, hfirst⟩ := List.exists_mem_of_ne_nil values hnil
  cases hagreed : agreedLength number values with
  | none =>
    cases hbounded : agreedLength (fun value => (number value).filter P) values with
    | none => rfl
    | some length =>
      cases length with
      | none => exact absurd hbounded (agreedLength_ne_absent hnil)
      | some n =>
        obtain ⟨-, hall⟩ := agreedLength_eq_some.mp hbounded
        have hsome := agreedLength_eq_some.mpr ⟨hnil, fun v hv =>
          (Option.filter_eq_some_iff.mp (hall v hv)).1⟩
        exact nomatch hagreed.symm.trans hsome
  | some length =>
    cases length with
    | none => exact absurd hagreed (agreedLength_ne_absent hnil)
    | some n =>
      obtain ⟨-, hall⟩ := agreedLength_eq_some.mp hagreed
      cases hP : P n with
      | true =>
        rw [Option.filter_some, Option.all_some, hP, if_pos rfl]
        exact agreedLength_eq_some.mpr ⟨hnil, fun v hv =>
          Option.filter_eq_some_iff.mpr ⟨hall v hv, hP⟩⟩
      | false =>
        rw [Option.filter_some, Option.all_some, hP, if_neg Bool.false_ne_true]
        cases hbounded : agreedLength (fun value => (number value).filter P) values with
        | none => rfl
        | some length =>
          cases length with
          | none => exact absurd hbounded (agreedLength_ne_absent hnil)
          | some m =>
            obtain ⟨-, hall'⟩ := agreedLength_eq_some.mp hbounded
            obtain ⟨hm, hPm⟩ := Option.filter_eq_some_iff.mp (hall' first hfirst)
            rw [hall first hfirst] at hm
            cases hm
            exact nomatch hP.symm.trans hPm

/-! ## What each judge reads -/

/-- `from_chars` has to take all of the text. -/
def wholeNumber (text : Bytes) : Option Nat :=
  match fromCharsSize text with
  | some (n, []) => some n
  | _ => none

def withinLimit (limit n : Nat) : Bool := !exceedsBudget n limit

theorem http2Verdict_eq (values : List Bytes) :
    http2Verdict values = agreedLength parseContentLengthValue values := by
  rw [http2Verdict, toOption_foldlM, ← Option.map_id' (x := List.foldlM _ _ values)]
  refine foldlM_agreed (fun _ => True) (fun length value _ => ?_)
    (fun _ _ _ _ _ => trivial) trivial values
  rw [acceptRequestContentLength, noteLength]
  cases parseContentLengthValue value with
  | none => rfl
  | some n =>
    show Option.map _ (Except.toOption (Except.map some
      (if length.any (· ≠ n) = true then _ else _))) =
      if length.any (· ≠ n) = true then _ else _
    by_cases hother : length.any (· ≠ n)
    · rw [if_pos hother, if_pos hother]
      rfl
    · rw [if_neg hother, if_neg hother]
      rfl

theorem http3Verdict_eq (kind : Http3.Http3MessageKind)
    (values : List Bytes) : http3Verdict kind values =
      agreedLength parseContentLengthValue values := by
  rw [http3Verdict, toOption_foldlM]
  refine foldlM_agreed (fun _ => True) (fun v value _ => ?_)
    (fun _ _ _ _ _ => trivial) trivial values
  rw [Http3HeaderValidator.onContentLengthField, noteLength]
  cases parseContentLengthValue value with
  | none => rfl
  | some n =>
    show Option.map _ (Except.toOption
      (if v.contentLengthByteCount.any (· ≠ n) = true then _ else _)) =
      if v.contentLengthByteCount.any (· ≠ n) = true then _ else _
    by_cases hother : v.contentLengthByteCount.any (· ≠ n)
    · rw [if_pos hother, if_pos hother]
      rfl
    · rw [if_neg hother, if_neg hother]
      rfl

theorem parseContentLengthValue_dropWhile (value : Bytes) :
    parseContentLengthValue (value.dropWhile isOptionalWhitespace) =
      parseContentLengthValue value := by
  have htrim : trimOptionalWhitespace (value.dropWhile isOptionalWhitespace) =
      trimOptionalWhitespace value := by
    rw [trimOptionalWhitespace, trimOptionalWhitespace, List.dropWhile_idempotent]
  rw [parseContentLengthValue, parseContentLengthValue, htrim]

theorem responseVerdict_eq (limit : Nat) (values : List Bytes) : responseVerdict limit values =
      (agreedLength parseContentLengthValue values).filter fun length =>
        length.all (withinLimit limit) := by
  have hfold : (values.foldlM (fun (fields : HttpResponseParser.FramingFields) value => fields.note
        (asciiText "content-length", value.dropWhile isOptionalWhitespace))
        {}).map (fun fields =>
          if fields.hasContentLength then some fields.declaredLength
          else none) = agreedLength parseContentLengthValue values := by
    refine foldlM_agreed (fun _ => True) (fun fields value _ => ?_)
      (fun _ _ _ _ _ => trivial) trivial values
    have hname : equalsIgnoringCase (asciiText "content-length")
        (asciiText "content-length") := decide_eq_true rfl
    rw [HttpResponseParser.FramingFields.note, if_pos hname,
      parseContentLengthValue_dropWhile, noteLength]
    cases parseContentLengthValue value with
    | none => rfl
    | some n =>
      cases hhas : fields.hasContentLength with
      | false => simp
      | true =>
        by_cases hsame : n = fields.declaredLength
        · simp [hsame]
        · simp [hsame, Ne.symm hsame]
  rw [responseVerdict, HttpResponseParser.framingFields, List.foldlM_map, ← hfold]
  generalize values.foldlM (_ : _ → _ → Option _) _ = noted
  cases noted with
  | none => rfl
  | some fields =>
    show (if fields.hasContentLength = true then _ else _) =
      Option.filter _ (some (if fields.hasContentLength = true then _ else _))
    cases fields.hasContentLength with
    | false => rfl
    | true =>
      rw [if_pos rfl, if_pos rfl, Option.filter_some, Option.all_some, withinLimit]
      cases exceedsBudget fields.declaredLength limit <;> rfl

theorem parseContentLength_noted {limits : HttpParserLimits} {p : HttpParser}
    (hp : p.limits = limits) (text : Bytes) :
    ((p.parseContentLength text).toOption.map fun p =>
        if p.hasContentLength then some p.contentLength else none) =
      ((wholeNumber text).filter (withinLimit limits.maximumBodySize)).bind
        fun n => if (if p.hasContentLength then some p.contentLength
          else none).any (· ≠ n) then none else some (some n) := by
  rw [HttpParser.parseContentLength]
  by_cases hnil : text = []
  · subst hnil
    rfl
  rw [if_neg hnil]
  cases hread : fromCharsSize text with
  | none =>
    rw [wholeNumber, hread]
    rfl
  | some x =>
    obtain ⟨n, left⟩ := x
    cases left with
    | cons first left =>
      rw [wholeNumber, hread]
      rfl
    | nil =>
      have hnumber : wholeNumber text = some n := by
        rw [wholeNumber, hread]
      rw [hnumber, Option.filter_some, withinLimit, ← hp]
      show Option.map _ (Except.toOption (if _ then _ else
        if exceedsBudget n p.limits.maximumBodySize then _ else _)) = _
      cases exceedsBudget n p.limits.maximumBodySize with
      | true =>
        split <;> rfl
      | false =>
        cases hhas : p.hasContentLength with
        | false => simp [Except.toOption]
        | true =>
          by_cases hsame : n = p.contentLength
          · simp [hsame, Except.toOption]
          · simp [hsame, Ne.symm hsame, Except.toOption]

theorem requestVerdict_eq (limits : HttpParserLimits) (values : List Bytes) :
    requestVerdict limits values =
      (agreedLength (fun value => wholeNumber (trimOptionalWhitespace value))
        values).filter fun length =>
          length.all (withinLimit limits.maximumBodySize) := by
  rw [requestVerdict, toOption_foldlM, ← agreedLength_filter]
  refine foldlM_agreed (fun p : HttpParser => p.limits = limits)
    (fun p value hp => ?_) (fun p value q hp hq => ?_) rfl values
  · exact parseContentLength_noted hp _
  cases hparse : p.parseContentLength (trimOptionalWhitespace value) with
  | error failure =>
    rw [hparse] at hq
    cases hq
  | ok next =>
    rw [hparse] at hq
    cases hq
    unfold HttpParser.parseContentLength at hparse
    grind

/-! ## Where they agree -/

/-- The digits of a number, perhaps with white space around them. -/
structure SpellsLength (value : Bytes) (n : Nat) : Prop where
  nonempty : trimOptionalWhitespace value ≠ []
  digits : (trimOptionalWhitespace value).all isDigit = true
  number : decimalValue (trimOptionalWhitespace value) = n

theorem parseContentLengthValue_eq_some {value : Bytes} {n : Nat} :
    parseContentLengthValue value = some n ↔
      SpellsLength value n ∧ (trimOptionalWhitespace value).length ≤ 19 := by
  rw [parseContentLengthValue]
  constructor
  · intro h
    split at h
    · cases h
    rename_i hbounds
    obtain ⟨hne, hlength⟩ := not_or.mp hbounds
    split at h
    · next hdigits =>
      exact ⟨⟨hne, hdigits, Option.some.inj h⟩, Nat.le_of_not_lt hlength⟩
    · cases h
  · rintro ⟨⟨hne, hdigits, rfl⟩, hlength⟩
    rw [if_neg (not_or.mpr ⟨hne, Nat.not_lt.mpr hlength⟩), if_pos hdigits]

theorem wholeNumber_eq_some {value : Bytes} {n : Nat} :
    wholeNumber (trimOptionalWhitespace value) = some n ↔ SpellsLength value n ∧ n < 2 ^ 64 := by
  rw [wholeNumber]
  constructor
  · intro h
    split at h
    · next m hread =>
      cases h
      rw [fromCharsSize] at hread
      split at hread
      · cases hread
      rename_i hbounds
      obtain ⟨hne, hrange⟩ := not_or.mp hbounds
      injection hread with hread
      injection hread with hvalue hleft
      have hall := List.dropWhile_eq_nil_iff.mp hleft
      have hdigits : (trimOptionalWhitespace value).takeWhile isDigit =
          trimOptionalWhitespace value := List.takeWhile_eq_self_iff.mpr hall
      rw [hdigits] at hne hrange hvalue
      exact ⟨⟨hne, List.all_eq_true.mpr hall, hvalue⟩, by omega⟩
    · cases h
  · rintro ⟨⟨hne, hdigits, rfl⟩, hrange⟩
    have hall := List.all_eq_true.mp hdigits
    have hread : fromCharsSize (trimOptionalWhitespace value) =
        some (decimalValue (trimOptionalWhitespace value), []) := by
      rw [fromCharsSize, List.takeWhile_eq_self_iff.mpr hall, List.dropWhile_eq_nil_iff.mpr hall,
        if_neg (not_or.mpr ⟨hne, Nat.not_le.mpr hrange⟩)]
    rw [hread]

theorem SpellsLength.lt_pow {value : Bytes} {n : Nat} (h : SpellsLength value n)
    (hlength : (trimOptionalWhitespace value).length ≤ 19) : n < 2 ^ 64 := by
  have hbound := decimalValue_lt_pow _ h.digits
  rw [h.number] at hbound
  have hpow : 10 ^ (trimOptionalWhitespace value).length ≤ 10 ^ 19 :=
    Nat.pow_le_pow_right (by decide) hlength
  have hlast : 10 ^ 19 < 2 ^ 64 := by decide
  omega

/-- The values that all spell this length. -/
def AllSpell (values : List Bytes) (n : Nat) : Prop :=
  values ≠ [] ∧ ∀ value ∈ values, SpellsLength value n

theorem strictVerdict_iff {values : List Bytes} {n : Nat} :
    agreedLength parseContentLengthValue values = some (some n) ↔ AllSpell values n ∧
        ∀ value ∈ values, (trimOptionalWhitespace value).length ≤ 19 := by
  rw [agreedLength_eq_some]
  simp only [parseContentLengthValue_eq_some]
  constructor
  · exact fun ⟨hne, h⟩ => ⟨⟨hne, fun v hv => (h v hv).1⟩, fun v hv => (h v hv).2⟩
  · exact fun ⟨⟨hne, h⟩, hlength⟩ => ⟨hne, fun v hv =>
      ⟨h v hv, hlength v hv⟩⟩

theorem looseVerdict_iff {values : List Bytes} {n : Nat} :
    agreedLength (fun value => wholeNumber (trimOptionalWhitespace value))
        values = some (some n) ↔ AllSpell values n ∧ n < 2 ^ 64 := by
  rw [agreedLength_eq_some]
  simp only [wholeNumber_eq_some]
  constructor
  · rintro ⟨hne, h⟩
    obtain ⟨first, hfirst⟩ := List.exists_mem_of_ne_nil values hne
    exact ⟨⟨hne, fun v hv => (h v hv).1⟩, (h first hfirst).2⟩
  · exact fun ⟨⟨hne, h⟩, hrange⟩ => ⟨hne, fun v hv => ⟨h v hv, hrange⟩⟩

theorem agreedLength_none {number : Bytes → Option Nat} {values : List Bytes} (hne : values ≠ [])
    (h : ∀ n, agreedLength number values ≠ some (some n)) :
    agreedLength number values = none := by
  cases hagreed : agreedLength number values with
  | none => rfl
  | some length =>
    cases length with
    | none => exact absurd hagreed (agreedLength_ne_absent hne)
    | some n => exact absurd hagreed (h n)

/-- The four verdicts are the same if and only if a length that is spelt with
up to nineteen characters keeps within the limits of both parsers, and one
that is spelt with more does not within that of the parser of requests. -/
theorem contentLength_verdicts (kind : Http3.Http3MessageKind)
    (limits : HttpParserLimits) (limit : Nat) (values : List Bytes) :
    (requestVerdict limits values = http2Verdict values ∧
        responseVerdict limit values = http2Verdict values ∧
        http3Verdict kind values = http2Verdict values) ↔
      ∀ n < 2 ^ 64, AllSpell values n →
        if ∀ value ∈ values, (trimOptionalWhitespace value).length ≤ 19 then
          exceedsBudget n limits.maximumBodySize = false ∧ exceedsBudget n limit = false
        else exceedsBudget n limits.maximumBodySize = true := by
  rw [requestVerdict_eq, responseVerdict_eq, http3Verdict_eq, http2Verdict_eq]
  by_cases hspell : ∃ n, n < 2 ^ 64 ∧ AllSpell values n
  · obtain ⟨n, hrange, hn⟩ := hspell
    obtain ⟨first, hfirst⟩ := List.exists_mem_of_ne_nil values hn.1
    have hloose := looseVerdict_iff.mpr ⟨hn, hrange⟩
    rw [hloose, Option.filter_some, Option.all_some]
    by_cases hlength : ∀ value ∈ values, (trimOptionalWhitespace value).length ≤ 19
    · rw [strictVerdict_iff.mpr ⟨hn, hlength⟩, Option.filter_some,
        Option.all_some, withinLimit, withinLimit]
      constructor
      · rintro ⟨hrequest, hresponse, -⟩ m - hm
        have hsame : m = n := (hm.2 first hfirst).number.symm.trans (hn.2 first hfirst).number
        rw [if_pos hlength, hsame]
        constructor
        · cases hover : exceedsBudget n limits.maximumBodySize with
          | false => rfl
          | true =>
            rw [hover] at hrequest
            cases hrequest
        cases hover : exceedsBudget n limit with
        | false => rfl
        | true =>
          rw [hover] at hresponse
          cases hresponse
      · intro h
        have h := h n hrange hn
        rw [if_pos hlength] at h
        rw [h.1, h.2]
        exact ⟨rfl, rfl, rfl⟩
    · have hstrict : agreedLength parseContentLengthValue values = none :=
        agreedLength_none hn.1 fun m hm =>
          hlength (strictVerdict_iff.mp hm).2
      rw [hstrict, withinLimit]
      constructor
      · rintro ⟨hrequest, -, -⟩ m - hm
        have hsame : m = n := (hm.2 first hfirst).number.symm.trans (hn.2 first hfirst).number
        rw [if_neg hlength, hsame]
        cases hover : exceedsBudget n limits.maximumBodySize with
        | true => rfl
        | false =>
          rw [hover] at hrequest
          cases hrequest
      · intro h
        have h := h n hrange hn
        rw [if_neg hlength] at h
        rw [h]
        exact ⟨rfl, rfl, rfl⟩
  · have hnone : ∀ n < 2 ^ 64, ¬AllSpell values n := fun n hrange hn =>
      hspell ⟨n, hrange, hn⟩
    refine iff_of_true ?_ fun n hrange hn => absurd hn (hnone n hrange)
    by_cases hnil : values = []
    · subst hnil
      exact ⟨rfl, rfl, rfl⟩
    rw [agreedLength_none hnil fun n hn =>
        hnone n (looseVerdict_iff.mp hn).2 (looseVerdict_iff.mp hn).1,
      agreedLength_none hnil fun n hn => by
        obtain ⟨hall, hlength⟩ := strictVerdict_iff.mp hn
        obtain ⟨first, hfirst⟩ := List.exists_mem_of_ne_nil values hnil
        exact hnone n ((hall.2 first hfirst).lt_pow (hlength first hfirst)) hall]
    exact ⟨rfl, rfl, rfl⟩

/-- Nineteen zeros before a one: a length for the parser of requests only. -/
theorem contentLength_of_twenty_digits :
    requestVerdict {} [asciiText "00000000000000000001"] = some (some 1) ∧
      responseVerdict 0 [asciiText "00000000000000000001"] = none ∧
      http2Verdict [asciiText "00000000000000000001"] = none ∧
      http3Verdict .request [asciiText "00000000000000000001"] = none := by
  decide +kernel

end AsynGyanis.Http
