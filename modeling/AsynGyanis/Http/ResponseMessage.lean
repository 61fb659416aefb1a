import AsynGyanis.Http.HttpResponseParser

/-!
# What a response is

The bytes of an HTTP/1 response, described without a parser: a status line
and field lines, then a body that is delimited the way its head says. Interim
responses may stand before it. Which lines, fields and chunk sizes are well
formed, and what the limits for them are, is the client's choice.

Of RFC 9112, 6.3, `messageFraming` is the table, with three decisions of the
client's own: a head that declares a length and a transfer encoding, or two
lengths, is no head of a response whatever its status; a transfer encoding
other than chunked is none; a 101 is no interim response.
-/

namespace AsynGyanis.Http

open HttpResponseParser List

abbrev Field := Bytes × Bytes

def lineEnd : Bytes := [carriageReturn, lineFeed]

/-! ## Heads -/

/-- A line ends at its first CRLF and keeps within the limit. -/
structure IsLine (line : Bytes) : Prop where
  unbroken : ¬lineEnd <:+: line
  short : lineExceedsLimit line.length = false

def fieldsByteCount (fields : List Field) : Nat := (fields.map fieldByteCount).sum

/-- The limits for the fields of a message, its trailers included. -/
structure FieldsFit (fields : List Field) : Prop where
  count : exceedsBudget fields.length kDefaultMaximumHeaderCount = false
  byteCount : exceedsBudget (fieldsByteCount fields) kDefaultMaximumHeaderBlockByteCount = false

/-- Field lines up to the empty line. The fields behind `prior` are collected
in the second argument, and the third one is all of them. -/
inductive FieldLines (prior : List Field) :
    List Field → Bytes → List Field → Prop
  | blank (fields : List Field) : FieldLines prior fields lineEnd fields
  | line {fields result : List Field} {field : Field} {line rest : Bytes} (hline : IsLine line)
      (hfield : splitFieldLine line = some field)
      (hfits : FieldsFit (prior ++ fields ++ [field]))
      (hrest : FieldLines prior (fields ++ [field]) rest result) :
      FieldLines prior fields (line ++ lineEnd ++ rest) result

/-- A status line with the field lines behind it. -/
inductive Head : Bytes → HttpResponseInfo → Prop
  | intro {line fieldBytes reasonPhrase : Bytes} {statusCode : Nat}
      {headers : List Field} (hline : IsLine line)
      (hstatus : splitStatusLine line = some (statusCode, reasonPhrase))
      (hfields : FieldLines [] [] fieldBytes headers) :
      Head (line ++ lineEnd ++ fieldBytes)
        { statusCode := statusCode, reasonPhrase := reasonPhrase
          headers := headers }

/-! ## Framing -/

def fieldValues (name : Bytes) (headers : List Field) : List Bytes :=
  (headers.filter fun field => equalsIgnoringCase field.1 name).map Prod.snd

/-- The length that the fields of a head agree on. -/
inductive ContentLength (headers : List Field) : Option Nat → Prop
  | absent (h : fieldValues (asciiText "content-length") headers = []) : ContentLength headers none
  | declared {length : Nat} (hne : fieldValues (asciiText "content-length") headers ≠ [])
      (h : ∀ value ∈ fieldValues (asciiText "content-length") headers,
        parseContentLengthValue value = some length) :
      ContentLength headers (some length)

def joinTransferEncodings (values : List Bytes) : Bytes :=
  values.foldl (fun list value =>
    (if list = [] then [] else list ++ asciiText ", ") ++ trimOptionalWhitespace value) []

def transferEncoding (headers : List Field) : Option Bytes :=
  match fieldValues (asciiText "transfer-encoding") headers with
  | [] => none
  | values => some (joinTransferEncodings values)

inductive MessageFraming
  | interim
  | bodyless
  | length (byteCount : Nat)
  | chunked
  | untilClose
  deriving DecidableEq, Repr

def messageFraming (isHeadResponse : Bool) (statusCode : Nat) :
    Option Nat → Option Bytes → Option MessageFraming
  | some _, some _ => none
  | length, encoding =>
    if 100 ≤ statusCode ∧ statusCode < 200 ∧ statusCode ≠ 101 then
      some .interim
    else if statusCode = 101 ∨ statusCode = 204 ∨ statusCode = 304 ∨
        isHeadResponse then some .bodyless
    else
      match length, encoding with
      | some byteCount, _ => some (.length byteCount)
      | none, some list =>
        if isSingleChunkedEncoding list then some .chunked else none
      | none, none => some .untilClose

/-- How the message with this head is delimited. -/
def Frames (isHeadResponse : Bool) (head : HttpResponseInfo) (framing : MessageFraming) : Prop :=
  ∃ length, ContentLength head.headers length ∧ messageFraming isHeadResponse head.statusCode length
      (transferEncoding head.headers) = some framing

/-! ## Messages -/

/-- Chunks up to the size zero, behind `received` bytes of the body. -/
inductive Chunks (limit : Nat) : Nat → Bytes → Bytes → Prop
  | last {received : Nat} {line : Bytes} (hline : IsLine line)
      (hsize : splitChunkSizeLine line = some 0) :
      Chunks limit received (line ++ lineEnd) []
  | chunk {received : Nat} {line data rest body : Bytes} (hline : IsLine line)
      (hsize : splitChunkSizeLine line = some data.length)
      (hdata : data ≠ [])
      (hfits : exceedsBudget (received + data.length) limit = false)
      (hrest : Chunks limit (received + data.length) rest body) :
      Chunks limit received (line ++ lineEnd ++ (data ++ (lineEnd ++ rest))) (data ++ body)

/-- The heads of interim responses. -/
inductive Interims (isHeadResponse : Bool) : Bytes → Prop
  | none : Interims isHeadResponse []
  | one {head rest : Bytes} {info : HttpResponseInfo} (hhead : Head head info)
      (hframes : Frames isHeadResponse info .interim)
      (hrest : Interims isHeadResponse rest) :
      Interims isHeadResponse (head ++ rest)

/-- A final response, and whether only the end of the stream ends it. -/
inductive Message (isHeadResponse : Bool) (limit : Nat) :
    Bytes → HttpResponseInfo → Bool → Prop
  | bodyless {head : Bytes} {info : HttpResponseInfo} (hhead : Head head info)
      (hframes : Frames isHeadResponse info .bodyless) :
      Message isHeadResponse limit head info false
  | length {head body : Bytes} {info : HttpResponseInfo} (hhead : Head head info)
      (hframes : Frames isHeadResponse info (.length body.length))
      (hfits : exceedsBudget body.length limit = false) :
      Message isHeadResponse limit (head ++ body) { info with body := body } false
  | chunked {head chunks body trailerBytes : Bytes}
      {info : HttpResponseInfo} {trailers : List Field}
      (hhead : Head head info)
      (hframes : Frames isHeadResponse info .chunked)
      (hchunks : Chunks limit 0 chunks body)
      (htrailers : FieldLines info.headers [] trailerBytes trailers) :
      Message isHeadResponse limit (head ++ (chunks ++ trailerBytes))
        { info with body := body, trailers := trailers } false
  | untilClose {head body : Bytes} {info : HttpResponseInfo} (hhead : Head head info)
      (hframes : Frames isHeadResponse info .untilClose)
      (hfits : exceedsBudget body.length limit = false) :
      Message isHeadResponse limit (head ++ body) { info with body := body } true

/-! ## The fields that frame a message -/

theorem fieldValues_append (name : Bytes) (headers : List Field)
    (field : Field) : fieldValues name (headers ++ [field]) = fieldValues name headers ++
        (if equalsIgnoringCase field.1 name then [field.2] else []) := by
  rw [fieldValues, fieldValues, filter_append, map_append]
  congr 1
  by_cases h : equalsIgnoringCase field.1 name
  · simp [h]
  · simp [h]

theorem joinTransferEncodings_append (values : List Bytes) (value : Bytes) :
    joinTransferEncodings (values ++ [value]) =
      (if joinTransferEncodings values = [] then []
        else joinTransferEncodings values ++ asciiText ", ") ++
      trimOptionalWhitespace value := by
  rw [joinTransferEncodings, foldl_append]
  rfl

/-- What the parser notes of a head with this length. -/
def notedFields (headers : List Field) (length : Option Nat) :
    HttpResponseParser.FramingFields where
  hasContentLength := length.isSome
  declaredLength := length.getD 0
  hasTransferEncoding := fieldValues (asciiText "transfer-encoding") headers ≠ []
  combinedTransferEncoding := joinTransferEncodings
    (fieldValues (asciiText "transfer-encoding") headers)

theorem framingFields_append (headers : List Field) (field : Field) :
    framingFields (headers ++ [field]) = (framingFields headers).bind fun fields =>
        fields.note field := by
  rw [framingFields, foldlM_append]
  show (framingFields headers).bind _ = _
  congr 1
  funext fields
  show (fields.note field >>= pure) = _
  rw [bind_pure]

theorem names_differ {name : Bytes} (h : equalsIgnoringCase name (asciiText "content-length")) :
    equalsIgnoringCase name (asciiText "transfer-encoding") = false := by
  rw [equalsIgnoringCase, decide_eq_true_eq] at h
  rw [equalsIgnoringCase, h]
  decide

section Noted

variable {headers : List Field} {field : Field} {length : Option Nat}

theorem contentLength_other (h : equalsIgnoringCase field.1 (asciiText "content-length") = false) :
    ContentLength (headers ++ [field]) length ↔ ContentLength headers length := by
  have hvalues : fieldValues (asciiText "content-length") (headers ++ [field]) =
      fieldValues (asciiText "content-length") headers := by
    rw [fieldValues_append, h]
    exact append_nil _
  constructor
  · rintro (habsent | ⟨hne, hall⟩)
    · exact .absent (hvalues ▸ habsent)
    · exact .declared (hvalues ▸ hne) (hvalues ▸ hall)
  rintro (habsent | ⟨hne, hall⟩)
  · exact .absent (hvalues.trans habsent)
  · exact .declared (by rwa [hvalues]) (by rwa [hvalues])

theorem contentLength_more (h : equalsIgnoringCase field.1 (asciiText "content-length")) :
    ContentLength (headers ++ [field]) length ↔
      ∃ n before, parseContentLengthValue field.2 = some n ∧
        ContentLength headers before ∧ (before = none ∨ before = some n) ∧
        length = some n := by
  have hvalues : fieldValues (asciiText "content-length") (headers ++ [field]) =
      fieldValues (asciiText "content-length") headers ++ [field.2] := by
    rw [fieldValues_append, h]
    rfl
  constructor
  · rintro (habsent | ⟨hne, hall⟩)
    · rw [hvalues] at habsent
      exact absurd habsent (by simp)
    rw [hvalues] at hall
    have hlast := hall field.2 (by simp)
    by_cases hnil : fieldValues (asciiText "content-length") headers = []
    · exact ⟨_, none, hlast, .absent hnil, .inl rfl, rfl⟩
    · exact ⟨_, _, hlast, .declared hnil fun value hvalue =>
        hall value (mem_append_left _ hvalue), .inr rfl, rfl⟩
  rintro ⟨n, before, hlast, hbefore, hsame, rfl⟩
  refine .declared (by rw [hvalues]; simp) fun value hvalue => ?_
  rw [hvalues, mem_append, mem_singleton] at hvalue
  rcases hvalue with hvalue | rfl
  · cases hbefore with
    | absent habsent =>
      rw [habsent] at hvalue
      cases hvalue
    | declared hne hall =>
      rcases hsame with hsame | hsame
      · cases hsame
      · cases hsame
        exact hall value hvalue
  · exact hlast

theorem note_contentLength (h : equalsIgnoringCase field.1 (asciiText "content-length"))
    (fields : HttpResponseParser.FramingFields) :
    (notedFields headers length).note field = some fields ↔
      ∃ n, parseContentLengthValue field.2 = some n ∧ (length = none ∨ length = some n) ∧
        fields = notedFields (headers ++ [field]) (some n) := by
  have hnoted : ∀ n, notedFields (headers ++ [field]) (some n) =
      { notedFields headers length with
        declaredLength := n, hasContentLength := true } := by
    intro n
    rw [notedFields, fieldValues_append, names_differ h]
    simp [notedFields]
  rw [HttpResponseParser.FramingFields.note, if_pos h]
  cases hparse : parseContentLengthValue field.2 with
  | none => simp
  | some n =>
    show (if _ then _ else _) = _ ↔ _
    cases length with
    | none =>
      rw [if_neg (by simp [notedFields])]
      simp only [Option.some.injEq, hnoted, true_or, true_and]
      constructor
      · exact fun heq => ⟨n, rfl, heq.symm⟩
      · rintro ⟨m, rfl, heq⟩
        exact heq.symm
    | some m =>
      by_cases hsame : n = m
      · subst hsame
        rw [if_neg (by simp [notedFields])]
        simp only [Option.some.injEq, hnoted]
        constructor
        · exact fun heq => ⟨n, rfl, .inr rfl, heq.symm⟩
        · rintro ⟨k, rfl, -, heq⟩
          exact heq.symm
      · rw [if_pos ⟨rfl, hsame⟩]
        simp only [reduceCtorEq, Option.some.injEq, false_or, false_iff]
        rintro ⟨k, rfl, heq, -⟩
        exact hsame heq.symm

theorem note_other (h : equalsIgnoringCase field.1 (asciiText "content-length") = false) :
    (notedFields headers length).note field = some (notedFields (headers ++ [field]) length) := by
  rw [HttpResponseParser.FramingFields.note, if_neg (by rw [h]; exact Bool.false_ne_true)]
  cases hencoding : equalsIgnoringCase field.1 (asciiText "transfer-encoding") with
  | true =>
    rw [if_pos rfl, notedFields, notedFields, fieldValues_append, hencoding,
      if_pos rfl, joinTransferEncodings_append]
    simp
  | false =>
    rw [if_neg Bool.false_ne_true, notedFields, notedFields,
      fieldValues_append, hencoding, if_neg Bool.false_ne_true,
      append_nil]

end Noted

/-- The parser notes the length of a head and the encodings it names, or
there is no such length. -/
theorem framingFields_iff (headers : List Field) (fields : HttpResponseParser.FramingFields) :
    framingFields headers = some fields ↔ ∃ length, ContentLength headers length ∧
        fields = notedFields headers length := by
  induction headers using reverseRecOn generalizing fields with
  | nil =>
    constructor
    · intro h
      cases h
      exact ⟨none, .absent rfl, rfl⟩
    rintro ⟨length, hlength, rfl⟩
    cases hlength with
    | absent => rfl
    | declared hne => exact absurd rfl hne
  | append_singleton headers field ih =>
    rw [framingFields_append, Option.bind_eq_some_iff]
    cases hname : equalsIgnoringCase field.1 (asciiText "content-length") with
    | true =>
      constructor
      · rintro ⟨prior, hprior, hnote⟩
        obtain ⟨length, hlength, rfl⟩ := (ih prior).mp hprior
        obtain ⟨n, hparse, hsame, rfl⟩ := (note_contentLength hname fields).mp hnote
        exact ⟨some n, (contentLength_more hname).mpr ⟨n, length, hparse, hlength, hsame, rfl⟩, rfl⟩
      rintro ⟨length, hlength, rfl⟩
      obtain ⟨n, before, hparse, hbefore, hsame, rfl⟩ := (contentLength_more hname).mp hlength
      exact ⟨notedFields headers before, (ih _).mpr ⟨before, hbefore, rfl⟩,
        (note_contentLength hname _).mpr ⟨n, hparse, hsame, rfl⟩⟩
    | false =>
      constructor
      · rintro ⟨prior, hprior, hnote⟩
        obtain ⟨length, hlength, rfl⟩ := (ih prior).mp hprior
        rw [note_other hname] at hnote
        cases hnote
        exact ⟨length, (contentLength_other hname).mpr hlength, rfl⟩
      · rintro ⟨length, hlength, rfl⟩
        exact ⟨notedFields headers length,
          (ih _).mpr ⟨length, (contentLength_other hname).mp hlength, rfl⟩,
          note_other hname⟩

end AsynGyanis.Http
