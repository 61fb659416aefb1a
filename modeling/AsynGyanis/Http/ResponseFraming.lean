import AsynGyanis.Http.HttpResponseCuts
import AsynGyanis.Http.ResponseMessage

/-!
# The parser of responses finds their ends

What the parser takes for a response is one, and it takes every response, up
to its last byte: `response_framing`. A run is followed from a state to its
end. `Ends` says that some input, with the end of the stream behind it, is a
complete response; for each thing the parser can take there is a lemma that
splits it off the front of the input.
-/

namespace AsynGyanis.Http

open Library List Reader

namespace HttpResponseParser

/-! ## Lines -/

theorem takeLine_of_unbroken {line : Bytes} (h : ¬lineEnd <:+: line)
    (rest : Bytes) : takeLine (line ++ lineEnd ++ rest) = some (line, rest) := by
  induction line with
  | nil => rfl
  | cons first line ih =>
    have ih := ih fun hinside =>
      h (hinside.trans (suffix_cons _ _).isInfix)
    cases line with
    | nil => grind [takeLine, lineEnd, carriageReturn, lineFeed]
    | cons second line =>
      have hend : ¬(first = carriageReturn ∧ second = lineFeed) := by
        rintro ⟨rfl, rfl⟩
        exact h (prefix_append lineEnd line).isInfix
      grind [takeLine]

theorem unbroken_of_takeLine {x line rest : Bytes}
    (h : takeLine x = some (line, rest)) : ¬lineEnd <:+: line := by
  fun_induction takeLine x generalizing line with
  | case1 => cases h
  | case2 => cases h
  | case3 =>
    cases h
    simp [lineEnd]
  | case4 => cases h
  | case5 first second x hend line' rest' hline ih =>
    cases h
    intro hinside
    rcases infix_cons_iff.mp hinside with ⟨t, ht⟩ | hinside
    · have hx := takeLine_eq hline
      grind [lineEnd]
    · exact ih hline hinside

/-! ## Runs to the end -/

/-- A run over some input leaves this much of it, and at the end of the
stream the response is complete. -/
def Ends (p : HttpResponseParser) (bytes : Bytes) (q : HttpResponseParser) (rest : Bytes) : Prop :=
  reader.read p bytes = (q, rest) ∧ q.endOfStream.stage = .complete

section Ends

variable {p q : HttpResponseParser} {bytes rest : Bytes}

theorem not_ends_fail : ¬p.fail.Ends bytes q rest := by
  rintro ⟨hread, hend⟩
  rw [read_stopped (.inl rfl)] at hread
  cases hread
  cases hend

theorem not_ends_failOverLimit : ¬p.failOverLimit.Ends bytes q rest := by
  rintro ⟨hread, hend⟩
  rw [read_stopped (.inl rfl)] at hread
  cases hread
  cases hend

theorem ends_complete_iff (hstage : p.stage = .complete) :
    p.Ends bytes q rest ↔ q = p ∧ rest = bytes := by
  have hstop : reader.stopped p := by
    show (decide (p.stage = .complete) || decide (p.stage = .failed))
    rw [hstage]
    rfl
  have hend : p.endOfStream.stage = .complete := by
    rw [endOfStream, if_neg (by rw [hstage]; exact nofun)]
    exact hstage
  rw [Ends, read_stopped (.inl hstop)]
  constructor
  · rintro ⟨heq, -⟩
    cases heq
    exact ⟨rfl, rfl⟩
  · rintro ⟨rfl, rfl⟩
    exact ⟨rfl, hend⟩

theorem open_of_endOfStream (h : p.endOfStream.stage = .complete) :
    p.stage = .complete ∨ (p.stage = .body ∧ p.isCloseDelimited) := by
  rw [endOfStream] at h
  split at h
  · next hstage =>
    cases hclose : p.isCloseDelimited with
    | true => exact .inr ⟨hstage, rfl⟩
    | false =>
      rw [hclose] at h
      cases h
  · exact .inl h

theorem not_closeDelimited (hp : p.Proceeds) (hstage : p.stage = .body)
    (hchunked : p.isChunked) : p.isCloseDelimited = false := by
  rcases hp.body hstage with h | h | h
  · exact h.2.1
  · exact h.2.1
  · exact nomatch hchunked.symm.trans h.1

theorem not_endOfStream_of_takesLine (hp : p.Proceeds)
    (htakes : p.TakesLine) : p.endOfStream.stage ≠ .complete := by
  intro hend
  rcases open_of_endOfStream hend with hstage | ⟨hstage, hclose⟩
  · rcases htakes with h | h | ⟨h, -⟩ <;> exact nomatch hstage.symm.trans h
  rcases htakes with h | h | ⟨h, hchunked, -⟩
  · exact nomatch hstage.symm.trans h
  · exact nomatch hstage.symm.trans h
  · exact nomatch hclose.symm.trans (not_closeDelimited hp h hchunked)

theorem ends_line_iff (hp : p.Proceeds) (htakes : p.TakesLine)
    (hbuffer : p.lineBuffer = []) : p.Ends bytes q rest ↔
      ∃ line left, IsLine line ∧ bytes = line ++ lineEnd ++ left ∧
        (p.parseLine line).Ends left q rest := by
  have hs := stopped_of_takesLine htakes
  have hopen := not_endOfStream_of_takesLine hp htakes
  have hround : ∀ data, reader.round p data = p.receiveLine data := round_line htakes
  have hsame : { p with lineBuffer := [] } = p := by rw [← hbuffer]
  by_cases hbytes : bytes = []
  · subst hbytes
    constructor
    · rintro ⟨hread, hend⟩
      cases hread
      exact absurd hend hopen
    · rintro ⟨line, left, -, heq, -⟩
      exact absurd heq (by simp [lineEnd])
  rw [Ends, read_round reader_resumable hp hs hbytes, hround]
  constructor
  · rintro ⟨hread, hend⟩
    rcases receiveLine_cases hp bytes with hfail | ⟨hnone, hkept⟩ |
      ⟨line, left, hline, hshort, htaken⟩
    · rw [hfail] at hread
      exact absurd ⟨hread, hend⟩ not_ends_fail
    · rw [hkept, read_stopped (.inr rfl)] at hread
      cases hread
      exact absurd hend (not_endOfStream_of_takesLine
        (p := { p with lineBuffer := p.lineBuffer ++ bytes })
        (hp.of_lineBuffer hnone) htakes)
    · rw [hbuffer, nil_append] at hline
      rw [htaken, hsame] at hread
      refine ⟨line, left, ⟨unbroken_of_takeLine hline, hshort⟩, ?_, hread, hend⟩
      rw [takeLine_eq hline, append_assoc]
      rfl
  · rintro ⟨line, left, hline, rfl, hread, hend⟩
    have htake := takeLine_of_unbroken hline.unbroken left
    rw [(receiveLine_some hp (by rw [hbuffer]; exact htake)).2 hline.short, hsame]
    exact ⟨hread, hend⟩

theorem ends_takes_iff {need : HttpResponseParser → Nat} {isOver : HttpResponseParser → Nat → Bool}
    {put : HttpResponseParser → Bytes → HttpResponseParser}
    {settle : HttpResponseParser → HttpResponseParser} {taking : HttpResponseParser → Prop}
    {failed : HttpResponseParser → Bytes → HttpResponseParser × Bytes}
    (h : reader.Takes need isOver true failed put settle taking)
    (hp : p.Proceeds) (hs : reader.stopped p = false) (htaking : taking p)
    (hopen : p.endOfStream.stage ≠ .complete)
    (hput : ∀ a, (put p a).endOfStream.stage ≠ .complete)
    (hfailed : ∀ data, ¬Ends (failed p data).1 (failed p data).2 q rest) :
    p.Ends bytes q rest ↔ ∃ data left, data.length = need p ∧ bytes = data ++ left ∧
        isOver p data.length = false ∧ (settle (put p data)).Ends left q rest := by
  by_cases hbytes : bytes = []
  · subst hbytes
    constructor
    · rintro ⟨hread, hend⟩
      cases hread
      exact absurd hend hopen
    · rintro ⟨data, left, hlength, heq, -⟩
      have := h.need_pos p htaking
      rw [(append_eq_nil_iff.mp heq.symm).1, length_nil] at hlength
      omega
  rw [Ends, read_round reader_resumable hp hs hbytes, h.round p bytes htaking]
  by_cases hlong : need p ≤ bytes.length
  · have htake : (bytes.take (need p)).length = need p := length_take_of_le hlong
    constructor
    · rintro ⟨hread, hend⟩
      split at hread
      · exact absurd ⟨hread, hend⟩ (hfailed bytes)
      rename_i hover
      exact ⟨bytes.take (need p), bytes.drop (need p), htake,
        (take_append_drop _ _).symm, Bool.eq_false_iff.mpr hover,
        hread, hend⟩
    · rintro ⟨data, left, hlength, rfl, hover, hends⟩
      rw [← hlength, take_left, drop_left, hover, if_neg Bool.false_ne_true]
      exact hends
  have hlt := Nat.lt_of_not_le hlong
  rw [take_of_length_le (Nat.le_of_lt hlt), drop_of_length_le (Nat.le_of_lt hlt)]
  constructor
  · rintro ⟨hread, hend⟩
    split at hread
    · exact absurd ⟨hread, hend⟩ (hfailed bytes)
    rename_i hover
    rw [(h.short p bytes htaking hlt (Bool.eq_false_iff.mpr hover)).1,
      read_stopped (.inr rfl)] at hread
    cases hread
    exact absurd hend (hput bytes)
  · rintro ⟨data, left, hlength, rfl, -⟩
    rw [length_append] at hlt
    omega

theorem not_endOfStream_of_body (hstage : p.stage = .body) (hclose : p.isCloseDelimited = false) :
    p.endOfStream.stage ≠ .complete := by
  intro hend
  rcases open_of_endOfStream hend with h | ⟨-, h⟩
  · exact nomatch hstage.symm.trans h
  · exact nomatch hclose.symm.trans h

theorem ends_chunkData_iff (hp : p.Proceeds) (htakes : p.TakesChunkData) : p.Ends bytes q rest ↔
      ∃ data left, data.length = p.chunkSize ∧ bytes = data ++ left ∧
        exceedsBudget (p.receivedBodyByteCount + data.length) p.maximumBodySize = false ∧
        (p.takeChunkBytes data).endChunk.Ends left q rest := by
  have hstage := htakes.1
  have hclose := not_closeDelimited hp hstage htakes.2.1
  exact ends_takes_iff receiveChunkData_takes hp (stopped_of_body hstage)
    ⟨htakes, chunkSize_pos hp htakes⟩ (not_endOfStream_of_body hstage hclose)
    (fun a => not_endOfStream_of_body (p := p.takeChunkBytes a) hstage hclose)
    (fun _ => not_ends_failOverLimit)

theorem ends_declaredBody_iff (hp : p.Proceeds)
    (htakes : p.TakesDeclaredBody) : p.Ends bytes q rest ↔
      ∃ data, data.length = p.expectedBodyBytes ∧ bytes = data ++ rest ∧
        q = { p.takeDeclaredBytes data with stage := .complete } := by
  obtain ⟨hstage, hchunked, hclose, hpos⟩ := htakes
  rw [ends_takes_iff receiveDeclaredBody_takes hp (stopped_of_body hstage)
    ⟨hstage, hchunked, hclose, hpos⟩
    (not_endOfStream_of_body hstage hclose)
    (fun a => not_endOfStream_of_body (p := p.takeDeclaredBytes a) hstage
      hclose) (fun _ => not_ends_failOverLimit)]
  have hdone : ∀ data : Bytes, data.length = p.expectedBodyBytes →
      (p.takeDeclaredBytes data).endDeclaredBody =
        { p.takeDeclaredBytes data with stage := .complete } := by
    intro data hlength
    refine if_pos ?_
    show p.expectedBodyBytes - data.length = 0
    omega
  constructor
  · rintro ⟨data, left, hlength, rfl, -, hends⟩
    rw [hdone data hlength] at hends
    obtain ⟨rfl, rfl⟩ := (ends_complete_iff rfl).mp hends
    exact ⟨data, hlength, rfl, rfl⟩
  rintro ⟨data, hlength, rfl, rfl⟩
  refine ⟨data, rest, hlength, rfl, rfl, ?_⟩
  rw [hdone data hlength]
  exact (ends_complete_iff rfl).mpr ⟨rfl, rfl⟩

theorem ends_untilClose_iff (hp : p.Proceeds) (htakes : p.TakesUntilClose)
    (hfits : exceedsBudget p.receivedBodyByteCount p.maximumBodySize =
      false) : p.Ends bytes q rest ↔
      rest = [] ∧ q = p.appendBody bytes ∧
        exceedsBudget (p.receivedBodyByteCount + bytes.length) p.maximumBodySize = false := by
  have hstage := htakes.1
  have hends : ∀ data, (p.appendBody data).endOfStream.stage = .complete := by
    intro data
    rw [endOfStream, if_pos (show (p.appendBody data).stage = _ from hstage)]
    exact if_pos htakes.2.2.1
  by_cases hbytes : bytes = []
  · subst hbytes
    have hnone : p.appendBody [] = p := by simp [appendBody]
    rw [Ends, read_stopped (.inr rfl), hnone]
    constructor
    · rintro ⟨hread, -⟩
      cases hread
      exact ⟨rfl, rfl, hfits⟩
    rintro ⟨rfl, rfl, -⟩
    have hend := hends []
    rw [hnone] at hend
    exact ⟨rfl, hend⟩
  have hround : reader.round p bytes = _ :=
    (round_untilClose htakes bytes).trans (receiveUntilClose_eq bytes)
  rw [Ends, read_round reader_resumable hp (stopped_of_body hstage) hbytes, hround]
  cases exceedsBudget (p.receivedBodyByteCount + bytes.length) p.maximumBodySize with
  | true =>
    refine ⟨fun hends => absurd hends not_ends_failOverLimit, ?_⟩
    rintro ⟨-, -, hfalse⟩
    cases hfalse
  | false =>
  constructor
  · rintro ⟨hread, -⟩
    cases hread
    exact ⟨rfl, rfl, rfl⟩
  · rintro ⟨rfl, rfl, -⟩
    exact ⟨rfl, hends bytes⟩

/-! ## The end of the head -/

/-- What the end of a head with this framing leads to. -/
def enter (p : HttpResponseParser) : MessageFraming → HttpResponseParser
  | .interim => p.discardInterimInformationalResponse
  | .bodyless => { p with stage := .complete }
  | .length byteCount =>
    if exceedsBudget byteCount p.maximumBodySize then p.failOverLimit
    else { p with
      expectedBodyBytes := byteCount
      stage := if byteCount = 0 then .complete else .body }
  | .chunked =>
    { p with isChunked := true, chunkPhase := .sizeLine, stage := .body }
  | .untilClose => { p with isCloseDelimited := true, stage := .body }

theorem finishHeaders_of_length (hp : p.Proceeds)
    (hstage : p.stage = .headers) {length : Option Nat}
    (hlength : ContentLength p.result.headers length) :
    p.finishHeaders = (messageFraming p.isHeadResponse p.result.statusCode
      length (transferEncoding p.result.headers)).elim p.fail p.enter := by
  rw [finishHeaders, (framingFields_iff _ _).mpr ⟨length, hlength, rfl⟩]
  obtain ⟨hchunked, hclose, hexpected⟩ := hp.head (.inr hstage)
  unfold transferEncoding messageFraming notedFields
    classifyOutboundInformational finishAsFinalInformationalResponse
    statusHasNoBody
  cases fieldValues (asciiText "transfer-encoding") p.result.headers <;>
    cases length <;> grind [enter]

theorem ends_finishHeaders_iff (hp : p.Proceeds)
    (hstage : p.stage = .headers) : p.finishHeaders.Ends bytes q rest ↔
      ∃ framing, Frames p.isHeadResponse p.result framing ∧
        (p.enter framing).Ends bytes q rest := by
  constructor
  · intro hends
    cases hnoted : framingFields p.result.headers with
    | none =>
      rw [finishHeaders, hnoted] at hends
      exact absurd hends not_ends_fail
    | some fields =>
      obtain ⟨length, hlength, -⟩ := (framingFields_iff _ _).mp hnoted
      rw [finishHeaders_of_length hp hstage hlength] at hends
      cases hframing : messageFraming p.isHeadResponse p.result.statusCode
          length (transferEncoding p.result.headers) with
      | none =>
        rw [hframing] at hends
        exact absurd hends not_ends_fail
      | some framing =>
        rw [hframing] at hends
        exact ⟨framing, ⟨length, hlength, hframing⟩, hends⟩
  · rintro ⟨framing, ⟨length, hlength, hframing⟩, hends⟩
    rw [finishHeaders_of_length hp hstage hlength, hframing]
    exact hends

/-! ## Field lines -/

/-- The fields of a head and of a trailer section are collected alike:
`state` is the parser with some of them, `finish` what the empty line makes
of it. -/
theorem ends_fieldLines_iff {prior : List Field} {state finish : List Field → HttpResponseParser}
    (hstate : ∀ fields, (state fields).Proceeds ∧ (state fields).TakesLine ∧
      (state fields).lineBuffer = [])
    (hblank : ∀ fields, (state fields).parseLine [] = finish fields)
    (hbad : ∀ fields line, line ≠ [] → splitFieldLine line = none →
      (state fields).parseLine line = (state fields).fail)
    (hunfit : ∀ fields line field, line ≠ [] → splitFieldLine line = some field →
      ¬FieldsFit (prior ++ fields ++ [field]) →
      (state fields).parseLine line = (state fields).fail)
    (hfield : ∀ fields line field, line ≠ [] → splitFieldLine line = some field →
      FieldsFit (prior ++ fields ++ [field]) →
      (state fields).parseLine line = state (fields ++ [field]))
    (before : List Field) : (state before).Ends bytes q rest ↔
      ∃ lines left fields, FieldLines prior before lines fields ∧
        bytes = lines ++ left ∧ (finish fields).Ends left q rest := by
  have hnonempty : ∀ {line : Bytes} {field : Field},
      splitFieldLine line = some field → line ≠ [] := by
    rintro line field h rfl
    cases h
  constructor
  · intro hends
    generalize hlength : bytes.length = n
    induction n using Nat.strongRecOn generalizing bytes before with
    | ind n ih =>
      obtain ⟨hp, htakes, hbuffer⟩ := hstate before
      obtain ⟨line, left, hline, rfl, hnext⟩ := (ends_line_iff hp htakes hbuffer).mp hends
      by_cases hnil : line = []
      · subst hnil
        rw [hblank] at hnext
        exact ⟨lineEnd, left, before, .blank before, rfl, hnext⟩
      cases hsplit : splitFieldLine line with
      | none =>
        rw [hbad before line hnil hsplit] at hnext
        exact absurd hnext not_ends_fail
      | some field =>
        by_cases hfits : FieldsFit (prior ++ before ++ [field])
        · rw [hfield before line field hnil hsplit hfits] at hnext
          obtain ⟨lines, left', fields, hlines, rfl, hlast⟩ :=
            ih left.length (by
              rw [← hlength, length_append, length_append]
              simp [lineEnd]) _ hnext rfl
          exact ⟨line ++ lineEnd ++ lines, left', fields, .line hline hsplit hfits hlines,
            (append_assoc _ _ _).symm, hlast⟩
        · rw [hunfit before line field hnil hsplit hfits] at hnext
          exact absurd hnext not_ends_fail
  · rintro ⟨lines, left, fields, hlines, rfl, hends⟩
    induction hlines with
    | blank fields =>
      obtain ⟨hp, htakes, hbuffer⟩ := hstate fields
      refine (ends_line_iff hp htakes hbuffer).mpr ⟨[], left, ⟨by simp [lineEnd], rfl⟩, rfl, ?_⟩
      rw [hblank]
      exact hends
    | @line before fields field line lines hline hsplit hfits _ ih =>
      obtain ⟨hp, htakes, hbuffer⟩ := hstate before
      refine (ends_line_iff hp htakes hbuffer).mpr
        ⟨line, lines ++ left, hline, append_assoc _ _ _, ?_⟩
      rw [hfield before line field (hnonempty hsplit) hsplit hfits]
      exact ih hends

theorem fieldsByteCount_append (fields : List Field) (field : Field) :
    fieldsByteCount (fields ++ [field]) = fieldsByteCount fields + fieldByteCount field := by
  simp [fieldsByteCount]

theorem fieldsExceedLimits_iff (field : Field)
    (hcount : p.headerBlockByteCount = fieldsByteCount (p.result.headers ++ p.result.trailers)) :
    p.fieldsExceedLimits field = false ↔
      FieldsFit (p.result.headers ++ p.result.trailers ++ [field]) := by
  have hlength : (p.result.headers ++ p.result.trailers ++ [field]).length =
      (p.result.headers ++ p.result.trailers).length + 1 :=
    length_append
  rw [fieldsExceedLimits, Bool.or_eq_false_iff, hcount,
    ← fieldsByteCount_append, ← length_append, ← hlength]
  exact ⟨fun h => ⟨h.1, h.2⟩, fun h => ⟨h.count, h.byteCount⟩⟩

/-- A parser with these fields of a head. -/
def withHeaders (p : HttpResponseParser) (headers : List Field) :
    HttpResponseParser :=
  { p with
    headerBlockByteCount := fieldsByteCount headers
    result := { p.result with headers := headers } }

theorem ends_headers_iff (hp : p.Proceeds) (hstage : p.stage = .headers)
    (hbuffer : p.lineBuffer = []) (htrailers : p.result.trailers = []) :
    (p.withHeaders []).Ends bytes q rest ↔
      ∃ lines left headers, FieldLines [] [] lines headers ∧ bytes = lines ++ left ∧
        (p.withHeaders headers).finishHeaders.Ends left q rest := by
  have hparse : ∀ fields line, (p.withHeaders fields).parseLine line =
      (p.withHeaders fields).parseHeaderLine line := by
    intro fields line
    rw [parseLine, show (p.withHeaders fields).stage = _ from hstage]
  have hfits : ∀ fields field, (p.withHeaders fields).fieldsExceedLimits field = false ↔
        FieldsFit ([] ++ fields ++ [field]) := by
    intro fields field
    have hiff := fieldsExceedLimits_iff (p := p.withHeaders fields) field (by
      show fieldsByteCount fields = fieldsByteCount (fields ++ p.result.trailers)
      rw [htrailers, append_nil])
    show _ ↔ FieldsFit (fields ++ [field])
    rw [hiff]
    show FieldsFit (fields ++ p.result.trailers ++ [field]) ↔ _
    rw [htrailers, append_nil]
  refine @ends_fieldLines_iff q bytes rest [] p.withHeaders
    (fun headers => (p.withHeaders headers).finishHeaders)
    (fun fields => ⟨⟨hp.lineBuffer, hp.body, hp.head⟩, .inr (.inl hstage),
      hbuffer⟩) (fun fields => hparse fields []) ?_ ?_ ?_ []
  · intro fields line hne hsplit
    rw [hparse, parseHeaderLine, if_neg hne, hsplit]
  · intro fields line field hne hsplit hunfit
    rw [← hfits, Bool.not_eq_false] at hunfit
    rw [hparse, parseHeaderLine, if_neg hne, hsplit]
    exact if_pos hunfit
  · intro fields line field hne hsplit hfit
    rw [← hfits] at hfit
    rw [hparse, parseHeaderLine, if_neg hne, hsplit]
    refine (if_neg (by rw [hfit]; exact Bool.false_ne_true)).trans ?_
    rw [withHeaders, withHeaders, fieldsByteCount_append]

/-- A parser with these trailers. -/
def withTrailers (p : HttpResponseParser) (trailers : List Field) :
    HttpResponseParser :=
  { p with
    headerBlockByteCount := fieldsByteCount (p.result.headers ++ trailers)
    result := { p.result with trailers := trailers } }

theorem ends_trailers_iff (hp : p.Proceeds) (hstage : p.stage = .body)
    (hchunked : p.isChunked) (hphase : p.chunkPhase = .trailer)
    (hbuffer : p.lineBuffer = []) : (p.withTrailers []).Ends bytes q rest ↔
      ∃ lines trailers, FieldLines p.result.headers [] lines trailers ∧ bytes = lines ++ rest ∧
        q = { p.withTrailers trailers with stage := .complete } := by
  have hclose := not_closeDelimited hp hstage hchunked
  have hparse : ∀ fields line, (p.withTrailers fields).parseLine line =
      (p.withTrailers fields).parseTrailerLine line := by
    intro fields line
    rw [parseLine, show (p.withTrailers fields).stage = _ from hstage]
    dsimp only
    rw [show (p.withTrailers fields).chunkPhase = _ from hphase]
  have hfits : ∀ fields field, (p.withTrailers fields).fieldsExceedLimits field = false ↔
        FieldsFit (p.result.headers ++ fields ++ [field]) :=
    fun fields field =>
      fieldsExceedLimits_iff (p := p.withTrailers fields) field rfl
  have hfields := @ends_fieldLines_iff q bytes rest p.result.headers p.withTrailers
    (fun trailers => { p.withTrailers trailers with stage := .complete })
    (fun fields => ⟨⟨hp.lineBuffer, fun _ => .inl ⟨hchunked, hclose,
      fun hdata => by cases hphase.symm.trans hdata⟩, hp.head⟩,
      .inr (.inr ⟨hstage, hchunked, by
        show p.chunkPhase ≠ .data
        rw [hphase]
        rintro ⟨⟩⟩), hbuffer⟩)
    (fun fields => by rw [hparse, parseTrailerLine, if_pos rfl])
    (fun fields line hne hsplit => by
      rw [hparse, parseTrailerLine, if_neg hne, hsplit])
    (fun fields line field hne hsplit hunfit => by
      rw [← hfits, Bool.not_eq_false] at hunfit
      rw [hparse, parseTrailerLine, if_neg hne, hsplit]
      exact if_pos hunfit)
    (fun fields line field hne hsplit hfit => by
      rw [← hfits] at hfit
      rw [hparse, parseTrailerLine, if_neg hne, hsplit]
      refine (if_neg (by rw [hfit]; exact Bool.false_ne_true)).trans ?_
      rw [withTrailers, withTrailers, ← append_assoc, fieldsByteCount_append]) []
  rw [hfields]
  constructor
  · rintro ⟨lines, left, trailers, hlines, rfl, hends⟩
    obtain ⟨rfl, rfl⟩ := (ends_complete_iff rfl).mp hends
    exact ⟨lines, trailers, hlines, rfl, rfl⟩
  rintro ⟨lines, trailers, hlines, rfl, rfl⟩
  exact ⟨lines, rest, trailers, hlines, rfl, (ends_complete_iff rfl).mpr ⟨rfl, rfl⟩⟩

/-! ## Chunks -/

/-- Before the line with the size of a chunk. -/
structure AtChunk (p : HttpResponseParser) : Prop where
  proceeds : p.Proceeds
  stage : p.stage = .body
  isChunked : p.isChunked = true
  chunkPhase : p.chunkPhase = .sizeLine
  chunkSize : p.chunkSize = 0
  lineBuffer : p.lineBuffer = []

theorem AtChunk.takesLine (hp : p.AtChunk) : p.TakesLine :=
  .inr (.inr ⟨hp.stage, hp.isChunked, by rw [hp.chunkPhase]; exact nofun⟩)

theorem AtChunk.parseLine (hp : p.AtChunk) (line : Bytes) :
    p.parseLine line = p.parseChunkSizeLine line := by
  rw [HttpResponseParser.parseLine, hp.stage]
  dsimp only
  rw [hp.chunkPhase]

theorem Proceeds.inChunks (hp : p.Proceeds) (hstage : p.stage = .body)
    (hchunked : p.isChunked) {r : HttpResponseParser}
    (hbuffer : r.lineBuffer = p.lineBuffer) (hstage' : r.stage = .body)
    (hchunked' : r.isChunked) (hclose : r.isCloseDelimited = p.isCloseDelimited)
    (hdata : r.chunkPhase = .data → 0 < r.chunkSize) : r.Proceeds := by
  refine ⟨by rw [hbuffer]; exact hp.lineBuffer, fun _ => .inl ⟨hchunked',
    hclose.trans (not_closeDelimited hp hstage hchunked), hdata⟩, ?_⟩
  rintro (h | h) <;> exact nomatch hstage'.symm.trans h

theorem ends_chunk_iff (hp : p.AtChunk) {size : Nat} (hsize : 0 < size) :
    Ends { p with chunkSize := size, chunkPhase := .data } bytes q rest ↔
      ∃ data left, data.length = size ∧ bytes = data ++ (lineEnd ++ left) ∧
        exceedsBudget (p.receivedBodyByteCount + data.length)
          p.maximumBodySize = false ∧ (p.appendBody data).Ends left q rest := by
  have hdataState : Proceeds { p with chunkSize := size, chunkPhase := .data } :=
    hp.proceeds.inChunks hp.stage hp.isChunked rfl hp.stage hp.isChunked rfl (fun _ => hsize)
  rw [ends_chunkData_iff hdataState ⟨hp.stage, hp.isChunked, rfl⟩]
  have hterminator : ∀ data : Bytes, data.length = size →
      ∀ left : Bytes, Ends (endChunk (takeChunkBytes
        { p with chunkSize := size, chunkPhase := .data } data)) left q rest ↔
      ∃ left', left = lineEnd ++ left' ∧ (p.appendBody data).Ends left' q rest := by
    intro data hlength left
    have hend : endChunk (takeChunkBytes { p with chunkSize := size, chunkPhase := .data } data) =
        { p.appendBody data with chunkPhase := .dataTerminator } := by
      have hzero : size - data.length = 0 := by omega
      refine (if_pos hzero).trans ?_
      simp only [takeChunkBytes, appendBody, hzero, hp.chunkSize]
    have hproceeds : Proceeds { p.appendBody data with chunkPhase := .dataTerminator } :=
      hp.proceeds.inChunks hp.stage hp.isChunked rfl hp.stage hp.isChunked
        rfl (by rintro ⟨⟩)
    have hparse : ∀ line, parseLine { p.appendBody data with chunkPhase := .dataTerminator } line =
        parseDataTerminator { p.appendBody data with chunkPhase := .dataTerminator } line := by
      intro line
      rw [HttpResponseParser.parseLine, show (appendBody p data).stage = _ from hp.stage]
    have hdone : ({ p.appendBody data with chunkPhase := .sizeLine } :
        HttpResponseParser) = p.appendBody data := by
      rw [← hp.chunkPhase]
      rfl
    rw [hend, ends_line_iff hproceeds (.inr (.inr ⟨hp.stage, hp.isChunked, by rintro ⟨⟩⟩)) hp.lineBuffer]
    constructor
    · rintro ⟨line, left', hline, rfl, hends⟩
      rw [hparse, parseDataTerminator] at hends
      split at hends
      · exact absurd hends not_ends_fail
      rename_i hnil
      rw [not_not.mp hnil]
      rw [hdone] at hends
      exact ⟨left', rfl, hends⟩
    · rintro ⟨left', rfl, hends⟩
      refine ⟨[], left', ⟨by simp [lineEnd], rfl⟩, rfl, ?_⟩
      rw [hparse, parseDataTerminator, if_neg (by simp), hdone]
      exact hends
  constructor
  · rintro ⟨data, left, hlength, rfl, hfits, hends⟩
    obtain ⟨left', rfl, hnext⟩ := (hterminator data hlength left).mp hends
    exact ⟨data, left', hlength, rfl, hfits, hnext⟩
  rintro ⟨data, left, hlength, rfl, hfits, hends⟩
  exact ⟨data, lineEnd ++ left, hlength, rfl, hfits,
    (hterminator data hlength _).mpr ⟨left, rfl, hends⟩⟩

theorem AtChunk.appendBody (hp : p.AtChunk) (data : Bytes) : (p.appendBody data).AtChunk :=
  ⟨hp.proceeds.inChunks hp.stage hp.isChunked rfl hp.stage hp.isChunked rfl
    (fun hdata => nomatch hp.chunkPhase.symm.trans hdata),
    hp.stage, hp.isChunked, hp.chunkPhase, hp.chunkSize, hp.lineBuffer⟩

theorem ends_chunks_iff (hp : p.AtChunk) : p.Ends bytes q rest ↔ ∃ chunks left body,
      Chunks p.maximumBodySize p.receivedBodyByteCount chunks body ∧
      bytes = chunks ++ left ∧
      Ends { p.appendBody body with chunkPhase := .trailer } left q rest := by
  have hparse : ∀ {r : HttpResponseParser}, r.AtChunk → ∀ {line size},
      splitChunkSizeLine line = some size → r.parseLine line =
        { r with chunkSize := size
                 chunkPhase := if size = 0 then .trailer else .data } := by
    intro r hr line size hsize
    rw [hr.parseLine, parseChunkSizeLine, hsize]
  have hlast : ∀ {r : HttpResponseParser}, r.AtChunk →
      ({ r with chunkSize := 0, chunkPhase := .trailer } : HttpResponseParser) =
        { r.appendBody [] with chunkPhase := .trailer } := by
    intro r hr
    rw [← hr.chunkSize]
    simp [HttpResponseParser.appendBody]
  constructor
  · intro hends
    generalize hlength : bytes.length = n
    induction n using Nat.strongRecOn generalizing p bytes with
    | ind n ih =>
      obtain ⟨line, left, hline, rfl, hnext⟩ :=
        (ends_line_iff hp.proceeds hp.takesLine hp.lineBuffer).mp hends
      cases hsize : splitChunkSizeLine line with
      | none =>
        rw [hp.parseLine, parseChunkSizeLine, hsize] at hnext
        exact absurd hnext not_ends_fail
      | some size =>
        rw [hparse hp hsize] at hnext
        by_cases hzero : size = 0
        · subst hzero
          rw [if_pos rfl, hlast hp] at hnext
          exact ⟨line ++ lineEnd, left, [], .last hline hsize, rfl, hnext⟩
        rw [if_neg hzero, ends_chunk_iff hp (Nat.pos_of_ne_zero hzero)] at hnext
        obtain ⟨data, left', rfl, rfl, hfits, hnext⟩ := hnext
        obtain ⟨chunks, left'', body, hchunks, rfl, hrest⟩ :=
          ih left'.length (by
            rw [← hlength]
            simp only [length_append, lineEnd, length_cons]
            omega) (hp.appendBody data) hnext rfl
        refine ⟨_, left'', data ++ body, .chunk hline hsize
          (fun hnil => hzero (by rw [hnil]; rfl)) hfits hchunks,
          by simp only [append_assoc], ?_⟩
        rw [appendBody_append] at hrest
        exact hrest
  · rintro ⟨chunks, left, body, hchunks, rfl, hends⟩
    generalize hreceived : p.receivedBodyByteCount = received at hchunks
    generalize hlimit : p.maximumBodySize = limit at hchunks
    induction hchunks generalizing p with
    | @last received line hline hsize =>
      refine (ends_line_iff hp.proceeds hp.takesLine hp.lineBuffer).mpr ⟨line, left, hline, rfl, ?_⟩
      rw [hparse hp hsize, if_pos rfl, hlast hp]
      exact hends
    | @chunk received line data chunks body hline hsize hdata hfits _ ih =>
      have hpos := length_pos_iff.mpr hdata
      refine (ends_line_iff hp.proceeds hp.takesLine hp.lineBuffer).mpr
        ⟨line, data ++ (lineEnd ++ (chunks ++ left)), hline,
          by simp only [append_assoc], ?_⟩
      rw [hparse hp hsize, if_neg (by omega), ends_chunk_iff hp hpos]
      refine ⟨data, chunks ++ left, rfl, rfl,
        by rw [hreceived, hlimit]; exact hfits,
        ih (hp.appendBody data) ?_ ?_ hlimit⟩
      · rw [appendBody_append]
        exact hends
      · rw [← hreceived]
        rfl

end Ends

/-! ## Responses -/

/-- A parser that waits for the response to a request, HEAD or another. -/
def fresh (isHeadResponse : Bool) (maximumBodySize : Nat) :
    HttpResponseParser :=
  { isHeadResponse := isHeadResponse, maximumBodySize := maximumBodySize }

/-- The parser behind the field lines of this head. -/
def afterHead (isHeadResponse : Bool) (maximumBodySize : Nat)
    (info : HttpResponseInfo) : HttpResponseParser :=
  { isHeadResponse := isHeadResponse, maximumBodySize := maximumBodySize
    stage := .headers, result := info
    headerBlockByteCount := fieldsByteCount info.headers }

/-- The parser reads a response with this result, and leaves this much. An
open one is complete at the end of the stream only. -/
def Finishes (p : HttpResponseParser) (bytes : Bytes) (r : HttpResponseInfo)
    (isOpen : Bool) (rest : Bytes) : Prop :=
  ∃ q, p.Ends bytes q rest ∧ q.stage = (if isOpen then .body else .complete) ∧ q.result = r

section Responses

variable {isHead isOpen : Bool} {limit : Nat} {info r : HttpResponseInfo}
  {bytes rest : Bytes}

theorem head_empty {head : Bytes} (h : Head head info) :
    info.body = [] ∧ info.trailers = [] ∧ head ≠ [] := by
  cases h with
  | intro => exact ⟨rfl, rfl, by simp [lineEnd]⟩

theorem proceeds_fresh : (fresh isHead limit).Proceeds := ⟨rfl, nofun, fun _ => ⟨rfl, rfl, rfl⟩⟩

theorem proceeds_afterHead : (afterHead isHead limit info).Proceeds :=
  ⟨rfl, nofun, fun _ => ⟨rfl, rfl, rfl⟩⟩

theorem ends_head_iff {q : HttpResponseParser} : (fresh isHead limit).Ends bytes q rest ↔
      ∃ head left info, Head head info ∧ bytes = head ++ left ∧
        (afterHead isHead limit info).finishHeaders.Ends left q rest := by
  have hparse : ∀ {line statusCode reasonPhrase},
      splitStatusLine line = some (statusCode, reasonPhrase) →
      (fresh isHead limit).parseLine line =
        (afterHead isHead limit { statusCode := statusCode
                                  reasonPhrase := reasonPhrase }).withHeaders
          [] := by
    intro line statusCode reasonPhrase hstatus
    show (fresh isHead limit).parseStatusLine line = _
    rw [parseStatusLine, hstatus]
    rfl
  have hfields : ∀ statusCode reasonPhrase left,
      Ends ((afterHead isHead limit { statusCode := statusCode
                                      reasonPhrase := reasonPhrase
                                      }).withHeaders []) left q rest ↔ _ :=
    fun statusCode reasonPhrase left =>
      ends_headers_iff proceeds_afterHead rfl rfl rfl
  rw [ends_line_iff proceeds_fresh (.inl rfl) rfl]
  constructor
  · rintro ⟨line, left, hline, rfl, hends⟩
    cases hstatus : splitStatusLine line with
    | none =>
      have hfail : (fresh isHead limit).parseLine line = (fresh isHead limit).fail := by
        show (fresh isHead limit).parseStatusLine line = _
        rw [parseStatusLine, hstatus]
      rw [hfail] at hends
      exact absurd hends not_ends_fail
    | some x =>
      obtain ⟨statusCode, reasonPhrase⟩ := x
      rw [hparse hstatus, hfields] at hends
      obtain ⟨lines, left', headers, hlines, rfl, hends⟩ := hends
      exact ⟨line ++ lineEnd ++ lines, left', _,
        .intro hline hstatus hlines, (append_assoc _ _ _).symm, hends⟩
  · rintro ⟨head, left, info, hhead, rfl, hends⟩
    cases hhead with
    | @intro line lines reasonPhrase statusCode headers hline hstatus hlines =>
      refine ⟨line, lines ++ left, hline, append_assoc _ _ _, ?_⟩
      rw [hparse hstatus, hfields]
      exact ⟨lines, left, headers, hlines, rfl, hends⟩

theorem finishes_complete_iff {p : HttpResponseParser}
    (hstage : p.stage = .complete) : p.Finishes bytes r isOpen rest ↔
      isOpen = false ∧ r = p.result ∧ bytes = rest := by
  constructor
  · rintro ⟨q, hends, hopen, rfl⟩
    obtain ⟨rfl, rfl⟩ := (ends_complete_iff hstage).mp hends
    cases isOpen with
    | false => exact ⟨rfl, rfl, rfl⟩
    | true => exact nomatch hstage.symm.trans hopen
  · rintro ⟨rfl, rfl, rfl⟩
    exact ⟨p, (ends_complete_iff hstage).mpr ⟨rfl, rfl⟩, hstage, rfl⟩

theorem finishes_length_iff {byteCount : Nat} (hbody : info.body = []) :
    ((afterHead isHead limit info).enter (.length byteCount)).Finishes bytes r isOpen rest ↔
      isOpen = false ∧ ∃ body, body.length = byteCount ∧
        bytes = body ++ rest ∧ exceedsBudget byteCount limit = false ∧
        r = { info with body := body } := by
  rw [enter, show (afterHead isHead limit info).maximumBodySize = limit from rfl]
  cases hover : exceedsBudget byteCount limit with
  | true =>
    constructor
    · rintro ⟨q, hends, -⟩
      exact absurd hends not_ends_failOverLimit
    · rintro ⟨-, body, -, -, hfalse, -⟩
      cases hfalse
  | false =>
    by_cases hzero : byteCount = 0
    · subst hzero
      rw [if_pos rfl, finishes_complete_iff rfl]
      constructor
      · rintro ⟨rfl, rfl, rfl⟩
        exact ⟨rfl, [], rfl, rfl, rfl, by rw [← hbody]⟩
      rintro ⟨rfl, body, hlength, rfl, -, rfl⟩
      have hnil := length_eq_zero_iff.mp hlength
      subst hnil
      exact ⟨rfl, by rw [← hbody]; rfl, rfl⟩
    rw [if_neg hzero]
    have hdeclared : ∀ q : HttpResponseParser, Ends
        { afterHead isHead limit info with
          expectedBodyBytes := byteCount, stage := .body } bytes q rest ↔
        _ := fun q => ends_declaredBody_iff
      ⟨rfl, fun _ => .inr (.inl ⟨rfl, rfl, Nat.pos_of_ne_zero hzero⟩),
        nofun⟩ ⟨rfl, rfl, rfl, Nat.pos_of_ne_zero hzero⟩
    constructor
    · rintro ⟨q, hends, hopen, rfl⟩
      obtain ⟨data, hlength, rfl, rfl⟩ := (hdeclared q).mp hends
      cases isOpen with
      | true => exact nomatch hopen
      | false =>
        refine ⟨rfl, data, hlength, rfl, rfl, ?_⟩
        show { info with body := info.body ++ data } = _
        rw [hbody, nil_append]
    · rintro ⟨rfl, body, hlength, rfl, -, rfl⟩
      refine ⟨_, (hdeclared _).mpr ⟨body, hlength, rfl, rfl⟩, rfl, ?_⟩
      show { info with body := info.body ++ body } = _
      rw [hbody, nil_append]

theorem finishes_chunked_iff (hbody : info.body = []) (htrailers : info.trailers = []) :
    ((afterHead isHead limit info).enter .chunked).Finishes bytes r isOpen rest ↔
      isOpen = false ∧ ∃ chunks trailerBytes body trailers, Chunks limit 0 chunks body ∧
        FieldLines info.headers [] trailerBytes trailers ∧
        bytes = chunks ++ (trailerBytes ++ rest) ∧
        r = { info with body := body, trailers := trailers } := by
  have hchunk : ((afterHead isHead limit info).enter .chunked).AtChunk :=
    ⟨⟨rfl, fun _ => .inl ⟨rfl, rfl, by rintro ⟨⟩⟩, by simp [enter, afterHead]⟩, rfl, rfl, rfl, rfl, rfl⟩
  have hstate : ∀ body : Bytes, ({ (enter (afterHead isHead limit info)
      .chunked).appendBody body with chunkPhase := .trailer } :
        HttpResponseParser) = withTrailers { (enter (afterHead isHead limit
        info) .chunked).appendBody body with chunkPhase := .trailer } [] := by
    intro body
    simp [withTrailers, enter, afterHead, HttpResponseParser.appendBody, htrailers]
  have htrailerLines : ∀ (body left : Bytes) (q : HttpResponseParser),
      Ends (withTrailers { (enter (afterHead isHead limit
        info) .chunked).appendBody body with chunkPhase := .trailer } []) left
        q rest ↔ _ := fun body left q =>
    ends_trailers_iff ⟨rfl, fun _ => .inl ⟨rfl, rfl, by rintro ⟨⟩⟩,
      by simp [enter, afterHead, HttpResponseParser.appendBody]⟩ rfl rfl rfl rfl
  constructor
  · rintro ⟨q, hends, hopen, rfl⟩
    obtain ⟨chunks, left, body, hchunks, rfl, hnext⟩ := (ends_chunks_iff hchunk).mp hends
    rw [hstate, htrailerLines] at hnext
    obtain ⟨lines, trailers, hlines, rfl, rfl⟩ := hnext
    cases isOpen with
    | true => cases hopen
    | false =>
      refine ⟨rfl, chunks, lines, body, trailers, hchunks, hlines, rfl, ?_⟩
      show { info with body := info.body ++ body, trailers := trailers } = _
      rw [hbody, nil_append]
  · rintro ⟨rfl, chunks, lines, body, trailers, hchunks, hlines, rfl, rfl⟩
    have hends := (ends_chunks_iff hchunk).mpr ⟨chunks, lines ++ rest, body, hchunks, rfl, by
        rw [hstate]
        exact (htrailerLines body _ _).mpr ⟨lines, trailers, hlines, rfl, rfl⟩⟩
    refine ⟨_, hends, rfl, ?_⟩
    show { info with body := info.body ++ body, trailers := trailers } = _
    rw [hbody, nil_append]

theorem finishes_untilClose_iff (hbody : info.body = []) :
    ((afterHead isHead limit info).enter .untilClose).Finishes bytes r isOpen rest ↔
      isOpen ∧ rest = [] ∧ exceedsBudget bytes.length limit = false ∧
        r = { info with body := bytes } := by
  have huntil : ∀ q : HttpResponseParser, Ends
      ((afterHead isHead limit info).enter .untilClose) bytes q rest ↔
      _ := fun q => ends_untilClose_iff
    ⟨rfl, fun _ => .inr (.inr ⟨rfl, rfl, rfl⟩), by simp [enter, afterHead]⟩ ⟨rfl, rfl, rfl, rfl⟩
    (by simp [enter, afterHead, exceedsBudget])
  have hresult : (((afterHead isHead limit info).enter
      .untilClose).appendBody bytes).result = { info with body := bytes } := by
    show { info with body := info.body ++ bytes } = _
    rw [hbody, nil_append]
  have hlength : ((afterHead isHead limit info).enter
      .untilClose).receivedBodyByteCount + bytes.length = bytes.length :=
    Nat.zero_add _
  constructor
  · rintro ⟨q, hends, hopen, rfl⟩
    obtain ⟨rfl, rfl, hfits⟩ := (huntil q).mp hends
    rw [hlength] at hfits
    cases isOpen with
    | false => cases hopen
    | true => exact ⟨rfl, rfl, hfits, hresult⟩
  · rintro ⟨rfl, rfl, hfits, rfl⟩
    refine ⟨_, (huntil _).mpr ⟨rfl, rfl, ?_⟩, rfl, hresult⟩
    rw [hlength]
    exact hfits

theorem message_of_finishes {head : Bytes} (hhead : Head head info)
    {framing : MessageFraming} (hframes : Frames isHead info framing)
    (hfinal : framing ≠ .interim)
    (h : ((afterHead isHead limit info).enter framing).Finishes bytes r isOpen rest) :
    ∃ message, Message isHead limit message r isOpen ∧
      (isOpen → rest = []) ∧ head ++ bytes = message ++ rest := by
  obtain ⟨hbody, htrailers, -⟩ := head_empty hhead
  cases framing with
  | interim => exact absurd rfl hfinal
  | bodyless =>
    obtain ⟨rfl, rfl, rfl⟩ := (finishes_complete_iff rfl).mp h
    exact ⟨head, .bodyless hhead hframes, nofun, rfl⟩
  | length byteCount =>
    obtain ⟨rfl, body, rfl, rfl, hfits, rfl⟩ := (finishes_length_iff hbody).mp h
    exact ⟨head ++ body, .length hhead hframes hfits, nofun, (append_assoc _ _ _).symm⟩
  | chunked =>
    obtain ⟨rfl, chunks, lines, body, trailers, hchunks, hlines, rfl, rfl⟩ :=
      (finishes_chunked_iff hbody htrailers).mp h
    exact ⟨head ++ (chunks ++ lines), .chunked hhead hframes hchunks hlines,
      nofun, by simp only [append_assoc]⟩
  | untilClose =>
    obtain ⟨rfl, rfl, hfits, rfl⟩ := (finishes_untilClose_iff hbody).mp h
    exact ⟨head ++ bytes, .untilClose hhead hframes hfits, fun _ => rfl, (append_nil _).symm⟩

theorem enter_interim (hbody : info.body = []) (htrailers : info.trailers = []) :
    (afterHead isHead limit info).enter .interim = fresh isHead limit := by
  simp only [enter, discardInterimInformationalResponse, afterHead, fresh, hbody, htrailers]

theorem finishes_head {head left : Bytes} (hhead : Head head info)
    {framing : MessageFraming} (hframes : Frames isHead info framing)
    (h : ((afterHead isHead limit info).enter framing).Finishes left r isOpen rest) :
    (fresh isHead limit).Finishes (head ++ left) r isOpen rest := by
  obtain ⟨q, hends, hq⟩ := h
  refine ⟨q, ends_head_iff.mpr ⟨head, left, info, hhead, rfl, ?_⟩, hq⟩
  exact (ends_finishHeaders_iff proceeds_afterHead rfl).mpr ⟨framing, hframes, hends⟩

/-- The parser takes what is a response behind interim ones, and nothing
else. -/
theorem finishes_iff : (fresh isHead limit).Finishes bytes r isOpen rest ↔
    ∃ interims message, Interims isHead interims ∧
      Message isHead limit message r isOpen ∧ (isOpen → rest = []) ∧
      bytes = interims ++ (message ++ rest) := by
  constructor
  · intro h
    generalize hlength : bytes.length = n
    induction n using Nat.strongRecOn generalizing bytes with
    | ind n ih =>
      obtain ⟨q, hends, hq⟩ := h
      obtain ⟨head, left, info, hhead, rfl, hfinish⟩ := ends_head_iff.mp hends
      obtain ⟨hbody, htrailers, hne⟩ := head_empty hhead
      obtain ⟨framing, hframes, hnext⟩ := (ends_finishHeaders_iff proceeds_afterHead rfl).mp hfinish
      by_cases hinterim : framing = .interim
      · subst hinterim
        rw [enter_interim hbody htrailers] at hnext
        have hpos := length_pos_iff.mpr hne
        obtain ⟨interims, message, hinterims, hmessage, hrest, rfl⟩ :=
          ih left.length (by
            rw [← hlength, length_append]
            omega) ⟨q, hnext, hq⟩ rfl
        exact ⟨head ++ interims, message, .one hhead hframes hinterims,
          hmessage, hrest, (append_assoc _ _ _).symm⟩
      · obtain ⟨message, hmessage, hrest, heq⟩ :=
          message_of_finishes hhead hframes hinterim ⟨q, hnext, hq⟩
        exact ⟨[], message, .none, hmessage, hrest, heq⟩
  rintro ⟨interims, message, hinterims, hmessage, hrest, rfl⟩
  induction hinterims with
  | none =>
    cases hmessage with
    | bodyless hhead hframes =>
      rw [nil_append]
      exact finishes_head hhead hframes ((finishes_complete_iff rfl).mpr ⟨rfl, rfl, rfl⟩)
    | @length head body info hhead hframes hfits =>
      rw [nil_append, append_assoc]
      exact finishes_head hhead hframes
        ((finishes_length_iff (head_empty hhead).1).mpr ⟨rfl, body, rfl, rfl, hfits, rfl⟩)
    | @chunked head chunks body lines info trailers hhead hframes hchunks hlines =>
        rw [nil_append, append_assoc, append_assoc]
        exact finishes_head hhead hframes
          ((finishes_chunked_iff (head_empty hhead).1 (head_empty hhead).2.1).mpr
            ⟨rfl, chunks, lines, body, trailers, hchunks, hlines, rfl,
              rfl⟩)
    | @untilClose head body info hhead hframes hfits =>
      cases hrest rfl
      rw [nil_append, append_nil]
      exact finishes_head hhead hframes
        ((finishes_untilClose_iff (head_empty hhead).1).mpr ⟨rfl, rfl, hfits, rfl⟩)
  | @one head interims info hhead hframes _ ih =>
    obtain ⟨hbody, htrailers, -⟩ := head_empty hhead
    rw [append_assoc]
    refine finishes_head hhead hframes ?_
    rw [enter_interim hbody htrailers]
    exact ih

/-- However a stream is cut, a response is read from it as from the whole,
and the same is left of it. What is read, whole or at the end of the stream,
is a message of the length its head gives it, behind interim responses; all
that follows is left. -/
theorem response_framing (isHead : Bool) (limit : Nat) :
    (∀ pieces : List Bytes, reader.SameRest (reader.read (fresh isHead limit) pieces.flatten)
        (reader.deliver (fresh isHead limit) pieces)) ∧
    ∀ (bytes rest : Bytes) (r : HttpResponseInfo) (isOpen : Bool),
      (fresh isHead limit).Finishes bytes r isOpen rest ↔
        ∃ interims message, Interims isHead interims ∧ Message isHead limit message r isOpen ∧
          (isOpen = true → rest = []) ∧
          bytes = interims ++ (message ++ rest) :=
  ⟨fun pieces => deliver_flatten reader_resumable proceeds_fresh pieces
    (fair_any _ proceeds_fresh _), fun _ _ _ _ => finishes_iff⟩

/-- A 101 is not skipped, and of a response to HEAD the lengths have to
agree, although it has no body. -/
theorem response_framing_departs :
    (∃ q rest, reader.read (fresh false 0)
        (asciiText "HTTP/1.1 101 Switching Protocols\r\n\r\n") = (q, rest) ∧
      q.stage = .complete ∧ q.result.statusCode = 101) ∧
    (reader.read (fresh true 0)
      (asciiText ("HTTP/1.1 200 OK\r\nContent-Length: 1\r\n" ++
        "Content-Length: 2\r\n\r\n"))).1.stage = .failed :=
  ⟨⟨_, _, rfl, by decide +kernel, by decide +kernel⟩, by decide +kernel⟩

end Responses

end HttpResponseParser

end AsynGyanis.Http
