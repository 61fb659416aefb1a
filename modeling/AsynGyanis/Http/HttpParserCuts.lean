import AsynGyanis.Http.HttpParser
import AsynGyanis.Library.Judgement

/-!
# Where the input of the request parser may be cut

The rounds of `HttpParser` are resumable but for one case. A line whose LF
has no CR before it is malformed, and a line that is too long is refused for
its length. A line that is both is malformed if it comes in one piece, since
`takeLineFast` looks at its end first, and too long if it comes in several,
since `takeLineSlow` looks at its length first. `LineIsFair` excludes such a
line; `reader_sharp` shows that it always can be cut so that the parser gives
the other reason.
-/

namespace AsynGyanis.Http

open Library List Reader

/-! ## The first line feed -/

section Span

variable {α : Type} {q : α → Bool}

theorem takeWhile_append_of_end {a : List α} (h : a.dropWhile q ≠ [])
    (b : List α) : (a ++ b).takeWhile q = a.takeWhile q ∧
      (a ++ b).dropWhile q = a.dropWhile q ++ b := by
  induction a with
  | nil => exact absurd rfl h
  | cons x a ih =>
    by_cases hx : q x
    · rw [dropWhile_cons_of_pos hx] at h
      simp [hx, ih h]
    · simp [hx]

end Span

namespace HttpParser

/-! ## What a round keeps -/

/-- The stages that take whole lines. -/
def takesLine (p : HttpParser) : Bool :=
  p.stage ≠ .body && p.stage ≠ .chunkData && p.stage ≠ .chunkDataTerminator

/-- Between two rounds of a parser with these limits. -/
structure Proceeds (limits : HttpParserLimits) (p : HttpParser) : Prop where
  limits_eq : p.limits = limits
  body : p.stage = .body → p.receivedBodyLength < p.contentLength
  chunkData : p.stage = .chunkData → 0 < p.chunkRemainingBytes
  head : p.stage = .requestLine ∨ p.stage = .headers → p.receivedBodyLength = 0

/-- What the parsing of a field leaves alone. -/
structure SameFrame (p q : HttpParser) : Prop where
  limits : q.limits = p.limits
  pendingLine : q.pendingLine = p.pendingLine
  stage : q.stage = p.stage
  receivedBodyLength : q.receivedBodyLength = p.receivedBodyLength

theorem SameFrame.trans {p q r : HttpParser} (hpq : SameFrame p q)
    (hqr : SameFrame q r) : SameFrame p r :=
  ⟨hqr.limits.trans hpq.limits, hqr.pendingLine.trans hpq.pendingLine, hqr.stage.trans hpq.stage,
    hqr.receivedBodyLength.trans hpq.receivedBodyLength⟩

theorem parseFieldLine_frame {p : HttpParser} {line : Bytes}
    {label : String} {result : HttpParser × Bytes × Bytes}
    (h : p.parseFieldLine line label = .ok result) : SameFrame p result.1 := by
  unfold parseFieldLine at h
  constructor <;> grind

theorem noteFields_frame {p q r : HttpParser} {name value : Bytes}
    (hframing : p.noteFramingField name value = .ok q)
    (hhost : q.noteHostField name value = .ok r) : SameFrame p r := by
  unfold noteFramingField parseContentLength appendTransferEncodingValue at hframing
  unfold noteHostField at hhost
  constructor <;> grind

section Lines

variable {limits : HttpParserLimits} {p q : HttpParser}

theorem stages_of_takesLine (h : p.takesLine) : p.stage ≠ .body ∧ p.stage ≠ .chunkData ∧
      p.stage ≠ .chunkDataTerminator := by
  simpa [takesLine, and_assoc] using h

theorem Proceeds.of_frame (hp : p.Proceeds limits) (htakes : p.takesLine) (h : SameFrame p q) :
    q.Proceeds limits := by
  obtain ⟨hbody, hdata, -⟩ := stages_of_takesLine htakes
  refine ⟨h.limits.trans hp.limits_eq, fun hstage => ?_, fun hstage => ?_, fun hstage => ?_⟩
  · exact absurd (h.stage.symm.trans hstage) hbody
  · exact absurd (h.stage.symm.trans hstage) hdata
  · rw [h.stage] at hstage
    exact h.receivedBodyLength.trans (hp.head hstage)

theorem proceeds_complete (hp : p.Proceeds limits) :
    Proceeds limits { p.commitMessage with stage := .complete } :=
  ⟨hp.limits_eq, nofun, nofun, by rintro (h | h) <;> exact nomatch h⟩

theorem parseRequestLine_ok (hp : p.Proceeds limits) (line : Bytes)
    (hstage : p.stage = .requestLine) (h : p.parseRequestLine line = .ok q) :
    q.Proceeds limits ∧ q.pendingLine = p.pendingLine := by
  obtain ⟨hlimits, -, -, hhead⟩ := hp
  unfold parseRequestLine at h
  refine ⟨⟨?_, ?_, ?_, ?_⟩, ?_⟩ <;> grind

theorem finishHeaderBlock_ok (hp : p.Proceeds limits)
    (hstage : p.stage = .headers) (h : p.finishHeaderBlock = .ok q) :
    q.Proceeds limits ∧ q.pendingLine = p.pendingLine := by
  obtain ⟨hlimits, -, -, hhead⟩ := hp
  unfold finishHeaderBlock commitMessage clearMessageScratch at h
  refine ⟨⟨?_, ?_, ?_, ?_⟩, ?_⟩ <;> grind

theorem parseHeaderLine_ok (hp : p.Proceeds limits) (line : Bytes)
    (hstage : p.stage = .headers) (h : p.parseHeaderLine line = .ok q) :
    q.Proceeds limits ∧ q.pendingLine = p.pendingLine := by
  rw [parseHeaderLine] at h
  split at h
  · exact finishHeaderBlock_ok hp hstage h
  obtain ⟨⟨p₁, name, value⟩, hfield, h⟩ := bind_eq_ok h
  obtain ⟨p₂, hframing, h⟩ := bind_eq_ok h
  obtain ⟨p₃, hhost, h⟩ := bind_eq_ok h
  cases h
  have hframe : SameFrame p p₃ :=
    (parseFieldLine_frame hfield).trans (noteFields_frame hframing hhost)
  have htakes : p.takesLine := by simp [takesLine, hstage]
  exact ⟨hp.of_frame htakes
    ⟨hframe.limits, hframe.pendingLine, hframe.stage,
      hframe.receivedBodyLength⟩, hframe.pendingLine⟩

theorem parseChunkSizeLine_ok (hp : p.Proceeds limits) (line : Bytes)
    (h : p.parseChunkSizeLine line = .ok q) :
    q.Proceeds limits ∧ q.pendingLine = p.pendingLine := by
  rw [parseChunkSizeLine] at h
  split at h
  · cases h
  obtain ⟨chunkSize, -, h⟩ := bind_eq_ok h
  repeat' split at h
  all_goals cases h
  · exact ⟨⟨hp.limits_eq, nofun, nofun, by
      rintro (h | h) <;> exact nomatch h⟩, rfl⟩
  rename_i hzero
  exact ⟨⟨hp.limits_eq, nofun, fun _ => Nat.pos_of_ne_zero hzero, by
    rintro (h | h) <;> exact nomatch h⟩, rfl⟩

theorem parseTrailerLine_ok (hp : p.Proceeds limits) (line : Bytes)
    (htakes : p.takesLine) (h : p.parseTrailerLine line = .ok q) :
    q.Proceeds limits ∧ q.pendingLine = p.pendingLine := by
  rw [parseTrailerLine] at h
  split at h
  · cases h
    exact ⟨proceeds_complete hp, rfl⟩
  obtain ⟨⟨p₁, name, value⟩, hfield, h⟩ := bind_eq_ok h
  have hframe := parseFieldLine_frame hfield
  have hnext := hp.of_frame htakes hframe
  dsimp only at h
  split at h
  · cases h
    exact ⟨hnext, hframe.pendingLine⟩
  cases h
  exact ⟨hp.of_frame htakes ⟨hframe.limits, hframe.pendingLine,
    hframe.stage, hframe.receivedBodyLength⟩, hframe.pendingLine⟩

theorem parseLine_ok (hp : p.Proceeds limits) (line : Bytes)
    (htakes : p.takesLine) (h : p.parseLine line = .ok q) :
    q.Proceeds limits ∧ q.pendingLine = p.pendingLine := by
  rw [parseLine] at h
  split at h
  · next hstage => exact parseRequestLine_ok hp line hstage h
  · next hstage => exact parseHeaderLine_ok hp line hstage h
  · exact parseChunkSizeLine_ok hp line h
  · exact parseTrailerLine_ok hp line htakes h

end Lines

/-! ## Lines in pieces -/

theorem lineTooLong_ne_malformed (p : HttpParser) : p.lineTooLong.kind ≠ .malformed := by
  rw [lineTooLong]
  split <;> exact nofun

/-- No line that ends here in a bare LF is too long. -/
def LineIsFair (p : HttpParser) (data : Bytes) : Prop :=
  p.takesLine = true → data.dropWhile (· ≠ lineFeed) ≠ [] → endsWithCarriageReturn
      (p.pendingLine ++ data.takeWhile (· ≠ lineFeed)) = false →
    exceedsBudget (p.pendingLine ++ data.takeWhile (· ≠ lineFeed)).length p.lineLengthLimit = false

/-- What a line comes to when all of it is known. -/
def completeLine (p : HttpParser) (line rest : Bytes) : HttpParser × Bytes :=
  let p := { p with pendingLine := [] }
  if !endsWithCarriageReturn line then (p.recordFailure bareLineFeed, rest)
  else if exceedsBudget (line.length - 1) p.lineLengthLimit then
    (p.recordFailure p.lineTooLong, rest)
  else
    match p.parseLine line.dropLast with
    | .error failure => (p.recordFailure failure, rest)
    | .ok next => (next, rest)

section Pieces

variable {p : HttpParser} {data : Bytes}

theorem receiveLine_unfinished (h : data.dropWhile (· ≠ lineFeed) = []) : p.receiveLine data =
      if exceedsBudget (lineBodyByteCountWithoutTerminator
          p.pendingLine.length data.length (endsWithCarriageReturn data))
          p.lineLengthLimit then
        (p.recordFailure p.lineTooLong, data)
      else ({ p with pendingLine := p.pendingLine ++ data }, []) := by
  unfold receiveLine takeLine takeLineFast takeLineSlow checkLineLength
  grind

/-- A line that ends in the input: in one piece its end is looked at first,
in several its length is. -/
theorem takeLine_finished {feed : UInt8} {line rest : Bytes}
    (h : data.dropWhile (· ≠ lineFeed) = feed :: rest)
    (hline : p.pendingLine ++ data.takeWhile (· ≠ lineFeed) = line) :
    (endsWithCarriageReturn line = false → p.pendingLine = [] ∨
        exceedsBudget (line.length - 1) p.lineLengthLimit = false →
      ∃ left, p.takeLine data = .failed bareLineFeed left) ∧
    (exceedsBudget (line.length - 1) p.lineLengthLimit →
      p.pendingLine ≠ [] ∨ endsWithCarriageReturn line →
      ∃ left, p.takeLine data = .failed p.lineTooLong left) ∧
    (endsWithCarriageReturn line → exceedsBudget (line.length - 1) p.lineLengthLimit = false →
      p.takeLine data = .line { p with pendingLine := [] } line.dropLast rest) := by
  have hlength : lineBodyByteCountWithTerminator (p.pendingLine.length +
      ((data.takeWhile (· ≠ lineFeed)).length + 1)) = line.length - 1 := by
    rw [lineBodyByteCountWithTerminator, ← hline, length_append]
    omega
  unfold takeLine takeLineFast takeLineSlow checkLineLength
  dsimp only
  by_cases hpending : p.pendingLine = []
  · have hsame : { p with pendingLine := [] } = p := by rw [← hpending]
    rw [hpending, nil_append] at hline
    rw [hpending, length_nil, Nat.zero_add, hline] at hlength
    grind
  · grind

theorem receiveLine_finished {feed : UInt8} {rest : Bytes}
    (h : data.dropWhile (· ≠ lineFeed) = feed :: rest)
    (hfair : p.LineIsFair data) (htakes : p.takesLine) :
    reader.SameRest (p.receiveLine data)
      (p.completeLine (p.pendingLine ++ data.takeWhile (· ≠ lineFeed)) rest) := by
  have hfair := hfair htakes (by rw [h]; exact cons_ne_nil _ _)
  obtain ⟨hbareLine, hlong, htaken⟩ := takeLine_finished h rfl
  generalize p.pendingLine ++ data.takeWhile (· ≠ lineFeed) = line at *
  unfold receiveLine completeLine
  cases hbare : endsWithCarriageReturn line with
  | false =>
    have hshort : exceedsBudget (line.length - 1) p.lineLengthLimit =
        false := by
      by_contra hexceeds
      exact nomatch (hfair hbare).symm.trans (exceedsBudget_mono
        (by simpa using hexceeds) (Nat.sub_le _ _))
    obtain ⟨left, htake⟩ := hbareLine hbare (.inr hshort)
    rw [htake]
    exact .inr ⟨.malformed, rfl, rfl⟩
  | true =>
    cases hexceeds : exceedsBudget (line.length - 1) p.lineLengthLimit with
    | true =>
      obtain ⟨left, htake⟩ := hlong hexceeds (.inr hbare)
      rw [htake]
      refine .inr ⟨p.lineTooLong.kind, rfl, ?_⟩
      rw [if_neg (by decide), if_pos (by exact hexceeds)]
      rfl
    | false =>
      rw [htaken hbare hexceeds]
      left
      exact ((if_neg (by decide)).trans (if_neg (by exact ne_true_of_eq_false hexceeds))).symm

theorem completeLine_rest (p : HttpParser) (line rest : Bytes) :
    p.completeLine line rest = ((p.completeLine line []).1, rest) := by
  unfold completeLine
  grind

/-- What taking a line comes to: a failure, all of the input is kept, or
there is a line and less is left. -/
theorem receiveLine_cases (p : HttpParser) (data : Bytes) :
    ((p.receiveLine data).1.stage = .failed ∧ (p.receiveLine data).1.limits = p.limits) ∨
    p.receiveLine data = ({ p with pendingLine := p.pendingLine ++ data }, []) ∨
    ∃ line, (p.receiveLine data).2.length < data.length ∧
      parseLine { p with pendingLine := [] } line = .ok (p.receiveLine data).1 := by
  cases hend : data.dropWhile (· ≠ lineFeed) with
  | nil =>
    rw [receiveLine_unfinished hend]
    split
    · exact .inl ⟨rfl, rfl⟩
    · exact .inr (.inl rfl)
  | cons feed rest =>
    have hless : rest.length < data.length := by
      have := (dropWhile_suffix (l := data) (· ≠ lineFeed)).length_le
      rw [hend, length_cons] at this
      omega
    obtain ⟨hbareLine, hlong, htaken⟩ := takeLine_finished hend rfl
    generalize p.pendingLine ++ data.takeWhile (· ≠ lineFeed) = line at *
    unfold receiveLine
    cases hexceeds : exceedsBudget (line.length - 1) p.lineLengthLimit <;>
      cases hbare : endsWithCarriageReturn line <;>
      by_cases hpending : p.pendingLine = [] <;> grind [recordFailure]

end Pieces

section Rounds

variable {limits : HttpParserLimits} {p : HttpParser}

theorem round_line (h : p.takesLine) (data : Bytes) : p.round data = p.receiveLine data := by
  obtain ⟨hbody, hdata, hterminator⟩ := stages_of_takesLine h
  rw [round]
  split
  · next hstage => exact absurd hstage hbody
  · next hstage => exact absurd hstage hdata
  · next hstage => exact absurd hstage hterminator
  · rfl

variable {x : UInt8} {b : Bytes}

theorem fair_before {a : Bytes} (hfair : p.LineIsFair (a ++ b)) : p.LineIsFair a := by
  intro htakes hend
  obtain ⟨htake, hdrop⟩ := takeWhile_append_of_end hend b
  have hfair := hfair htakes (by rw [hdrop]; exact append_ne_nil_of_left_ne_nil hend b)
  rwa [htake] at hfair

/-- A line that is too long before its end is known is so afterwards. -/
theorem receiveLine_tooLong (htakes : p.takesLine)
    (hx : x ≠ lineFeed) (hfair : p.LineIsFair (x :: b))
    (hexceeds : exceedsBudget (lineBodyByteCountWithoutTerminator
      p.pendingLine.length 1 (endsWithCarriageReturn [x]))
      p.lineLengthLimit) :
    reader.refusal (p.receiveLine (x :: b)).1 = some p.lineTooLong.kind := by
  have htake : (x :: b).takeWhile (· ≠ lineFeed) =
      x :: b.takeWhile (· ≠ lineFeed) := by simp [hx]
  have hdrop : (x :: b).dropWhile (· ≠ lineFeed) = b.dropWhile (· ≠ lineFeed) := by simp [hx]
  cases hend : b.dropWhile (· ≠ lineFeed) with
  | nil =>
    rw [receiveLine_unfinished (hdrop.trans hend), if_pos]
    · rfl
    by_cases hb : b = []
    · rw [hb]
      exact hexceeds
    rw [← singleton_append, unfinished_append _ _ hb]
    exact exceedsBudget_mono hexceeds (unfinished_le _ [x] hb)
  | cons feed rest =>
    rw [(receiveLine_finished (hdrop.trans hend) hfair htakes).same.refusal_eq]
    have hfair := hfair htakes (by rw [hdrop, hend]; exact cons_ne_nil _ _)
    obtain ⟨hle, hends, -⟩ := lineBodyByteCountWithoutTerminator_le
      p.pendingLine.length 1 (endsWithCarriageReturn [x])
    rw [htake] at hfair ⊢
    have hlength : (p.pendingLine ++ x :: b.takeWhile (· ≠ lineFeed)).length =
        p.pendingLine.length + 1 + (b.takeWhile (· ≠ lineFeed)).length := by
      simp only [length_append, length_cons]
      omega
    unfold completeLine
    cases hbare : endsWithCarriageReturn (p.pendingLine ++
        x :: b.takeWhile (· ≠ lineFeed)) with
    | false =>
      exact nomatch (hfair hbare).symm.trans (exceedsBudget_mono hexceeds (by omega))
    | true =>
      rw [if_neg (by decide), if_pos]
      · rfl
      refine exceedsBudget_mono hexceeds ?_
      cases hrest : b.takeWhile (· ≠ lineFeed) with
      | nil =>
        rw [hrest, endsWithCarriageReturn_append _ (by simp)] at hbare
        rw [hrest, length_nil] at hlength
        have := hends hbare (by omega)
        omega
      | cons _ _ =>
        rw [hrest, length_cons] at hlength
        omega

theorem receiveLine_resume (htakes : p.takesLine)
    (hx : x ≠ lineFeed) (hb : b ≠ []) (hfair : p.LineIsFair (x :: b))
    (hfair' : LineIsFair { p with pendingLine := p.pendingLine ++ [x] } b) :
    reader.SameRest (p.receiveLine (x :: b))
      (receiveLine { p with pendingLine := p.pendingLine ++ [x] } b) := by
  have hdrop : (x :: b).dropWhile (· ≠ lineFeed) = b.dropWhile (· ≠ lineFeed) := by simp [hx]
  cases hend : b.dropWhile (· ≠ lineFeed) with
  | nil =>
    rw [receiveLine_unfinished (hdrop.trans hend), receiveLine_unfinished hend, ← singleton_append,
      unfinished_append _ _ hb, ← length_append, append_assoc]
    show reader.SameRest _ (if exceedsBudget _ p.lineLengthLimit then _
      else _)
    split
    · exact .inr ⟨p.lineTooLong.kind, rfl, rfl⟩
    · exact .refl _
  | cons feed rest =>
    have hwhole := receiveLine_finished (hdrop.trans hend) hfair htakes
    have hpart : reader.SameRest (receiveLine { p with pendingLine := p.pendingLine ++ [x] } b)
        (p.completeLine ((p.pendingLine ++ [x]) ++ b.takeWhile (· ≠ lineFeed)) rest) :=
      receiveLine_finished hend hfair' htakes
    rw [append_assoc, singleton_append] at hpart
    rw [takeWhile_cons_of_pos (by simpa using hx)] at hwhole
    exact hwhole.trans hpart.symm

theorem line_splits (htakes : p.takesLine)
    (hs : reader.stopped p = false) (hfair : p.LineIsFair (x :: b)) :
    reader.Splits LineIsFair p x b := by
  have hround : ∀ data, reader.round p data = p.receiveLine data := round_line htakes
  by_cases hx : x = lineFeed
  · subst hx
    have hends : ∀ rest, p.LineIsFair (lineFeed :: rest) → reader.SameRest
        (p.receiveLine (lineFeed :: rest))
        ((p.completeLine p.pendingLine []).1, rest) := by
      intro rest hfair
      have hsame := @receiveLine_finished p (lineFeed :: rest) lineFeed rest (by simp) hfair htakes
      rwa [takeWhile_cons_of_neg (by simp), append_nil, completeLine_rest] at hsame
    have hwhole := hends b hfair
    have hsingle := hends [] (fair_before (a := [lineFeed]) hfair)
    rw [← hround] at hwhole hsingle
    cases he : reader.refusal (p.completeLine p.pendingLine []).1 with
    | some e =>
      exact .refused e (hsingle.same.refusal_eq.trans he) (hwhole.same.refusal_eq.trans he)
    | none => exact .apart (by rw [eat, hwhole.eq he, hsingle.eq he])
  have hreceive : p.receiveLine [x] = _ := receiveLine_unfinished (by simp [hx])
  by_cases hexceeds : exceedsBudget (lineBodyByteCountWithoutTerminator
      p.pendingLine.length 1 (endsWithCarriageReturn [x]))
      p.lineLengthLimit
  · refine .refused p.lineTooLong.kind ?_ ?_
    · rw [eat, hround]
      exact receiveLine_tooLong htakes hx (fair_before (a := [x]) hfair) hexceeds
    · rw [hround]
      exact receiveLine_tooLong htakes hx hfair hexceeds
  rw [length_singleton, if_neg hexceeds, ← hround] at hreceive
  by_cases hb : b = []
  · subst hb
    exact .apart (by rw [eat, hreceive])
  have hfair' : LineIsFair { p with pendingLine := p.pendingLine ++ [x] }
      b := by
    intro _ hend hbare
    have hfair := hfair htakes (by simpa [hx] using hend)
    rw [takeWhile_cons_of_pos (by simpa using hx), append_cons] at hfair
    exact hfair hbare
  have heat : reader.eat p x = { p with pendingLine := p.pendingLine ++ [x] } := by
    rw [eat, hreceive]
  have hresume : reader.round { p with pendingLine := p.pendingLine ++ [x] }
      b = receiveLine { p with pendingLine := p.pendingLine ++ [x] } b :=
    round_line (p := { p with pendingLine := p.pendingLine ++ [x] }) htakes b
  refine .across hb (heat ▸ hs) (heat ▸ hfair') ?_
  rw [heat, hresume, hround]
  exact receiveLine_resume htakes hx hb hfair hfair'

/-! ## Bodies in pieces -/

theorem appendBody_append (a c : Bytes) :
    (p.appendBody a).appendBody c = p.appendBody (a ++ c) := by
  simp only [appendBody, append_assoc, length_append, Nat.add_assoc]

theorem takeChunkBytes_append (a c : Bytes) :
    (p.takeChunkBytes a).takeChunkBytes c = p.takeChunkBytes (a ++ c) := by
  simp only [takeChunkBytes, appendBody, append_assoc, length_append, Nat.add_assoc, Nat.sub_add_eq]

theorem stopped_eq_false (h : p.stage ≠ .complete ∧ p.stage ≠ .failed) :
    reader.stopped p = false := by
  show (decide (p.stage = .complete) || decide (p.stage = .failed)) = false
  simp [h]

theorem receiveBody_takes : reader.Takes (fun p => p.contentLength - p.receivedBodyLength)
      (fun p count => exceedsBudget (p.receivedBodyLength + count)
        p.limits.maximumBodySize) .bodyTooLarge
      (fun p data => (p.recordFailure ⟨.bodyTooLarge,
        s!"请求体超出上限 {p.limits.maximumBodySize} 字节"⟩, data))
      appendBody endBody (fun p => p.stage = .body ∧ p.receivedBodyLength < p.contentLength) where
  round p data h := by
    show p.round data = _
    rw [round, h.1]
    rfl
  refused _ _ := rfl
  over_mono _ _ _ h hle := exceedsBudget_mono h (Nat.add_le_add_left hle _)
  need_pos _ h := Nat.sub_pos_of_lt h.2
  short p a h hlt _ := by
    have hless : p.receivedBodyLength + a.length < p.contentLength := by omega
    exact ⟨if_neg (Nat.ne_of_lt hless), ⟨h.1, hless⟩,
      stopped_eq_false (p := p.appendBody a) (by simp [appendBody, h.1])⟩
  need_put _ _ := Nat.sub_add_eq _ _ _
  over_put _ _ _ := by simp only [appendBody, Nat.add_assoc]
  put_put _ _ _ := appendBody_append _ _

theorem receiveChunkData_takes : reader.Takes chunkRemainingBytes
      (fun p count => exceedsBudget (p.receivedBodyLength + count)
        p.limits.maximumBodySize) .bodyTooLarge
      (fun p data => (p.recordFailure ⟨.bodyTooLarge,
        s!"分块解码后的请求体超出上限 {p.limits.maximumBodySize} 字节"⟩, data))
      takeChunkBytes endChunk (fun p => p.stage = .chunkData ∧ 0 < p.chunkRemainingBytes) where
  round p data h := by
    show p.round data = _
    rw [round, h.1]
    rfl
  refused _ _ := rfl
  over_mono _ _ _ h hle := exceedsBudget_mono h (Nat.add_le_add_left hle _)
  need_pos _ h := h.2
  short p a h hlt _ := by
    have hpos : 0 < p.chunkRemainingBytes - a.length := by omega
    exact ⟨if_neg (Nat.ne_of_gt hpos), ⟨h.1, hpos⟩, stopped_eq_false (p := p.takeChunkBytes a)
        (by simp [takeChunkBytes, appendBody, h.1])⟩
  need_put _ _ := rfl
  over_put _ _ _ := by simp only [takeChunkBytes, appendBody, Nat.add_assoc]
  put_put _ _ _ := takeChunkBytes_append _ _

/-! ## The reader -/

theorem stage_cases (p : HttpParser) : p.takesLine = true ∨
    p.stage = .body ∨ p.stage = .chunkData ∨ p.stage = .chunkDataTerminator := by
  simp only [takesLine, Bool.and_eq_true, decide_eq_true_eq]
  tauto

theorem refusal_stopped {e : HttpParseErrorKind}
    (h : reader.refusal p = some e) : reader.stopped p := by
  have h : (if p.stage = .failed then some p.errorKind else none) = some e := h
  show (decide (p.stage = .complete) || decide (p.stage = .failed))
  split at h
  · next hstage => rw [hstage]; rfl
  · cases h

theorem isSome_refusal (h : p.stage = .failed) : (reader.refusal p).isSome := by
  show (if p.stage = .failed then some p.errorKind else none).isSome
  rw [if_pos h]
  rfl

theorem round_terminator (hstage : p.stage = .chunkDataTerminator) :
    ∃ failure, ∀ character rest, reader.round p (character :: rest) =
      if character ≠ p.expectedTerminatorCharacter then
        (p.recordFailure failure, character :: rest)
      else (p.countTerminatorByte, rest) := by
  have hround : ∀ data, reader.round p data = p.receiveChunkTerminator data := fun data => by
      show p.round data = _
      rw [round, hstage]
  simp only [hround, receiveChunkTerminator]
  exact ⟨_, fun _ _ => rfl⟩

theorem proceeds_of_stopped (hlimits : p.limits = limits)
    (hstage : p.stage ≠ .body ∧ p.stage ≠ .chunkData ∧
      p.stage ≠ .requestLine ∧ p.stage ≠ .headers) : p.Proceeds limits :=
  ⟨hlimits, fun h => absurd h hstage.1, fun h => absurd h hstage.2.1,
    fun h => h.elim (absurd · hstage.2.2.1) (absurd · hstage.2.2.2)⟩

theorem Proceeds.of_pendingLine (hp : p.Proceeds limits) (line : Bytes) :
    Proceeds limits { p with pendingLine := line } :=
  ⟨hp.limits_eq, hp.body, hp.chunkData, hp.head⟩

theorem proceeds_bytes (hp : p.Proceeds limits) (htakes : p.takesLine = false)
    (data : Bytes) : (p.round data).1.Proceeds limits ∧
      (p.round data).1.pendingLine = p.pendingLine := by
  obtain ⟨hlimits, hbody, hchunk, -⟩ := hp
  unfold round
  rcases p.stage_cases with hline | hstage | hstage | hstage
  · exact nomatch htakes.symm.trans hline
  · unfold receiveBody endBody
    refine ⟨⟨?_, ?_, ?_, ?_⟩, ?_⟩ <;>
      grind [appendBody, recordFailure, commitMessage, clearMessageScratch]
  · unfold receiveChunkData endChunk
    refine ⟨⟨?_, ?_, ?_, ?_⟩, ?_⟩ <;> grind [appendBody, recordFailure, takeChunkBytes]
  · unfold receiveChunkTerminator countTerminatorByte
    refine ⟨⟨?_, ?_, ?_, ?_⟩, ?_⟩ <;> grind [recordFailure]

/-- What holds between two rounds holds behind each. Only a line leaves
something for the next piece of input. -/
theorem proceeds_round (hp : p.Proceeds limits) {data : Bytes} (hdata : data ≠ []) :
    (p.round data).1.Proceeds limits ∧
      ((p.round data).2.length < data.length ∨ (reader.refusal (p.round data).1).isSome) ∧
      (p.pendingLine = [] → (p.round data).2 ≠ [] → reader.refusal (p.round data).1 = none →
        (p.round data).1.pendingLine = []) := by
  have hbytes := fun htakes => proceeds_bytes hp htakes data
  rcases p.stage_cases with htakes | hstage | hstage | hstage
  · rw [round_line htakes]
    rcases p.receiveLine_cases data with ⟨hfailed, hlimits⟩ | hpending | ⟨line, hless, hparse⟩
    · have hrefused := isSome_refusal hfailed
      refine ⟨proceeds_of_stopped (hlimits.trans hp.limits_eq)
        (by simp [hfailed]), .inr hrefused, fun _ _ hnone => ?_⟩
      rw [hnone] at hrefused
      cases hrefused
    · rw [hpending]
      exact ⟨hp.of_pendingLine _, .inl (length_pos_iff.mpr hdata), fun _ hne => absurd rfl hne⟩
    · obtain ⟨hnext, hline⟩ := parseLine_ok (hp.of_pendingLine []) line htakes hparse
      exact ⟨hnext, .inl hless, fun _ _ _ => hline⟩
  · obtain ⟨hnext, hline⟩ := hbytes (by simp [takesLine, hstage])
    exact ⟨hnext, receiveBody_takes.progress ⟨hstage, hp.body hstage⟩ hdata,
      fun hnil _ _ => hline.trans hnil⟩
  · obtain ⟨hnext, hline⟩ := hbytes (by simp [takesLine, hstage])
    exact ⟨hnext, receiveChunkData_takes.progress
      ⟨hstage, hp.chunkData hstage⟩ hdata, fun hnil _ _ => hline.trans hnil⟩
  · obtain ⟨hnext, hline⟩ := hbytes (by simp [takesLine, hstage])
    refine ⟨hnext, ?_, fun hnil _ _ => hline.trans hnil⟩
    obtain ⟨character, rest, rfl⟩ := exists_cons_of_ne_nil hdata
    obtain ⟨failure, hround⟩ := round_terminator hstage
    show ((reader.round p (character :: rest)).2.length < _ ∨
      (reader.refusal (reader.round p (character :: rest)).1).isSome)
    rw [hround]
    split
    · exact .inr rfl
    · exact .inl (Nat.lt_succ_self _)

theorem fair_of_stage (h : p.takesLine = false) (data : Bytes) : p.LineIsFair data :=
  fun htakes => nomatch h.symm.trans htakes

theorem round_splits (hp : p.Proceeds limits) (hs : reader.stopped p = false)
    (hfair : p.LineIsFair (x :: b)) : reader.Splits LineIsFair p x b := by
  rcases p.stage_cases with htakes | hstage | hstage | hstage
  · exact line_splits htakes hs hfair
  · exact receiveBody_takes.splits (fun p data h =>
      fair_of_stage (by simp [takesLine, h.1]) data)
      ⟨hstage, hp.body hstage⟩ x b
  · exact receiveChunkData_takes.splits (fun p data h =>
      fair_of_stage (by simp [takesLine, h.1]) data)
      ⟨hstage, hp.chunkData hstage⟩ x b
  · obtain ⟨failure, hround⟩ := round_terminator hstage
    by_cases hcharacter : x ≠ p.expectedTerminatorCharacter
    · refine .refused failure.kind ?_ ?_
      · rw [eat, hround, if_pos hcharacter]
        rfl
      · rw [hround, if_pos hcharacter]
        rfl
    · refine .apart ?_
      rw [eat, hround, hround, if_neg hcharacter, if_neg hcharacter]

variable (limits) in
theorem reader_resumable : reader.Resumable (Proceeds limits) LineIsFair where
  refusal_stopped _ _ h := refusal_stopped h
  inv_round _ _ hp _ hdata := (proceeds_round hp hdata).1
  progress _ _ hp _ hdata := (proceeds_round hp hdata).2.1
  fair_before _ _ _ _ hfair := fair_before hfair
  splits _ _ _ hp hs hfair := round_splits hp hs hfair

/-- An unfair line is malformed as it is, and too long if its LF comes
later. -/
theorem unfair_differ (hp : p.Proceeds limits) (hline : p.pendingLine = [])
    (hs : reader.stopped p = false) {data : Bytes} (hunfair : ¬p.LineIsFair data) :
    ∃ e f, reader.refusal (reader.round p data).1 = some e ∧
      reader.refusal (reader.graze p data).1 = some f ∧ e ≠ f := by
  simp only [LineIsFair, Classical.not_imp, hline, nil_append, Bool.not_eq_false] at hunfair
  obtain ⟨htakes, hend, hbare, hexceeds⟩ := hunfair
  obtain ⟨feed, rest, hdrop⟩ := exists_cons_of_ne_nil hend
  have hround : ∀ data, reader.round p data = p.receiveLine data := round_line htakes
  have hne : data.takeWhile (· ≠ lineFeed) ≠ [] := length_pos_iff.mp (exceedsBudget_pos hexceeds)
  have hall : (data.takeWhile (· ≠ lineFeed)).dropWhile (· ≠ lineFeed) = [] :=
    dropWhile_eq_nil_iff.mpr fun _ hmem =>
      mem_takeWhile_imp (p := fun x => decide (x ≠ lineFeed)) hmem
  have hlong : reader.refusal (reader.round p
      (data.takeWhile (· ≠ lineFeed))).1 = some p.lineTooLong.kind := by
    rw [hround, receiveLine_unfinished hall, if_pos]
    · rfl
    · rw [hbare, hline]
      simpa [lineBodyByteCountWithoutTerminator] using hexceeds
  have hgraze := (graze_round (reader_resumable limits) hp hs hne
    fun _ hend => absurd hall hend).same.refusal_eq
  rw [graze_refused (reader_resumable limits) hlong, hlong] at hgraze
  refine ⟨.malformed, p.lineTooLong.kind, ?_, ?_, p.lineTooLong_ne_malformed.symm⟩
  · obtain ⟨left, htake⟩ := (takeLine_finished hdrop (by
      rw [hline, nil_append])).1 hbare (.inl hline)
    rw [hround, receiveLine, htake]
    rfl
  · rw [← takeWhile_append_dropWhile (p := (· ≠ lineFeed)) (l := data), graze_append,
      graze_refused (reader_resumable limits) hgraze.symm]
    exact hgraze.symm

end Rounds

/-- An unfair line at the beginning of some input can be cut to another
reason. -/
theorem reader_sharp (limits : HttpParserLimits) :
    reader.Sharp (fun p => p.Proceeds limits ∧ p.pendingLine = []) LineIsFair where
  keeps _ _ hp _ hdata hrefusal hrest :=
    ⟨(proceeds_round hp.1 hdata).1, (proceeds_round hp.1 hdata).2.2 hp.2 hrest hrefusal⟩
  unfair _ _ hp hs _ hunfair := unfair_differ hp.1 hp.2 hs hunfair

end HttpParser

end AsynGyanis.Http
