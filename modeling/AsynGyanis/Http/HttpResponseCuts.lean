import AsynGyanis.Http.HttpResponseParser

/-!
# Where the input of the response parser may be cut

The rounds of `HttpResponseParser` are resumable without exception. A line in
several pieces ends where it would have ended in one: `feedLine` looks for the
first CRLF of the buffer and the data together, also for one that is cut in
two, and its length is judged before anything else is.
-/

namespace AsynGyanis.Http

open Library List Reader

namespace HttpResponseParser

/-! ## The end of a line -/

theorem takeLine_cons {first second : UInt8} {rest : Bytes}
    (h : ¬(first = carriageReturn ∧ second = lineFeed)) :
    takeLine (first :: second :: rest) =
      (takeLine (second :: rest)).map fun x => (first :: x.1, x.2) := by
  rw [takeLine, if_neg h]
  cases takeLine (second :: rest) <;> rfl

theorem takeLine_append_none {a : Bytes} (h : takeLine a = none) (b : Bytes) : takeLine (a ++ b) =
      if endsWithCarriageReturn a ∧ b.head? = some lineFeed then
        some (a.dropLast, b.tail)
      else (takeLine b).map fun x => (a ++ x.1, x.2) := by
  fun_induction takeLine a with
  | case1 => simp [endsWithCarriageReturn]
  | case2 first =>
    unfold endsWithCarriageReturn
    cases b with
    | nil => simp [takeLine]
    | cons second b => grind [takeLine]
  | case3 => cases h
  | case4 first second a hend hnone ih =>
    have hlast : endsWithCarriageReturn (first :: second :: a) =
        endsWithCarriageReturn (second :: a) :=
      endsWithCarriageReturn_append [first] (cons_ne_nil _ _)
    rw [cons_append, cons_append, takeLine_cons hend, ← cons_append, ih hnone, hlast]
    split
    · rfl
    · rw [Option.map_map]
      rfl
  | case5 => cases h

theorem takeLine_eq {x line rest : Bytes} (h : takeLine x = some (line, rest)) :
    x = line ++ carriageReturn :: lineFeed :: rest := by
  fun_induction takeLine generalizing line <;> grind

/-! ## What a round keeps -/

/-- How a body is read: in chunks, up to a length or to the end. -/
def BodyWellFormed (p : HttpResponseParser) : Prop :=
  (p.isChunked = true ∧ p.isCloseDelimited = false ∧ (p.chunkPhase = .data → 0 < p.chunkSize)) ∨
  (p.isChunked = false ∧ p.isCloseDelimited = false ∧ 0 < p.expectedBodyBytes) ∨
  (p.isChunked = false ∧ p.isCloseDelimited = true ∧ p.expectedBodyBytes = 0)

/-- Between two rounds. -/
structure Proceeds (p : HttpResponseParser) : Prop where
  lineBuffer : takeLine p.lineBuffer = none
  body : p.stage = .body → p.BodyWellFormed
  head : p.stage = .statusLine ∨ p.stage = .headers →
    p.isChunked = false ∧ p.isCloseDelimited = false ∧ p.expectedBodyBytes = 0

/-- The states in which a line is expected. -/
def TakesLine (p : HttpResponseParser) : Prop := p.stage = .statusLine ∨ p.stage = .headers ∨
    (p.stage = .body ∧ p.isChunked = true ∧ p.chunkPhase ≠ .data)

section Rounds

variable {p : HttpResponseParser}

theorem finishHeaders_proceeds (hp : p.Proceeds)
    (hstage : p.stage = .headers) : p.finishHeaders.Proceeds := by
  obtain ⟨hbuffer, -, hhead⟩ := hp
  unfold finishHeaders classifyOutboundInformational
    finishAsFinalInformationalResponse discardInterimInformationalResponse
  repeat' split
  all_goals constructor <;> grind [BodyWellFormed, fail, failOverLimit]

theorem parseLine_proceeds (hp : p.Proceeds) (htakes : p.TakesLine)
    (line : Bytes) : (p.parseLine line).Proceeds := by
  have hfinish := finishHeaders_proceeds hp
  obtain ⟨hbuffer, hbody, hhead⟩ := hp
  unfold parseLine
  rcases htakes with hstage | hstage | ⟨hstage, hchunked, hphase⟩
  · unfold parseStatusLine
    constructor <;> grind [BodyWellFormed, fail]
  · rw [hstage]
    unfold parseHeaderLine
    by_cases hline : line = []
    · rw [if_pos hline]
      exact hfinish hstage
    · constructor <;> grind [BodyWellFormed, fail]
  · unfold parseChunkSizeLine parseDataTerminator parseTrailerLine
    repeat' split
    all_goals constructor <;> grind [BodyWellFormed, fail]

theorem Proceeds.of_lineBuffer (hp : p.Proceeds) {buffer : Bytes} (h : takeLine buffer = none) :
    Proceeds { p with lineBuffer := buffer } := ⟨h, hp.body, hp.head⟩

/-! ## Lines in pieces -/

section Pieces

variable {data line rest : Bytes}

theorem receiveLine_none (hp : p.Proceeds) (h : takeLine (p.lineBuffer ++ data) = none) :
    p.receiveLine data =
      if lineExceedsLimit (lineBodyByteCountWithoutTerminator
          p.lineBuffer.length data.length (endsWithCarriageReturn data)) then
        (p.fail, data)
      else ({ p with lineBuffer := p.lineBuffer ++ data }, []) := by
  rw [takeLine_append_none hp.lineBuffer] at h
  unfold receiveLine feedLine keepLine
  grind

theorem receiveLine_some (hp : p.Proceeds)
    (h : takeLine (p.lineBuffer ++ data) = some (line, rest)) :
    (lineExceedsLimit line.length → (p.receiveLine data).1 = p.fail) ∧
    (lineExceedsLimit line.length = false → p.receiveLine data =
      (parseLine { p with lineBuffer := [] } line, rest)) := by
  rw [takeLine_append_none hp.lineBuffer] at h
  unfold receiveLine feedLine
  cases htake : takeLine data <;> grind [endsWithCarriageReturn]

theorem receiveLine_cases (hp : p.Proceeds) (data : Bytes) : (p.receiveLine data).1 = p.fail ∨
    (takeLine (p.lineBuffer ++ data) = none ∧ p.receiveLine data =
      ({ p with lineBuffer := p.lineBuffer ++ data }, [])) ∨
    ∃ line rest, takeLine (p.lineBuffer ++ data) = some (line, rest) ∧
      lineExceedsLimit line.length = false ∧
      p.receiveLine data = (parseLine { p with lineBuffer := [] } line, rest) := by
  cases hline : takeLine (p.lineBuffer ++ data) with
  | none =>
    rw [receiveLine_none hp hline]
    split
    · exact .inl rfl
    · exact .inr (.inl ⟨rfl, rfl⟩)
  | some x =>
    obtain ⟨hlong, hshort⟩ := receiveLine_some hp hline
    cases hexceeds : lineExceedsLimit x.1.length with
    | true => exact .inl (hlong hexceeds)
    | false => exact .inr (.inr ⟨x.1, x.2, rfl, hexceeds, hshort hexceeds⟩)

theorem bound_le_line {buffer a b : Bytes} (ha : a ≠ []) (hnone : takeLine (buffer ++ a) = none)
    (h : takeLine (buffer ++ a ++ b) = some (line, rest)) :
    lineBodyByteCountWithoutTerminator buffer.length a.length
      (endsWithCarriageReturn a) ≤ line.length := by
  have hpos := length_pos_iff.mpr ha
  obtain ⟨hle, hends, -⟩ := lineBodyByteCountWithoutTerminator_le
    buffer.length a.length (endsWithCarriageReturn a)
  rw [takeLine_append_none hnone, endsWithCarriageReturn_append _ ha] at h
  split at h
  · next hcut =>
    cases h
    have := hends hcut.1 (by omega)
    rw [length_dropLast, length_append]
    omega
  · obtain ⟨⟨body, left⟩, hline, heq⟩ := Option.map_eq_some_iff.mp h
    cases heq
    rw [length_append, length_append]
    omega

end Pieces

theorem round_line (h : p.TakesLine) (data : Bytes) : p.round data = p.receiveLine data := by
  rw [round]
  rcases h with hstage | hstage | ⟨hstage, hchunked, hphase⟩
  · rw [hstage]
  · rw [hstage]
  rw [hstage]
  show (if p.isChunked = true then _ else _) = _
  rw [if_pos hchunked]
  split
  · next hdata => exact absurd hdata hphase
  · rfl

variable {x : UInt8} {b : Bytes}

/-- A line that is too long before its end is known is so afterwards. -/
theorem receiveLine_tooLong (hp : p.Proceeds) (hnone : takeLine (p.lineBuffer ++ [x]) = none)
    (hexceeds : lineExceedsLimit (lineBodyByteCountWithoutTerminator
      p.lineBuffer.length 1 (endsWithCarriageReturn [x]))) :
    (p.receiveLine (x :: b)).1 = p.fail := by
  by_cases hb : b = []
  · subst hb
    rw [receiveLine_none hp hnone]
    exact congrArg Prod.fst (if_pos hexceeds)
  cases hline : takeLine (p.lineBuffer ++ x :: b) with
  | none =>
    rw [receiveLine_none hp hline, if_pos]
    rw [← singleton_append, unfinished_append _ _ hb]
    exact exceedsBudget_mono hexceeds (unfinished_le _ [x] hb)
  | some line =>
    exact (receiveLine_some hp hline).1 (exceedsBudget_mono hexceeds
      (bound_le_line (cons_ne_nil x []) hnone (by rw [append_assoc]; exact hline)))

theorem receiveLine_resume (hp : p.Proceeds) (hb : b ≠ [])
    (hnone : takeLine (p.lineBuffer ++ [x]) = none) :
    reader.SameRest (p.receiveLine (x :: b))
      (receiveLine { p with lineBuffer := p.lineBuffer ++ [x] } b) := by
  have hp' := hp.of_lineBuffer hnone
  have hassoc : p.lineBuffer ++ x :: b = p.lineBuffer ++ [x] ++ b := append_cons _ _ _
  cases hline : takeLine (p.lineBuffer ++ [x] ++ b) with
  | none =>
    rw [receiveLine_none hp (by rw [hassoc]; exact hline),
      receiveLine_none hp' hline, hassoc, ← singleton_append,
      unfinished_append _ _ hb, ← length_append]
    split
    · exact .inr ⟨p.isBodyLimitHit, rfl, rfl⟩
    · exact .refl _
  | some line =>
    obtain ⟨hlong, hshort⟩ := receiveLine_some hp (by rw [hassoc]; exact hline)
    obtain ⟨hlong', hshort'⟩ := receiveLine_some hp' hline
    cases hexceeds : lineExceedsLimit line.1.length with
    | true =>
      refine .inr ⟨p.isBodyLimitHit, ?_, ?_⟩
      · rw [hlong hexceeds]
        rfl
      · rw [hlong' hexceeds]
        rfl
    | false =>
      rw [hshort hexceeds, hshort' hexceeds]
      exact .refl _

/-- Every round is a fair one. -/
def AnyInput (_ : HttpResponseParser) (_ : Bytes) : Prop := True

theorem stopped_of_takesLine (h : p.TakesLine) : reader.stopped p = false := by
  show (decide (p.stage = .complete) || decide (p.stage = .failed)) = false
  rcases h with h | h | ⟨h, -⟩ <;> rw [h] <;> rfl

theorem line_splits (hp : p.Proceeds) (htakes : p.TakesLine) : reader.Splits AnyInput p x b := by
  have hround : ∀ data, reader.round p data = p.receiveLine data := round_line htakes
  by_cases hcut : endsWithCarriageReturn p.lineBuffer ∧ some x = some lineFeed
  · have hline : ∀ b, takeLine (p.lineBuffer ++ x :: b) =
        some (p.lineBuffer.dropLast, b) := fun b => by
      rw [takeLine_append_none hp.lineBuffer]
      exact if_pos hcut
    obtain ⟨hlong, hshort⟩ := receiveLine_some hp (hline [])
    obtain ⟨hlong', hshort'⟩ := receiveLine_some hp (hline b)
    cases hexceeds : lineExceedsLimit p.lineBuffer.dropLast.length with
    | true =>
      refine .refused p.isBodyLimitHit ?_ ?_
      · rw [eat, hround, hlong hexceeds]
        rfl
      · rw [hround, hlong' hexceeds]
        rfl
    | false =>
      refine .apart ?_
      rw [eat, hround, hround, hshort hexceeds, hshort' hexceeds]
  have hnone : takeLine (p.lineBuffer ++ [x]) = none := by
    rw [takeLine_append_none hp.lineBuffer]
    exact if_neg hcut
  by_cases hexceeds : lineExceedsLimit (lineBodyByteCountWithoutTerminator
      p.lineBuffer.length 1 (endsWithCarriageReturn [x]))
  · refine .refused p.isBodyLimitHit ?_ ?_
    · rw [eat, hround, receiveLine_tooLong hp hnone hexceeds]
      rfl
    · rw [hround, receiveLine_tooLong hp hnone hexceeds]
      rfl
  have hkept : reader.round p [x] = ({ p with lineBuffer := p.lineBuffer ++ [x] }, []) := by
    rw [hround, receiveLine_none hp hnone]
    exact if_neg hexceeds
  by_cases hb : b = []
  · subst hb
    exact .apart (by rw [eat, hkept])
  refine .across hb ?_ trivial ?_
  · rw [eat, hkept]
    exact stopped_of_takesLine htakes
  · rw [eat, hkept, hround]
    show reader.SameRest _ (round { p with
      lineBuffer := p.lineBuffer ++ [x] } b)
    rw [round_line (p := { p with lineBuffer := p.lineBuffer ++ [x] }) htakes]
    exact receiveLine_resume hp hb hnone

/-! ## Bodies in pieces -/

def TakesChunkData (p : HttpResponseParser) : Prop :=
  p.stage = .body ∧ p.isChunked = true ∧ p.chunkPhase = .data

def TakesDeclaredBody (p : HttpResponseParser) : Prop :=
  p.stage = .body ∧ p.isChunked = false ∧ p.isCloseDelimited = false ∧ 0 < p.expectedBodyBytes

def TakesUntilClose (p : HttpResponseParser) : Prop :=
  p.stage = .body ∧ p.isChunked = false ∧ p.isCloseDelimited = true ∧ p.expectedBodyBytes = 0

theorem takes_cases (hp : p.Proceeds) (hs : reader.stopped p = false) :
    p.TakesLine ∨ p.TakesChunkData ∨ p.TakesDeclaredBody ∨
      p.TakesUntilClose := by
  have hs : (decide (p.stage = .complete) || decide (p.stage = .failed)) =
      false := hs
  cases hstage : p.stage with
  | statusLine => exact .inl (.inl hstage)
  | headers => exact .inl (.inr (.inl hstage))
  | body =>
    rcases hp.body hstage with ⟨hchunked, -, -⟩ | hdeclared | hclose
    · by_cases hphase : p.chunkPhase = .data
      · exact .inr (.inl ⟨hstage, hchunked, hphase⟩)
      · exact .inl (.inr (.inr ⟨hstage, hchunked, hphase⟩))
    · exact .inr (.inr (.inl ⟨hstage, hdeclared⟩))
    · exact .inr (.inr (.inr ⟨hstage, hclose⟩))
  | complete => rw [hstage] at hs; exact nomatch hs
  | failed => rw [hstage] at hs; exact nomatch hs

theorem round_chunkData (h : p.TakesChunkData) (data : Bytes) :
    p.round data = p.receiveChunkData data := by
  rw [round, h.1]
  show (if p.isChunked = true then _ else _) = _
  rw [if_pos h.2.1, h.2.2]

theorem round_declaredBody (h : p.TakesDeclaredBody) (data : Bytes) :
    p.round data = p.receiveDeclaredBody data := by
  rw [round, h.1]
  show (if p.isChunked = true then _ else _) = _
  rw [if_neg (by rw [h.2.1]; exact Bool.false_ne_true), if_pos h.2.2.2]

theorem round_untilClose (h : p.TakesUntilClose) (data : Bytes) :
    p.round data = p.receiveUntilClose data := by
  rw [round, h.1]
  show (if p.isChunked = true then _ else _) = _
  rw [if_neg (by rw [h.2.1]; exact Bool.false_ne_true),
    if_neg (by rw [h.2.2.2]; exact Nat.lt_irrefl 0), if_pos h.2.2.1]

theorem stopped_of_body (h : p.stage = .body) : reader.stopped p = false := by
  show (decide (p.stage = .complete) || decide (p.stage = .failed)) = false
  rw [h]
  rfl

theorem appendBody_append (a b : Bytes) :
    (p.appendBody a).appendBody b = p.appendBody (a ++ b) := by
  simp only [appendBody, append_assoc, length_append, Nat.add_assoc]

theorem takeChunkBytes_append (a b : Bytes) :
    (p.takeChunkBytes a).takeChunkBytes b = p.takeChunkBytes (a ++ b) := by
  simp only [takeChunkBytes, appendBody, append_assoc, length_append, Nat.add_assoc, Nat.sub_add_eq]

theorem takeDeclaredBytes_append (a b : Bytes) : (p.takeDeclaredBytes a).takeDeclaredBytes b =
      p.takeDeclaredBytes (a ++ b) := by
  simp only [takeDeclaredBytes, appendBody, append_assoc,
    length_append, Nat.add_assoc, Nat.sub_add_eq]

theorem receiveChunkData_takes : reader.Takes chunkSize
      (fun p count => exceedsBudget (p.receivedBodyByteCount + count) p.maximumBodySize) true
      (fun p data => ((p.takeChunkBytes (data.take p.chunkSize)).failOverLimit,
        data.drop p.chunkSize))
      takeChunkBytes endChunk
      (fun p => p.TakesChunkData ∧ 0 < p.chunkSize) where
  round p data h := by
    show p.round data = _
    rw [round_chunkData h.1, receiveChunkData]
    show (if exceedsBudget (p.receivedBodyByteCount +
      (data.take p.chunkSize).length) p.maximumBodySize = true then _ else _,
      _) = _
    split <;> rfl
  refused _ _ := rfl
  over_mono _ _ _ h hle := exceedsBudget_mono h (Nat.add_le_add_left hle _)
  need_pos _ h := h.2
  short p a h hlt _ := by
    have hpos : 0 < (p.takeChunkBytes a).chunkSize := Nat.sub_pos_of_lt hlt
    exact ⟨if_neg (Nat.ne_of_gt hpos), ⟨h.1, hpos⟩, stopped_of_body (p := p.takeChunkBytes a) h.1.1⟩
  need_put _ _ := rfl
  over_put _ _ _ := by
    simp only [takeChunkBytes, appendBody, Nat.add_assoc]
  put_put _ _ _ := takeChunkBytes_append _ _

/-- A body of a declared length is not too long: its length has been
accepted. -/
theorem receiveDeclaredBody_takes : reader.Takes expectedBodyBytes (fun _ _ => false) true
      (fun p data => (p.failOverLimit, data))
      takeDeclaredBytes endDeclaredBody TakesDeclaredBody where
  round p data h := by
    show p.round data = _
    rw [round_declaredBody h]
    rfl
  refused _ _ := rfl
  over_mono _ _ _ h _ := h
  need_pos _ h := h.2.2.2
  short p a h hlt _ := by
    have hpos : 0 < (p.takeDeclaredBytes a).expectedBodyBytes := Nat.sub_pos_of_lt hlt
    exact ⟨if_neg (Nat.ne_of_gt hpos), ⟨h.1, h.2.1, h.2.2.1, hpos⟩,
      stopped_of_body (p := p.takeDeclaredBytes a) h.1⟩
  need_put _ _ := rfl
  over_put _ _ _ := rfl
  put_put _ _ _ := takeDeclaredBytes_append _ _

theorem receiveUntilClose_eq (data : Bytes) : p.receiveUntilClose data =
      if exceedsBudget (p.receivedBodyByteCount + data.length)
          p.maximumBodySize then ((p.appendBody data).failOverLimit, [])
      else (p.appendBody data, []) := by
  show (if exceedsBudget (p.receivedBodyByteCount + data.length)
    p.maximumBodySize = true then _ else _, _) = _
  split <;> rfl

theorem untilClose_splits (h : p.TakesUntilClose) : reader.Splits AnyInput p x b := by
  have hround : ∀ data, reader.round p data = _ := fun data =>
    (round_untilClose h data).trans (receiveUntilClose_eq data)
  have hlength : (x :: b).length = [x].length + b.length := Nat.add_comm _ _
  by_cases hover : exceedsBudget (p.receivedBodyByteCount + [x].length) p.maximumBodySize
  · refine .refused true ?_ ?_
    · rw [eat, hround, if_pos hover]
      rfl
    · rw [hround, if_pos (exceedsBudget_mono hover (by omega))]
      rfl
  have heat : reader.eat p x = p.appendBody [x] := by
    rw [eat, hround, if_neg hover]
  by_cases hb : b = []
  · subst hb
    refine .apart ?_
    rw [heat, hround, if_neg hover]
  refine .across hb ?_ trivial ?_
  · rw [heat]
    exact stopped_of_body (p := p.appendBody [x]) h.1
  rw [heat, hround]
  show reader.SameRest _ ((p.appendBody [x]).round b)
  rw [round_untilClose (p := p.appendBody [x]) h, receiveUntilClose_eq,
    appendBody_append, hlength, ← Nat.add_assoc]
  show reader.SameRest _ (if exceedsBudget (p.receivedBodyByteCount +
    [x].length + b.length) p.maximumBodySize = true then _ else _)
  split
  · exact .inr ⟨true, rfl, rfl⟩
  · exact .refl _

/-! ## The reader -/

theorem chunkSize_pos (hp : p.Proceeds) (h : p.TakesChunkData) : 0 < p.chunkSize := by
  have hbody := hp.body h.1
  unfold TakesChunkData at h
  grind [BodyWellFormed]

theorem proceeds_round (hp : p.Proceeds) (hs : reader.stopped p = false)
    (data : Bytes) : (p.round data).1.Proceeds := by
  rcases takes_cases hp hs with htakes | htakes | htakes | htakes
  · rw [round_line htakes]
    rcases receiveLine_cases hp data with hfail | ⟨hnone, hkept⟩ | ⟨line, rest, -, -, hline⟩
    · rw [hfail]
      exact ⟨hp.lineBuffer, nofun, by rintro (h | h) <;> exact nomatch h⟩
    · rw [hkept]
      exact hp.of_lineBuffer hnone
    · rw [hline]
      exact parseLine_proceeds (p := { p with lineBuffer := [] }) (hp.of_lineBuffer rfl) htakes line
  · obtain ⟨hbuffer, hbody, -⟩ := hp
    rw [round_chunkData htakes]
    unfold receiveChunkData endChunk
    unfold TakesChunkData at htakes
    constructor <;> grind [BodyWellFormed, takeChunkBytes, appendBody, failOverLimit]
  · obtain ⟨hbuffer, hbody, -⟩ := hp
    rw [round_declaredBody htakes]
    unfold receiveDeclaredBody endDeclaredBody
    unfold TakesDeclaredBody at htakes
    constructor <;> grind [BodyWellFormed, takeDeclaredBytes, appendBody]
  · obtain ⟨hbuffer, hbody, -⟩ := hp
    rw [round_untilClose htakes, receiveUntilClose_eq]
    unfold TakesUntilClose at htakes
    constructor <;> grind [BodyWellFormed, appendBody, failOverLimit]

theorem round_progress (hp : p.Proceeds) (hs : reader.stopped p = false)
    {data : Bytes} (hdata : data ≠ []) :
    (p.round data).2.length < data.length ∨ (reader.refusal (p.round data).1).isSome := by
  have hpos := length_pos_iff.mpr hdata
  rcases takes_cases hp hs with htakes | htakes | htakes | htakes
  · rw [round_line htakes]
    rcases receiveLine_cases hp data with hfail | ⟨-, hkept⟩ | ⟨line, rest, hline, -, htaken⟩
    · rw [hfail]
      exact .inr rfl
    · rw [hkept]
      exact .inl hpos
    rw [htaken]
    left
    show rest.length < data.length
    rw [takeLine_append_none hp.lineBuffer] at hline
    split at hline
    · cases hline
      rw [length_tail]
      omega
    · obtain ⟨⟨body, left⟩, htake, heq⟩ := Option.map_eq_some_iff.mp hline
      cases heq
      rw [takeLine_eq htake, length_append, length_cons, length_cons]
      show left.length < _
      omega
  · exact receiveChunkData_takes.progress ⟨htakes, chunkSize_pos hp htakes⟩ hdata
  · exact receiveDeclaredBody_takes.progress htakes hdata
  · rw [round_untilClose htakes, receiveUntilClose_eq]
    split
    · exact .inr rfl
    · exact .inl hpos

theorem round_splits (hp : p.Proceeds) (hs : reader.stopped p = false) :
    reader.Splits AnyInput p x b := by
  rcases takes_cases hp hs with htakes | htakes | htakes | htakes
  · exact line_splits hp htakes
  · exact receiveChunkData_takes.splits (fun _ _ _ => trivial) ⟨htakes, chunkSize_pos hp htakes⟩ x b
  · exact receiveDeclaredBody_takes.splits (fun _ _ _ => trivial) htakes x b
  · exact untilClose_splits htakes

end Rounds

theorem reader_resumable : reader.Resumable Proceeds AnyInput where
  refusal_stopped p e h := by
    have h : (if p.stage = .failed then some p.isBodyLimitHit else none) = some e := h
    show (decide (p.stage = .complete) || decide (p.stage = .failed))
    grind
  inv_round _ data hp hs _ := proceeds_round hp hs data
  progress _ _ hp hs hdata := round_progress hp hs hdata
  fair_before _ _ _ _ h := h
  splits _ _ _ hp hs _ := round_splits hp hs

theorem fair_any (p : HttpResponseParser) (hp : p.Proceeds) (data : Bytes) :
    reader.Fair AnyInput p data :=
  reader_resumable.induction (P := fun p data => reader.Fair AnyInput p data)
    (fun _ _ hdone => .done hdone)
    (fun _ _ _ _ _ hrest => .next trivial hrest) hp data

end HttpResponseParser

end AsynGyanis.Http
