import AsynGyanis.Http2.FrameDecoding

/-!
# The frame decoder and the cuts of its input

A caller parses what the network delivered, takes every frame that is
announced and goes on behind it until the decoder asks for more or fails:
that is `feed`. `eatAll` does the same a byte at a time and has no idea of
calls, so a row of bytes is eaten in two steps as well as in one
(`eatAll_append`). What is left to show is that one feed is eating its bytes
(`Between.drain`), up to the count of the last call, which nothing but its
getter reads.
-/

namespace AsynGyanis.Http2

namespace Http2FrameDecoder

variable {wire : Bytes} {d : Http2FrameDecoder}

/-! ## Feeding -/

/-- Frames taken one after the other out of what one read delivered. A frame
takes a byte at least, so one round more than there are bytes is enough. -/
def drain : Nat → Bytes → Http2FrameDecoder → List Http2Frame × Http2FrameDecoder
  | 0, _, d => ([], d)
  | rounds + 1, data, d =>
    match d.parse data with
    | (.frame, parsed) =>
      match parsed.takeFrame with
      | (.ok frame, taken) =>
        let after := drain rounds (data.drop parsed.consumedByteCount) taken
        (frame :: after.1, after.2)
      | (.error _, parsed) => ([], parsed)
    | (_, parsed) => ([], parsed)

def feed (data : Bytes) (d : Http2FrameDecoder) : List Http2Frame × Http2FrameDecoder :=
  drain (data.length + 1) data d

def feedPieces : List Bytes → Http2FrameDecoder → List Http2Frame × Http2FrameDecoder
  | [], d => ([], d)
  | piece :: pieces, d =>
    let fed := d.feed piece
    let after := feedPieces pieces fed.2
    (fed.1 ++ after.1, after.2)

/-! ## Eating -/

/-- The frame, if there is one, goes to the caller. -/
def claim (d : Http2FrameDecoder) : List Http2Frame × Http2FrameDecoder :=
  (d.pendingFrame.toList, { d with pendingFrame := none })

def eat (byte : UInt8) (d : Http2FrameDecoder) : List Http2Frame × Http2FrameDecoder :=
  if d.stage = .failed then ([], d)
  else if d.isOverTotal then ([], d.failOverTotal)
  else (d.takeByte byte).claim

def eatAll : Bytes → Http2FrameDecoder → List Http2Frame × Http2FrameDecoder
  | [], d => ([], d)
  | byte :: rest, d =>
    let eaten := d.eat byte
    let after := eatAll rest eaten.2
    (eaten.1 ++ after.1, after.2)

theorem eatAll_append (front back : Bytes) (d : Http2FrameDecoder) : eatAll (front ++ back) d =
      ((eatAll front d).1 ++ (eatAll back (eatAll front d).2).1,
        (eatAll back (eatAll front d).2).2) := by
  induction front generalizing d with
  | nil => rfl
  | cons byte front ih =>
    rw [List.cons_append, eatAll, ih, eatAll]
    rw [List.append_assoc]

theorem eatAll_failed (hfailed : d.stage = .failed) (data : Bytes) : eatAll data d = ([], d) := by
  induction data with
  | nil => rfl
  | cons byte data ih =>
    rw [eatAll, eat, if_pos hfailed]
    rw [ih]
    rfl

theorem claim_of_none (hnone : d.pendingFrame = none) : d.claim = ([], d) := by
  obtain ⟨⟩ := d
  cases hnone
  rfl

/-! ## The count of the last call -/

def withConsumed (d : Http2FrameDecoder) (count : Nat) :
    Http2FrameDecoder :=
  { d with consumedByteCount := count }

theorem completeFrame_withConsumed (d : Http2FrameDecoder) (count : Nat) :
    (d.withConsumed count).completeFrame = d.completeFrame.withConsumed count := by
  unfold completeFrame withConsumed
  cases completedFrame d.currentHeader d.isCurrentFramePriority d.payloadBuffer with
  | error failure => rfl
  | ok frame => rfl

theorem acceptFrameHeader_withConsumed (d : Http2FrameDecoder)
    (count : Nat) : (d.withConsumed count).acceptFrameHeader =
      d.acceptFrameHeader.withConsumed count := by
  unfold acceptFrameHeader withConsumed
  cases decodeHttp2FrameHeader d.headerBytes with
  | error reason => rfl
  | ok header =>
    dsimp only
    split
    · rfl
    cases acceptFrameShape header with
    | error failure => rfl
    | ok => rfl

theorem takeByte_withConsumed (d : Http2FrameDecoder) (byte : UInt8)
    (count : Nat) : (d.withConsumed count).takeByte byte =
      (d.takeByte byte).withConsumed count := by
  unfold takeByte
  show (if d.stage = .frameHeader then _ else _) = _
  split
  · rw [takeHeaderByte_eq, takeHeaderByte_eq]
    show (if (d.headerBytes ++ [byte]).length < 9 then
        (d.withHeaderByte byte).withConsumed count
      else if ((d.withHeaderByte byte).withConsumed count).acceptFrameHeader.stage = .payload ∧
          ((d.withHeaderByte byte).withConsumed
            count).acceptFrameHeader.currentHeader.payloadLength = 0 then
        ((d.withHeaderByte byte).withConsumed count).acceptFrameHeader.completeFrame
      else ((d.withHeaderByte byte).withConsumed count).acceptFrameHeader) = _
    rw [acceptFrameHeader_withConsumed, completeFrame_withConsumed,
      apply_ite (withConsumed · count), apply_ite (withConsumed · count)]
    rfl
  · unfold takePayload completeIfFull
    rw [apply_ite (withConsumed · count), ← completeFrame_withConsumed]
    rfl

theorem eat_withConsumed (byte : UInt8) (d : Http2FrameDecoder)
    (count : Nat) : (d.withConsumed count).eat byte =
      ((d.eat byte).1, (d.eat byte).2.withConsumed count) := by
  unfold eat
  rw [takeByte_withConsumed]
  show (if d.stage = .failed then _
    else if d.isOverTotal then _ else _) = _
  split
  · rfl
  split
  · rfl
  · rfl

theorem eatAll_withConsumed (data : Bytes) (d : Http2FrameDecoder)
    (count : Nat) : eatAll data (d.withConsumed count) =
      ((eatAll data d).1, (eatAll data d).2.withConsumed count) := by
  induction data generalizing d with
  | nil => rfl
  | cons byte data ih =>
    rw [eatAll, eat_withConsumed]
    rw [ih, eatAll]

/-! ## A feed is a meal -/

/-- What `consume` leaves is eaten after the frame has been taken. -/
theorem eatAll_eq_consumeBytes (hpending : d.pendingFrame = none) (data : Bytes) : eatAll data d =
      ((consumeBytes data d).2.claim.1 ++
          (eatAll (consumeBytes data d).1 (consumeBytes data d).2.claim.2).1,
        (eatAll (consumeBytes data d).1 (consumeBytes data d).2.claim.2).2) := by
  induction data generalizing d with
  | nil =>
    rw [consumeBytes, claim_of_none hpending]
    rfl
  | cons byte rest ih =>
    have hstopped : d.isStopped = (d.stage == .failed) := by
      rw [isStopped, hpending, Option.isSome_none, Bool.or_false]
    rw [consumeBytes, hstopped]
    split
    · rw [claim_of_none hpending]
      rfl
    next hgoing =>
    split
    · next hover =>
      rw [claim_of_none (by exact hpending), eatAll, eat,
        if_neg (by simpa using hgoing), if_pos hover]
      rw [eatAll_failed rfl, eatAll_failed rfl]
    next hroom =>
    rw [eatAll, eat, if_neg (by simpa using hgoing), if_neg hroom]
    cases hframe : (d.takeByte byte).pendingFrame with
    | none =>
      rw [claim_of_none hframe, ← ih hframe]
      rfl
    | some frame =>
      have hstays : consumeBytes rest (d.takeByte byte) = (rest, d.takeByte byte) := by
        cases rest with
        | nil => rfl
        | cons next rest =>
          rw [consumeBytes, if_pos]
          rw [isStopped, hframe, Option.isSome_some, Bool.or_true]
      rw [hstays]

theorem consumeBytes_left (data : Bytes) (d : Http2FrameDecoder)
    (hgoing : (consumeBytes data d).2.isStopped = false) : (consumeBytes data d).1 = [] := by
  induction data generalizing d with
  | nil => rfl
  | cons byte rest ih =>
    revert hgoing
    rw [consumeBytes]
    split
    · next hstopped =>
      intro hgoing
      cases hstopped.symm.trans hgoing
    split
    · intro hgoing
      cases hgoing
    · exact ih _

theorem consumeBytes_shorter (data : Bytes) (d : Http2FrameDecoder) :
    (consumeBytes data d).1.length ≤ data.length ∧
      ((consumeBytes data d).1.length = data.length →
        (consumeBytes data d).2.pendingFrame = d.pendingFrame) := by
  induction data generalizing d with
  | nil => exact ⟨le_refl _, fun _ => rfl⟩
  | cons byte rest ih =>
    rw [consumeBytes]
    split
    · exact ⟨le_refl _, fun _ => rfl⟩
    split
    · exact ⟨le_refl _, fun _ => rfl⟩
    have hle := (ih (d.takeByte byte)).1
    rw [List.length_cons]
    exact ⟨by omega, by omega⟩

/-- A decoder that waits for bytes or has failed. -/
structure Ready (d : Http2FrameDecoder) : Prop where
  pendingFrame : d.pendingFrame = none
  between : ∃ wire, d.Between wire

theorem Ready.withConsumed (h : d.Ready) (count : Nat) : (d.withConsumed count).Ready := by
  obtain ⟨wire, hbetween⟩ := h.between
  exact ⟨h.pendingFrame, wire, hbetween.withConsumed count⟩

theorem Between.claim (h : d.Between wire) : d.claim.2.Ready := by
  cases hframe : d.pendingFrame with
  | none =>
    rw [claim_of_none hframe]
    exact ⟨hframe, wire, h⟩
  | some frame =>
    refine ⟨rfl, [], .of_atBoundary ?_⟩
    cases h with
    | header _ hnone _ _ => exact nomatch hframe.symm.trans hnone
    | payload _ _ hnone _ _ _ _ _ _ =>
      exact nomatch hframe.symm.trans hnone
    | frame _ hstage _ hbytes _ _ => exact ⟨hstage, hbytes, rfl⟩
    | failed _ hnone => exact nomatch hframe.symm.trans hnone

theorem Ready.eatAll (h : d.Ready) (data : Bytes) : (eatAll data d).2.Ready := by
  induction data generalizing d with
  | nil => exact h
  | cons byte data ih =>
    refine ih ?_
    obtain ⟨wire, hbetween⟩ := h.between
    unfold eat
    split
    · exact h
    next hstage =>
    split
    · exact ⟨h.pendingFrame, wire, .failed rfl h.pendingFrame⟩
    refine (hbetween.takeByte ?_ byte).claim
    rw [isStopped, h.pendingFrame, Option.isSome_none, Bool.or_false]
    simpa using hstage

theorem Ready.drain {rounds : Nat} {data : Bytes} (h : d.Ready) (hrounds : data.length < rounds) :
    ∃ count, drain rounds data d =
      ((Http2FrameDecoder.eatAll data d).1,
        (Http2FrameDecoder.eatAll data d).2.withConsumed count) := by
  induction rounds generalizing data d with
  | zero => omega
  | succ rounds ih =>
    rw [Http2FrameDecoder.drain]
    by_cases hfailed : d.stage = .failed
    · refine ⟨0, ?_⟩
      rw [eatAll_failed hfailed, Http2FrameDecoder.parse,
        if_neg (by simp [h.pendingFrame]), if_pos hfailed]
      rfl
    have hgoing : d.isStopped = false := by
      rw [isStopped, h.pendingFrame, Option.isSome_none, Bool.or_false]
      simpa using hfailed
    obtain ⟨wire, hwire⟩ := h.between
    obtain ⟨taken, hdata, hbetween⟩ := hwire.consumeBytes data
    have heaten := eatAll_eq_consumeBytes h.pendingFrame data
    obtain ⟨hle, hsame⟩ := consumeBytes_shorter data d
    have hleft := consumeBytes_left data d
    rw [parse_eq hwire hgoing]
    generalize consumeBytes data d = consumed at *
    obtain ⟨left, after⟩ := consumed
    dsimp only at *
    rw [heaten]
    by_cases hstage : after.stage = .failed
    · have hnone : after.pendingFrame = none := by
        cases hbetween with
        | header hstage' _ _ _ => cases hstage.symm.trans hstage'
        | payload _ hstage' _ _ _ _ _ _ _ => cases hstage.symm.trans hstage'
        | frame _ hstage' _ _ _ _ => cases hstage.symm.trans hstage'
        | failed _ hnone => exact hnone
      refine ⟨data.length - left.length, ?_⟩
      rw [claim_of_none hnone, eatAll_failed hstage, if_pos hstage]
      rfl
    rw [if_neg hstage]
    obtain hframe | ⟨frame, hframe⟩ := Option.eq_none_or_eq_some after.pendingFrame
    · refine ⟨data.length - left.length, ?_⟩
      rw [claim_of_none hframe, if_neg (by simp [hframe]), hleft (by
        rw [isStopped, hframe, Option.isSome_none, Bool.or_false]
        simpa using hstage)]
      rfl
    have hshorter : left.length < data.length := by
      refine lt_of_le_of_ne hle ?_
      intro hlength
      rw [hsame hlength, h.pendingFrame] at hframe
      cases hframe
    have hdrop : data.drop (data.length - left.length) = left := by
      rw [hdata, List.length_append, Nat.add_sub_cancel]
      exact List.drop_left
    obtain ⟨count, hrest⟩ := ih (hbetween.claim.withConsumed (data.length - left.length))
      (show left.length < rounds by omega)
    refine ⟨count, ?_⟩
    rw [if_pos (by rw [hframe]; rfl)]
    dsimp only [takeFrame]
    rw [hframe]
    dsimp only
    rw [hdrop]
    show (frame :: (Http2FrameDecoder.drain rounds left (after.claim.2.withConsumed _)).1,
      (Http2FrameDecoder.drain rounds left (after.claim.2.withConsumed _)).2) = _
    rw [hrest, eatAll_withConsumed, claim, hframe]
    rfl

/-! ## Cuts -/

theorem Ready.feedPieces (h : d.Ready) (pieces : List Bytes) : ∃ count, feedPieces pieces d =
      ((Http2FrameDecoder.eatAll pieces.flatten d).1,
        (Http2FrameDecoder.eatAll pieces.flatten d).2.withConsumed count) := by
  induction pieces generalizing d with
  | nil => exact ⟨d.consumedByteCount, rfl⟩
  | cons piece pieces ih =>
    obtain ⟨count, hfed⟩ := h.drain (Nat.lt_succ_self piece.length)
    obtain ⟨last, hlast⟩ := ih ((h.eatAll piece).withConsumed count)
    refine ⟨last, ?_⟩
    rw [Http2FrameDecoder.feedPieces, feed, hfed]
    dsimp only
    rw [hlast, eatAll_withConsumed, List.flatten_cons, eatAll_append]
    rfl

/-- All but the count of the last call. -/
def seen (fed : List Http2Frame × Http2FrameDecoder) : List Http2Frame × Http2FrameDecoder :=
  (fed.1, fed.2.withConsumed 0)

/-- The frames, the failure and the bytes consumed in all depend on the
bytes and on nothing else. -/
theorem feedPieces_eq_feed (limits : Http2FrameLimits) (pieces : List Bytes) :
    (create limits).map (fun d => seen (d.feedPieces pieces)) =
      (create limits).map fun d => seen (d.feed pieces.flatten) := by
  unfold create
  split
  · rfl
  have hready : ({ limits := limits } : Http2FrameDecoder).Ready :=
    ⟨rfl, [], .of_atBoundary ⟨rfl, rfl, rfl⟩⟩
  obtain ⟨count, hpieces⟩ := hready.feedPieces pieces
  obtain ⟨count', hwhole⟩ := hready.drain (Nat.lt_succ_self pieces.flatten.length)
  show Except.ok (seen (Http2FrameDecoder.feedPieces pieces _)) = .ok (seen (feed pieces.flatten _))
  rw [hpieces, feed, hwhole]
  rfl

end Http2FrameDecoder

end AsynGyanis.Http2
