import AsynGyanis.Net.ProxyAcceptance

/-!
# Where a PROXY header ends

A connection reads until it knows how long the header is. `frameProxyHeader`
answers that from what has been read so far: not yet known, this many bytes,
or no header at all. An answer other than the first holds for every longer
input as well, so it does not depend on how the input was cut; it comes before
the limits of the two versions are passed, and `parseProxyHeader` never takes
another number of bytes.
-/

namespace AsynGyanis.Net

open Library Core Http List

/-! ## The code -/

structure ProxyHeaderFraming where
  isStillPlausible : Bool := true
  totalLength : Option Nat := none
  deriving DecidableEq, Repr

/-- The part of a text that is there agrees with a signature. -/
def agreesWith (signature buffered : Bytes) : Bool :=
  let compared := min buffered.length signature.length
  signature.take compared = buffered.take compared

/-- A header that would be longer than its limit is none. -/
def frameOfTotal (limit total : Nat) : ProxyHeaderFraming :=
  if limit < total then { isStillPlausible := false } else { totalLength := some total }

def frameProxyHeader (buffered : Bytes) : ProxyHeaderFraming :=
  if buffered = [] then {}
  else if !agreesWith kV2Signature buffered && !agreesWith kV1Prefix buffered then
    { isStillPlausible := false }
  else if agreesWith kV2Signature buffered then
    if buffered.length < kV2FixedPartBytes then {}
    else
      frameOfTotal kMaximumProxyHeaderV2Bytes
        (kV2FixedPartBytes + uint16At buffered kV2LengthOffset)
  else
    match findLineEnd buffered with
    | none => { isStillPlausible := buffered.length ≤ kMaximumProxyHeaderV1Bytes }
    | some lineEnd => frameOfTotal kMaximumProxyHeaderV1Bytes (lineEnd + 2)

/-! ## Signatures -/

variable {signature input : Bytes}

theorem agreesWith_iff : agreesWith signature input = true ↔
    input <+: signature ∨ signature <+: input := by
  rw [agreesWith, decide_eq_true_iff]
  rcases le_total input.length signature.length with hle | hle
  · rw [min_eq_left hle, take_length, eq_comm, ← prefix_iff_eq_take]
    refine ⟨.inl, fun h => h.elim id fun hbegins => ?_⟩
    exact hbegins.eq_of_length_le hle ▸ prefix_refl _
  · rw [min_eq_right hle, take_length, ← prefix_iff_eq_take]
    refine ⟨.inr, fun h => h.elim (fun hbegins => ?_) id⟩
    exact hbegins.eq_of_length_le hle ▸ prefix_refl _

theorem agreesWith_iff_take (hlength : signature.length ≤ input.length) :
    agreesWith signature input = true ↔ input.take signature.length = signature := by
  rw [agreesWith, decide_eq_true_iff, min_eq_right hlength, take_length, eq_comm]

theorem agreesWith_append (more : Bytes) :
    (agreesWith signature (input ++ more) = true → agreesWith signature input = true) ∧
      (signature.length ≤ input.length →
        agreesWith signature (input ++ more) = agreesWith signature input) := by
  refine ⟨fun h => ?_, fun hlength => ?_⟩
  · rw [agreesWith_iff] at h ⊢
    rcases h with hbegins | hbegins
    · exact .inl ((prefix_append input more).trans hbegins)
    · exact prefix_or_prefix_of_prefix (prefix_append input more) hbegins
  · rw [Bool.eq_iff_iff, agreesWith_iff_take hlength, agreesWith_iff_take,
      take_append_of_le_length hlength]
    rw [length_append]
    omega

theorem not_agreesWith_both (hne : input ≠ []) (h : agreesWith kV1Prefix input = true) :
    agreesWith kV2Signature input = false := by
  rw [← Bool.not_eq_true, agreesWith_iff]
  rw [agreesWith_iff] at h
  cases input with
  | nil => exact absurd rfl hne
  | cons first rest =>
    simp only [kV1Prefix, kV2Signature, cons_prefix_cons] at h ⊢
    rintro (⟨rfl, -⟩ | ⟨rfl, -⟩) <;> rcases h with ⟨h, -⟩ | ⟨h, -⟩ <;> revert h <;> decide

/-! ## Line ends -/

theorem findLineEnd_append_of_some {lineEnd : Nat} (h : findLineEnd input = some lineEnd)
    (more : Bytes) : findLineEnd (input ++ more) = some lineEnd := by
  induction input generalizing lineEnd with
  | nil => cases h
  | cons first rest ih =>
    rw [findLineEnd] at h
    rw [cons_append, findLineEnd]
    split at h
    · next hcrlf =>
      rw [if_pos ⟨hcrlf.1, by rw [head?_append, hcrlf.2]; rfl⟩]
      exact h
    · next hnot =>
      obtain ⟨before, hbefore, rfl⟩ := Option.map_eq_some_iff.mp h
      rw [if_neg ?_, ih hbefore]
      · rfl
      cases rest with
      | nil => cases hbefore
      | cons second rest => exact hnot

theorem length_le_of_findLineEnd {more : Bytes} {lineEnd : Nat} (hnone : findLineEnd input = none)
    (h : findLineEnd (input ++ more) = some lineEnd) : input.length ≤ lineEnd + 1 := by
  induction input generalizing lineEnd with
  | nil => exact Nat.zero_le _
  | cons first rest ih =>
    rw [findLineEnd] at hnone
    split at hnone
    · cases hnone
    next hnot =>
    rw [Option.map_eq_none_iff] at hnone
    rw [cons_append, findLineEnd] at h
    split at h
    · next hcrlf =>
      cases rest with
      | nil => exact Nat.succ_le_succ (Nat.zero_le _)
      | cons second rest => exact absurd hcrlf hnot
    · obtain ⟨before, hbefore, rfl⟩ := Option.map_eq_some_iff.mp h
      exact Nat.succ_le_succ (ih hnone hbefore)

/-! ## The answers -/

/-- How each answer comes about. -/
inductive Frames (input : Bytes) : ProxyHeaderFraming → Prop
  | nothing (h : input = []) : Frames input {}
  | other (hne : input ≠ []) (hv2 : agreesWith kV2Signature input = false)
    (hv1 : agreesWith kV1Prefix input = false) : Frames input { isStillPlausible := false }
  | signature (hne : input ≠ []) (hv2 : agreesWith kV2Signature input = true)
    (hlength : input.length < kV2FixedPartBytes) : Frames input {}
  | block (hv2 : agreesWith kV2Signature input = true)
    (hlength : kV2FixedPartBytes ≤ input.length) :
    Frames input (frameOfTotal kMaximumProxyHeaderV2Bytes
      (kV2FixedPartBytes + uint16At input kV2LengthOffset))
  | text (hne : input ≠ []) (hv1 : agreesWith kV1Prefix input = true)
    (hend : findLineEnd input = none) :
    Frames input { isStillPlausible := input.length ≤ kMaximumProxyHeaderV1Bytes }
  | line (hne : input ≠ []) (hv1 : agreesWith kV1Prefix input = true) {lineEnd : Nat}
    (hend : findLineEnd input = some lineEnd) :
    Frames input (frameOfTotal kMaximumProxyHeaderV1Bytes (lineEnd + 2))

theorem Frames.eq {framing : ProxyHeaderFraming} (h : Frames input framing) :
    frameProxyHeader input = framing := by
  rw [frameProxyHeader]
  cases h with
  | nothing h => rw [if_pos h]
  | other hne hv2 hv1 =>
    rw [if_neg hne, hv2, hv1]
    rfl
  | signature hne hv2 hlength =>
    rw [if_neg hne, hv2]
    exact if_pos hlength
  | block hv2 hlength =>
    have hne : input ≠ [] := by
      rintro rfl
      exact absurd hlength (by decide)
    rw [if_neg hne, hv2]
    exact if_neg (not_lt.mpr hlength)
  | text hne hv1 hend =>
    rw [if_neg hne, hv1, not_agreesWith_both hne hv1, hend]
    rfl
  | line hne hv1 hend =>
    rw [if_neg hne, hv1, not_agreesWith_both hne hv1, hend]
    rfl

theorem frameProxyHeader_frames (input : Bytes) : Frames input (frameProxyHeader input) := by
  suffices h : ∃ framing, Frames input framing by
    obtain ⟨framing, hframing⟩ := h
    exact hframing.eq ▸ hframing
  by_cases hne : input = []
  · exact ⟨_, .nothing hne⟩
  cases hv1 : agreesWith kV1Prefix input with
  | true =>
    cases hend : findLineEnd input with
    | none => exact ⟨_, .text hne hv1 hend⟩
    | some lineEnd => exact ⟨_, .line hne hv1 hend⟩
  | false =>
    cases hv2 : agreesWith kV2Signature input with
    | true =>
      by_cases hlength : input.length < kV2FixedPartBytes
      · exact ⟨_, .signature hne hv2 hlength⟩
      · exact ⟨_, .block hv2 (not_lt.mp hlength)⟩
    | false => exact ⟨_, .other hne hv2 hv1⟩

theorem frameOfTotal_cases (limit total : Nat) :
    limit < total ∧ frameOfTotal limit total = { isStillPlausible := false } ∨
      total ≤ limit ∧ frameOfTotal limit total = { totalLength := some total } := by
  rw [frameOfTotal]
  split
  · next h => exact .inl ⟨h, rfl⟩
  · next h => exact .inr ⟨not_lt.mp h, rfl⟩

theorem frameOfTotal_ne (limit total : Nat) : frameOfTotal limit total ≠ {} := by
  rcases frameOfTotal_cases limit total with ⟨-, heq⟩ | ⟨-, heq⟩ <;> rw [heq] <;> nofun

theorem total_of_frameOfTotal {limit total length : Nat}
    (h : frameOfTotal limit total = { totalLength := some length }) :
    total ≤ limit ∧ total = length := by
  rcases frameOfTotal_cases limit total with ⟨-, heq⟩ | ⟨hle, heq⟩
  · rw [heq] at h
    cases h
  · rw [heq] at h
    cases h
    exact ⟨hle, rfl⟩

theorem uint16At_append_left {index : Nat} (h : index + 1 < input.length) (more : Bytes) :
    uint16At (input ++ more) index = uint16At input index := by
  simp only [uint16At, byteAt, getD_eq_getElem?_getD]
  rw [getElem?_append_left (by omega), getElem?_append_left h]

theorem frameProxyHeader_append (h : frameProxyHeader input ≠ {}) (more : Bytes) :
    frameProxyHeader (input ++ more) = frameProxyHeader input := by
  have hframes := frameProxyHeader_frames input
  generalize frameProxyHeader input = framing at h hframes ⊢
  cases hframes with
  | nothing | signature => exact absurd rfl h
  | other hne hv2 hv1 =>
    refine Frames.eq (.other (append_ne_nil_of_left_ne_nil hne more) ?_ ?_)
    · exact Bool.eq_false_iff.mpr fun hlonger =>
        Bool.eq_false_iff.mp hv2 ((agreesWith_append more).1 hlonger)
    · exact Bool.eq_false_iff.mpr fun hlonger =>
        Bool.eq_false_iff.mp hv1 ((agreesWith_append more).1 hlonger)
  | block hv2 hlength =>
    have hoffset : kV2LengthOffset + 1 < input.length := hlength
    rw [← uint16At_append_left hoffset more]
    refine Frames.eq (.block ?_ (hlength.trans (by simp)))
    rw [(agreesWith_append more).2 (le_trans (by decide) hlength), hv2]
  | text hne hv1 hend =>
    have hlong : ¬input.length ≤ kMaximumProxyHeaderV1Bytes := by
      intro hle
      rw [decide_eq_true hle] at h
      exact h rfl
    have hne' := append_ne_nil_of_left_ne_nil hne more
    have hv1' : agreesWith kV1Prefix (input ++ more) = true := by
      rw [(agreesWith_append more).2 (le_trans (by decide) (not_le.mp hlong).le), hv1]
    rw [decide_eq_false hlong]
    cases hlonger : findLineEnd (input ++ more) with
    | none =>
      rw [(Frames.text hne' hv1' hlonger).eq, decide_eq_false]
      rw [length_append]
      omega
    | some lineEnd =>
      have hle := length_le_of_findLineEnd hend hlonger
      rw [(Frames.line hne' hv1' hlonger).eq, frameOfTotal, if_pos (by omega)]
  | line hne hv1 hend =>
    refine Frames.eq (.line (append_ne_nil_of_left_ne_nil hne more) ?_
      (findLineEnd_append_of_some hend more))
    rcases agreesWith_iff.mp hv1 with hshort | hbegins
    · have hreturn : 0x0D ∉ input := fun hmem => absurd (hshort.subset hmem) (by decide)
      rw [findLineEnd_eq_none hreturn] at hend
      cases hend
    · exact agreesWith_iff.mpr (.inr (hbegins.trans (prefix_append input more)))

theorem length_of_undecided (h : frameProxyHeader input = {}) :
    input.length ≤ kMaximumProxyHeaderV1Bytes ∧
      ∀ more total, frameProxyHeader (input ++ more) = { totalLength := some total } →
        input.length < total := by
  have hframes := frameProxyHeader_frames input
  rw [h] at hframes
  have hlater : ∀ more total, frameProxyHeader (input ++ more) = { totalLength := some total } →
      agreesWith kV2Signature input = true ∧ kV2FixedPartBytes ≤ total ∨
        agreesWith kV1Prefix input = true ∧ (findLineEnd input = none → input.length < total) := by
    intro more total hmore
    have hlonger := frameProxyHeader_frames (input ++ more)
    generalize frameProxyHeader (input ++ more) = framing at hmore hlonger
    cases hlonger with
    | nothing | other | signature => cases hmore
    | text =>
      injection hmore with _ hnone
      cases hnone
    | block hv2 =>
      obtain ⟨-, rfl⟩ := total_of_frameOfTotal hmore
      exact .inl ⟨(agreesWith_append more).1 hv2, Nat.le_add_right _ _⟩
    | line hne hv1 hend =>
      obtain ⟨-, rfl⟩ := total_of_frameOfTotal hmore
      exact .inr ⟨(agreesWith_append more).1 hv1, fun hnone =>
        Nat.lt_succ_of_le (length_le_of_findLineEnd hnone hend)⟩
  generalize hframing : ({} : ProxyHeaderFraming) = framing at hframes
  cases hframes with
  | other => cases hframing
  | block | line => exact absurd hframing.symm (frameOfTotal_ne _ _)
  | nothing hnil =>
    refine ⟨hnil ▸ Nat.zero_le _, fun more total hmore => ?_⟩
    rcases hlater more total hmore with ⟨-, hle⟩ | ⟨-, hline⟩
    · exact hnil ▸ lt_of_lt_of_le (by decide) hle
    · exact hline (hnil ▸ rfl)
  | signature hne hv2 hlength =>
    refine ⟨hlength.le.trans (by decide), fun more total hmore => ?_⟩
    rcases hlater more total hmore with ⟨-, hle⟩ | ⟨hv1, -⟩
    · exact lt_of_lt_of_le hlength hle
    · rw [not_agreesWith_both hne hv1] at hv2
      cases hv2
  | text hne hv1 hend =>
    injection hframing with hshort _
    refine ⟨of_decide_eq_true hshort.symm, fun more total hmore => ?_⟩
    rcases hlater more total hmore with ⟨hv2, -⟩ | ⟨-, hline⟩
    · rw [not_agreesWith_both hne hv1] at hv2
      cases hv2
    · exact hline hend

/-! ## Agreement with the parser -/

variable (literal : Bytes → Option IpAddress)

theorem parseProxyHeader_block (hv2 : agreesWith kV2Signature input = true)
    (hlength : kV2FixedPartBytes ≤ input.length) :
    parseProxyHeader literal input = parseV2Header literal input :=
  if_pos ⟨hlength, (agreesWith_iff_take (le_trans (by decide) hlength)).mp hv2⟩

theorem parseProxyHeader_line (hv2 : agreesWith kV2Signature input = false) :
    parseProxyHeader literal input = parseV1Header literal input := by
  refine if_neg fun h => ?_
  rw [(agreesWith_iff_take (le_trans (by decide) h.1)).mpr h.2] at hv2
  cases hv2

theorem parseProxyHeader_framed (h : frameProxyHeader input ≠ {}) :
    parseProxyHeader literal input = (none, 0) ∨
      ∃ endpoint total, frameProxyHeader input = { totalLength := some total } ∧
        parseProxyHeader literal input = (some endpoint, total) := by
  have hframes := frameProxyHeader_frames input
  generalize frameProxyHeader input = framing at h hframes ⊢
  cases hframes with
  | nothing | signature => exact absurd rfl h
  | other hne hv2 hv1 =>
    refine .inl ?_
    rw [parseProxyHeader_line literal hv2, parseV1Header]
    cases findLineEnd input with
    | none => rfl
    | some lineEnd =>
      refine if_pos fun hbegins => ?_
      have hlength : kV1Prefix.length ≤ input.length := by
        rw [← hbegins]
        exact length_take_le' _ _
      rw [(agreesWith_iff_take hlength).mpr hbegins] at hv1
      cases hv1
  | block hv2 hlength =>
    rw [parseProxyHeader_block literal hv2 hlength, parseV2Header]
    rcases frameOfTotal_cases kMaximumProxyHeaderV2Bytes
      (kV2FixedPartBytes + uint16At input kV2LengthOffset) with ⟨hlt, -⟩ | ⟨-, heq⟩
    · rw [add_comm] at hlt
      exact .inl (if_pos (.inr (.inr hlt)))
    · rw [heq]
      dsimp only
      split
      · exact .inl rfl
      split
      · exact .inl rfl
      split
      · exact .inl rfl
      · exact .inr ⟨_, _, rfl, rfl⟩
  | text hne hv1 hend =>
    rw [parseProxyHeader_line literal (not_agreesWith_both hne hv1), parseV1Header, hend]
    exact .inl rfl
  | line hne hv1 hend =>
    rw [parseProxyHeader_line literal (not_agreesWith_both hne hv1), parseV1Header, hend]
    rcases frameOfTotal_cases kMaximumProxyHeaderV1Bytes (_ + 2) with ⟨hlt, -⟩ | ⟨-, heq⟩
    · dsimp only
      rw [if_pos hlt, ite_self]
      exact .inl rfl
    · rw [heq]
      dsimp only
      repeat' split
      any_goals exact .inl rfl
      exact .inr ⟨_, _, rfl, rfl⟩

/-- Framing does not depend on how the input is cut, and the parser agrees with
it. -/
structure FramingAgreement : Prop where
  one_outcome : ∀ stream : Bytes, ∃ outcome : ProxyHeaderFraming,
    outcome.isStillPlausible = outcome.totalLength.isSome ∧ ∀ input, input <+: stream →
        frameProxyHeader input = {} ∨ frameProxyHeader input = outcome
  stays : ∀ input more, frameProxyHeader input ≠ {} →
    frameProxyHeader (input ++ more) = frameProxyHeader input
  decided : ∀ input : Bytes, kMaximumProxyHeaderV1Bytes < input.length → frameProxyHeader input ≠ {}
  consumes : ∀ stream total, frameProxyHeader stream = { totalLength := some total } →
    ∀ input, input <+: stream → total ≤ input.length → parseProxyHeader literal input = (none, 0) ∨
        ∃ endpoint, parseProxyHeader literal input = (some endpoint, total)
  refuses : ∀ input, frameProxyHeader input = { isStillPlausible := false } →
    parseProxyHeader literal input = (none, 0)

theorem proxy_framing_agrees (literal : Bytes → Option IpAddress) : FramingAgreement literal where
  one_outcome := by
    intro stream
    have hinput : ∀ input, input <+: stream → frameProxyHeader input = {} ∨
        frameProxyHeader input = frameProxyHeader stream := by
      rintro input ⟨more, rfl⟩
      by_cases h : frameProxyHeader input = {}
      · exact .inl h
      · exact .inr (frameProxyHeader_append h more).symm
    by_cases hstream : frameProxyHeader stream = {}
    · rw [hstream] at hinput
      exact ⟨{ isStillPlausible := false }, rfl, fun input hbegins =>
        .inl ((hinput input hbegins).elim id id)⟩
    · refine ⟨_, ?_, hinput⟩
      have hframes := frameProxyHeader_frames stream
      generalize frameProxyHeader stream = framing at hstream hframes ⊢
      cases hframes with
      | nothing | signature => exact absurd rfl hstream
      | other => rfl
      | block | line => rw [frameOfTotal]; split <;> rfl
      | text =>
        cases hshort : decide (stream.length ≤ kMaximumProxyHeaderV1Bytes) with
        | true => exact absurd (by rw [hshort]) hstream
        | false => rfl
  stays := fun _ more h => frameProxyHeader_append h more
  decided := fun _ hlength h => absurd (length_of_undecided h).1 (not_le.mpr hlength)
  consumes := by
    rintro _ total hstream input ⟨more, rfl⟩ hle
    have hdecided : frameProxyHeader input ≠ {} := fun h =>
      absurd ((length_of_undecided h).2 more total hstream) (not_lt.mpr hle)
    rw [frameProxyHeader_append hdecided] at hstream
    refine (parseProxyHeader_framed literal hdecided).imp_right ?_
    rintro ⟨endpoint, total', htotal, hparse⟩
    rw [hstream] at htotal
    cases htotal
    exact ⟨endpoint, hparse⟩
  refuses := by
    intro input hframe
    refine (parseProxyHeader_framed literal (by rw [hframe]; nofun)).resolve_right ?_
    rintro ⟨endpoint, total, htotal, -⟩
    rw [hframe] at htotal
    cases htotal

end AsynGyanis.Net
