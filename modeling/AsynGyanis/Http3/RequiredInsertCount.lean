import AsynGyanis.Http3.QpackEncoder

/-!
# The Required Insert Count

A header block names the number of insertions it needs modulo twice the
number of entries that fit into the table, plus one; zero stands for none.
The decoder puts the number back into the turn that is nearest to the
insertions it has seen itself, by one step back from a turn that may be too
far ahead.

Both ends count in 64 bits. `TurnFits` says that the turn the decoder starts
from does not reach beyond them. A decoder that has seen fewer than `2 ^ 63`
insertions has it (`turnFits_of_lt`), and each insertion takes a byte at
least of a stream that QUIC ends at `2 ^ 62`.
-/

namespace AsynGyanis.Http3

open QpackDynamicTable (maximumEntryCount)

/-! ## The source's arithmetic -/

/-- `QpackDecoder::decodeRequiredInsertCount`, of the announced capacity and
the insertions seen. -/
def decodeRequiredInsertCount (maximumTableCapacityByteCount
    totalInsertCount encodedInsertCount : Nat) : Except QpackError Nat :=
  if encodedInsertCount = 0 then .ok 0
  else
    let maximumEntryCount := maximumEntryCount maximumTableCapacityByteCount
    if maximumEntryCount = 0 then
      .error ⟨.decompressionFailed,
        s!"对端容量上限 {maximumTableCapacityByteCount} 字节容不下任何表项，Encoded Insert Count 只能是 0，实际为 {encodedInsertCount}（RFC 9204 §4.5.1.1）"⟩
    else
      let fullRange := 2 * maximumEntryCount
      if encodedInsertCount > fullRange then
        .error ⟨.decompressionFailed,
          s!"Encoded Insert Count {encodedInsertCount} 超过可表示范围 {fullRange}（RFC 9204 §4.5.1.1）"⟩
      else
        let maximumValue := (totalInsertCount + maximumEntryCount) % 2 ^ 64
        let wrappedBaseValue := maximumValue / fullRange * fullRange
        let requiredInsertCount := (wrappedBaseValue + encodedInsertCount - 1) % 2 ^ 64
        if requiredInsertCount > maximumValue then
          if requiredInsertCount ≤ fullRange then
            .error ⟨.decompressionFailed,
              s!"Required Insert Count 还原为 {requiredInsertCount}，无法回退到合法区间（RFC 9204 §4.5.1.1）"⟩
          else .ok (requiredInsertCount - fullRange)
        else if requiredInsertCount = 0 then
          .error ⟨.decompressionFailed,
            "还原出的 Required Insert Count 为 0，但取值 0 必须编码成 0（RFC 9204 §4.5.1.1）"⟩
        else .ok requiredInsertCount

/-- The turn of counts that the decoder starts from ends within 64 bits. -/
def TurnFits (maximumTableCapacityByteCount totalInsertCount : Nat) : Prop :=
  let fullRange := 2 * maximumEntryCount maximumTableCapacityByteCount
  (totalInsertCount + maximumEntryCount maximumTableCapacityByteCount) /
    fullRange * fullRange + fullRange ≤ 2 ^ 64

instance (maximumTableCapacityByteCount totalInsertCount : Nat) :
    Decidable (TurnFits maximumTableCapacityByteCount totalInsertCount) :=
  inferInstanceAs (Decidable (_ ≤ _))

/-! ## The interval around the insertions seen -/

/-- Where the decoder puts a count: within the table's number of entries of
the insertions it has seen. -/
def InReach (capacity total required : Nat) : Prop :=
  total < required + maximumEntryCount capacity ∧ required ≤ total + maximumEntryCount capacity

instance (capacity total required : Nat) : Decidable (InReach capacity total required) :=
  inferInstanceAs (Decidable (_ ∧ _))

/-- The turn that a number within reach belongs to is the decoder's or the
one before. -/
theorem turn_of_inReach {total range required : Nat} (hrange : 0 < range)
    (hlow : total < required + range) (hhigh : required ≤ total + range) :
    required / (2 * range) * (2 * range) = (total + range) / (2 * range) * (2 * range) ∨
      required / (2 * range) * (2 * range) + 2 * range =
        (total + range) / (2 * range) * (2 * range) := by
  have hle : required / (2 * range) ≤ (total + range) / (2 * range) := Nat.div_le_div_right hhigh
  have hnext : (total + range) / (2 * range) ≤ required / (2 * range) + 1 := by
    rw [← Nat.add_div_right required (by omega)]
    exact Nat.div_le_div_right (by omega)
  rcases eq_or_lt_of_le hle with heq | hlt
  · rw [heq]
    exact .inl rfl
  have heq : (total + range) / (2 * range) = required / (2 * range) + 1 := by omega
  rw [heq, Nat.succ_mul (required / (2 * range))]
  exact .inr rfl

variable {capacity total : Nat}

theorem maximumEntryCount_pos (h : 32 ≤ capacity) : 0 < maximumEntryCount capacity :=
  Nat.div_pos h (by decide)

theorem decode_of_inReach {required : Nat} (hcapacity : 32 ≤ capacity)
    (hfits : TurnFits capacity total) (hpos : 1 ≤ required)
    (hreach : InReach capacity total required) :
    decodeRequiredInsertCount capacity total
      (required % (2 * maximumEntryCount capacity) + 1) = .ok required := by
  have hentries := maximumEntryCount_pos hcapacity
  obtain ⟨hlow, hhigh⟩ := hreach
  have hturn := turn_of_inReach hentries hlow hhigh
  unfold TurnFits at hfits
  unfold decodeRequiredInsertCount
  generalize maximumEntryCount capacity = range at *
  simp only at hfits ⊢
  have hmod : required % (2 * range) < 2 * range := Nat.mod_lt _ (by omega)
  have hsplit : required / (2 * range) * (2 * range) +
      required % (2 * range) = required := Nat.div_add_mod' _ _
  have hmax := Nat.lt_div_mul_add (a := total + range) (show 0 < 2 * range by omega)
  have hmaxmod : (total + range) % 2 ^ 64 = total + range := Nat.mod_eq_of_lt (by omega)
  have hbase := Nat.div_mul_le_self (total + range) (2 * range)
  rw [if_neg (by omega), if_neg (by omega), if_neg (by omega), hmaxmod, Nat.mod_eq_of_lt (by omega)]
  rcases hturn with hturn | hturn
  · rw [← hturn, if_neg (by omega), if_neg (by omega)]
    exact congrArg _ (by omega)
  · rw [if_pos (by omega), if_neg (by omega)]
    exact congrArg _ (by omega)

theorem inReach_of_decode {encoded required : Nat}
    (hcapacity : 32 ≤ capacity) (hfits : TurnFits capacity total) (hencoded : encoded ≠ 0)
    (h : decodeRequiredInsertCount capacity total encoded = .ok required) :
    1 ≤ required ∧ InReach capacity total required ∧
      required % (2 * maximumEntryCount capacity) + 1 = encoded := by
  have hentries := maximumEntryCount_pos hcapacity
  unfold TurnFits at hfits
  unfold InReach
  unfold decodeRequiredInsertCount at h
  generalize maximumEntryCount capacity = range at *
  simp only at hfits h
  have hmax := Nat.lt_div_mul_add (a := total + range) (show 0 < 2 * range by omega)
  have hmaxmod : (total + range) % 2 ^ 64 = total + range := Nat.mod_eq_of_lt (by omega)
  have hbase := Nat.div_mul_le_self (total + range) (2 * range)
  rw [if_neg hencoded, if_neg (by omega), hmaxmod] at h
  split at h
  · cases h
  have hmod : ∀ turn, (turn * (2 * range) + (encoded - 1)) % (2 * range) =
      encoded - 1 := fun turn => by
    rw [mul_comm, Nat.mul_add_mod]
    exact Nat.mod_eq_of_lt (by omega)
  have hback : 0 < (total + range) / (2 * range) * (2 * range) →
      ∃ turn, (total + range) / (2 * range) * (2 * range) = turn * (2 * range) + 2 * range := by
    intro hpos
    cases hturn : (total + range) / (2 * range) with
    | zero =>
      rw [hturn] at hpos
      omega
    | succ turn => exact ⟨turn, Nat.succ_mul turn (2 * range)⟩
  split at h
  · split at h
    · cases h
    -- One turn too far ahead: the decoder steps back.
    injection h with h
    obtain ⟨turn, hturn⟩ := hback (by omega)
    have hrequired : required = turn * (2 * range) + (encoded - 1) := by
      omega
    have := hmod turn
    rw [← hrequired] at this
    omega
  · split at h
    · cases h
    injection h with h
    have hrequired : required = (total + range) / (2 * range) * (2 * range) + (encoded - 1) := by
      omega
    have := hmod ((total + range) / (2 * range))
    rw [← hrequired] at this
    omega

/-! ## Both ends -/

/-- A count within reach comes back from the prefix that the encoder writes
for it, and whatever prefix arrives, the decoder answers with the count
within reach that the prefix stands for or not at all. -/
theorem requiredInsertCount_restored (encoder : QpackEncoder)
    (hcapacity : 32 ≤ encoder.peerMaximumTableCapacityByteCount)
    (total : Nat)
    (hfits : TurnFits encoder.peerMaximumTableCapacityByteCount total) :
    (∀ (baseValue : Nat) (s : QpackEncoder.SectionInProgress), 1 ≤ s.requiredInsertCount →
      InReach encoder.peerMaximumTableCapacityByteCount total s.requiredInsertCount →
      ∃ block, encoder.finishSection baseValue s = .ok block ∧
        decodeRequiredInsertCount encoder.peerMaximumTableCapacityByteCount
          total block.encodedInsertCount = .ok s.requiredInsertCount) ∧
    ∀ encoded required, encoded ≠ 0 →
      decodeRequiredInsertCount encoder.peerMaximumTableCapacityByteCount
        total encoded = .ok required →
      1 ≤ required ∧ InReach encoder.peerMaximumTableCapacityByteCount total required ∧
        required % (2 * maximumEntryCount
          encoder.peerMaximumTableCapacityByteCount) + 1 = encoded := by
  refine ⟨fun baseValue s hpos hreach => ?_, fun encoded required hencoded h =>
      inReach_of_decode hcapacity hfits hencoded h⟩
  have hdecode := decode_of_inReach hcapacity hfits hpos hreach
  have hentries := maximumEntryCount_pos hcapacity
  unfold QpackEncoder.finishSection
  rw [if_neg (by omega)]
  rw [if_neg (by omega)]
  split
  · exact ⟨_, rfl, hdecode⟩
  · exact ⟨_, rfl, hdecode⟩

/-- A table of four entries after ten insertions, and a section that needs
thirteen. -/
theorem requiredInsertCount_restored_small :
    ∃ block, (QpackEncoder.construct 128 0 0).finishSection 10
        ⟨.empty 128, 0, [], [], [12], 13⟩ = .ok block ∧
      decodeRequiredInsertCount 128 10 block.encodedInsertCount = .ok 13 :=
  (requiredInsertCount_restored (.construct 128 0 0) (by decide) 10
    (by decide)).1 10 ⟨.empty 128, 0, [], [], [12], 13⟩ (by decide)
    (by decide)

/-- A prefix of zero is no failure, and a count that the 64 bits do not
reach beyond is not restored. -/
theorem requiredInsertCount_not_restored : decodeRequiredInsertCount 32 0 0 = .ok 0 ∧
      InReach 32 (2 ^ 64 - 1) (2 ^ 64 - 1) ∧
      (decodeRequiredInsertCount 32 (2 ^ 64 - 1) ((2 ^ 64 - 1) % 2 + 1)).toOption = none := by
  decide

end AsynGyanis.Http3
