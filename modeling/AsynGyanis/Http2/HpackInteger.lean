import AsynGyanis.Http2.Frame

/-!
# HPACK integers (RFC 7541 §5.1)

A value that does not fit the low bits of its first byte goes on in bytes of
seven bits, the low group first. The value of such a row has no bound; the
code keeps it in 64 bits, and has to refuse what does not fit.

`hpackIntegerValue` is the value as the specification counts it, and
`AcceptsExactly` what a decoder of 64 bits and ten continuation bytes should
make of it. The decoder looks at the bits a shift would drop, not at the
carry when a group is added, so there is a window below 2^64, as wide as the
largest prefix, in which the sum wraps: `decodeHpackInteger_exact_iff`.
-/

namespace AsynGyanis.Http2

/-! ## The code -/

/-- `{:02X}`. -/
def paddedHexText (value : Nat) : String :=
  if value < 16 then "0" ++ hexText value else hexText value

/-- The groups behind a prefix that is full. -/
def appendHpackContinuation (out : Bytes) (remainingValue : Nat) : Bytes :=
  if remainingValue < 128 then out ++ [UInt8.ofNat remainingValue]
  else
    appendHpackContinuation (out ++ [UInt8.ofNat (remainingValue % 128 + 128)])
      (remainingValue / 128)
termination_by remainingValue

def appendHpackInteger (out : Bytes) (value : UInt64)
    (prefixBitCount firstByteHighBits : UInt8) : Except String Bytes :=
  if prefixBitCount < 1 ∨ prefixBitCount > 8 then
    .error s!"HPACK 整数表示的前缀位数 {prefixBitCount} 不在 1..8 内（RFC 7541 §5.1）：请按表示的位数传 5（大小更新）、6/4（字面量的名字索引）或 7（索引与字符串长度）"
  else
    let prefixMaximumValue := 2 ^ prefixBitCount.toNat - 1
    let prefixMask := UInt8.ofNat prefixMaximumValue
    if firstByteHighBits &&& prefixMask ≠ 0 then
      .error s!"HPACK 整数表示的首字节模式位 0x{paddedHexText firstByteHighBits.toNat} 占用了低 {prefixBitCount} 位前缀（RFC 7541 §5.1）：请让模式位只出现在高 {8 - prefixBitCount.toNat} 位"
    else if value.toNat < prefixMaximumValue then
      .ok (out ++ [firstByteHighBits ||| UInt8.ofNat value.toNat])
    else
      .ok (appendHpackContinuation (out ++ [firstByteHighBits ||| prefixMask])
        (value.toNat - prefixMaximumValue))

def encodeHpackInteger (value : UInt64)
    (prefixBitCount firstByteHighBits : UInt8) : Except String Bytes :=
  appendHpackInteger [] value prefixBitCount firstByteHighBits

/-- The loop over the continuation bytes, in 64 bits. -/
def decodeHpackContinuation (value consumedByteCount shiftBitCount : Nat) :
    Bytes → Except String (Nat × Nat)
  | [] =>
    .error s!"HPACK 整数表示在续字节中间断开（已读 {consumedByteCount} 字节）：请检查对端是否截断了头块"
  | continuationByte :: rest =>
    let consumedByteCount := consumedByteCount + 1
    let payloadBits := continuationByte.toNat % 128
    if payloadBits > (2 ^ 64 - 1) >>> shiftBitCount then
      .error s!"HPACK 整数表示超出 64 位可表示的范围（RFC 7541 §5.1 的整数没有上限，实现必须自己设限）：已读 {consumedByteCount} 字节，请检查对端构造"
    else
      let value := (value + payloadBits <<< shiftBitCount) % 2 ^ 64
      if continuationByte < 0x80 then .ok (value, consumedByteCount)
      else
        let shiftBitCount := shiftBitCount + 7
        if shiftBitCount > 63 then
          .error s!"HPACK 整数表示的续字节超过 64 位可表示的范围（已读 {consumedByteCount} 字节）：请检查对端构造"
        else
          decodeHpackContinuation value consumedByteCount shiftBitCount rest

/-- The value with the bytes it takes, or the text of the error. -/
def decodeHpackInteger (bytes : Bytes) (prefixBitCount : UInt8) : Except String (Nat × Nat) :=
  if prefixBitCount < 1 ∨ prefixBitCount > 8 then
    .error s!"HPACK 整数表示的前缀位数 {prefixBitCount} 不在 1..8 内：请按表示的位数传 5、6、4 或 7"
  else
    match bytes with
    | [] =>
      .error "HPACK 整数表示缺少首字节：头块已到末尾，请检查对端是否截断了头块"
    | first :: rest =>
      let prefixMaximumValue := 2 ^ prefixBitCount.toNat - 1
      let value := first.toNat % 2 ^ prefixBitCount.toNat
      if value < prefixMaximumValue then .ok (value, 1)
      else decodeHpackContinuation value 1 0 rest

/-! ## The value of the bytes -/

/-- What continuation bytes count, and how many there are, once the last of
them is there. -/
def continuationValue : Bytes → Option (Nat × Nat)
  | [] => none
  | byte :: rest =>
    if byte < 0x80 then some (byte.toNat % 128, 1)
    else
      (continuationValue rest).map fun (value, byteCount) =>
        (byte.toNat % 128 + 128 * value, byteCount + 1)

/-- The exact value of a complete integer, and the bytes it takes. -/
def hpackIntegerValue (prefixBitCount : Nat) : Bytes → Option (Nat × Nat)
  | [] => none
  | first :: rest =>
    let low := first.toNat % 2 ^ prefixBitCount
    if low < 2 ^ prefixBitCount - 1 then some (low, 1)
    else
      (continuationValue rest).map fun (value, byteCount) =>
        (low + value, byteCount + 1)

/-- The decoder returns an integer exactly when it is complete, less than
2^64 and has at most ten continuation bytes, and then its exact value. -/
def AcceptsExactly (bytes : Bytes) (prefixBitCount : UInt8) : Prop :=
  (decodeHpackInteger bytes prefixBitCount).toOption =
    if 1 ≤ prefixBitCount ∧ prefixBitCount ≤ 8 then
      (hpackIntegerValue prefixBitCount.toNat bytes).filter
        fun (value, byteCount) => value < 2 ^ 64 ∧ byteCount ≤ 11
    else none

/-- The continuation bytes fit 64 bits, but not on top of the prefix. -/
def CarriesOut (bytes : Bytes) (prefixBitCount : UInt8) : Prop :=
  (1 ≤ prefixBitCount ∧ prefixBitCount ≤ 8) ∧ ∃ first rest value byteCount, bytes = first :: rest ∧
      first.toNat % 2 ^ prefixBitCount.toNat = 2 ^ prefixBitCount.toNat - 1 ∧
      continuationValue rest = some (value, byteCount) ∧ byteCount ≤ 10 ∧
      value < 2 ^ 64 ∧ 2 ^ 64 ≤ 2 ^ prefixBitCount.toNat - 1 + value

/-! ## Continuation bytes -/

theorem continuationValue_pos {bytes : Bytes} {value byteCount : Nat}
    (h : continuationValue bytes = some (value, byteCount)) : 0 < byteCount := by
  cases bytes with
  | nil => cases h
  | cons byte rest =>
    unfold continuationValue at h
    split at h
    · cases h
      exact one_pos
    obtain ⟨tail, _, htail⟩ := Option.map_eq_some_iff.mp h
    cases htail
    exact Nat.succ_pos _

theorem group_fits {low high place : Nat} (hlow : low < 128) (hplace : place ≤ 8) :
    (low + 128 * high) * 2 ^ (7 * place) < 2 ^ 64 ↔ high * 2 ^ (7 * (place + 1)) < 2 ^ 64 := by
  have hstep : 2 ^ (7 * (place + 1)) = 2 ^ (7 * place) * 128 := by
    rw [Nat.mul_succ, Nat.pow_add]
  have hroom : 2 ^ (7 * (place + 1)) * 2 ^ (64 - 7 * (place + 1)) = 2 ^ 64 := by
    rw [← Nat.pow_add, Nat.add_sub_cancel' (by omega)]
  have hpos : 0 < 2 ^ (7 * place) := Nat.two_pow_pos _
  constructor
  · intro h
    rw [hstep]
    have hle : high * (2 ^ (7 * place) * 128) ≤ (low + 128 * high) * 2 ^ (7 * place) := by
      rw [Nat.add_mul]
      have hsame : high * (2 ^ (7 * place) * 128) = 128 * high * 2 ^ (7 * place) := by ring
      omega
    exact lt_of_le_of_lt hle h
  intro h
  rw [← hroom, mul_comm high] at h
  have hnext : high + 1 ≤ 2 ^ (64 - 7 * (place + 1)) := Nat.lt_of_mul_lt_mul_left h
  calc (low + 128 * high) * 2 ^ (7 * place) < (128 * (high + 1)) * 2 ^ (7 * place) := by
        refine Nat.mul_lt_mul_of_pos_right ?_ hpos
        omega
    _ = 2 ^ (7 * (place + 1)) * (high + 1) := by rw [hstep]; ring
    _ ≤ 2 ^ (7 * (place + 1)) * 2 ^ (64 - 7 * (place + 1)) := Nat.mul_le_mul_left _ hnext
    _ = 2 ^ 64 := hroom

/-- The loop adds what the bytes count, modulo 2^64, if they count less than
2^64 and end before the shift does. -/
theorem decodeHpackContinuation_eq (bytes : Bytes)
    {value consumedByteCount place : Nat} (hplace : place ≤ 9) :
    (decodeHpackContinuation value consumedByteCount (7 * place) bytes).toOption =
      ((continuationValue bytes).filter fun (more, byteCount) =>
          place + byteCount ≤ 10 ∧ more * 2 ^ (7 * place) < 2 ^ 64).map
        fun (more, byteCount) =>
          ((value + more * 2 ^ (7 * place)) % 2 ^ 64, consumedByteCount + byteCount) := by
  induction bytes generalizing value consumedByteCount place with
  | nil => rfl
  | cons byte rest ih =>
    have hgroup : byte.toNat % 128 < 128 := Nat.mod_lt _ (by decide)
    have hguard : byte.toNat % 128 > (2 ^ 64 - 1) >>> (7 * place) ↔
        2 ^ 64 ≤ byte.toNat % 128 * 2 ^ (7 * place) := by
      rw [Nat.shiftRight_eq_div_pow, gt_iff_lt, Nat.div_lt_iff_lt_mul (Nat.two_pow_pos _)]
      omega
    unfold decodeHpackContinuation continuationValue
    simp only [hguard, Nat.shiftLeft_eq]
    by_cases hlast : byte < 0x80
    · split
      · next hover =>
        rw [Option.filter_some, if_neg (by simp; omega)]
        rfl
      rw [Option.filter_some, if_pos (by simp; omega)]
      rfl
    rw [if_neg hlast, if_neg hlast]
    cases hmore : continuationValue rest with
    | none =>
      rw [hmore] at ih
      split
      · rfl
      split
      · rfl
      · next hshift => exact @ih _ _ (place + 1) (by omega)
    | some tail =>
      obtain ⟨high, byteCount⟩ := tail
      have hpos := continuationValue_pos hmore
      rw [Option.map_some, Option.filter_some]
      by_cases hlate : place = 9
      · -- the shift has run out, and one more byte is too many
        have hmany : ¬place + (byteCount + 1) ≤ 10 := by omega
        simp only [hmany, false_and, decide_false, Bool.false_eq_true, if_false, Option.map_none]
        split
        · rfl
        · rw [if_pos (by omega)]
          rfl
      have hbelow : byte.toNat % 128 * 2 ^ (7 * place) < 2 ^ 64 :=
        calc byte.toNat % 128 * 2 ^ (7 * place) < 2 ^ 7 * 2 ^ (7 * place) :=
              Nat.mul_lt_mul_of_pos_right hgroup (Nat.two_pow_pos _)
          _ = 2 ^ (7 + 7 * place) := (Nat.pow_add _ _ _).symm
          _ ≤ 2 ^ 64 := Nat.pow_le_pow_right (by decide) (by omega)
      rw [if_neg (by omega), if_neg (by omega),
        show 7 * place + 7 = 7 * (place + 1) from rfl, ih (by omega), hmore,
        Option.filter_some]
      have hsame : (byte.toNat % 128 + 128 * high) * 2 ^ (7 * place) =
          byte.toNat % 128 * 2 ^ (7 * place) + high * 2 ^ (7 * (place + 1)) := by
        ring
      by_cases hfits : place + 1 + byteCount ≤ 10 ∧ high * 2 ^ (7 * (place + 1)) < 2 ^ 64
      · rw [if_pos (decide_eq_true hfits), if_pos (decide_eq_true ⟨by omega,
          (group_fits hgroup (by omega)).mpr hfits.2⟩)]
        simp only [Option.map_some, Nat.mod_add_mod, hsame]
        congr 2
        · congr 1
          omega
        · omega
      · have hover : ¬(place + (byteCount + 1) ≤ 10 ∧
            (byte.toNat % 128 + 128 * high) * 2 ^ (7 * place) < 2 ^ 64) :=
          fun h => hfits ⟨by omega, (group_fits hgroup (by omega)).mp h.2⟩
        rw [if_neg (mt of_decide_eq_true hfits), if_neg (mt of_decide_eq_true hover)]
        rfl

/-! ## The decoder -/

theorem decodeHpackInteger_toOption (first : UInt8) (rest : Bytes) {prefixBitCount : UInt8}
    (hvalid : 1 ≤ prefixBitCount ∧ prefixBitCount ≤ 8) :
    (decodeHpackInteger (first :: rest) prefixBitCount).toOption =
      let low := first.toNat % 2 ^ prefixBitCount.toNat
      if low < 2 ^ prefixBitCount.toNat - 1 then some (low, 1)
      else
        ((continuationValue rest).filter fun (value, byteCount) =>
          byteCount ≤ 10 ∧ value < 2 ^ 64).map fun (value, byteCount) =>
            ((low + value) % 2 ^ 64, 1 + byteCount) := by
  unfold decodeHpackInteger
  rw [if_neg (by rw [not_or, UInt8.not_lt, UInt8.not_lt]; exact hvalid)]
  dsimp only
  split
  · rfl
  have hloop := @decodeHpackContinuation_eq rest
    (first.toNat % 2 ^ prefixBitCount.toNat) 1 0 (Nat.zero_le 9)
  simpa using hloop

theorem acceptsExactly_iff (bytes : Bytes) (prefixBitCount : UInt8) :
    AcceptsExactly bytes prefixBitCount ↔ ¬CarriesOut bytes prefixBitCount := by
  unfold AcceptsExactly CarriesOut
  by_cases hvalid : 1 ≤ prefixBitCount ∧ prefixBitCount ≤ 8
  case neg =>
    refine iff_of_true ?_ fun h => hvalid h.1
    have hrefused : prefixBitCount < 1 ∨ prefixBitCount > 8 := by
      rwa [gt_iff_lt, ← UInt8.not_le, ← UInt8.not_le, ← not_and_or]
    unfold decodeHpackInteger
    rw [if_neg hvalid, if_pos hrefused]
    rfl
  cases bytes with
  | nil =>
    refine iff_of_true ?_ fun ⟨_, _, _, _, _, h, _⟩ => nomatch h
    unfold decodeHpackInteger
    split
    · rfl
    · rfl
  | cons first rest =>
    have hwidth : 2 ^ prefixBitCount.toNat ≤ 2 ^ 8 := Nat.pow_le_pow_right (by decide) hvalid.2
    have hlow : first.toNat % 2 ^ prefixBitCount.toNat <
        2 ^ prefixBitCount.toNat := Nat.mod_lt _ (Nat.two_pow_pos _)
    rw [decodeHpackInteger_toOption first rest hvalid, hpackIntegerValue]
    dsimp only
    split
    · next hshort =>
      refine iff_of_true ?_ ?_
      · rw [Option.filter_some, if_pos (by simp; omega)]
      rintro ⟨_, first', rest', _, _, heq, hfull, _⟩
      cases heq
      omega
    next hfull =>
    cases hvalue : continuationValue rest with
    | none =>
      refine iff_of_true rfl ?_
      rintro ⟨_, first', rest', _, _, heq, _, hsome, _⟩
      cases heq
      exact nomatch hvalue.symm.trans hsome
    | some tail =>
      obtain ⟨value, byteCount⟩ := tail
      rw [Option.map_some, Option.filter_some, Option.filter_some]
      by_cases hfits : byteCount ≤ 10 ∧ value < 2 ^ 64
      case neg =>
        refine iff_of_true ?_ ?_
        · rw [if_neg (mt of_decide_eq_true hfits), if_neg (by simp; omega)]
          rfl
        rintro ⟨_, _, _, _, _, heq, _, hsome, hcount, hvalue', _⟩
        cases heq
        cases hvalue.symm.trans hsome
        exact hfits ⟨hcount, hvalue'⟩
      rw [if_pos (decide_eq_true hfits), Option.map_some]
      by_cases hsum : first.toNat % 2 ^ prefixBitCount.toNat + value < 2 ^ 64
      · refine iff_of_true ?_ ?_
        · rw [if_pos (by simp; omega), Nat.mod_eq_of_lt hsum, add_comm 1]
        rintro ⟨_, _, _, _, _, heq, hfull', hsome, _, _, hover⟩
        cases heq
        cases hvalue.symm.trans hsome
        omega
      · refine iff_of_false ?_ (not_not.mpr ⟨hvalid, first, rest, value,
          byteCount, rfl, by omega, hvalue, hfits.1, hfits.2, by omega⟩)
        rw [if_neg (by simp; omega)]
        exact nofun

/-! ## The encoder -/

theorem appendHpackContinuation_eq (remainingValue : Nat) (out : Bytes) :
    ∃ groups, appendHpackContinuation out remainingValue = out ++ groups ∧
      (∀ rest, continuationValue (groups ++ rest) = some (remainingValue, groups.length)) ∧
      ∀ count, remainingValue < 128 ^ (count + 1) → groups.length ≤ count + 1 := by
  induction remainingValue using Nat.strongRecOn generalizing out with
  | ind remainingValue ih =>
  rw [appendHpackContinuation]
  split
  · next hlast =>
    refine ⟨_, rfl, fun rest => ?_, fun count _ => Nat.le_add_left _ _⟩
    have hbyte : (UInt8.ofNat remainingValue).toNat = remainingValue := by
      rw [UInt8.toNat_ofNat']
      omega
    show continuationValue (UInt8.ofNat remainingValue :: rest) = _
    rw [continuationValue, if_pos (by
        rw [UInt8.lt_iff_toNat_lt, hbyte]
        exact hlast),
      hbyte, Nat.mod_eq_of_lt hlast]
    rfl
  obtain ⟨groups, happend, hvalue, hcount⟩ := ih (remainingValue / 128)
    (by omega) (out ++ [UInt8.ofNat (remainingValue % 128 + 128)])
  rw [happend, List.append_assoc]
  have hbyte : (UInt8.ofNat (remainingValue % 128 + 128)).toNat = remainingValue % 128 + 128 := by
    rw [UInt8.toNat_ofNat']
    omega
  refine ⟨_, rfl, fun rest => ?_, fun count hfits => ?_⟩
  · show continuationValue (UInt8.ofNat (remainingValue % 128 + 128) :: (groups ++ rest)) = _
    rw [continuationValue, if_neg (by
        rw [UInt8.lt_iff_toNat_lt, hbyte]
        exact not_lt.mpr (Nat.le_add_left _ _)),
      hvalue rest, hbyte, Option.map_some]
    simp only [List.singleton_append, List.length_cons]
    congr 2
    omega
  · rw [List.singleton_append, List.length_cons]
    cases count with
    | zero => omega
    | succ count =>
      have hrest := hcount count (by
        exact Nat.div_lt_of_lt_mul (by rwa [mul_comm]))
      omega

theorem or_mod_two_pow {high : UInt8} {low width : Nat} (hlow : low < 2 ^ width)
    (hwidth : width ≤ 8) (hfree : high &&& UInt8.ofNat (2 ^ width - 1) = 0) :
    (high ||| UInt8.ofNat low).toNat % 2 ^ width = low := by
  have hbytes : 2 ^ width ≤ 2 ^ 8 := Nat.pow_le_pow_right (by decide) hwidth
  have hmask := congrArg UInt8.toNat hfree
  rw [UInt8.toNat_and, UInt8.toNat_ofNat', Nat.mod_eq_of_lt (by omega),
    Nat.and_two_pow_sub_one_eq_mod] at hmask
  have hfits : low < 2 ^ 8 := lt_of_lt_of_le hlow hbytes
  rw [UInt8.toNat_or, UInt8.toNat_ofNat', Nat.mod_eq_of_lt hfits,
    Nat.or_mod_two_pow, hmask, Nat.mod_eq_of_lt hlow]
  exact Nat.zero_or low

theorem decodeHpackInteger_encode (value : UInt64) {prefixBitCount firstByteHighBits : UInt8}
    (hvalid : 1 ≤ prefixBitCount ∧ prefixBitCount ≤ 8)
    (hfree : firstByteHighBits &&& UInt8.ofNat (2 ^ prefixBitCount.toNat - 1) = 0) :
    ∃ encoded, encodeHpackInteger value prefixBitCount firstByteHighBits = .ok encoded ∧
      ∀ rest, (decodeHpackInteger (encoded ++ rest) prefixBitCount).toOption =
        some (value.toNat, encoded.length) := by
  have hvalue := value.toNat_lt
  have hread := fun {low : Nat} (h : low < 2 ^ prefixBitCount.toNat) =>
    or_mod_two_pow h hvalid.2 hfree
  have hpos : 0 < 2 ^ prefixBitCount.toNat := Nat.two_pow_pos _
  unfold encodeHpackInteger appendHpackInteger
  rw [if_neg (by rw [not_or, UInt8.not_lt, UInt8.not_lt]; exact hvalid)]
  rw [if_neg (not_not.mpr hfree)]
  split
  · next hshort =>
    refine ⟨_, rfl, fun rest => ?_⟩
    show (decodeHpackInteger ((_ ||| UInt8.ofNat value.toNat) :: rest) prefixBitCount).toOption = _
    rw [decodeHpackInteger_toOption _ _ hvalid, hread (by omega)]
    exact if_pos hshort
  obtain ⟨groups, happend, hgroups, hcount⟩ := appendHpackContinuation_eq
    (value.toNat - (2 ^ prefixBitCount.toNat - 1))
    ([] ++ [firstByteHighBits ||| UInt8.ofNat (2 ^ prefixBitCount.toNat - 1)])
  have hten := hcount 9 (lt_of_lt_of_le
    (lt_of_le_of_lt (Nat.sub_le _ _) hvalue) (by decide))
  refine ⟨_, rfl, fun rest => ?_⟩
  rw [happend]
  show (decodeHpackInteger ((_ ||| UInt8.ofNat _) :: (groups ++ rest))
    prefixBitCount).toOption = some (_, groups.length + 1)
  rw [decodeHpackInteger_toOption _ _ hvalid, hread (by omega), hgroups]
  rw [if_neg (lt_irrefl _), Option.filter_some,
    if_pos (decide_eq_true ⟨hten, by omega⟩), Option.map_some]
  dsimp only
  rw [Nat.add_sub_cancel' (by omega), Nat.mod_eq_of_lt hvalue, add_comm 1]

/-- The decoder is exact except where the groups fit and their sum with the
prefix does not, and it reads back all that the encoder writes. -/
theorem decodeHpackInteger_exact_iff (bytes : Bytes) (prefixBitCount : UInt8) :
    (AcceptsExactly bytes prefixBitCount ↔ ¬CarriesOut bytes prefixBitCount) ∧
    ∀ (value : UInt64) (prefixBitCount firstByteHighBits : UInt8),
      1 ≤ prefixBitCount ∧ prefixBitCount ≤ 8 →
      firstByteHighBits &&& UInt8.ofNat (2 ^ prefixBitCount.toNat - 1) = 0 →
      ∃ encoded, encodeHpackInteger value prefixBitCount firstByteHighBits = .ok encoded ∧
        ∀ rest, (decodeHpackInteger (encoded ++ rest) prefixBitCount).toOption =
            some (value.toNat, encoded.length) :=
  ⟨acceptsExactly_iff bytes prefixBitCount, fun value _ _ hvalid hfree =>
    decodeHpackInteger_encode value hvalid hfree⟩

/-- 127 and then 2^64 - 1 more, in ten groups. -/
def wrappedInteger : Bytes := 0x7F :: List.replicate 9 0xFF ++ [0x01]

/-- It is read as 126. -/
theorem decodeHpackInteger_wraps : decodeHpackInteger wrappedInteger 7 = .ok (126, 11) ∧
      ¬AcceptsExactly wrappedInteger 7 := by
  unfold AcceptsExactly
  decide +kernel

end AsynGyanis.Http2
