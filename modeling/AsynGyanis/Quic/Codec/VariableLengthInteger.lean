import AsynGyanis.Library.BigEndian

/-!
# QUIC variable-length integers (RFC 9000 §16)

The two high bits of the first byte give the width, one, two, four or
eight bytes, and the rest is the value in network order. The encoder
always takes the narrowest width that fits, so the number of bytes is a
function of the value alone, `quicVariableLengthIntegerByteCount`, and
every size estimate of the send path is built from that function. A value
past 2^62 - 1 has no encoding: the count is 0 and the encoder throws.

The decoder takes any width, the narrowest or not, so reading back what was
written gives the value and its width (`decodeQuicVariableLengthInteger_append`)
while the converse holds of the value only.
-/

namespace AsynGyanis.Quic

open Library

abbrev Bytes := List UInt8

def kQuicMaximumIntegerValue : Nat := 2 ^ 62 - 1

def kQuicMaximumStreamLimitValue : Nat := 2 ^ 60

def kQuicMaximumOneByteIntegerValue : Nat := 63

def kQuicMaximumTwoByteIntegerValue : Nat := 16383

def kQuicMaximumFourByteIntegerValue : Nat := 1073741823

def quicVariableLengthIntegerByteCount (value : Nat) : Nat :=
  if value ≤ kQuicMaximumOneByteIntegerValue then 1
  else if value ≤ kQuicMaximumTwoByteIntegerValue then 2
  else if value ≤ kQuicMaximumFourByteIntegerValue then 4
  else if value ≤ kQuicMaximumIntegerValue then 8
  else 0

/-- The first byte's prefix: the base-2 logarithm of the width, in the two
high bits. -/
def quicLengthPrefix (byteWidth : Nat) : UInt8 :=
  match byteWidth with
  | 2 => 0x40
  | 4 => 0x80
  | 8 => 0xc0
  | _ => 0

/-- The message of the exception an encoder throws. -/
abbrev InvalidArgument := String

inductive QuicDecodeErrorKind
  | truncated
  | malformed
  deriving DecidableEq, Repr

/-- What a decoder answers instead of a value. -/
structure QuicDecodeError where
  kind : QuicDecodeErrorKind
  message : String
  deriving DecidableEq, Repr

/-- `appendQuicVariableLengthInteger`: the buffer with the value appended,
or the exception for a value no width can hold. -/
def appendQuicVariableLengthInteger (bytes : Bytes) (value : Nat) : Except InvalidArgument Bytes :=
  let byteWidth := quicVariableLengthIntegerByteCount value
  if byteWidth = 0 then
    .error s!"值 {value} 超过 QUIC 变长整数的上限 {kQuicMaximumIntegerValue}（2^62-1，RFC 9000 §16 表 4）：这个量级的数值在本协议里没有合法编码，请在写入前先把它压进上限之内"
  else
    let encoded := (List.range byteWidth).map fun byteIndex =>
      UInt8.ofNat (value >>> ((byteWidth - 1 - byteIndex) * 8))
    .ok (bytes ++ encoded.modifyHead (· ||| quicLengthPrefix byteWidth))

variable {value : Nat}

theorem appendQuicVariableLengthInteger_length {bytes out : Bytes}
    (h : appendQuicVariableLengthInteger bytes value = .ok out) :
    out.length = bytes.length + quicVariableLengthIntegerByteCount value := by
  simp only [appendQuicVariableLengthInteger] at h
  split at h
  · cases h
  injection h with h
  subst h
  simp

theorem quicVariableLengthIntegerByteCount_le (value : Nat) :
    quicVariableLengthIntegerByteCount value ≤ 8 := by
  unfold quicVariableLengthIntegerByteCount
  repeat' split
  all_goals omega

/-- Below the maximum the count is never 0, so the encoder succeeds. -/
theorem quicVariableLengthIntegerByteCount_pos (h : value ≤ kQuicMaximumIntegerValue) :
    0 < quicVariableLengthIntegerByteCount value := by
  unfold quicVariableLengthIntegerByteCount
  repeat' split
  all_goals omega

theorem quicVariableLengthIntegerByteCount_mono {a b : Nat} (h : a ≤ b)
    (hb : b ≤ kQuicMaximumIntegerValue) :
    quicVariableLengthIntegerByteCount a ≤ quicVariableLengthIntegerByteCount b := by
  unfold quicVariableLengthIntegerByteCount
  repeat' split
  all_goals omega

example : appendQuicVariableLengthInteger [] 494878333 = .ok [0x9d, 0x7f, 0x3e, 0x7d] := by decide

/-! ## Decoding -/

structure QuicDecodedInteger where
  value : Nat
  byteCount : Nat
  deriving DecidableEq, Repr

/-- `{:02X}`. -/
def upperHexByteText (byte : UInt8) : String :=
  String.ofList ([byte.toNat / 16, byte.toNat % 16].map fun digit =>
    (Nat.digitChar digit).toUpper)

def decodeQuicVariableLengthInteger (bytes : Bytes) : Except QuicDecodeError QuicDecodedInteger :=
  match bytes with
  | [] =>
    .error ⟨.truncated, "变长整数至少需要 1 个字节，当前一个字节都没有：请确认确实还有数据要解"⟩
  | first :: rest =>
    let byteWidth := 1 <<< (first.toNat >>> 6)
    if rest.length + 1 < byteWidth then
      .error ⟨.truncated, s!"变长整数的首字节 0x{upperHexByteText first} 声明本数占 {byteWidth} 字节，但只剩 {rest.length + 1} 字节：报文在此处断了，本包只能整包丢弃"⟩
    else
      .ok
        { value := foldBigEndian (first &&& 0x3F).toNat (rest.take (byteWidth - 1))
          byteCount := byteWidth }

/-- The bytes a value is written with. -/
def quicIntegerBytes (value : Nat) : Bytes :=
  let byteWidth := quicVariableLengthIntegerByteCount value
  (toBigEndian byteWidth value).modifyHead (· ||| quicLengthPrefix byteWidth)

theorem appendQuicVariableLengthInteger_eq (h : value ≤ kQuicMaximumIntegerValue) (bytes : Bytes) :
    appendQuicVariableLengthInteger bytes value = .ok (bytes ++ quicIntegerBytes value) := by
  have hpos := quicVariableLengthIntegerByteCount_pos h
  unfold appendQuicVariableLengthInteger
  rw [if_neg (by omega)]
  rfl

@[simp] theorem length_quicIntegerBytes (value : Nat) :
    (quicIntegerBytes value).length = quicVariableLengthIntegerByteCount value := by
  simp [quicIntegerBytes]

/-- The two high bits are free for the prefix, and come off again. -/
theorem firstByte_or_quicLengthPrefix {exponent high : Nat}
    (hexponent : exponent < 4) (hhigh : high < 64) :
    (UInt8.ofNat high ||| quicLengthPrefix (2 ^ exponent)).toNat >>> 6 = exponent ∧
      ((UInt8.ofNat high ||| quicLengthPrefix (2 ^ exponent)) &&& 0x3F).toNat =
        high := by
  have hall : ∀ exponent : Fin 4, ∀ high : Fin 64,
      (UInt8.ofNat high ||| quicLengthPrefix (2 ^ (exponent : Nat))).toNat >>> 6 = exponent ∧
        ((UInt8.ofNat high ||| quicLengthPrefix (2 ^ (exponent : Nat))) &&& 0x3F).toNat = high := by
    decide +kernel
  exact hall ⟨exponent, hexponent⟩ ⟨high, hhigh⟩

/-- The width is a power of two, and leaves the prefix its two bits. -/
theorem quicVariableLengthIntegerByteCount_eq_pow (h : value ≤ kQuicMaximumIntegerValue) :
    ∃ exponent < 4, quicVariableLengthIntegerByteCount value = 2 ^ exponent ∧
      value / 256 ^ (2 ^ exponent - 1) < 64 := by
  unfold kQuicMaximumIntegerValue at h
  unfold quicVariableLengthIntegerByteCount kQuicMaximumOneByteIntegerValue
    kQuicMaximumTwoByteIntegerValue kQuicMaximumFourByteIntegerValue
    kQuicMaximumIntegerValue
  split
  · exact ⟨0, by decide, rfl, by simp only [Nat.reducePow, Nat.reduceSub]; omega⟩
  split
  · exact ⟨1, by decide, rfl, by simp only [Nat.reducePow, Nat.reduceSub]; omega⟩
  split
  · exact ⟨2, by decide, rfl,
      by simp only [Nat.reducePow, Nat.reduceSub]; omega⟩
  · exact ⟨3, by decide, rfl,
      by simp only [Nat.reducePow, Nat.reduceSub]; omega⟩

theorem decodeQuicVariableLengthInteger_append
    (h : value ≤ kQuicMaximumIntegerValue) (rest : Bytes) :
    decodeQuicVariableLengthInteger (quicIntegerBytes value ++ rest) =
      .ok ⟨value, quicVariableLengthIntegerByteCount value⟩ := by
  obtain ⟨exponent, hexponent, hwidth, hhigh⟩ := quicVariableLengthIntegerByteCount_eq_pow h
  obtain ⟨below, hbelow⟩ : ∃ below, 2 ^ exponent = below + 1 :=
    ⟨2 ^ exponent - 1, by have := Nat.two_pow_pos exponent; omega⟩
  rw [hbelow, Nat.add_sub_cancel] at hhigh
  have hshift : value >>> (below * 8) = value / 256 ^ below := by
    rw [Nat.shiftRight_eq_div_pow, Nat.mul_comm, Nat.pow_mul]
  obtain ⟨hlog, hlow⟩ := firstByte_or_quicLengthPrefix hexponent hhigh
  rw [hbelow] at hlog hlow
  have hbytes : quicIntegerBytes value ++ rest =
      (UInt8.ofNat (value / 256 ^ below) ||| quicLengthPrefix (below + 1)) ::
        (toBigEndian below value ++ rest) := by
    unfold quicIntegerBytes
    simp only
    rw [hwidth, hbelow, toBigEndian_succ, hshift]
    rfl
  rw [hbytes]
  unfold decodeQuicVariableLengthInteger
  simp only
  rw [hlog, hlow, Nat.one_shiftLeft, hbelow, hwidth, hbelow, if_neg (by simp), Nat.add_sub_cancel,
    List.take_left' (length_toBigEndian below value), foldBigEndian_eq,
    length_toBigEndian, ofBigEndian_toBigEndian, Nat.mul_comm,
    Nat.div_add_mod]

theorem decodeQuicVariableLengthInteger_spec {bytes : Bytes} {decoded : QuicDecodedInteger}
    (h : decodeQuicVariableLengthInteger bytes = .ok decoded) :
    decoded.value ≤ kQuicMaximumIntegerValue ∧ 0 < decoded.byteCount ∧
      decoded.byteCount ≤ bytes.length := by
  unfold decodeQuicVariableLengthInteger at h
  cases bytes with
  | nil => cases h
  | cons first rest =>
    simp only at h
    split at h
    · cases h
    injection h with h
    subst h
    have hwidth : 1 <<< (first.toNat >>> 6) = 1 ∨
        1 <<< (first.toNat >>> 6) = 2 ∨ 1 <<< (first.toNat >>> 6) = 4 ∨
          1 <<< (first.toNat >>> 6) = 8 := by
      have hall : ∀ byte : Fin 256, 1 <<< (byte.val >>> 6) = 1 ∨
          1 <<< (byte.val >>> 6) = 2 ∨ 1 <<< (byte.val >>> 6) = 4 ∨ 1 <<< (byte.val >>> 6) = 8 := by
        decide +kernel
      exact hall ⟨first.toNat, first.toNat_lt⟩
    have hhigh : (first &&& 0x3F).toNat ≤ 63 := by
      exact Nat.and_le_right
    refine ⟨?_, by simp only; omega, by simp only [List.length_cons]; omega⟩
    rw [foldBigEndian_eq, List.length_take, Nat.min_eq_left (by omega)]
    have hbelow := ofBigEndian_lt (rest.take (1 <<< (first.toNat >>> 6) - 1))
    rw [List.length_take, Nat.min_eq_left (by omega)] at hbelow
    unfold kQuicMaximumIntegerValue
    rcases hwidth with hwidth | hwidth | hwidth | hwidth
    all_goals
      rw [hwidth] at hbelow ⊢
      simp only [Nat.reducePow, Nat.reduceSub] at hbelow ⊢
      omega

end AsynGyanis.Quic
