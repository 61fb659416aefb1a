import Mathlib

/-!
# Numbers in network order

A fixed width field holds a number most significant byte first. Writing is
one shift a byte and reading folds the bytes back; together they keep the
number modulo the power of 256 the field has room for, and that is all a
round trip needs to know: `ofBigEndian_toBigEndian`. In the other direction
every field is what writing its own value gives, `toBigEndian_ofBigEndian`.
-/

namespace AsynGyanis.Library

open List

/-- The low `width` bytes of a number, the most significant first. -/
def toBigEndian (width value : Nat) : List UInt8 := (List.range width).map fun index =>
    UInt8.ofNat (value >>> ((width - 1 - index) * 8))

/-- Bytes appended to a number. -/
def foldBigEndian (value : Nat) (bytes : List UInt8) : Nat :=
  bytes.foldl (fun value byte => value <<< 8 ||| byte.toNat) value

def ofBigEndian (bytes : List UInt8) : Nat := foldBigEndian 0 bytes

@[simp] theorem length_toBigEndian (width value : Nat) :
    (toBigEndian width value).length = width := by
  simp [toBigEndian]

theorem toBigEndian_succ (width value : Nat) : toBigEndian (width + 1) value =
      UInt8.ofNat (value >>> (width * 8)) :: toBigEndian width value := by
  unfold toBigEndian
  rw [range_succ_eq_map, map_cons, map_map]
  refine congrArg₂ cons (by simp) ?_
  refine map_congr_left fun index _ => ?_
  simp only [Function.comp_apply]
  congr 3
  omega

theorem foldBigEndian_cons (value : Nat) (byte : UInt8) (rest : List UInt8) :
    foldBigEndian value (byte :: rest) = foldBigEndian (value * 256 + byte.toNat) rest := by
  unfold foldBigEndian
  rw [foldl_cons, ← Nat.shiftLeft_add_eq_or_of_lt (i := 8) byte.toNat_lt, Nat.shiftLeft_eq]

theorem foldBigEndian_eq (value : Nat) (bytes : List UInt8) : foldBigEndian value bytes =
      value * 256 ^ bytes.length + ofBigEndian bytes := by
  unfold ofBigEndian
  induction bytes generalizing value with
  | nil => simp [foldBigEndian]
  | cons byte rest ih =>
    rw [foldBigEndian_cons, foldBigEndian_cons, ih, ih (0 * 256 + _), length_cons]
    ring

theorem ofBigEndian_cons (byte : UInt8) (rest : List UInt8) : ofBigEndian (byte :: rest) =
      byte.toNat * 256 ^ rest.length + ofBigEndian rest := by
  rw [ofBigEndian, foldBigEndian_cons, foldBigEndian_eq]
  simp

theorem ofBigEndian_lt (bytes : List UInt8) : ofBigEndian bytes < 256 ^ bytes.length := by
  induction bytes with
  | nil => simp [ofBigEndian, foldBigEndian]
  | cons byte rest ih =>
    rw [ofBigEndian_cons, length_cons, Nat.pow_succ]
    have hbyte : byte.toNat + 1 ≤ 256 := byte.toNat_lt
    calc byte.toNat * 256 ^ rest.length + ofBigEndian rest
        < (byte.toNat + 1) * 256 ^ rest.length := by
          rw [Nat.succ_mul]
          omega
      _ ≤ 256 ^ rest.length * 256 := by
          rw [Nat.mul_comm]
          exact Nat.mul_le_mul_left _ hbyte

theorem ofBigEndian_toBigEndian (width value : Nat) :
    ofBigEndian (toBigEndian width value) = value % 256 ^ width := by
  induction width with
  | zero => simp [toBigEndian, ofBigEndian, foldBigEndian, Nat.mod_one]
  | succ width ih =>
    rw [toBigEndian_succ, ofBigEndian_cons, ih, length_toBigEndian,
      Nat.pow_succ, Nat.mod_mul, Nat.shiftRight_eq_div_pow,
      Nat.mul_comm width 8, Nat.pow_mul]
    have hbyte : (UInt8.ofNat (value / (2 ^ 8) ^ width)).toNat = value / 256 ^ width % 256 := by
      simp
    rw [hbyte]
    ring

theorem toBigEndian_inj {width a b : Nat} (ha : a < 256 ^ width)
    (hb : b < 256 ^ width) (h : toBigEndian width a = toBigEndian width b) : a = b := by
  have h := congrArg ofBigEndian h
  rwa [ofBigEndian_toBigEndian, ofBigEndian_toBigEndian,
    Nat.mod_eq_of_lt ha, Nat.mod_eq_of_lt hb] at h

theorem toBigEndian_mod (width value : Nat) :
    toBigEndian width (value % 256 ^ width) = toBigEndian width value := by
  refine map_congr_left fun index hindex => ?_
  have hindex := mem_range.mp hindex
  obtain ⟨above, rfl⟩ : ∃ above, width = above + 1 + index := ⟨width - 1 - index, by omega⟩
  rw [show above + 1 + index - 1 - index = above by omega,
    Nat.shiftRight_eq_div_pow, Nat.shiftRight_eq_div_pow,
    Nat.mul_comm above 8, Nat.pow_mul,
    show (2 : Nat) ^ 8 = 256 by norm_num,
    show 256 ^ (above + 1 + index) = 256 ^ above * 256 * 256 ^ index by ring,
    Nat.mul_assoc, Nat.mod_mul_right_div_self]
  apply UInt8.toNat_inj.mp
  simp

theorem toBigEndian_ofBigEndian (bytes : List UInt8) :
    toBigEndian bytes.length (ofBigEndian bytes) = bytes := by
  induction bytes with
  | nil => rfl
  | cons byte rest ih =>
    have hhead : (byte.toNat * 256 ^ rest.length + ofBigEndian rest) >>>
        (rest.length * 8) = byte.toNat := by
      rw [Nat.shiftRight_eq_div_pow, Nat.mul_comm rest.length 8,
        Nat.pow_mul, show (2 : Nat) ^ 8 = 256 by norm_num, Nat.mul_comm,
        Nat.mul_add_div (Nat.pow_pos (by norm_num)),
        Nat.div_eq_of_lt (ofBigEndian_lt rest), Nat.add_zero]
    have htail : toBigEndian rest.length
        (byte.toNat * 256 ^ rest.length + ofBigEndian rest) = rest := by
      rw [← toBigEndian_mod, Nat.mul_comm, Nat.mul_add_mod, toBigEndian_mod, ih]
    rw [length_cons, toBigEndian_succ, ofBigEndian_cons, hhead, htail]
    simp

end AsynGyanis.Library
