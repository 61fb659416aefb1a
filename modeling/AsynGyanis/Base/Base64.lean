import AsynGyanis.Http.HeaderRules

/-!
# Base64 (RFC 4648)

Three bytes are four characters of six bits each. The encoder goes by such
groups; the decoder shifts six bits per character into an accumulator and takes
a byte out whenever it holds eight. The two meet at the group: behind four
characters the accumulator is empty again. The tail shapes are two characters
for one byte and three for two, and as the spare bits have to be zero each text
that is accepted is the one the encoder writes.
-/

namespace AsynGyanis.Base

open Http (Bytes asciiText)
open List

/-! ## The code -/

/-- Sixty-four characters, none of them the padding. -/
structure Base64Alphabet where
  characters : Bytes
  length_eq : characters.length = 64
  nodup : characters.Nodup
  not_padding : 0x3D ∉ characters

def kBase64Alphabet : Base64Alphabet where
  characters := asciiText "ABCDEFGHIJKLMNOPQRSTUVWXYZabcdefghijklmnopqrstuvwxyz0123456789+/"
  length_eq := by decide +kernel
  nodup := by decide +kernel
  not_padding := by decide +kernel

def kBase64UrlAlphabet : Base64Alphabet where
  characters := asciiText "ABCDEFGHIJKLMNOPQRSTUVWXYZabcdefghijklmnopqrstuvwxyz0123456789-_"
  length_eq := by decide +kernel
  nodup := by decide +kernel
  not_padding := by decide +kernel

def kMaximumBase64PaddingLength : Nat := 2

namespace Base64Alphabet

variable (alphabet : Base64Alphabet)

/-- The table of the decoder. -/
def value (character : UInt8) : Option Nat :=
  if character ∈ alphabet.characters then
    some (alphabet.characters.idxOf character)
  else none

/-- One of the four pieces of six bits of a group. -/
def character (groupValue piece : Nat) : UInt8 :=
  alphabet.characters.getD (groupValue / 64 ^ piece % 64) 0

/-- `padding` is the padding character, if there is one. -/
def encodeWithAlphabet (padding : Option UInt8) : Bytes → Bytes
  | first :: second :: third :: rest =>
    let groupValue :=
      first.toNat * 0x10000 + second.toNat * 0x100 + third.toNat
    alphabet.character groupValue 3 :: alphabet.character groupValue 2 ::
      alphabet.character groupValue 1 :: alphabet.character groupValue 0 ::
        encodeWithAlphabet padding rest
  | [first, second] =>
    let groupValue := first.toNat * 0x10000 + second.toNat * 0x100
    alphabet.character groupValue 3 :: alphabet.character groupValue 2 ::
      alphabet.character groupValue 1 :: padding.toList
  | [first] =>
    let groupValue := first.toNat * 0x10000
    alphabet.character groupValue 3 :: alphabet.character groupValue 2 ::
      (padding.toList ++ padding.toList)
  | [] => []

/-- The loop of the decoder: the bytes and what is left in the accumulator. -/
def decodeLoop : Bytes → Nat → Nat → Option (Bytes × Nat)
  | [], accumulator, _ => some ([], accumulator)
  | character :: rest, accumulator, bitCount =>
    match alphabet.value character with
    | none => none
    | some encodedValue =>
      let accumulator := accumulator * 64 + encodedValue
      if 8 ≤ bitCount + 6 then
        let bitCount := bitCount + 6 - 8
        (decodeLoop rest (accumulator % 2 ^ bitCount) bitCount).map fun read =>
          (UInt8.ofNat (accumulator / 2 ^ bitCount % 256) :: read.1, read.2)
      else decodeLoop rest accumulator (bitCount + 6)

def decodeWithAlphabet (maximumPaddingLength : Nat) (text : Bytes) : Option Bytes :=
  if text = [] then none
  else if text.length % 4 = 1 ∨ 0 < maximumPaddingLength ∧ text.length % 4 ≠ 0 then none
  else
    let paddingLength := ((text.reverse.take maximumPaddingLength).takeWhile (· = 0x3D)).length
    match alphabet.decodeLoop (text.take (text.length - paddingLength)) 0 0 with
    | some (decoded, accumulator) =>
      if accumulator ≠ 0 then none else some decoded
    | none => none

end Base64Alphabet

open Base64Alphabet

def base64Encode : Bytes → Bytes := kBase64Alphabet.encodeWithAlphabet (some 0x3D)

def base64Decode : Bytes → Option Bytes :=
  kBase64Alphabet.decodeWithAlphabet kMaximumBase64PaddingLength

def base64UrlEncode : Bytes → Bytes := kBase64UrlAlphabet.encodeWithAlphabet none

def base64UrlDecode : Bytes → Option Bytes := kBase64UrlAlphabet.decodeWithAlphabet 0

/-! ## Groups -/

namespace Base64Alphabet

variable {alphabet : Base64Alphabet}

theorem value_character {groupValue piece encodedValue : Nat}
    (h : groupValue / 64 ^ piece % 64 = encodedValue) :
    alphabet.value (alphabet.character groupValue piece) = some encodedValue := by
  have hlt : encodedValue < alphabet.characters.length := by
    rw [alphabet.length_eq, ← h]
    exact Nat.mod_lt _ (by decide)
  rw [character, h, getD_eq_getElem?_getD, getElem?_eq_getElem hlt,
    Option.getD_some, value, if_pos (getElem_mem hlt),
    alphabet.nodup.idxOf_getElem]

theorem character_value {character : UInt8} {encodedValue : Nat}
    (h : alphabet.value character = some encodedValue) :
    encodedValue < 64 ∧ ∀ {groupValue piece : Nat}, groupValue / 64 ^ piece % 64 = encodedValue →
        alphabet.character groupValue piece = character := by
  rw [value] at h
  split at h
  · next hmem =>
    cases h
    have hlt := idxOf_lt_length_of_mem hmem
    refine ⟨alphabet.length_eq ▸ hlt, fun heq => ?_⟩
    rw [Base64Alphabet.character, heq, getD_eq_getElem?_getD,
      getElem?_eq_getElem hlt, Option.getD_some, getElem_idxOf]
  · cases h

section Loop

variable {c1 c2 c3 c4 : UInt8} {a b c d : Nat} (rest : Bytes)

theorem decodeLoop_two (ha : alphabet.value c1 = some a) (hb : alphabet.value c2 = some b) :
    alphabet.decodeLoop (c1 :: c2 :: rest) 0 0 =
      (alphabet.decodeLoop rest (b % 16) 4).map fun read =>
        (UInt8.ofNat (a * 4 + b / 16) :: read.1, read.2) := by
  have ha64 := (character_value ha).1
  have hb64 := (character_value hb).1
  have hbyte : (a * 64 + b) / 2 ^ 4 % 256 = a * 4 + b / 16 := by omega
  have hleft : (a * 64 + b) % 2 ^ 4 = b % 16 := by omega
  simp only [decodeLoop, ha, hb, Nat.reduceLeDiff, Nat.reduceAdd, Nat.reduceSub,
    if_true, if_false, Nat.zero_mul, zero_add, hbyte, hleft]

theorem decodeLoop_three (hc : alphabet.value c3 = some c) (hb : b < 16) :
    alphabet.decodeLoop (c3 :: rest) b 4 = (alphabet.decodeLoop rest (c % 4) 2).map fun read =>
        (UInt8.ofNat (b * 16 + c / 4) :: read.1, read.2) := by
  have hc64 := (character_value hc).1
  have hbyte : (b * 64 + c) / 2 ^ 2 % 256 = b * 16 + c / 4 := by omega
  have hleft : (b * 64 + c) % 2 ^ 2 = c % 4 := by omega
  simp only [decodeLoop, hc, Nat.reduceLeDiff, Nat.reduceAdd, Nat.reduceSub, if_true, hbyte, hleft]

theorem decodeLoop_four (hd : alphabet.value c4 = some d) (hc : c < 4) :
    alphabet.decodeLoop (c4 :: rest) c 2 = (alphabet.decodeLoop rest 0 0).map fun read =>
        (UInt8.ofNat (c * 64 + d) :: read.1, read.2) := by
  have hd64 := (character_value hd).1
  have hbyte : (c * 64 + d) % 256 = c * 64 + d := by omega
  simp only [decodeLoop, hd, Nat.reduceLeDiff, Nat.reduceAdd, Nat.reduceSub,
    if_true, Nat.pow_zero, Nat.div_one, Nat.mod_one, hbyte]

end Loop

theorem decodeLoop_encode (bytes : Bytes) :
    alphabet.decodeLoop (alphabet.encodeWithAlphabet none bytes) 0 0 = some (bytes, 0) := by
  induction bytes using encodeWithAlphabet.induct with
  | case1 first second third rest ih =>
    rw [encodeWithAlphabet]
    generalize hgroup : first.toNat * 0x10000 + second.toNat * 0x100 + third.toNat = groupValue
    have h1 := first.toNat_lt
    have h2 := second.toNat_lt
    have h3 := third.toNat_lt
    rw [decodeLoop_two _ (value_character rfl) (value_character rfl),
      decodeLoop_three _ (value_character rfl) (by omega),
      decodeLoop_four _ (value_character rfl) (by omega), ih]
    have hfirst : groupValue / 64 ^ 3 % 64 * 4 + groupValue / 64 ^ 2 % 64 / 16 =
        first.toNat := by omega
    have hsecond : groupValue / 64 ^ 2 % 64 % 16 * 16 +
        groupValue / 64 ^ 1 % 64 / 4 = second.toNat := by omega
    have hthird : groupValue / 64 ^ 1 % 64 % 4 * 64 + groupValue / 64 ^ 0 % 64 =
        third.toNat := by omega
    rw [hfirst, hsecond, hthird]
    simp only [Option.map_some, UInt8.ofNat_toNat]
  | case2 first second =>
    rw [encodeWithAlphabet]
    generalize hgroup : first.toNat * 0x10000 + second.toNat * 0x100 = groupValue
    have h1 := first.toNat_lt
    have h2 := second.toNat_lt
    rw [decodeLoop_two _ (value_character rfl) (value_character rfl),
      decodeLoop_three _ (value_character rfl) (by omega)]
    have hfirst : groupValue / 64 ^ 3 % 64 * 4 + groupValue / 64 ^ 2 % 64 / 16 =
        first.toNat := by omega
    have hsecond : groupValue / 64 ^ 2 % 64 % 16 * 16 +
        groupValue / 64 ^ 1 % 64 / 4 = second.toNat := by omega
    have hspare : groupValue / 64 ^ 1 % 64 % 4 = 0 := by omega
    rw [hfirst, hsecond, hspare]
    simp [decodeLoop]
  | case3 first =>
    rw [encodeWithAlphabet]
    generalize hgroup : first.toNat * 0x10000 = groupValue
    have h1 := first.toNat_lt
    rw [decodeLoop_two _ (value_character rfl) (value_character rfl)]
    have hfirst : groupValue / 64 ^ 3 % 64 * 4 + groupValue / 64 ^ 2 % 64 / 16 =
        first.toNat := by omega
    have hspare : groupValue / 64 ^ 2 % 64 % 16 = 0 := by omega
    rw [hfirst, hspare]
    simp [decodeLoop]
  | case4 => rfl

theorem values_of_decodeLoop {data : Bytes} {accumulator bitCount : Nat} {read : Bytes × Nat}
    (h : alphabet.decodeLoop data accumulator bitCount = some read) :
    ∀ character ∈ data, ∃ v, alphabet.value character = some v := by
  induction data generalizing accumulator bitCount read with
  | nil => exact nofun
  | cons first rest ih =>
    rw [decodeLoop] at h
    cases hvalue : alphabet.value first with
    | none =>
      rw [hvalue] at h
      cases h
    | some encodedValue =>
      rw [hvalue] at h
      refine forall_mem_cons.mpr ⟨⟨_, hvalue⟩, ?_⟩
      dsimp only at h
      split at h
      · obtain ⟨read', hread, -⟩ := Option.map_eq_some_iff.mp h
        exact ih hread
      · exact ih h

theorem encode_of_decodeLoop : ∀ {data bytes : Bytes},
    alphabet.decodeLoop data 0 0 = some (bytes, 0) → data.length % 4 ≠ 1 →
      alphabet.encodeWithAlphabet none bytes = data
  | [], _, h, _ => by
    cases h
    rfl
  | [_], _, _, hlength => absurd rfl hlength
  | [c1, c2], _, h, _ => by
    have hvalues := values_of_decodeLoop h
    simp only [forall_mem_cons] at hvalues
    obtain ⟨⟨a, ha⟩, ⟨b, hb⟩, -⟩ := hvalues
    rw [decodeLoop_two _ ha hb, decodeLoop] at h
    simp only [Option.map_some, Option.some.injEq, Prod.mk.injEq] at h
    obtain ⟨rfl, hspare⟩ := h
    obtain ⟨ha64, hc1⟩ := character_value ha
    obtain ⟨hb64, hc2⟩ := character_value hb
    rw [encodeWithAlphabet, UInt8.toNat_ofNat_of_lt' (show _ < 256 by omega), hc1 (by omega),
      hc2 (by omega)]
    rfl
  | [c1, c2, c3], _, h, _ => by
    have hvalues := values_of_decodeLoop h
    simp only [forall_mem_cons] at hvalues
    obtain ⟨⟨a, ha⟩, ⟨b, hb⟩, ⟨c, hc⟩, -⟩ := hvalues
    rw [decodeLoop_two _ ha hb, decodeLoop_three _ hc (by omega), decodeLoop] at h
    simp only [Option.map_some, Option.some.injEq, Prod.mk.injEq] at h
    obtain ⟨rfl, hspare⟩ := h
    obtain ⟨ha64, hc1⟩ := character_value ha
    obtain ⟨hb64, hc2⟩ := character_value hb
    obtain ⟨hc64, hc3⟩ := character_value hc
    rw [encodeWithAlphabet, UInt8.toNat_ofNat_of_lt' (show _ < 256 by omega),
      UInt8.toNat_ofNat_of_lt' (show _ < 256 by omega), hc1 (by omega), hc2 (by omega),
      hc3 (by omega)]
    rfl
  | c1 :: c2 :: c3 :: c4 :: rest, _, h, hlength => by
    have hvalues := values_of_decodeLoop h
    simp only [forall_mem_cons] at hvalues
    obtain ⟨⟨a, ha⟩, ⟨b, hb⟩, ⟨c, hc⟩, ⟨d, hd⟩, -⟩ := hvalues
    rw [decodeLoop_two _ ha hb, decodeLoop_three _ hc (by omega),
      decodeLoop_four _ hd (by omega)] at h
    simp only [Option.map_eq_some_iff, Prod.mk.injEq, Prod.exists] at h
    obtain ⟨_, _, ⟨_, _, ⟨bytes, _, hrest, rfl, rfl⟩, rfl, rfl⟩, rfl, rfl⟩ := h
    obtain ⟨ha64, hc1⟩ := character_value ha
    obtain ⟨hb64, hc2⟩ := character_value hb
    obtain ⟨hc64, hc3⟩ := character_value hc
    obtain ⟨hd64, hc4⟩ := character_value hd
    have hshorter : rest.length % 4 ≠ 1 := by
      rw [length_cons, length_cons, length_cons, length_cons] at hlength
      omega
    rw [encodeWithAlphabet, UInt8.toNat_ofNat_of_lt' (show _ < 256 by omega),
      UInt8.toNat_ofNat_of_lt' (show _ < 256 by omega), UInt8.toNat_ofNat_of_lt' (show _ < 256 by omega),
      hc1 (by omega), hc2 (by omega), hc3 (by omega), hc4 (by omega),
      encode_of_decodeLoop hrest hshorter]

/-! ## Padding -/

theorem encode_padded (padding : UInt8) (bytes : Bytes) : ∃ count ≤ 2,
    alphabet.encodeWithAlphabet (some padding) bytes =
        alphabet.encodeWithAlphabet none bytes ++ replicate count padding ∧
      ((alphabet.encodeWithAlphabet none bytes).length + count) % 4 = 0 := by
  induction bytes using encodeWithAlphabet.induct with
  | case1 first second third rest ih =>
    obtain ⟨count, hcount, heq, hmod⟩ := ih
    refine ⟨count, hcount, ?_, ?_⟩
    · rw [encodeWithAlphabet, encodeWithAlphabet, heq]
      rfl
    · rw [encodeWithAlphabet]
      simp only [length_cons]
      omega
  | case2 first second => exact ⟨1, by decide, rfl, by simp [encodeWithAlphabet]⟩
  | case3 first => exact ⟨2, by decide, rfl, by simp [encodeWithAlphabet]⟩
  | case4 => exact ⟨0, by decide, rfl, rfl⟩

theorem not_mem_of_decodeLoop {data : Bytes} {read : Bytes × Nat}
    (h : alphabet.decodeLoop data 0 0 = some read) : 0x3D ∉ data := by
  intro hmem
  obtain ⟨encodedValue, hvalue⟩ := values_of_decodeLoop h _ hmem
  rw [value, if_neg alphabet.not_padding] at hvalue
  cases hvalue

theorem encode_eq_nil_iff {bytes : Bytes} :
    alphabet.encodeWithAlphabet none bytes = [] ↔ bytes = [] := by
  refine ⟨fun h => ?_, fun h => by rw [h]; rfl⟩
  have hread := @decodeLoop_encode alphabet bytes
  rw [h] at hread
  cases hread
  rfl

theorem paddingLength_append {data : Bytes} (h : 0x3D ∉ data) {count limit : Nat}
    (hcount : count ≤ limit) :
    (((data ++ replicate count 0x3D).reverse.take limit).takeWhile (· = 0x3D)).length = count := by
  have hnone : (data.reverse.take (limit - count)).takeWhile (· = 0x3D) = [] := by
    rw [takeWhile_eq_nil_iff]
    intro hpos hequal
    rw [decide_eq_true_iff] at hequal
    exact h (mem_reverse.mp (mem_of_mem_take (hequal ▸ get_mem _ _)))
  rw [reverse_append, reverse_replicate, take_append, take_replicate,
    length_replicate, min_eq_right hcount, takeWhile_append_of_pos,
    length_append, length_replicate, hnone]
  · rfl
  · intro character hmem
    exact decide_eq_true (eq_of_mem_replicate hmem)

theorem exists_padding (text : Bytes) (limit : Nat) : ∃ data count,
    text = data ++ replicate count 0x3D ∧ count ≤ limit ∧
      ((text.reverse.take limit).takeWhile (· = 0x3D)).length = count := by
  generalize hrun : (text.reverse.take limit).takeWhile (· = 0x3D) = run
  obtain ⟨rest, hrest⟩ : run <+: text.reverse :=
    hrun ▸ ( takeWhile_prefix _).trans ( take_prefix _ _)
  have hall : run = replicate run.length 0x3D := eq_replicate_of_mem fun character hmem => by
      rw [← hrun] at hmem
      have hequal := mem_takeWhile_imp hmem
      exact of_decide_eq_true hequal
  refine ⟨rest.reverse, run.length, ?_, ?_, rfl⟩
  · rw [← reverse_replicate, ← hall, ← reverse_append, hrest, reverse_reverse]
  · rw [← hrun]
    exact ( takeWhile_prefix _).length_le.trans (length_take_le _ _)

theorem decodeWithAlphabet_iff {limit : Nat} (hlimit : limit ≤ 2) {text bytes : Bytes} :
    alphabet.decodeWithAlphabet limit text = some bytes ↔
      text ≠ [] ∧ text.length % 4 ≠ 1 ∧ (0 < limit → text.length % 4 = 0) ∧ ∃ count ≤ limit, text =
          alphabet.encodeWithAlphabet none bytes ++ replicate count 0x3D := by
  constructor
  · intro h
    obtain ⟨data, count, htext, hcount, hlength⟩ := exists_padding text limit
    have hdata : text.take (text.length - count) = data := by
      rw [htext, length_append, length_replicate, Nat.add_sub_cancel, take_left]
    rw [decodeWithAlphabet] at h
    dsimp only at h
    rw [hlength, hdata] at h
    split at h
    · cases h
    next hne =>
    split at h
    · cases h
    next hcond =>
    split at h
    · next decoded accumulator hread =>
      split at h
      · cases h
      next hzero =>
      injection h with h
      rw [not_not.mp hzero, h] at hread
      have htotal := congrArg length htext
      rw [length_append, length_replicate] at htotal
      refine ⟨hne, by omega, fun hpos => by omega, count, hcount, ?_⟩
      rw [encode_of_decodeLoop hread (by omega), htext]
    · cases h
  · rintro ⟨hne, hone, hmod, count, hcount, rfl⟩
    have hread := @decodeLoop_encode alphabet bytes
    rw [decodeWithAlphabet, if_neg hne, if_neg (by omega)]
    dsimp only
    rw [paddingLength_append (not_mem_of_decodeLoop hread) hcount, length_append,
      length_replicate, Nat.add_sub_cancel, take_left, hread]
    rfl

end Base64Alphabet

/-- A text is accepted exactly when it is the encoding of some bytes, which are
then the ones it is decoded to. -/
theorem base64_strict :
    (∀ text bytes, base64Decode text = some bytes ↔ bytes ≠ [] ∧ text = base64Encode bytes) ∧
    (∀ text bytes, base64UrlDecode text = some bytes ↔
      bytes ≠ [] ∧ text = base64UrlEncode bytes) := by
  constructor
  · intro text bytes
    obtain ⟨count, hcount, hpadded, hmod⟩ := @encode_padded kBase64Alphabet 0x3D bytes
    rw [base64Decode, decodeWithAlphabet_iff (by decide), base64Encode, hpadded]
    constructor
    · rintro ⟨hne, -, hlength, count', hcount', rfl⟩
      have htotal := hlength (by decide)
      rw [length_append, length_replicate] at htotal
      rw [kMaximumBase64PaddingLength] at hcount'
      obtain rfl : count' = count := by omega
      refine ⟨fun hnil => hne ?_, rfl⟩
      rw [encode_eq_nil_iff.mpr hnil, length_nil] at hmod
      rw [encode_eq_nil_iff.mpr hnil, show count' = 0 by omega]
      rfl
    · rintro ⟨hne, rfl⟩
      rw [length_append, length_replicate]
      exact ⟨fun hnil => hne (encode_eq_nil_iff.mp (append_eq_nil_iff.mp hnil).1),
        by omega, fun _ => hmod, count, hcount, rfl⟩
  · intro text bytes
    obtain ⟨count, hcount, -, hmod⟩ := @encode_padded kBase64UrlAlphabet 0x3D bytes
    rw [base64UrlDecode, decodeWithAlphabet_iff (by decide), base64UrlEncode]
    constructor
    · rintro ⟨hne, -, -, count', hcount', rfl⟩
      obtain rfl : count' = 0 := by omega
      rw [replicate_zero, append_nil] at hne ⊢
      exact ⟨fun hnil => hne (encode_eq_nil_iff.mpr hnil), rfl⟩
    · rintro ⟨hne, rfl⟩
      exact ⟨fun hnil => hne (encode_eq_nil_iff.mp hnil), by omega, nofun, 0,
        by decide, (append_nil _).symm⟩

end AsynGyanis.Base
