import Mathlib

/-!
# UTF-8 in text messages (RFC 3629)

A text message has to be UTF-8, and the code names the place where it is
not. The specification is the encoding itself: `utf8Encode` writes a code
point in its one form, `WellFormed` texts are rows of encoded scalar values.
What the code tests of a sequence, the shape of its first byte, of the bytes
behind it, and the range of the number they make, amounts to the encoding of
a scalar value being there (`wellFormedSequenceLength_eq_some`); so the
first place without one is found, and there is only one such place.
-/

namespace AsynGyanis.WebSocket

open List

abbrev Bytes := List UInt8

/-! ## The code -/

def kSurrogateMinimumCodePoint : Nat := 0xD800

def kSurrogateMaximumCodePoint : Nat := 0xDFFF

def kMaximumUnicodeCodePoint : Nat := 0x10FFFF

/-- How many bytes the sequence has, by its first; 0 when none begins so. -/
def utf8SequenceLength (leadingByte : UInt8) : Nat :=
  if leadingByte < 0x80 then 1
  else if leadingByte &&& 0xE0 = 0xC0 then 2
  else if leadingByte &&& 0xF0 = 0xE0 then 3
  else if leadingByte &&& 0xF8 = 0xF0 then 4
  else 0

/-- The code point with the bits of the bytes that continue it. -/
def appendContinuationBytes (codePoint : Nat) : Bytes → Option Nat
  | [] => some codePoint
  | continuationByte :: rest =>
    if continuationByte &&& 0xC0 ≠ 0x80 then none
    else
      appendContinuationBytes (codePoint <<< 6 ||| (continuationByte &&& 0x3F).toNat) rest

/-- One round of the loop: the length of the sequence the text begins with,
unless it is ill-formed. -/
def wellFormedSequenceLength (text : Bytes) : Option Nat :=
  match text with
  | [] => none
  | leadingByte :: rest =>
    let sequenceLength := utf8SequenceLength leadingByte
    if sequenceLength = 0 ∨ sequenceLength > text.length then none
    else if sequenceLength = 1 then some 1
    else
      let codePoint := (leadingByte &&& UInt8.ofNat (0xFF >>> (sequenceLength + 1))).toNat
      match appendContinuationBytes codePoint (rest.take (sequenceLength - 1)) with
      | none => none
      | some codePoint =>
        let minimumCodePoint := if sequenceLength = 2 then 0x80
          else if sequenceLength = 3 then 0x800 else 0x10000
        if codePoint < minimumCodePoint then none
        else if codePoint ≥ kSurrogateMinimumCodePoint ∧
            codePoint ≤ kSurrogateMaximumCodePoint then none
        else if codePoint > kMaximumUnicodeCodePoint then none
        else some sequenceLength

variable {text : Bytes} {codePoint : Nat}

theorem wellFormedSequenceLength_pos {length : Nat}
    (h : wellFormedSequenceLength text = some length) : 0 < length ∧ length ≤ text.length := by
  unfold wellFormedSequenceLength at h
  dsimp only at h
  repeat' split at h
  all_goals first
    | (cases h; done)
    | (cases h; simp only [length_cons] at *; omega)

/-- The loop, with the rest of the text from `offset` on. -/
def findInvalidFrom (offset : Nat) (text : Bytes) : Option Nat :=
  if text = [] then none
  else
    match h : wellFormedSequenceLength text with
    | none => some offset
    | some length => findInvalidFrom (offset + length) (text.drop length)
termination_by text.length
decreasing_by
  have hlength := wellFormedSequenceLength_pos h
  rw [length_drop]
  omega

def findInvalidWebSocketUtf8ByteOffset (text : Bytes) : Option Nat := findInvalidFrom 0 text

/-! ## The encoding -/

/-- The lowest groups of six bits, the highest of them first. -/
def continuationBytes : Nat → Nat → Bytes
  | 0, _ => []
  | count + 1, codePoint =>
    UInt8.ofNat (0x80 + codePoint / 0x40 ^ count % 0x40) :: continuationBytes count codePoint

/-- A code point in the only form it has. -/
def utf8Encode (codePoint : Nat) : Bytes :=
  if codePoint < 0x80 then [UInt8.ofNat codePoint]
  else if codePoint < 0x800 then
    UInt8.ofNat (0xC0 + codePoint / 0x40 ^ 1) :: continuationBytes 1 codePoint
  else if codePoint < 0x10000 then
    UInt8.ofNat (0xE0 + codePoint / 0x40 ^ 2) :: continuationBytes 2 codePoint
  else
    UInt8.ofNat (0xF0 + codePoint / 0x40 ^ 3) :: continuationBytes 3 codePoint

def IsScalarValue (codePoint : Nat) : Prop :=
  codePoint ≤ 0x10FFFF ∧ ¬(0xD800 ≤ codePoint ∧ codePoint ≤ 0xDFFF)

instance : DecidablePred IsScalarValue := fun _ => inferInstanceAs (Decidable (_ ∧ _))

def WellFormed (text : Bytes) : Prop :=
  ∃ codePoints : List Nat, (∀ codePoint ∈ codePoints, IsScalarValue codePoint) ∧
    text = codePoints.flatMap utf8Encode

/-- The text is well-formed up to here, and no sequence of a scalar value
stands here. -/
def IllFormedAt (text : Bytes) (offset : Nat) : Prop :=
  offset < text.length ∧ WellFormed (text.take offset) ∧ ∀ codePoint, IsScalarValue codePoint →
      ¬utf8Encode codePoint <+: text.drop offset

/-! ## Bytes -/

theorem utf8_shapes : ∀ value < 256, utf8SequenceLength (UInt8.ofNat value) =
        (if value < 0x80 then 1 else if value < 0xC0 then 0
          else if value < 0xE0 then 2 else if value < 0xF0 then 3
          else if value < 0xF8 then 4 else 0) ∧
      (UInt8.ofNat value &&& 0xC0 ≠ 0x80 ↔ value < 0x80 ∨ 0xC0 ≤ value) ∧
      (UInt8.ofNat value &&& 0x3F).toNat = value % 0x40 ∧
      (UInt8.ofNat value &&& 0x1F).toNat = value % 0x20 ∧
      (UInt8.ofNat value &&& 0x0F).toNat = value % 0x10 ∧
      (UInt8.ofNat value &&& 0x07).toNat = value % 0x08 := by
  decide +kernel

theorem exists_ofNat_eq (byte : UInt8) : ∃ value < 256, UInt8.ofNat value = byte :=
  ⟨byte.toNat, byte.toNat_lt, UInt8.ofNat_toNat⟩

theorem utf8SequenceLength_ofNat {value : Nat} (h : value < 256) :
    utf8SequenceLength (UInt8.ofNat value) =
      if value < 0x80 then 1 else if value < 0xC0 then 0
      else if value < 0xE0 then 2 else if value < 0xF0 then 3
      else if value < 0xF8 then 4 else 0 := (utf8_shapes value h).1

theorem length_continuationBytes (count codePoint : Nat) :
    (continuationBytes count codePoint).length = count := by
  induction count with
  | zero => rfl
  | succ count ih => rw [continuationBytes, length_cons, ih]

theorem appendContinuationBytes_eq_some {start : Nat} {tail : Bytes} :
    appendContinuationBytes start tail = some codePoint ↔ start = codePoint / 0x40 ^ tail.length ∧
        tail = continuationBytes tail.length codePoint := by
  induction tail generalizing start with
  | nil => simp [appendContinuationBytes, continuationBytes]
  | cons byte tail ih =>
    obtain ⟨value, hvalue, rfl⟩ := exists_ofNat_eq byte
    obtain ⟨-, hshape, hmask, -⟩ := utf8_shapes value hvalue
    rw [appendContinuationBytes, length_cons, continuationBytes,
      Nat.pow_succ, ← Nat.div_div_eq_div_mul, cons.injEq]
    generalize hquotient : codePoint / 0x40 ^ tail.length = quotient at *
    have hbyte : UInt8.ofNat value = UInt8.ofNat (0x80 + quotient % 0x40) ↔
        value = 0x80 + quotient % 0x40 := by
      rw [← UInt8.toNat_inj, UInt8.toNat_ofNat_of_lt' hvalue,
        UInt8.toNat_ofNat_of_lt' (by show _ < 256; omega)]
    rw [hbyte]
    by_cases hstray : value < 0x80 ∨ 0xC0 ≤ value
    · rw [if_pos (hshape.mpr hstray)]
      exact ⟨nofun, fun h => by omega⟩
    rw [if_neg (mt hshape.mp hstray), hmask,
      ← Nat.shiftLeft_add_eq_or_of_lt (Nat.mod_lt value (by decide)),
      Nat.shiftLeft_eq, ih]
    constructor
    · exact fun ⟨h, htail⟩ => ⟨by omega, by omega, htail⟩
    · exact fun ⟨h, hvalue, htail⟩ => ⟨by omega, htail⟩

/-! ## A sequence is an encoded scalar value -/

theorem wellFormedSequenceLength_cons {lead : UInt8} {rest : Bytes}
    {length : Nat} : wellFormedSequenceLength (lead :: rest) = some length ↔
      utf8SequenceLength lead = length ∧ length ≤ rest.length + 1 ∧
        length ≠ 0 ∧ (length ≠ 1 → ∃ codePoint, appendContinuationBytes
            (lead &&& UInt8.ofNat (0xFF >>> (length + 1))).toNat
            (rest.take (length - 1)) = some codePoint ∧
          (if length = 2 then 0x80 else if length = 3 then 0x800
            else 0x10000) ≤ codePoint ∧ IsScalarValue codePoint) := by
  unfold wellFormedSequenceLength
  dsimp only
  rw [length_cons]
  constructor
  · intro h
    split at h
    · cases h
    next hbounds =>
    split at h
    · next hone =>
      cases h
      exact ⟨hone, by omega, by omega, fun hnot => absurd rfl hnot⟩
    split at h
    · cases h
    next codePoint hcode =>
    generalize hminimum : (if utf8SequenceLength lead = 2 then 0x80
      else if utf8SequenceLength lead = 3 then 0x800 else 0x10000) = minimum at h
    by_cases hshortest : codePoint < minimum
    · rw [if_pos hshortest] at h
      cases h
    rw [if_neg hshortest] at h
    split at h
    · cases h
    next hsurrogate =>
    split at h
    · cases h
    next hlarge =>
    cases h
    refine ⟨rfl, by omega, by omega, fun _ => ⟨codePoint, hcode, ?_, ?_⟩⟩
    · rw [hminimum]
      exact Nat.not_lt.mp hshortest
    · exact ⟨Nat.not_lt.mp hlarge, hsurrogate⟩
  · rintro ⟨rfl, hlength, hnonzero, hlonger⟩
    rw [if_neg (by omega)]
    split
    · next hone => rw [hone]
    next hone =>
    obtain ⟨codePoint, hcode, hminimum, hscalar⟩ := hlonger hone
    rw [hcode]
    dsimp only
    unfold kSurrogateMinimumCodePoint kSurrogateMaximumCodePoint kMaximumUnicodeCodePoint
    rw [if_neg (Nat.not_lt.mpr hminimum), if_neg hscalar.2, if_neg (Nat.not_lt.mpr hscalar.1)]

theorem wellFormedSequenceLength_encode (h : IsScalarValue codePoint) (rest : Bytes) :
    wellFormedSequenceLength (utf8Encode codePoint ++ rest) =
      some (utf8Encode codePoint).length := by
  have hmaximum := h.1
  have htake (count : Nat) : (continuationBytes count codePoint ++ rest).take (count + 1 - 1) =
        continuationBytes count codePoint := by
    exact take_left' (length_continuationBytes count codePoint)
  have hread (count : Nat) {start : Nat} (hstart : start = codePoint / 0x40 ^ count) :
      appendContinuationBytes start
        ((continuationBytes count codePoint ++ rest).take (count + 1 - 1)) =
        some codePoint := by
    rw [htake, appendContinuationBytes_eq_some, length_continuationBytes]
    exact ⟨hstart, rfl⟩
  have hlength (count : Nat) :
      count + 1 ≤ (continuationBytes count codePoint ++ rest).length + 1 := by
    rw [length_append, length_continuationBytes]
    omega
  unfold utf8Encode
  split
  · next hascii =>
    rw [singleton_append, wellFormedSequenceLength_cons,
      utf8SequenceLength_ofNat (by omega), if_pos hascii]
    exact ⟨rfl, Nat.le_add_left _ _, Nat.one_ne_zero, fun hnot => absurd rfl hnot⟩
  split
  · rw [cons_append, wellFormedSequenceLength_cons, length_cons,
      length_continuationBytes, utf8SequenceLength_ofNat (by omega),
      if_neg (by omega), if_neg (by omega), if_pos (by omega)]
    refine ⟨rfl, hlength 1, by decide, fun _ => ⟨codePoint, hread 1 ?_, ?_, h⟩⟩
    · rw [show UInt8.ofNat (0xFF >>> (1 + 1 + 1)) = 0x1F from rfl,
        (utf8_shapes _ (by omega)).2.2.2.1]
      omega
    · show 0x80 ≤ codePoint
      omega
  split
  · rw [cons_append, wellFormedSequenceLength_cons, length_cons,
      length_continuationBytes, utf8SequenceLength_ofNat (by omega),
      if_neg (by omega), if_neg (by omega), if_neg (by omega),
      if_pos (by omega)]
    refine ⟨rfl, hlength 2, by decide, fun _ => ⟨codePoint, hread 2 ?_, ?_, h⟩⟩
    · rw [show UInt8.ofNat (0xFF >>> (2 + 1 + 1)) = 0x0F from rfl,
        (utf8_shapes _ (by omega)).2.2.2.2.1]
      omega
    · show 0x800 ≤ codePoint
      omega
  rw [cons_append, wellFormedSequenceLength_cons, length_cons,
    length_continuationBytes, utf8SequenceLength_ofNat (by omega),
    if_neg (by omega), if_neg (by omega), if_neg (by omega),
    if_neg (by omega), if_pos (by omega)]
  refine ⟨rfl, hlength 3, by decide, fun _ => ⟨codePoint, hread 3 ?_, ?_, h⟩⟩
  · rw [show UInt8.ofNat (0xFF >>> (3 + 1 + 1)) = 0x07 from rfl,
      (utf8_shapes _ (by omega)).2.2.2.2.2]
    omega
  · show 0x10000 ≤ codePoint
    omega

theorem encode_of_wellFormedSequenceLength {length : Nat}
    (h : wellFormedSequenceLength text = some length) :
    ∃ codePoint, IsScalarValue codePoint ∧ utf8Encode codePoint = text.take length := by
  cases text with
  | nil => exact nomatch h
  | cons lead rest =>
  obtain ⟨hlead, hlength, hnonzero, hlonger⟩ := wellFormedSequenceLength_cons.mp h
  obtain ⟨value, hvalue, rfl⟩ := exists_ofNat_eq lead
  rw [utf8SequenceLength_ofNat hvalue] at hlead
  by_cases hascii : value < 0x80
  · rw [if_pos hascii] at hlead
    subst hlead
    exact ⟨value, ⟨by omega, by omega⟩, by rw [utf8Encode, if_pos hascii]; rfl⟩
  obtain ⟨count, rfl⟩ := Nat.exists_eq_succ_of_ne_zero hnonzero
  have hshape : count = 1 ∧ 0xC0 ≤ value ∧ value < 0xE0 ∨ count = 2 ∧ 0xE0 ≤ value ∧ value < 0xF0 ∨
      count = 3 ∧ 0xF0 ≤ value ∧ value < 0xF8 := by
    rw [if_neg hascii] at hlead
    split at hlead
    · omega
    split at hlead
    · omega
    split at hlead
    · omega
    split at hlead
    · omega
    · omega
  obtain ⟨codePoint, hcode, hminimum, hscalar⟩ := hlonger (by omega)
  have hmaximum := hscalar.1
  refine ⟨codePoint, hscalar, ?_⟩
  obtain ⟨hstart, htail⟩ := appendContinuationBytes_eq_some.mp hcode
  rw [Nat.succ_sub_one] at hstart htail
  rw [length_take, Nat.min_eq_left (by omega)] at hstart htail
  show utf8Encode codePoint = UInt8.ofNat value :: rest.take count
  rw [htail]
  obtain ⟨rfl, hvalue'⟩ | ⟨rfl, hvalue'⟩ | ⟨rfl, hvalue'⟩ := hshape
  · rw [show UInt8.ofNat (0xFF >>> (1 + 1 + 1)) = 0x1F from rfl,
      (utf8_shapes _ hvalue).2.2.2.1] at hstart
    rw [if_pos rfl] at hminimum
    rw [utf8Encode, if_neg (by omega), if_pos (by omega)]
    congr 2
    omega
  · rw [show UInt8.ofNat (0xFF >>> (2 + 1 + 1)) = 0x0F from rfl,
      (utf8_shapes _ hvalue).2.2.2.2.1] at hstart
    rw [if_neg (by decide), if_pos rfl] at hminimum
    rw [utf8Encode, if_neg (by omega), if_neg (by omega), if_pos (by omega)]
    congr 2
    omega
  · rw [show UInt8.ofNat (0xFF >>> (3 + 1 + 1)) = 0x07 from rfl,
      (utf8_shapes _ hvalue).2.2.2.2.2] at hstart
    rw [if_neg (by decide), if_neg (by decide)] at hminimum
    rw [utf8Encode, if_neg (by omega), if_neg (by omega), if_neg (by omega)]
    congr 2
    omega

/-! ## Texts -/

theorem WellFormed.cons {rest : Bytes} (h : IsScalarValue codePoint) (hrest : WellFormed rest) :
    WellFormed (utf8Encode codePoint ++ rest) := by
  obtain ⟨codePoints, hscalars, rfl⟩ := hrest
  exact ⟨codePoint :: codePoints, forall_mem_cons.mpr ⟨h, hscalars⟩, rfl⟩

theorem encode_append_cancel {other : Nat} {rest rest' : Bytes}
    (h : IsScalarValue codePoint) (h' : IsScalarValue other)
    (heq : utf8Encode codePoint ++ rest = utf8Encode other ++ rest') : rest = rest' := by
  have hlength := wellFormedSequenceLength_encode h rest
  rw [heq, wellFormedSequenceLength_encode h'] at hlength
  exact (append_inj heq (Option.some.inj hlength).symm).2

theorem WellFormed.of_append {front back : Bytes}
    (hfront : WellFormed front) (h : WellFormed (front ++ back)) : WellFormed back := by
  obtain ⟨codePoints, hscalars, rfl⟩ := hfront
  induction codePoints with
  | nil => exact h
  | cons codePoint codePoints ih =>
    obtain ⟨hscalar, hscalars⟩ := forall_mem_cons.mp hscalars
    refine ih hscalars ?_
    obtain ⟨others, hothers, heq⟩ := h
    rw [flatMap_cons, append_assoc] at heq
    cases others with
    | nil =>
      have hlength := wellFormedSequenceLength_encode hscalar
        (codePoints.flatMap utf8Encode ++ back)
      rw [heq] at hlength
      cases hlength
    | cons other others =>
      obtain ⟨hother, hothers⟩ := forall_mem_cons.mp hothers
      exact ⟨others, hothers, encode_append_cancel hscalar hother heq⟩

theorem WellFormed.begins (h : WellFormed text) (hnonempty : text ≠ []) :
    ∃ codePoint, IsScalarValue codePoint ∧ utf8Encode codePoint <+: text := by
  obtain ⟨codePoints, hscalars, rfl⟩ := h
  cases codePoints with
  | nil => exact absurd rfl hnonempty
  | cons codePoint codePoints =>
    exact ⟨codePoint, hscalars _ (mem_cons_self ..), _, rfl⟩

theorem IllFormedAt.not_wellFormed {offset stop : Nat}
    (h : IllFormedAt text offset) (hstop : offset < stop) : ¬WellFormed (text.take stop) := by
  intro hwhole
  obtain ⟨hlt, hbefore, hnone⟩ := h
  have htake : text.take stop = text.take offset ++ (text.drop offset).take (stop - offset) := by
    rw [← take_add, Nat.add_sub_cancel' (Nat.le_of_lt hstop)]
  rw [htake] at hwhole
  obtain ⟨codePoint, hscalar, hbegins⟩ := (hbefore.of_append hwhole).begins (by
    apply ne_nil_of_length_pos
    rw [length_take, length_drop]
    omega)
  exact hnone codePoint hscalar (hbegins.trans ( take_prefix _ _))

/-- The loop goes on over encoded scalar values and stops where none is. -/
theorem findInvalidFrom_spec (offset : Nat) (text : Bytes) :
    match findInvalidFrom offset text with
    | none => WellFormed text
    | some found => ∃ skipped, found = offset + skipped ∧ IllFormedAt text skipped := by
  fun_induction findInvalidFrom offset text with
  | case1 offset => exact ⟨[], nofun, rfl⟩
  | case2 offset text hnonempty hnone =>
    refine ⟨0, rfl, length_pos_iff.mpr hnonempty, ⟨[], nofun, rfl⟩, ?_⟩
    rintro codePoint hscalar ⟨rest, htext⟩
    rw [drop_zero] at htext
    rw [← htext, wellFormedSequenceLength_encode hscalar] at hnone
    cases hnone
  | case3 offset text hnonempty length hlength ih =>
    obtain ⟨codePoint, hscalar, hencoded⟩ := encode_of_wellFormedSequenceLength hlength
    have htext := take_append_drop length text
    split at ih
    · rw [← htext, ← hencoded]
      exact ih.cons hscalar
    obtain ⟨skipped, hskipped, hlt, hbefore, hnone⟩ := ih
    refine ⟨length + skipped, by omega, ?_, ?_, ?_⟩
    · rw [length_drop] at hlt
      omega
    · rw [take_add, ← hencoded]
      exact hbefore.cons hscalar
    · rwa [← drop_drop]

/-- No offset is reported for well-formed texts and for no others; an offset
that is reported is the one of the first ill-formed sequence. -/
theorem findInvalidWebSocketUtf8ByteOffset_spec (text : Bytes) :
    (findInvalidWebSocketUtf8ByteOffset text = none ↔ WellFormed text) ∧
      ∀ offset, findInvalidWebSocketUtf8ByteOffset text = some offset ↔
        IllFormedAt text offset := by
  have hspec := findInvalidFrom_spec 0 text
  have hexclusive {offset : Nat} (h : IllFormedAt text offset) : ¬WellFormed text := by
    have hwhole := h.not_wellFormed h.1
    rwa [take_length] at hwhole
  unfold findInvalidWebSocketUtf8ByteOffset
  split at hspec
  · next hnone =>
    rw [hnone]
    exact ⟨⟨fun _ => hspec, fun _ => rfl⟩, fun offset =>
      ⟨nofun, fun h => absurd hspec (hexclusive h)⟩⟩
  rename_i found hfound
  obtain ⟨skipped, hskipped, hill⟩ := hspec
  obtain rfl : found = skipped := by omega
  rw [hfound]
  refine ⟨⟨nofun, fun h => absurd h (hexclusive hill)⟩, fun offset =>
    ⟨fun h => Option.some.inj h ▸ hill, fun h => ?_⟩⟩
  -- neither of two such places is in front of the other
  have hle : ¬found < offset := fun hlt => hill.not_wellFormed hlt h.2.1
  have hge : ¬offset < found := fun hlt => h.not_wellFormed hlt hill.2.1
  exact congrArg some (by omega)

end AsynGyanis.WebSocket
