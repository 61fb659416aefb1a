import AsynGyanis.Http.HeaderRules

/-!
# Framing of HTTP/1 messages

What the parsers of requests and of responses share: how long a line is, how
the size of a chunk and its extensions are written, which transfer encoding
is understood.
-/

namespace AsynGyanis.Http

def carriageReturn : UInt8 := 0x0D

def lineFeed : UInt8 := 0x0A

/-! ## The length of a line -/

/-- The body of a line that has its end: CR and LF do not count. -/
def lineBodyByteCountWithTerminator (stagedByteCountIncludingTerminator : Nat) : Nat :=
  stagedByteCountIncludingTerminator - 2

/-- A bound for the body of a line without its end: a CR at the end may be
the first half of the terminator. -/
def lineBodyByteCountWithoutTerminator (stagedByteCount appendedByteCount : Nat)
    (appendedEndsWithCarriageReturn : Bool) : Nat :=
  let combined := stagedByteCount + appendedByteCount
  if appendedEndsWithCarriageReturn ∧ combined ≠ 0 then combined - 1
  else combined

def endsWithCarriageReturn (text : Bytes) : Bool := text.getLast? = some carriageReturn

theorem endsWithCarriageReturn_append (a : Bytes) {b : Bytes} (hb : b ≠ []) :
    endsWithCarriageReturn (a ++ b) = endsWithCarriageReturn b := by
  rw [endsWithCarriageReturn, endsWithCarriageReturn, List.getLast?_append_of_ne_nil _ hb]

theorem lineBodyByteCountWithoutTerminator_le (staged appended : Nat) (ends : Bool) :
    lineBodyByteCountWithoutTerminator staged appended ends ≤ staged + appended ∧
    (ends → 0 < staged + appended →
      lineBodyByteCountWithoutTerminator staged appended ends + 1 = staged + appended) ∧
    (ends = false → lineBodyByteCountWithoutTerminator staged appended ends =
        staged + appended) := by
  rw [lineBodyByteCountWithoutTerminator]
  cases ends <;> simp
  split <;> omega

theorem unfinished_le (staged : Nat) (a : Bytes) {b : Bytes} (hb : b ≠ []) :
    lineBodyByteCountWithoutTerminator staged a.length (endsWithCarriageReturn a) ≤
      lineBodyByteCountWithoutTerminator (staged + a.length) b.length
        (endsWithCarriageReturn b) := by
  have hpos := List.length_pos_iff.mpr hb
  obtain ⟨hle, -, -⟩ := lineBodyByteCountWithoutTerminator_le staged a.length
    (endsWithCarriageReturn a)
  obtain ⟨-, htrue, hfalse⟩ := lineBodyByteCountWithoutTerminator_le
    (staged + a.length) b.length (endsWithCarriageReturn b)
  cases hends : endsWithCarriageReturn b with
  | false =>
    have := hfalse hends
    rw [hends] at this
    omega
  | true =>
    have := htrue hends (by omega)
    rw [hends] at this
    omega

theorem unfinished_append (staged : Nat) (a : Bytes) {b : Bytes} (hb : b ≠ []) :
    lineBodyByteCountWithoutTerminator staged (a ++ b).length (endsWithCarriageReturn (a ++ b)) =
      lineBodyByteCountWithoutTerminator (staged + a.length) b.length
        (endsWithCarriageReturn b) := by
  rw [endsWithCarriageReturn_append a hb, List.length_append,
    lineBodyByteCountWithoutTerminator, lineBodyByteCountWithoutTerminator,
    Nat.add_assoc]

def kRequestLineFixedOverheadBytes : Nat := 32 + 16

/-- Without a limit for the target there is none for its line. -/
def HttpParserLimits.requestLineLengthLimit (limits : HttpParserLimits) :
    Nat :=
  if limits.maximumUriLength = 0 then 0
  else limits.maximumUriLength + kRequestLineFixedOverheadBytes

/-- Without a limit for a name or for a value there is none for their line. -/
def HttpParserLimits.headerLineLengthLimit (limits : HttpParserLimits) :
    Nat :=
  if limits.maximumHeaderFieldNameLength = 0 ∨ limits.maximumHeaderFieldValueLength = 0 then 0
  else limits.maximumHeaderFieldNameLength + limits.maximumHeaderFieldValueLength + 4

/-! ## Chunks -/

def hexadecimalDigitValue (character : UInt8) : Option Nat :=
  if 0x30 ≤ character && character ≤ 0x39 then
    some (character.toNat - 0x30)
  else if 0x61 ≤ character && character ≤ 0x66 then
    some (character.toNat - 0x61 + 10)
  else if 0x41 ≤ character && character ≤ 0x46 then
    some (character.toNat - 0x41 + 10)
  else none

/-- The rest of a text behind the quoted string it begins in. -/
def scanQuotedString : Bytes → Option Bytes
  | [] => none
  | character :: rest =>
    if character = 0x22 then some rest
    else if character = 0x5C then
      match rest with
      | [] => none
      | escaped :: rest =>
        if escaped < 0x20 && escaped ≠ 0x09 then none
        else scanQuotedString rest
    else if character = 0x09 || (0x20 ≤ character && character ≤ 0x7E) || 0x80 ≤ character then
      scanQuotedString rest
    else none

def skipOptionalWhitespace (text : Bytes) : Bytes := text.dropWhile isOptionalWhitespace

/-- The value of an extension: a quoted string or a token. -/
def scanChunkExtensionValue (text : Bytes) : Option Bytes :=
  match text with
  | 0x22 :: rest => scanQuotedString rest
  | _ =>
    if text.takeWhile isTokenCharacter = [] then none
    else some (text.dropWhile isTokenCharacter)

/-- One extension behind its semicolon: a name, perhaps with a value. -/
def scanChunkExtension (text : Bytes) : Option Bytes :=
  let text := skipOptionalWhitespace text
  if text.takeWhile isTokenCharacter = [] then none
  else
    match skipOptionalWhitespace (text.dropWhile isTokenCharacter) with
    | 0x3D :: rest =>
      (scanChunkExtensionValue (skipOptionalWhitespace rest)).map skipOptionalWhitespace
    | rest => some rest

def scanChunkExtensions : Nat → Bytes → Bool
  | _, [] => true
  | 0, _ :: _ => false
  | fuel + 1, front :: rest =>
    if front ≠ 0x3B then false
    else
      match scanChunkExtension rest with
      | none => false
      | some rest => scanChunkExtensions fuel rest

/-- Extensions from the first semicolon on. Each takes at least two bytes, so
there are fewer of them than bytes. -/
def areChunkExtensionsWellFormed (text : Bytes) : Bool := scanChunkExtensions text.length text

/-- The characters of a text that is known to be ASCII. -/
def plainText (text : Bytes) : String := String.ofList (text.map fun byte => Char.ofNat byte.toNat)

/-! ## Values that decide the framing -/

def isSingleChunkedEncoding (listValue : Bytes) : Bool :=
  equalsIgnoringCase (trimOptionalWhitespace listValue) (asciiText "chunked")

/-- One of the expectations in a list is 100-continue. -/
def isContinueExpected (expectHeaderValue : Bytes) : Bool :=
  (expectHeaderValue.splitOn 0x2C).any fun token =>
    equalsIgnoringCase (trimOptionalWhitespace token) (asciiText "100-continue")

/-- Exactly three digits. -/
def parseStatusCodeText (text : Bytes) : Option Nat :=
  if text.length ≠ 3 ∨ !text.all isDigit then none
  else some (decimalValue text)

end AsynGyanis.Http
