import Mathlib

/-!
# Text of header fields

The rules the HTTP parsers share: which bytes a token and a field value are
made of, how a field value is trimmed, how names are compared, how a decimal
number is read. Text is a list of bytes, as it is on the wire. Case is folded
in ASCII only, whatever the locale is.
-/

namespace AsynGyanis.Http

open List

abbrev Bytes := List UInt8

/-- The bytes of a text that the source writes in ASCII. -/
def asciiText (text : String) : Bytes :=
  text.toList.map fun character => UInt8.ofNat character.toNat

/-- The tchar set of RFC 9110, 5.6.2. -/
def kHttpTokenCharacterSet : Bytes :=
  asciiText "0123456789" ++ asciiText "abcdefghijklmnopqrstuvwxyz" ++
    asciiText "ABCDEFGHIJKLMNOPQRSTUVWXYZ" ++ asciiText "!#$%&'*+-.^_`|~"

variable (text : Bytes) (character : UInt8)

def isTokenCharacter : Bool := kHttpTokenCharacterSet.contains character

def containsOnlyTokenCharacters : Bool := text.all isTokenCharacter

/-- HTAB, visible ASCII and obs-text. -/
def isFieldValueCharacter : Bool := character = 0x09 || (0x20 ≤ character && character ≠ 0x7F)

def containsOnlyFieldValueCharacters : Bool := text.all isFieldValueCharacter

/-! ## Limits -/

/-- A limit of zero is no limit. -/
def exceedsBudget (value limit : Nat) : Bool := limit ≠ 0 && limit < value

theorem exceedsBudget_mono {m n limit : Nat} (h : exceedsBudget m limit) (hle : m ≤ n) :
    exceedsBudget n limit := by
  simp only [exceedsBudget, Bool.and_eq_true, decide_eq_true_eq] at h ⊢
  exact ⟨h.1, Nat.lt_of_lt_of_le h.2 hle⟩

theorem exceedsBudget_pos {n limit : Nat} (h : exceedsBudget n limit) : 0 < n := by
  simp only [exceedsBudget, Bool.and_eq_true, decide_eq_true_eq] at h
  exact Nat.zero_lt_of_lt h.2

structure HttpParserLimits where
  maximumUriLength : Nat := 8 * 1024
  maximumHeaderFieldNameLength : Nat := 256
  maximumHeaderFieldValueLength : Nat := 8 * 1024
  maximumHeaderCount : Nat := 100
  maximumHeaderBlockLength : Nat := 64 * 1024
  maximumBodySize : Nat := 8 * 1024 * 1024
  maximumChunkSizeLineLength : Nat := 1024
  deriving DecidableEq, Repr

/-! ## Optional white space -/

def isOptionalWhitespace : Bool := character = 0x20 || character = 0x09

def trimOptionalWhitespace : Bytes :=
  (text.dropWhile isOptionalWhitespace).rdropWhile isOptionalWhitespace

/-! ## Letter case -/

def toLowerAscii : UInt8 :=
  if 0x41 ≤ character ∧ character ≤ 0x5A then character + 0x20 else character

def containsUppercaseAscii : Bool := text.any fun character => 0x41 ≤ character && character ≤ 0x5A

/-- Equal bytes up to the case of ASCII letters. Texts of different lengths
have images of different lengths. -/
def equalsIgnoringCase (left right : Bytes) : Bool := left.map toLowerAscii = right.map toLowerAscii

/-! ## Decimal numbers -/

def isDigit : Bool := 0x30 ≤ character && character ≤ 0x39

/-- The number a text of digits spells. -/
def decimalValue : Nat :=
  text.foldl (fun value character => value * 10 + (character.toNat - 0x30)) 0

/-- `std::from_chars` for `std::size_t`: the longest run of digits, as long
as its number fits in 64 bits, and what follows it. -/
def fromCharsSize : Option (Nat × Bytes) :=
  let digits := text.takeWhile isDigit
  if digits = [] ∨ 2 ^ 64 ≤ decimalValue digits then none
  else some (decimalValue digits, text.dropWhile isDigit)

/-- `std::from_chars` for `std::int64_t`, which takes a minus sign. -/
def fromCharsInt64 : Option (Int × Bytes) :=
  match text with
  | [] => none
  | first :: rest =>
    if first = 0x2D then
      let digits := rest.takeWhile isDigit
      if digits = [] ∨ 2 ^ 63 < decimalValue digits then none
      else some (-(decimalValue digits : Int), rest.dropWhile isDigit)
    else
      let digits := text.takeWhile isDigit
      if digits = [] ∨ 2 ^ 63 ≤ decimalValue digits then none
      else some ((decimalValue digits : Int), text.dropWhile isDigit)

theorem decimalValue_lt_pow (h : text.all isDigit) : decimalValue text < 10 ^ text.length := by
  induction text using reverseRecOn with
  | nil => exact Nat.one_pos
  | append_singleton text last ih =>
    rw [all_append, Bool.and_eq_true] at h
    have hlast : last.toNat - 0x30 < 10 := by
      have hlast := h.2
      simp only [all_cons, all_nil, Bool.and_true, isDigit,
        Bool.and_eq_true, decide_eq_true_eq, UInt8.le_iff_toNat_le] at hlast
      have := hlast.2
      simp at this
      omega
    have ih := ih h.1
    rw [decimalValue, foldl_append, length_append, length_singleton, Nat.pow_succ]
    show decimalValue text * 10 + (last.toNat - 0x30) < _
    omega

/-- One number and nothing else, of at most 19 digits. -/
def parseContentLengthValue : Option Nat :=
  let text := trimOptionalWhitespace text
  if text = [] ∨ 19 < text.length then none
  else if text.all isDigit then some (decimalValue text)
  else none

/-! ## Values with a meaning -/

/-- The connection-specific fields of RFC 9113, 8.2.2. -/
def isConnectionSpecificHeaderName (name : Bytes) : Bool :=
  [asciiText "connection", asciiText "keep-alive",
    asciiText "proxy-connection", asciiText "transfer-encoding",
    asciiText "upgrade"].contains name

def teValueIsTrailers (value : Bytes) : Bool :=
  equalsIgnoringCase (trimOptionalWhitespace value) (asciiText "trailers")

/-- Visible ASCII but for the number sign and the backslash, and all bytes
above ASCII. -/
def isRequestTargetCharacter : Bool :=
  if character < 0x21 || character = 0x7F then false
  else if character ≤ 0x7E then character ≠ 0x23 && character ≠ 0x5C
  else true

def isAlpha : Bool := (0x41 ≤ character && character ≤ 0x5A) ||
    (0x61 ≤ character && character ≤ 0x7A)

def isUriSchemeSyntax (scheme : Bytes) : Bool :=
  match scheme with
  | [] => false
  | front :: _ =>
    isAlpha front && scheme.all fun character =>
      isAlpha character || isDigit character || character = 0x2B ||
        character = 0x2D || character = 0x2E

/-! ## Host and authority -/

def isUnreservedCharacter : Bool := isAlpha character || isDigit character ||
    (asciiText "-._~").contains character

def isSubDelimiter : Bool := (asciiText "!$&'()*+,;=").contains character

def isHexadecimalCharacter : Bool := isDigit character || (0x61 ≤ character && character ≤ 0x66) ||
    (0x41 ≤ character && character ≤ 0x46)

def isIpLiteralBody (content : Bytes) : Bool :=
  content.all fun character => isHexadecimalCharacter character ||
    (asciiText ":.%vV").contains character

/-- The name of a host up to the port, and what follows it. -/
def scanRegisteredName : Bytes → Except String Bytes
  | [] => .ok []
  | character :: rest =>
    if character = 0x3A then .ok (character :: rest)
    else if character = 0x25 then
      match rest with
      | high :: low :: rest =>
        if isHexadecimalCharacter high && isHexadecimalCharacter low then
          scanRegisteredName rest
        else .error "百分号转义不完整（要写成 % 加两位十六进制数字）"
      | _ => .error "百分号转义不完整（要写成 % 加两位十六进制数字）"
    else if !isUnreservedCharacter character && !isSubDelimiter character then
      .error "含权威段不允许的字符"
    else scanRegisteredName rest

/-- An address in brackets, and what follows it. -/
def scanIpLiteral (content : Bytes) : Except String Bytes :=
  if !content.contains 0x5D then .error "IPv6 字面量缺少闭合的方括号"
  else if !isIpLiteralBody (content.takeWhile (· ≠ 0x5D)) then
    .error "IPv6 字面量内含非十六进制、非冒号、非点的字节"
  else .ok (content.dropWhile (· ≠ 0x5D)).tail

def findPortDefect : Bytes → Option String
  | [] => none
  | separator :: portText =>
    if separator ≠ 0x3A then some "IPv6 字面量之后只允许跟「:端口」"
    else if portText.contains 0x3A then some "出现了多于一个端口分隔符「:」"
    else if !portText.all isDigit then some "端口不是十进制数字"
    else none

/-- What is wrong with the text of a Host or an :authority. An empty text is
left to the caller. -/
def findAuthorityFieldDefect (value : Bytes) : Option String :=
  match value with
  | [] => none
  | front :: rest =>
    if value.contains 0x40 then some "含 userinfo 段（@ 之前的用户名部分）"
    else
      match (if front = 0x5B then scanIpLiteral rest
        else scanRegisteredName value) with
      | .error defect => some defect
      | .ok port => findPortDefect port

/-- The host without its port, in lower case and without dots at its end. -/
def normalizeHostComparisonKey (authority : Bytes) : Bytes :=
  match trimOptionalWhitespace authority with
  | [] => []
  | front :: rest =>
    let hostPart :=
      if front = 0x5B then
        if rest.contains 0x5D then
          front :: rest.takeWhile (· ≠ 0x5D) ++ [0x5D]
        else front :: rest
      else (front :: rest).takeWhile (· ≠ 0x3A)
    (dropLastDots hostPart).map toLowerAscii
where
  /-- Dots at the end go, down to the last character. -/
  dropLastDots (text : Bytes) : Bytes :=
    match text with
    | [] => []
    | first :: rest => first :: rest.rdropWhile (· = 0x2E)

/-! ## Bytes in messages -/

def hexDigit (value : Nat) : Char := "0123456789ABCDEF".toList.getD value '0'

/-- Printable ASCII as it is, other bytes as `\xNN`, cut after 48 bytes. -/
def escapeForLog : String :=
  String.ofList ((text.take 48).flatMap fun byte =>
    if 0x20 ≤ byte ∧ byte < 0x7F then [Char.ofNat byte.toNat]
    else ['\\', 'x', hexDigit (byte.toNat / 16), hexDigit (byte.toNat % 16)]) ++
    (if (text.take 48).length < text.length then "…（已截断）" else "")

end AsynGyanis.Http
