import AsynGyanis.Http.HeaderRules

/-!
# Reading a Set-Cookie field

One cookie as a response sets it: its name, its value and the attributes that
were written with it. An attribute that is not known, or whose value is not
well formed, counts as not written, and the rest of the cookie is kept.

The reader of HTTP dates is a parameter. All that is kept of a date is the
time it stands for.
-/

namespace AsynGyanis.Http

inductive CookieSameSitePolicy
  | strict
  | lax
  | none
  deriving DecidableEq, Repr

/-- Times are in ticks of the system clock. -/
structure HttpCookie where
  name : Bytes := []
  value : Bytes := []
  path : Option Bytes := none
  domain : Option Bytes := none
  maxAgeSeconds : Option Int := none
  expiresAt : Option Int := none
  isSecure : Bool := false
  isHttpOnly : Bool := false
  sameSite : Option CookieSameSitePolicy := none
  deriving DecidableEq, Repr

namespace HttpCookie

/-- The cookie-octets of RFC 6265, 4.1.1, and the backslash. -/
def isValueCharacter (code : UInt8) : Bool := code = 0x21 || (0x23 ≤ code && code ≤ 0x2B) ||
    (0x2D ≤ code && code ≤ 0x3A) || (0x3C ≤ code && code ≤ 0x7E)

def isValidName (text : Bytes) : Bool := !text.isEmpty && containsOnlyTokenCharacters text

def isValidValue (text : Bytes) : Bool := text.all isValueCharacter

def isValidDomain (text : Bytes) : Bool :=
  !text.isEmpty && !text.any (asciiText " ;\"=/").contains &&
    !text.any fun character => character < 0x21 || 0x7F ≤ character

/-- What stands between the quotes: a backslash gives way to the character
after it, unless it is the last. -/
def unescapeQuoted : Bytes → Bytes
  | [] => []
  | [character] => [character]
  | character :: next :: rest =>
    if character = 0x5C then next :: unescapeQuoted rest
    else character :: unescapeQuoted (next :: rest)

def unwrapQuotedValue (rawValue : Bytes) : Bytes :=
  if rawValue.length < 2 ∨ rawValue.head? ≠ some 0x22 ∨ rawValue.getLast? ≠ some 0x22 then rawValue
  else unescapeQuoted rawValue.tail.dropLast

/-- Delta-seconds begin with a digit or a sign and go on with digits. A plus
sign gets past this and is refused by `std::from_chars`. -/
def parseDeltaSeconds (text : Bytes) : Option Int :=
  match text with
  | [] => none
  | front :: rest =>
    if front ≠ 0x2D ∧ front ≠ 0x2B ∧ !isDigit front then none
    else if !(if front = 0x2D ∨ front = 0x2B then rest else text).all isDigit
    then none
    else
      match fromCharsInt64 text with
      | some (parsed, []) => some parsed
      | _ => none

/-- The text before the first separator and the text after it, which is
missing where there is no separator. -/
def cutAt (separator : UInt8) (text : Bytes) : Bytes × Option Bytes :=
  (text.takeWhile (· ≠ separator), (text.dropWhile (· ≠ separator)).tail?)

/-- What an attribute of this name leaves in the cookie. -/
def storeAttribute (parseHttpDate : Bytes → Option Int)
    (cookie : HttpCookie) (attributeName attributeValue : Bytes) :
    HttpCookie :=
  if equalsIgnoringCase attributeName (asciiText "path") then
    if attributeValue.head? = some 0x2F ∧ attributeValue.all isValueCharacter then
      { cookie with path := some attributeValue }
    else cookie
  else if equalsIgnoringCase attributeName (asciiText "domain") then
    if isValidDomain attributeValue then
      { cookie with domain := some attributeValue }
    else cookie
  else if equalsIgnoringCase attributeName (asciiText "max-age") then
    match parseDeltaSeconds attributeValue with
    | some seconds => { cookie with maxAgeSeconds := some seconds }
    | none => cookie
  else if equalsIgnoringCase attributeName (asciiText "expires") then
    match parseHttpDate attributeValue with
    | some expiresAt => { cookie with expiresAt := some expiresAt }
    | none => cookie
  else if equalsIgnoringCase attributeName (asciiText "secure") then
    { cookie with isSecure := true }
  else if equalsIgnoringCase attributeName (asciiText "httponly") then
    { cookie with isHttpOnly := true }
  else if equalsIgnoringCase attributeName (asciiText "samesite") then
    if equalsIgnoringCase attributeValue (asciiText "strict") then
      { cookie with sameSite := some .strict }
    else if equalsIgnoringCase attributeValue (asciiText "lax") then
      { cookie with sameSite := some .lax }
    else if equalsIgnoringCase attributeValue (asciiText "none") then
      { cookie with sameSite := some .none }
    else cookie
  else cookie

def applyAttribute (parseHttpDate : Bytes → Option Int)
    (cookie : HttpCookie) (attributeText : Bytes) : HttpCookie :=
  let written := trimOptionalWhitespace attributeText
  if written = [] then cookie
  else storeAttribute parseHttpDate cookie (trimOptionalWhitespace (cutAt 0x3D written).1)
    (trimOptionalWhitespace ((cutAt 0x3D written).2.getD []))

theorem storeAttribute_path (parseHttpDate : Bytes → Option Int)
    (cookie : HttpCookie) (attributeName attributeValue : Bytes) (h : cookie.path ≠ some []) :
    (storeAttribute parseHttpDate cookie attributeName attributeValue).path ≠ some [] := by
  rw [storeAttribute]
  split
  · split
    · next hslash =>
      intro hnil
      rw [Option.some.inj hnil] at hslash
      exact nomatch hslash.1
    · exact h
  · -- no other attribute touches the path
    repeat' split
    all_goals exact h

theorem applyAttribute_path (parseHttpDate : Bytes → Option Int)
    (cookie : HttpCookie) (attributeText : Bytes) (h : cookie.path ≠ some []) :
    (applyAttribute parseHttpDate cookie attributeText).path ≠ some [] := by
  simp only [applyAttribute]
  split
  · exact h
  · exact storeAttribute_path parseHttpDate cookie _ _ h

/-- Reads a Set-Cookie field: the pair of name and value up to the first
semicolon, then the attributes between the others. -/
def parseSetCookie (parseHttpDate : Bytes → Option Int) (headerValue : Bytes) : Option HttpCookie :=
  let nameValuePair := trimOptionalWhitespace (cutAt 0x3B headerValue).1
  match (cutAt 0x3D nameValuePair).2 with
  | none => none
  | some rawValue =>
    let name := trimOptionalWhitespace (cutAt 0x3D nameValuePair).1
    let value := unwrapQuotedValue (trimOptionalWhitespace rawValue)
    if !isValidName name || !isValidValue value then none
    else
      let attributes := match (cutAt 0x3B headerValue).2 with
        | none => []
        | some attributeTexts => attributeTexts.splitOn 0x3B
      some (attributes.foldl (applyAttribute parseHttpDate) { name := name, value := value })

theorem parseSetCookie_path {parseHttpDate : Bytes → Option Int}
    {headerValue : Bytes} {cookie : HttpCookie}
    (h : parseSetCookie parseHttpDate headerValue = some cookie) : cookie.path ≠ some [] := by
  simp only [parseSetCookie] at h
  split at h
  · cases h
  split at h
  · cases h
  rw [← Option.some.inj h]
  exact List.foldlRecOn (motive := fun cookie : HttpCookie => cookie.path ≠ some []) _ _
    nofun fun cookie hcookie attributeText _ =>
      applyAttribute_path parseHttpDate cookie attributeText hcookie

/-- What a name that begins with `__Host-` or `__Secure-` promises and the
cookie does not keep. -/
def prefixRequirementViolation (cookie : HttpCookie) : Option String :=
  if (asciiText "__Host-").isPrefixOf cookie.name then
    if !cookie.isSecure then some "名字带 __Host- 前缀却没带 Secure"
    else if cookie.domain.isSome then
      some "名字带 __Host- 前缀却带了 Domain 属性"
    else if cookie.path ≠ some [0x2F] then
      some "名字带 __Host- 前缀而 Path 属性不是明确写出的 \"/\""
    else none
  else if (asciiText "__Secure-").isPrefixOf cookie.name ∧ !cookie.isSecure then
    some "名字带 __Secure- 前缀却没带 Secure"
  else none

end HttpCookie

end AsynGyanis.Http
