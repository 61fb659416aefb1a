import AsynGyanis.Http.HeaderRules
import AsynGyanis.Http3.State

/-!
# Header fields of HTTP/3

`Http3HeaderValidator` judges the fields of one message as they arrive: the
head first, then at most one trailer section. It keeps the texts of the
pseudo-headers, where an empty text is one that has not come, and the last
host. An error ends the message, so what had been noted by then is not kept.
-/

namespace AsynGyanis.Http3

open Quic (Bytes)
open Http (asciiText containsOnlyTokenCharacters
  containsOnlyFieldValueCharacters containsUppercaseAscii isTokenCharacter
  escapeForLog equalsIgnoringCase findAuthorityFieldDefect isDigit
  isUriSchemeSyntax isRequestTargetCharacter isConnectionSpecificHeaderName
  teValueIsTrailers parseContentLengthValue)

inductive Http3HeaderErrorKind
  | emptyFieldName
  | uppercaseFieldName
  | illegalFieldNameCharacter
  | illegalFieldValueCharacter
  | connectionFieldProhibited
  | teValueNotAllowed
  | pseudoHeaderAfterField
  | pseudoHeaderInTrailers
  | undefinedPseudoHeader
  | duplicatePseudoHeader
  | missingPseudoHeader
  | malformedPseudoValue
  | prohibitedPseudoForMethod
  | emptyPath
  | emptyAuthority
  | invalidStatusValue
  | contentLengthInvalid
  | contentLengthConflict
  | authorityConflict
  | prohibitedFieldInTrailers
  | invalidMessageSequence
  | authorityFieldMalformed
  deriving DecidableEq, Repr

structure Http3HeaderError where
  kind : Http3HeaderErrorKind
  message : String
  deriving DecidableEq, Repr

structure Http3HeaderValidator where
  messageKind : Http3MessageKind
  isExtendedConnectPermitted : Bool := false
  isTrailersSection : Bool := false
  isHeadSectionDone : Bool := false
  sawRegularField : Bool := false
  hasHostHeader : Bool := false
  hostText : Bytes := []
  methodText : Bytes := []
  pathText : Bytes := []
  authorityText : Bytes := []
  schemeText : Bytes := []
  protocolText : Bytes := []
  statusCode : Option Nat := none
  contentLengthByteCount : Option Nat := none
  deriving DecidableEq, Repr

namespace Http3HeaderValidator

/-- What a judgement leaves of the validator. -/
abbrev Status := Except Http3HeaderError Http3HeaderValidator

def makeHeaderError (kind : Http3HeaderErrorKind) (message : String) :
    Status :=
  .error ⟨kind, message⟩

/-- The bytes of a text that is known to be printable. -/
def tokenText (text : Bytes) : String := String.ofList (text.map fun byte => Char.ofNat byte.toNat)

variable (v : Http3HeaderValidator) (value : Bytes)

def beginHeaderBlock (isTrailers : Bool) :
    Status :=
  if v.isHeadSectionDone && !isTrailers then
    makeHeaderError .invalidMessageSequence "同一消息里出现了第二个头段：HTTP/3 只允许一个头段加至多一个尾段（RFC 9114 §4.1）"
  else if isTrailers && !v.isHeadSectionDone then
    makeHeaderError .invalidMessageSequence "头块序列非法：尾段（trailer section）出现在头段之前（RFC 9114 §4.1）"
  else .ok { v with isTrailersSection := isTrailers, sawRegularField := false }

/-! ## Pseudo-headers -/

/-- Three digits, the first of which is not zero. -/
def onStatusHeader : Status :=
  if v.statusCode.isSome then
    makeHeaderError .duplicatePseudoHeader "响应里出现了第二个 :status（RFC 9114 §4.3.2）"
  else
    match value with
    | [hundreds, tens, ones] =>
      if hundreds < 0x31 || 0x39 < hundreds || !isDigit tens || !isDigit ones then
        invalid
      else .ok { v with
        statusCode := some ((hundreds.toNat - 0x30) * 100 +
          (tens.toNat - 0x30) * 10 + (ones.toNat - 0x30)) }
    | _ => invalid
where
  invalid : Status := makeHeaderError .invalidStatusValue
    s!":status 取值 \"{escapeForLog value}\" 不是三位十进制状态码（RFC 9114 §4.3.2）"

def onMethodHeader : Status :=
  if v.methodText ≠ [] then
    makeHeaderError .duplicatePseudoHeader "请求里出现了第二个 :method（RFC 9114 §4.3.1）"
  else if value = [] then
    makeHeaderError .missingPseudoHeader ":method 取值为空：方法名不得为空串（RFC 9110 §9）"
  else if !containsOnlyTokenCharacters value then
    makeHeaderError .malformedPseudoValue
      s!":method 取值 \"{escapeForLog value}\" 含 token 之外的字符：方法名必须符合字段名语法（RFC 9110 §9）"
  else .ok { v with methodText := value }

def onSchemeHeader : Status :=
  if v.schemeText ≠ [] then
    makeHeaderError .duplicatePseudoHeader "请求里出现了第二个 :scheme（RFC 9114 §4.3.1）"
  else if !isUriSchemeSyntax value then
    makeHeaderError .missingPseudoHeader
      s!":scheme 取值 \"{escapeForLog value}\" 不是合法的协议名（RFC 3986 §3.1：字母打头，其后字母/数字与 + - .）"
  else .ok { v with schemeText := value }

def onAuthorityHeader : Status :=
  if v.authorityText ≠ [] then
    makeHeaderError .duplicatePseudoHeader "请求里出现了第二个 :authority（RFC 9114 §4.3.1）"
  else if value = [] then
    makeHeaderError .emptyAuthority ":authority 取值为空：出现就必须非空（RFC 9114 §4.3.1）"
  else
    match findAuthorityFieldDefect value with
    | some defect => makeHeaderError .authorityFieldMalformed
        s!":authority 取值 \"{escapeForLog value}\" 不是合法的权威段（{defect}）：RFC 9110 §7.2 规定它是 uri-host[:端口]"
    | none => .ok { v with authorityText := value }

def onPathHeader : Status :=
  if v.pathText ≠ [] then
    makeHeaderError .duplicatePseudoHeader "请求里出现了第二个 :path（RFC 9114 §4.3.1）"
  else if value = [] then
    makeHeaderError .emptyPath ":path 为空：http/https 的目标 URI 至少要带 \"/\"（RFC 9114 §4.3.1）"
  else if value ≠ asciiText "*" ∧ value.head? ≠ some 0x2F then
    makeHeaderError .emptyPath
      s!":path 取值 \"{escapeForLog value}\" 不是以 / 开头的 path-absolute（RFC 9114 §4.3.1）"
  else if !value.all isRequestTargetCharacter then
    makeHeaderError .emptyPath s!":path 取值 \"{escapeForLog value}\" 含请求目标不允许的字符"
  else .ok { v with pathText := value }

def onProtocolHeader : Status :=
  if !v.isExtendedConnectPermitted then
    makeHeaderError .undefinedPseudoHeader
      "请求带了 :protocol，但对端没有用 SETTINGS_ENABLE_CONNECT_PROTOCOL=1 声明支持扩展 CONNECT（RFC 9220 §3.2）"
  else if v.protocolText ≠ [] then
    makeHeaderError .duplicatePseudoHeader "请求里出现了第二个 :protocol（RFC 9220 §3.1.1）"
  else if value = [] then
    makeHeaderError .undefinedPseudoHeader ":protocol 取值为空：扩展 CONNECT 必须写明协议名（RFC 9220 §3.1.1）"
  else if !containsOnlyTokenCharacters value then
    makeHeaderError .malformedPseudoValue
      s!":protocol 取值 \"{escapeForLog value}\" 含 token 之外的字符：协议名必须符合字段名语法（RFC 9220 §3.1.1）"
  else .ok { v with protocolText := value }

/-- A pseudo-header of a well-formed name, in its place. -/
def placePseudoHeader (name value : Bytes) :
    Status :=
  match v.messageKind with
  | .response =>
    if name ≠ asciiText "status" then
      makeHeaderError .undefinedPseudoHeader
        s!"响应里出现未定义的伪头 \":{tokenText name}\"：响应只定义 :status（RFC 9114 §4.3.2）"
    else v.onStatusHeader value
  | .request =>
    if name = asciiText "method" then v.onMethodHeader value
    else if name = asciiText "scheme" then v.onSchemeHeader value
    else if name = asciiText "authority" then v.onAuthorityHeader value
    else if name = asciiText "path" then v.onPathHeader value
    else if name = asciiText "protocol" then v.onProtocolHeader value
    else makeHeaderError .undefinedPseudoHeader s!"请求里出现未定义的伪头 \":{tokenText name}\"（RFC 9114 §4.3）"

/-- The name comes without its colon. -/
def onPseudoHeader (name value : Bytes) :
    Status :=
  if v.isTrailersSection then
    makeHeaderError .pseudoHeaderInTrailers
      s!"伪头 \":{tokenText name}\" 出现在尾段里：尾段只允许普通字段（RFC 9114 §4.3）"
  else if v.sawRegularField then
    makeHeaderError .pseudoHeaderAfterField s!"伪头 \":{tokenText name}\" 出现在普通字段之后（RFC 9114 §4.3）"
  else if name = [] then
    makeHeaderError .undefinedPseudoHeader "伪头名只有一个冒号，没有任何名字"
  else if !containsOnlyTokenCharacters name || containsUppercaseAscii name then
    makeHeaderError .undefinedPseudoHeader s!"伪头名 \"{tokenText name}\" 含非法字符或大写字母（RFC 9110 §5.1）"
  else if !containsOnlyFieldValueCharacters value then
    makeHeaderError .illegalFieldValueCharacter
      "头字段取值含控制字符（RFC 9110 §5.5 只允许 HTAB、可见 ASCII 与 obs-text）"
  else v.placePseudoHeader name value

/-! ## Regular fields -/

/-- The first character at fault decides which error it is. -/
def validateFieldName (name : Bytes) : Option Http3HeaderError :=
  match name.find? fun character =>
      !isTokenCharacter character || (0x41 ≤ character && character ≤ 0x5A) with
  | none => none
  | some character =>
    if !isTokenCharacter character then
      some ⟨.illegalFieldNameCharacter, s!"字段名 \"{escapeForLog name}\" 含 tchar 之外的字符（RFC 9110 §5.1）"⟩
    else
      some ⟨.uppercaseFieldName, s!"字段名 \"{escapeForLog name}\" 含大写字母：必须在编码前转为小写（RFC 9114 §4.2）"⟩

def onHostField : Status :=
  if v.hasHostHeader && v.hostText ≠ value then
    makeHeaderError .authorityConflict "请求里出现了取值不一致的多个 host 字段（RFC 9110 §7.2）"
  else if value = [] then
    makeHeaderError .emptyAuthority "host 字段取值为空：出现就必须非空（RFC 9114 §4.3.1）"
  else
    match findAuthorityFieldDefect value with
    | some defect => makeHeaderError .authorityFieldMalformed
        s!"host 字段取值 \"{escapeForLog value}\" 不是合法的权威段（{defect}）：RFC 9110 §7.2 规定它是 uri-host[:端口]"
    | none => .ok { v with hasHostHeader := true, hostText := value }

def onContentLengthField :
    Status :=
  match parseContentLengthValue value with
  | none => makeHeaderError .contentLengthInvalid
      s!"content-length 取值 \"{escapeForLog value}\" 不是非负十进制整数（RFC 9110 §8.6）"
  | some declaredLength =>
    if v.contentLengthByteCount.any (· ≠ declaredLength) then
      makeHeaderError .contentLengthConflict "出现了取值不一致的第二个 content-length（RFC 9110 §8.6）"
    else .ok { v with contentLengthByteCount := some declaredLength }

/-- A well-formed field, by its name. Of the fields that name a connection
only te may be there, with one value. -/
def onNamedField (name value : Bytes) : Status :=
  if equalsIgnoringCase name (asciiText "te") then
    if !teValueIsTrailers value then
      makeHeaderError .teValueNotAllowed
        s!"TE 的取值 \"{escapeForLog value}\" 不是 trailers：HTTP/3 只放行这一个值（RFC 9114 §4.2）"
    else .ok v
  else if isConnectionSpecificHeaderName name then
    makeHeaderError .connectionFieldProhibited
      s!"头部含 HTTP/3 禁止的连接特定字段 \"{tokenText name}\"（RFC 9114 §4.2）"
  else if v.isTrailersSection &&
      (equalsIgnoringCase name (asciiText "content-length") ||
        equalsIgnoringCase name (asciiText "host")) then
    makeHeaderError .prohibitedFieldInTrailers
      s!"尾段里出现了 \"{tokenText name}\"：尾段不得携带消息长度与权威信息（RFC 9110 §6.5）"
  else if equalsIgnoringCase name (asciiText "host") then v.onHostField value
  else if equalsIgnoringCase name (asciiText "content-length") then
    v.onContentLengthField value
  else .ok v

def onRegularField (name value : Bytes) :
    Status :=
  match validateFieldName name with
  | some nameError => .error nameError
  | none =>
    if !containsOnlyFieldValueCharacters value then
      makeHeaderError .illegalFieldValueCharacter
        "头字段取值含控制字符（RFC 9110 §5.5 只允许 HTAB、可见 ASCII 与 obs-text）"
    else onNamedField { v with sawRegularField := true } name value

def onHeaderField (field : QpackHeaderField) :
    Status :=
  match field.name with
  | [] => makeHeaderError .emptyFieldName "头字段名为空：无法构成合法的 field-name（RFC 9110 §5.1）"
  | front :: name =>
    if front = 0x3A then v.onPseudoHeader name field.value
    else v.onRegularField field.name field.value

/-! ## The end of a section -/

def isConnectRequest : Bool := v.methodText = asciiText "CONNECT"

/-- Classic CONNECT names its target in the authority alone. -/
def endConnectRequest : Status :=
  if v.schemeText ≠ [] ∨ v.pathText ≠ [] then
    makeHeaderError .prohibitedPseudoForMethod
      "CONNECT 请求带了 :scheme 或 :path：经典 CONNECT 必须省略这两项（RFC 9114 §4.4）"
  else if v.authorityText = [] then
    makeHeaderError .missingPseudoHeader "CONNECT 请求缺少 :authority：它给出要连的目标主机与端口（RFC 9114 §4.4）"
  else .ok v

/-- Where the authority comes from, by the scheme. -/
def endAuthority : Status :=
  let schemeNeedsAuthority := equalsIgnoringCase v.schemeText (asciiText "http") ||
      equalsIgnoringCase v.schemeText (asciiText "https")
  if schemeNeedsAuthority && v.authorityText = [] && !v.hasHostHeader then
    makeHeaderError .missingPseudoHeader
      s!":scheme 为 {tokenText v.schemeText} 的请求必须带 :authority 或 host（RFC 9114 §4.3.1）"
  else if !schemeNeedsAuthority && (v.authorityText ≠ [] || v.hasHostHeader) then
    makeHeaderError .authorityConflict
      s!":scheme 为 {tokenText v.schemeText} 的请求不得带 :authority 或 host（RFC 9114 §4.3.1）"
  else if v.authorityText ≠ [] && v.hasHostHeader && v.authorityText ≠ v.hostText then
    makeHeaderError .authorityConflict ":authority 与 host 同时出现且取值不一致（RFC 9114 §4.3.1）"
  else .ok v

def endRequest : Status :=
  if v.methodText = [] then
    makeHeaderError .missingPseudoHeader "请求缺少 :method（RFC 9114 §4.3.1）"
  else if v.isConnectRequest && v.protocolText = [] then v.endConnectRequest
  else if v.protocolText ≠ [] && !v.isConnectRequest then
    makeHeaderError .prohibitedPseudoForMethod
      s!":protocol 出现在 {tokenText v.methodText} 请求里：RFC 9220 只把它定义给 CONNECT（扩展 CONNECT），请改用 CONNECT 或去掉该伪头"
  else if v.schemeText = [] then
    makeHeaderError .missingPseudoHeader "请求缺少 :scheme（RFC 9114 §4.3.1）"
  else if v.pathText = [] then
    makeHeaderError .missingPseudoHeader "请求缺少 :path（RFC 9114 §4.3.1）"
  else if v.pathText = asciiText "*" ∧ v.methodText ≠ asciiText "OPTIONS" then
    makeHeaderError .prohibitedPseudoForMethod
      s!":path 取值 \"*\"（asterisk-form）只用于 OPTIONS，收到的是 {tokenText v.methodText}（RFC 9112 §3.2.4）"
  else v.endAuthority

def endHeaderBlock : Status :=
  let v := { v with isHeadSectionDone := true }
  if v.isTrailersSection then .ok { v with isTrailersSection := false }
  else
    match v.messageKind with
    | .response =>
      if v.statusCode.isNone then
        makeHeaderError .missingPseudoHeader "响应缺少 :status（RFC 9114 §4.3.2）"
      else .ok v
    | .request => v.endRequest

end Http3HeaderValidator

end AsynGyanis.Http3
