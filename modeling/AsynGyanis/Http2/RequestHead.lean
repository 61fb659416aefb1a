import AsynGyanis.Http.HeaderRules
import AsynGyanis.Http2.Connection

/-!
# Request heads of HTTP/2

What an HTTP/2 server takes for the head of a request and for its trailers:
`acceptRequestHeaderFields` and `acceptTrailerHeaderFields` on a decoded
header list. A head that is too long is not refused here, only marked. The
flag and the text of a pseudo-header are one optional value.
-/

namespace AsynGyanis.Http2

open Http (asciiText containsUppercaseAscii
  containsOnlyTokenCharacters containsOnlyFieldValueCharacters exceedsBudget
  escapeForLog findAuthorityFieldDefect normalizeHostComparisonKey
  isUriSchemeSyntax isRequestTargetCharacter isConnectionSpecificHeaderName
  teValueIsTrailers parseContentLengthValue HttpParserLimits)

/-- What is made of the fields of a request. -/
structure RequestHead where
  method : Bytes := []
  scheme : Bytes := []
  path : Bytes := []
  authority : Bytes := []
  protocol : Bytes := []
  headerFields : List HpackHeaderField := []
  isUriTooLong : Bool := false
  headerFieldTotal : Nat := 0
  headerNetByteTotal : Nat := 0
  deriving DecidableEq, Repr

/-- What the scan of a header list has seen. -/
structure HeadScan where
  hasSeenRegularHeader : Bool := false
  method : Option Bytes := none
  scheme : Option Bytes := none
  path : Option Bytes := none
  authority : Option Bytes := none
  protocol : Option Bytes := none
  contentLength : Option Nat := none
  firstHostValue : Option Bytes := none
  headerFields : List HpackHeaderField := []
  isUriTooLong : Bool := false
  deriving DecidableEq, Repr

/-- The bytes of a message that is not escaped. -/
def plainText (text : Bytes) : String := String.ofList (text.map fun byte => Char.ofNat byte.toNat)

def acceptRequestAuthorityField (authorityValue : Bytes) : Except String Unit :=
  match findAuthorityFieldDefect authorityValue with
  | none => .ok ()
  | some defect => .error s!":authority 取值 \"{escapeForLog authorityValue}\" 不是合法的权威段（{defect}）：RFC 9113 §8.3.1 禁止 http/https 的 :authority 带 userinfo，其余按 RFC 9110 §7.2 的 uri-host[:端口] 判"

/-- A Host is the same entity as the authority and as the first Host, up to
port, case and final dots. -/
def acceptRequestHostField (hostValue : Bytes)
    (authority firstHostValue : Option Bytes) : Except String Bytes :=
  match findAuthorityFieldDefect hostValue with
  | some defect => .error s!"请求头 host 的取值 \"{escapeForLog hostValue}\" 不是合法的权威段（{defect}）：RFC 9110 §7.2 规定它是 uri-host[:端口]，不带 userinfo、空白与路径"
  | none =>
    if authority.any fun authority => authority ≠ [] && normalizeHostComparisonKey hostValue ≠
          normalizeHostComparisonKey authority then
      .error s!"请求头 host 的取值 \"{escapeForLog hostValue}\" 与 :authority \"{escapeForLog (authority.getD [])}\" 不是同一个实体：RFC 9113 §8.3.1 要求两者一致（比较前按 RFC 3986 §6.2 归一化——去端口、折小写、去结尾的根点），请让对端只保留一种说法"
    else if firstHostValue.any fun firstHostValue =>
        normalizeHostComparisonKey hostValue ≠ normalizeHostComparisonKey firstHostValue then
      .error s!"请求头 host 出现了取值不一致的多条：\"{escapeForLog (firstHostValue.getD [])}\" 与 \"{escapeForLog hostValue}\" 折出的比对键不同（RFC 9110 §7.2 要求发送方不得生成多条 Host；比较与 :authority 那条判据、选站共用同一份归一化），请让对端只保留一条"
    else .ok (firstHostValue.getD hostValue)

/-! ## Fields of a head -/

/-- A pseudo-header in its place, if that is still free. -/
def placePseudoHeader (limits : HttpParserLimits) (scan : HeadScan)
    (field : HpackHeaderField) : Except String HeadScan :=
  if field.name = asciiText ":method" then
    if scan.method.isSome then
      .error ":method 伪头出现了两次：RFC 9113 §8.3.1 要求每个请求带且只带一个"
    else .ok { scan with method := some field.value }
  else if field.name = asciiText ":scheme" then
    if scan.scheme.isSome then
      .error ":scheme 伪头出现了两次：RFC 9113 §8.3.1 要求每个请求带且只带一个"
    else if !isUriSchemeSyntax field.value then
      .error s!":scheme 取值 \"{escapeForLog field.value}\" 不是合法的协议名：RFC 3986 §3.1 要求字母打头，其后只允许字母/数字与 + - ."
    else .ok { scan with scheme := some field.value }
  else if field.name = asciiText ":path" then
    if scan.path.isSome then
      .error ":path 伪头出现了两次：RFC 9113 §8.3.1 要求每个请求带且只带一个"
    else if !field.value.all isRequestTargetCharacter then
      .error s!":path 取值 \"{escapeForLog field.value}\" 含请求目标不允许的字符：裸 # 与反斜杠都不收（片段不属于请求目标，RFC 9110 §7.1；要表达 # 请写成 %23）"
    else .ok { scan with
      path := some field.value
      isUriTooLong := exceedsBudget field.value.length limits.maximumUriLength }
  else if field.name = asciiText ":authority" then
    if scan.authority.isSome then
      .error ":authority 伪头出现了两次：RFC 9113 §8.3.1 要求每个请求最多带一个"
    else do
      acceptRequestAuthorityField field.value
      return { scan with authority := some field.value }
  else if field.name = asciiText ":protocol" then
    if scan.protocol.isSome then
      .error ":protocol 伪头出现了两次：RFC 8441 §4 要求它只出现一次"
    else .ok { scan with protocol := some field.value }
  else .error s!"出现未知伪头 \"{escapeForLog field.name}\"：RFC 9113 §8.3 只定义了 :method/:scheme/:path/:authority 四个（:protocol 见 RFC 8441）"

def acceptRequestPseudoHeader (limits : HttpParserLimits) (scan : HeadScan)
    (field : HpackHeaderField) : Except String HeadScan :=
  if scan.hasSeenRegularHeader then
    .error s!"伪头 \"{escapeForLog field.name}\" 出现在普通头部之后：RFC 9113 §8.3 要求所有伪头必须排在普通头部之前"
  else do
    let placed ← placePseudoHeader limits scan field
    if !containsOnlyFieldValueCharacters field.value then
      .error s!"伪头 \"{escapeForLog field.name}\" 的值含 CR/LF/NUL 之类的控制字符：这类字节既不是合法头值，又是注入的经典入口，请让对端改用百分号编码"
    else return placed

/-- Repeated lengths have to be the same number. -/
def acceptRequestContentLength (contentLength : Option Nat) (value : Bytes) : Except String Nat :=
  match parseContentLengthValue value with
  | none => refuse
  | some declaredLength =>
    if contentLength.any (· ≠ declaredLength) then refuse
    else .ok declaredLength
where
  refuse : Except String Nat :=
    .error s!"请求头 content-length 的取值 \"{escapeForLog value}\" 非法或前后冲突：RFC 9110 §8.6 要求它是单个十进制数字，重复出现时必须完全一致"

variable (scan : HeadScan) (field : HpackHeaderField)

def noteContentLength : Except String (Option Nat) :=
  if field.name = asciiText "content-length" then
    (acceptRequestContentLength scan.contentLength field.value).map some
  else .ok scan.contentLength

def noteHost : Except String (Option Bytes) :=
  if field.name = asciiText "host" then
    (acceptRequestHostField field.value scan.authority scan.firstHostValue).map some
  else .ok scan.firstHostValue

def acceptRequestRegularField : Except String HeadScan :=
  if isConnectionSpecificHeaderName field.name then
    .error s!"请求头里出现连接特定头 \"{escapeForLog field.name}\"：RFC 9113 §8.2.2 禁止 connection/keep-alive/proxy-connection/transfer-encoding/upgrade 出现在 HTTP/2 报文里"
  else if field.name = asciiText "te" ∧ !teValueIsTrailers field.value then
    .error s!"请求头 te 的取值是 \"{escapeForLog field.value}\"：RFC 9113 §8.2.2 只允许 te: trailers，请让对端改掉"
  else if !containsOnlyTokenCharacters field.name then
    .error s!"请求头名 \"{escapeForLog field.name}\" 含 token 之外的字符（空白、冒号前空白等）：RFC 9113 §8.2 要求头部名符合字段名语法，请让对端按 token 字符集拼头名"
  else if !containsOnlyFieldValueCharacters field.value then
    .error s!"请求头 \"{escapeForLog field.name}\" 的值含 CR/LF/NUL 之类的控制字符：这类字节既不是合法头值，又是注入的经典入口，请让对端改用百分号编码"
  else do
    let contentLength ← noteContentLength scan field
    let firstHostValue ← noteHost scan field
    return { scan with
      hasSeenRegularHeader := true
      contentLength := contentLength
      firstHostValue := firstHostValue
      headerFields := scan.headerFields ++ [field] }

def acceptRequestHeaderField (limits : HttpParserLimits) (scan : HeadScan)
    (field : HpackHeaderField) : Except String HeadScan :=
  if field.name = [] then
    .error "请求头里出现空头名：RFC 9113 §8.2 要求头部名必须是非空的小写字段名"
  else if containsUppercaseAscii field.name then
    .error s!"请求头名 \"{escapeForLog field.name}\" 含大写字母：RFC 9113 §8.2 要求 HTTP/2 的头部名必须全小写，请让对端改成小写"
  else if field.name.head? = some 0x3A then
    acceptRequestPseudoHeader limits scan field
  else acceptRequestRegularField scan field

/-! ## The head as a whole -/

def acceptRequestTargetPath (method path : Bytes) : Except String Unit :=
  if path = [] then
    .error ":path 伪头的值为空：RFC 9113 §8.3.1 要求 http/https URI 的 :path 不能为空（只有 OPTIONS 可以用 \"*\" 表示「整个服务」）"
  else if path = asciiText "*" then
    if method ≠ asciiText "OPTIONS" then
      .error s!":path 取值 \"*\"（asterisk-form）只用于 OPTIONS，收到的是 {plainText method}（RFC 9112 §3.2.4）：请给出 origin-form 的路径（以 / 开头）"
    else .ok ()
  else if path.head? ≠ some 0x2F then
    .error s!":path 取值 \"{escapeForLog path}\" 不以 / 开头：RFC 9113 §8.3.1 要求 http/https 的 :path 是 origin-form 或 \"*\"，origin-form 的 absolute-path 以 / 为起点（RFC 9112 §3.2.1）"
  else .ok ()

/-- A :protocol is for CONNECT only, and only where it was offered. -/
def acceptRequestProtocol (enableConnectProtocol : Nat)
    (method protocol : Bytes) : Except String Unit :=
  if enableConnectProtocol = 0 then
    .error ":protocol 伪头出现在本端未开启（SETTINGS_ENABLE_CONNECT_PROTOCOL=0）的连接上：RFC 8441 §3 要求扩展 CONNECT 先由该参数选出，本端没有支持，请改用 h1 的 Upgrade 握手"
  else if method ≠ asciiText "CONNECT" then
    .error s!":protocol 伪头出现在 {plainText method} 请求里：RFC 8441 §4 只把它定义给 CONNECT，请改用 CONNECT 或去掉该伪头"
  else if !containsOnlyTokenCharacters protocol then
    .error s!":protocol 取值 \"{plainText protocol}\" 非法：RFC 8441 §4 要求它是一个协议名 token（本端支持 websocket）"
  else .ok ()

/-- The target of a request, by its method. -/
def acceptRequestTarget (method : Bytes) : Except String Unit :=
  if method = asciiText "CONNECT" then
    if scan.protocol.isSome then
      if scan.scheme.isNone ∨ scan.path.isNone then
        .error "带 :protocol 的 CONNECT 缺少 :scheme 或 :path：RFC 8441 §4 要求扩展 CONNECT 同时给出这两个伪头（普通 CONNECT 恰好相反，要求省略它们）"
      else if scan.authority.getD [] = [] then
        .error "带 :protocol 的 CONNECT 缺少非空的 :authority：RFC 8441 §4 要求给出目标主机与端口"
      else .ok ()
    else if scan.scheme.isSome ∨ scan.path.isSome then
      .error "CONNECT 请求带了 :scheme 或 :path：RFC 9113 §8.5 要求 CONNECT 请求省略这两个伪头，只保留 :method 与 :authority"
    else if scan.authority.getD [] = [] then
      .error "CONNECT 请求缺少非空的 :authority：RFC 9113 §8.5 要求 CONNECT 必须给出目标主机与端口"
    else .ok ()
  else if scan.scheme.isNone then
    .error "请求缺少 :scheme 伪头：RFC 9113 §8.3.1 要求非 CONNECT 请求必须带 :scheme"
  else
    match scan.path with
    | none => .error "请求缺少 :path 伪头：RFC 9113 §8.3.1 要求非 CONNECT 请求必须带 :path"
    | some path => acceptRequestTargetPath method path

def finishRequestHead (enableConnectProtocol : Nat) (scan : HeadScan) : Except String Unit :=
  match scan.method with
  | none => .error "请求缺少 :method 伪头：RFC 9113 §8.3.1 要求每个请求都必须带 :method"
  | some method =>
    if method = [] then
      .error ":method 伪头的值为空：RFC 9113 §8.3.1 要求给出非空的方法名"
    else if !containsOnlyTokenCharacters method then
      .error s!":method 取值 \"{plainText method}\" 含 token 之外的字符：RFC 9113 §8.3.1 要求方法名符合字段名语法"
    else
      match scan.protocol with
      | none => acceptRequestTarget scan method
      | some protocol => do
        acceptRequestProtocol enableConnectProtocol method protocol
        acceptRequestTarget scan method

def acceptRequestHeaderFields (limits : HttpParserLimits)
    (enableConnectProtocol : Nat) (headerFields : List HpackHeaderField) :
    Except String (Http2Request RequestHead) := do
  let scan ← headerFields.foldlM (acceptRequestHeaderField limits) {}
  finishRequestHead enableConnectProtocol scan
  let netByteTotal := (headerFields.map fun field =>
    field.name.length + field.value.length).sum
  return {
      head :=
        { method := scan.method.getD []
          scheme := scan.scheme.getD []
          path := scan.path.getD []
          authority := scan.authority.getD []
          protocol := scan.protocol.getD []
          headerFields := scan.headerFields
          isUriTooLong := scan.isUriTooLong
          headerFieldTotal := headerFields.length
          headerNetByteTotal := netByteTotal }
      isHeaderListTooLarge := exceedsBudget headerFields.length limits.maximumHeaderCount ||
          exceedsBudget netByteTotal limits.maximumHeaderBlockLength }

/-! ## Trailers -/

def acceptTrailerHeaderField : Except String Unit :=
  if field.name = [] then
    .error "尾部头块里出现空头名：RFC 9113 §8.2 要求头部名必须是非空的小写字段名"
  else if containsUppercaseAscii field.name then
    .error s!"尾部头块的头名 \"{escapeForLog field.name}\" 含大写字母：RFC 9113 §8.2 要求 HTTP/2 的头部名必须全小写"
  else if field.name.head? = some 0x3A then
    .error s!"尾部头块里出现伪头 \"{escapeForLog field.name}\"：RFC 9113 §8.3 要求尾部头块不得包含伪头"
  else if isConnectionSpecificHeaderName field.name then
    .error s!"尾部头块里出现连接特定头 \"{escapeForLog field.name}\"：RFC 9113 §8.2.2 禁止这类头部出现在 HTTP/2 报文里"
  else if field.name = asciiText "te" ∧ !teValueIsTrailers field.value then
    .error s!"尾部头块里 te 的取值是 \"{escapeForLog field.value}\"：RFC 9113 §8.2.2 只允许 te: trailers"
  else if !containsOnlyTokenCharacters field.name ∨
      !containsOnlyFieldValueCharacters field.value then
    .error s!"尾部头块的头 \"{escapeForLog field.name}\" 含 token 之外的头名或 CR/LF/NUL 之类的头值控制字符，请让对端按字段语法重新拼"
  else .ok ()

def acceptTrailerHeaderFields (headerFields : List HpackHeaderField) : Except String Unit :=
  headerFields.forM acceptTrailerHeaderField

end AsynGyanis.Http2
