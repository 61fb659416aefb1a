import AsynGyanis.Http.FramingRules
import AsynGyanis.Library.Resumable

/-!
# The parser of HTTP/1 requests

`HttpParser::parse` takes the bytes of a connection in pieces, as they
arrive. It works in rounds: part of a body, part of the data of a chunk, a
byte behind it, or a line. A line that is not yet complete stays in
`pendingLine`. At the end of a message the parser stops; what is left of the
input belongs to the next one.

The parse functions answer with a failure, which `recordFailure` keeps. A
view of a line that was put together from two pieces stays in the source's
buffer until the next line is taken; as a value it leaves the buffer at once.
-/

namespace AsynGyanis.Http

open Library

inductive HttpMethod
  | get | post | put | delete | patch | head | options | unknown
  deriving DecidableEq, Repr

def methodFromString (method : Bytes) : HttpMethod :=
  if method = asciiText "GET" then .get
  else if method = asciiText "POST" then .post
  else if method = asciiText "PUT" then .put
  else if method = asciiText "DELETE" then .delete
  else if method = asciiText "PATCH" then .patch
  else if method = asciiText "HEAD" then .head
  else if method = asciiText "OPTIONS" then .options
  else .unknown

/-- What a parser hands over: the names of fields are in lower case. -/
structure HttpRequest where
  method : HttpMethod := .unknown
  uri : Bytes := []
  httpVersion : Bytes := []
  headers : List (Bytes × Bytes) := []
  body : Bytes := []
  trailers : List (Bytes × Bytes) := []
  deriving DecidableEq, Repr

def toCanonicalHeaderName (name : Bytes) : Bytes := name.map toLowerAscii

/-- Trailers speak neither of the length nor of the target. -/
def HttpRequest.addTrailerField (request : HttpRequest) (name value : Bytes) : HttpRequest :=
  let normalizedName := toCanonicalHeaderName name
  if normalizedName = asciiText "content-length" ∨ normalizedName = asciiText "host" ∨
      isConnectionSpecificHeaderName normalizedName then request
  else { request with
    trailers := request.trailers ++ [(normalizedName, value)] }

inductive HttpParseErrorKind
  | none | malformed | headerTooLarge | bodyTooLarge | uriTooLarge
  deriving DecidableEq, Repr

structure ParseFailure where
  kind : HttpParseErrorKind
  message : String
  deriving DecidableEq, Repr

abbrev Parsed (α : Type) := Except ParseFailure α

abbrev failMalformed {α : Type} (message : String) : Parsed α := .error ⟨.malformed, message⟩

abbrev failHeaderTooLarge {α : Type} (message : String) : Parsed α :=
  .error ⟨.headerTooLarge, message⟩

abbrev failBodyTooLarge {α : Type} (message : String) : Parsed α := .error ⟨.bodyTooLarge, message⟩

abbrev failUriTooLarge {α : Type} (message : String) : Parsed α := .error ⟨.uriTooLarge, message⟩

inductive HttpParserStage
  | requestLine | headers | body | complete | failed
  | chunkSize | chunkData | chunkDataTerminator | trailer
  deriving DecidableEq, Repr

structure HttpParser where
  limits : HttpParserLimits := {}
  stage : HttpParserStage := .requestLine
  currentRequest : HttpRequest := {}
  method : HttpMethod := .unknown
  uri : Bytes := []
  httpVersion : Bytes := []
  headerStaging : List (Bytes × Bytes) := []
  body : Bytes := []
  pendingLine : Bytes := []
  trailerFields : List (Bytes × Bytes) := []
  contentLength : Nat := 0
  receivedBodyLength : Nat := 0
  headerFieldCount : Nat := 0
  headerBlockLength : Nat := 0
  hasContentLength : Bool := false
  hasContinueExpectation : Bool := false
  hasTransferEncoding : Bool := false
  hostHeaderFieldCount : Nat := 0
  transferEncodingValue : Bytes := []
  chunkRemainingBytes : Nat := 0
  chunkTerminatorBytesSeen : Nat := 0
  errorKind : HttpParseErrorKind := .none
  errorMessage : String := ""
  deriving DecidableEq, Repr

def kMaximumMethodLength : Nat := 32

namespace HttpParser

variable (p : HttpParser) (line : Bytes) (data : Bytes)

def recordFailure (failure : ParseFailure) : HttpParser :=
  { p with
    stage := .failed, errorKind := failure.kind
    errorMessage := failure.message }

def clearMessageScratch : HttpParser :=
  { p with
    method := .unknown, uri := [], httpVersion := [], headerStaging := []
    body := [], trailerFields := [], contentLength := 0
    receivedBodyLength := 0, headerFieldCount := 0, headerBlockLength := 0
    hasContentLength := false, hostHeaderFieldCount := 0
    hasContinueExpectation := false, hasTransferEncoding := false
    transferEncodingValue := [], chunkRemainingBytes := 0
    chunkTerminatorBytesSeen := 0 }

def reset : HttpParser :=
  { p.clearMessageScratch with
    currentRequest := {}, pendingLine := [], stage := .requestLine
    errorKind := .none, errorMessage := "" }

/-- The message is complete: it becomes the current request. -/
def commitMessage : HttpParser :=
  let request : HttpRequest :=
    { method := p.method, uri := p.uri, httpVersion := p.httpVersion
      headers := p.headerStaging, body := p.body }
  { p.clearMessageScratch with
    currentRequest := p.trailerFields.foldl
      (fun request field => request.addTrailerField field.1 field.2) request }

/-! ## Lines -/

/-- The limit for the line of a stage. -/
def lineLengthLimit : Nat :=
  match p.stage with
  | .requestLine => p.limits.requestLineLengthLimit
  | .chunkSize => p.limits.maximumChunkSizeLineLength
  | _ => p.limits.headerLineLengthLimit

/-- The failure for a line that exceeds it. -/
def lineTooLong : ParseFailure :=
  match p.stage with
  | .requestLine =>
    ⟨.uriTooLarge, s!"请求行超出上限 {p.lineLengthLimit} 字节"⟩
  | .chunkSize =>
    ⟨.bodyTooLarge, s!"分块块大小行超出上限 {p.lineLengthLimit} 字节"⟩
  | _ => ⟨.headerTooLarge, s!"头部行超出上限 {p.lineLengthLimit} 字节"⟩

def checkLineLength (length : Nat) : Parsed Unit :=
  if exceedsBudget length p.lineLengthLimit then .error p.lineTooLong
  else .ok ()

def bareLineFeed : ParseFailure := ⟨.malformed, "HTTP 报文解析失败：行尾必须是 CRLF（不允许单独出现 LF）"⟩

/-- What taking a line comes to: a failure, a line that is not complete yet,
or a line, with what is left of the input. -/
inductive TakenLine
  | failed (failure : ParseFailure) (rest : Bytes)
  | pending (p : HttpParser)
  | line (p : HttpParser) (line rest : Bytes)

/-- The line begins in this piece of input. -/
def takeLineFast : TakenLine :=
  let body := data.takeWhile (· ≠ lineFeed)
  match data.dropWhile (· ≠ lineFeed) with
  | [] =>
    match p.checkLineLength (lineBodyByteCountWithoutTerminator 0
        data.length (endsWithCarriageReturn data)) with
    | .error failure => .failed failure data
    | .ok _ => .pending { p with pendingLine := data }
  | _ :: rest =>
    if !endsWithCarriageReturn body then .failed bareLineFeed data
    else
      match p.checkLineLength (lineBodyByteCountWithTerminator (body.length + 1)) with
      | .error failure => .failed failure data
      | .ok _ => .line p body.dropLast rest

/-- The line goes on from an earlier piece: here its length is judged before
its end is looked at. -/
def takeLineSlow : TakenLine :=
  let body := data.takeWhile (· ≠ lineFeed)
  match data.dropWhile (· ≠ lineFeed) with
  | [] =>
    match p.checkLineLength (lineBodyByteCountWithoutTerminator
        p.pendingLine.length data.length (endsWithCarriageReturn data)) with
    | .error failure => .failed failure data
    | .ok _ => .pending { p with pendingLine := p.pendingLine ++ data }
  | _ :: rest =>
    match p.checkLineLength (lineBodyByteCountWithTerminator
        (p.pendingLine.length + (body.length + 1))) with
    | .error failure => .failed failure data
    | .ok _ =>
      if !endsWithCarriageReturn (p.pendingLine ++ body) then
        .failed bareLineFeed rest
      else .line { p with pendingLine := [] } (p.pendingLine ++ body).dropLast rest

def takeLine : TakenLine :=
  if p.pendingLine = [] then p.takeLineFast data else p.takeLineSlow data

/-! ## The request line -/

/-- HTTP/0.x and HTTP/1.x, with one digit. -/
def isVersionWellFormed (version : Bytes) : Bool := version.take 5 = asciiText "HTTP/" &&
    match version.drop 5 with
    | [major, point, minor] =>
      (major = 0x30 || major = 0x31) && point = 0x2E && isDigit minor
    | _ => false

/-- The versions that know interim responses and require a host. -/
def isAtLeastHttp11 (version : Bytes) : Bool :=
  version.length = 8 && version.getD 5 0 = 0x31 && 0x31 ≤ version.getD 7 0

/-- Method, target and version: what stands before the first space, between
the first and the last, and behind the last. -/
def splitRequestLine : Option (Bytes × Bytes × Bytes) :=
  match line.dropWhile (· ≠ 0x20) with
  | [] => none
  | _ :: rest =>
    if rest.contains 0x20 then
      some (line.takeWhile (· ≠ 0x20), (rest.rdropWhile (· ≠ 0x20)).dropLast,
        rest.rtakeWhile (· ≠ 0x20))
    else none

def parseRequestLine : Parsed HttpParser :=
  match splitRequestLine line with
  | none =>
    failMalformed "HTTP 报文解析失败：请求行必须是「方法 目标 版本」三段，以空格分隔"
  | some (methodText, targetText, versionText) =>
    if methodText = [] ∨ kMaximumMethodLength < methodText.length then
      failMalformed s!"HTTP 报文解析失败：请求方法长度必须在 1 到 {kMaximumMethodLength} 字节之间"
    else if !containsOnlyTokenCharacters methodText then
      failMalformed "HTTP 报文解析失败：请求方法只能由 token 字符组成"
    else if targetText = [] then
      failMalformed "HTTP 报文解析失败：请求目标不能为空"
    else if exceedsBudget targetText.length p.limits.maximumUriLength then
      failUriTooLarge s!"请求 URI 超出上限 {p.limits.maximumUriLength} 字节"
    else if !targetText.all isRequestTargetCharacter then
      failMalformed "HTTP 报文解析失败：请求目标含非法字符（空格、控制字符、裸 # 与反斜杠都不允许；要表达字符 # 请写成 %23）"
    else if targetText = asciiText "*" ∧ methodText ≠ asciiText "OPTIONS" then
      failMalformed s!"HTTP 报文解析失败：请求目标 \"*\"（asterisk-form）只用于 OPTIONS，收到的是 {plainText methodText}；请给出 origin-form 的路径（以 / 开头）"
    else if !isVersionWellFormed versionText then
      failMalformed "HTTP 报文解析失败：版本必须是 HTTP/1.x 或 HTTP/0.x 的形式"
    else .ok { p with
      method := methodFromString methodText, uri := targetText
      httpVersion := versionText, stage := .headers }

/-! ## Field lines -/

/-- The name and the value of a line, against all limits. -/
def parseFieldLine (fieldContextLabel : String) : Parsed (HttpParser × Bytes × Bytes) :=
  let fieldName := line.takeWhile (· ≠ 0x3A)
  let fieldValue := trimOptionalWhitespace ((line.dropWhile (· ≠ 0x3A)).drop 1)
  if line.head?.any isOptionalWhitespace then
    failMalformed "HTTP 报文解析失败：不支持折行（obs-fold）头部，请把值写在同一行"
  else if !line.contains 0x3A ∨ fieldName = [] then
    failMalformed s!"HTTP 报文解析失败：{fieldContextLabel}行必须是「名: 值」的形式"
  else if !containsOnlyTokenCharacters fieldName then
    failMalformed s!"HTTP 报文解析失败：{fieldContextLabel}名只能由 token 字符组成（冒号前不得有空白）"
  else if exceedsBudget fieldName.length p.limits.maximumHeaderFieldNameLength then
    failHeaderTooLarge s!"{fieldContextLabel}名超出上限 {p.limits.maximumHeaderFieldNameLength} 字节"
  else if exceedsBudget fieldValue.length p.limits.maximumHeaderFieldValueLength then
    failHeaderTooLarge s!"{fieldContextLabel}值超出上限 {p.limits.maximumHeaderFieldValueLength} 字节"
  else if !containsOnlyFieldValueCharacters fieldValue then
    failMalformed s!"HTTP 报文解析失败：{fieldContextLabel}值含非法控制字符"
  else if exceedsBudget (p.headerBlockLength + fieldName.length + fieldValue.length)
      p.limits.maximumHeaderBlockLength then
    failHeaderTooLarge s!"{fieldContextLabel}总长超出上限 {p.limits.maximumHeaderBlockLength} 字节"
  else if exceedsBudget (p.headerFieldCount + 1) p.limits.maximumHeaderCount then
    failHeaderTooLarge s!"{fieldContextLabel}条数超出上限 {p.limits.maximumHeaderCount} 条"
  else .ok ({ p with
      headerBlockLength := p.headerBlockLength + (fieldName.length + fieldValue.length)
      headerFieldCount := p.headerFieldCount + 1 }, fieldName, fieldValue)

/-- All of the value is one number, the same as before, within the limit. -/
def parseContentLength (value : Bytes) : Parsed HttpParser :=
  if value = [] then
    failMalformed "HTTP 报文解析失败：Content-Length 不能为空"
  else
    match fromCharsSize value with
    | some (parsedLength, []) =>
      if p.hasContentLength ∧ parsedLength ≠ p.contentLength then
        failMalformed "HTTP 报文解析失败：Content-Length 出现多个不一致的取值"
      else if exceedsBudget parsedLength p.limits.maximumBodySize then
        failBodyTooLarge s!"请求体声明长度 {parsedLength} 字节超出上限 {p.limits.maximumBodySize} 字节"
      else .ok { p with
        contentLength := parsedLength, hasContentLength := true }
    | _ => failMalformed "HTTP 报文解析失败：Content-Length 只能是十进制数字"

/-- The values of several fields make one list. -/
def appendTransferEncodingValue (value : Bytes) : Parsed HttpParser :=
  if value = [] then
    failMalformed "HTTP 报文解析失败：Transfer-Encoding 的取值不能为空，请写 Transfer-Encoding: chunked"
  else .ok { p with
    transferEncodingValue :=
      if p.hasTransferEncoding then
        p.transferEncodingValue ++ asciiText ", " ++ value
      else p.transferEncodingValue ++ value
    hasTransferEncoding := true }

/-- The fields that the framing or the answer to the head depends on. -/
def noteFramingField (name value : Bytes) : Parsed HttpParser :=
  if equalsIgnoringCase name (asciiText "content-length") then
    p.parseContentLength value
  else if equalsIgnoringCase name (asciiText "transfer-encoding") then
    p.appendTransferEncodingValue value
  else if equalsIgnoringCase name (asciiText "expect") then
    .ok { p with
      hasContinueExpectation := p.hasContinueExpectation ||
        (isContinueExpected value && isAtLeastHttp11 p.httpVersion) }
  else .ok p

/-- There is one host, of a form that can be an authority. -/
def noteHostField (name value : Bytes) : Parsed HttpParser :=
  if equalsIgnoringCase name (asciiText "host") then
    if 1 < p.hostHeaderFieldCount + 1 then
      failMalformed "HTTP 报文解析失败：请求里出现多于一条 Host 头部：RFC 9112 §3.2 要求服务端按 400 处理，请只保留一条 Host"
    else
      match findAuthorityFieldDefect value with
      | some defect => failMalformed s!"HTTP 报文解析失败：Host 头部的取值 \"{escapeForLog value}\" 不是合法的权威段（{defect}）：RFC 9110 §7.2 规定它是 uri-host[:端口]，请去掉用户名段、空白、路径与控制字符后重试"
      | none => .ok { p with
          hostHeaderFieldCount := p.hostHeaderFieldCount + 1 }
  else .ok p

/-- The end of the head decides how long the body is. -/
def finishHeaderBlock : Parsed HttpParser :=
  if isAtLeastHttp11 p.httpVersion ∧ p.hostHeaderFieldCount = 0 then
    failMalformed "HTTP 报文解析失败：HTTP/1.1 请求缺少 Host 头部：RFC 9112 §3.2 要求服务端按 400 处理，请补一行 Host: <权威段>（形如 Host: example.org 或 Host: example.org:8080）"
  else if p.hasTransferEncoding then
    if p.hasContentLength then
      failMalformed "HTTP 报文解析失败：Content-Length 与 Transfer-Encoding 不能同时出现，请只保留其中一个"
    else if !isSingleChunkedEncoding p.transferEncodingValue then
      failMalformed "HTTP 报文解析失败：Transfer-Encoding 只接受唯一的 chunked（不接受 gzip 等其它编码，chunked 也不能与其它编码并列），请改写为 Transfer-Encoding: chunked 或改用 Content-Length"
    else .ok { p with stage := .chunkSize }
  else if p.contentLength = 0 then
    .ok { p.commitMessage with stage := .complete }
  else .ok { p with stage := .body }

def parseHeaderLine : Parsed HttpParser :=
  if line = [] then p.finishHeaderBlock
  else do
    let (p, name, value) ← p.parseFieldLine line "请求头部"
    let p ← p.noteFramingField name value
    let p ← p.noteHostField name value
    return { p with
      headerStaging := p.headerStaging ++ [(toCanonicalHeaderName name, value)] }

/-! ## Chunks and trailers -/

/-- The hexadecimal digits of a size, one by one: what does not fit in 64
bits is refused before it is shifted. -/
def parseChunkSizeText (chunkSize : Nat) : Bytes → Parsed Nat
  | [] => .ok chunkSize
  | character :: rest =>
    match hexadecimalDigitValue character with
    | none => failMalformed "HTTP 报文解析失败：分块块大小只能由十六进制数字组成，请检查块大小行"
    | some digitValue =>
      if (2 ^ 64 - 1) / 16 < chunkSize then
        failBodyTooLarge "分块单块大小超出可表示范围，无法解码：请把块大小写成实际要发送的字节数"
      else parseChunkSizeText (chunkSize * 16 + digitValue) rest

def parseChunkSizeLine : Parsed HttpParser :=
  let sizeText := line.takeWhile (· ≠ 0x3B)
  let extensions := line.dropWhile (· ≠ 0x3B)
  if sizeText = [] then
    failMalformed "HTTP 报文解析失败：分块块大小必须至少有一位十六进制数字"
  else do
    let chunkSize ← parseChunkSizeText 0 sizeText
    if exceedsBudget chunkSize p.limits.maximumBodySize then
      failBodyTooLarge s!"分块单块大小超出上限 {p.limits.maximumBodySize} 字节"
    else if !areChunkExtensionsWellFormed extensions then
      failMalformed "HTTP 报文解析失败：分块块扩展语法非法，每一段应为「;名字」或「;名字=值」且名字由 token 字符组成"
    else return { p with
      chunkRemainingBytes := chunkSize
      stage := if chunkSize = 0 then .trailer else .chunkData }

def parseTrailerLine : Parsed HttpParser :=
  if line = [] then .ok { p.commitMessage with stage := .complete }
  else do
    let (p, trailerName, trailerValue) ← p.parseFieldLine line "trailer 头部"
    let normalizedName := toCanonicalHeaderName trailerName
    if normalizedName = asciiText "content-length" ∨
        isConnectionSpecificHeaderName normalizedName then
      return p
    else return { p with
      trailerFields := p.trailerFields ++ [(normalizedName, trailerValue)] }

/-- A complete line, by the stage. -/
def parseLine : Parsed HttpParser :=
  match p.stage with
  | .requestLine => p.parseRequestLine line
  | .headers => p.parseHeaderLine line
  | .chunkSize => p.parseChunkSizeLine line
  | _ => p.parseTrailerLine line

/-! ## Rounds -/

def appendBody (bytes : Bytes) : HttpParser :=
  { p with
    body := p.body ++ bytes
    receivedBodyLength := p.receivedBodyLength + bytes.length }

/-- A body of the declared length is complete. -/
def endBody : HttpParser :=
  if p.receivedBodyLength = p.contentLength then
    { p.commitMessage with stage := .complete }
  else p

def receiveBody : HttpParser × Bytes :=
  let remainingBodyLength := p.contentLength - p.receivedBodyLength
  let chunk := data.take remainingBodyLength
  if exceedsBudget (p.receivedBodyLength + chunk.length) p.limits.maximumBodySize then
    (p.recordFailure ⟨.bodyTooLarge, s!"请求体超出上限 {p.limits.maximumBodySize} 字节"⟩, data)
  else ((p.appendBody chunk).endBody, data.drop remainingBodyLength)

def takeChunkBytes (bytes : Bytes) : HttpParser :=
  { p.appendBody bytes with
    chunkRemainingBytes := p.chunkRemainingBytes - bytes.length }

def endChunk : HttpParser :=
  if p.chunkRemainingBytes = 0 then
    { p with stage := .chunkDataTerminator, chunkTerminatorBytesSeen := 0 }
  else p

/-- The limit holds for what has been received, not for what is declared. -/
def receiveChunkData : HttpParser × Bytes :=
  let chunk := data.take p.chunkRemainingBytes
  if exceedsBudget (p.receivedBodyLength + chunk.length) p.limits.maximumBodySize then
    (p.recordFailure ⟨.bodyTooLarge, s!"分块解码后的请求体超出上限 {p.limits.maximumBodySize} 字节"⟩, data)
  else ((p.takeChunkBytes chunk).endChunk, data.drop p.chunkRemainingBytes)

def expectedTerminatorCharacter : UInt8 :=
  if p.chunkTerminatorBytesSeen = 0 then carriageReturn else lineFeed

/-- Behind the second byte the size of the next chunk is expected. -/
def countTerminatorByte : HttpParser :=
  if p.chunkTerminatorBytesSeen + 1 = 2 then
    { p with stage := .chunkSize, chunkTerminatorBytesSeen := 0 }
  else { p with
    chunkTerminatorBytesSeen := p.chunkTerminatorBytesSeen + 1 }

def receiveChunkTerminator : HttpParser × Bytes :=
  match data with
  | [] => (p, [])
  | character :: rest =>
    if character ≠ p.expectedTerminatorCharacter then
      (p.recordFailure ⟨.malformed, "HTTP 报文解析失败：分块的块数据之后必须是 CRLF，请在块数据与下一个块大小之间补齐"⟩, data)
    else (p.countTerminatorByte, rest)

def receiveLine : HttpParser × Bytes :=
  match p.takeLine data with
  | .failed failure rest => (p.recordFailure failure, rest)
  | .pending q => (q, [])
  | .line q line rest =>
    match q.parseLine line with
    | .error failure => (q.recordFailure failure, rest)
    | .ok next => (next, rest)

def round : HttpParser × Bytes :=
  match p.stage with
  | .body => p.receiveBody data
  | .chunkData => p.receiveChunkData data
  | .chunkDataTerminator => p.receiveChunkTerminator data
  | _ => p.receiveLine data

/-- The parser as a reader: it stops behind a message and at a failure. -/
def reader : Reader HttpParser UInt8 HttpParseErrorKind where
  round := round
  stopped p := p.stage = .complete || p.stage = .failed
  refusal p := if p.stage = .failed then some p.errorKind else none

/-- `parse`: the parser behind the input, and the part of it that has not
been consumed. -/
def parse : HttpParser × Bytes := reader.read p data

/-- The requests of a connection: a complete one is handed over, the parser
is reset, and what is left of the input is parsed next. -/
def session : Reader (List HttpRequest × HttpParser) UInt8
    (List HttpRequest × HttpParseErrorKind) :=
  reader.serial currentRequest reset

end HttpParser

end AsynGyanis.Http
