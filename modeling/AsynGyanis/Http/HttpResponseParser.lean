import AsynGyanis.Http.FramingRules
import AsynGyanis.Library.Resumable

/-!
# The parser of HTTP/1 responses

The client feeds the bytes of a connection to `HttpResponseParser`. Lines end
with CRLF and nothing else; a line whose end is not there yet stays in
`lineBuffer`, perhaps with the CR of its terminator. The end of the head
decides how the body is delimited. What the parser leaves of the input belongs
to the next response.

A line that was put together in the buffer stays there in the source until
the next one is taken; as a value it leaves the buffer at once.
-/

namespace AsynGyanis.Http

open Library HttpParserLimits

structure HttpResponseInfo where
  statusCode : Nat := 0
  reasonPhrase : Bytes := []
  headers : List (Bytes × Bytes) := []
  body : Bytes := []
  trailers : List (Bytes × Bytes) := []
  deriving DecidableEq, Repr

inductive OutboundInformationalDisposition
  | discardAndWaitForFinal | completesResponse
  deriving DecidableEq, Repr

/-- Behind a 101 the connection speaks another protocol. -/
def classifyOutboundInformational (statusCode : Nat) :
    OutboundInformationalDisposition :=
  if statusCode = 101 then .completesResponse else .discardAndWaitForFinal

inductive HttpResponseParserStage
  | statusLine | headers | body | complete | failed
  deriving DecidableEq, Repr

inductive ChunkPhase
  | sizeLine | data | dataTerminator | trailer
  deriving DecidableEq, Repr

structure HttpResponseParser where
  stage : HttpResponseParserStage := .statusLine
  result : HttpResponseInfo := {}
  lineBuffer : Bytes := []
  headerBlockByteCount : Nat := 0
  receivedBodyByteCount : Nat := 0
  expectedBodyBytes : Nat := 0
  isChunked : Bool := false
  isCloseDelimited : Bool := false
  isHeadResponse : Bool := false
  chunkPhase : ChunkPhase := .sizeLine
  chunkSize : Nat := 0
  maximumBodySize : Nat := maximumBodySize {}
  isBodyLimitHit : Bool := false
  deriving DecidableEq, Repr

namespace HttpResponseParser

def kDefaultMaximumHeaderCount : Nat := maximumHeaderCount {}

def kDefaultMaximumHeaderBlockByteCount : Nat := maximumHeaderBlockLength {}

def kDefaultMaximumLineByteCount : Nat := headerLineLengthLimit {}

variable (p : HttpResponseParser) (data : Bytes) (line : Bytes)

def fail : HttpResponseParser := { p with stage := .failed }

def failOverLimit : HttpResponseParser := { p with isBodyLimitHit := true, stage := .failed }

def reset : HttpResponseParser := { maximumBodySize := p.maximumBodySize }

def markAsHeadResponse : HttpResponseParser := { p with isHeadResponse := true }

/-! ## Lines -/

/-- What stands before the first CRLF, and what follows it. -/
def takeLine : Bytes → Option (Bytes × Bytes)
  | [] => none
  | [_] => none
  | first :: second :: rest =>
    if first = carriageReturn ∧ second = lineFeed then some ([], rest)
    else
      match takeLine (second :: rest) with
      | none => none
      | some (line, rest) => some (first :: line, rest)

inductive LineVerdict
  | delivered (line rest : Bytes)
  | needMoreBytes (buffer : Bytes)
  | tooLong (rest : Bytes)
  deriving DecidableEq, Repr

def lineExceedsLimit (length : Nat) : Bool := exceedsBudget length kDefaultMaximumLineByteCount

/-- No line ends in the data: all of it is kept. -/
def keepLine (buffer data : Bytes) : LineVerdict :=
  if lineExceedsLimit (lineBodyByteCountWithoutTerminator buffer.length
      data.length (endsWithCarriageReturn data)) then .tooLong data
  else .needMoreBytes (buffer ++ data)

/-- A terminator may stand in the data or be cut in two by its beginning. -/
def feedLine (buffer data : Bytes) : LineVerdict :=
  if buffer = [] then
    match takeLine data with
    | some (line, rest) =>
      if lineExceedsLimit line.length then .tooLong rest
      else .delivered line rest
    | none => keepLine buffer data
  else if endsWithCarriageReturn buffer ∧ data.head? = some lineFeed then
    if lineExceedsLimit buffer.dropLast.length then .tooLong data.tail
    else .delivered buffer.dropLast data.tail
  else
    match takeLine data with
    | some (body, rest) =>
      if lineExceedsLimit (buffer.length + body.length) then .tooLong data
      else .delivered (buffer ++ body) rest
    | none => keepLine buffer data

/-! ## The head -/

/-- The status code and the reason phrase of a status line. -/
def splitStatusLine : Option (Nat × Bytes) :=
  if line.length < 12 ∨ line.take 7 ≠ asciiText "HTTP/1." then none
  else
    match (line.drop 8).dropWhile (· ≠ 0x20) with
    | [] => none
    | _ :: codeText =>
      if codeText.length < 3 then none
      else
        match parseStatusCodeText (codeText.takeWhile (· ≠ 0x20)) with
        | none => none
        | some statusCode =>
          some (statusCode, (codeText.dropWhile (· ≠ 0x20)).drop 1)

def parseStatusLine :
    HttpResponseParser :=
  match splitStatusLine line with
  | none => p.fail
  | some (statusCode, reasonPhrase) =>
    { p with
      result := { p.result with
        statusCode := statusCode, reasonPhrase := reasonPhrase }
      stage := .headers }

def isValidHeaderFieldName (name : Bytes) : Bool := name ≠ [] && containsOnlyTokenCharacters name

def headerLineIsWellFormed : Bool :=
  if line.head?.all isOptionalWhitespace then false
  else if !line.contains 0x3A then false
  else isValidHeaderFieldName (line.takeWhile (· ≠ 0x3A)) &&
    containsOnlyFieldValueCharacters ((line.dropWhile (· ≠ 0x3A)).drop 1)

/-- White space is dropped before a value, not behind it. -/
def splitFieldLine : Option (Bytes × Bytes) :=
  if !headerLineIsWellFormed line then none
  else some (line.takeWhile (· ≠ 0x3A),
    ((line.dropWhile (· ≠ 0x3A)).drop 1).dropWhile isOptionalWhitespace)

def fieldByteCount (field : Bytes × Bytes) : Nat := field.1.length + field.2.length

/-- One field more, in the head or among the trailers. -/
def fieldsExceedLimits (field : Bytes × Bytes) : Bool :=
  exceedsBudget (p.result.headers.length + p.result.trailers.length + 1)
    kDefaultMaximumHeaderCount ||
  exceedsBudget (p.headerBlockByteCount + fieldByteCount field) kDefaultMaximumHeaderBlockByteCount

/-- What the fields of a head say about the body. -/
structure FramingFields where
  hasContentLength : Bool := false
  declaredLength : Nat := 0
  hasTransferEncoding : Bool := false
  combinedTransferEncoding : Bytes := []
  deriving DecidableEq, Repr

/-- Lengths have to agree; transfer encodings make one list. -/
def FramingFields.note (fields : FramingFields) (field : Bytes × Bytes) : Option FramingFields :=
  if equalsIgnoringCase field.1 (asciiText "content-length") then
    match parseContentLengthValue field.2 with
    | none => none
    | some thisLength =>
      if fields.hasContentLength ∧ thisLength ≠ fields.declaredLength then none
      else some { fields with
        declaredLength := thisLength, hasContentLength := true }
  else if equalsIgnoringCase field.1 (asciiText "transfer-encoding") then
    some { fields with
      hasTransferEncoding := true
      combinedTransferEncoding :=
        (if fields.combinedTransferEncoding = [] then []
          else fields.combinedTransferEncoding ++ asciiText ", ") ++
        trimOptionalWhitespace field.2 }
  else some fields

def framingFields (headers : List (Bytes × Bytes)) : Option FramingFields :=
  headers.foldlM FramingFields.note {}

def statusHasNoBody (statusCode : Nat) : Bool := statusCode = 204 || statusCode = 304

def finishAsFinalInformationalResponse :
    HttpResponseParser :=
  { p with
    isChunked := false, isCloseDelimited := false, expectedBodyBytes := 0
    stage := .complete }

def discardInterimInformationalResponse :
    HttpResponseParser :=
  { p with
    result := { p.result with
      statusCode := 0, reasonPhrase := [], headers := [] }
    isChunked := false, isCloseDelimited := false
    headerBlockByteCount := 0, expectedBodyBytes := 0, chunkSize := 0
    chunkPhase := .sizeLine, stage := .statusLine }

/-- The end of the head decides how the body is delimited. -/
def finishHeaders : HttpResponseParser :=
  match framingFields p.result.headers with
  | none => p.fail
  | some fields =>
    if fields.hasTransferEncoding ∧ fields.hasContentLength then p.fail
    else if 100 ≤ p.result.statusCode ∧ p.result.statusCode < 200 then
      match classifyOutboundInformational p.result.statusCode with
      | .completesResponse => p.finishAsFinalInformationalResponse
      | .discardAndWaitForFinal => p.discardInterimInformationalResponse
    else if statusHasNoBody p.result.statusCode then
      { p with stage := .complete }
    else if p.isHeadResponse then { p with stage := .complete }
    else if fields.hasContentLength then
      if exceedsBudget fields.declaredLength p.maximumBodySize then
        p.failOverLimit
      else { p with
        expectedBodyBytes := fields.declaredLength
        stage := if fields.declaredLength = 0 then .complete else .body }
    else if fields.hasTransferEncoding then
      if isSingleChunkedEncoding fields.combinedTransferEncoding then
        { p with isChunked := true, chunkPhase := .sizeLine, stage := .body }
      else p.fail
    else { p with isCloseDelimited := true, stage := .body }

def parseHeaderLine :
    HttpResponseParser :=
  if line = [] then p.finishHeaders
  else
    match splitFieldLine line with
    | none => p.fail
    | some field =>
      if p.fieldsExceedLimits field then p.fail
      else { p with
        headerBlockByteCount := p.headerBlockByteCount + fieldByteCount field
        result := { p.result with headers := p.result.headers ++ [field] } }

/-! ## Chunks and trailers -/

/-- Up to sixteen hexadecimal digits, so that the size fits in 64 bits. -/
def parseChunkSize (text : Bytes) : Option Nat :=
  if text = [] ∨ 16 < text.length then none
  else text.foldlM (fun value character =>
    (hexadecimalDigitValue character).map (value * 16 + ·)) 0

/-- The size in a line that may have extensions behind it. -/
def splitChunkSizeLine : Option Nat :=
  match parseChunkSize (line.takeWhile (· ≠ 0x3B)) with
  | none => none
  | some chunkSize =>
    if areChunkExtensionsWellFormed (line.dropWhile (· ≠ 0x3B)) then
      some chunkSize
    else none

def parseChunkSizeLine :
    HttpResponseParser :=
  match splitChunkSizeLine line with
  | none => p.fail
  | some chunkSize =>
    { p with
      chunkSize := chunkSize
      chunkPhase := if chunkSize = 0 then .trailer else .data }

def parseDataTerminator :
    HttpResponseParser :=
  if line ≠ [] then p.fail else { p with chunkPhase := .sizeLine }

def parseTrailerLine :
    HttpResponseParser :=
  if line = [] then { p with stage := .complete }
  else
    match splitFieldLine line with
    | none => p.fail
    | some field =>
      if p.fieldsExceedLimits field then p.fail
      else { p with
        headerBlockByteCount := p.headerBlockByteCount + fieldByteCount field
        result := { p.result with trailers := p.result.trailers ++ [field] } }

/-- A complete line, by the stage and the phase. -/
def parseLine : HttpResponseParser :=
  match p.stage with
  | .statusLine => p.parseStatusLine line
  | .headers => p.parseHeaderLine line
  | _ =>
    match p.chunkPhase with
    | .sizeLine => p.parseChunkSizeLine line
    | .dataTerminator => p.parseDataTerminator line
    | _ => p.parseTrailerLine line

def receiveLine : HttpResponseParser × Bytes :=
  match feedLine p.lineBuffer data with
  | .tooLong rest => (p.fail, rest)
  | .needMoreBytes buffer => ({ p with lineBuffer := buffer }, [])
  | .delivered line rest => (parseLine { p with lineBuffer := [] } line, rest)

/-! ## Bodies -/

def appendBody (bytes : Bytes) :
    HttpResponseParser :=
  { p with
    result := { p.result with body := p.result.body ++ bytes }
    receivedBodyByteCount := p.receivedBodyByteCount + bytes.length }

def isAccumulatedBodyOverLimit : Bool := exceedsBudget p.receivedBodyByteCount p.maximumBodySize

def takeChunkBytes (bytes : Bytes) :
    HttpResponseParser :=
  { p.appendBody bytes with chunkSize := p.chunkSize - bytes.length }

def endChunk : HttpResponseParser :=
  if p.chunkSize = 0 then { p with chunkPhase := .dataTerminator } else p

/-- The limit is looked at behind the bytes. -/
def receiveChunkData : HttpResponseParser × Bytes :=
  let q := p.takeChunkBytes (data.take p.chunkSize)
  (if q.isAccumulatedBodyOverLimit then q.failOverLimit else q.endChunk, data.drop p.chunkSize)

def takeDeclaredBytes (bytes : Bytes) :
    HttpResponseParser :=
  { p.appendBody bytes with
    expectedBodyBytes := p.expectedBodyBytes - bytes.length }

def endDeclaredBody : HttpResponseParser :=
  if p.expectedBodyBytes = 0 then { p with stage := .complete } else p

def receiveDeclaredBody : HttpResponseParser × Bytes :=
  ((p.takeDeclaredBytes (data.take p.expectedBodyBytes)).endDeclaredBody,
    data.drop p.expectedBodyBytes)

def receiveUntilClose : HttpResponseParser × Bytes :=
  let q := p.appendBody data
  (if q.isAccumulatedBodyOverLimit then q.failOverLimit else q, [])

/-! ## Rounds -/

def round : HttpResponseParser × Bytes :=
  match p.stage with
  | .body =>
    if p.isChunked then
      match p.chunkPhase with
      | .data => p.receiveChunkData data
      | _ => p.receiveLine data
    else if 0 < p.expectedBodyBytes then p.receiveDeclaredBody data
    else if p.isCloseDelimited then p.receiveUntilClose data
    else ({ p with stage := .complete }, data)
  | _ => p.receiveLine data

/-- The parser as a reader: it stops behind a response and at a failure. All
that is known of a failure is whether it is due to the limit for bodies. -/
def reader : Reader HttpResponseParser UInt8 Bool where
  round := round
  stopped p := p.stage = .complete || p.stage = .failed
  refusal p := if p.stage = .failed then some p.isBodyLimitHit else none

/-- `feed`: the parser behind the input, and what it has not consumed. -/
def feed : HttpResponseParser × Bytes := reader.read p data

/-- The connection has been closed by the other side. -/
def endOfStream : HttpResponseParser :=
  if p.stage = .body then
    { p with stage := if p.isCloseDelimited then .complete else .failed }
  else p

end HttpResponseParser

end AsynGyanis.Http
