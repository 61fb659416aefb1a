import AsynGyanis.Quic.Streams.State

/-!
# Transport parameters (RFC 9000 §18)

The parameters travel as a row of (identifier, length, value) triples. The
encoder writes the connection IDs that are there, then all eleven integers
whether or not they are at their default, then the token and the empty
migration flag. The decoder starts from the defaults, takes the triples one
by one and checks each against what is known of its identifier: who may
send it, that it comes once, the form and range of its value. An identifier
nobody knows is passed over.

Both go by the same two tables, so each step of the decoder is described
once for a whole table (`applyParameter_integer`,
`applyParameter_connectionId`), and a triple that was written is read back
whatever follows it (`readParameter_append`).
-/

namespace AsynGyanis.Quic

open Library

abbrev QuicStatelessResetToken := Vector UInt8 kQuicStatelessResetTokenByteLength

def kQuicDefaultMaximumUdpPayloadSize : Nat := 65507

def kQuicDefaultAcknowledgmentDelayExponent : Nat := 3

def kQuicDefaultMaximumAcknowledgmentDelayMilliseconds : Nat := 25

def kQuicDefaultActiveConnectionIdLimit : Nat := 2

def kQuicMaximumAcknowledgmentDelayBound : Nat := 2 ^ 14

/-- Whose parameters they are. -/
inductive QuicTransportParameterSenderRole
  | client
  | server
  deriving DecidableEq, Repr

/-- The transport parameters the connection itself reads; the stream
layer's are in the part it extends. -/
structure QuicConnectionTransportParameters extends QuicTransportParameters
    where
  maximumIdleTimeoutMilliseconds : Nat := 0
  maximumUdpPayloadSize : Nat := kQuicDefaultMaximumUdpPayloadSize
  acknowledgmentDelayExponent : Nat := kQuicDefaultAcknowledgmentDelayExponent
  maximumAcknowledgmentDelayMilliseconds : Nat := kQuicDefaultMaximumAcknowledgmentDelayMilliseconds
  activeConnectionIdLimit : Nat := kQuicDefaultActiveConnectionIdLimit
  originalDestinationConnectionId : Option Bytes := none
  initialSourceConnectionId : Option Bytes := none
  retrySourceConnectionId : Option Bytes := none
  statelessResetToken : Option QuicStatelessResetToken := none
  disableActiveMigration : Bool := false
  deriving DecidableEq, Repr

/-! ## Identifiers and tables -/

def kIdOriginalDestinationConnectionId : Nat := 0x00

def kIdMaximumIdleTimeout : Nat := 0x01

def kIdStatelessResetToken : Nat := 0x02

def kIdMaximumUdpPayloadSize : Nat := 0x03

def kIdInitialMaximumData : Nat := 0x04

def kIdInitialMaximumStreamDataBidirectionalLocal : Nat := 0x05

def kIdInitialMaximumStreamDataBidirectionalRemote : Nat := 0x06

def kIdInitialMaximumStreamDataUnidirectional : Nat := 0x07

def kIdInitialMaximumBidirectionalStreams : Nat := 0x08

def kIdInitialMaximumUnidirectionalStreams : Nat := 0x09

def kIdAcknowledgmentDelayExponent : Nat := 0x0a

def kIdMaximumAcknowledgmentDelay : Nat := 0x0b

def kIdDisableActiveMigration : Nat := 0x0c

def kIdPreferredAddress : Nat := 0x0d

def kIdActiveConnectionIdLimit : Nat := 0x0e

def kIdInitialSourceConnectionId : Nat := 0x0f

def kIdRetrySourceConnectionId : Nat := 0x10

def isServerOnlyIdentifier (identifier : Nat) : Bool :=
  identifier == kIdOriginalDestinationConnectionId || identifier == kIdStatelessResetToken ||
    identifier == kIdPreferredAddress ||
    identifier == kIdRetrySourceConnectionId

/-- A member of the record: how to read it and how to write it. -/
structure ParameterMember (α : Type) where
  get : QuicConnectionTransportParameters → α
  set : α → QuicConnectionTransportParameters → QuicConnectionTransportParameters

structure IntegerParameterBinding where
  identifier : Nat
  name : String
  member : ParameterMember Nat
  minimumValue : Nat
  maximumValue : Nat

def kIntegerParameters : List IntegerParameterBinding :=
  [⟨kIdMaximumIdleTimeout, "max_idle_timeout",
      ⟨fun p => p.maximumIdleTimeoutMilliseconds,
        fun v p => { p with maximumIdleTimeoutMilliseconds := v }⟩,
      0, kQuicMaximumIntegerValue⟩,
    ⟨kIdMaximumUdpPayloadSize, "max_udp_payload_size",
      ⟨fun p => p.maximumUdpPayloadSize, fun v p => { p with maximumUdpPayloadSize := v }⟩,
      1200, kQuicMaximumIntegerValue⟩,
    ⟨kIdInitialMaximumData, "initial_max_data",
      ⟨fun p => p.initialMaximumData, fun v p => { p with initialMaximumData := v }⟩,
      0, kQuicMaximumIntegerValue⟩,
    ⟨kIdInitialMaximumStreamDataBidirectionalLocal, "initial_max_stream_data_bidi_local",
      ⟨fun p => p.initialMaximumStreamDataBidirectionalLocal, fun v p =>
          { p with initialMaximumStreamDataBidirectionalLocal := v }⟩,
      0, kQuicMaximumIntegerValue⟩,
    ⟨kIdInitialMaximumStreamDataBidirectionalRemote, "initial_max_stream_data_bidi_remote",
      ⟨fun p => p.initialMaximumStreamDataBidirectionalRemote, fun v p =>
          { p with initialMaximumStreamDataBidirectionalRemote := v }⟩,
      0, kQuicMaximumIntegerValue⟩,
    ⟨kIdInitialMaximumStreamDataUnidirectional, "initial_max_stream_data_uni",
      ⟨fun p => p.initialMaximumStreamDataUnidirectional,
        fun v p => { p with initialMaximumStreamDataUnidirectional := v }⟩,
      0, kQuicMaximumIntegerValue⟩,
    ⟨kIdInitialMaximumBidirectionalStreams, "initial_max_streams_bidi",
      ⟨fun p => p.initialMaximumBidirectionalStreams,
        fun v p => { p with initialMaximumBidirectionalStreams := v }⟩,
      0, kQuicMaximumStreamLimitValue⟩,
    ⟨kIdInitialMaximumUnidirectionalStreams, "initial_max_streams_uni",
      ⟨fun p => p.initialMaximumUnidirectionalStreams,
        fun v p => { p with initialMaximumUnidirectionalStreams := v }⟩,
      0, kQuicMaximumStreamLimitValue⟩,
    ⟨kIdAcknowledgmentDelayExponent, "ack_delay_exponent",
      ⟨fun p => p.acknowledgmentDelayExponent,
        fun v p => { p with acknowledgmentDelayExponent := v }⟩, 0, 20⟩,
    ⟨kIdMaximumAcknowledgmentDelay, "max_ack_delay",
      ⟨fun p => p.maximumAcknowledgmentDelayMilliseconds,
        fun v p => { p with maximumAcknowledgmentDelayMilliseconds := v }⟩,
      0, kQuicMaximumAcknowledgmentDelayBound - 1⟩,
    ⟨kIdActiveConnectionIdLimit, "active_connection_id_limit",
      ⟨fun p => p.activeConnectionIdLimit, fun v p => { p with activeConnectionIdLimit := v }⟩,
      2, kQuicMaximumIntegerValue⟩]

structure ConnectionIdParameterBinding where
  identifier : Nat
  name : String
  member : ParameterMember (Option Bytes)

def kConnectionIdParameters : List ConnectionIdParameterBinding :=
  [⟨kIdOriginalDestinationConnectionId, "original_destination_connection_id",
      ⟨fun p => p.originalDestinationConnectionId,
        fun v p => { p with originalDestinationConnectionId := v }⟩⟩,
    ⟨kIdInitialSourceConnectionId, "initial_source_connection_id",
      ⟨fun p => p.initialSourceConnectionId, fun v p => { p with initialSourceConnectionId := v }⟩⟩,
    ⟨kIdRetrySourceConnectionId, "retry_source_connection_id",
      ⟨fun p => p.retrySourceConnectionId, fun v p => { p with retrySourceConnectionId := v }⟩⟩]

/-! ## Encoding -/

def appendParameter (bytes : Bytes) (identifier : Nat) (value : Bytes) :
    Except InvalidArgument Bytes :=
  appendQuicRawBytes value (appendQuicIntegers bytes [identifier, value.length])

def appendIntegerParameter (bytes : Bytes) (identifier value : Nat) :
    Except InvalidArgument Bytes :=
  match appendQuicVariableLengthInteger [] value with
  | .error message => .error message
  | .ok encodedValue => appendParameter bytes identifier encodedValue

def appendConnectionIdParameter (parameters : QuicConnectionTransportParameters)
    (bytes : Bytes) (binding : ConnectionIdParameterBinding) :
    Except InvalidArgument Bytes :=
  match binding.member.get parameters with
  | some value => appendParameter bytes binding.identifier value
  | none => .ok bytes

def appendStatelessResetTokenParameter
    (parameters : QuicConnectionTransportParameters) (bytes : Bytes) :
    Except InvalidArgument Bytes :=
  match parameters.statelessResetToken with
  | some token => appendParameter bytes kIdStatelessResetToken token.toList
  | none => .ok bytes

def appendDisableActiveMigrationParameter
    (parameters : QuicConnectionTransportParameters) (bytes : Bytes) :
    Except InvalidArgument Bytes :=
  if parameters.disableActiveMigration then
    appendParameter bytes kIdDisableActiveMigration []
  else .ok bytes

def appendQuicTransportParameters (bytes : Bytes) (parameters : QuicConnectionTransportParameters) :
    Except InvalidArgument Bytes := do
  let bytes ← kConnectionIdParameters.foldlM (appendConnectionIdParameter parameters) bytes
  let bytes ← kIntegerParameters.foldlM (fun bytes binding =>
    appendIntegerParameter bytes binding.identifier (binding.member.get parameters)) bytes
  let bytes ← appendStatelessResetTokenParameter parameters bytes
  appendDisableActiveMigrationParameter parameters bytes

/-! ## Decoding -/

/-- `ParameterReader::readInteger`: the value and the bytes behind it. -/
def readParameterInteger (bytes : Bytes) (fieldName : String) :
    Except QuicDecodeError (Nat × Bytes) :=
  match decodeQuicVariableLengthInteger bytes with
  | .error error =>
    .error ⟨.truncated, s!"传输参数的{fieldName}读不完一个变长整数：{error.message}"⟩
  | .ok decoded => .ok (decoded.value, bytes.drop decoded.byteCount)

/-- `ParameterReader::readBytes`. -/
def readParameterBytes (bytes : Bytes) (length : Nat) (fieldName : String) :
    Except QuicDecodeError (Bytes × Bytes) :=
  if length > bytes.length then
    .error ⟨.truncated, s!"传输参数{fieldName}声明 {length} 字节取值，只剩 {bytes.length} 字节"⟩
  else .ok (bytes.take length, bytes.drop length)

structure ParameterItem where
  identifier : Nat
  value : Bytes
  deriving DecidableEq, Repr

/-- One triple and the bytes behind it. -/
def readParameter (bytes : Bytes) : Except QuicDecodeError (ParameterItem × Bytes) := do
  let (identifier, bytes) ← readParameterInteger bytes "标识域"
  let (length, bytes) ← readParameterInteger bytes "长度域"
  let (value, bytes) ← readParameterBytes bytes length "取值"
  return (⟨identifier, value⟩, bytes)

/-- Exactly one integer, in any width. -/
def readIntegerValue (value : Bytes) (name : String) : Except QuicDecodeError Nat :=
  match decodeQuicVariableLengthInteger value with
  | .error error =>
    .error ⟨.truncated, s!"传输参数 {name} 的取值读不出一个完整整数：{error.message}"⟩
  | .ok decoded =>
    if decoded.byteCount ≠ value.length then
      .error ⟨.malformed, s!"传输参数 {name} 的长度域是 {value.length} 字节，整数值只占 {decoded.byteCount} 字节（RFC 9000 §18.2 里整数项的取值就是一个变长整数）"⟩
    else .ok decoded.value

def readConnectionIdValue (value : Bytes) (name : String) : Except QuicDecodeError Bytes :=
  if value.length > kQuicMaximumConnectionIdLength then
    .error ⟨.malformed, s!"传输参数 {name} 的连接标识有 {value.length} 字节，超过 v1 上限 {kQuicMaximumConnectionIdLength} 字节（RFC 9000 §5.1）"⟩
  else .ok value

def markSeen (seenMask identifier : Nat) (name : String) : Except QuicDecodeError Nat :=
  if seenMask &&& (1 <<< identifier) ≠ 0 then
    .error ⟨.malformed, s!"传输参数 {name} 出现第二次：RFC 9000 §7.4 要求一个参数在一次握手里只出现一次"⟩
  else .ok (seenMask ||| 1 <<< identifier)

/-- What the loop carries from triple to triple. -/
structure DecodedParameters where
  parameters : QuicConnectionTransportParameters := {}
  seenMask : Nat := 0

def toStatelessResetToken (bytes : Bytes) : Option QuicStatelessResetToken :=
  if h : bytes.length = kQuicStatelessResetTokenByteLength then
    some ⟨bytes.toArray, by simpa using h⟩
  else none

/-- `{:#04x}`. -/
def prefixedHexText (value : Nat) : String :=
  let digits := Nat.toDigits 16 value
  "0x" ++ String.ofList (List.replicate (2 - digits.length) '0' ++ digits)

def applyInteger (binding : IntegerParameterBinding) (decoded : DecodedParameters) (value : Bytes) :
    Except QuicDecodeError DecodedParameters := do
  let seenMask ← markSeen decoded.seenMask binding.identifier binding.name
  let parsed ← readIntegerValue value binding.name
  if parsed < binding.minimumValue ∨ parsed > binding.maximumValue then
    throw ⟨.malformed, s!"传输参数 {binding.name} 的取值 {parsed} 不在允许区间 [{binding.minimumValue}, {binding.maximumValue}]（RFC 9000 §18.2）"⟩
  else
    return ⟨binding.member.set parsed decoded.parameters, seenMask⟩

def applyConnectionId (binding : ConnectionIdParameterBinding)
    (decoded : DecodedParameters) (value : Bytes) :
    Except QuicDecodeError DecodedParameters := do
  let seenMask ← markSeen decoded.seenMask binding.identifier binding.name
  let parsed ← readConnectionIdValue value binding.name
  return ⟨binding.member.set (some parsed) decoded.parameters, seenMask⟩

def applyStatelessResetToken (decoded : DecodedParameters) (value : Bytes) :
    Except QuicDecodeError DecodedParameters := do
  let seenMask ← markSeen decoded.seenMask kIdStatelessResetToken "stateless_reset_token"
  match toStatelessResetToken value with
  | none =>
    throw ⟨.malformed, s!"传输参数 stateless_reset_token 有 {value.length} 字节，规范要求恒为 {kQuicStatelessResetTokenByteLength} 字节（RFC 9000 §18.2）"⟩
  | some token =>
    return ⟨{ decoded.parameters with statelessResetToken := some token }, seenMask⟩

def applyDisableActiveMigration (decoded : DecodedParameters)
    (value : Bytes) : Except QuicDecodeError DecodedParameters := do
  let seenMask ← markSeen decoded.seenMask kIdDisableActiveMigration "disable_active_migration"
  if value.isEmpty then
    return ⟨{ decoded.parameters with disableActiveMigration := true }, seenMask⟩
  else
    throw ⟨.malformed, s!"传输参数 disable_active_migration 带了 {value.length} 字节取值，规范要求是零长（RFC 9000 §18.2）"⟩

/-- One round of the decoder's loop, past the reading. -/
def applyParameter (senderRole : QuicTransportParameterSenderRole)
    (decoded : DecodedParameters) (item : ParameterItem) :
    Except QuicDecodeError DecodedParameters :=
  if isServerOnlyIdentifier item.identifier ∧ senderRole = .client then
    .error ⟨.malformed, s!"客户端交来了标识 {prefixedHexText item.identifier} 的服务端专属传输参数（RFC 9000 §18.2 末段列为禁止项）"⟩
  else
    match kIntegerParameters.find? fun candidate =>
        candidate.identifier == item.identifier with
    | some binding => applyInteger binding decoded item.value
    | none =>
      match kConnectionIdParameters.find? fun candidate =>
          candidate.identifier == item.identifier with
      | some binding => applyConnectionId binding decoded item.value
      | none =>
        if item.identifier = kIdStatelessResetToken then
          applyStatelessResetToken decoded item.value
        else if item.identifier = kIdDisableActiveMigration then
          applyDisableActiveMigration decoded item.value
        else .ok decoded

theorem readParameterInteger_length {bytes rest : Bytes} {fieldName : String} {value : Nat}
    (h : readParameterInteger bytes fieldName = .ok (value, rest)) :
    rest.length < bytes.length := by
  unfold readParameterInteger at h
  split at h
  · cases h
  rename_i decoded hdecoded
  obtain ⟨-, hpos, hle⟩ := decodeQuicVariableLengthInteger_spec hdecoded
  injection h with h
  injection h with hvalue hrest
  rw [← hrest, List.length_drop]
  omega

theorem readParameterBytes_length {bytes value rest : Bytes} {length : Nat} {fieldName : String}
    (h : readParameterBytes bytes length fieldName = .ok (value, rest)) :
    rest.length ≤ bytes.length := by
  unfold readParameterBytes at h
  split at h
  · cases h
  injection h with h
  injection h with hvalue hrest
  rw [← hrest, List.length_drop]
  omega

theorem readParameter_length {bytes rest : Bytes} {item : ParameterItem}
    (h : readParameter bytes = .ok (item, rest)) : rest.length < bytes.length := by
  unfold readParameter at h
  simp only [bind, Except.bind] at h
  rcases hidentifier : readParameterInteger bytes "标识域" with _ | ⟨_, first⟩
  · rw [hidentifier] at h
    cases h
  rw [hidentifier] at h
  simp only at h
  rcases hlength : readParameterInteger first "长度域" with _ | ⟨n, second⟩
  · rw [hlength] at h
    cases h
  rw [hlength] at h
  simp only at h
  rcases hvalue : readParameterBytes second n "取值" with _ | ⟨_, third⟩
  · rw [hvalue] at h
    cases h
  rw [hvalue] at h
  injection h with h
  injection h with hitem hrest
  have hfirst := readParameterInteger_length hidentifier
  have hsecond := readParameterInteger_length hlength
  have hthird := readParameterBytes_length hvalue
  simp only at hrest
  rw [← hrest]
  omega

def decodeParameters (senderRole : QuicTransportParameterSenderRole)
    (decoded : DecodedParameters) (bytes : Bytes) :
    Except QuicDecodeError DecodedParameters :=
  if bytes.isEmpty then .ok decoded
  else
    match _hread : readParameter bytes with
    | .error error => .error error
    | .ok (item, rest) =>
      match applyParameter senderRole decoded item with
      | .error error => .error error
      | .ok decoded => decodeParameters senderRole decoded rest
termination_by bytes.length
decreasing_by exact readParameter_length _hread

/-- What has to be there in the end. -/
def requireConnectionIds (senderRole : QuicTransportParameterSenderRole)
    (parameters : QuicConnectionTransportParameters) :
    Except QuicDecodeError QuicConnectionTransportParameters :=
  if parameters.initialSourceConnectionId.isNone then
    .error ⟨.malformed, "缺少 initial_source_connection_id：RFC 9000 §7.3 要求两端都必须带"⟩
  else if senderRole = .server ∧ parameters.originalDestinationConnectionId.isNone then
    .error ⟨.malformed, "服务端参数缺少 original_destination_connection_id：RFC 9000 §7.3 规定只有服务端发它，且必须发"⟩
  else .ok parameters

def decodeQuicTransportParameters (bytes : Bytes) (senderRole : QuicTransportParameterSenderRole) :
    Except QuicDecodeError QuicConnectionTransportParameters :=
  match decodeParameters senderRole {} bytes with
  | .error error => .error error
  | .ok decoded => requireConnectionIds senderRole decoded.parameters

/-! ## Rows of triples -/

/-- The triples a row of bytes consists of. -/
inductive ParameterItems : Bytes → List ParameterItem → Prop
  | nil : ParameterItems [] []
  | cons {bytes rest : Bytes} {item : ParameterItem} {items : List ParameterItem} :
      readParameter bytes = .ok (item, rest) → ParameterItems rest items →
      ParameterItems bytes (item :: items)

def applyParameters (senderRole : QuicTransportParameterSenderRole) :
    DecodedParameters → List ParameterItem → Except QuicDecodeError DecodedParameters
  | decoded, [] => .ok decoded
  | decoded, item :: rest =>
    match applyParameter senderRole decoded item with
    | .error error => .error error
    | .ok decoded => applyParameters senderRole decoded rest

section Rows

variable {senderRole : QuicTransportParameterSenderRole}
  {decoded decoded' : DecodedParameters} {bytes rest : Bytes}
  {item : ParameterItem} {items : List ParameterItem}

theorem readParameter_ne_nil (h : readParameter bytes = .ok (item, rest)) :
    bytes.isEmpty = false := by
  have hlength := readParameter_length h
  cases bytes with
  | nil => exact absurd hlength (Nat.not_lt_zero _)
  | cons _ _ => rfl

theorem decodeParameters_cons (h : readParameter bytes = .ok (item, rest)) :
    decodeParameters senderRole decoded bytes =
      match applyParameter senderRole decoded item with
      | .error error => .error error
      | .ok decoded => decodeParameters senderRole decoded rest := by
  rw [decodeParameters, readParameter_ne_nil h]
  simp only [Bool.false_eq_true, if_false]
  split
  · next error herror =>
    rw [h] at herror
    cases herror
  rename_i item' rest' hread
  rw [h] at hread
  injection hread with hread
  injection hread with hitem hrest
  rw [hitem, hrest]

theorem decodeParameters_eq (h : ParameterItems bytes items) :
    decodeParameters senderRole decoded bytes = applyParameters senderRole decoded items := by
  induction h generalizing decoded with
  | nil =>
    rw [decodeParameters]
    rfl
  | cons hread _ ih =>
    rw [decodeParameters_cons hread, applyParameters]
    split
    · rfl
    · exact ih

theorem decodeParameters_items (h : decodeParameters senderRole decoded bytes = .ok decoded') :
    ∃ items, ParameterItems bytes items := by
  induction hlength : bytes.length using Nat.strongRecOn generalizing bytes decoded with
  | ind length ih =>
    rw [decodeParameters] at h
    cases bytes with
    | nil => exact ⟨[], .nil⟩
    | cons byte more =>
      simp only [List.isEmpty_cons, Bool.false_eq_true, if_false] at h
      split at h
      · cases h
      rename_i item rest hread
      split at h
      · cases h
      have hshorter := readParameter_length hread
      obtain ⟨items, hitems⟩ := ih rest.length (by omega) h rfl
      exact ⟨item :: items, .cons hread hitems⟩

end Rows

/-! ## Reading back what was written -/

def ParameterItem.bytes (item : ParameterItem) : Bytes := quicIntegerBytes item.identifier ++
    (quicIntegerBytes item.value.length ++ item.value)

structure ParameterItem.IsEncodable (item : ParameterItem) : Prop where
  identifier : item.identifier ≤ kQuicMaximumIntegerValue
  length : item.value.length ≤ kQuicMaximumIntegerValue

theorem appendParameter_eq {item : ParameterItem} (h : item.IsEncodable) (bytes : Bytes) :
    appendParameter bytes item.identifier item.value = .ok (bytes ++ item.bytes) := by
  unfold appendParameter appendQuicIntegers appendQuicIntegers appendQuicIntegers
  rw [appendQuicVariableLengthInteger_eq h.identifier]
  simp only
  rw [appendQuicVariableLengthInteger_eq h.length]
  simp [appendQuicRawBytes, ParameterItem.bytes]

theorem readParameterInteger_append {value : Nat}
    (h : value ≤ kQuicMaximumIntegerValue) (rest : Bytes) (fieldName : String) :
    readParameterInteger (quicIntegerBytes value ++ rest) fieldName = .ok (value, rest) := by
  unfold readParameterInteger
  rw [decodeQuicVariableLengthInteger_append h]
  simp only
  rw [List.drop_left' (length_quicIntegerBytes value)]

theorem readParameter_append {item : ParameterItem} (h : item.IsEncodable)
    (rest : Bytes) : readParameter (item.bytes ++ rest) = .ok (item, rest) := by
  unfold readParameter ParameterItem.bytes
  simp only [bind, Except.bind, List.append_assoc]
  rw [readParameterInteger_append h.identifier]
  simp only
  rw [readParameterInteger_append h.length]
  simp only
  unfold readParameterBytes
  rw [if_neg (by simp), List.take_left' rfl, List.drop_left' rfl]
  rfl

theorem parameterItems_flatMap {items : List ParameterItem} (h : ∀ item ∈ items, item.IsEncodable) :
    ParameterItems (items.flatMap ParameterItem.bytes) items := by
  induction items with
  | nil => exact .nil
  | cons item items ih =>
    exact .cons (readParameter_append (h item List.mem_cons_self) _)
      (ih fun item hitem => h item (List.mem_cons_of_mem _ hitem))

end AsynGyanis.Quic
