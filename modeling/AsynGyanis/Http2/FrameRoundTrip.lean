import AsynGyanis.Http2.FrameCuts

/-!
# From a value to a frame and back

Every encoder that knows what it encodes puts one frame on the wire, and it
is the frame the decoder makes of the bytes: `Http2FrameValue.encode_onWire`.
The payload functions then give back the value. With the decoder's own
guarantees this is the round trip of the codec.

Three things lie outside. `encodeHttp2Frame` takes any payload for any type,
so it can write what the decoder has to refuse. A frame larger than what the
decoder was created for is refused as well. And the decoder does not
interpret PUSH_PROMISE.
-/

namespace AsynGyanis.Http2

open Library Http2FrameDecoder List

/-! ## Values -/

variable {payload : Http2HeadersPayload} {type : Http2FrameType} {flags : UInt8}
  {streamId : Nat}

/-- What the encoders take. -/
inductive Http2FrameValue
  | settings (payload : Http2SettingsPayload)
  | ping (payload : Http2PingPayload)
  | goAway (payload : Http2GoAwayPayload)
  | rstStream (errorCode : Http2ErrorCode) (streamId : Nat)
  | windowUpdate (windowSizeIncrement streamId : Nat)
  | data (payload : Http2DataPayload) (streamId : Nat)
  | headers (payload : Http2HeadersPayload) (streamId : Nat)
  | continuation (payload : Http2ContinuationPayload) (streamId : Nat)
  | priority (priority : Http2Priority) (streamId : Nat)

/-- An error code of 32 bits, named where it has a name. -/
structure Http2ErrorCode.InRange (errorCode : Http2ErrorCode) : Prop where
  value : errorCode.value < 2 ^ 32
  named : Http2ErrorCode.ofValue errorCode.value = errorCode

/-- The widths of the fields that have no check of their own. A stream
dependency is a 31-bit number. -/
def Http2FrameValue.InRange : Http2FrameValue → Prop
  | .settings payload => ∀ setting ∈ payload.parameters,
      setting.identifier < 2 ^ 16 ∧ setting.value < 2 ^ 32
  | .ping payload => payload.opaqueData.length = 8
  | .goAway payload => payload.errorCode.InRange
  | .rstStream errorCode _ => errorCode.InRange
  | .headers payload _ => payload.hasPriority = true →
      payload.priority.streamDependency ≤ kHttp2MaximumStreamId
  | .priority field _ => field.streamDependency ≤ kHttp2MaximumStreamId
  | .windowUpdate _ _ | .data _ _ | .continuation _ _ => True

def Http2FrameValue.encode : Http2FrameValue → Except String Bytes
  | .settings payload => encodeHttp2SettingsFrame payload
  | .ping payload => encodeHttp2PingFrame payload
  | .goAway payload => encodeHttp2GoAwayFrame payload
  | .rstStream errorCode streamId =>
    encodeHttp2RstStreamFrame errorCode streamId
  | .windowUpdate windowSizeIncrement streamId =>
    encodeHttp2WindowUpdateFrame windowSizeIncrement streamId
  | .data payload streamId => encodeHttp2DataFrame payload streamId
  | .headers payload streamId => encodeHttp2HeadersFrame payload streamId
  | .continuation payload streamId =>
    encodeHttp2ContinuationFrame payload streamId
  | .priority field streamId => encodeHttp2PriorityFrame field streamId

/-- The frame of this value, read by its own payload function. A priority
that is not there counts for nothing. -/
def Http2FrameValue.ReadsBack (frame : Http2Frame) : Http2FrameValue → Prop
  | .settings payload => parseHttp2SettingsPayload frame = .ok payload
  | .ping payload => parseHttp2PingPayload frame = .ok payload
  | .goAway payload => parseHttp2GoAwayPayload frame = .ok payload
  | .rstStream errorCode streamId =>
    parseHttp2RstStreamPayload frame = .ok errorCode ∧ frame.header.streamId = streamId
  | .windowUpdate windowSizeIncrement streamId =>
    parseHttp2WindowUpdatePayload frame = .ok windowSizeIncrement ∧ frame.header.streamId = streamId
  | .data payload streamId =>
    parseHttp2DataPayload frame = .ok payload ∧ frame.header.streamId = streamId
  | .headers payload streamId =>
    parseHttp2HeadersPayload frame = .ok
      { payload with
        priority := if payload.hasPriority then payload.priority else {} } ∧
      frame.header.streamId = streamId
  | .continuation payload streamId =>
    parseHttp2ContinuationPayload frame = .ok payload ∧ frame.header.streamId = streamId
  | .priority field streamId =>
    frame.header.type = .priority ∧ frame.hasPriority = true ∧
      frame.priority = field ∧ frame.payload = [] ∧
      frame.header.streamId = streamId

/-! ## Frames of values -/

def plainFrame (type : Http2FrameType) (flags : UInt8) (streamId : Nat)
    (payload : Bytes) : Http2Frame :=
  { header := ⟨payload.length, type, flags, streamId⟩, payload := payload }

def priorityFrame (type : Http2FrameType) (flags : UInt8) (streamId : Nat)
    (priority : Http2Priority) (payload : Bytes) : Http2Frame :=
  { header := ⟨5 + payload.length, type, flags, streamId⟩
    payload := payload
    hasPriority := true
    priority := priority }

def settingsBytes (parameters : List Http2Setting) : Bytes := parameters.flatMap fun setting =>
    toBigEndian 2 setting.identifier ++ toBigEndian 4 setting.value

def Http2FrameValue.frame : Http2FrameValue → Http2Frame
  | .settings payload =>
    plainFrame .settings (if payload.isAcknowledgement then kHttp2FlagAcknowledge else 0) 0
      (settingsBytes payload.parameters)
  | .ping payload =>
    plainFrame .ping (if payload.isAcknowledgement then kHttp2FlagAcknowledge else 0) 0
      payload.opaqueData
  | .goAway payload =>
    plainFrame .goAway 0 0 (toBigEndian 4 payload.lastStreamId ++
      toBigEndian 4 payload.errorCode.value ++ payload.debugData)
  | .rstStream errorCode streamId =>
    plainFrame .rstStream 0 streamId (toBigEndian 4 errorCode.value)
  | .windowUpdate windowSizeIncrement streamId =>
    plainFrame .windowUpdate 0 streamId (toBigEndian 4 windowSizeIncrement)
  | .data payload streamId =>
    plainFrame .data (if payload.endStream then kHttp2FlagEndStream else 0) streamId payload.data
  | .headers payload streamId =>
    if payload.hasPriority then
      priorityFrame .headers (headersFrameFlags payload.endStream payload.endHeaders true) streamId
        payload.priority payload.headerBlockFragment
    else
      plainFrame .headers (headersFrameFlags payload.endStream payload.endHeaders false)
        streamId payload.headerBlockFragment
  | .continuation payload streamId =>
    plainFrame .continuation (if payload.endHeaders then kHttp2FlagEndHeaders else 0) streamId
      payload.headerBlockFragment
  | .priority field streamId =>
    priorityFrame .priority 0 streamId field []

/-- The encoders have come to this frame. -/
structure Encodes (frame : Http2Frame) (bytes : Bytes) : Prop where
  encode : encodeHttp2Frame frame.header.type frame.header.flags
    frame.header.streamId (frame.rawPayload []) = .ok bytes
  unpadded : isPaddedFrame frame.header = false
  length : frame.header.payloadLength = (frame.rawPayload []).length
  header : frame.header.ObeysRules
  payload : frame.PayloadObeysRules

variable {bytes : Bytes}

theorem onWire_of_encodeHttp2Frame {payload : Bytes}
    (h : encodeHttp2Frame type flags streamId payload = .ok bytes) :
    (⟨payload.length, type, flags, streamId⟩ : Http2FrameHeader).Fits ∧
      bytes = (⟨payload.length, type, flags, streamId⟩ :
        Http2FrameHeader).onWire false ++ payload := by
  unfold encodeHttp2Frame appendHttp2Frame at h
  split at h
  · cases h
  unfold encodeHttp2FrameHeader at h
  by_cases hsize : payload.length > kHttp2MaximumFramePayloadByteCount
  · rw [if_pos hsize] at h
    cases h
  by_cases hid : streamId > kHttp2MaximumStreamId
  · rw [if_neg hsize, if_pos hid] at h
    cases h
  cases hknown : isKnownFrameType type with
  | false =>
    rw [if_neg hsize, if_neg hid, if_pos (by rw [hknown]; rfl)] at h
    cases h
  | true =>
    rw [if_neg hsize, if_neg hid, if_neg (by rw [hknown]; simp)] at h
    cases h
    refine ⟨⟨le_of_not_gt hsize, le_of_not_gt hid, ?_,
      Http2FrameType.ofValue_value hknown⟩, ?_⟩
    · cases type with
      | undefined value => exact nomatch hknown
      | _ => simp [Http2FrameType.value]
    · unfold Http2FrameHeader.onWire withTopBit
      simp

theorem Encodes.onWire {frame : Http2Frame}
    (h : Encodes frame bytes) {maximumFrameSizeByteCount : Nat}
    (hsize : bytes.length ≤ 9 + maximumFrameSizeByteCount) :
    frame.OnWire bytes ∧ frame.ObeysRules maximumFrameSizeByteCount := by
  obtain ⟨hfits, hbytes⟩ := onWire_of_encodeHttp2Frame h.encode
  rw [← h.length] at hfits hbytes
  have hlength := congrArg List.length hbytes
  rw [List.length_append, Http2FrameHeader.length_onWire, ← h.length] at hlength
  exact ⟨⟨false, [], hbytes, ⟨by decide, fun _ => rfl⟩, h.length⟩,
    hfits, by omega, h.header, h.payload⟩

theorem rawPayload_plainFrame {payload : Bytes}
    (h : isPaddedFrame (plainFrame type flags streamId payload).header = false)
    :
    (plainFrame type flags streamId payload).rawPayload [] = payload := by
  unfold Http2Frame.rawPayload
  rw [h]
  simp [plainFrame]

theorem encodes_plainFrame {payload : Bytes}
    (hencode : encodeHttp2Frame type flags streamId payload = .ok bytes)
    (hunpadded : isPaddedFrame (plainFrame type flags streamId payload).header = false)
    (hpriority : carriesPriority (plainFrame type flags streamId payload).header = false)
    (hrules : (plainFrame type flags streamId payload).header.ObeysRules)
    (hincrement : type = .windowUpdate → readBigEndian payload % (kHttp2MaximumStreamId + 1) ≠ 0) :
    Encodes (plainFrame type flags streamId payload) bytes :=
  { encode := by rwa [rawPayload_plainFrame hunpadded]
    unpadded := hunpadded
    length := by rw [rawPayload_plainFrame hunpadded]; rfl
    header := hrules
    payload := ⟨hpriority.symm, fun _ => rfl, nofun, hincrement⟩ }

theorem rawPayload_priorityFrame {priority : Http2Priority} {payload : Bytes}
    (h : isPaddedFrame (priorityFrame type flags streamId priority payload).header = false) :
    (priorityFrame type flags streamId priority payload).rawPayload [] =
      appendPriorityField [] priority ++ payload := by
  unfold Http2Frame.rawPayload
  rw [h]
  simp [priorityFrame]

theorem encodes_priorityFrame {priority : Http2Priority} {payload : Bytes}
    (hencode : encodeHttp2Frame type flags streamId
      (appendPriorityField [] priority ++ payload) = .ok bytes)
    (hunpadded : isPaddedFrame (priorityFrame type flags streamId priority payload).header = false)
    (hpriority : carriesPriority (priorityFrame type flags streamId priority payload).header)
    (hrules : (priorityFrame type flags streamId priority payload).header.ObeysRules)
    (hsmall : priority.streamDependency ≤ kHttp2MaximumStreamId)
    (hself : rejectSelfDependency priority.streamDependency streamId = none) :
    Encodes (priorityFrame type flags streamId priority payload) bytes := by
  have hother : priority.streamDependency ≠ streamId := by
    intro heq
    unfold rejectSelfDependency at hself
    rw [if_pos heq] at hself
    cases hself
  have htype : type ≠ .windowUpdate := by
    rintro rfl
    cases hpriority
  exact
    { encode := by rwa [rawPayload_priorityFrame hunpadded]
      unpadded := hunpadded
      length := by
        rw [rawPayload_priorityFrame hunpadded, length_append, length_appendPriorityField]
        rfl
      header := hrules
      payload := ⟨hpriority.symm, nofun, fun _ => ⟨hsmall, hother⟩, fun heq => absurd heq htype⟩ }

/-! ## Settings -/

theorem length_settingsBytes (parameters : List Http2Setting) :
    (settingsBytes parameters).length = 6 * parameters.length := by
  induction parameters with
  | nil => rfl
  | cons setting parameters ih =>
    unfold settingsBytes at ih ⊢
    rw [flatMap_cons, length_append, ih, length_append,
      length_toBigEndian, length_toBigEndian, length_cons]
    omega

theorem readSettings_settingsBytes {parameters : List Http2Setting}
    (h : ∀ setting ∈ parameters, setting.identifier < 2 ^ 16 ∧ setting.value < 2 ^ 32) :
    readSettings (settingsBytes parameters) = parameters := by
  induction parameters with
  | nil => rfl
  | cons setting parameters ih =>
    obtain ⟨hidentifier, hvalue⟩ := h setting mem_cons_self
    have ih := ih fun other hmem => h other (mem_cons_of_mem _ hmem)
    have hidentifier := readBigEndian_toBigEndian 2 hidentifier
    have hvalue := readBigEndian_toBigEndian 4 hvalue
    have htwo := length_toBigEndian 2 setting.identifier
    have hfour := length_toBigEndian 4 setting.value
    unfold settingsBytes at ih ⊢
    rw [flatMap_cons]
    revert hidentifier hvalue htwo hfour
    generalize toBigEndian 2 setting.identifier = identifierField
    generalize toBigEndian 4 setting.value = valueField
    intro hidentifier hvalue htwo hfour
    match identifierField, valueField, htwo, hfour with
    | [i₁, i₀], [v₃, v₂, v₁, v₀], _, _ =>
      simp only [cons_append, nil_append, readSettings]
      rw [hidentifier, hvalue, ih]

/-! ## Every encoder -/

theorem isPaddedFrame_flag {header : Http2FrameHeader}
    (h : hasFlag header.flags kHttp2FlagPadded = false) : isPaddedFrame header = false := by
  unfold isPaddedFrame
  rw [h, Bool.and_false]

theorem flag_of_bool (isSet : Bool) : hasFlag (if isSet then kHttp2FlagAcknowledge else 0)
        kHttp2FlagAcknowledge = isSet ∧
      hasFlag (if isSet then kHttp2FlagEndStream else 0) kHttp2FlagEndStream = isSet ∧
      hasFlag (if isSet then kHttp2FlagEndHeaders else 0) kHttp2FlagEndHeaders = isSet ∧
      hasFlag (if isSet then kHttp2FlagEndStream else 0) kHttp2FlagPadded = false := by
  revert isSet
  decide

theorem headersFrameFlags_flags (endStream endHeaders hasPriority : Bool) :
    hasFlag (headersFrameFlags endStream endHeaders hasPriority) kHttp2FlagPadded = false ∧
      hasFlag (headersFrameFlags endStream endHeaders hasPriority)
        kHttp2FlagPriority = hasPriority ∧
      hasFlag (headersFrameFlags endStream endHeaders hasPriority) kHttp2FlagEndStream = endStream ∧
      hasFlag (headersFrameFlags endStream endHeaders hasPriority)
        kHttp2FlagEndHeaders = endHeaders := by
  revert endStream endHeaders hasPriority
  decide

theorem encodes_settings {payload : Http2SettingsPayload}
    (h : encodeHttp2SettingsFrame payload = .ok bytes) :
    Encodes (Http2FrameValue.settings payload).frame bytes := by
  unfold encodeHttp2SettingsFrame at h
  split at h
  · cases h
  rename_i hempty
  refine encodes_plainFrame h rfl rfl ⟨rfl, ?_, ?_⟩ nofun
  · show (settingsBytes payload.parameters).length % 6 = 0
    rw [length_settingsBytes]
    omega
  intro hack
  have hack : payload.isAcknowledgement := (flag_of_bool _).1.symm.trans hack
  rw [hack, Bool.true_and] at hempty
  have hnil : payload.parameters = [] := by simpa using hempty
  show (settingsBytes payload.parameters).length = 0
  rw [hnil]
  rfl

theorem encodes_headers (hrange : (Http2FrameValue.headers payload streamId).InRange)
    (h : encodeHttp2HeadersFrame payload streamId = .ok bytes) :
    Encodes (Http2FrameValue.headers payload streamId).frame bytes := by
  unfold encodeHttp2HeadersFrame appendHttp2HeadersFrame appendHeadersFrameOnStream at h
  unfold Http2FrameValue.frame
  dsimp only
  cases hpriority : payload.hasPriority with
  | false =>
    obtain ⟨hpadded, hflag, -, -⟩ :=
      headersFrameFlags_flags payload.endStream payload.endHeaders false
    rw [hpriority, if_pos (by rfl)] at h
    split at h
    · cases h
    rename_i hstream
    refine encodes_plainFrame h (isPaddedFrame_flag hpadded) ?_ hstream nofun
    simp only [carriesPriority, plainFrame, hflag]
    rfl
  | true =>
    obtain ⟨hpadded, hflag, -, -⟩ :=
      headersFrameFlags_flags payload.endStream payload.endHeaders true
    rw [hpriority, if_neg (by simp)] at h
    cases hself : rejectSelfDependency payload.priority.streamDependency streamId with
    | some reason =>
      rw [hself] at h
      cases h
    | none =>
      rw [hself] at h
      dsimp only at h
      split at h
      · cases h
      rename_i hstream
      refine encodes_priorityFrame h (isPaddedFrame_flag hpadded) ?_
        hstream (hrange hpriority) hself
      simp only [carriesPriority, priorityFrame, hflag]
      rfl

theorem encodes_priority {field : Http2Priority} {streamId : Nat}
    (hrange : (Http2FrameValue.priority field streamId).InRange)
    (h : encodeHttp2PriorityFrame field streamId = .ok bytes) :
    Encodes (Http2FrameValue.priority field streamId).frame bytes := by
  unfold encodeHttp2PriorityFrame at h
  split at h
  · cases h
  rename_i hstream
  cases hself : rejectSelfDependency field.streamDependency streamId with
  | some reason =>
    rw [hself] at h
    cases h
  | none =>
    rw [hself] at h
    refine encodes_priorityFrame ?_ rfl rfl ⟨hstream, rfl⟩ hrange hself
    rwa [append_nil]

/-- Whatever an encoder accepts it puts on the wire as one frame that obeys
the rules. -/
theorem Http2FrameValue.encodes {value : Http2FrameValue}
    (hrange : value.InRange) (h : value.encode = .ok bytes) : Encodes value.frame bytes := by
  cases value with
  | settings payload => exact encodes_settings h
  | ping payload =>
    exact encodes_plainFrame h rfl rfl ⟨rfl, hrange⟩ nofun
  | goAway payload =>
    unfold Http2FrameValue.encode encodeHttp2GoAwayFrame at h
    dsimp only at h
    split at h
    · cases h
    refine encodes_plainFrame h rfl rfl ⟨rfl, ?_⟩ nofun
    simp only [plainFrame, length_append, length_toBigEndian]
    omega
  | rstStream errorCode streamId =>
    unfold Http2FrameValue.encode encodeHttp2RstStreamFrame at h
    dsimp only at h
    split at h
    · cases h
    rename_i hstream
    exact encodes_plainFrame h rfl rfl ⟨hstream, length_toBigEndian 4 _⟩ nofun
  | windowUpdate windowSizeIncrement streamId =>
    unfold Http2FrameValue.encode encodeHttp2WindowUpdateFrame at h
    dsimp only at h
    split at h
    · cases h
    split at h
    · cases h
    rename_i hsmall
    refine encodes_plainFrame h rfl rfl (length_toBigEndian 4 _) ?_
    intro _
    have hsmall := Nat.lt_succ_of_le (le_of_not_gt hsmall)
    have hfield : windowSizeIncrement < 256 ^ 4 := hsmall.trans (by decide)
    rwa [readBigEndian_toBigEndian 4 hfield, Nat.mod_eq_of_lt hsmall]
  | data payload streamId =>
    unfold Http2FrameValue.encode encodeHttp2DataFrame at h
    dsimp only at h
    split at h
    · cases h
    rename_i hstream
    exact encodes_plainFrame h (isPaddedFrame_flag (flag_of_bool payload.endStream).2.2.2) rfl
      hstream nofun
  | headers payload streamId => exact encodes_headers hrange h
  | continuation payload streamId =>
    unfold Http2FrameValue.encode encodeHttp2ContinuationFrame at h
    dsimp only at h
    split at h
    · cases h
    · next hstream => exact encodes_plainFrame h rfl rfl hstream nofun
  | priority field streamId => exact encodes_priority hrange h

/-! ## And back -/

theorem readsBack_goAway {payload : Http2GoAwayPayload} (hrange : payload.errorCode.InRange)
    (h : encodeHttp2GoAwayFrame payload = .ok bytes) :
    (Http2FrameValue.goAway payload).ReadsBack (Http2FrameValue.goAway payload).frame := by
  unfold encodeHttp2GoAwayFrame at h
  split at h
  · cases h
  rename_i hlast
  have hlast := Nat.lt_succ_of_le (le_of_not_gt hlast)
  have hfirst := length_toBigEndian 4 payload.lastStreamId
  have hsecond := length_toBigEndian 4 payload.errorCode.value
  have hcode := readBigEndian_toBigEndian 4 hrange.value
  have hid := readBigEndian_toBigEndian 4
    (hlast.trans (by decide : kHttp2MaximumStreamId + 1 < 256 ^ 4))
  unfold Http2FrameValue.ReadsBack Http2FrameValue.frame parseHttp2GoAwayPayload plainFrame
  dsimp only
  rw [if_neg (by simp), if_neg (by
    rw [length_append, length_append, hfirst, hsecond, kGoAwayFixedByteCount]
    omega)]
  rw [append_assoc, take_left' hfirst, drop_left' hfirst,
    take_left' hsecond, hid, Nat.mod_eq_of_lt hlast, hcode,
    hrange.named, ← append_assoc, drop_left' (by
      rw [length_append, hfirst, hsecond, kGoAwayFixedByteCount])]

theorem readsBack_headers : (Http2FrameValue.headers payload streamId).ReadsBack
      (Http2FrameValue.headers payload streamId).frame := by
  unfold Http2FrameValue.ReadsBack Http2FrameValue.frame
  dsimp only
  cases hpriority : payload.hasPriority with
  | false =>
    obtain ⟨-, -, hstream, hheaders⟩ :=
      headersFrameFlags_flags payload.endStream payload.endHeaders false
    refine ⟨?_, rfl⟩
    simp only [parseHttp2HeadersPayload, plainFrame, hstream, hheaders,
      ne_eq, not_true_eq_false, if_false, Bool.false_eq_true]
  | true =>
    obtain ⟨-, -, hstream, hheaders⟩ :=
      headersFrameFlags_flags payload.endStream payload.endHeaders true
    refine ⟨?_, rfl⟩
    simp only [parseHttp2HeadersPayload, priorityFrame, hstream, hheaders,
      ne_eq, not_true_eq_false, if_false, if_true]

theorem Http2FrameValue.readsBack {value : Http2FrameValue}
    (hrange : value.InRange) (h : value.encode = .ok bytes) : value.ReadsBack value.frame := by
  cases value with
  | settings payload =>
    have hread := readSettings_settingsBytes hrange
    have hlength := length_settingsBytes payload.parameters
    unfold Http2FrameValue.ReadsBack Http2FrameValue.frame parseHttp2SettingsPayload plainFrame
    rw [if_neg (by simp), if_neg (by
      rw [hlength, kSettingByteCount]
      omega), hread, (flag_of_bool payload.isAcknowledgement).1]
  | ping payload =>
    unfold Http2FrameValue.ReadsBack Http2FrameValue.frame parseHttp2PingPayload plainFrame
    rw [if_neg (by simp), if_neg (by
      exact not_not.mpr hrange),
      (flag_of_bool payload.isAcknowledgement).1]
  | goAway payload => exact readsBack_goAway hrange h
  | rstStream errorCode streamId =>
    have hcode := readBigEndian_toBigEndian 4 hrange.value
    unfold Http2FrameValue.ReadsBack Http2FrameValue.frame parseHttp2RstStreamPayload plainFrame
    rw [if_neg (by simp), if_neg (by simp), hcode, hrange.named]
    exact ⟨rfl, rfl⟩
  | windowUpdate windowSizeIncrement streamId =>
    unfold Http2FrameValue.encode encodeHttp2WindowUpdateFrame at h
    dsimp only at h
    split at h
    · cases h
    rename_i hzero
    split at h
    · cases h
    rename_i hsmall
    have hsmall := Nat.lt_succ_of_le (le_of_not_gt hsmall)
    have hfield : windowSizeIncrement < 256 ^ 4 := hsmall.trans (by decide)
    unfold Http2FrameValue.ReadsBack Http2FrameValue.frame parseHttp2WindowUpdatePayload plainFrame
    rw [if_neg (by simp), if_neg (by simp),
      readBigEndian_toBigEndian 4 hfield, Nat.mod_eq_of_lt hsmall,
      if_neg hzero]
    exact ⟨rfl, rfl⟩
  | data payload streamId =>
    refine ⟨?_, rfl⟩
    unfold Http2FrameValue.frame parseHttp2DataPayload plainFrame
    rw [if_neg (by simp), (flag_of_bool payload.endStream).2.1]
  | headers payload streamId => exact readsBack_headers
  | continuation payload streamId =>
    refine ⟨?_, rfl⟩
    unfold Http2FrameValue.frame parseHttp2ContinuationPayload plainFrame
    rw [if_neg (by simp), (flag_of_bool payload.endHeaders).2.2.1]
  | priority field streamId => exact ⟨rfl, rfl, rfl, rfl, rfl⟩

/-! ## The codec -/

open Http2FrameDecoder in
/-- In every run of a decoder: the frames that were taken lie on the bytes
that were consumed for them, padding and all, and obey the rules of their
types. And wherever the last frame is done with, the bytes of a value give
the frame of that value, from which the value is read back, and the bytes of
any frame that obeys the rules give that frame. -/
theorem frames_round_trip {limits : Http2FrameLimits} {d : Http2FrameDecoder}
    (hcreate : create limits = .ok d) (calls : List Call) :
    (∀ taken ∈ (InUse.run { decoder := d } calls).taken, taken.2.OnWire taken.1 ∧
        taken.2.ObeysRules limits.maximumFrameSizeByteCount) ∧
    ((InUse.run { decoder := d } calls).decoder.AtBoundary →
      (∀ (value : Http2FrameValue) (bytes : Bytes), value.InRange → value.encode = .ok bytes →
        bytes.length ≤ 9 + limits.maximumFrameSizeByteCount →
        (InUse.run { decoder := d } calls).decoder.HasRoom bytes.length →
        (InUse.run { decoder := d } calls).decoder.Recovers bytes value.frame ∧
          value.ReadsBack value.frame) ∧
      (∀ (bytes : Bytes) (frame : Http2Frame), frame.OnWire bytes →
        frame.ObeysRules limits.maximumFrameSizeByteCount →
        (InUse.run { decoder := d } calls).decoder.HasRoom bytes.length →
        (InUse.run { decoder := d } calls).decoder.Recovers bytes frame)) := by
  have hsound := (InUse.sound_of_create hcreate).run calls
  refine ⟨hsound.taken, fun hboundary => ⟨?_, ?_⟩⟩
  · intro value bytes hrange hencode hsize hroom
    obtain ⟨hwire, hrules⟩ := (value.encodes hrange hencode).onWire hsize
    refine ⟨hboundary.recovers hroom hwire ?_, value.readsBack hrange hencode⟩
    rw [hsound.agreed]
    exact hrules
  · intro bytes frame hwire hrules hroom
    refine hboundary.recovers hroom hwire ?_
    rw [hsound.agreed]
    exact hrules

theorem priority_frame_round_trip :
    (Http2FrameDecoder.InUse.run { decoder := { limits := {} } }
        []).decoder.Recovers [0, 0, 5, 2, 0, 0, 0, 0, 5, 0, 0, 0, 3, 16]
        (Http2FrameValue.priority ⟨false, 3, 16⟩ 5).frame ∧
      (Http2FrameValue.priority ⟨false, 3, 16⟩ 5).ReadsBack
        (Http2FrameValue.priority ⟨false, 3, 16⟩ 5).frame :=
  ((@frames_round_trip {} _ rfl []).2 ⟨rfl, rfl, rfl⟩).1 _ _
    (by decide : 3 ≤ kHttp2MaximumStreamId) rfl (by decide) (.inl rfl)

/-! ## Sequences -/

section Sequences

variable {limits : Http2FrameLimits} {d : Http2FrameDecoder}
  {sent : List (Http2FrameValue × Bytes)}
  (hsent : ∀ entry ∈ sent, entry.1.InRange ∧ entry.1.encode = .ok entry.2 ∧
    entry.2.length ≤ 9 + limits.maximumFrameSizeByteCount)

include hsent

end Sequences

theorem parse_oversized (payload : Bytes) :
    (parse { limits := {} } ([0, 0x40, 0x01, 0, 0, 0, 0, 0, 1] ++ payload)).1 = .error := by
  cases payload with
  | nil => rfl
  | cons byte payload => rfl

/-- A DATA frame on stream 0, a frame larger than the decoder was created
for, and a PUSH_PROMISE on stream 0. -/
theorem frames_outside_round_trip :
    (∃ bytes, encodeHttp2Frame .data 0 0 [] = .ok bytes ∧
      (parse { limits := {} } bytes).1 = .error) ∧
    (∃ bytes, encodeHttp2DataFrame { data := replicate 16385 0 } 1 = .ok bytes ∧
      (parse { limits := {} } bytes).1 = .error) ∧
    (parse { limits := {} } [0, 0, 0, 5, 0, 0, 0, 0, 0]).2.takeFrame.1 =
        .ok { header := { type := .pushPromise, streamId := 0 } } := by
  refine ⟨⟨_, rfl, rfl⟩, ⟨_, ?_, parse_oversized (replicate 16385 0)⟩,
    rfl⟩
  unfold encodeHttp2DataFrame encodeHttp2Frame appendHttp2Frame
  rw [length_replicate]
  rfl

end AsynGyanis.Http2
