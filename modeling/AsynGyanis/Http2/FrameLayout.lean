import AsynGyanis.Http2.FrameCodec

/-!
# How a frame lies on the wire

`OnWire frame wire` says of the bytes what RFC 9113 §4.1 and §6 say of a
frame: nine bytes of header, whose reserved bit means nothing, then the
length of the padding where the frame is padded, the priority field where
it has one, what the frame carries, and the padding to the end of the
declared length. `ObeysRules` are the rules for sizes, stream numbers and
priorities of each type.

The decoder sees the header first and the payload when it is complete, so
both are read backwards here as well: `decodeHttp2FrameHeader` gives exactly
the header the nine bytes are those of, and `completedFrame` exactly the
frame whose payload lies between its padding, or no frame at all.
-/

namespace AsynGyanis.Http2

open Library Http2Frame Http2FrameType List

/-! ## Fields -/

theorem readBigEndian_eq (bytes : Bytes) : readBigEndian bytes = ofBigEndian bytes := by
  have hfold : ∀ (value : Nat) (bytes : Bytes),
      bytes.foldl (fun value byte => value * 256 + byte.toNat) value =
        foldBigEndian value bytes := by
    intro value bytes
    induction bytes generalizing value with
    | nil => rfl
    | cons byte rest ih => rw [foldBigEndian_cons, foldl_cons, ih]
  exact hfold 0 bytes

variable {value : Nat} {header : Http2FrameHeader} {padding : Bytes}
variable {frame : Http2Frame}

theorem readBigEndian_toBigEndian (width : Nat) (h : value < 256 ^ width) :
    readBigEndian (toBigEndian width value) = value := by
  rw [readBigEndian_eq, ofBigEndian_toBigEndian, Nat.mod_eq_of_lt h]

/-- A 31-bit number under one more bit. -/
def withTopBit (value : Nat) (topBit : Bool) : Nat :=
  value ||| if topBit then kStreamIdReservedBitMask else 0

theorem withTopBit_eq (h : value ≤ kHttp2MaximumStreamId) (topBit : Bool) :
    withTopBit value topBit = value + if topBit then kStreamIdReservedBitMask else 0 := by
  unfold withTopBit
  unfold kHttp2MaximumStreamId at h
  cases topBit with
  | false => simp
  | true =>
    have hor : 2 ^ 31 * 1 + value = 2 ^ 31 * 1 ||| value := Nat.two_pow_add_eq_or_of_lt (by omega) 1
    rw [if_pos rfl, kStreamIdReservedBitMask, Nat.or_comm, add_comm]
    exact hor.symm

theorem withTopBit_lt (h : value ≤ kHttp2MaximumStreamId)
    (topBit : Bool) : withTopBit value topBit < 256 ^ 4 := by
  rw [withTopBit_eq h]
  unfold kHttp2MaximumStreamId at h
  unfold kStreamIdReservedBitMask
  cases topBit with
  | false => simp only [Bool.false_eq_true, if_false]; omega
  | true => simp only [if_true]; omega

theorem withTopBit_mod (h : value ≤ kHttp2MaximumStreamId) (topBit : Bool) :
    withTopBit value topBit % (kHttp2MaximumStreamId + 1) = value := by
  rw [withTopBit_eq h]
  unfold kHttp2MaximumStreamId at h ⊢
  unfold kStreamIdReservedBitMask
  cases topBit with
  | false => simp only [Bool.false_eq_true, if_false]; omega
  | true => simp only [if_true]; omega

theorem withTopBit_testBit (h : value ≤ kHttp2MaximumStreamId)
    (topBit : Bool) : (withTopBit value topBit).testBit 31 = topBit := by
  rw [withTopBit_eq h, Nat.testBit_eq_decide_div_mod_eq]
  unfold kHttp2MaximumStreamId at h
  unfold kStreamIdReservedBitMask
  cases topBit with
  | false =>
    simp only [Bool.false_eq_true, if_false]
    exact decide_eq_false (by omega)
  | true =>
    simp only [if_true]
    exact decide_eq_true (by omega)

theorem withTopBit_split {field : Nat} (h : field < 256 ^ 4) :
    withTopBit (field % (kHttp2MaximumStreamId + 1)) (field.testBit 31) =
      field := by
  have hmod : field % (kHttp2MaximumStreamId + 1) ≤ kHttp2MaximumStreamId :=
    Nat.le_of_lt_succ (Nat.mod_lt _ (Nat.succ_pos _))
  rw [withTopBit_eq hmod, Nat.testBit_eq_decide_div_mod_eq]
  unfold kHttp2MaximumStreamId kStreamIdReservedBitMask
  by_cases hbit : field / 2 ^ 31 % 2 = 1
  · rw [if_pos (by simpa using hbit)]
    omega
  · rw [if_neg (by simpa using hbit)]
    omega

theorem Http2FrameType.ofValue_value {type : Http2FrameType}
    (h : isKnownFrameType type) : .ofValue type.value = type := by
  cases type with
  | undefined value => exact nomatch h
  | _ => rfl

theorem Http2FrameType.value_ofValue (value : Nat) : (ofValue value).value = value := by
  unfold ofValue
  split
  all_goals rfl

/-! ## Headers -/

/-- The header has room for its fields. -/
structure Http2FrameHeader.Fits (header : Http2FrameHeader) : Prop where
  payloadLength : header.payloadLength ≤ kHttp2MaximumFramePayloadByteCount
  streamId : header.streamId ≤ kHttp2MaximumStreamId
  isByte : header.type.value < 256
  type : ofValue header.type.value = header.type

/-- The nine bytes of a header, with either reserved bit. -/
def Http2FrameHeader.onWire (header : Http2FrameHeader) (reservedBit : Bool) : Bytes :=
  toBigEndian 3 header.payloadLength ++ [UInt8.ofNat header.type.value, header.flags] ++
    toBigEndian 4 (withTopBit header.streamId reservedBit)

theorem Http2FrameHeader.length_onWire (header : Http2FrameHeader)
    (reservedBit : Bool) : (header.onWire reservedBit).length = 9 := by
  simp [Http2FrameHeader.onWire]

theorem decodeHttp2FrameHeader_onWire (h : header.Fits) (reservedBit : Bool) :
    decodeHttp2FrameHeader (header.onWire reservedBit) = .ok header := by
  have hlength : (toBigEndian 3 header.payloadLength).length = 3 := length_toBigEndian _ _
  have hbound := h.payloadLength
  unfold kHttp2MaximumFramePayloadByteCount at hbound
  unfold decodeHttp2FrameHeader
  rw [if_neg (by
    rw [header.length_onWire, kHttp2FrameHeaderByteCount]
    decide)]
  have hread : (header.onWire reservedBit).take 3 = toBigEndian 3 header.payloadLength ∧
      (header.onWire reservedBit).getD 3 0 = UInt8.ofNat header.type.value ∧
      (header.onWire reservedBit).getD 4 0 = header.flags ∧
      ((header.onWire reservedBit).drop 5).take 4 =
        toBigEndian 4 (withTopBit header.streamId reservedBit) := by
    unfold Http2FrameHeader.onWire
    have hlast : (toBigEndian 4 (withTopBit header.streamId reservedBit)).length = 4 :=
      length_toBigEndian _ _
    revert hlength hlast
    generalize toBigEndian 3 header.payloadLength = lengthField
    intro hlength hlast
    match lengthField, hlength with
    | [_, _, _], _ =>
      exact ⟨rfl, rfl, rfl, take_of_length_le (le_of_eq hlast)⟩
  obtain ⟨hsize, htype, hflags, hid⟩ := hread
  rw [hsize, htype, hflags, hid, readBigEndian_toBigEndian 3 (by omega),
    readBigEndian_toBigEndian 4 (withTopBit_lt h.streamId _),
    withTopBit_mod h.streamId]
  have hbyte : (UInt8.ofNat header.type.value).toNat = header.type.value := by
    simpa using h.isByte
  rw [hbyte, h.type]

theorem onWire_of_decodeHttp2FrameHeader {bytes : Bytes} (hlength : bytes.length = 9)
    (h : decodeHttp2FrameHeader bytes = .ok header) :
    header.Fits ∧ ∃ reservedBit, bytes = header.onWire reservedBit := by
  unfold decodeHttp2FrameHeader at h
  match bytes, hlength with
  | [l₂, l₁, l₀, type, flags, s₃, s₂, s₁, s₀], _ =>
    cases h
    have hsize := ofBigEndian_lt [l₂, l₁, l₀]
    have hid := ofBigEndian_lt [s₃, s₂, s₁, s₀]
    have hlengthField := toBigEndian_ofBigEndian [l₂, l₁, l₀]
    have hidField := toBigEndian_ofBigEndian [s₃, s₂, s₁, s₀]
    simp only [length_cons, length_nil] at hsize hid
    simp only [length_cons, length_nil] at hlengthField hidField
    refine ⟨⟨?_, ?_, ?_, ?_⟩, (ofBigEndian [s₃, s₂, s₁, s₀]).testBit 31, ?_⟩
    · simp only [readBigEndian_eq, take_succ_cons, take_zero]
      unfold kHttp2MaximumFramePayloadByteCount
      omega
    · exact Nat.le_of_lt_succ (Nat.mod_lt _ (Nat.succ_pos _))
    · simp only [value_ofValue]
      exact UInt8.toNat_lt _
    · simp only [value_ofValue]
    · simp only [Http2FrameHeader.onWire, readBigEndian_eq,
        take_succ_cons, take_zero, drop_succ_cons,
        drop_zero, hlengthField, value_ofValue]
      rw [withTopBit_split hid, hidField]
      simp

/-- RFC 9113 §6, what a header alone has to obey. PUSH_PROMISE is passed
through like an unknown type. -/
def Http2FrameHeader.ObeysRules (header : Http2FrameHeader) : Prop :=
  match header.type with
  | .data | .headers | .continuation => header.streamId ≠ 0
  | .priority => header.streamId ≠ 0 ∧ header.payloadLength = 5
  | .rstStream => header.streamId ≠ 0 ∧ header.payloadLength = 4
  | .settings =>
    header.streamId = 0 ∧ header.payloadLength % 6 = 0 ∧
      (hasFlag header.flags kHttp2FlagAcknowledge = true → header.payloadLength = 0)
  | .ping => header.streamId = 0 ∧ header.payloadLength = 8
  | .goAway => header.streamId = 0 ∧ 8 ≤ header.payloadLength
  | .windowUpdate => header.payloadLength = 4
  | .pushPromise | .undefined _ => True

theorem acceptFrameShape_iff (header : Http2FrameHeader) :
    acceptFrameShape header = .ok () ↔ header.ObeysRules := by
  unfold acceptFrameShape Http2FrameHeader.ObeysRules
  cases header.type with
  | data | headers | continuation =>
    by_cases hstream : header.streamId = 0
    · simp [hstream]
    · simp [hstream]
  | priority | rstStream =>
    by_cases hstream : header.streamId = 0
    · simp [hstream]
    by_cases hsize : header.payloadLength = 5
    · simp [hstream, hsize, kPriorityFieldByteCount]
    · simp [hstream, hsize, kPriorityFieldByteCount]
  | settings =>
    by_cases hstream : header.streamId = 0
    · by_cases hack : hasFlag header.flags kHttp2FlagAcknowledge
      · by_cases hempty : header.payloadLength = 0
        · simp [hstream, hack, hempty]
        · simp [hstream, hack, hempty]
      by_cases hsize : header.payloadLength % 6 = 0
      · simp [hstream, hack, hsize, kSettingByteCount]
      · simp [hstream, hack, hsize, kSettingByteCount]
    · simp [hstream]
  | ping | goAway =>
    by_cases hstream : header.streamId = 0
    · simp [hstream, kPingOpaqueDataByteCount, kGoAwayFixedByteCount]
    · simp [hstream]
  | windowUpdate => simp
  | pushPromise | undefined _ => simp

/-! ## Payloads -/

def carriesPriority (header : Http2FrameHeader) : Bool := header.type == .priority ||
    header.type == .headers && hasFlag header.flags kHttp2FlagPriority

/-- The payload as it is sent, with this padding. -/
def Http2Frame.rawPayload (frame : Http2Frame) (padding : Bytes) : Bytes :=
  (if isPaddedFrame frame.header then [UInt8.ofNat padding.length] else []) ++
    (if frame.hasPriority then appendPriorityField [] frame.priority else []) ++
    frame.payload ++ padding

/-- The padding there can be. -/
structure Http2Frame.PadsWith (frame : Http2Frame) (padding : Bytes) :
    Prop where
  isByte : padding.length < 256
  unpadded : isPaddedFrame frame.header = false → padding = []

/-- The rules for what comes off a payload or lies in it. -/
structure Http2Frame.PayloadObeysRules (frame : Http2Frame) : Prop where
  hasPriority : frame.hasPriority = carriesPriority frame.header
  withoutPriority : frame.hasPriority = false → frame.priority = {}
  dependency : frame.hasPriority = true → frame.priority.streamDependency ≤ kHttp2MaximumStreamId ∧
      frame.priority.streamDependency ≠ frame.header.streamId
  increment : frame.header.type = .windowUpdate →
    readBigEndian frame.payload % (kHttp2MaximumStreamId + 1) ≠ 0

theorem length_appendPriorityField (priority : Http2Priority) :
    (appendPriorityField [] priority).length = 5 := by
  simp [appendPriorityField]

theorem appendPriorityField_eq {priority : Http2Priority}
    (h : priority.streamDependency ≤ kHttp2MaximumStreamId) :
    appendPriorityField [] priority =
      toBigEndian 4 (withTopBit priority.streamDependency
        priority.isExclusive) ++ [priority.weight] := by
  unfold appendPriorityField
  rw [Nat.mod_eq_of_lt (Nat.lt_succ_of_le h)]
  rfl

theorem acceptPriorityField_iff {streamId : Nat} {bytes : Bytes}
    {priority : Http2Priority} (hlength : bytes.length = 5) :
    acceptPriorityField streamId bytes = .ok priority ↔ bytes = appendPriorityField [] priority ∧
        priority.streamDependency ≤ kHttp2MaximumStreamId ∧
        priority.streamDependency ≠ streamId := by
  unfold acceptPriorityField
  constructor
  · intro h
    dsimp only at h
    split at h
    · cases h
    rename_i hother
    cases h
    have hsmall : readBigEndian (bytes.take 4) %
        (kHttp2MaximumStreamId + 1) ≤ kHttp2MaximumStreamId :=
      Nat.le_of_lt_succ (Nat.mod_lt _ (Nat.succ_pos _))
    refine ⟨?_, hsmall, hother⟩
    rw [appendPriorityField_eq hsmall]
    match bytes, hlength with
    | [b₃, b₂, b₁, b₀, weight], _ =>
      have hfield := ofBigEndian_lt [b₃, b₂, b₁, b₀]
      have hbytes := toBigEndian_ofBigEndian [b₃, b₂, b₁, b₀]
      simp only [length_cons, length_nil] at hfield hbytes
      simp only [readBigEndian_eq, take_succ_cons, take_zero]
      rw [withTopBit_split hfield, hbytes]
      rfl
  · rintro ⟨rfl, hsmall, hother⟩
    have hfour : (toBigEndian 4 (withTopBit priority.streamDependency
        priority.isExclusive)).length = 4 := length_toBigEndian _ _
    rw [appendPriorityField_eq hsmall]
    have hfield : (toBigEndian 4 (withTopBit priority.streamDependency
        priority.isExclusive) ++ [priority.weight]).take 4 =
          toBigEndian 4 (withTopBit priority.streamDependency
            priority.isExclusive) := take_left' hfour
    have hweight : (toBigEndian 4 (withTopBit priority.streamDependency
        priority.isExclusive) ++ [priority.weight]).getD 4 0 =
          priority.weight := by
      rfl
    dsimp only
    rw [hfield, hweight, readBigEndian_toBigEndian 4 (withTopBit_lt hsmall _),
      withTopBit_mod hsmall, withTopBit_testBit hsmall, if_neg hother]

/-- The byte before the body that says how long the padding is. -/
def paddingLead (header : Http2FrameHeader) (padding : Bytes) : Bytes :=
  if isPaddedFrame header then [UInt8.ofNat padding.length] else []

theorem take_drop_middle (lead body rest : Bytes) (n : Nat) (h : n ≤ body.length) :
    ((lead ++ body ++ rest).drop lead.length).take n = body.take n := by
  rw [append_assoc, drop_left, take_append_of_le_length h]

/-- What comes off between the padding: the priority field where there is
one. -/
structure CutsBody (header : Http2FrameHeader) (isPriority : Bool)
    (body field : Bytes) (frame : Http2Frame) : Prop where
  sameHeader : frame.header = header
  hasPriority : frame.hasPriority = isPriority
  body : body = field ++ frame.payload
  withField : isPriority = true → field.length = 5 ∧
    acceptPriorityField header.streamId field = .ok frame.priority
  withoutField : isPriority = false → field = [] ∧ frame.priority = {}

theorem paddingLength_eq {body : Bytes} (hbyte : padding.length < 256)
    (hunpadded : isPaddedFrame header = false → padding = []) :
    (if isPaddedFrame header then
      ((paddingLead header padding ++ body ++ padding).headD 0).toNat
    else 0) = padding.length := by
  unfold paddingLead
  cases hpadded : isPaddedFrame header with
  | false =>
    rw [hunpadded hpadded]
    rfl
  | true =>
    show (UInt8.ofNat padding.length).toNat = padding.length
    simpa using hbyte

theorem completedFrame_framed_iff {isPriority : Bool} {body : Bytes} (hbyte : padding.length < 256)
    (hunpadded : isPaddedFrame header = false → padding = []) :
    completedFrame header isPriority (paddingLead header padding ++ body ++ padding) = .ok frame ↔
      (∃ field, CutsBody header isPriority body field frame) ∧
        ¬ (header.type = .windowUpdate ∧ readBigEndian
          ((paddingLead header padding ++ body ++ padding).take 4) %
            (kHttp2MaximumStreamId + 1) = 0) := by
  have hlead : (paddingLead header padding).length =
      if isPaddedFrame header then 1 else 0 := by
    unfold paddingLead
    split
    all_goals rfl
  unfold completedFrame
  simp only [paddingLength_eq hbyte hunpadded, ← hlead]
  rw [if_neg (by
    intro h
    obtain ⟨hpadded, hempty⟩ := (Bool.and_eq_true _ _).mp h
    rw [if_pos hpadded] at hlead
    have hnil := congrArg length (isEmpty_iff.mp hempty)
    simp only [length_append, length_nil] at hnil
    omega)]
  rw [if_neg (by
    intro h
    obtain ⟨hpadded, hlong⟩ := (Bool.and_eq_true _ _).mp h
    have hlong := of_decide_eq_true hlong
    rw [if_pos hpadded] at hlead
    simp only [length_append] at hlong
    omega)]
  have hend : (paddingLead header padding ++ body ++ padding).length -
      padding.length = (paddingLead header padding).length + body.length := by
    simp only [length_append]
    omega
  rw [hend]
  generalize hraw : paddingLead header padding ++ body ++ padding = raw
  have hmiddle : ∀ n, n ≤ body.length →
      (raw.drop (paddingLead header padding).length).take n = body.take n := by
    intro n hn
    rw [← hraw]
    exact take_drop_middle _ _ _ n hn
  have hafter : ∀ n, n ≤ body.length → (raw.drop ((paddingLead header padding).length + n)).take
          ((paddingLead header padding).length + body.length -
            ((paddingLead header padding).length + n)) = body.drop n := by
    intro n hn
    rw [← drop_drop, Nat.add_sub_add_left]
    have h := hmiddle body.length (le_refl _)
    rw [take_length] at h
    rw [← drop_take, h]
  cases isPriority with
  | false =>
    rw [if_neg (by simp), if_neg (by simp)]
    have hall := hafter 0 (Nat.zero_le _)
    rw [add_zero, drop_zero] at hall
    rw [hall]
    constructor
    · intro h
      split at h
      · cases h
      rename_i hincrement
      cases h
      exact ⟨⟨[], rfl, rfl, rfl, nofun, fun _ => ⟨rfl, rfl⟩⟩, hincrement⟩
    · rintro ⟨⟨field, hcut⟩, hincrement⟩
      obtain ⟨rfl, hpriority⟩ := hcut.withoutField rfl
      rw [if_neg hincrement, hcut.body, nil_append, ← hcut.sameHeader,
        ← hpriority, ← hcut.hasPriority]
  | true =>
    by_cases hshort : body.length < kPriorityFieldByteCount
    · rw [if_pos (by simpa using hshort)]
      constructor
      · intro h
        cases h
      rintro ⟨⟨field, hcut⟩, -⟩
      have hbody := congrArg length hcut.body
      rw [length_append, (hcut.withField rfl).1] at hbody
      unfold kPriorityFieldByteCount at hshort
      omega
    rw [if_neg (by simpa using hshort), if_pos rfl, hmiddle _ (le_of_not_gt hshort),
      hafter _ (le_of_not_gt hshort)]
    unfold kPriorityFieldByteCount at hshort ⊢
    have hfive : (body.take 5).length = 5 := by
      rw [length_take]
      omega
    constructor
    · intro h
      cases hfield : acceptPriorityField header.streamId (body.take 5) with
      | error failure =>
        rw [hfield] at h
        cases h
      | ok priority =>
        rw [hfield] at h
        dsimp only at h
        split at h
        · cases h
        rename_i hincrement
        cases h
        exact ⟨⟨body.take 5, rfl, rfl, (take_append_drop _ _).symm,
          fun _ => ⟨hfive, hfield⟩, nofun⟩, hincrement⟩
    · rintro ⟨⟨field, hcut⟩, hincrement⟩
      obtain ⟨hlength, hfield⟩ := hcut.withField rfl
      rw [hcut.body, take_left' hlength, drop_left' hlength, hfield]
      dsimp only
      rw [if_neg hincrement, ← hcut.sameHeader, ← hcut.hasPriority]

theorem framed_of_completedFrame {isPriority : Bool} {rawPayload : Bytes}
    (h : completedFrame header isPriority rawPayload = .ok frame) :
    ∃ body padding, padding.length < 256 ∧ (isPaddedFrame header = false → padding = []) ∧
      rawPayload = paddingLead header padding ++ body ++ padding := by
  cases hpadded : isPaddedFrame header with
  | false =>
    refine ⟨rawPayload, [], by decide, fun _ => rfl, ?_⟩
    unfold paddingLead
    rw [hpadded]
    simp
  | true =>
    unfold completedFrame at h
    simp only [hpadded, Bool.true_and, if_true] at h
    cases rawPayload with
    | nil => exact nomatch h
    | cons first rest =>
      rw [if_neg (by simp)] at h
      by_cases hlong : first.toNat ≥ (first :: rest).length
      · rw [if_pos (by simpa using hlong)] at h
        cases h
      have hpad : first.toNat ≤ rest.length := by
        rw [length_cons] at hlong
        omega
      have hlength : (rest.drop (rest.length - first.toNat)).length =
            first.toNat := by
        rw [length_drop]
        omega
      refine ⟨rest.take (rest.length - first.toNat),
        rest.drop (rest.length - first.toNat), ?_, nofun, ?_⟩
      · rw [hlength]
        exact first.toNat_lt
      unfold paddingLead
      rw [if_pos hpadded, hlength, append_assoc, take_append_drop, UInt8.ofNat_toNat]
      rfl

theorem Http2Frame.rawPayload_eq {field : Bytes}
    (hfield : field = if frame.hasPriority then
      appendPriorityField [] frame.priority else []) :
    frame.rawPayload padding = paddingLead frame.header padding ++ (field ++ frame.payload) ++
        padding := by
  unfold rawPayload paddingLead
  rw [← hfield]
  simp

theorem rawPayload_of_windowUpdate (htype : frame.header.type = .windowUpdate)
    (hpad : frame.PadsWith padding)
    (hpriority : frame.hasPriority = carriesPriority frame.header) :
    frame.rawPayload padding = frame.payload := by
  have hplain : isPaddedFrame frame.header = false := by
    unfold isPaddedFrame
    rw [htype]
    rfl
  have hnone : frame.hasPriority = false := by
    rw [hpriority, carriesPriority, htype]
    rfl
  unfold rawPayload
  rw [hpad.unpadded hplain, hplain, hnone]
  simp

theorem completedFrame_iff {rawPayload : Bytes} (hrules : header.ObeysRules)
    (hlength : rawPayload.length = header.payloadLength) :
    completedFrame header (carriesPriority header) rawPayload = .ok frame ↔
      frame.header = header ∧ frame.PayloadObeysRules ∧ ∃ padding, frame.PadsWith padding ∧
          rawPayload = frame.rawPayload padding := by
  constructor
  · intro h
    obtain ⟨body, padding, hbyte, hunpadded, rfl⟩ := framed_of_completedFrame h
    obtain ⟨⟨field, hcut⟩, hincrement⟩ := (completedFrame_framed_iff hbyte hunpadded).mp h
    have hheader := hcut.sameHeader
    subst hheader
    have hpad : frame.PadsWith padding := ⟨hbyte, hunpadded⟩
    have hraw : paddingLead frame.header padding ++ body ++ padding = frame.rawPayload padding := by
      rw [hcut.body, rawPayload_eq]
      cases hpriority : carriesPriority frame.header with
      | false =>
        rw [hcut.hasPriority, hpriority, if_neg (by simp)]
        exact (hcut.withoutField hpriority).1
      | true =>
        rw [hcut.hasPriority, hpriority, if_pos rfl]
        obtain ⟨hfive, hfield⟩ := hcut.withField hpriority
        exact ((acceptPriorityField_iff hfive).mp hfield).1
    refine ⟨rfl, ⟨hcut.hasPriority, ?_, ?_, ?_⟩, padding, hpad, hraw⟩
    · intro hnone
      exact (hcut.withoutField (hcut.hasPriority.symm.trans hnone)).2
    · intro hsome
      obtain ⟨hfive, hfield⟩ := hcut.withField (hcut.hasPriority.symm.trans hsome)
      exact ((acceptPriorityField_iff hfive).mp hfield).2
    intro htype hzero
    refine hincrement ⟨htype, ?_⟩
    rw [hraw, rawPayload_of_windowUpdate htype hpad hcut.hasPriority]
    rw [hraw, rawPayload_of_windowUpdate htype hpad hcut.hasPriority] at hlength
    unfold Http2FrameHeader.ObeysRules at hrules
    rw [htype] at hrules
    rw [take_of_length_le (by rw [hlength, hrules]), hzero]
  · rintro ⟨rfl, hpayload, padding, hpad, rfl⟩
    have hfive := length_appendPriorityField frame.priority
    rw [rawPayload_eq rfl, completedFrame_framed_iff hpad.isByte hpad.unpadded]
    refine ⟨⟨_, rfl, hpayload.hasPriority, rfl, ?_, ?_⟩, ?_⟩
    · intro hsome
      rw [if_pos (hpayload.hasPriority.trans hsome)]
      exact ⟨hfive, (acceptPriorityField_iff hfive).mpr
        ⟨rfl, hpayload.dependency (hpayload.hasPriority.trans hsome)⟩⟩
    · intro hnone
      have hnone := hpayload.hasPriority.trans hnone
      rw [hnone]
      exact ⟨rfl, hpayload.withoutPriority hnone⟩
    rintro ⟨htype, hzero⟩
    rw [← rawPayload_eq rfl, rawPayload_of_windowUpdate htype hpad hpayload.hasPriority] at hzero
    rw [rawPayload_of_windowUpdate htype hpad hpayload.hasPriority] at hlength
    unfold Http2FrameHeader.ObeysRules at hrules
    rw [htype] at hrules
    rw [take_of_length_le (by rw [hlength, hrules])] at hzero
    exact hpayload.increment htype hzero

/-! ## Frames -/

/-- The bytes of a frame, with some reserved bit and some padding. -/
def Http2Frame.OnWire (frame : Http2Frame) (wire : Bytes) : Prop := ∃ reservedBit padding,
    wire = frame.header.onWire reservedBit ++ frame.rawPayload padding ∧
    frame.PadsWith padding ∧
    frame.header.payloadLength = (frame.rawPayload padding).length

/-- The rules for the type of the frame, and a size no larger than what was
agreed. -/
structure Http2Frame.ObeysRules (frame : Http2Frame)
    (maximumFrameSizeByteCount : Nat) : Prop where
  fits : frame.header.Fits
  size : frame.header.payloadLength ≤ maximumFrameSizeByteCount
  header : frame.header.ObeysRules
  payload : frame.PayloadObeysRules

end AsynGyanis.Http2
