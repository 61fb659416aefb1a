import AsynGyanis.Http2.FrameLayout

/-!
# What the frame decoder makes of the bytes

The decoder takes its input in whatever pieces the network delivers. A
payload is copied a piece at a time, but it ends where it would have ended
byte by byte: `consume_eq_consumeBytes`. So one byte is the step here, and
`Between` the invariant: what the bytes since the last frame have become,
whether they are the start of a header, a header and some payload, or a
frame nobody has taken yet.

Two things follow. Whatever the bytes are, a frame that comes out lies on
exactly the bytes that went in for it and obeys the rules of its type
(`Between.takeByte`). And bytes on which such a frame lies give that frame,
at the last of them and not before (`Toward.takeByte`).
-/

namespace AsynGyanis.Http2

open Library List

namespace Http2FrameDecoder

/-! ## Byte by byte -/

variable {use : InUse} {limits : Http2FrameLimits} {frame : Http2Frame}
  {data todo : Bytes} {wire : Bytes} {d : Http2FrameDecoder}

/-- One byte of whatever the decoder is waiting for. -/
def takeByte (d : Http2FrameDecoder) (byte : UInt8) : Http2FrameDecoder :=
  if d.stage = .frameHeader then d.takeHeaderByte byte
  else d.takePayload [byte]

/-- `consume` with payload taken a byte at a time as well. -/
def consumeBytes : Bytes → Http2FrameDecoder → Bytes × Http2FrameDecoder
  | [], d => ([], d)
  | byte :: rest, d =>
    if d.isStopped then (byte :: rest, d)
    else if d.isOverTotal then (byte :: rest, d.failOverTotal)
    else consumeBytes rest (d.takeByte byte)

/-- A payload that is complete is not waited for. -/
def AwaitsPayload (d : Http2FrameDecoder) : Prop :=
  d.stage = .payload → d.payloadBuffer.length < d.currentHeader.payloadLength

theorem completeFrame_stage (d : Http2FrameDecoder) : d.completeFrame.stage ≠ .payload := by
  unfold completeFrame
  split
  · exact nofun
  · exact nofun

theorem AwaitsPayload.completeIfFull (h : d.payloadBuffer.length ≤ d.currentHeader.payloadLength) :
    d.completeIfFull.AwaitsPayload := by
  unfold Http2FrameDecoder.completeIfFull
  split
  · exact fun hstage => (d.completeFrame_stage hstage).elim
  · next hfull => exact fun _ => lt_of_le_of_ne h hfull

theorem AwaitsPayload.takeHeaderByte (hstage : d.stage = .frameHeader)
    (byte : UInt8) : (d.takeHeaderByte byte).AwaitsPayload := by
  unfold Http2FrameDecoder.takeHeaderByte
  dsimp only
  split
  · intro hpayload
    exact nomatch hpayload.symm.trans hstage
  split
  · exact fun hstage => (completeFrame_stage _ hstage).elim
  rename_i hmore
  intro hpayload
  have hnonempty := fun hzero => hmore ⟨hpayload, hzero⟩
  revert hpayload hnonempty
  unfold acceptFrameHeader
  split
  · exact nofun
  split
  · exact nofun
  split
  · exact nofun
  · exact fun _ hnonempty => pos_of_ne_zero hnonempty

theorem AwaitsPayload.takePayload {chunk : Bytes}
    (h : d.payloadBuffer.length + chunk.length ≤ d.currentHeader.payloadLength)
    :
    (d.takePayload chunk).AwaitsPayload := AwaitsPayload.completeIfFull (by simpa using h)

variable {d : Http2FrameDecoder}

/-- A chunk of payload is its bytes one after the other, as long as neither
the payload nor what may be read ends before the chunk. -/
theorem consumeBytes_payload {chunk : Bytes} (rest : Bytes)
    (hstage : d.stage = .payload) (hpending : d.pendingFrame = none) (hnonempty : chunk ≠ [])
    (hpayload : d.payloadBuffer.length + chunk.length ≤ d.currentHeader.payloadLength)
    (htotal : d.limits.maximumTotalConsumedByteCount ≠ 0 →
      d.totalConsumedByteCount + chunk.length ≤ d.limits.maximumTotalConsumedByteCount) :
    consumeBytes (chunk ++ rest) d = consumeBytes rest (d.takePayload chunk) := by
  induction chunk generalizing d with
  | nil => exact absurd rfl hnonempty
  | cons byte chunk ih =>
    rw [length_cons] at hpayload htotal
    have hgoing : d.isStopped = false := by
      unfold isStopped
      rw [hstage, hpending]
      rfl
    have hroom : d.isOverTotal = false := by
      unfold isOverTotal
      by_cases hzero : d.limits.maximumTotalConsumedByteCount = 0
      · rw [hzero]
        rfl
      · have hle := htotal hzero
        rw [decide_eq_false (by omega), Bool.and_false]
    have hbyte : d.takeByte byte = d.takePayload [byte] := by
      unfold Http2FrameDecoder.takeByte
      rw [hstage, if_neg nofun]
    rw [cons_append, consumeBytes, hgoing, if_neg nofun, hroom, if_neg nofun, hbyte]
    cases chunk with
    | nil => rfl
    | cons next chunk =>
      rw [length_cons] at hpayload htotal
      -- the byte is not the last one of the payload
      have hmore : d.takePayload [byte] =
          { d with
            payloadBuffer := d.payloadBuffer ++ [byte]
            totalConsumedByteCount := d.totalConsumedByteCount + 1 } := by
        unfold Http2FrameDecoder.takePayload Http2FrameDecoder.completeIfFull
        rw [if_neg (by
          simp only [length_append, length_cons, length_nil]
          omega)]
        rfl
      have hfits : (d.payloadBuffer ++ [byte]).length +
          (next :: chunk).length ≤ d.currentHeader.payloadLength := by
        simp only [length_append, length_cons, length_nil]
        omega
      have hbound : d.limits.maximumTotalConsumedByteCount ≠ 0 →
          d.totalConsumedByteCount + 1 + (next :: chunk).length ≤
            d.limits.maximumTotalConsumedByteCount := by
        intro hlimit
        have hle := htotal hlimit
        rw [length_cons]
        omega
      rw [hmore, @ih { d with
          payloadBuffer := d.payloadBuffer ++ [byte]
          totalConsumedByteCount := d.totalConsumedByteCount + 1 }
        hstage hpending (cons_ne_nil _ _) hfits hbound]
      unfold Http2FrameDecoder.takePayload
      simp only [append_assoc, cons_append, nil_append, length_cons]
      congr 3
      omega

theorem consume_eq_consumeBytes {rounds : Nat} {data : Bytes}
    (hrounds : data.length ≤ rounds) (hawaits : d.AwaitsPayload) :
    consume rounds data d = consumeBytes data d := by
  induction rounds generalizing data d with
  | zero =>
    rw [length_eq_zero_iff.mp (Nat.le_zero.mp hrounds)]
    rfl
  | succ rounds ih =>
    cases data with
    | nil => rfl
    | cons byte rest =>
      rw [length_cons] at hrounds
      by_cases hstopped : d.isStopped
      · rw [consume, consumeBytes, if_pos hstopped, if_pos hstopped]
      by_cases hover : d.isOverTotal
      · rw [consume, consumeBytes, if_neg hstopped, if_neg hstopped, if_pos hover, if_pos hover]
      rw [consume, if_neg hstopped, if_neg hover]
      by_cases hheader : d.stage = .frameHeader
      · rw [if_pos hheader, consumeBytes, if_neg hstopped, if_neg hover, takeByte, if_pos hheader]
        exact ih (by omega) (.takeHeaderByte hheader byte)
      rw [if_neg hheader]
      have hgoing : d.stage = .payload ∧ d.pendingFrame = none := by
        unfold isStopped at hstopped
        cases hstage : d.stage with
        | frameHeader => exact absurd hstage hheader
        | payload =>
          refine ⟨rfl, ?_⟩
          cases hpending : d.pendingFrame with
          | none => rfl
          | some frame => simp [hpending] at hstopped
        | failed => simp [hstage] at hstopped
      obtain ⟨hstage, hpending⟩ := hgoing
      have hshort := hawaits hstage
      have hroom : d.limits.maximumTotalConsumedByteCount ≠ 0 → d.totalConsumedByteCount <
            d.limits.maximumTotalConsumedByteCount := by
        intro hlimit
        unfold isOverTotal at hover
        simpa [hlimit] using hover
      dsimp only
      generalize hchunk : (if d.limits.maximumTotalConsumedByteCount ≠ 0
        then min (min (d.currentHeader.payloadLength -
          d.payloadBuffer.length) (byte :: rest).length)
          (d.limits.maximumTotalConsumedByteCount - d.totalConsumedByteCount)
        else min (d.currentHeader.payloadLength -
          d.payloadBuffer.length) (byte :: rest).length) = chunkLength
      have hbounds : 0 < chunkLength ∧ chunkLength ≤ rest.length + 1 ∧
          d.payloadBuffer.length + chunkLength ≤ d.currentHeader.payloadLength ∧
          (d.limits.maximumTotalConsumedByteCount ≠ 0 → d.totalConsumedByteCount + chunkLength ≤
              d.limits.maximumTotalConsumedByteCount) := by
        rw [length_cons] at hchunk
        split at hchunk
        · next hlimit =>
          have hlt := hroom hlimit
          refine ⟨by omega, by omega, by omega, fun _ => by omega⟩
        rename_i hlimit
        refine ⟨by omega, by omega, by omega, ?_⟩
        exact fun hlimit' => absurd hlimit' hlimit
      obtain ⟨hpos, hle, hpayload, htotal⟩ := hbounds
      have htake : ((byte :: rest).take chunkLength).length =
          chunkLength := by
        rw [length_take, length_cons]
        omega
      rw [ih (by rw [length_drop, length_cons]; omega)
        (.takePayload (by rw [htake]; exact hpayload))]
      have hwhole := consumeBytes_payload ((byte :: rest).drop chunkLength) hstage hpending
        (ne_nil_of_length_pos (by rw [htake]; exact hpos))
        (by rw [htake]; exact hpayload) (by rw [htake]; exact htotal)
      rw [take_append_drop] at hwhole
      exact hwhole.symm

/-! ## What the bytes have become -/

/-- The decoder has read these bytes since the last frame was taken. -/
inductive Between (wire : Bytes) (d : Http2FrameDecoder) : Prop
  | header (hstage : d.stage = .frameHeader)
      (hpending : d.pendingFrame = none) (hbytes : d.headerBytes = wire)
      (hshort : wire.length < 9)
  | payload (reservedBit : Bool) (hstage : d.stage = .payload) (hpending : d.pendingFrame = none)
      (hbytes : wire = d.currentHeader.onWire reservedBit ++ d.payloadBuffer)
      (hshort : d.payloadBuffer.length < d.currentHeader.payloadLength)
      (hfits : d.currentHeader.Fits)
      (hsize : d.currentHeader.payloadLength ≤ d.limits.maximumFrameSizeByteCount)
      (hrules : d.currentHeader.ObeysRules)
      (hpriority : d.isCurrentFramePriority = carriesPriority d.currentHeader)
  | frame (frame : Http2Frame) (hstage : d.stage = .frameHeader)
      (hpending : d.pendingFrame = some frame) (hbytes : d.headerBytes = [])
      (hwire : frame.OnWire wire)
      (hrules : frame.ObeysRules d.limits.maximumFrameSizeByteCount)
  | failed (hstage : d.stage = .failed) (hpending : d.pendingFrame = none)

theorem Between.awaitsPayload (h : d.Between wire) : d.AwaitsPayload := by
  intro hpayload
  cases h with
  | header hstage _ _ _ => exact nomatch hpayload.symm.trans hstage
  | payload _ _ _ _ hshort _ _ _ _ => exact hshort
  | frame _ hstage _ _ _ _ => exact nomatch hpayload.symm.trans hstage
  | failed hstage _ => exact nomatch hpayload.symm.trans hstage

theorem completeFrame_between (reservedBit : Bool) (hpending : d.pendingFrame = none)
    (hbytes : wire = d.currentHeader.onWire reservedBit ++ d.payloadBuffer)
    (hfull : d.payloadBuffer.length = d.currentHeader.payloadLength)
    (hfits : d.currentHeader.Fits)
    (hsize : d.currentHeader.payloadLength ≤ d.limits.maximumFrameSizeByteCount)
    (hrules : d.currentHeader.ObeysRules)
    (hpriority : d.isCurrentFramePriority = carriesPriority d.currentHeader) :
    d.completeFrame.Between wire := by
  unfold completeFrame
  rw [hpriority]
  cases hframe : completedFrame d.currentHeader
      (carriesPriority d.currentHeader) d.payloadBuffer with
  | error failure => exact .failed rfl hpending
  | ok frame =>
    obtain ⟨hheader, hpayload, padding, hpad, hraw⟩ := (completedFrame_iff hrules hfull).mp hframe
    rw [hraw] at hbytes hfull
    rw [← hheader] at hbytes hfull hfits hsize hrules
    exact .frame frame rfl rfl rfl ⟨reservedBit, padding, hbytes, hpad, hfull.symm⟩
      ⟨hfits, hsize, hrules, hpayload⟩

theorem takePayload_between {wire chunk : Bytes}
    (h : d.Between wire) (hstage : d.stage = .payload)
    (hchunk : d.payloadBuffer.length + chunk.length ≤ d.currentHeader.payloadLength) :
    (d.takePayload chunk).Between (wire ++ chunk) := by
  cases h with
  | header hstage' _ _ _ => exact nomatch hstage.symm.trans hstage'
  | payload reservedBit hstage hpending hbytes _ hfits hsize hrules hpriority =>
    unfold takePayload completeIfFull
    split
    · next hfull =>
      refine completeFrame_between reservedBit hpending ?_ hfull hfits hsize hrules hpriority
      rw [hbytes, append_assoc]
    rename_i hfull
    refine .payload reservedBit hstage hpending ?_ ?_ hfits hsize hrules hpriority
    · rw [hbytes, append_assoc]
    · refine lt_of_le_of_ne ?_ hfull
      simpa using hchunk
  | frame _ hstage' _ _ _ _ => exact nomatch hstage.symm.trans hstage'
  | failed hstage' _ => exact nomatch hstage.symm.trans hstage'

/-- The decoder with one more byte of a header. -/
def withHeaderByte (d : Http2FrameDecoder) (byte : UInt8) :
    Http2FrameDecoder :=
  { d with
    headerBytes := d.headerBytes ++ [byte]
    totalConsumedByteCount := d.totalConsumedByteCount + 1 }

theorem takeHeaderByte_eq (d : Http2FrameDecoder) (byte : UInt8) : d.takeHeaderByte byte =
      if (d.headerBytes ++ [byte]).length < 9 then d.withHeaderByte byte
      else if (d.withHeaderByte byte).acceptFrameHeader.stage = .payload ∧
          (d.withHeaderByte byte).acceptFrameHeader.currentHeader.payloadLength = 0 then
        (d.withHeaderByte byte).acceptFrameHeader.completeFrame
      else (d.withHeaderByte byte).acceptFrameHeader := rfl

/-- The decoder once it has accepted a header. -/
def withHeader (d : Http2FrameDecoder) (header : Http2FrameHeader) :
    Http2FrameDecoder :=
  { d with
    currentHeader := header
    payloadBuffer := []
    isCurrentFramePriority := carriesPriority header
    stage := .payload }

variable {header : Http2FrameHeader}

theorem acceptFrameHeader_of_ok (hheader : decodeHttp2FrameHeader d.headerBytes = .ok header)
    (hsize : header.payloadLength ≤ d.limits.maximumFrameSizeByteCount)
    (hrules : header.ObeysRules) : d.acceptFrameHeader = d.withHeader header := by
  unfold acceptFrameHeader
  rw [hheader]
  dsimp only
  rw [if_neg (not_lt.mpr hsize), (acceptFrameShape_iff header).mpr hrules]
  rfl

theorem acceptFrameHeader_cases (d : Http2FrameDecoder) :
    (d.acceptFrameHeader.stage = .failed ∧ d.acceptFrameHeader.pendingFrame = d.pendingFrame) ∨
    ∃ header, decodeHttp2FrameHeader d.headerBytes = .ok header ∧
      header.payloadLength ≤ d.limits.maximumFrameSizeByteCount ∧
      header.ObeysRules ∧ d.acceptFrameHeader = d.withHeader header := by
  unfold acceptFrameHeader
  split
  · exact .inl ⟨rfl, rfl⟩
  rename_i header hheader
  split
  · exact .inl ⟨rfl, rfl⟩
  rename_i hsize
  split
  · exact .inl ⟨rfl, rfl⟩
  rename_i hshape
  exact .inr ⟨header, hheader, le_of_not_gt hsize, (acceptFrameShape_iff header).mp hshape, rfl⟩

theorem takeHeaderByte_between (hstage : d.stage = .frameHeader)
    (hpending : d.pendingFrame = none) (hshort : d.headerBytes.length < 9)
    (byte : UInt8) : (d.takeHeaderByte byte).Between (d.headerBytes ++ [byte]) := by
  rw [takeHeaderByte_eq]
  split
  · next hmore => exact .header hstage hpending rfl hmore
  rename_i hnine
  have hlength : (d.headerBytes ++ [byte]).length = 9 := by
    rw [length_append, length_singleton] at hnine ⊢
    omega
  rcases acceptFrameHeader_cases (d.withHeaderByte byte) with
    ⟨hfailed, hsame⟩ | ⟨header, hheader, hsize, hrules, haccept⟩
  · rw [if_neg (fun h => Http2FrameDecoderStage.noConfusion (hfailed.symm.trans h.1))]
    exact .failed hfailed (hsame.trans hpending)
  obtain ⟨hfits, reservedBit, hbytes⟩ := onWire_of_decodeHttp2FrameHeader hlength hheader
  rw [haccept]
  split
  · next hempty =>
    refine completeFrame_between reservedBit hpending ?_ hempty.2.symm hfits hsize hrules rfl
    rw [hbytes]
    exact (append_nil _).symm
  rename_i hmore
  refine .payload reservedBit rfl hpending ?_ ?_ hfits hsize hrules rfl
  · rw [hbytes]
    exact (append_nil _).symm
  · exact pos_of_ne_zero fun hzero => hmore ⟨rfl, hzero⟩

theorem Between.takeByte (h : d.Between wire) (hgoing : d.isStopped = false)
    (byte : UInt8) : (d.takeByte byte).Between (wire ++ [byte]) := by
  unfold Http2FrameDecoder.takeByte
  have hbetween := h
  cases h with
  | header hstage hpending hbytes hshort =>
    rw [if_pos hstage, ← hbytes]
    exact takeHeaderByte_between hstage hpending (by rwa [hbytes]) byte
  | payload _ hstage _ _ hshort _ _ _ _ =>
    rw [if_neg (fun h => nomatch h.symm.trans hstage)]
    exact takePayload_between hbetween hstage hshort
  | frame _ _ hpending _ _ _ =>
    unfold isStopped at hgoing
    rw [hpending, Option.isSome_some, Bool.or_true] at hgoing
    cases hgoing
  | failed hstage _ =>
    unfold isStopped at hgoing
    rw [hstage] at hgoing
    cases hgoing

theorem Between.consumeBytes (h : d.Between wire) (data : Bytes) :
    ∃ taken, data = taken ++ (consumeBytes data d).1 ∧
      (consumeBytes data d).2.Between (wire ++ taken) := by
  induction data generalizing wire d with
  | nil => exact ⟨[], rfl, by simpa [Http2FrameDecoder.consumeBytes] using h⟩
  | cons byte rest ih =>
    unfold Http2FrameDecoder.consumeBytes
    split
    · exact ⟨[], rfl, by simpa using h⟩
    rename_i hgoing
    have hgoing := Bool.eq_false_iff.mpr hgoing
    split
    · refine ⟨[], rfl, .failed rfl ?_⟩
      unfold isStopped at hgoing
      rw [Bool.or_eq_false_iff, Option.isSome_eq_false_iff, Option.isNone_iff_eq_none] at hgoing
      exact hgoing.2
    · obtain ⟨taken, hrest, hbetween⟩ := ih (h.takeByte hgoing byte)
      refine ⟨byte :: taken, congrArg (byte :: ·) hrest, ?_⟩
      rw [append_assoc] at hbetween
      exact hbetween

/-! ## Bytes on which a frame lies -/

/-- What counts the bytes and what bounds them. -/
def Accounts (d d' : Http2FrameDecoder) (byteCount : Nat) : Prop := d'.limits = d.limits ∧
    d'.totalConsumedByteCount = d.totalConsumedByteCount + byteCount

theorem completeFrame_accounts (d : Http2FrameDecoder) : Accounts d d.completeFrame 0 := by
  unfold completeFrame
  split
  · exact ⟨rfl, rfl⟩
  · exact ⟨rfl, rfl⟩

theorem acceptFrameHeader_accounts (d : Http2FrameDecoder) : Accounts d d.acceptFrameHeader 0 := by
  unfold acceptFrameHeader
  split
  · exact ⟨rfl, rfl⟩
  split
  · exact ⟨rfl, rfl⟩
  split
  · exact ⟨rfl, rfl⟩
  · exact ⟨rfl, rfl⟩

theorem takeByte_accounts (d : Http2FrameDecoder) (byte : UInt8) :
    Accounts d (d.takeByte byte) 1 := by
  unfold Http2FrameDecoder.takeByte
  split
  · obtain ⟨hlimits, htotal⟩ := acceptFrameHeader_accounts (d.withHeaderByte byte)
    rw [takeHeaderByte_eq]
    split
    · exact ⟨rfl, rfl⟩
    split
    · obtain ⟨hlimits', htotal'⟩ := completeFrame_accounts (d.withHeaderByte byte).acceptFrameHeader
      exact ⟨hlimits'.trans hlimits, htotal'.trans htotal⟩
    · exact ⟨hlimits, htotal⟩
  · unfold takePayload completeIfFull
    split
    · exact completeFrame_accounts _
    · exact ⟨rfl, rfl⟩

/-- Nothing of a frame is pending. -/
structure AtBoundary (d : Http2FrameDecoder) : Prop where
  stage : d.stage = .frameHeader
  headerBytes : d.headerBytes = []
  pendingFrame : d.pendingFrame = none

/-- The total limit leaves room for this many bytes. -/
def HasRoom (d : Http2FrameDecoder) (byteCount : Nat) : Prop :=
  d.limits.maximumTotalConsumedByteCount = 0 ∨ d.totalConsumedByteCount + byteCount ≤
      d.limits.maximumTotalConsumedByteCount

/-- The bytes still to come complete this frame. -/
structure Toward (frame : Http2Frame) (todo : Bytes) (d : Http2FrameDecoder) :
    Prop where
  going : d.isStopped = false
  wire : ∃ seen, d.Between seen ∧ frame.OnWire (seen ++ todo)
  rules : frame.ObeysRules d.limits.maximumFrameSizeByteCount
  room : d.HasRoom todo.length

/-- The decoder has made this frame and nothing else. -/
structure Holds (frame : Http2Frame) (d : Http2FrameDecoder) : Prop where
  stage : d.stage = .frameHeader
  headerBytes : d.headerBytes = []
  pendingFrame : d.pendingFrame = some frame

theorem completeFrame_holds {frame : Http2Frame} {padding : Bytes}
    (hheader : d.currentHeader = frame.header)
    (hpriority : d.isCurrentFramePriority = carriesPriority frame.header)
    (hbuffer : d.payloadBuffer = frame.rawPayload padding) (hpad : frame.PadsWith padding)
    (hlength : frame.header.payloadLength = (frame.rawPayload padding).length)
    (hrules : frame.header.ObeysRules) (hpayload : frame.PayloadObeysRules) :
    d.completeFrame.Holds frame := by
  unfold completeFrame
  rw [hheader, hpriority, hbuffer, (completedFrame_iff hrules hlength.symm).mpr
      ⟨rfl, hpayload, padding, hpad, rfl⟩]
  exact ⟨rfl, rfl, rfl⟩

theorem header_eq_of_onWire {header' : Http2FrameHeader}
    {reservedBit reservedBit' : Bool} {rest rest' : Bytes}
    (hfits : header.Fits) (hfits' : header'.Fits)
    (h : header.onWire reservedBit ++ rest = header'.onWire reservedBit' ++ rest') :
    header = header' ∧ rest = rest' := by
  obtain ⟨hheader, hrest⟩ := append_inj h
    ((header.length_onWire _).trans (header'.length_onWire _).symm)
  refine ⟨?_, hrest⟩
  have hdecode := decodeHttp2FrameHeader_onWire hfits reservedBit
  rw [hheader, decodeHttp2FrameHeader_onWire hfits'] at hdecode
  cases hdecode
  rfl

theorem takeHeaderByte_last {byte : UInt8} (hlength : (d.headerBytes ++ [byte]).length = 9)
    (hheader : decodeHttp2FrameHeader (d.headerBytes ++ [byte]) = .ok header)
    (hsize : header.payloadLength ≤ d.limits.maximumFrameSizeByteCount)
    (hrules : header.ObeysRules) : d.takeHeaderByte byte =
      if header.payloadLength = 0 then
        ((d.withHeaderByte byte).withHeader header).completeFrame
      else (d.withHeaderByte byte).withHeader header := by
  have haccept : (d.withHeaderByte byte).acceptFrameHeader =
      (d.withHeaderByte byte).withHeader header :=
    acceptFrameHeader_of_ok hheader hsize hrules
  rw [takeHeaderByte_eq, haccept, if_neg (by omega)]
  by_cases hempty : header.payloadLength = 0
  · rw [if_pos hempty]
    exact if_pos ⟨rfl, hempty⟩
  · rw [if_neg hempty]
    exact if_neg fun h => hempty h.2

/-- The last byte of a frame makes the frame, the others leave the decoder
going. -/
theorem Toward.takeByte {byte : UInt8} {rest : Bytes} (h : d.Toward frame (byte :: rest)) :
    (rest = [] → (d.takeByte byte).Holds frame) ∧
      (rest ≠ [] → (d.takeByte byte).isStopped = false) := by
  obtain ⟨hgoing, ⟨seen, hbetween, reservedBit, padding, hwire, hpad, hlength⟩, hrules, -⟩ := h
  unfold Http2FrameDecoder.takeByte
  cases hbetween with
  | header hstage hpending hbytes hshort =>
    subst hbytes
    rw [if_pos hstage]
    rw [append_cons] at hwire
    by_cases hmore : (d.headerBytes ++ [byte]).length < 9
    · have hrest : rest ≠ [] := by
        rintro rfl
        have hnine := congrArg length hwire
        rw [append_nil, @length_append _ (frame.header.onWire _),
          frame.header.length_onWire] at hnine
        omega
      refine ⟨fun hnone => absurd hnone hrest, fun _ => ?_⟩
      rw [takeHeaderByte_eq, if_pos hmore]
      exact hgoing
    have hnine : (d.headerBytes ++ [byte]).length = 9 := by
      rw [length_append, length_singleton] at hmore ⊢
      omega
    obtain ⟨hheader, hraw⟩ := append_inj hwire (hnine.trans (frame.header.length_onWire _).symm)
    rw [takeHeaderByte_last hnine (by rw [hheader, decodeHttp2FrameHeader_onWire hrules.fits])
      hrules.size hrules.header, hlength, ← hraw]
    constructor
    · intro hrest
      rw [if_pos (length_eq_zero_iff.mpr hrest)]
      refine completeFrame_holds rfl rfl ?_ hpad hlength hrules.header hrules.payload
      exact hrest.symm.trans hraw
    intro hrest
    rw [if_neg (fun h => hrest (length_eq_zero_iff.mp h))]
    unfold isStopped withHeader withHeaderByte
    rw [hpending]
    rfl
  | payload reservedBit' hstage hpending hbytes hshort hfits _ _ hpriority =>
    rw [if_neg (fun h => nomatch h.symm.trans hstage)]
    rw [hbytes, append_assoc] at hwire
    obtain ⟨hheader, hbuffer⟩ := header_eq_of_onWire hfits hrules.fits hwire
    unfold takePayload completeIfFull
    dsimp only
    have hcount := congrArg length hbuffer
    rw [← hlength, ← hheader, length_append, length_cons] at hcount
    rw [length_append, length_singleton]
    constructor
    · rintro rfl
      rw [if_pos (by simpa using hcount)]
      exact completeFrame_holds hheader (hheader ▸ hpriority) hbuffer hpad
        hlength hrules.header hrules.payload
    intro hrest
    have hpos := length_pos_iff.mpr hrest
    rw [if_neg (by omega)]
    exact hgoing
  | frame _ _ hpending _ _ _ =>
    unfold isStopped at hgoing
    rw [hpending, Option.isSome_some, Bool.or_true] at hgoing
    cases hgoing
  | failed hstage _ =>
    unfold isStopped at hgoing
    rw [hstage] at hgoing
    cases hgoing

theorem HasRoom.isOverTotal {byteCount : Nat} (h : d.HasRoom (byteCount + 1)) :
    d.isOverTotal = false := by
  unfold Http2FrameDecoder.isOverTotal
  rcases h with hnone | hroom
  · rw [hnone]
    rfl
  · rw [decide_eq_false (by omega), Bool.and_false]

theorem HasRoom.after {d' : Http2FrameDecoder} {taken more : Nat}
    (h : d.HasRoom (taken + more)) (haccounts : Accounts d d' taken) : d'.HasRoom more := by
  unfold HasRoom at h ⊢
  rw [haccounts.1, haccounts.2]
  omega

/-- All the bytes of the frame but the last ones: nothing is left of them
and the frame is still to come. -/
theorem Toward.consumeBytes_before (h : d.Toward frame (data ++ todo))
    (hmore : todo ≠ []) : (consumeBytes data d).1 = [] ∧ (consumeBytes data d).2.Toward frame todo ∧
      Accounts d (consumeBytes data d).2 data.length := by
  induction data generalizing d with
  | nil => exact ⟨rfl, h, rfl, rfl⟩
  | cons byte data ih =>
    have hroom : d.HasRoom ((data ++ todo).length + 1) := h.room
    have haccounts := takeByte_accounts d byte
    have hrest : data ++ todo ≠ [] := by simp [hmore]
    rw [consumeBytes, h.going, if_neg nofun, hroom.isOverTotal, if_neg nofun]
    obtain ⟨seen, hbetween, hwire⟩ := h.wire
    have hnext : (d.takeByte byte).Toward frame (data ++ todo) :=
      { going := h.takeByte.2 hrest
        wire := ⟨seen ++ [byte], hbetween.takeByte h.going byte, by
          rwa [append_assoc]⟩
        rules := by
          rw [haccounts.1]
          exact h.rules
        room := HasRoom.after (by rwa [add_comm]) haccounts }
    obtain ⟨hleft, htoward, hlimits, htotal⟩ := ih hnext
    refine ⟨hleft, htoward, hlimits.trans haccounts.1, ?_⟩
    rw [htotal, haccounts.2, length_cons]
    omega

/-- The bytes up to the last one: the frame is there and what comes behind
them is left. -/
theorem Toward.consumeBytes_complete {todo : Bytes}
    (h : d.Toward frame todo) (hmore : todo ≠ []) (rest : Bytes) :
    (consumeBytes (todo ++ rest) d).1 = rest ∧ (consumeBytes (todo ++ rest) d).2.Holds frame ∧
      Accounts d (consumeBytes (todo ++ rest) d).2 todo.length := by
  induction todo generalizing d with
  | nil => exact absurd rfl hmore
  | cons byte todo ih =>
    have hroom : d.HasRoom (todo.length + 1) := h.room
    have haccounts := takeByte_accounts d byte
    rw [cons_append, consumeBytes, h.going, if_neg nofun, hroom.isOverTotal, if_neg nofun]
    by_cases hlast : todo = []
    · subst hlast
      have hholds := h.takeByte.1 rfl
      have hstopped : (d.takeByte byte).isStopped := by
        unfold isStopped
        rw [hholds.pendingFrame, Option.isSome_some, Bool.or_true]
      have hstay : consumeBytes ([] ++ rest) (d.takeByte byte) = (rest, d.takeByte byte) := by
        cases rest with
        | nil => rfl
        | cons next rest =>
          rw [nil_append, consumeBytes, if_pos hstopped]
      rw [hstay]
      exact ⟨rfl, hholds, haccounts⟩
    obtain ⟨seen, hbetween, hwire⟩ := h.wire
    have hnext : (d.takeByte byte).Toward frame todo :=
      { going := h.takeByte.2 hlast
        wire := ⟨seen ++ [byte], hbetween.takeByte h.going byte, by
          rwa [append_assoc]⟩
        rules := by
          rw [haccounts.1]
          exact h.rules
        room := HasRoom.after (by rwa [add_comm]) haccounts }
    obtain ⟨hleft, hholds, hlimits, htotal⟩ := ih hnext hlast
    refine ⟨hleft, hholds, hlimits.trans haccounts.1, ?_⟩
    rw [htotal, haccounts.2, length_cons]
    omega

/-! ## Calls -/

theorem Between.withConsumed (h : d.Between wire) (byteCount : Nat) :
    ({ d with consumedByteCount := byteCount }).Between wire := by
  cases h with
  | header hstage hpending hbytes hshort =>
    exact .header hstage hpending hbytes hshort
  | payload reservedBit hstage hpending hbytes hshort hfits hsize hrules hpriority =>
      exact .payload reservedBit hstage hpending hbytes hshort hfits hsize hrules hpriority
  | frame frame hstage hpending hbytes hwire hrules =>
    exact .frame frame hstage hpending hbytes hwire hrules
  | failed hstage hpending => exact .failed hstage hpending

theorem Between.of_atBoundary (h : d.AtBoundary) : d.Between [] :=
  .header h.stage h.pendingFrame h.headerBytes (by decide)

theorem consumeBytes_limits (data : Bytes) (d : Http2FrameDecoder) :
    (consumeBytes data d).2.limits = d.limits := by
  induction data generalizing d with
  | nil => rfl
  | cons byte rest ih =>
    unfold Http2FrameDecoder.consumeBytes
    split
    · rfl
    split
    · rfl
    · exact (ih _).trans (takeByte_accounts d byte).1

theorem parse_eq (hbetween : d.Between wire) (hgoing : d.isStopped = false)
    (data : Bytes) : d.parse data =
      (if (consumeBytes data d).2.stage = .failed then .error
        else if (consumeBytes data d).2.pendingFrame.isSome then .frame
        else .needMore,
      { (consumeBytes data d).2 with
        consumedByteCount := data.length - (consumeBytes data d).1.length }) := by
  unfold isStopped at hgoing
  rw [Bool.or_eq_false_iff] at hgoing
  unfold parse
  rw [if_neg (Bool.eq_false_iff.mp hgoing.2), if_neg (by simpa using hgoing.1),
    consume_eq_consumeBytes (le_refl _) hbetween.awaitsPayload]
  dsimp only
  split
  · rfl
  split
  · rfl
  · rfl

theorem parse_stopped (hstopped : d.isStopped) (data : Bytes) :
    (d.parse data).2 = { d with consumedByteCount := 0 } := by
  unfold isStopped at hstopped
  unfold parse
  split
  · rfl
  rename_i hpending
  rw [Bool.eq_false_iff.mpr hpending, Bool.or_false] at hstopped
  rw [if_pos (by simpa using hstopped)]

theorem Between.parse (h : d.Between wire) (data : Bytes) : (d.parse data).2.Between
        (wire ++ data.take (d.parse data).2.consumedByteCount) ∧
      (d.parse data).2.limits = d.limits := by
  cases hstopped : d.isStopped with
  | true =>
    rw [parse_stopped hstopped]
    refine ⟨?_, rfl⟩
    rw [take_zero, append_nil]
    exact h.withConsumed 0
  | false =>
    obtain ⟨taken, hdata, hbetween⟩ := h.consumeBytes data
    rw [parse_eq h hstopped]
    refine ⟨?_, consumeBytes_limits data d⟩
    have htaken : data.take
        (data.length - (Http2FrameDecoder.consumeBytes data d).1.length) = taken := by
      have hlength := congrArg length hdata
      rw [length_append] at hlength
      rw [hlength, Nat.add_sub_cancel]
      exact (congrArg (take _) hdata).trans take_left
    rw [htaken]
    exact hbetween.withConsumed _

theorem Toward.parse_before (h : d.Toward frame (data ++ todo))
    (hmore : todo ≠ []) : (d.parse data).1 = .needMore ∧
      (d.parse data).2.consumedByteCount = data.length ∧
      (d.parse data).2.Toward frame todo ∧
      Accounts d (d.parse data).2 data.length := by
  obtain ⟨seen, hbetween, -⟩ := h.wire
  obtain ⟨hleft, htoward, haccounts⟩ := h.consumeBytes_before hmore
  have hgoing := htoward.going
  unfold isStopped at hgoing
  rw [Bool.or_eq_false_iff] at hgoing
  obtain ⟨seen', hbetween', hwire⟩ := htoward.wire
  rw [parse_eq hbetween h.going, if_neg (by simpa using hgoing.1),
    if_neg (Bool.eq_false_iff.mp hgoing.2), hleft]
  exact ⟨rfl, rfl, ⟨htoward.going, ⟨seen', hbetween'.withConsumed _, hwire⟩,
    htoward.rules, htoward.room⟩, haccounts⟩

theorem Toward.parse_complete {todo : Bytes}
    (h : d.Toward frame todo) (hmore : todo ≠ []) (rest : Bytes) :
    (d.parse (todo ++ rest)).1 = .frame ∧
      (d.parse (todo ++ rest)).2.consumedByteCount = todo.length ∧
      (d.parse (todo ++ rest)).2.Holds frame ∧
      Accounts d (d.parse (todo ++ rest)).2 todo.length := by
  obtain ⟨seen, hbetween, -⟩ := h.wire
  obtain ⟨hleft, hholds, haccounts⟩ := h.consumeBytes_complete hmore rest
  rw [parse_eq hbetween h.going, if_neg (fun hfailed => nomatch hfailed.symm.trans hholds.stage),
    if_pos (by rw [hholds.pendingFrame]; rfl), hleft]
  refine ⟨rfl, ?_, ⟨hholds.stage, hholds.headerBytes, hholds.pendingFrame⟩, haccounts⟩
  rw [length_append, Nat.add_sub_cancel]

theorem Holds.takeFrame (h : d.Holds frame) :
    d.takeFrame.1 = .ok frame ∧ d.takeFrame.2.AtBoundary ∧ Accounts d d.takeFrame.2 0 := by
  unfold Http2FrameDecoder.takeFrame
  rw [h.pendingFrame]
  exact ⟨rfl, ⟨h.stage, h.headerBytes, rfl⟩, rfl, rfl⟩

/-- Pieces fed one after the other, none of them giving a frame. -/
def parsePieces : List Bytes → Http2FrameDecoder → Option Http2FrameDecoder
  | [], d => some d
  | piece :: pieces, d =>
    if (d.parse piece).1 = .needMore ∧ (d.parse piece).2.consumedByteCount = piece.length then
      parsePieces pieces (d.parse piece).2
    else none

theorem Toward.parsePieces {pieces : List Bytes} {todo : Bytes}
    (h : d.Toward frame (pieces.flatten ++ todo)) (hmore : todo ≠ []) :
    ∃ d', parsePieces pieces d = some d' ∧ d'.Toward frame todo ∧
      Accounts d d' pieces.flatten.length := by
  induction pieces generalizing d with
  | nil => exact ⟨d, rfl, h, rfl, rfl⟩
  | cons piece pieces ih =>
    rw [flatten_cons, append_assoc] at h
    obtain ⟨hstatus, hconsumed, htoward, haccounts⟩ := h.parse_before (by simp [hmore])
    obtain ⟨d', hparsed, hlast, haccounts'⟩ := ih htoward
    refine ⟨d', ?_, hlast, haccounts'.1.trans haccounts.1, ?_⟩
    · rw [Http2FrameDecoder.parsePieces, if_pos ⟨hstatus, hconsumed⟩]
      exact hparsed
    · rw [haccounts'.2, haccounts.2, flatten_cons, length_append, add_assoc]

/-- The frame comes out of the bytes it lies on, whatever the pieces and
whatever follows, and not a byte more is consumed. -/
def Recovers (d : Http2FrameDecoder) (wire : Bytes) (frame : Http2Frame) :
    Prop :=
  ∀ (pieces : List Bytes) (last rest : Bytes), pieces.flatten ++ last = wire → last ≠ [] →
      ∃ d₁, parsePieces pieces d = some d₁ ∧ (d₁.parse (last ++ rest)).1 = .frame ∧
        (d₁.parse (last ++ rest)).2.consumedByteCount = last.length ∧
        (d₁.parse (last ++ rest)).2.takeFrame.1 = .ok frame ∧
        (d₁.parse (last ++ rest)).2.takeFrame.2.AtBoundary ∧
        Accounts d (d₁.parse (last ++ rest)).2.takeFrame.2 wire.length

variable {wire : Bytes} {frame : Http2Frame}

theorem AtBoundary.toward (hboundary : d.AtBoundary) (hroom : d.HasRoom wire.length)
    (hwire : frame.OnWire wire) (hrules : frame.ObeysRules d.limits.maximumFrameSizeByteCount) :
    d.Toward frame wire where
  going := by simp [isStopped, hboundary.stage, hboundary.pendingFrame]
  wire := ⟨[], .of_atBoundary hboundary, hwire⟩
  rules := hrules
  room := hroom

theorem AtBoundary.recovers (hboundary : d.AtBoundary) (hroom : d.HasRoom wire.length)
    (hwire : frame.OnWire wire) (hrules : frame.ObeysRules d.limits.maximumFrameSizeByteCount) :
    d.Recovers wire frame := by
  rintro pieces last rest rfl hlast
  obtain ⟨d₁, hpieces, hnext, hbefore⟩ :=
    (hboundary.toward hroom hwire hrules).parsePieces hlast
  obtain ⟨hstatus, hconsumed, hholds, hcomplete⟩ := hnext.parse_complete hlast rest
  obtain ⟨htaken, hafter, htake⟩ := hholds.takeFrame
  refine ⟨d₁, hpieces, hstatus, hconsumed, htaken, hafter,
    (htake.1.trans hcomplete.1).trans hbefore.1, ?_⟩
  rw [htake.2, hcomplete.2, hbefore.2, length_append]
  omega

/-! ## Runs -/

inductive Call
  | parse (data : Bytes)
  | takeFrame
  | reset

/-- A decoder in use: the bytes it has consumed since the last frame was
taken, and the frames taken so far, each with the bytes consumed for it. -/
structure InUse where
  decoder : Http2FrameDecoder
  unclaimed : Bytes := []
  taken : List (Bytes × Http2Frame) := []

def InUse.step (use : InUse) : Call → InUse
  | .parse data =>
    { use with
      decoder := (use.decoder.parse data).2
      unclaimed := use.unclaimed ++ data.take (use.decoder.parse data).2.consumedByteCount }
  | .takeFrame =>
    match use.decoder.takeFrame with
    | (.error _, d) => { use with decoder := d }
    | (.ok frame, d) =>
      ⟨d, [], use.taken ++ [(use.unclaimed, frame)]⟩
  | .reset => { use with decoder := use.decoder.reset, unclaimed := [] }

def InUse.run (use : InUse) (calls : List Call) : InUse := calls.foldl InUse.step use

/-- Every frame that was taken lies on its bytes and obeys the rules. -/
structure InUse.Sound (use : InUse) (limits : Http2FrameLimits) : Prop where
  between : use.decoder.Between use.unclaimed
  agreed : use.decoder.limits = limits
  taken : ∀ taken ∈ use.taken, taken.2.OnWire taken.1 ∧
    taken.2.ObeysRules limits.maximumFrameSizeByteCount

theorem InUse.Sound.step (h : use.Sound limits) (call : Call) : (use.step call).Sound limits := by
  cases call with
  | parse data =>
    obtain ⟨hbetween, hlimits⟩ := h.between.parse data
    exact ⟨hbetween, hlimits.trans h.agreed, h.taken⟩
  | takeFrame =>
    unfold InUse.step Http2FrameDecoder.takeFrame
    cases hpending : use.decoder.pendingFrame with
    | none => exact h
    | some frame =>
      cases h.between with
      | header _ hnone _ _ => exact nomatch hpending.symm.trans hnone
      | payload _ _ hnone _ _ _ _ _ _ =>
        exact nomatch hpending.symm.trans hnone
      | frame frame' hstage hpending' hbytes hwire hrules =>
        cases hpending.symm.trans hpending'
        refine ⟨.of_atBoundary ⟨hstage, hbytes, rfl⟩, h.agreed, ?_⟩
        intro taken hmem
        rcases mem_append.mp hmem with hmem | hmem
        · exact h.taken taken hmem
        cases mem_singleton.mp hmem
        rw [h.agreed] at hrules
        exact ⟨hwire, hrules⟩
      | failed _ hnone => exact nomatch hpending.symm.trans hnone
  | reset =>
    exact ⟨.of_atBoundary ⟨rfl, rfl, rfl⟩, h.agreed, h.taken⟩

theorem InUse.Sound.run (h : use.Sound limits) (calls : List Call) :
    (use.run calls).Sound limits := by
  induction calls generalizing use with
  | nil => exact h
  | cons call calls ih => exact ih (h.step call)

theorem InUse.sound_of_create (h : Http2FrameDecoder.create limits = .ok d) :
    ({ decoder := d } : InUse).Sound limits := by
  unfold Http2FrameDecoder.create at h
  split at h
  · cases h
  · cases h
    exact ⟨.of_atBoundary ⟨rfl, rfl, rfl⟩, rfl, nofun⟩

end Http2FrameDecoder

end AsynGyanis.Http2
