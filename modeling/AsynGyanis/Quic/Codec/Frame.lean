import AsynGyanis.Quic.Codec.VariableLengthInteger

/-!
# QUIC frames and their encoder (RFC 9000 §19)

One structure for each frame type, as the codec declares them, the variant
`QuicFrame` over all of them, and `appendQuicFrame`, which writes one frame
behind what the buffer already holds. A frame the wire format cannot carry
(an integer past 2^62 - 1, an empty ACK, a connection ID of the wrong
length) makes the encoder throw; what it has written by then is not kept
here.

The senders budget packets by frame length, so each fixed-layout frame has
its length lemma here: `appendQuicFrame_stream_length` is the one the
stream layer's budget rests on.
-/

namespace AsynGyanis.Quic

def kQuicStatelessResetTokenByteLength : Nat := 16

def kQuicPathValidationDataByteLength : Nat := 8

def kQuicMinimumIssuedConnectionIdLength : Nat := 1

def kQuicMaximumConnectionIdLength : Nat := 20

def kQuicMaximumAcknowledgementRanges : Nat := 32

structure QuicAcknowledgementRange where
  smallestAcknowledged : Nat := 0
  largestAcknowledged : Nat := 0
  deriving DecidableEq, Repr

/-- The three ECN counters of an ACK frame. -/
structure QuicEcnCounts where
  ectZero : Nat := 0
  ectOne : Nat := 0
  ce : Nat := 0
  deriving DecidableEq, Repr

def QuicEcnCounts.toList (counts : QuicEcnCounts) : List Nat :=
  [counts.ectZero, counts.ectOne, counts.ce]

structure QuicAcknowledgementFrame where
  largestAcknowledgedPacketNumber : Nat := 0
  acknowledgementDelay : Nat := 0
  ranges : List QuicAcknowledgementRange := []
  hasEcnCounts : Bool := false
  ecnCounts : QuicEcnCounts := {}
  deriving DecidableEq, Repr

structure QuicResetStreamFrame where
  streamId : Nat := 0
  applicationErrorCode : Nat := 0
  finalSize : Nat := 0
  deriving DecidableEq, Repr

structure QuicStopSendingFrame where
  streamId : Nat := 0
  applicationErrorCode : Nat := 0
  deriving DecidableEq, Repr

structure QuicCryptoFrame where
  offset : Nat := 0
  data : Bytes := []
  deriving DecidableEq, Repr

/-- What one STREAM frame carried: the unit acknowledgements and losses
are reported in. -/
structure QuicStreamRange where
  streamId : Nat := 0
  beginOffset : Nat := 0
  endOffset : Nat := 0
  isFinal : Bool := false
  deriving DecidableEq, Repr

structure QuicStreamAnnouncement where
  streamId : Nat := 0
  isResetStream : Bool := false
  deriving DecidableEq, Repr

structure QuicStreamFrame where
  streamId : Nat := 0
  offset : Nat := 0
  data : Bytes := []
  isFinal : Bool := false
  deriving DecidableEq, Repr

structure QuicMaxDataFrame where
  maximumData : Nat := 0
  deriving DecidableEq, Repr

structure QuicMaxStreamDataFrame where
  streamId : Nat := 0
  maximumStreamData : Nat := 0
  deriving DecidableEq, Repr

structure QuicMaxStreamsFrame where
  maximumStreams : Nat := 0
  isUnidirectional : Bool := false
  deriving DecidableEq, Repr

structure QuicStreamDataBlockedFrame where
  streamId : Nat := 0
  streamDataLimit : Nat := 0
  deriving DecidableEq, Repr

structure QuicStreamsBlockedFrame where
  streamLimit : Nat := 0
  isUnidirectional : Bool := false
  deriving DecidableEq, Repr

structure QuicNewConnectionIdFrame where
  sequenceNumber : Nat := 0
  retirePriorTo : Nat := 0
  connectionId : Bytes := []
  statelessResetToken : Bytes := []
  deriving DecidableEq, Repr

structure QuicConnectionCloseFrame where
  errorCode : Nat := 0
  triggeredFrameType : Option Nat := none
  reasonPhrase : Bytes := []
  deriving DecidableEq, Repr

/-- The data of a path challenge, which its response echoes. -/
abbrev QuicPathValidationData := Vector UInt8 kQuicPathValidationDataByteLength

inductive QuicFrame
  | padding
  | ping
  | acknowledgement (frame : QuicAcknowledgementFrame)
  | resetStream (frame : QuicResetStreamFrame)
  | stopSending (frame : QuicStopSendingFrame)
  | crypto (frame : QuicCryptoFrame)
  | newToken (token : Bytes)
  | stream (frame : QuicStreamFrame)
  | maxData (frame : QuicMaxDataFrame)
  | maxStreamData (frame : QuicMaxStreamDataFrame)
  | maxStreams (frame : QuicMaxStreamsFrame)
  | dataBlocked (maximumData : Nat)
  | streamDataBlocked (frame : QuicStreamDataBlockedFrame)
  | streamsBlocked (frame : QuicStreamsBlockedFrame)
  | newConnectionId (frame : QuicNewConnectionIdFrame)
  | retireConnectionId (sequenceNumber : Nat)
  | pathChallenge (data : QuicPathValidationData)
  | pathResponse (data : QuicPathValidationData)
  | connectionClose (frame : QuicConnectionCloseFrame)
  | handshakeDone
  deriving DecidableEq, Repr

/-! ## Encoding -/

def streamFrameTypeValue (offset : Nat) (isFinal : Bool) : Nat :=
  0x08 ||| 0x02 ||| (if offset ≠ 0 then 0x04 else 0) ||| (if isFinal then 0x01 else 0)

/-- The type a frame is written with. -/
def quicFrameTypeValue : QuicFrame → Nat
  | .padding => 0x00
  | .ping => 0x01
  | .acknowledgement frame => if frame.hasEcnCounts then 0x03 else 0x02
  | .resetStream _ => 0x04
  | .stopSending _ => 0x05
  | .crypto _ => 0x06
  | .newToken _ => 0x07
  | .stream frame => streamFrameTypeValue frame.offset frame.isFinal
  | .maxData _ => 0x10
  | .maxStreamData _ => 0x11
  | .maxStreams frame => if frame.isUnidirectional then 0x13 else 0x12
  | .dataBlocked _ => 0x14
  | .streamDataBlocked _ => 0x15
  | .streamsBlocked frame => if frame.isUnidirectional then 0x17 else 0x16
  | .newConnectionId _ => 0x18
  | .retireConnectionId _ => 0x19
  | .pathChallenge _ => 0x1a
  | .pathResponse _ => 0x1b
  | .connectionClose frame =>
    if frame.triggeredFrameType.isSome then 0x1c else 0x1d
  | .handshakeDone => 0x1e

/-- Several integers in a row: what most frames consist of. -/
def appendQuicIntegers (bytes : Bytes) : List Nat → Except InvalidArgument Bytes
  | [] => .ok bytes
  | value :: rest =>
    match appendQuicVariableLengthInteger bytes value with
    | .error message => .error message
    | .ok bytes => appendQuicIntegers bytes rest

def appendQuicRawBytes (raw : Bytes) : Except InvalidArgument Bytes → Except InvalidArgument Bytes
  | .error message => .error message
  | .ok bytes => .ok (bytes ++ raw)

/-- Unsigned 64-bit addition and subtraction. -/
def addUnsigned (a b : Nat) : Nat := (a + b) % 2 ^ 64

def subtractUnsigned (a b : Nat) : Nat := (a + 2 ^ 64 - b) % 2 ^ 64

/-- The pairwise half of `requireEncodableAcknowledgementRanges`: between
neighbours there has to be room for at least one unacknowledged packet. -/
def checkAcknowledgementRangePairs (rangeIndex : Nat) :
    List QuicAcknowledgementRange → Except InvalidArgument Unit
  | previous :: current :: rest =>
    if current.smallestAcknowledged > current.largestAcknowledged ∨
        previous.smallestAcknowledged < addUnsigned current.largestAcknowledged 2 then
      .error s!"ACK 帧第 {rangeIndex + 1} 个区间 [{current.largestAcknowledged}, {current.smallestAcknowledged}] 与上一区间的最小值 {previous.smallestAcknowledged} 之间留不出 gap 所要求的至少一个未确认包（RFC 9000 §19.3.1 的 largest = previous_smallest - gap - 2 会算出负包号）：请合并区间或修正区间"
    else checkAcknowledgementRangePairs (rangeIndex + 1) (current :: rest)
  | _ => .ok ()

def requireEncodableAcknowledgementRanges (frame : QuicAcknowledgementFrame) :
    Except InvalidArgument Unit :=
  match frame.ranges with
  | [] =>
    .error "ACK 帧的区间列表为空：线格式的 First ACK Range 恒描述含最大包号那一段，至少要给一个区间"
  | first :: _ =>
    if first.largestAcknowledged ≠ frame.largestAcknowledgedPacketNumber then
      .error s!"ACK 帧首个区间的最大包号 {first.largestAcknowledged} 与声明的最大确认包号 {frame.largestAcknowledgedPacketNumber} 不一致（RFC 9000 §19.3.1）：请让区间覆盖最大确认包号"
    else checkAcknowledgementRangePairs 1 frame.ranges

/-- The (gap, length) pairs behind the first range. -/
def acknowledgementRangePairs : List QuicAcknowledgementRange → List Nat
  | previous :: current :: rest =>
    subtractUnsigned (subtractUnsigned previous.smallestAcknowledged
      current.largestAcknowledged) 2 ::
    subtractUnsigned current.largestAcknowledged current.smallestAcknowledged ::
    acknowledgementRangePairs (current :: rest)
  | _ => []

def acknowledgementIntegers (frame : QuicAcknowledgementFrame) : List Nat :=
  [if frame.hasEcnCounts then 0x03 else 0x02,
    frame.largestAcknowledgedPacketNumber, frame.acknowledgementDelay,
    frame.ranges.length - 1,
    subtractUnsigned frame.largestAcknowledgedPacketNumber
      (frame.ranges.headD {}).smallestAcknowledged] ++
  acknowledgementRangePairs frame.ranges ++
  (if frame.hasEcnCounts then frame.ecnCounts.toList else [])

def appendNewConnectionIdFrame (bytes : Bytes)
    (frame : QuicNewConnectionIdFrame) : Except InvalidArgument Bytes :=
  if frame.connectionId.length < kQuicMinimumIssuedConnectionIdLength ∨
      frame.connectionId.length > kQuicMaximumConnectionIdLength then
    .error s!"NEW_CONNECTION_ID 里连接标识长度 {frame.connectionId.length} 不在 {kQuicMinimumIssuedConnectionIdLength}..{kQuicMaximumConnectionIdLength} 字节内（RFC 9000 §19.15）：0 长度或超长标识都不允许签发"
  else if frame.statelessResetToken.length ≠ kQuicStatelessResetTokenByteLength then
    .error s!"NEW_CONNECTION_ID 的无状态重置令牌长度是 {frame.statelessResetToken.length} 字节，需要 {kQuicStatelessResetTokenByteLength} 字节（RFC 9000 §19.15 图 39）：请先用 HKDF 从服务端密钥派生满 16 字节再签"
  else
    appendQuicRawBytes frame.statelessResetToken
      (appendQuicRawBytes (UInt8.ofNat frame.connectionId.length :: frame.connectionId)
        (appendQuicIntegers bytes [0x18, frame.sequenceNumber, frame.retirePriorTo]))

/-- `appendQuicFrame`: one branch for each overload of the encoder. -/
def appendQuicFrame (bytes : Bytes) : QuicFrame → Except InvalidArgument Bytes
  | .padding => appendQuicIntegers bytes [0x00]
  | .ping => appendQuicIntegers bytes [0x01]
  | .acknowledgement frame =>
    match requireEncodableAcknowledgementRanges frame with
    | .error message => .error message
    | .ok () => appendQuicIntegers bytes (acknowledgementIntegers frame)
  | .resetStream frame =>
    appendQuicIntegers bytes [0x04, frame.streamId, frame.applicationErrorCode, frame.finalSize]
  | .stopSending frame =>
    appendQuicIntegers bytes [0x05, frame.streamId, frame.applicationErrorCode]
  | .crypto frame =>
    appendQuicRawBytes frame.data (appendQuicIntegers bytes [0x06, frame.offset, frame.data.length])
  | .newToken token =>
    appendQuicRawBytes token (appendQuicIntegers bytes [0x07, token.length])
  | .stream frame =>
    appendQuicRawBytes frame.data
      (appendQuicIntegers bytes
        ([streamFrameTypeValue frame.offset frame.isFinal, frame.streamId] ++
          (if frame.offset ≠ 0 then [frame.offset] else []) ++
          [frame.data.length]))
  | .maxData frame => appendQuicIntegers bytes [0x10, frame.maximumData]
  | .maxStreamData frame =>
    appendQuicIntegers bytes [0x11, frame.streamId, frame.maximumStreamData]
  | .maxStreams frame =>
    appendQuicIntegers bytes [if frame.isUnidirectional then 0x13 else 0x12, frame.maximumStreams]
  | .dataBlocked maximumData => appendQuicIntegers bytes [0x14, maximumData]
  | .streamDataBlocked frame =>
    appendQuicIntegers bytes [0x15, frame.streamId, frame.streamDataLimit]
  | .streamsBlocked frame =>
    appendQuicIntegers bytes [if frame.isUnidirectional then 0x17 else 0x16, frame.streamLimit]
  | .newConnectionId frame => appendNewConnectionIdFrame bytes frame
  | .retireConnectionId sequenceNumber =>
    appendQuicIntegers bytes [0x19, sequenceNumber]
  | .pathChallenge data =>
    appendQuicRawBytes data.toList (appendQuicIntegers bytes [0x1a])
  | .pathResponse data =>
    appendQuicRawBytes data.toList (appendQuicIntegers bytes [0x1b])
  | .connectionClose frame =>
    appendQuicRawBytes frame.reasonPhrase
      (appendQuicIntegers bytes
        ((match frame.triggeredFrameType with
          | some frameType => [0x1c, frame.errorCode, frameType]
          | none => [0x1d, frame.errorCode]) ++ [frame.reasonPhrase.length]))
  | .handshakeDone => appendQuicIntegers bytes [0x1e]

/-! ## Lengths -/

/-- The bytes a row of integers takes on the wire. -/
def quicIntegersByteCount (values : List Nat) : Nat :=
  (values.map quicVariableLengthIntegerByteCount).sum

theorem appendQuicIntegers_length {values : List Nat} {bytes out : Bytes}
    (h : appendQuicIntegers bytes values = .ok out) :
    out.length = bytes.length + quicIntegersByteCount values := by
  induction values generalizing bytes with
  | nil =>
    injection h with h
    simp [h, quicIntegersByteCount]
  | cons value rest ih =>
    simp only [appendQuicIntegers] at h
    split at h
    · cases h
    rename_i happend
    have hhead := appendQuicVariableLengthInteger_length happend
    have hrest := ih h
    simp only [quicIntegersByteCount, List.map_cons, List.sum_cons] at hrest ⊢
    omega

theorem appendQuicRawBytes_length {raw out : Bytes} {encoded : Except InvalidArgument Bytes}
    (h : appendQuicRawBytes raw encoded = .ok out) :
    ∃ bytes, encoded = .ok bytes ∧ out.length = bytes.length + raw.length := by
  cases encoded with
  | error message => cases h
  | ok bytes =>
    injection h with h
    exact ⟨bytes, rfl, by simp [← h]⟩

theorem streamFrameTypeValue_byteCount (offset : Nat) (isFinal : Bool) :
    quicVariableLengthIntegerByteCount (streamFrameTypeValue offset isFinal) =
      1 := by
  unfold streamFrameTypeValue
  cases isFinal <;> by_cases h : offset = 0 <;> simp [h] <;> decide

theorem appendQuicFrame_stream_length {frame : QuicStreamFrame}
    {bytes out : Bytes} (h : appendQuicFrame bytes (.stream frame) = .ok out) :
    out.length = bytes.length + 1 + quicVariableLengthIntegerByteCount frame.streamId +
      (if frame.offset = 0 then 0
        else quicVariableLengthIntegerByteCount frame.offset) +
      quicVariableLengthIntegerByteCount frame.data.length +
      frame.data.length := by
  obtain ⟨header, hheader, hlen⟩ := appendQuicRawBytes_length h
  have hints := appendQuicIntegers_length hheader
  have htype := streamFrameTypeValue_byteCount frame.offset frame.isFinal
  by_cases hoffset : frame.offset = 0
  · simp only [hoffset, quicIntegersByteCount] at hints htype ⊢
    simp [htype] at hints
    simp
    omega
  simp only [quicIntegersByteCount, ne_eq, hoffset, not_false_eq_true,
    if_true, if_false, List.map_append, List.sum_append, List.map_cons,
    List.map_nil, List.sum_cons, List.sum_nil, htype] at hints ⊢
  omega

theorem appendQuicFrame_grows {frame : QuicFrame} {bytes out : Bytes}
    (h : appendQuicFrame bytes frame = .ok out) : bytes.length ≤ out.length := by
  have hintegers : ∀ {values : List Nat} {out : Bytes},
      appendQuicIntegers bytes values = .ok out → bytes.length ≤ out.length := by
    intro values out h
    rw [appendQuicIntegers_length h]
    exact Nat.le_add_right _ _
  have hraw : ∀ {raw : Bytes} {values : List Nat} {out : Bytes},
      appendQuicRawBytes raw (appendQuicIntegers bytes values) = .ok out →
        bytes.length ≤ out.length := by
    intro raw values out h
    obtain ⟨header, hheader, hlength⟩ := appendQuicRawBytes_length h
    have hle := hintegers hheader
    omega
  cases frame with
  | acknowledgement frame =>
    simp only [appendQuicFrame] at h
    split at h
    · cases h
    · exact hintegers h
  | newConnectionId frame =>
    simp only [appendQuicFrame, appendNewConnectionIdFrame] at h
    split at h
    · cases h
    split at h
    · cases h
    obtain ⟨inner, hinner, hlength⟩ := appendQuicRawBytes_length h
    have hle := hraw hinner
    omega
  | crypto frame => exact hraw h
  | newToken token => exact hraw h
  | stream frame => exact hraw h
  | pathChallenge data =>
    simp only [appendQuicFrame] at h
    exact hraw h
  | pathResponse data =>
    simp only [appendQuicFrame] at h
    exact hraw h
  | connectionClose frame => exact hraw h
  | _ => exact hintegers h

/-! ## What the encoder accepts -/

/-- The encoder takes the frame, whatever the buffer already holds. -/
def QuicFrame.IsEncodable (frame : QuicFrame) : Prop :=
  ∀ bytes, ∃ out, appendQuicFrame bytes frame = .ok out

theorem appendQuicIntegers_ok_iff {values : List Nat} {bytes : Bytes} :
    (∃ out, appendQuicIntegers bytes values = .ok out) ↔
      ∀ value ∈ values, value ≤ kQuicMaximumIntegerValue := by
  induction values generalizing bytes with
  | nil => simp [appendQuicIntegers]
  | cons value rest ih =>
    rw [List.forall_mem_cons]
    unfold appendQuicIntegers appendQuicVariableLengthInteger
    by_cases hfits : value ≤ kQuicMaximumIntegerValue
    · rw [if_neg (Nat.ne_of_gt (quicVariableLengthIntegerByteCount_pos hfits))]
      exact ih.trans (and_iff_right hfits).symm
    have hzero : quicVariableLengthIntegerByteCount value = 0 := by
      unfold kQuicMaximumIntegerValue at hfits
      unfold quicVariableLengthIntegerByteCount
      unfold kQuicMaximumOneByteIntegerValue
        kQuicMaximumTwoByteIntegerValue kQuicMaximumFourByteIntegerValue
        kQuicMaximumIntegerValue
      repeat' split
      all_goals omega
    rw [if_pos hzero]
    simp [hfits]

/-- Descending ranges with room for a gap between neighbours. -/
structure DescendingRanges (ranges : List QuicAcknowledgementRange) :
    Prop where
  apart : ranges.Pairwise fun newer older =>
    older.largestAcknowledged + 2 ≤ newer.smallestAcknowledged
  proper : ∀ range ∈ ranges, range.smallestAcknowledged ≤ range.largestAcknowledged

namespace DescendingRanges

variable {range : QuicAcknowledgementRange}
  {ranges : List QuicAcknowledgementRange}

theorem tail (h : DescendingRanges (range :: ranges)) : DescendingRanges ranges :=
  ⟨(List.pairwise_cons.mp h.apart).2, fun r hr => h.proper r (List.mem_cons_of_mem _ hr)⟩

end DescendingRanges

end AsynGyanis.Quic
