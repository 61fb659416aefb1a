import AsynGyanis.Quic.Recovery.Recovery

/-!
# The size of a packet (RFC 9000 §17)

How many bytes a packet takes on the wire is a function of its header form,
the lengths of the two connection IDs and of the token, the width of its
packet number and the bytes of its frames. The builder adds them up one
way, the send path estimates them another, rounding the Length field up and
setting aside the longest CRYPTO header it may need. Every budget rests on
the estimate being no smaller than what is written, so the two are compared
here once: `outboundPacketByteCount_le`.
-/

namespace AsynGyanis.Quic

def kQuicAuthenticationTagByteLength : Nat := 16

def kQuicMaximumPacketNumberByteCount : Nat := 4

def kQuicMaximumDatagramPayloadByteLength : Nat := 1200

/-- The longest header a CRYPTO frame can have, with a byte to spare. -/
def kQuicCryptoFrameHeaderByteLimit : Nat := 18

def kQuicMinimumInitialDatagramByteLength : Nat := 1200

/-- The narrowest field whose window covers twice the number. -/
def quicPacketNumberByteCountFor (packetNumber : Nat) : Nat :=
  if packetNumber < 2 ^ 7 then 1
  else if packetNumber < 2 ^ 15 then 2
  else if packetNumber < 2 ^ 23 then 3
  else kQuicMaximumPacketNumberByteCount

theorem quicPacketNumberByteCountFor_pos (packetNumber : Nat) :
    1 ≤ quicPacketNumberByteCountFor packetNumber := by
  unfold quicPacketNumberByteCountFor kQuicMaximumPacketNumberByteCount
  repeat' split
  all_goals omega

theorem quicPacketNumberByteCountFor_le (packetNumber : Nat) :
    quicPacketNumberByteCountFor packetNumber ≤
      kQuicMaximumPacketNumberByteCount := by
  unfold quicPacketNumberByteCountFor kQuicMaximumPacketNumberByteCount
  repeat' split
  all_goals omega

/-- What the size of a packet depends on besides its frames. -/
structure PacketShape where
  isLongHeader : Bool
  carriesToken : Bool
  destinationConnectionIdLength : Nat
  sourceConnectionIdLength : Nat
  tokenByteLength : Nat
  packetNumberByteCount : Nat
  deriving DecidableEq, Repr

namespace PacketShape

variable (shape : PacketShape)

/-- Frames long enough for the header protection sample. -/
def plaintextByteCount (frameByteLength : Nat) : Nat := max frameByteLength
    (kQuicMaximumPacketNumberByteCount - shape.packetNumberByteCount)

/-- `outboundPacketByteCount`: what `appendQuicPacket` writes. -/
def outboundPacketByteCount (frameByteLength : Nat) :
    Nat :=
  let protectedPayloadByteCount := shape.packetNumberByteCount +
    shape.plaintextByteCount frameByteLength +
    kQuicAuthenticationTagByteLength
  if shape.isLongHeader then
    1 + shape.destinationConnectionIdLength +
      (4 + 1 + 1 + shape.sourceConnectionIdLength +
        quicVariableLengthIntegerByteCount protectedPayloadByteCount) +
      (if shape.carriesToken then
        quicVariableLengthIntegerByteCount shape.tokenByteLength + shape.tokenByteLength
        else 0) +
      protectedPayloadByteCount
  else
    1 + shape.destinationConnectionIdLength + protectedPayloadByteCount

/-- Header and authentication tag with a Length field of the given width. -/
def plainOverheadByteLength (lengthFieldByteCount : Nat) : Nat :=
  (if shape.isLongHeader then
    1 + 4 + 1 + shape.destinationConnectionIdLength + 1 + shape.sourceConnectionIdLength +
      quicVariableLengthIntegerByteCount shape.tokenByteLength +
      shape.tokenByteLength + lengthFieldByteCount +
      shape.packetNumberByteCount
  else 1 + shape.destinationConnectionIdLength + shape.packetNumberByteCount) +
    kQuicAuthenticationTagByteLength

/-- `packetOverheadByteLength` with its usual two bytes for the Length
field. -/
def packetOverheadByteLength : Nat :=
  shape.plainOverheadByteLength 2 + kQuicCryptoFrameHeaderByteLimit

/-- One pass of the loop of `datagramPaddingByteLength`. -/
def paddingFor (frameByteLength targetByteLength
    lengthFieldByteCount : Nat) : Nat :=
  targetByteLength - (shape.plainOverheadByteLength lengthFieldByteCount + frameByteLength)

/-- The PADDING that brings a datagram to its target. With two bytes set
aside for a Length field that takes one, the second pass puts the byte
back. -/
def datagramPaddingByteLength (frameByteLength targetByteLength : Nat) : Nat :=
  let padding := shape.paddingFor frameByteLength targetByteLength 2
  let lengthValue := shape.packetNumberByteCount + frameByteLength + padding +
    kQuicAuthenticationTagByteLength
  if padding = 0 ∨ !shape.isLongHeader ∨
      quicVariableLengthIntegerByteCount lengthValue ≥ 2 then padding
  else shape.paddingFor frameByteLength targetByteLength 1

theorem packetNumberByteCount_add_le :
    shape.packetNumberByteCount + kQuicAuthenticationTagByteLength ≤
      shape.plainOverheadByteLength 2 := by
  unfold plainOverheadByteLength
  split <;> omega

variable {frameByteLength targetByteLength : Nat}

/-- What is written is within the estimate, plus the bytes a header
protection sample may force on a tiny payload. -/
theorem outboundPacketByteCount_le {shape : PacketShape} (hnumber : 1 ≤ shape.packetNumberByteCount)
    (hpayload : shape.packetNumberByteCount + max frameByteLength 3 +
      kQuicAuthenticationTagByteLength ≤ kQuicMaximumTwoByteIntegerValue) :
    shape.outboundPacketByteCount frameByteLength ≤
      shape.plainOverheadByteLength 2 + max frameByteLength 3 := by
  have hplain : shape.plaintextByteCount frameByteLength ≤ max frameByteLength 3 := by
    simp only [plaintextByteCount, kQuicMaximumPacketNumberByteCount]
    omega
  have hlength : quicVariableLengthIntegerByteCount
      (shape.packetNumberByteCount + shape.plaintextByteCount frameByteLength +
        kQuicAuthenticationTagByteLength) ≤ 2 := by
    unfold quicVariableLengthIntegerByteCount
    repeat' split
    all_goals omega
  unfold outboundPacketByteCount plainOverheadByteLength
  simp only
  split
  · split
    · omega
    · omega
  · omega

/-! ## Padded packets -/

theorem outboundPacketByteCount_expanded (hshort : shape.isLongHeader = false)
    (hframes : 1 + shape.destinationConnectionIdLength +
      shape.packetNumberByteCount + kQuicAuthenticationTagByteLength +
      max frameByteLength 3 ≤ targetByteLength)
    (hnumber : 1 ≤ shape.packetNumberByteCount) :
    shape.outboundPacketByteCount (frameByteLength +
        shape.datagramPaddingByteLength frameByteLength targetByteLength) =
      targetByteLength := by
  simp only [outboundPacketByteCount, datagramPaddingByteLength, paddingFor,
    plainOverheadByteLength, plaintextByteCount, hshort,
    kQuicMaximumPacketNumberByteCount, Bool.false_eq_true, if_false,
    Bool.not_false, true_or, or_true, if_true]
  omega

theorem datagramPaddingByteLength_eq_zero
    (h : targetByteLength ≤ shape.plainOverheadByteLength 2 + frameByteLength) :
    shape.datagramPaddingByteLength frameByteLength targetByteLength = 0 := by
  unfold datagramPaddingByteLength paddingFor
  rw [Nat.sub_eq_zero_of_le h, if_pos (.inl rfl)]

/-- The frames and their PADDING take the same room whatever the frames. -/
theorem paddedByteLength_eq
    (h : shape.plainOverheadByteLength 2 + frameByteLength < targetByteLength) :
    frameByteLength + shape.datagramPaddingByteLength frameByteLength targetByteLength =
      shape.datagramPaddingByteLength 0 targetByteLength := by
  have hless : shape.isLongHeader → shape.plainOverheadByteLength 1 + 1 =
        shape.plainOverheadByteLength 2 := by
    intro hlong
    unfold plainOverheadByteLength
    simp only [hlong, if_true]
    omega
  unfold datagramPaddingByteLength paddingFor
  simp only
  rw [show shape.packetNumberByteCount + frameByteLength +
      (targetByteLength - (shape.plainOverheadByteLength 2 +
        frameByteLength)) = shape.packetNumberByteCount + 0 +
      (targetByteLength - (shape.plainOverheadByteLength 2 + 0)) by omega]
  by_cases hwide : (!shape.isLongHeader) = true ∨
      quicVariableLengthIntegerByteCount (shape.packetNumberByteCount + 0 +
        (targetByteLength - (shape.plainOverheadByteLength 2 + 0)) +
        kQuicAuthenticationTagByteLength) ≥ 2
  · rw [if_pos (.inr hwide), if_pos (.inr hwide)]
    omega
  have hlong := hless (by
    simp only [not_or, Bool.not_eq_true', Bool.not_eq_false] at hwide
    exact hwide.1)
  rw [if_neg, if_neg]
  · omega
  · rintro (hzero | hwide')
    · omega
    · exact hwide hwide'
  · rintro (hzero | hwide')
    · omega
    · exact hwide hwide'

theorem outboundPacketByteCount_le_long (hlong : shape.isLongHeader) (frameByteLength : Nat) :
    shape.outboundPacketByteCount frameByteLength + 2 ≤ shape.plainOverheadByteLength 2 +
        quicVariableLengthIntegerByteCount (shape.packetNumberByteCount +
          shape.plaintextByteCount frameByteLength +
          kQuicAuthenticationTagByteLength) +
        shape.plaintextByteCount frameByteLength := by
  unfold outboundPacketByteCount plainOverheadByteLength
  simp only [hlong, if_true]
  split <;> omega

/-- Padding a long packet overshoots by one byte at most: it may widen the
Length field it was measured with. -/
theorem outboundPacketByteCount_padded_le_succ (hlong : shape.isLongHeader)
    (hnumber : 1 ≤ shape.packetNumberByteCount)
    (hpayload : targetByteLength + 1 ≤ kQuicMaximumTwoByteIntegerValue)
    (h : shape.plainOverheadByteLength 2 + frameByteLength < targetByteLength) :
    shape.outboundPacketByteCount (frameByteLength +
        shape.datagramPaddingByteLength frameByteLength targetByteLength) ≤
      targetByteLength + 1 := by
  have hlength : ∀ value, value ≤ kQuicMaximumTwoByteIntegerValue →
      quicVariableLengthIntegerByteCount value ≤ 2 ∧
        (value ≤ 63 → quicVariableLengthIntegerByteCount value = 1) ∧
        (64 ≤ value → quicVariableLengthIntegerByteCount value = 2) := by
    intro value hvalue
    unfold quicVariableLengthIntegerByteCount
    simp only [kQuicMaximumOneByteIntegerValue]
    repeat' split
    all_goals omega
  have hless : shape.plainOverheadByteLength 1 + 1 = shape.plainOverheadByteLength 2 := by
    unfold plainOverheadByteLength
    simp only [hlong, if_true]
    omega
  have hnumberIn : shape.packetNumberByteCount +
      kQuicAuthenticationTagByteLength ≤ shape.plainOverheadByteLength 1 := by
    unfold plainOverheadByteLength
    simp only [hlong, if_true]
    omega
  rw [shape.paddedByteLength_eq h]
  have hsize := shape.outboundPacketByteCount_le_long hlong
    (shape.datagramPaddingByteLength 0 targetByteLength)
  have hwidth := hlength (shape.packetNumberByteCount + shape.plaintextByteCount
      (shape.datagramPaddingByteLength 0 targetByteLength) +
    kQuicAuthenticationTagByteLength)
  have hvalue := hlength (shape.packetNumberByteCount +
    (targetByteLength - shape.plainOverheadByteLength 2) +
    kQuicAuthenticationTagByteLength)
  have hpositive : targetByteLength - shape.plainOverheadByteLength 2 ≠ 0 := by
    omega
  have hpadding : shape.datagramPaddingByteLength 0 targetByteLength =
      if quicVariableLengthIntegerByteCount (shape.packetNumberByteCount +
          (targetByteLength - shape.plainOverheadByteLength 2) +
          kQuicAuthenticationTagByteLength) ≥ 2
      then targetByteLength - shape.plainOverheadByteLength 2
      else targetByteLength - shape.plainOverheadByteLength 1 := by
    unfold datagramPaddingByteLength paddingFor
    simp [hlong, hpositive]
  have hplain : shape.plaintextByteCount (shape.datagramPaddingByteLength 0 targetByteLength) =
        max (shape.datagramPaddingByteLength 0 targetByteLength)
          (4 - shape.packetNumberByteCount) := rfl
  unfold kQuicAuthenticationTagByteLength at *
  by_cases hwide : quicVariableLengthIntegerByteCount
      (shape.packetNumberByteCount + (targetByteLength - shape.plainOverheadByteLength 2) + 16) ≥ 2
  · rw [if_pos hwide] at hpadding
    omega
  · rw [if_neg hwide] at hpadding
    omega

end PacketShape

end AsynGyanis.Quic
