import AsynGyanis.Quic.Packet
import AsynGyanis.Quic.ReceivedPacketNumbers

/-!
# Packet numbers on the wire (RFC 9000 §17.1)

A packet carries the low bytes of its number only, one to four of them, and
the receiver puts the rest back: of the numbers that end in these bytes it
takes the one nearest to the number it expects next. The window this works
in is half a turn of the field to either side of that number, closed above
and open below, and the two ends of the number space, where a turn cannot
be added or taken away, cost nothing: `restoreQuicPacketNumber_eq`.

The sender knows nothing of the receiver's state and takes a field in which
the number itself is less than half a turn. Such a number is never too far
ahead of what is expected; what is left is how far it may be behind, and
`packet_number_restored` says so exactly.
-/

namespace AsynGyanis.Quic

open Library

def readBigEndianInteger (bytes : Bytes) (byteCount : Nat) : Nat :=
  ofBigEndian (bytes.take byteCount)

/-- `appendQuicTruncatedPacketNumber`: the low bytes, whether or not the
number fits into them. -/
def appendQuicTruncatedPacketNumber (bytes : Bytes) (packetNumber packetNumberByteCount : Nat) :
    Except InvalidArgument Bytes :=
  if packetNumberByteCount < 1 ∨ packetNumberByteCount > kQuicMaximumPacketNumberByteCount then
    .error s!"包号字段字节数 {packetNumberByteCount} 不在 1..{kQuicMaximumPacketNumberByteCount} 内（RFC 9000 §17.1）：首字节的包号长度位只表达得到这四档"
  else .ok (bytes ++ toBigEndian packetNumberByteCount packetNumber)

/-- Half a turn of a field. -/
def packetNumberHalfWindow (packetNumberByteCount : Nat) : Nat :=
  2 ^ (packetNumberByteCount * 8) / 2

/-- The number is within half a turn of the one expected next. -/
def WithinHalfWindow (largestReceivedPacketNumber packetNumber
    packetNumberByteCount : Nat) : Prop :=
  largestReceivedPacketNumber + 1 < packetNumber + packetNumberHalfWindow packetNumberByteCount ∧
    packetNumber ≤ largestReceivedPacketNumber + 1 + packetNumberHalfWindow packetNumberByteCount

theorem readBigEndianInteger_truncated (packetNumber packetNumberByteCount : Nat) :
    readBigEndianInteger (toBigEndian packetNumberByteCount packetNumber) packetNumberByteCount =
      packetNumber % 2 ^ (packetNumberByteCount * 8) := by
  unfold readBigEndianInteger
  rw [List.take_of_length_le (by simp), ofBigEndian_toBigEndian, Nat.mul_comm, Nat.pow_mul]

section Restoration

variable {largest packetNumber byteCount : Nat}

theorem restoreQuicPacketNumber_eq (hpos : 1 ≤ byteCount)
    (hwidth : byteCount ≤ kQuicMaximumPacketNumberByteCount)
    (hlargest : largest < 2 ^ 62) (hnumber : packetNumber < 2 ^ 62)
    (hwindow : WithinHalfWindow largest packetNumber byteCount) :
    restoreQuicPacketNumber largest
      (packetNumber % 2 ^ (byteCount * 8)) byteCount = packetNumber := by
  obtain ⟨hbehind, hahead⟩ := hwindow
  unfold packetNumberHalfWindow at hbehind hahead
  unfold kQuicMaximumPacketNumberByteCount at hwidth
  unfold restoreQuicPacketNumber
  obtain rfl | rfl | rfl | rfl : byteCount = 1 ∨ byteCount = 2 ∨ byteCount = 3 ∨ byteCount = 4 := by
    omega
  all_goals
    simp only [Nat.reduceMul, Nat.reducePow, Nat.reduceDiv] at hbehind hahead ⊢
    split
    · omega
    · split <;> omega

theorem restoreQuicPacketNumber_ne (hpos : 1 ≤ byteCount)
    (hwidth : byteCount ≤ kQuicMaximumPacketNumberByteCount) (hlargest : largest < 2 ^ 62)
    (hnumber : packetNumber < packetNumberHalfWindow byteCount)
    (hbehind : packetNumber + packetNumberHalfWindow byteCount ≤ largest + 1) :
    restoreQuicPacketNumber largest
      (packetNumber % 2 ^ (byteCount * 8)) byteCount ≠ packetNumber := by
  unfold packetNumberHalfWindow at hnumber hbehind
  unfold kQuicMaximumPacketNumberByteCount at hwidth
  unfold restoreQuicPacketNumber
  obtain rfl | rfl | rfl | rfl : byteCount = 1 ∨ byteCount = 2 ∨ byteCount = 3 ∨ byteCount = 4 := by
    omega
  all_goals
    simp only [Nat.reduceMul, Nat.reducePow, Nat.reduceDiv] at hbehind hnumber ⊢
    split
    · omega
    · split <;> omega

end Restoration

theorem lt_packetNumberHalfWindow {packetNumber : Nat} (hnumber : packetNumber < 2 ^ 31) :
    packetNumber < packetNumberHalfWindow (quicPacketNumberByteCountFor packetNumber) := by
  unfold packetNumberHalfWindow quicPacketNumberByteCountFor kQuicMaximumPacketNumberByteCount
  repeat' split
  all_goals omega

/-- A number written in the width the sender takes for it is restored by a
receiver, whatever it received so far, exactly if the receiver is not half
a turn ahead; and in any width it is restored by every receiver it is
within half a turn of. -/
theorem packet_number_restored :
    (∀ (packetNumber : Nat) (largestReceived : Option Nat),
      packetNumber < 2 ^ 31 → (∀ n ∈ largestReceived, n < 2 ^ 62) →
      ∃ field, appendQuicTruncatedPacketNumber [] packetNumber
            (quicPacketNumberByteCountFor packetNumber) = .ok field ∧
          (restoreQuicPacketNumber (largestReceived.getD 0)
              (readBigEndianInteger field (quicPacketNumberByteCountFor packetNumber))
              (quicPacketNumberByteCountFor packetNumber) = packetNumber ↔
            largestReceived.getD 0 + 1 < packetNumber + packetNumberHalfWindow
                (quicPacketNumberByteCountFor packetNumber))) ∧
    (∀ packetNumber largest byteCount : Nat, 1 ≤ byteCount →
      byteCount ≤ kQuicMaximumPacketNumberByteCount →
      packetNumber < 2 ^ 62 → largest < 2 ^ 62 →
      WithinHalfWindow largest packetNumber byteCount →
      ∃ field, appendQuicTruncatedPacketNumber [] packetNumber byteCount = .ok field ∧
          restoreQuicPacketNumber largest (readBigEndianInteger field byteCount) byteCount =
              packetNumber) := by
  have happend : ∀ packetNumber byteCount : Nat, 1 ≤ byteCount →
      byteCount ≤ kQuicMaximumPacketNumberByteCount →
      appendQuicTruncatedPacketNumber [] packetNumber byteCount =
        .ok (toBigEndian byteCount packetNumber) := by
    intro packetNumber byteCount hpos hwidth
    unfold appendQuicTruncatedPacketNumber
    rw [if_neg (by omega), List.nil_append]
  refine ⟨fun packetNumber largestReceived hnumber hlargest => ?_,
    fun packetNumber largest byteCount hpos hwidth hnumber hlargest hwindow => ?_⟩
  · have hpos := quicPacketNumberByteCountFor_pos packetNumber
    have hwidth := quicPacketNumberByteCountFor_le packetNumber
    have hroom := lt_packetNumberHalfWindow hnumber
    have hlargest : largestReceived.getD 0 < 2 ^ 62 := by
      cases largestReceived with
      | none => norm_num
      | some n => exact hlargest n rfl
    refine ⟨_, happend packetNumber _ hpos hwidth, ?_⟩
    rw [readBigEndianInteger_truncated]
    constructor
    · intro hrestored
      by_contra hbehind
      exact restoreQuicPacketNumber_ne hpos hwidth hlargest hroom (by omega) hrestored
    · intro hbehind
      exact restoreQuicPacketNumber_eq hpos hwidth hlargest (by omega) ⟨hbehind, by omega⟩
  · refine ⟨_, happend packetNumber _ hpos hwidth, ?_⟩
    rw [readBigEndianInteger_truncated]
    exact restoreQuicPacketNumber_eq hpos hwidth hlargest hnumber hwindow

/-- The last number of the space, after the one two turns before it. -/
theorem packet_number_restored_last : ∃ field,
      appendQuicTruncatedPacketNumber [] (2 ^ 62 - 1) 1 = .ok field ∧
        restoreQuicPacketNumber (2 ^ 62 - 100) (readBigEndianInteger field 1) 1 = 2 ^ 62 - 1 :=
  packet_number_restored.2 (2 ^ 62 - 1) (2 ^ 62 - 100) 1 (by decide)
    (by decide) (by decide) (by decide)
    ⟨by decide, by decide⟩

end AsynGyanis.Quic
