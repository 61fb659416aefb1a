import AsynGyanis.Quic.Connection.Arrivals
import AsynGyanis.Quic.Connection.FlightBooks

/-!
# The size of a datagram

Every packet leaves in a datagram of its own. Handshake bytes and stream
frames ask for a budget first, and the budget stops at the datagram size the
path is known to carry. The frames that come before them ask for none: the
ACK with its ranges, the connection IDs, HANDSHAKE_DONE; and neither do a
lone PING and a CONNECTION_CLOSE. So a datagram keeps to the size as long as
what went in unmeasured does.

Padding has a say in it too. A client's Initial is brought to 1200 bytes,
and where the Length field changes its width in between, the datagram ends
up one byte longer rather than one byte short.
-/

namespace AsynGyanis.Quic

open Library

theorem LedgerStep.isMeasured {throws : Bool} {l l' : QuicConnectionLedgers}
    (hstep : LedgerStep throws l l') (h : ∀ note ∈ l.history.sentPackets, note.IsMeasured) :
    ∀ note ∈ l'.history.sentPackets, note.IsMeasured := by
  cases hstep with
  | send note htakes hpaths hnumber hallowance hrecord hsize hmeasured =>
    intro sent hsent
    rcases List.mem_append.mp hsent with hold | hnew
    · exact h sent hold
    · rw [List.mem_singleton.mp hnew]
      exact hmeasured
  | arrive space packetNumber =>
    unfold QuicConnectionLedgers.arrive
    simp only
    split <;> exact h
  | resolve space acknowledged lost hheld =>
    unfold QuicConnectionLedgers.resolve
    split <;> exact h
  | adoptConnectionId frame hretire hnew =>
    unfold QuicConnectionLedgers.adoptNewConnectionId QuicConnectionLedgers.ensureActiveIsHeld
    simp only
    repeat' split
    all_goals exact h
  | receive | markPath | validateAddress | movePath | elicit | acknowledge
    | takeFragment | requeue | discard | startOver | writeCrypto
    | followConnectionId | noteConnectionIdFrame | limitError | noteToken =>
      exact h

namespace QuicConnectionCore

variable {environment : QuicEnvironment}
  {configuration : QuicConnectionCoreConfiguration}
  {core : QuicConnectionCore}

end QuicConnectionCore

end AsynGyanis.Quic
