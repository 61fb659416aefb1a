import AsynGyanis.Quic.Connection.Acknowledgements
import AsynGyanis.Quic.Recovery.EcnFeedback

/-!
# ECN validation on an honest path

A sender and the peer that counts its marks, with a path between them that
drops, reorders, duplicates and marks with CE, and does nothing else. The
sender is a `QuicRecovery`; the peer is a connection, of which only the
books of arrivals and the construction of ACK frames move here. Every frame
the peer ever built stays available, so an ACK can be lost, late or
repeated.

The counts of a frame are totals over all the peer accepted, while its
ranges end at the last packet that asked for an acknowledgement. A packet
that is counted by one frame and acknowledged by a later one is therefore
missing from the increase it is compared with, and validation fails on this
path. It does not as long as every frame covers what the peer tracks and no
number is counted twice, which is what `KeepsUp` asks of the steps.
-/

namespace AsynGyanis.Quic

open Library QuicConnectionCore List

/-! ## The two parties -/

/-- A packet the peer accepted, with the mark it arrived with. -/
structure EcnDelivery where
  space : PacketNumberSpace
  packetNumber : Nat
  codepoint : Nat
  deriving DecidableEq

def EcnDelivery.arrival (delivery : EcnDelivery) : PacketNumberSpace × Nat :=
  (delivery.space, delivery.packetNumber)

/-- Both lists grow at the end and are read by nobody. -/
structure EcnExchange where
  recovery : QuicRecovery := {}
  peer : QuicConnectionCore
  sent : List (PacketNumberSpace × QuicSentPacketInfo) := []
  deliveries : List EcnDelivery := []

namespace QuicConnectionCore

/-- The peer opens a packet of a datagram with this mark. -/
def acceptMarked (peer : QuicConnectionCore) (space : PacketNumberSpace)
    (packet : QuicSentPacketInfo) (codepoint : Nat) (time : QuicTime) :
    QuicConnectionCore × Bool :=
  let peer : QuicConnectionCore := { peer with
    incomingEcnCodepoint := some codepoint
    isEcnFieldReadable := true }
  match peer.noteReceivedPacket space packet.packetNumber with
  | (peer, false) => (peer, false)
  | (peer, true) =>
    (if packet.isAckEliciting then
      peer.noteAckEliciting space packet.packetNumber time
    else peer, true)

/-- The peer builds the ACK it owes, if it owes one. -/
def acknowledgePending (peer : QuicConnectionCore)
    (space : PacketNumberSpace) (now : QuicTime) : QuicConnectionCore :=
  (appendAcknowledgementIfPending space now
    { core := peer, owesHandshakeDone := false, owesProbe := false }).core

end QuicConnectionCore

inductive EcnExchangeEvent
  | send (space : PacketNumberSpace) (packet : QuicSentPacketInfo)
  | deliver (space : PacketNumberSpace) (packet : QuicSentPacketInfo)
      (codepoint : Nat) (time : QuicTime)
  | acknowledge (space : PacketNumberSpace) (now : QuicTime)
  | receive (note : AcknowledgementNote) (time delay : QuicTime)
  | deadlineReached (now : QuicTime)
  | discardSpace (space : PacketNumberSpace)
  | handshakeConfirmed (peerMaximumAcknowledgmentDelay : QuicTime)
  | pathChanged
  | disableEcn

namespace EcnExchange

def start (environment : QuicEnvironment)
    (configuration : QuicConnectionCoreConfiguration) : EcnExchange where
  peer := QuicConnectionCore.start environment configuration

def step (exchange : EcnExchange) : EcnExchangeEvent → EcnExchange
  | .send space packet =>
    { exchange with
      recovery := exchange.recovery.onPacketSent space packet
      sent := exchange.sent ++ [(space, packet)] }
  | .deliver space packet codepoint time =>
    let accepted := exchange.peer.acceptMarked space packet codepoint time
    { exchange with
      peer := accepted.1
      deliveries := exchange.deliveries ++
        if accepted.2 then [⟨space, packet.packetNumber, codepoint⟩]
        else [] }
  | .acknowledge space now =>
    { exchange with peer := exchange.peer.acknowledgePending space now }
  | .receive note time delay =>
    { exchange with
      recovery := (exchange.recovery.onAcknowledgementReceived note.space note.frame time delay).1 }
  | .deadlineReached now =>
    { exchange with recovery := (exchange.recovery.onDeadlineReached now).1 }
  | .discardSpace space =>
    { exchange with recovery := exchange.recovery.discardSpace space }
  | .handshakeConfirmed delay =>
    { exchange with recovery := exchange.recovery.onHandshakeConfirmed delay }
  | .pathChanged =>
    { exchange with recovery := exchange.recovery.resetForPathChange }
  | .disableEcn =>
    { exchange with recovery := exchange.recovery.disableEcn }

/-- The mark a packet arrives with on a path that at most sets CE, and that
only where the sender said it may. -/
def HonestMark (packet : QuicSentPacketInfo) (codepoint : Nat) : Prop :=
  codepoint = packet.ecnCodepoint ∨ packet.isEcnMarked = true ∧ codepoint = kEcnCodepointCe

instance (packet : QuicSentPacketInfo) (codepoint : Nat) :
    Decidable (HonestMark packet codepoint) :=
  inferInstanceAs (Decidable (_ ∨ _))

/-- What the sender and the path may do: packets have new numbers and the
mark of the moment, only what was sent arrives, only ACKs the peer built. -/
def Honest (exchange : EcnExchange) : EcnExchangeEvent → Prop
  | .send space packet =>
    packet.ecnCodepoint = exchange.recovery.outgoingEcnCodepoint ∧
      (space, packet.packetNumber) ∉ exchange.sent.map fun sent => (sent.1, sent.2.packetNumber)
  | .deliver space packet codepoint _ =>
    (space, packet) ∈ exchange.sent ∧ HonestMark packet codepoint
  | .receive note _ _ => note ∈ exchange.peer.history.acknowledgements
  | .acknowledge _ _ | .deadlineReached _ | .discardSpace _
  | .handshakeConfirmed _ | .pathChanged | .disableEcn => True

/-- The numbers a space of the peer tracks. -/
def tracked (exchange : EcnExchange) (space : PacketNumberSpace) :
    QuicReceivedPacketNumbers :=
  (exchange.peer.spaceState space).receivedPacketNumbers

/-- What keeps acknowledgements level with the counts. A number that was
accepted before is still tracked when it comes again. When an ACK is due,
its last ack-eliciting packet is the greatest number tracked and the runs
fit into one frame. -/
def KeepsUp (exchange : EcnExchange) : EcnExchangeEvent → Prop
  | .deliver space packet _ _ =>
    (space, packet.packetNumber) ∈ exchange.deliveries.map (·.arrival) →
      packet.packetNumber ∈ (exchange.tracked space).members
  | .acknowledge space _ =>
    (∀ largest, (exchange.peer.spaceState space).largestAckElicitingReceived = some largest →
      ∀ number ∈ (exchange.tracked space).members, number ≤ largest) ∧
      (exchange.tracked space).ranges.length ≤ kQuicMaximumAcknowledgementRanges
  | .send _ _ | .receive _ _ _ | .deadlineReached _ | .discardSpace _
  | .handshakeConfirmed _ | .pathChanged | .disableEcn => True

/-- The exchanges an honest path can lead to. -/
def HonestReach (environment : QuicEnvironment) (configuration : QuicConnectionCoreConfiguration) :
    EcnExchange → Prop :=
  Reach step Honest (start environment configuration)

/-- Those in which the acknowledgements keep up on every step. -/
def LevelReach (environment : QuicEnvironment) (configuration : QuicConnectionCoreConfiguration) :
    EcnExchange → Prop :=
  Reach step (fun exchange event =>
    exchange.Honest event ∧ exchange.KeepsUp event)
    (start environment configuration)

end EcnExchange

/-! ## Counting marks -/

/-- The three counts over what a space accepted. -/
def ecnCountsOf (space : PacketNumberSpace) (deliveries : List EcnDelivery) : QuicEcnCounts where
  ectZero := deliveries.countP fun delivery =>
    delivery.space = space ∧ delivery.codepoint = kEcnCodepointEctZero
  ectOne := deliveries.countP fun delivery =>
    delivery.space = space ∧ delivery.codepoint = kEcnCodepointEctOne
  ce := deliveries.countP fun delivery =>
    delivery.space = space ∧ delivery.codepoint = kEcnCodepointCe

theorem ecnCountsOf_append_self (space : PacketNumberSpace)
    (deliveries : List EcnDelivery) (packetNumber codepoint : Nat) :
    ecnCountsOf space (deliveries ++ [⟨space, packetNumber, codepoint⟩]) =
      countEcnMark (ecnCountsOf space deliveries) codepoint := by
  unfold ecnCountsOf countEcnMark
  simp only [countP_append, countP_singleton, decide_eq_true_eq, true_and]
  by_cases hzero : codepoint = kEcnCodepointEctZero
  · subst hzero
    rfl
  by_cases hone : codepoint = kEcnCodepointEctOne
  · subst hone
    rfl
  by_cases hce : codepoint = kEcnCodepointCe
  · subst hce
    rfl
  · simp [if_neg hzero, if_neg hone, if_neg hce]

theorem ecnCountsOf_append_of_ne {space other : PacketNumberSpace}
    (h : space ≠ other) (deliveries : List EcnDelivery) (packetNumber codepoint : Nat) :
    ecnCountsOf other (deliveries ++ [⟨space, packetNumber, codepoint⟩]) =
      ecnCountsOf other deliveries := by
  unfold ecnCountsOf
  simp [h]

/-- The numbers a space accepted. -/
def numbersDelivered (space : PacketNumberSpace) (deliveries : List EcnDelivery) : Finset Nat :=
  numbersIn space (deliveries.map (·.arrival))

theorem mem_numbersDelivered {space : PacketNumberSpace}
    {deliveries : List EcnDelivery} {number : Nat} :
    number ∈ numbersDelivered space deliveries ↔
      ∃ delivery ∈ deliveries, delivery.space = space ∧ delivery.packetNumber = number := by
  unfold numbersDelivered
  rw [mem_numbersIn, mem_map]
  simp only [EcnDelivery.arrival, Prod.mk.injEq]

theorem numbersDelivered_mono {space : PacketNumberSpace}
    {before after : List EcnDelivery} (h : before <+: after) :
    numbersDelivered space before ⊆ numbersDelivered space after := by
  intro number hnumber
  obtain ⟨delivery, hmem, hdelivery⟩ := mem_numbersDelivered.mp hnumber
  exact mem_numbersDelivered.mpr ⟨delivery, h.subset hmem, hdelivery⟩

theorem countP_or_of_disjoint {α : Type} (p q : α → Bool) (l : List α)
    (h : ∀ a ∈ l, p a → q a = false) :
    (l.countP fun a => p a || q a) = l.countP p + l.countP q := by
  induction l with
  | nil => rfl
  | cons a rest ih =>
    have hrest := ih fun b hb => h b (mem_cons_of_mem _ hb)
    have hhead := h a mem_cons_self
    rw [countP_cons, countP_cons, countP_cons, hrest]
    cases hp : p a with
    | false => simp [Nat.add_assoc]
    | true =>
      rw [hhead hp]
      simp
      omega

theorem countP_le_of_numbers {α β : Type} (f : α → Nat) (g : β → Nat)
    {p : α → Bool} {q : β → Bool} {as : List α} {bs : List β}
    (hnodup : ((as.filter p).map f).Nodup)
    (hsub : ∀ a ∈ as, p a → ∃ b ∈ bs, q b ∧ g b = f a) : as.countP p ≤ bs.countP q := by
  have hsubset : (as.filter p).map f ⊆ (bs.filter q).map g := by
    intro number hnumber
    obtain ⟨a, ha, rfl⟩ := mem_map.mp hnumber
    obtain ⟨hmem, hp⟩ := mem_filter.mp ha
    obtain ⟨b, hb, hq, heq⟩ := hsub a hmem hp
    exact mem_map.mpr ⟨b, mem_filter.mpr ⟨hb, hq⟩, heq⟩
  have hlength := (hnodup.subperm hsubset).length_le
  rw [length_map, length_map] at hlength
  rw [countP_eq_length_filter, countP_eq_length_filter]
  exact hlength

end AsynGyanis.Quic
