import AsynGyanis.Quic.Connection.EcnExchange

/-!
# Level acknowledgements pass validation

Three accounts meet in the verdict on a frame. The sender's says which
marked packets it sent and which it still waits for. The peer's says what it
accepted, once each, and that every frame it built reports one prefix of
that: its counts are those of the prefix, and it covers what was tracked of
it. The third says that the counts last taken as a basis are those of such a
prefix too, all of it at or below the largest acknowledged number and none
of it still awaited.

A frame that raises this number was built on a longer prefix, and what it
newly acknowledges lies in the difference. So the difference of the counts
is never too small.
-/

namespace AsynGyanis.Quic

open Library QuicConnectionCore
open List PerSpace QuicReceivedPacketNumbers QuicRecovery

/-! ## The accounts -/

structure EcnSenderBooks (exchange : EcnExchange) : Prop where
  keyed : ∀ space, Keyed (exchange.recovery.unacknowledgedOf space)
  awaited : ∀ space number packet,
    (exchange.recovery.unacknowledgedOf space).find? number = some packet →
      (space, packet) ∈ exchange.sent
  numbered : (exchange.sent.map fun sent =>
    (sent.1, sent.2.packetNumber)).Nodup
  marked : ∀ sent ∈ exchange.sent, sent.2.ecnCodepoint = kEcnCodepointEctZero ∨
      sent.2.ecnCodepoint = kEcnCodepointNotCapable
  totals : ∀ space, (exchange.recovery.ecnMarkedSentTotals.get space).ectZero =
      exchange.sent.countP fun sent =>
        sent.1 = space ∧ sent.2.ecnCodepoint = kEcnCodepointEctZero

/-- The frame reports these deliveries. -/
structure AcknowledgementNote.Reports (note : AcknowledgementNote)
    (deliveries : List EcnDelivery) : Prop where
  hasCounts : note.frame.hasEcnCounts = true
  counts : note.frame.ecnCounts = ecnCountsOf note.space deliveries
  headed : note.frame.largestAcknowledgedPacketNumber ∈ numbersDelivered note.space deliveries
  greatest : ∀ number ∈ numbersDelivered note.space deliveries,
    number ≤ note.frame.largestAcknowledgedPacketNumber
  covers : ∀ number, note.frame.Covers number ↔
    number ∈ highest kQuicMaximumTrackedPacketNumbers (numbersDelivered note.space deliveries)

structure EcnPeerBooks (exchange : EcnExchange) : Prop where
  honest : ∀ delivery ∈ exchange.deliveries, ∃ packet,
    (delivery.space, packet) ∈ exchange.sent ∧ packet.packetNumber = delivery.packetNumber ∧
      EcnExchange.HonestMark packet delivery.codepoint
  once : (exchange.deliveries.map (·.arrival)).Nodup
  tracked : ∀ space, (exchange.tracked space).members = highest kQuicMaximumTrackedPacketNumbers
      (numbersDelivered space exchange.deliveries)
  counts : ∀ space, exchange.peer.receivedEcnCounts.get space =
    ecnCountsOf space exchange.deliveries
  elicited : ∀ space largest, (exchange.peer.spaceState space).largestAckElicitingReceived =
        some largest →
      exchange.peer.isEcnFieldReadable = true ∧ largest ∈ numbersDelivered space exchange.deliveries
  notes : ∀ note ∈ exchange.peer.history.acknowledgements,
    ∃ before, before <+: exchange.deliveries ∧ note.Reports before

/-- The basis of a space is what these deliveries report. -/
structure QuicRecovery.BasedOn (recovery : QuicRecovery)
    (space : PacketNumberSpace) (deliveries : List EcnDelivery) : Prop where
  counts : recovery.ecnReportedCounts.get space = ecnCountsOf space deliveries
  acknowledged : ∀ number ∈ numbersDelivered space deliveries, ∃ largest,
    (recovery.spaces.get space).largestAcknowledged = some largest ∧ number ≤ largest
  resolved : ∀ number ∈ highest kQuicMaximumTrackedPacketNumbers
      (numbersDelivered space deliveries),
    (recovery.unacknowledgedOf space).find? number = none

structure EcnBooks (exchange : EcnExchange) : Prop where
  sender : EcnSenderBooks exchange
  peer : EcnPeerBooks exchange
  basis : ∀ space, ∃ before, before <+: exchange.deliveries ∧ exchange.recovery.BasedOn space before

/-! ## The start -/

theorem QuicConnectionCore.start_ecnView (environment : QuicEnvironment)
    (configuration : QuicConnectionCoreConfiguration) :
    (∀ space,
        ((QuicConnectionCore.start environment configuration).spaceState
          space).receivedPacketNumbers = .empty ∧
        ((QuicConnectionCore.start environment configuration).spaceState
          space).largestAckElicitingReceived = none) ∧
      (QuicConnectionCore.start environment configuration).receivedEcnCounts = .replicate {} ∧
      (QuicConnectionCore.start environment configuration).history.acknowledgements = [] := by
  unfold QuicConnectionCore.start restartIdleTimer
  simp only
  repeat' split
  all_goals exact ⟨fun space => by cases space <;> exact ⟨rfl, rfl⟩, rfl, rfl⟩

theorem EcnBooks.start (environment : QuicEnvironment)
    (configuration : QuicConnectionCoreConfiguration) :
    EcnBooks (EcnExchange.start environment configuration) where
  sender := by
    refine ⟨fun space => ?_, fun space number packet hfind => ?_,
      nodup_nil, by simp [EcnExchange.start], fun space => ?_⟩
    · cases space <;> exact Keyed.empty
    · cases space <;> cases hfind
    · cases space <;> rfl
  peer := by
    obtain ⟨hspaces, hcounts, hnotes⟩ := QuicConnectionCore.start_ecnView environment configuration
    refine ⟨by simp [EcnExchange.start], nodup_nil, fun space => ?_,
      fun space => ?_, fun space largest hlargest => ?_, ?_⟩
    · rw [EcnExchange.tracked, EcnExchange.start, (hspaces space).1]
      rfl
    · rw [EcnExchange.start, hcounts, get_replicate]
      rfl
    · rw [EcnExchange.start, (hspaces space).2] at hlargest
      cases hlargest
    · rw [EcnExchange.start, hnotes]
      exact fun note hnote => absurd hnote not_mem_nil
  basis := fun space => by
    refine ⟨[], nil_prefix, ?_, fun number hnumber => ?_, fun number hnumber => ?_⟩
    · cases space <;> rfl
    · cases hnumber
    · have hmem := highest_subset _ _ hnumber
      cases hmem

/-! ## The sender moves -/

/-- A basis outlives whatever only resolves packets and raises the largest
acknowledged number. -/
theorem QuicRecovery.BasedOn.mono {recovery recovery' : QuicRecovery}
    {space : PacketNumberSpace} {deliveries : List EcnDelivery}
    (h : recovery.BasedOn space deliveries)
    (hreported : recovery'.ecnReportedCounts.get space = recovery.ecnReportedCounts.get space)
    (hlargest : ∀ largest, (recovery.spaces.get space).largestAcknowledged = some largest →
        ∃ largest', (recovery'.spaces.get space).largestAcknowledged =
          some largest' ∧ largest ≤ largest')
    (hunresolved : ∀ number packet, (recovery'.unacknowledgedOf space).find? number = some packet →
        (recovery.unacknowledgedOf space).find? number = some packet) :
    recovery'.BasedOn space deliveries where
  counts := hreported.trans h.counts
  acknowledged := fun number hnumber => by
    obtain ⟨largest, heq, hle⟩ := h.acknowledged number hnumber
    obtain ⟨largest', heq', hle'⟩ := hlargest largest heq
    exact ⟨largest', heq', Nat.le_trans hle hle'⟩
  resolved := fun number hnumber => by
    have hnone := h.resolved number hnumber
    cases hfind : (recovery'.unacknowledgedOf space).find? number with
    | none => rfl
    | some packet =>
      rw [hunresolved number packet hfind] at hnone
      cases hnone

variable {packet : QuicSentPacketInfo}

namespace EcnBooks

variable {exchange : EcnExchange}

theorem resolve (h : EcnBooks exchange) {recovery : QuicRecovery}
    (hkeeps : exchange.recovery.KeepsEcnBasis recovery) :
    EcnBooks { exchange with recovery := recovery } where
  sender :=
    { keyed := fun space number packet hfind => h.sender.keyed space number
        packet (hkeeps.unresolved space number packet hfind)
      awaited := fun space number packet hfind => h.sender.awaited space
        number packet (hkeeps.unresolved space number packet hfind)
      numbered := h.sender.numbered
      marked := h.sender.marked
      totals := fun space => by
        rw [hkeeps.sentTotals]
        exact h.sender.totals space }
  peer := ⟨h.peer.honest, h.peer.once, h.peer.tracked, h.peer.counts, h.peer.elicited, h.peer.notes⟩
  basis := fun space => by
    obtain ⟨before, hbefore, hbased⟩ := h.basis space
    refine ⟨before, hbefore, hbased.mono ?_ ?_ (hkeeps.unresolved space)⟩
    · rw [hkeeps.reported]
    · intro largest hlargest
      exact ⟨largest, (hkeeps.largest space).trans hlargest, Nat.le_refl _⟩

theorem send (h : EcnBooks exchange) {space : PacketNumberSpace}
    (hhonest : exchange.Honest (.send space packet)) :
    EcnBooks (exchange.step (.send space packet)) := by
  obtain ⟨hmark, hfresh⟩ := hhonest
  refine ⟨⟨fun other => ?_, fun other number found hfind => ?_, ?_,
    fun sent hsent => ?_, fun other => ?_⟩, ?_, fun other => ?_⟩
  · intro number found hfind
    rw [EcnExchange.step, onPacketSent_find?] at hfind
    split at hfind
    · next heq =>
      cases hfind
      exact heq.2.symm
    · exact h.sender.keyed other number found hfind
  · rw [EcnExchange.step, onPacketSent_find?] at hfind
    split at hfind
    · next heq =>
      cases hfind
      rw [heq.1]
      exact mem_append_right _ mem_cons_self
    · exact mem_append_left _ (h.sender.awaited other number found hfind)
  · rw [EcnExchange.step, map_append, nodup_append]
    refine ⟨h.sender.numbered, nodup_singleton _, ?_⟩
    intro a ha b hb heq
    rw [map_singleton, mem_singleton] at hb
    rw [heq, hb] at ha
    exact hfresh ha
  · rcases mem_append.mp hsent with hsent | hsent
    · exact h.sender.marked sent hsent
    · rw [mem_singleton.mp hsent, hmark]
      exact exchange.recovery.outgoingEcnCodepoint_cases
  · rw [EcnExchange.step, onPacketSent_ectZero _ _ _ hmark,
      h.sender.totals, countP_append, countP_singleton]
    simp
  · refine ⟨fun delivery hdelivery => ?_, h.peer.once, h.peer.tracked,
      h.peer.counts, h.peer.elicited, h.peer.notes⟩
    obtain ⟨sent, hsent, hnumber, hhonest⟩ := h.peer.honest delivery hdelivery
    exact ⟨sent, mem_append_left _ hsent, hnumber, hhonest⟩
  · obtain ⟨before, hbefore, hbased⟩ := h.basis other
    refine ⟨before, hbefore, hbased.counts, fun number hnumber => ?_, fun number hnumber => ?_⟩
    · obtain ⟨largest, heq, hle⟩ := hbased.acknowledged number hnumber
      exact ⟨largest, (exchange.recovery.onPacketSent_largest space other packet).trans heq, hle⟩
    rw [EcnExchange.step, onPacketSent_find?, if_neg]
    · exact hbased.resolved number hnumber
    -- What was delivered was sent before, under another number.
    rintro ⟨rfl, rfl⟩
    obtain ⟨delivery, hmem, rfl, hsame⟩ := mem_numbersDelivered.mp (highest_subset _ _ hnumber)
    obtain ⟨sent, hsent, hsentNumber, -⟩ := h.peer.honest delivery (hbefore.subset hmem)
    refine hfresh (mem_map.mpr ⟨_, hsent, ?_⟩)
    rw [hsentNumber, hsame]

end EcnBooks

/-! ## The peer moves -/

namespace QuicConnectionCore

variable {peer : QuicConnectionCore} {space : PacketNumberSpace}
  {packet : QuicSentPacketInfo} {codepoint : Nat} {time now : QuicTime}

theorem noteReceivedPacket_tracked {number : Nat} (hmem : number ∈
    (peer.spaceState space).receivedPacketNumbers.members) :
    peer.noteReceivedPacket space number = (peer.noteArrival space number false, false) := by
  have hnew := insert_isNew (peer.spaceState space).receivedPacketNumbers number
  simp only [hmem, not_true_eq_false, decide_false] at hnew
  unfold noteReceivedPacket
  simp only
  split
  · rfl
  rename_i heq
  rw [heq] at hnew
  cases hnew

theorem noteReceivedPacket_untracked {number : Nat} (hnot : number ∉
    (peer.spaceState space).receivedPacketNumbers.members) :
    ∃ state : QuicSpaceState, state.receivedPacketNumbers.members =
        highest kQuicMaximumTrackedPacketNumbers (insert number
          (peer.spaceState space).receivedPacketNumbers.members) ∧
      state.largestAckElicitingReceived = (peer.spaceState space).largestAckElicitingReceived ∧
      peer.noteReceivedPacket space number =
        (({ peer with
            receivedEcnCounts :=
              match peer.incomingEcnCodepoint with
              | some codepoint => peer.receivedEcnCounts.set space
                  (countEcnMark (peer.receivedEcnCounts.get space) codepoint)
              | none => peer.receivedEcnCounts }.setSpaceState space
          state).noteArrival space number true, true) := by
  have hnew := insert_isNew (peer.spaceState space).receivedPacketNumbers number
  have hmembers := insert_members (peer.spaceState space).receivedPacketNumbers number
  simp only [hnot, not_false_eq_true, decide_true] at hnew
  unfold noteReceivedPacket
  simp only
  split
  · next heq =>
    rw [heq] at hnew
    cases hnew
  rename_i received heq
  rw [heq] at hmembers
  refine ⟨_, ?_, ?_, rfl⟩
  · rw [dropOldestUntil_members, hmembers]
  · rfl

theorem acceptMarked_refused (peer : QuicConnectionCore)
    (space : PacketNumberSpace) (packet : QuicSentPacketInfo)
    (codepoint : Nat) (time : QuicTime) (hmem : packet.packetNumber ∈
      (peer.spaceState space).receivedPacketNumbers.members) :
    let accepted := peer.acceptMarked space packet codepoint time
    accepted.2 = false ∧ accepted.1.spaces = peer.spaces ∧
      accepted.1.receivedEcnCounts = peer.receivedEcnCounts ∧
      accepted.1.isEcnFieldReadable ∧
      accepted.1.history.acknowledgements =
        peer.history.acknowledgements := by
  unfold acceptMarked
  simp only
  rw [noteReceivedPacket_tracked]
  · exact ⟨rfl, rfl, rfl, rfl, rfl⟩
  · exact hmem

/-- A number that is not tracked is counted, tracked, and heads the next ACK
if its packet asks for one. -/
theorem acceptMarked_accepted (peer : QuicConnectionCore)
    (space : PacketNumberSpace) (packet : QuicSentPacketInfo)
    (codepoint : Nat) (time : QuicTime) (hnot : packet.packetNumber ∉
      (peer.spaceState space).receivedPacketNumbers.members) :
    let accepted := peer.acceptMarked space packet codepoint time
    accepted.2 ∧ (∀ other, other ≠ space → accepted.1.spaceState other = peer.spaceState other) ∧
      (accepted.1.spaceState space).receivedPacketNumbers.members =
        highest kQuicMaximumTrackedPacketNumbers (insert packet.packetNumber
          (peer.spaceState space).receivedPacketNumbers.members) ∧
      ((accepted.1.spaceState space).largestAckElicitingReceived = some packet.packetNumber ∨
        (accepted.1.spaceState space).largestAckElicitingReceived =
          (peer.spaceState space).largestAckElicitingReceived) ∧
      accepted.1.receivedEcnCounts = peer.receivedEcnCounts.set space
        (countEcnMark (peer.receivedEcnCounts.get space) codepoint) ∧
      accepted.1.isEcnFieldReadable ∧
      accepted.1.history.acknowledgements =
        peer.history.acknowledgements := by
  obtain ⟨state, htracked, helicited, hreceived⟩ := @noteReceivedPacket_untracked
      { peer with
        incomingEcnCodepoint := some codepoint
        isEcnFieldReadable := true } space packet.packetNumber hnot
  unfold acceptMarked
  simp only
  rw [hreceived]
  cases packet.isAckEliciting with
  | true =>
    refine ⟨rfl, fun other hne => ?_, ?_, .inl ?_, rfl, rfl, rfl⟩
    · simp [noteAckEliciting, setSpaceState, noteArrival, note, spaceState, get_set_of_ne _ _ hne]
    · simpa [noteAckEliciting, setSpaceState, noteArrival, note, spaceState] using htracked
    · simp [noteAckEliciting, setSpaceState, spaceState]
  | false =>
    refine ⟨rfl, fun other hne => ?_, ?_, .inr ?_, rfl, rfl, rfl⟩
    · simp [setSpaceState, noteArrival, note, spaceState, get_set_of_ne _ _ hne]
    · simpa [setSpaceState, noteArrival, note, spaceState] using htracked
    · simpa [setSpaceState, noteArrival, note, spaceState] using helicited

theorem acknowledgePending_spec :
    let after := peer.acknowledgePending space now
    (∀ other, (after.spaceState other).receivedPacketNumbers =
        (peer.spaceState other).receivedPacketNumbers ∧
      (after.spaceState other).largestAckElicitingReceived =
        (peer.spaceState other).largestAckElicitingReceived) ∧
      after.receivedEcnCounts = peer.receivedEcnCounts ∧
      after.isEcnFieldReadable = peer.isEcnFieldReadable ∧
      (after.history.acknowledgements = peer.history.acknowledgements ∨
        ∃ largest note, (peer.spaceState space).largestAckElicitingReceived = some largest ∧
          note.space = space ∧
          note.frame = peer.acknowledgementFrameOf space largest now ∧
          after.history.acknowledgements = peer.history.acknowledgements ++ [note]) := by
  have hstates : ∀ other,
      ((peer.setSpaceState space { peer.spaceState space with
        isAcknowledgementPending := false }).spaceState other).receivedPacketNumbers =
        (peer.spaceState other).receivedPacketNumbers ∧
      ((peer.setSpaceState space { peer.spaceState space with
        isAcknowledgementPending := false }).spaceState other).largestAckElicitingReceived =
        (peer.spaceState other).largestAckElicitingReceived := by
    intro other
    unfold setSpaceState spaceState
    simp only [get_set]
    split
    · next heq =>
      rw [heq]
      exact ⟨rfl, rfl⟩
    · exact ⟨rfl, rfl⟩
  unfold acknowledgePending appendAcknowledgementIfPending
  simp only
  split
  · next largest hpending hlargest =>
    unfold PacketAssembly.appendFrame
    split
    all_goals
      refine ⟨hstates, rfl, rfl, .inr ⟨largest, _, hlargest, rfl, ?_, rfl⟩⟩
      cases space <;> rfl
  · exact ⟨hstates, rfl, rfl, .inl rfl⟩

end QuicConnectionCore

variable {note : AcknowledgementNote}

namespace EcnBooks

variable {exchange : EcnExchange}

theorem deliver (h : EcnBooks exchange) {space : PacketNumberSpace}
    {codepoint : Nat} {time : QuicTime}
    (hhonest : exchange.Honest (.deliver space packet codepoint time))
    (hlevel : exchange.KeepsUp (.deliver space packet codepoint time)) :
    EcnBooks (exchange.step (.deliver space packet codepoint time)) := by
  obtain ⟨hsent, hmark⟩ := hhonest
  unfold EcnExchange.step
  simp only
  by_cases hmem : packet.packetNumber ∈ (exchange.tracked space).members
  · obtain ⟨hrefused, hspaces, hcounts, hreadable, hnotes⟩ :=
      acceptMarked_refused exchange.peer space packet codepoint time hmem
    rw [hrefused]
    simp only [Bool.false_eq_true, if_false, append_nil]
    refine ⟨⟨h.sender.keyed, h.sender.awaited, h.sender.numbered,
      h.sender.marked, h.sender.totals⟩, ⟨h.peer.honest, h.peer.once,
      fun other => ?_, fun other => ?_, fun other largest hlargest => ?_,
      ?_⟩, h.basis⟩
    · rw [EcnExchange.tracked, spaceState, hspaces]
      exact h.peer.tracked other
    · rw [hcounts]
      exact h.peer.counts other
    · rw [spaceState, hspaces] at hlargest
      exact ⟨hreadable, (h.peer.elicited other largest hlargest).2⟩
    · rw [hnotes]
      exact h.peer.notes
  have hfresh : (space, packet.packetNumber) ∉ exchange.deliveries.map (·.arrival) :=
    fun hold => hmem (hlevel hold)
  obtain ⟨haccepted, hothers, htracked, helicited, hcounts, hreadable, hnotes⟩ :=
    acceptMarked_accepted exchange.peer space packet codepoint time hmem
  rw [haccepted]
  simp only [if_true]
  have hinitial : exchange.deliveries <+: exchange.deliveries ++
      [⟨space, packet.packetNumber, codepoint⟩] :=
    prefix_append _ _
  have hnumbers : numbersDelivered space (exchange.deliveries ++
      [⟨space, packet.packetNumber, codepoint⟩]) =
      insert packet.packetNumber (numbersDelivered space exchange.deliveries) := by
    unfold numbersDelivered
    rw [map_append, map_singleton, EcnDelivery.arrival, numbersIn_append_self]
  have hnumbersOf : ∀ other, other ≠ space →
      numbersDelivered other (exchange.deliveries ++ [⟨space, packet.packetNumber, codepoint⟩]) =
        numbersDelivered other exchange.deliveries := by
    intro other hne
    unfold numbersDelivered
    rw [map_append, map_singleton, EcnDelivery.arrival, numbersIn_append_of_ne (Ne.symm hne)]
  refine ⟨⟨h.sender.keyed, h.sender.awaited, h.sender.numbered,
    h.sender.marked, h.sender.totals⟩, ⟨fun delivery hdelivery => ?_, ?_,
    fun other => ?_, fun other => ?_, fun other largest hlargest => ?_,
    ?_⟩, fun other => ?_⟩
  · rcases mem_append.mp hdelivery with hdelivery | hdelivery
    · exact h.peer.honest delivery hdelivery
    · rw [mem_singleton.mp hdelivery]
      exact ⟨packet, hsent, rfl, hmark⟩
  · rw [map_append, nodup_append]
    refine ⟨h.peer.once, nodup_singleton _, ?_⟩
    intro a ha b hb heq
    rw [map_singleton, mem_singleton] at hb
    rw [heq, hb] at ha
    exact hfresh ha
  · by_cases hspace : other = space
    · rw [hspace, EcnExchange.tracked, htracked, hnumbers]
      have hbefore := h.peer.tracked space
      rw [EcnExchange.tracked] at hbefore
      rw [hbefore, highest_insert_highest]
    · rw [EcnExchange.tracked, hothers other hspace, hnumbersOf other hspace]
      exact h.peer.tracked other
  · by_cases hspace : other = space
    · rw [hspace, hcounts, get_set_self, h.peer.counts, ecnCountsOf_append_self]
    · rw [hcounts, get_set_of_ne _ _ hspace, h.peer.counts,
        ecnCountsOf_append_of_ne (Ne.symm hspace)]
  · refine ⟨hreadable, ?_⟩
    by_cases hspace : other = space
    · rw [hspace] at hlargest ⊢
      rw [hnumbers, Finset.mem_insert]
      rcases helicited with hnew | hold
      · rw [hnew] at hlargest
        exact .inl (Option.some.inj hlargest).symm
      · rw [hold] at hlargest
        exact .inr (h.peer.elicited space largest hlargest).2
    · rw [hothers other hspace] at hlargest
      rw [hnumbersOf other hspace]
      exact (h.peer.elicited other largest hlargest).2
  · rw [hnotes]
    intro note hnote
    obtain ⟨before, hbefore, hreports⟩ := h.peer.notes note hnote
    exact ⟨before, hbefore.trans hinitial, hreports⟩
  · obtain ⟨before, hbefore, hbased⟩ := h.basis other
    exact ⟨before, hbefore.trans hinitial, hbased⟩

theorem reports (h : EcnBooks exchange) {space : PacketNumberSpace}
    {now : QuicTime} {largest : Nat} (hlevel : exchange.KeepsUp (.acknowledge space now))
    (hlargest : (exchange.peer.spaceState space).largestAckElicitingReceived = some largest)
    (hspace : note.space = space)
    (hframe : note.frame = exchange.peer.acknowledgementFrameOf space largest now) :
    note.Reports exchange.deliveries := by
  obtain ⟨hgreatest, hruns⟩ := hlevel
  obtain ⟨hreadable, hmem⟩ := h.peer.elicited space largest hlargest
  have hbound := hgreatest largest hlargest
  rw [h.peer.tracked] at hbound
  obtain ⟨hheld, hall⟩ := mem_highest_of_bound
    (by decide : 0 < kQuicMaximumTrackedPacketNumbers) hmem hbound
  have htracked := h.peer.tracked space
  have hcounts : exchange.peer.reportedEcnCounts space =
      some (ecnCountsOf space exchange.deliveries) := by
    rw [reportedEcnCounts, hreadable, if_pos rfl, h.peer.counts]
  subst hspace
  refine ⟨?_, ?_, ?_, ?_, fun number => ?_⟩
  · rw [hframe, acknowledgementFrameOf, hcounts]
    rfl
  · rw [hframe, acknowledgementFrameOf, hcounts]
    rfl
  · rw [hframe]
    exact hmem
  · rw [hframe]
    exact hall
  rw [hframe, ← htracked]
  constructor
  · rintro ⟨range, hrange, hcontains⟩
    obtain ⟨-, -, -, hcovered⟩ := buildQuicAcknowledgementRanges_spec (.inl (htracked ▸ hheld))
    rcases hcovered range hrange number hcontains with hnumber | hnumber
    · exact hnumber
    · rw [htracked, hnumber]
      exact hheld
  intro hnumber
  obtain ⟨run, hrun, hcontains⟩ := mem_members.mp hnumber
  have hhighest : run ∈ (exchange.peer.spaceState
      note.space).receivedPacketNumbers.highestRuns := by
    unfold highestRuns
    rw [take_of_length_le, mem_reverse]
    · exact hrun
    · rw [length_reverse]
      exact hruns
  exact buildQuicAcknowledgementRanges_complete
    hhighest hcontains (hgreatest largest hlargest number hnumber)

theorem acknowledge (h : EcnBooks exchange) {space : PacketNumberSpace} {now : QuicTime}
    (hlevel : exchange.KeepsUp (.acknowledge space now)) :
    EcnBooks (exchange.step (.acknowledge space now)) := by
  obtain ⟨hstates, hcounts, hreadable, hnotes⟩ := @acknowledgePending_spec exchange.peer space now
  refine ⟨⟨h.sender.keyed, h.sender.awaited, h.sender.numbered,
    h.sender.marked, h.sender.totals⟩, ⟨h.peer.honest, h.peer.once,
    fun other => ?_, fun other => ?_, fun other largest hlargest => ?_,
    fun note hnote => ?_⟩, h.basis⟩
  · exact (congrArg members (hstates other).1).trans (h.peer.tracked other)
  · exact (congrArg (·.get other) hcounts).trans (h.peer.counts other)
  · have hbefore := h.peer.elicited other largest ((hstates other).2.symm.trans hlargest)
    exact ⟨hreadable.trans hbefore.1, hbefore.2⟩
  rcases hnotes with hsame | ⟨largest, new, hlargest, hspace, hframe, hgrown⟩
  · exact h.peer.notes note (hsame ▸ hnote)
  rw [EcnExchange.step, hgrown] at hnote
  rcases mem_append.mp hnote with hnote | hnote
  · exact h.peer.notes note hnote
  rw [mem_singleton.mp hnote]
  exact ⟨exchange.deliveries, prefix_refl _, h.reports hlevel hlargest hspace hframe⟩

end EcnBooks

/-! ## The verdict on a frame -/

namespace EcnBooks

variable {exchange : EcnExchange}

theorem sent_unique (h : EcnBooks exchange) {space : PacketNumberSpace}
    {packet' : QuicSentPacketInfo} (hpacket : (space, packet) ∈ exchange.sent)
    (hpacket' : (space, packet') ∈ exchange.sent)
    (hnumber : packet.packetNumber = packet'.packetNumber) : packet = packet' := by
  have heq := inj_on_of_nodup_map h.sender.numbered hpacket hpacket' (by simp only [hnumber])
  exact (Prod.mk.inj heq).2

theorem delivered_once (h : EcnBooks exchange) {space : PacketNumberSpace}
    {deliveries : List EcnDelivery} (hinitial : deliveries <+: exchange.deliveries)
    {p : EcnDelivery → Bool} (hspace : ∀ delivery, p delivery → delivery.space = space) :
    ((deliveries.filter p).map (·.packetNumber)).Nodup := by
  have honce : (deliveries.filter p).Pairwise fun a b =>
      a.arrival ≠ b.arrival :=
    ((pairwise_map.mp h.peer.once).sublist hinitial.sublist).filter p
  refine pairwise_map.mpr (honce.imp_of_mem ?_)
  intro a b ha hb hne heq
  refine hne ?_
  rw [EcnDelivery.arrival, EcnDelivery.arrival, heq,
    hspace a (mem_filter.mp ha).2, hspace b (mem_filter.mp hb).2]

/-- The mark a delivery was sent with: ECT(0), or none and then it has
none. -/
theorem delivered_mark (h : EcnBooks exchange) {delivery : EcnDelivery}
    (hmem : delivery ∈ exchange.deliveries) :
    ∃ packet, (delivery.space, packet) ∈ exchange.sent ∧
      packet.packetNumber = delivery.packetNumber ∧
      ((packet.ecnCodepoint = kEcnCodepointEctZero ∧
          (delivery.codepoint = kEcnCodepointEctZero ∨ delivery.codepoint = kEcnCodepointCe)) ∨
        (packet.ecnCodepoint = kEcnCodepointNotCapable ∧
          delivery.codepoint = kEcnCodepointNotCapable)) := by
  obtain ⟨packet, hsent, hnumber, hhonest⟩ := h.peer.honest delivery hmem
  refine ⟨packet, hsent, hnumber, ?_⟩
  rcases h.sender.marked _ hsent with hzero | hnot
  · refine .inl ⟨hzero, ?_⟩
    rcases hhonest with hsame | ⟨-, hce⟩
    · exact .inl (hsame.trans hzero)
    · exact .inr hce
  refine .inr ⟨hnot, ?_⟩
  rcases hhonest with hsame | ⟨hmarked, -⟩
  · exact hsame.trans hnot
  · rw [QuicSentPacketInfo.isEcnMarked, hnot] at hmarked
    cases hmarked

theorem ectOne_eq_zero (h : EcnBooks exchange) {deliveries : List EcnDelivery}
    (hinitial : deliveries <+: exchange.deliveries) (space : PacketNumberSpace) :
    (ecnCountsOf space deliveries).ectOne = 0 := by
  refine countP_eq_zero.mpr fun delivery hmem hone => ?_
  simp only [decide_eq_true_eq] at hone
  obtain ⟨packet, -, -, ⟨-, hmark | hmark⟩ | ⟨-, hmark⟩⟩ := h.delivered_mark (hinitial.subset hmem)
  all_goals
    rw [hone.2] at hmark
    cases hmark

theorem ectZero_le_sent (h : EcnBooks exchange) {deliveries : List EcnDelivery}
    (hinitial : deliveries <+: exchange.deliveries) (space : PacketNumberSpace) :
    (ecnCountsOf space deliveries).ectZero ≤
      (exchange.recovery.ecnMarkedSentTotals.get space).ectZero := by
  rw [h.sender.totals]
  refine countP_le_of_numbers (·.packetNumber) (·.2.packetNumber)
    (@delivered_once _ h space _ hinitial _ ?_) ?_
  · intro delivery hdelivery
    simp only [decide_eq_true_eq] at hdelivery
    exact hdelivery.1
  intro delivery hmem hdelivery
  simp only [decide_eq_true_eq] at hdelivery
  obtain ⟨packet, hsent, hnumber, ⟨hzero, -⟩ | ⟨-, hmark⟩⟩ :=
    h.delivered_mark (hinitial.subset hmem)
  · exact ⟨_, hsent, by simp [hdelivery.1, hzero], hnumber⟩
  · rw [hdelivery.2] at hmark
    cases hmark

/-- Packets whose numbers are among later deliveries and not among earlier
ones are no more than the marks counted in between. -/
theorem newly_delivered (h : EcnBooks exchange) {space : PacketNumberSpace}
    {before rest : List EcnDelivery} (hinitial : before ++ rest <+: exchange.deliveries)
    {packets : List QuicSentPacketInfo} (hnodup : (packets.map (·.packetNumber)).Nodup)
    (hsent : ∀ packet ∈ packets, (space, packet) ∈ exchange.sent)
    (hnew : ∀ packet ∈ packets, packet.packetNumber ∈ numbersDelivered space (before ++ rest) ∧
        packet.packetNumber ∉ numbersDelivered space before) :
    (packets.countP fun packet =>
        packet.ecnCodepoint = kEcnCodepointEctZero) ≤
      (ecnCountsOf space rest).ectZero + (ecnCountsOf space rest).ce := by
  have hapart := countP_or_of_disjoint
    (fun delivery : EcnDelivery => decide (delivery.space = space ∧
      delivery.codepoint = kEcnCodepointEctZero))
    (fun delivery => decide (delivery.space = space ∧
      delivery.codepoint = kEcnCodepointCe)) rest (by
        intro delivery _ hzero
        simp only [decide_eq_true_eq] at hzero
        simp only [hzero.2, decide_eq_false_iff_not, not_and]
        exact fun _ h => absurd h (by decide))
  refine Nat.le_trans ?_ (Nat.le_of_eq hapart)
  refine countP_le_of_numbers (·.packetNumber) (·.packetNumber) ?_ ?_
  · exact hnodup.sublist (filter_sublist.map _)
  intro packet hmem hzero
  simp only [decide_eq_true_eq] at hzero
  obtain ⟨hlater, hearlier⟩ := hnew packet hmem
  obtain ⟨delivery, hdelivery, hspace, hnumber⟩ := mem_numbersDelivered.mp hlater
  have hrest : delivery ∈ rest := by
    rcases mem_append.mp hdelivery with hdelivery | hdelivery
    · exact absurd (mem_numbersDelivered.mpr ⟨delivery, hdelivery, hspace, hnumber⟩) hearlier
    · exact hdelivery
  obtain ⟨packet', hsent', hnumber', hmark⟩ := h.delivered_mark (hinitial.subset hdelivery)
  rw [hspace] at hsent'
  have hsame := h.sent_unique hsent' (hsent packet hmem) (hnumber'.trans hnumber)
  subst hsame
  refine ⟨delivery, hrest, ?_, hnumber⟩
  rcases hmark with ⟨-, hzero' | hce⟩ | ⟨hnot, -⟩
  · simp [hspace, hzero']
  · simp [hspace, hce]
  · rw [hzero] at hnot
    cases hnot

theorem agree (h : EcnBooks exchange) {space : PacketNumberSpace} {before rest : List EcnDelivery}
    (hbased : exchange.recovery.BasedOn space before)
    (hinitial : before ++ rest <+: exchange.deliveries)
    {packets : List QuicSentPacketInfo} (hnodup : (packets.map (·.packetNumber)).Nodup)
    (hsent : ∀ packet ∈ packets, (space, packet) ∈ exchange.sent)
    (hnew : ∀ packet ∈ packets, packet.packetNumber ∈ numbersDelivered space (before ++ rest) ∧
        packet.packetNumber ∉ numbersDelivered space before) :
    exchange.recovery.EcnCountsAgree space (ecnCountsOf space (before ++ rest)) packets := by
  have hadd : ∀ p : EcnDelivery → Bool,
      (before ++ rest).countP p = before.countP p + rest.countP p :=
    fun p => countP_append
  have hcovered := h.newly_delivered hinitial hnodup hsent hnew
  have hone := h.ectOne_eq_zero hinitial space
  refine ⟨?_, ?_, ?_, ?_, ?_, h.ectZero_le_sent hinitial space, ?_⟩
  · rw [hbased.counts]
    simp only [ecnCountsOf, hadd]
    omega
  · rw [hbased.counts]
    simp only [ecnCountsOf, hadd]
    omega
  · rw [hbased.counts]
    simp only [ecnCountsOf, hadd]
    omega
  · rw [hbased.counts]
    simp only [ecnCountsOf, hadd, Nat.add_sub_cancel_left] at hcovered ⊢
    exact hcovered
  · have hnone : (packets.countP fun packet =>
        packet.ecnCodepoint = kEcnCodepointEctOne) = 0 := by
      refine countP_eq_zero.mpr fun packet hmem hmark => ?_
      simp only [decide_eq_true_eq] at hmark
      rcases h.sender.marked _ (hsent packet hmem) with hother | hother
      all_goals
        rw [hmark] at hother
        cases hother
    rw [hnone]
    exact Nat.zero_le _
  · rw [hone]
    exact Nat.zero_le _

/-- What a frame newly acknowledges when it raises the largest acknowledged
number: the basis is a shorter prefix, and none of it is among them. -/
theorem agree_of_raises (h : EcnBooks exchange) {reported : List EcnDelivery}
    (hinitial : reported <+: exchange.deliveries) (hreports : note.Reports reported)
    (hraises : exchange.recovery.increasesLargestAcknowledged note.space note.frame) :
    exchange.recovery.EcnCountsAgree note.space note.frame.ecnCounts
      (exchange.recovery.removeAcknowledged note.space note.frame).acknowledged := by
  obtain ⟨before, hbefore, hbased⟩ := h.basis note.space
  have habove : ∀ number ∈ numbersDelivered note.space before,
      number < note.frame.largestAcknowledgedPacketNumber := by
    intro number hnumber
    obtain ⟨largest, hlargest, hle⟩ := hbased.acknowledged number hnumber
    rw [increasesLargestAcknowledged, hlargest] at hraises
    exact Nat.lt_of_le_of_lt hle (of_decide_eq_true hraises)
  obtain ⟨rest, hrest⟩ : before <+: reported := by
    rcases prefix_or_prefix_of_prefix hbefore hinitial with hle | hle
    · exact hle
    -- The number that heads the frame would be in the basis.
    exact absurd (habove _ (numbersDelivered_mono hle hreports.headed)) (Nat.lt_irrefl _)
  subst hrest
  have hkeyed := h.sender.keyed note.space
  have hheld := (removeAcknowledged_resolution hkeyed note.frame).held
  obtain ⟨hcovered, -⟩ := removeAcknowledged_spec hkeyed note.frame
  rw [hreports.counts]
  refine h.agree hbased hinitial hheld.nodup (fun packet hmem => ?_) fun packet hmem => ?_
  · exact h.sender.awaited note.space _ packet (hheld.held packet hmem)
  have hin := (hreports.covers packet.packetNumber).mp (hcovered packet hmem)
  refine ⟨highest_subset _ _ hin, fun hold => ?_⟩
  have hresolved := hbased.resolved packet.packetNumber
    (mem_highest_of_subset (numbersDelivered_mono (prefix_append before rest)) hold hin)
  rw [hheld.held packet hmem] at hresolved
  cases hresolved

theorem not_disablesEcn (h : EcnBooks exchange)
    (hnote : note ∈ exchange.peer.history.acknowledgements) (time delay : QuicTime) :
    ¬ exchange.recovery.DisablesEcn note.space note.frame time delay := by
  rintro ⟨hworks, hfailed⟩
  obtain ⟨reported, hinitial, hreports⟩ := h.peer.notes note hnote
  obtain ⟨hkept, -⟩ := @afterEcnFeedback_passes
    exchange.recovery note.space note.frame time delay hreports.hasCounts
    (h.agree_of_raises hinitial hreports)
  exact hworks (hkept hfailed)

theorem receive (h : EcnBooks exchange) {time delay : QuicTime}
    (hnote : exchange.Honest (.receive note time delay)) :
    EcnBooks (exchange.step (.receive note time delay)) := by
  obtain ⟨reported, hinitial, hreports⟩ := h.peer.notes note hnote
  obtain ⟨-, hspaces, htotals, hreported⟩ := @afterEcnFeedback_passes exchange.recovery note.space
      note.frame time delay hreports.hasCounts
      (h.agree_of_raises hinitial hreports)
  have hbefore := exchange.recovery.beforeEcnFeedback_keeps note.space note.frame time delay
  have hremoved := (exchange.recovery.removeAcknowledged_keeps note.space note.frame).trans hbefore
  have hafter := exchange.recovery.onAcknowledgementReceived_keeps note.space note.frame time delay
  have hlargest : ∀ space,
      ((exchange.recovery.onAcknowledgementReceived note.space note.frame
        time delay).1.spaces.get space).largestAcknowledged =
      ((exchange.recovery.raiseLargestAcknowledged note.space
        note.frame.largestAcknowledgedPacketNumber).spaces.get space).largestAcknowledged := by
    intro space
    rw [hafter.largest, hspaces, hremoved.largest]
  have hunresolved : ∀ space number packet,
      ((exchange.recovery.onAcknowledgementReceived note.space note.frame
        time delay).1.unacknowledgedOf space).find? number = some packet →
      ((exchange.recovery.removeAcknowledged note.space
        note.frame).recovery.unacknowledgedOf space).find? number = some packet := by
    intro space number packet hfind
    have hfind := hafter.unresolved space number packet hfind
    rw [unacknowledgedOf, hspaces] at hfind
    exact hbefore.unresolved space number packet hfind
  have hshrunk : ∀ space number packet,
      ((exchange.recovery.onAcknowledgementReceived note.space note.frame
        time delay).1.unacknowledgedOf space).find? number = some packet →
      (exchange.recovery.unacknowledgedOf space).find? number = some packet := by
    intro space number packet hfind
    have hfind := (exchange.recovery.removeAcknowledged_keeps note.space
      note.frame).unresolved space number packet (hunresolved space number packet hfind)
    rw [raiseLargestAcknowledged_unacknowledgedOf] at hfind
    exact hfind
  have hkept : ∀ {space : PacketNumberSpace} {before : List EcnDelivery},
      exchange.recovery.BasedOn space before →
      (exchange.recovery.onAcknowledgementReceived note.space note.frame time
          delay).1.ecnReportedCounts.get space =
        exchange.recovery.ecnReportedCounts.get space →
      (exchange.recovery.onAcknowledgementReceived note.space note.frame time
          delay).1.BasedOn space before := by
    intro space before hbased hsame
    refine hbased.mono hsame (fun largest heq => ?_) (hshrunk space)
    rw [hlargest]
    exact exchange.recovery.raiseLargestAcknowledged_mono note.space space _ heq
  refine ⟨⟨fun space number packet hfind => h.sender.keyed space number
      packet (hshrunk space number packet hfind),
    fun space number packet hfind => h.sender.awaited space number packet
      (hshrunk space number packet hfind), h.sender.numbered,
    h.sender.marked, fun space => ?_⟩, ⟨h.peer.honest, h.peer.once,
    h.peer.tracked, h.peer.counts, h.peer.elicited, h.peer.notes⟩,
    fun space => ?_⟩
  · rw [EcnExchange.step, hafter.sentTotals, htotals, hremoved.sentTotals]
    exact h.sender.totals space
  obtain ⟨before, hinitial', hbased⟩ := h.basis space
  rcases hreported with hsame | hset
  · refine ⟨before, hinitial', hkept hbased ?_⟩
    rw [hafter.reported, hsame, hremoved.reported]
    rfl
  by_cases hspace : space = note.space
  · subst hspace
    refine ⟨reported, hinitial, ?_, fun number hnumber => ?_, fun number hnumber => ?_⟩
    · rw [EcnExchange.step, hafter.reported, hset, get_set_self]
      exact hreports.counts
    · obtain ⟨largest, heq, hle⟩ := exchange.recovery.raiseLargestAcknowledged_self note.space
          note.frame.largestAcknowledgedPacketNumber
      exact ⟨largest, (hlargest note.space).trans heq,
        Nat.le_trans (hreports.greatest number hnumber) hle⟩
    obtain ⟨-, hgone⟩ := removeAcknowledged_spec (h.sender.keyed note.space) note.frame
    have hnone := hgone number ((hreports.covers number).mpr hnumber)
    cases hfind : ((exchange.step (.receive note time
        delay)).recovery.unacknowledgedOf note.space).find? number with
    | none => rfl
    | some packet =>
      rw [hunresolved note.space number packet hfind] at hnone
      cases hnone
  · refine ⟨before, hinitial', hkept hbased ?_⟩
    rw [hafter.reported, hset, get_set_of_ne _ _ hspace, hremoved.reported]
    rfl

theorem step (h : EcnBooks exchange) {event : EcnExchangeEvent}
    (hhonest : exchange.Honest event) (hlevel : exchange.KeepsUp event) :
    EcnBooks (exchange.step event) := by
  cases event with
  | send space packet => exact h.send hhonest
  | deliver space packet codepoint time => exact h.deliver hhonest hlevel
  | acknowledge space now => exact h.acknowledge hlevel
  | receive note time delay => exact h.receive hhonest
  | deadlineReached now =>
    exact h.resolve (onDeadlineReached_keeps _ now)
  | discardSpace space =>
    exact h.resolve (discardSpace_keeps _ space)
  | handshakeConfirmed | pathChanged | disableEcn =>
    exact h.resolve (.of_spaces rfl rfl rfl)

end EcnBooks

namespace EcnExchange

variable {environment : QuicEnvironment}
  {configuration : QuicConnectionCoreConfiguration} {exchange : EcnExchange}

theorem LevelReach.books (h : LevelReach environment configuration exchange) : EcnBooks exchange :=
  h.invariant (EcnBooks.start environment configuration)
    fun _ _ hbooks hok => hbooks.step hok.1 hok.2

/-- No frame of the peer, in whatever order and however often, makes the
sender give up ECN by its counts. -/
theorem LevelReach.ecn_counts_agree (h : LevelReach environment configuration exchange) :
    ∀ note ∈ exchange.peer.history.acknowledgements, ∀ time delay,
      ¬ exchange.recovery.DisablesEcn note.space note.frame time delay :=
  fun _ hnote time delay => h.books.not_disablesEcn hnote time delay

def markedPacket (packetNumber : Nat) (isAckEliciting : Bool) : QuicSentPacketInfo where
  packetNumber := packetNumber
  byteCount := 50
  isAckEliciting := isAckEliciting
  ecnCodepoint := kEcnCodepointEctZero

/-- One packet that asks to be acknowledged, and the ACK of it. -/
def levelExchange : EcnExchange :=
  [.send .application (markedPacket 0 true),
    .deliver .application (markedPacket 0 true) kEcnCodepointEctZero 10,
    .acknowledge .application 12].foldl step
    (start plainEnvironment countedServer)

theorem levelExchange_reachable : LevelReach plainEnvironment countedServer levelExchange := by
  refine Reach.run .start _ ⟨⟨?_, trivial⟩, ⟨?_, ?_⟩, ⟨trivial, ?_⟩, trivial⟩
  · exact ⟨rfl, by decide +kernel⟩
  · exact ⟨by decide +kernel, .inl rfl⟩
  · exact fun hold => absurd hold (by decide +kernel)
  refine ⟨fun largest hlargest number hnumber => ?_, by decide +kernel⟩
  have hbound : ∀ number ∈ (levelExchange.tracked .application).members, number ≤ 0 := by
    decide +kernel
  exact Nat.le_trans (hbound number hnumber) (Nat.zero_le _)

theorem LevelReach.ecn_counts_agree_level : ∃ note ∈ levelExchange.peer.history.acknowledgements,
      ¬ levelExchange.recovery.DisablesEcn note.space note.frame 20 0 := by
  have hsome : levelExchange.peer.history.acknowledgements ≠ [] := by
    decide +kernel
  obtain ⟨note, hnote⟩ := exists_mem_of_ne_nil _ hsome
  exact ⟨note, hnote, LevelReach.ecn_counts_agree levelExchange_reachable note hnote 20 0⟩

/-- Two packets are counted, and only the first asks to be acknowledged. -/
def countedExchange : EcnExchange :=
  [.send .application (markedPacket 0 true), .send .application (markedPacket 1 false),
    .deliver .application (markedPacket 0 true) kEcnCodepointEctZero 10,
    .deliver .application (markedPacket 1 false) kEcnCodepointEctZero 11,
    .acknowledge .application 12].foldl step
    (start plainEnvironment countedServer)

def countedNote : AcknowledgementNote :=
  countedExchange.peer.history.acknowledgements.head (by decide +kernel)

/-- The sender takes the counts, and the next ACK covers the second packet
with the third. -/
def laggingExchange : EcnExchange :=
  [.receive countedNote 20 0, .send .application (markedPacket 2 true),
    .deliver .application (markedPacket 2 true) kEcnCodepointEctZero 30,
    .acknowledge .application 31].foldl step countedExchange

theorem laggingExchange_reachable : HonestReach plainEnvironment countedServer laggingExchange := by
  have hcounted : HonestReach plainEnvironment countedServer
      countedExchange := by
    refine Reach.run .start _ ⟨?_, ?_, ?_, ?_, trivial, trivial⟩
    · exact ⟨rfl, by decide +kernel⟩
    · exact ⟨rfl, by decide +kernel⟩
    · exact ⟨by decide +kernel, .inl rfl⟩
    · exact ⟨by decide +kernel, .inl rfl⟩
  refine Reach.run hcounted _ ⟨?_, ?_, ?_, trivial, trivial⟩
  · exact head_mem _
  · exact ⟨by decide +kernel, by decide +kernel⟩
  · exact ⟨by decide +kernel, .inl rfl⟩

/-- Two packets are newly acknowledged, and the counts went up by one. -/
theorem lagging_counts_disable_ecn : HonestReach plainEnvironment countedServer laggingExchange ∧
      ∃ note ∈ laggingExchange.peer.history.acknowledgements,
        laggingExchange.recovery.DisablesEcn note.space note.frame 40 0 :=
  ⟨laggingExchange_reachable, by decide +kernel⟩

end EcnExchange

end AsynGyanis.Quic
