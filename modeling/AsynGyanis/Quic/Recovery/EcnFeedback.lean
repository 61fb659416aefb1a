import AsynGyanis.Quic.ReceivedPacketNumbers
import AsynGyanis.Quic.Recovery.Resolution

/-!
# What ECN validation compares

Two totals per space feed the verdict on a frame's ECN counts: how many
marked packets were sent, and the counts of the last frame that passed. The
verdict also needs the packets the frame newly acknowledges. Everything
else the recovery layer does moves neither total. It only takes packets out
of the maps, and `KeepsEcnBasis` says so once for all of it.

An ACK frame is then three steps: the packets it covers leave the map, its
counts are judged, and what the judgement cannot see is concluded.
`DisablesEcn` is the step in the middle going from a working state to a
failed one.
-/

namespace AsynGyanis.Quic.QuicRecovery

open Library PerSpace List

/-- The totals stand and no packet enters a map. -/
structure KeepsEcnBasis (recovery recovery' : QuicRecovery) : Prop where
  sentTotals : recovery'.ecnMarkedSentTotals = recovery.ecnMarkedSentTotals
  reported : recovery'.ecnReportedCounts = recovery.ecnReportedCounts
  largest : ∀ space, (recovery'.spaces.get space).largestAcknowledged =
    (recovery.spaces.get space).largestAcknowledged
  unresolved : ∀ space number packet,
    (recovery'.unacknowledgedOf space).find? number = some packet →
      (recovery.unacknowledgedOf space).find? number = some packet

namespace KeepsEcnBasis

variable {recovery recovery' recovery'' : QuicRecovery}

theorem refl (recovery : QuicRecovery) : KeepsEcnBasis recovery recovery :=
  ⟨rfl, rfl, fun _ => rfl, fun _ _ _ h => h⟩

theorem trans (h : KeepsEcnBasis recovery recovery') (h' : KeepsEcnBasis recovery' recovery'') :
    KeepsEcnBasis recovery recovery'' where
  sentTotals := h'.sentTotals.trans h.sentTotals
  reported := h'.reported.trans h.reported
  largest := fun space => (h'.largest space).trans (h.largest space)
  unresolved := fun space number packet hfind =>
    h.unresolved space number packet (h'.unresolved space number packet hfind)

theorem of_spaces (hspaces : recovery'.spaces = recovery.spaces)
    (htotals : recovery'.ecnMarkedSentTotals = recovery.ecnMarkedSentTotals)
    (hreported : recovery'.ecnReportedCounts = recovery.ecnReportedCounts) :
    KeepsEcnBasis recovery recovery' where
  sentTotals := htotals
  reported := hreported
  largest := fun space => by rw [hspaces]
  unresolved := fun space number packet hfind => by
    rw [unacknowledgedOf, hspaces] at hfind
    exact hfind

theorem setSpace {space : PacketNumberSpace} {state : RecoverySpaceState}
    (hlargest : state.largestAcknowledged = (recovery.spaces.get space).largestAcknowledged)
    (hmap : ∀ number packet, state.unacknowledged.find? number = some packet →
      (recovery.unacknowledgedOf space).find? number = some packet) :
    KeepsEcnBasis recovery (recovery.setSpace space state) where
  sentTotals := rfl
  reported := rfl
  largest := fun space' => by
    rw [QuicRecovery.setSpace, get_set]
    split
    · next heq => rw [hlargest, heq]
    · rfl
  unresolved := fun space' number packet hfind => by
    rw [unacknowledgedOf, QuicRecovery.setSpace, get_set] at hfind
    split at hfind
    · next heq =>
      rw [heq]
      exact hmap number packet hfind
    · exact hfind

theorem foldl {σ α : Type} (recoveryOf : σ → QuicRecovery) {step : σ → α → σ}
    (hstep : ∀ scan a, KeepsEcnBasis (recoveryOf scan)
      (recoveryOf (step scan a))) (l : List α) (scan : σ) :
    KeepsEcnBasis (recoveryOf scan) (recoveryOf (l.foldl step scan)) :=
  foldl_invariant (P := fun s => KeepsEcnBasis (recoveryOf scan)
    (recoveryOf s)) (fun s a h => h.trans (hstep s a)) l scan (refl _)

end KeepsEcnBasis

/-! ## The functions that keep the basis -/

variable {recovery : QuicRecovery} {space : PacketNumberSpace}
variable (acknowledgement : QuicAcknowledgementFrame)
  (packet : QuicSentPacketInfo)

theorem noteEcnMarkedResolution_keeps (recovery : QuicRecovery)
    (packet : QuicSentPacketInfo) (isLost : Bool) :
    KeepsEcnBasis recovery (recovery.noteEcnMarkedResolution packet isLost) := by
  refine .of_spaces (noteEcnMarkedResolution_spaces _ _ _) ?_ ?_
  all_goals
    unfold noteEcnMarkedResolution
    split <;> rfl

theorem resolvePacket_keeps (recovery : QuicRecovery)
    (space : PacketNumberSpace) (packet : QuicSentPacketInfo) (isLost : Bool) :
    KeepsEcnBasis recovery (recovery.resolvePacket space packet isLost) := by
  refine KeepsEcnBasis.trans ?_ (noteEcnMarkedResolution_keeps _ _ _)
  have hset : KeepsEcnBasis recovery (recovery.setSpace space
      { recovery.spaces.get space with
        unacknowledged := (recovery.spaces.get space).unacknowledged.erase
          packet.packetNumber }) := by
    refine .setSpace rfl fun number other hfind => ?_
    rw [SortedMap.find?_erase] at hfind
    split at hfind
    · cases hfind
    · exact hfind
  exact ⟨hset.sentTotals, hset.reported, hset.largest, hset.unresolved⟩

theorem judgePacket_keeps (largestAcknowledged : Nat)
    (lossDelay lostSendTime : QuicTime) (scan : LossScan) (packet : QuicSentPacketInfo) :
    KeepsEcnBasis scan.recovery (judgePacket space largestAcknowledged
      lossDelay lostSendTime scan packet).recovery := by
  unfold judgePacket
  split
  · exact resolvePacket_keeps _ _ _ _
  · exact .setSpace rfl fun _ _ hfind => hfind

theorem detectLostPackets_keeps (recovery : QuicRecovery)
    (space : PacketNumberSpace) (now : QuicTime) :
    KeepsEcnBasis recovery (recovery.detectLostPackets space now).recovery := by
  have hcleared : KeepsEcnBasis recovery (recovery.setSpace space
      { recovery.spaces.get space with lossTime := none }) :=
    .setSpace rfl fun _ _ hfind => hfind
  unfold detectLostPackets
  simp only
  split
  · exact hcleared
  rename_i largestAcknowledged _
  refine hcleared.trans (KeepsEcnBasis.foldl LossScan.recovery
    (judgePacket_keeps largestAcknowledged _ _) _
    { recovery := recovery.setSpace space { recovery.spaces.get space with lossTime := none } })

theorem extendLossGapBy_keeps (recovery : QuicRecovery) (packet : QuicSentPacketInfo) :
    KeepsEcnBasis recovery (recovery.extendLossGapBy packet) := by
  refine .of_spaces (extendLossGapBy_spaces recovery packet).1 ?_ ?_
  all_goals
    unfold extendLossGapBy
    simp only
    repeat' split
    all_goals rfl

theorem extendLossGap_keeps (recovery : QuicRecovery) (lost : List QuicSentPacketInfo) :
    KeepsEcnBasis recovery (recovery.extendLossGap lost) :=
  .foldl id extendLossGapBy_keeps lost recovery

theorem notePersistentCongestionSpan_keeps (recovery : QuicRecovery)
    (acknowledged lost : List QuicSentPacketInfo) :
    KeepsEcnBasis recovery (recovery.notePersistentCongestionSpan acknowledged lost).1 := by
  have hmarked : KeepsEcnBasis (recovery.extendLossGap lost)
      ((recovery.extendLossGap lost).markAcknowledgedInGap acknowledged) := by
    unfold markAcknowledgedInGap
    split <;> exact .of_spaces rfl rfl rfl
  refine ((extendLossGap_keeps recovery lost).trans hmarked).trans ?_
  unfold notePersistentCongestionSpan judgeLossGap
  repeat' split
  all_goals exact .of_spaces rfl rfl rfl

theorem concludeAcknowledgement_keeps (recovery : QuicRecovery)
    (space : PacketNumberSpace) (acknowledged : List QuicSentPacketInfo)
    (time : QuicTime) (isSampled : Bool) (ecnTime : Option QuicTime) :
    KeepsEcnBasis recovery (recovery.concludeAcknowledgement space
      acknowledged time isSampled ecnTime).1 :=
  (detectLostPackets_keeps recovery space time).trans (notePersistentCongestionSpan_keeps _ _ _)

theorem sampleRoundTripTime_keeps (recovery : QuicRecovery)
    (packet : QuicSentPacketInfo) (time delay : QuicTime) :
    KeepsEcnBasis recovery (recovery.sampleRoundTripTime packet time delay) := by
  refine .of_spaces ?_ ?_ ?_
  all_goals
    unfold sampleRoundTripTime updateRoundTripTime
    simp only
    repeat' split
    all_goals rfl

theorem onDeadlineReached_keeps (recovery : QuicRecovery) (now : QuicTime) :
    KeepsEcnBasis recovery (recovery.onDeadlineReached now).1 := by
  unfold onDeadlineReached
  split
  · split
    · exact .refl _
    · exact (detectLostPackets_keeps recovery _ now).trans (extendLossGap_keeps _ _)
  split
  · exact .refl _
  split
  · exact .refl _
  · exact .of_spaces rfl rfl rfl

theorem discardSpace_keeps (recovery : QuicRecovery) (space : PacketNumberSpace) :
    KeepsEcnBasis recovery (recovery.discardSpace space) := by
  have hdiscarded : KeepsEcnBasis recovery
      ((recovery.unacknowledgedPackets space).foldl discardPacket recovery) := by
    refine .foldl id (fun r packet => ?_) _ _
    refine KeepsEcnBasis.trans ?_ (noteEcnMarkedResolution_keeps _ _ _)
    exact .of_spaces rfl rfl rfl
  refine hdiscarded.trans (.setSpace rfl fun number packet hfind => ?_)
  cases hfind

/-! ## A packet enters the books -/

theorem onPacketSent_find? (recovery : QuicRecovery)
    (space other : PacketNumberSpace) (packet : QuicSentPacketInfo) (number : Nat) :
    ((recovery.onPacketSent space packet).unacknowledgedOf other).find? number =
      if other = space ∧ number = packet.packetNumber then some packet
      else (recovery.unacknowledgedOf other).find? number := by
  unfold unacknowledgedOf onPacketSent
  simp only [get_set]
  by_cases hspace : other = space
  · subst hspace
    simp only [if_pos, true_and, SortedMap.find?_insert]
  · simp only [hspace, false_and, if_false]

theorem onPacketSent_largest (recovery : QuicRecovery)
    (space other : PacketNumberSpace) (packet : QuicSentPacketInfo) :
    ((recovery.onPacketSent space packet).spaces.get other).largestAcknowledged =
      (recovery.spaces.get other).largestAcknowledged := by
  unfold onPacketSent
  simp only [get_set]
  split
  · next heq => rw [heq]
  · rfl

theorem outgoingEcnCodepoint_cases (recovery : QuicRecovery) :
    recovery.outgoingEcnCodepoint = kEcnCodepointEctZero ∨
      recovery.outgoingEcnCodepoint = kEcnCodepointNotCapable := by
  unfold outgoingEcnCodepoint
  split
  · exact .inl rfl
  · exact .inl rfl
  · exact .inr rfl

theorem onPacketSent_ectZero (recovery : QuicRecovery)
    (space other : PacketNumberSpace) {packet : QuicSentPacketInfo}
    (hmark : packet.ecnCodepoint = recovery.outgoingEcnCodepoint) :
    ((recovery.onPacketSent space packet).ecnMarkedSentTotals.get other).ectZero =
      (recovery.ecnMarkedSentTotals.get other).ectZero +
        if space = other ∧ packet.ecnCodepoint = kEcnCodepointEctZero
        then 1 else 0 := by
  unfold onPacketSent noteMarkedSent
  simp only [get_set]
  by_cases hspace : other = space
  · subst hspace
    simp only [if_pos, true_and]
    rcases outgoingEcnCodepoint_cases recovery with hzero | hnot
    · rw [if_pos (hmark.trans hzero), if_pos (hmark.trans hzero)]
    · rw [hmark, hnot]
      rfl
  · rw [if_neg hspace, if_neg fun h => hspace h.1.symm, Nat.add_zero]

/-! ## What a frame takes out -/

theorem mem_packetsInRange (hkeyed : Keyed (recovery.unacknowledgedOf space))
    {range : QuicAcknowledgementRange} {packet : QuicSentPacketInfo} :
    packet ∈ recovery.packetsInRange space range ↔
      (recovery.unacknowledgedOf space).find? packet.packetNumber =
        some packet ∧ range.Contains packet.packetNumber := by
  unfold packetsInRange
  simp only [mem_map, mem_filter, decide_eq_true_eq, Prod.exists,
    exists_eq_right, SortedMap.mem_entries_iff]
  constructor
  · rintro ⟨number, hfind, hrange⟩
    have hnumber := hkeyed number packet hfind
    subst hnumber
    exact ⟨hfind, hrange⟩
  · rintro ⟨hfind, hrange⟩
    exact ⟨_, hfind, hrange⟩

theorem foldl_acknowledgePacket_acknowledged
    (packets : List QuicSentPacketInfo) (scan : AcknowledgementScan) :
    (packets.foldl (acknowledgePacket space) scan).acknowledged = scan.acknowledged ++ packets := by
  induction packets generalizing scan with
  | nil => rw [foldl_nil, append_nil]
  | cons packet rest ih =>
    rw [foldl_cons, ih]
    simp [acknowledgePacket]

theorem acknowledgeRange_keeps (scan : AcknowledgementScan) (range : QuicAcknowledgementRange) :
    KeepsEcnBasis scan.recovery (acknowledgeRange space scan range).recovery :=
  .foldl AcknowledgementScan.recovery (fun _ _ => resolvePacket_keeps _ _ _ _) _ _

theorem acknowledgeRange_spec (scan : AcknowledgementScan)
    (hkeyed : Keyed (scan.recovery.unacknowledgedOf space)) (range : QuicAcknowledgementRange) :
    (acknowledgeRange space scan range).acknowledged =
        scan.acknowledged ++ scan.recovery.packetsInRange space range ∧
      ∀ number, range.Contains number →
        ((acknowledgeRange space scan range).recovery.unacknowledgedOf
          space).find? number = none := by
  have hacknowledged : (acknowledgeRange space scan range).acknowledged =
      scan.acknowledged ++ scan.recovery.packetsInRange space range :=
    foldl_acknowledgePacket_acknowledged _ scan
  refine ⟨hacknowledged, fun number hcontains => ?_⟩
  obtain ⟨out, htaken, hres⟩ := acknowledgeRange_resolution scan hkeyed range
  have hout : out = scan.recovery.packetsInRange space range :=
    append_cancel_left (htaken.symm.trans hacknowledged)
  rw [hres.taken, find?_eraseAll]
  split
  · rfl
  rename_i hnot
  cases hfind : (scan.recovery.unacknowledgedOf space).find? number with
  | none => rfl
  | some packet =>
    have hnumber := hkeyed number packet hfind
    refine absurd (mem_map.mpr ⟨packet, ?_, hnumber⟩) hnot
    rw [hout, mem_packetsInRange hkeyed, hnumber]
    exact ⟨hfind, hcontains⟩

theorem foldl_acknowledgeRange_spec (ranges : List QuicAcknowledgementRange)
    (scan : AcknowledgementScan) (hkeyed : Keyed (scan.recovery.unacknowledgedOf space)) :
    (∀ packet ∈ (ranges.foldl (acknowledgeRange space) scan).acknowledged,
        packet ∈ scan.acknowledged ∨ ∃ range ∈ ranges, range.Contains packet.packetNumber) ∧
      ∀ range ∈ ranges, ∀ number, range.Contains number →
        ((ranges.foldl (acknowledgeRange space)
          scan).recovery.unacknowledgedOf space).find? number = none := by
  induction ranges generalizing scan with
  | nil => exact ⟨fun packet hpacket => .inl hpacket, by simp⟩
  | cons range rest ih =>
    obtain ⟨hacknowledged, hgone⟩ := acknowledgeRange_spec scan hkeyed range
    obtain ⟨out, -, hres⟩ := acknowledgeRange_resolution scan hkeyed range
    have hkeyed' : Keyed ((acknowledgeRange space scan range).recovery.unacknowledgedOf space) := by
      rw [hres.taken]
      exact hkeyed.eraseAll out
    obtain ⟨hcovered, hleft⟩ := ih _ hkeyed'
    rw [foldl_cons]
    refine ⟨fun packet hpacket => ?_, fun other hother number hcontains => ?_⟩
    · rcases hcovered packet hpacket with hpacket | ⟨other, hother, hin⟩
      · rw [hacknowledged] at hpacket
        rcases mem_append.mp hpacket with hpacket | hpacket
        · exact .inl hpacket
        · exact .inr ⟨range, mem_cons_self, ((mem_packetsInRange hkeyed).mp hpacket).2⟩
      · exact .inr ⟨other, mem_cons_of_mem _ hother, hin⟩
    rcases mem_cons.mp hother with rfl | hother
    · -- Gone after its own range, and nothing comes back.
      have hkeeps : KeepsEcnBasis (acknowledgeRange space scan other).recovery
          (rest.foldl (acknowledgeRange space) (acknowledgeRange space scan other)).recovery :=
        .foldl AcknowledgementScan.recovery acknowledgeRange_keeps _ _
      have hnone := hgone number hcontains
      cases hfind : ((rest.foldl (acknowledgeRange space)
        (acknowledgeRange space scan other)).recovery.unacknowledgedOf space).find? number with
      | none => rfl
      | some packet =>
        rw [hkeeps.unresolved space number packet hfind] at hnone
        cases hnone
    · exact hleft other hother number hcontains

/-- The recovery state with the largest acknowledged number of a frame. -/
def raiseLargestAcknowledged (recovery : QuicRecovery)
    (space : PacketNumberSpace) (largestAcknowledged : Nat) : QuicRecovery :=
  recovery.setSpace space
    { recovery.spaces.get space with
      largestAcknowledged := some (max
        ((recovery.spaces.get space).largestAcknowledged.getD
          largestAcknowledged) largestAcknowledged) }

theorem raiseLargestAcknowledged_unacknowledgedOf (recovery : QuicRecovery)
    (space : PacketNumberSpace) (largestAcknowledged : Nat) :
    (recovery.raiseLargestAcknowledged space
      largestAcknowledged).unacknowledgedOf = recovery.unacknowledgedOf :=
  setSpace_unacknowledgedOf recovery rfl

theorem raiseLargestAcknowledged_self (recovery : QuicRecovery)
    (space : PacketNumberSpace) (largestAcknowledged : Nat) :
    ∃ largest, ((recovery.raiseLargestAcknowledged space
        largestAcknowledged).spaces.get space).largestAcknowledged =
          some largest ∧ largestAcknowledged ≤ largest := by
  unfold raiseLargestAcknowledged setSpace
  rw [get_set_self]
  exact ⟨_, rfl, Nat.le_max_right _ _⟩

theorem raiseLargestAcknowledged_mono (recovery : QuicRecovery)
    (space other : PacketNumberSpace) (largestAcknowledged : Nat)
    {largest : Nat} (h : (recovery.spaces.get other).largestAcknowledged = some largest) :
    ∃ largest', ((recovery.raiseLargestAcknowledged space
        largestAcknowledged).spaces.get other).largestAcknowledged =
          some largest' ∧ largest ≤ largest' := by
  unfold raiseLargestAcknowledged setSpace
  simp only [get_set]
  split
  · next heq =>
    refine ⟨_, rfl, ?_⟩
    rw [← heq, h]
    exact Nat.le_max_left _ _
  · exact ⟨largest, h, Nat.le_refl _⟩

theorem removeAcknowledged_keeps (recovery : QuicRecovery) (space : PacketNumberSpace)
    (acknowledgement : QuicAcknowledgementFrame) :
    KeepsEcnBasis (recovery.raiseLargestAcknowledged space
        acknowledgement.largestAcknowledgedPacketNumber)
      (recovery.removeAcknowledged space acknowledgement).recovery :=
  .foldl AcknowledgementScan.recovery acknowledgeRange_keeps acknowledgement.ranges.reverse
    { recovery := recovery.raiseLargestAcknowledged space
        acknowledgement.largestAcknowledgedPacketNumber }

/-- The frame reports packets of the map it covers, and covers nothing that
is left. -/
theorem removeAcknowledged_spec (hkeyed : Keyed (recovery.unacknowledgedOf space))
    (acknowledgement : QuicAcknowledgementFrame) :
    (∀ packet ∈ (recovery.removeAcknowledged space acknowledgement).acknowledged,
        acknowledgement.Covers packet.packetNumber) ∧
      ∀ number, acknowledgement.Covers number →
        ((recovery.removeAcknowledged space
          acknowledgement).recovery.unacknowledgedOf space).find? number =
            none := by
  have hraised : Keyed ((recovery.raiseLargestAcknowledged space
      acknowledgement.largestAcknowledgedPacketNumber).unacknowledgedOf space) := by
    rw [raiseLargestAcknowledged_unacknowledgedOf]
    exact hkeyed
  obtain ⟨hcovered, hgone⟩ := foldl_acknowledgeRange_spec acknowledgement.ranges.reverse
    { recovery := recovery.raiseLargestAcknowledged space
        acknowledgement.largestAcknowledgedPacketNumber } hraised
  refine ⟨fun packet hpacket => ?_, fun number hcovers => ?_⟩
  · rcases hcovered packet hpacket with hpacket | ⟨range, hrange, hin⟩
    · cases hpacket
    · exact ⟨range, mem_reverse.mp hrange, hin⟩
  · obtain ⟨range, hrange, hin⟩ := hcovers
    exact hgone range (mem_reverse.mpr hrange) number hin

/-! ## The verdict -/

/-- What the counts of a frame have to show to pass. -/
structure EcnCountsAgree (recovery : QuicRecovery)
    (space : PacketNumberSpace) (reported : QuicEcnCounts)
    (acknowledged : List QuicSentPacketInfo) : Prop where
  ectZeroKept : (recovery.ecnReportedCounts.get space).ectZero ≤ reported.ectZero
  ectOneKept : (recovery.ecnReportedCounts.get space).ectOne ≤ reported.ectOne
  ceKept : (recovery.ecnReportedCounts.get space).ce ≤ reported.ce
  coversEctZero : (acknowledged.countP fun packet =>
      packet.ecnCodepoint = kEcnCodepointEctZero) ≤
    reported.ectZero - (recovery.ecnReportedCounts.get space).ectZero +
      (reported.ce - (recovery.ecnReportedCounts.get space).ce)
  coversEctOne : (acknowledged.countP fun packet =>
      packet.ecnCodepoint = kEcnCodepointEctOne) ≤
    reported.ectOne - (recovery.ecnReportedCounts.get space).ectOne +
      (reported.ce - (recovery.ecnReportedCounts.get space).ce)
  ectZeroSent : reported.ectZero ≤ (recovery.ecnMarkedSentTotals.get space).ectZero
  ectOneSent : reported.ectOne ≤ (recovery.ecnMarkedSentTotals.get space).ectOne

theorem EcnCountsAgree.congr {recovery recovery' : QuicRecovery}
    {reported : QuicEcnCounts} {acknowledged : List QuicSentPacketInfo}
    (h : EcnCountsAgree recovery space reported acknowledged)
    (htotals : recovery'.ecnMarkedSentTotals = recovery.ecnMarkedSentTotals)
    (hreported : recovery'.ecnReportedCounts = recovery.ecnReportedCounts) :
    EcnCountsAgree recovery' space reported acknowledged where
  ectZeroKept := by rw [hreported]; exact h.ectZeroKept
  ectOneKept := by rw [hreported]; exact h.ectOneKept
  ceKept := by rw [hreported]; exact h.ceKept
  coversEctZero := by rw [hreported]; exact h.coversEctZero
  coversEctOne := by rw [hreported]; exact h.coversEctOne
  ectZeroSent := by rw [htotals]; exact h.ectZeroSent
  ectOneSent := by rw [htotals]; exact h.ectOneSent

theorem validateEcnCounts_passes {reported : QuicEcnCounts} {acknowledged : List QuicSentPacketInfo}
    (h : EcnCountsAgree recovery space reported acknowledged) (sentTime : Option QuicTime) :
    let verdict := recovery.validateEcnCounts space reported
      (acknowledged.countP fun packet =>
        packet.ecnCodepoint = kEcnCodepointEctZero)
      (acknowledged.countP fun packet =>
        packet.ecnCodepoint = kEcnCodepointEctOne) sentTime
    (verdict.1.ecnState = .failed → recovery.ecnState = .failed) ∧
      verdict.1.spaces = recovery.spaces ∧
      verdict.1.ecnMarkedSentTotals = recovery.ecnMarkedSentTotals ∧
      verdict.1.ecnReportedCounts = recovery.ecnReportedCounts.set space reported := by
  have hkept : ¬ (reported.ectZero < (recovery.ecnReportedCounts.get space).ectZero ∨
      reported.ectOne < (recovery.ecnReportedCounts.get space).ectOne ∨
      reported.ce < (recovery.ecnReportedCounts.get space).ce) := by
    have hzero := h.ectZeroKept
    have hone := h.ectOneKept
    have hce := h.ceKept
    omega
  unfold validateEcnCounts
  simp only [if_neg hkept]
  rw [if_neg]
  · refine ⟨fun hfailed => ?_, rfl, rfl, rfl⟩
    split at hfailed
    · cases hfailed
    · exact hfailed
  · rintro (huncovered | hexceeds)
    · exact huncovered ⟨h.coversEctZero, h.coversEctOne⟩
    · exact hexceeds ⟨h.ectZeroSent, h.ectOneSent⟩

/-- The state in which `onAcknowledgementReceived` turns to the ECN counts:
the covered packets are out and the round trip is sampled. -/
def beforeEcnFeedback (recovery : QuicRecovery) (space : PacketNumberSpace)
    (acknowledgement : QuicAcknowledgementFrame) (time delay : QuicTime) :
    QuicRecovery :=
  let scan := recovery.removeAcknowledged space acknowledgement
  match scan.largestAcknowledgedPacket with
  | none => scan.recovery
  | some packet =>
    if isRoundTripSample acknowledgement scan.acknowledged packet then
      scan.recovery.sampleRoundTripTime packet time delay
    else scan.recovery

/-- What `processEcnFeedback` is told and answers there. -/
def afterEcnFeedback (recovery : QuicRecovery) (space : PacketNumberSpace)
    (acknowledgement : QuicAcknowledgementFrame) (time delay : QuicTime) :
    QuicRecovery × Option QuicTime :=
  let scan := recovery.removeAcknowledged space acknowledgement
  (recovery.beforeEcnFeedback space acknowledgement time
    delay).processEcnFeedback space acknowledgement scan.acknowledged
      (scan.largestAcknowledgedPacket.map (·.timeSent))
      (scan.largestAcknowledgedPacket.isSome &&
        recovery.increasesLargestAcknowledged space acknowledgement)

/-- Nothing but the counts of the frame is behind the failure. -/
def DisablesEcn (recovery : QuicRecovery) (space : PacketNumberSpace)
    (acknowledgement : QuicAcknowledgementFrame) (time delay : QuicTime) :
    Prop :=
  (recovery.beforeEcnFeedback space acknowledgement time delay).ecnState ≠ .failed ∧
    (recovery.afterEcnFeedback space acknowledgement time delay).1.ecnState = .failed

instance (recovery : QuicRecovery) (space : PacketNumberSpace)
    (acknowledgement : QuicAcknowledgementFrame) (time delay : QuicTime) :
    Decidable (recovery.DisablesEcn space acknowledgement time delay) :=
  inferInstanceAs (Decidable (_ ∧ _))

theorem onAcknowledgementReceived_eq (recovery : QuicRecovery)
    (space : PacketNumberSpace) (acknowledgement : QuicAcknowledgementFrame)
    (time delay : QuicTime) :
    let scan := recovery.removeAcknowledged space acknowledgement
    let feedback := recovery.afterEcnFeedback space acknowledgement time delay
    recovery.onAcknowledgementReceived space acknowledgement time delay =
      match scan.largestAcknowledgedPacket with
      | none => feedback.1.concludeAcknowledgement space scan.acknowledged time false feedback.2
      | some packet =>
        let concluded := feedback.1.concludeAcknowledgement space scan.acknowledged time
          (isRoundTripSample acknowledgement scan.acknowledged packet)
          feedback.2
        ({ concluded.1 with probeBackoffExponent := 0 }, concluded.2) := by
  unfold onAcknowledgementReceived afterEcnFeedback beforeEcnFeedback
  cases hlargest :
    (recovery.removeAcknowledged space acknowledgement).largestAcknowledgedPacket with
  | none => simp only [hlargest, Option.map_none, Option.isSome_none, Bool.false_and]
  | some packet => simp only [hlargest, Option.map_some, Option.isSome_some, Bool.true_and]

theorem onAcknowledgementReceived_keeps (recovery : QuicRecovery)
    (space : PacketNumberSpace) (acknowledgement : QuicAcknowledgementFrame)
    (time delay : QuicTime) :
    KeepsEcnBasis (recovery.afterEcnFeedback space acknowledgement time delay).1
      (recovery.onAcknowledgementReceived space acknowledgement time delay).1 := by
  rw [onAcknowledgementReceived_eq]
  split
  · exact concludeAcknowledgement_keeps _ _ _ _ _ _
  · exact (concludeAcknowledgement_keeps _ _ _ _ _ _).trans (.of_spaces rfl rfl rfl)

theorem beforeEcnFeedback_keeps (recovery : QuicRecovery)
    (space : PacketNumberSpace) (acknowledgement : QuicAcknowledgementFrame)
    (time delay : QuicTime) :
    KeepsEcnBasis (recovery.removeAcknowledged space acknowledgement).recovery
      (recovery.beforeEcnFeedback space acknowledgement time delay) := by
  unfold beforeEcnFeedback
  simp only
  split
  · exact .refl _
  split
  · exact sampleRoundTripTime_keeps _ _ _ _
  · exact .refl _

/-- A frame with counts that agree whenever they are looked at: ECN is not
given up, and the counts become the new basis or are left aside. -/
theorem afterEcnFeedback_passes {acknowledgement : QuicAcknowledgementFrame} {time delay : QuicTime}
    (hcounts : acknowledgement.hasEcnCounts)
    (hagree : recovery.increasesLargestAcknowledged space acknowledgement →
      EcnCountsAgree recovery space acknowledgement.ecnCounts
        (recovery.removeAcknowledged space acknowledgement).acknowledged) :
    let before := recovery.beforeEcnFeedback space acknowledgement time delay
    let after := (recovery.afterEcnFeedback space acknowledgement time delay).1
    (after.ecnState = .failed → before.ecnState = .failed) ∧ after.spaces = before.spaces ∧
      after.ecnMarkedSentTotals = before.ecnMarkedSentTotals ∧
      (after.ecnReportedCounts = before.ecnReportedCounts ∨
        after.ecnReportedCounts = before.ecnReportedCounts.set space
          acknowledgement.ecnCounts) := by
  have hbasis := (removeAcknowledged_keeps recovery space acknowledgement).trans
      (beforeEcnFeedback_keeps recovery space acknowledgement time delay)
  unfold afterEcnFeedback processEcnFeedback
  simp only [hcounts, Bool.not_true, Bool.false_eq_true, if_false]
  split
  · exact ⟨id, rfl, rfl, .inl rfl⟩
  rename_i hincreases
  simp only [Bool.not_eq_true', Bool.not_eq_false, Bool.and_eq_true] at hincreases
  obtain ⟨hfailed, hspaces, htotals, hreported⟩ :=
    validateEcnCounts_passes ((hagree hincreases.2).congr hbasis.sentTotals hbasis.reported)
      (((recovery.removeAcknowledged space
        acknowledgement).largestAcknowledgedPacket).map (·.timeSent))
  exact ⟨hfailed, hspaces, htotals, .inr hreported⟩

end AsynGyanis.Quic.QuicRecovery
