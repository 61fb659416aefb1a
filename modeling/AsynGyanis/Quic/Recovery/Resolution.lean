import AsynGyanis.Library.Reach
import AsynGyanis.Quic.Recovery.Recovery

/-!
# Packets leaving the books

Acknowledgements, losses and discarded spaces take packets out of a space's
map. What each of them does to the map and to the byte count is the same
thing said of a different list: the packets were there, each is taken out
once, and the count goes down by their sizes. `Resolution` is that
statement; it composes, so every function of the recovery layer is the
composition of the resolutions of its parts.
-/

namespace AsynGyanis.Quic

open Library List SortedMap

variable {map : SortedMap Nat QuicSentPacketInfo}

/-- Every packet stands under its own number. -/
def Keyed (map : SortedMap Nat QuicSentPacketInfo) : Prop :=
  ∀ number packet, map.find? number = some packet → packet.packetNumber = number

theorem Keyed.empty : Keyed .empty := by
  intro number packet h
  simp at h

theorem Keyed.insert (h : Keyed map) (packet : QuicSentPacketInfo) :
    Keyed (map.insert packet.packetNumber packet) := by
  intro number other hother
  rw [find?_insert] at hother
  split at hother
  · next heq =>
    injection hother with hother
    rw [← hother, heq]
  · exact h number other hother

/-! ## Taking packets out of a map -/

def eraseAll (packets : List QuicSentPacketInfo) (map : SortedMap Nat QuicSentPacketInfo) :
    SortedMap Nat QuicSentPacketInfo :=
  packets.foldl (fun map packet => map.erase packet.packetNumber) map

def totalByteCount (packets : List QuicSentPacketInfo) : Nat := (packets.map (·.byteCount)).sum

@[simp] theorem totalByteCount_nil : totalByteCount [] = 0 := rfl

@[simp] theorem totalByteCount_cons (packet : QuicSentPacketInfo)
    (packets : List QuicSentPacketInfo) :
    totalByteCount (packet :: packets) = packet.byteCount + totalByteCount packets := rfl

theorem totalByteCount_append (packets packets' : List QuicSentPacketInfo) :
    totalByteCount (packets ++ packets') = totalByteCount packets + totalByteCount packets' := by
  simp [totalByteCount]

/-- Packets of a map, each once. -/
structure HeldPackets (packets : List QuicSentPacketInfo)
    (map : SortedMap Nat QuicSentPacketInfo) : Prop where
  nodup : (packets.map (·.packetNumber)).Nodup
  held : ∀ packet ∈ packets, map.find? packet.packetNumber = some packet

theorem HeldPackets.nil (map : SortedMap Nat QuicSentPacketInfo) : HeldPackets [] map :=
  ⟨nodup_nil, fun _ h => absurd h not_mem_nil⟩

variable {map : SortedMap Nat QuicSentPacketInfo}
variable {packets : List QuicSentPacketInfo}

theorem HeldPackets.sublist {packets' : List QuicSentPacketInfo} (h : HeldPackets packets map)
    (hsub : packets'.Sublist packets) : HeldPackets packets' map :=
  ⟨h.nodup.sublist (hsub.map _), fun packet hpacket => h.held packet (hsub.subset hpacket)⟩

theorem HeldPackets.values (h : Keyed map) : HeldPackets map.values map := by
  have hnumbers : map.values.map (·.packetNumber) = map.keys := by
    simp only [SortedMap.values, SortedMap.keys, List.map_map]
    refine List.map_congr_left fun entry hentry => ?_
    exact h entry.1 entry.2 (SortedMap.mem_entries_iff.mp hentry)
  refine ⟨hnumbers ▸ map.keys_nodup, fun packet hpacket => ?_⟩
  obtain ⟨number, hnumber⟩ := SortedMap.mem_values_iff.mp hpacket
  rw [h number packet hnumber, hnumber]

theorem find?_eraseAll_of_notMem {number : Nat} (h : number ∉ packets.map (·.packetNumber)) :
    (eraseAll packets map).find? number = map.find? number := by
  induction packets generalizing map with
  | nil => rfl
  | cons packet rest ih =>
    simp only [map_cons, mem_cons, not_or] at h
    rw [eraseAll, foldl_cons, ← eraseAll, ih h.2, find?_erase_of_ne _ h.1]

theorem find?_eraseAll_of_mem {number : Nat} (h : number ∈ packets.map (·.packetNumber)) :
    (eraseAll packets map).find? number = none := by
  induction packets generalizing map with
  | nil => simp at h
  | cons packet rest ih =>
    rw [eraseAll, foldl_cons, ← eraseAll]
    by_cases hrest : number ∈ rest.map (·.packetNumber)
    · exact ih hrest
    rw [find?_eraseAll_of_notMem hrest]
    rcases mem_cons.mp h with rfl | h
    · exact find?_erase_self _ _
    · exact absurd h hrest

theorem find?_eraseAll (packets : List QuicSentPacketInfo)
    (map : SortedMap Nat QuicSentPacketInfo) (number : Nat) :
    (eraseAll packets map).find? number =
      if number ∈ packets.map (·.packetNumber) then none
      else map.find? number := by
  split
  · next h => exact find?_eraseAll_of_mem h
  · next h => exact find?_eraseAll_of_notMem h

theorem Keyed.eraseAll (h : Keyed map) (packets : List QuicSentPacketInfo) :
    Keyed (eraseAll packets map) := by
  intro number packet hpacket
  rw [find?_eraseAll] at hpacket
  split at hpacket
  · cases hpacket
  · exact h number packet hpacket

theorem values_eraseAll_perm (h : HeldPackets packets map) :
    map.values.Perm (packets ++ (eraseAll packets map).values) := by
  induction packets generalizing map with
  | nil => exact List.Perm.refl _
  | cons packet rest ih =>
    have hnodup := nodup_cons.mp h.nodup
    have hrest : HeldPackets rest (map.erase packet.packetNumber) := by
      refine ⟨hnodup.2, fun other hother => ?_⟩
      rw [find?_erase_of_ne]
      · exact h.held other (mem_cons_of_mem _ hother)
      · intro heq
        exact hnodup.1 (mem_map.mpr ⟨other, hother, heq⟩)
    have hhead := values_erase_perm (h.held packet mem_cons_self)
    exact hhead.trans ((ih hrest).cons packet)

/-! ## Resolutions -/

namespace QuicRecovery

/-- From one state to another by taking these packets out of the space. -/
structure Resolution (recovery recovery' : QuicRecovery)
    (space : PacketNumberSpace) (packets : List QuicSentPacketInfo) :
    Prop where
  held : HeldPackets packets (recovery.unacknowledgedOf space)
  taken : recovery'.unacknowledgedOf space = eraseAll packets (recovery.unacknowledgedOf space)
  others : ∀ space', space' ≠ space →
    recovery'.unacknowledgedOf space' = recovery.unacknowledgedOf space'
  bytes : recovery'.inFlightByteCount = recovery.inFlightByteCount - totalByteCount packets

variable {recovery recovery' recovery'' : QuicRecovery}
  {space : PacketNumberSpace} {packets packets' : List QuicSentPacketInfo}
variable (packet : QuicSentPacketInfo)

theorem Resolution.nothing (space : PacketNumberSpace)
    (hmap : recovery'.unacknowledgedOf = recovery.unacknowledgedOf)
    (hbytes : recovery'.inFlightByteCount = recovery.inFlightByteCount) :
    Resolution recovery recovery' space [] where
  held := HeldPackets.nil _
  taken := congrFun hmap space
  others := fun space' _ => congrFun hmap space'
  bytes := by simp [hbytes]

theorem Resolution.refl (recovery : QuicRecovery)
    (space : PacketNumberSpace) : Resolution recovery recovery space [] := .nothing space rfl rfl

theorem Resolution.trans (h : Resolution recovery recovery' space packets)
    (h' : Resolution recovery' recovery'' space packets') :
    Resolution recovery recovery'' space (packets ++ packets') where
  held := by
    have houtside : ∀ packet ∈ packets', packet.packetNumber ∉ packets.map (·.packetNumber) := by
      intro packet hpacket hmem
      have hheld := h'.held.held packet hpacket
      rw [h.taken, find?_eraseAll_of_mem hmem] at hheld
      cases hheld
    refine ⟨?_, fun packet hpacket => ?_⟩
    · rw [map_append, nodup_append]
      refine ⟨h.held.nodup, h'.held.nodup, fun a ha b hb hab => ?_⟩
      obtain ⟨packet, hpacket, rfl⟩ := mem_map.mp hb
      exact houtside packet hpacket (hab ▸ ha)
    rcases mem_append.mp hpacket with hpacket | hpacket
    · exact h.held.held packet hpacket
    have hheld := h'.held.held packet hpacket
    rw [h.taken, find?_eraseAll_of_notMem (houtside packet hpacket)] at hheld
    exact hheld
  taken := by
    rw [h'.taken, h.taken, eraseAll, eraseAll, eraseAll, foldl_append]
  others := fun space' hne => (h'.others space' hne).trans (h.others space' hne)
  bytes := by
    rw [h'.bytes, h.bytes, totalByteCount_append]
    omega

variable (recovery)

theorem noteEcnMarkedResolution_spaces (packet : QuicSentPacketInfo) (isLost : Bool) :
    (recovery.noteEcnMarkedResolution packet isLost).spaces = recovery.spaces := by
  unfold noteEcnMarkedResolution
  split <;> rfl

theorem noteEcnMarkedResolution_inFlight (packet : QuicSentPacketInfo) (isLost : Bool) :
    (recovery.noteEcnMarkedResolution packet isLost).inFlightByteCount =
      recovery.inFlightByteCount := by
  unfold noteEcnMarkedResolution
  split <;> rfl

variable {recovery}

theorem resolvePacket_resolution {packet : QuicSentPacketInfo}
    (h : (recovery.unacknowledgedOf space).find? packet.packetNumber =
      some packet) (isLost : Bool) :
    Resolution recovery (recovery.resolvePacket space packet isLost) space [packet] where
  held := ⟨by simp, by simpa using h⟩
  taken := by
    simp [unacknowledgedOf, resolvePacket, noteEcnMarkedResolution_spaces, eraseAll]
  others := by
    intro space' hne
    simp [unacknowledgedOf, resolvePacket, noteEcnMarkedResolution_spaces,
      PerSpace.get_set_of_ne _ _ hne]
  bytes := by
    simp [resolvePacket, noteEcnMarkedResolution_inFlight]

theorem foldl_resolution {σ : Type} (recoveryOf : σ → QuicRecovery)
    (taken : σ → List QuicSentPacketInfo) {step : σ → QuicSentPacketInfo → σ}
    (hstep : ∀ scan packet,
      ((recoveryOf scan).unacknowledgedOf space).find? packet.packetNumber = some packet →
      ∃ out : List QuicSentPacketInfo, out.Sublist [packet] ∧
        taken (step scan packet) = taken scan ++ out ∧
        Resolution (recoveryOf scan) (recoveryOf (step scan packet)) space out)
    (scan : σ)
    (hheld : HeldPackets packets ((recoveryOf scan).unacknowledgedOf space)) :
    ∃ out, out.Sublist packets ∧ taken (packets.foldl step scan) = taken scan ++ out ∧
      Resolution (recoveryOf scan) (recoveryOf (packets.foldl step scan)) space out := by
  induction packets generalizing scan with
  | nil =>
    exact ⟨[], List.Sublist.refl _, (append_nil _).symm, Resolution.refl _ _⟩
  | cons packet rest ih =>
    obtain ⟨first, hfirst, htaken, hres⟩ := hstep scan packet (hheld.held packet mem_cons_self)
    have hnodup := nodup_cons.mp hheld.nodup
    have hrest : HeldPackets rest ((recoveryOf (step scan packet)).unacknowledgedOf space) := by
      refine ⟨hnodup.2, fun other hother => ?_⟩
      rw [hres.taken, find?_eraseAll_of_notMem]
      · exact hheld.held other (mem_cons_of_mem _ hother)
      intro hmem
      have hin := (hfirst.map (·.packetNumber)).subset hmem
      simp only [map_cons, map_nil, mem_singleton] at hin
      exact hnodup.1 (mem_map.mpr ⟨other, hother, hin⟩)
    obtain ⟨out, hout, htaken', hres'⟩ := ih (step scan packet) hrest
    refine ⟨first ++ out, ?_, ?_, hres.trans hres'⟩
    · exact hfirst.append hout
    · rw [foldl_cons, htaken', htaken, append_assoc]

/-! ## Losses -/

variable (recovery)

theorem setSpace_unacknowledgedOf {space : PacketNumberSpace} {state : RecoverySpaceState}
    (h : state.unacknowledged = recovery.unacknowledgedOf space) :
    (recovery.setSpace space state).unacknowledgedOf = recovery.unacknowledgedOf := by
  funext space'
  simp only [unacknowledgedOf, setSpace, PerSpace.get_set]
  split
  · next heq => rw [heq, h, unacknowledgedOf]
  · rfl

variable {recovery}

theorem judgePacket_resolution (largestAcknowledged : Nat)
    (lossDelay lostSendTime : QuicTime) (scan : LossScan) (packet : QuicSentPacketInfo)
    (h : (scan.recovery.unacknowledgedOf space).find? packet.packetNumber = some packet) :
    ∃ out : List QuicSentPacketInfo, out.Sublist [packet] ∧
      (judgePacket space largestAcknowledged lossDelay lostSendTime scan
        packet).lost = scan.lost ++ out ∧
      Resolution scan.recovery
        (judgePacket space largestAcknowledged lossDelay lostSendTime scan
          packet).recovery space out := by
  unfold judgePacket
  split
  · exact ⟨[packet], List.Sublist.refl _, rfl, resolvePacket_resolution h true⟩
  refine ⟨[], nil_sublist _, (append_nil _).symm, Resolution.nothing space ?_ rfl⟩
  exact setSpace_unacknowledgedOf scan.recovery rfl

theorem detectLostPackets_resolution
    (hkeyed : Keyed (recovery.unacknowledgedOf space)) (now : QuicTime) :
    Resolution recovery (recovery.detectLostPackets space now).recovery space
      (recovery.detectLostPackets space now).lost := by
  have hcleared : Resolution recovery
      (recovery.setSpace space { recovery.spaces.get space with lossTime := none }) space [] :=
    Resolution.nothing space (setSpace_unacknowledgedOf recovery rfl) rfl
  unfold detectLostPackets
  simp only
  split
  · exact hcleared
  rename_i largestAcknowledged hlargest
  have hheld : HeldPackets
      ((recovery.spaces.get space).unacknowledged.values.takeWhile
        fun packet => packet.packetNumber ≤ largestAcknowledged)
      ((recovery.setSpace space { recovery.spaces.get space with
        lossTime := none }).unacknowledgedOf space) := by
    rw [hcleared.taken]
    exact (HeldPackets.values hkeyed).sublist (takeWhile_sublist _)
  obtain ⟨out, -, htaken, hres⟩ := foldl_resolution LossScan.recovery
    LossScan.lost (judgePacket_resolution largestAcknowledged _ _)
    { recovery := recovery.setSpace space
        { recovery.spaces.get space with lossTime := none } } hheld
  rw [htaken]
  exact hcleared.trans hres

/-! ## What a scan finds -/

/-- Overtaken by three numbers, or sent too long ago. -/
def isOverdue (largestAcknowledged : Nat) (lostSendTime : QuicTime)
    (packet : QuicSentPacketInfo) : Bool :=
  packet.timeSent ≤ lostSendTime ∨
    largestAcknowledged ≥ packet.packetNumber + kPacketReorderingThreshold

section Scan

variable {largestAcknowledged : Nat}

theorem foldl_judgePacket (delay lostSendTime : QuicTime) (packets : List QuicSentPacketInfo)
    (scan : LossScan) :
    let overdue := isOverdue largestAcknowledged lostSendTime
    let judged := packets.foldl (judgePacket space largestAcknowledged delay lostSendTime) scan
    judged.lost = scan.lost ++ packets.filter overdue ∧
      (judged.recovery.spaces.get space).lossTime =
        ((scan.recovery.spaces.get space).lossTime.toList ++
          (packets.filter (!overdue ·)).map (·.timeSent + delay)).min? := by
  intro overdue
  induction packets generalizing scan with
  | nil =>
    refine ⟨(append_nil _).symm, ?_⟩
    cases hnone : (scan.recovery.spaces.get space).lossTime <;> simp [hnone]
  | cons packet rest ih =>
    have hiff : overdue packet = true ↔ packet.timeSent ≤ lostSendTime ∨
        largestAcknowledged ≥ packet.packetNumber + kPacketReorderingThreshold := decide_eq_true_iff
    rw [foldl_cons, judgePacket]
    by_cases hoverdue : overdue packet = true
    · rw [if_pos (hiff.mp hoverdue)]
      obtain ⟨hlost, htime⟩ := ih (LossScan.mk (scan.recovery.resolvePacket space packet true)
        (scan.lost ++ [packet]))
      refine ⟨hlost.trans (by simp [hoverdue]), htime.trans ?_⟩
      simp [hoverdue, resolvePacket, noteEcnMarkedResolution_spaces]
    · rw [if_neg (hoverdue ∘ hiff.mpr)]
      refine ⟨(ih _).1.trans (by simp [hoverdue]), (ih _).2.trans ?_⟩
      cases htime : (scan.recovery.spaces.get space).lossTime with
      | none => simp [setSpace, hoverdue, htime]
      | some lossTime => simp [setSpace, hoverdue, htime, -min?_cons, min?_cons', min_comm]

theorem takeWhile_eq_filter {α : Type} {p : α → Bool} {l : List α}
    (h : l.Pairwise fun a b => p b = true → p a = true) : l.takeWhile p = l.filter p := by
  induction l with
  | nil => rfl
  | cons a rest ih =>
    rw [takeWhile_cons, filter_cons, ih h.tail]
    split
    · rfl
    · next hstop =>
      exact (filter_eq_nil_iff.mpr fun b hb hkept => hstop (rel_of_pairwise_cons h hb hkept)).symm

/-- Of the packets not resolved that an acknowledged one has overtaken, the
overdue are lost and no other, however early the scan stops. The timer is
set for the time when the first of the others will be, which is to come. -/
theorem detectLostPackets_exact (hkeyed : Keyed (recovery.unacknowledgedOf space))
    (hlargest : (recovery.spaces.get space).largestAcknowledged = some largestAcknowledged)
    (now : QuicTime) :
    let overdue := isOverdue largestAcknowledged (now - recovery.lossDelay)
    let overtaken := (recovery.unacknowledgedPackets space).filter
      (·.packetNumber ≤ largestAcknowledged)
    let scan := recovery.detectLostPackets space now
    let lossTime := (scan.recovery.spaces.get space).lossTime
    scan.lost = overtaken.filter overdue ∧
      lossTime = ((overtaken.filter (!overdue ·)).map (·.timeSent + recovery.lossDelay)).min? ∧
      ∀ time ∈ lossTime, now < time := by
  intro overdue overtaken scan lossTime
  have hstops : (recovery.unacknowledgedPackets space).takeWhile
      (·.packetNumber ≤ largestAcknowledged) = overtaken := by
    refine takeWhile_eq_filter (pairwise_map.mpr ?_)
    refine (recovery.unacknowledgedOf space).sorted.imp_of_mem fun ha hb hlt hbehind => ?_
    rw [hkeyed _ _ (mem_entries_iff.mp hb), decide_eq_true_iff] at hbehind
    rw [hkeyed _ _ (mem_entries_iff.mp ha), decide_eq_true_iff]
    omega
  have hscan : scan = overtaken.foldl (judgePacket space largestAcknowledged recovery.lossDelay
      (now - recovery.lossDelay)) (LossScan.mk (recovery.setSpace space
        { recovery.spaces.get space with lossTime := none }) []) := by
    rw [← hstops]
    show recovery.detectLostPackets space now = _
    unfold detectLostPackets
    simp only [hlargest]
    rfl
  obtain ⟨hlost, htime⟩ := foldl_judgePacket recovery.lossDelay (now - recovery.lossDelay)
    overtaken (LossScan.mk (recovery.setSpace space
      { recovery.spaces.get space with lossTime := none }) [])
  rw [← hscan] at hlost htime
  have hfirst : lossTime =
      ((overtaken.filter (!overdue ·)).map (·.timeSent + recovery.lossDelay)).min? := by
    simpa [setSpace] using htime
  refine ⟨hlost, hfirst, fun time hmem => ?_⟩
  rw [hfirst] at hmem
  obtain ⟨packet, hpacket, rfl⟩ := mem_map.mp (min?_mem hmem)
  have hlater := (mem_filter.mp hpacket).2
  simp only [overdue, isOverdue, Bool.not_eq_true', decide_eq_false_iff_not, not_or] at hlater
  exact sub_lt_iff_lt_add.mp (not_le.mp hlater.1)

def overtakenRecovery : QuicRecovery := setSpace {} .initial
  { unacknowledged := (SortedMap.empty.insert 0 {}).insert 2 { packetNumber := 2 }
    largestAcknowledged := some 3 }

theorem detectLostPackets_exact_overtaken :
    (overtakenRecovery.detectLostPackets .initial 0).lost = [{}] :=
  (@detectLostPackets_exact overtakenRecovery .initial 3
    ((Keyed.empty.insert {}).insert { packetNumber := 2 }) rfl 0).1

end Scan

/-! ## Acknowledgements -/

theorem acknowledgePacket_resolution (scan : AcknowledgementScan) (packet : QuicSentPacketInfo)
    (h : (scan.recovery.unacknowledgedOf space).find? packet.packetNumber = some packet) :
    ∃ out : List QuicSentPacketInfo, out.Sublist [packet] ∧
      (acknowledgePacket space scan packet).acknowledged = scan.acknowledged ++ out ∧
      Resolution scan.recovery (acknowledgePacket space scan packet).recovery space out :=
  ⟨[packet], List.Sublist.refl _, rfl, resolvePacket_resolution h false⟩

theorem packetsInRange_held (hkeyed : Keyed (recovery.unacknowledgedOf space))
    (range : QuicAcknowledgementRange) :
    HeldPackets (recovery.packetsInRange space range) (recovery.unacknowledgedOf space) :=
  (HeldPackets.values hkeyed).sublist ((filter_sublist).map _)

theorem acknowledgeRange_resolution (scan : AcknowledgementScan)
    (hkeyed : Keyed (scan.recovery.unacknowledgedOf space)) (range : QuicAcknowledgementRange) :
    ∃ out, (acknowledgeRange space scan range).acknowledged = scan.acknowledged ++ out ∧
      Resolution scan.recovery (acknowledgeRange space scan range).recovery space out := by
  obtain ⟨out, -, htaken, hres⟩ := foldl_resolution
    AcknowledgementScan.recovery AcknowledgementScan.acknowledged
    acknowledgePacket_resolution scan (packetsInRange_held hkeyed range)
  exact ⟨out, htaken, hres⟩

theorem foldl_acknowledgeRange_resolution
    (ranges : List QuicAcknowledgementRange) (scan : AcknowledgementScan)
    (hkeyed : Keyed (scan.recovery.unacknowledgedOf space)) :
    ∃ out, (ranges.foldl (acknowledgeRange space) scan).acknowledged = scan.acknowledged ++ out ∧
      Resolution scan.recovery (ranges.foldl (acknowledgeRange space) scan).recovery space out := by
  induction ranges generalizing scan with
  | nil => exact ⟨[], (append_nil _).symm, Resolution.refl _ _⟩
  | cons range rest ih =>
    obtain ⟨first, htaken, hres⟩ := acknowledgeRange_resolution scan hkeyed range
    have hkeyed' : Keyed ((acknowledgeRange space scan range).recovery.unacknowledgedOf space) := by
      rw [hres.taken]
      exact hkeyed.eraseAll first
    obtain ⟨out, htaken', hres'⟩ := ih _ hkeyed'
    refine ⟨first ++ out, ?_, hres.trans hres'⟩
    rw [foldl_cons, htaken', htaken, append_assoc]

theorem removeAcknowledged_resolution (hkeyed : Keyed (recovery.unacknowledgedOf space))
    (acknowledgement : QuicAcknowledgementFrame) :
    Resolution recovery (recovery.removeAcknowledged space acknowledgement).recovery space
      (recovery.removeAcknowledged space acknowledgement).acknowledged := by
  unfold removeAcknowledged
  simp only
  generalize hstate : ({ recovery.spaces.get space with
    largestAcknowledged := some (max
      ((recovery.spaces.get space).largestAcknowledged.getD
        acknowledgement.largestAcknowledgedPacketNumber)
      acknowledgement.largestAcknowledgedPacketNumber) } :
    RecoverySpaceState) = state
  have hmap : (recovery.setSpace space state).unacknowledgedOf =
      recovery.unacknowledgedOf :=
    setSpace_unacknowledgedOf recovery (by rw [← hstate]; rfl)
  obtain ⟨out, htaken, hres⟩ := foldl_acknowledgeRange_resolution
    acknowledgement.ranges.reverse { recovery := recovery.setSpace space state }
    (by
      rw [hmap]
      exact hkeyed)
  rw [htaken]
  exact (Resolution.nothing space hmap rfl).trans hres

variable (recovery)

theorem processEcnFeedback_resolution
    (space : PacketNumberSpace) (acknowledgement : QuicAcknowledgementFrame)
    (acknowledged : List QuicSentPacketInfo)
    (sentTime : Option QuicTime) (increasesLargest : Bool) :
    Resolution recovery (recovery.processEcnFeedback space acknowledgement
      acknowledged sentTime increasesLargest).1 space [] := by
  refine Resolution.nothing space ?_ ?_
  all_goals
    unfold processEcnFeedback validateEcnCounts
    simp only
    repeat' split
    all_goals rfl

variable {recovery}

theorem sampleRoundTripTime_resolution (time delay : QuicTime) :
    Resolution recovery (recovery.sampleRoundTripTime packet time delay) space [] := by
  refine Resolution.nothing space ?_ ?_
  all_goals
    unfold sampleRoundTripTime updateRoundTripTime
    simp only
    repeat' split
    all_goals rfl

variable (recovery)

theorem extendLossGapBy_spaces (packet : QuicSentPacketInfo) :
    (recovery.extendLossGapBy packet).spaces = recovery.spaces ∧
      (recovery.extendLossGapBy packet).inFlightByteCount = recovery.inFlightByteCount := by
  unfold extendLossGapBy
  simp only
  repeat' split
  all_goals exact ⟨rfl, rfl⟩

theorem extendLossGap_resolution (space : PacketNumberSpace) (lost : List QuicSentPacketInfo) :
    Resolution recovery (recovery.extendLossGap lost) space [] := by
  have hsame : (recovery.extendLossGap lost).spaces = recovery.spaces ∧
      (recovery.extendLossGap lost).inFlightByteCount =
        recovery.inFlightByteCount := by
    refine foldl_invariant (P := fun r : QuicRecovery =>
      r.spaces = recovery.spaces ∧
        r.inFlightByteCount = recovery.inFlightByteCount) ?_ lost recovery
      ⟨rfl, rfl⟩
    intro r packet hr
    have hstep := extendLossGapBy_spaces r packet
    exact ⟨hstep.1.trans hr.1, hstep.2.trans hr.2⟩
  refine Resolution.nothing space ?_ hsame.2
  funext space'
  rw [unacknowledgedOf, hsame.1, unacknowledgedOf]

variable {recovery}

theorem markAcknowledgedInGap_resolution (acknowledged : List QuicSentPacketInfo) :
    Resolution recovery (recovery.markAcknowledgedInGap acknowledged) space [] := by
  unfold markAcknowledgedInGap
  split <;> exact Resolution.nothing space rfl rfl

theorem judgeLossGap_resolution : Resolution recovery recovery.judgeLossGap.1 space [] := by
  refine Resolution.nothing space ?_ ?_
  all_goals
    unfold judgeLossGap
    repeat' split
    all_goals rfl

theorem concludeAcknowledgement_resolution (hkeyed : Keyed (recovery.unacknowledgedOf space))
    (acknowledged : List QuicSentPacketInfo) (time : QuicTime)
    (isSampled : Bool) (ecnTime : Option QuicTime) :
    Resolution recovery
      (recovery.concludeAcknowledgement space acknowledged time isSampled ecnTime).1 space
      (recovery.concludeAcknowledgement space acknowledged time isSampled ecnTime).2.lost := by
  have hlost := detectLostPackets_resolution hkeyed time
  have hgap := ((extendLossGap_resolution (recovery.detectLostPackets space time).recovery space
      (recovery.detectLostPackets space time).lost).trans
    (markAcknowledgedInGap_resolution acknowledged)).trans
    judgeLossGap_resolution
  have hboth := hlost.trans hgap
  simpa [concludeAcknowledgement, notePersistentCongestionSpan] using hboth

/-- One ACK frame takes out what it reports, acknowledged and lost. -/
theorem onAcknowledgementReceived_resolution (hkeyed : Keyed (recovery.unacknowledgedOf space))
    (acknowledgement : QuicAcknowledgementFrame) (time delay : QuicTime) :
    Resolution recovery (recovery.onAcknowledgementReceived space acknowledgement time delay).1
      space
      ((recovery.onAcknowledgementReceived space acknowledgement time delay).2.acknowledged ++
        (recovery.onAcknowledgementReceived space acknowledgement time delay).2.lost) := by
  have hremoved := removeAcknowledged_resolution hkeyed acknowledgement
  have hkeyed' : Keyed ((recovery.removeAcknowledged space
      acknowledgement).recovery.unacknowledgedOf space) := by
    rw [hremoved.taken]
    exact hkeyed.eraseAll _
  have hfollow : ∀ {r : QuicRecovery}, Resolution
      (recovery.removeAcknowledged space acknowledgement).recovery r space
        [] → Keyed (r.unacknowledgedOf space) := by
    intro r hr
    rw [hr.taken]
    exact hkeyed'.eraseAll _
  unfold onAcknowledgementReceived
  simp only
  split
  · have hecn := processEcnFeedback_resolution
      (recovery.removeAcknowledged space acknowledgement).recovery space
      acknowledgement
      (recovery.removeAcknowledged space acknowledgement).acknowledged none
      false
    have hconcluded := concludeAcknowledgement_resolution (hfollow hecn)
      (recovery.removeAcknowledged space acknowledgement).acknowledged time
      false none
    exact hremoved.trans (hecn.trans hconcluded)
  rename_i packet hpacket
  have hsampled : Resolution (recovery.removeAcknowledged space acknowledgement).recovery
      (if isRoundTripSample acknowledgement
          (recovery.removeAcknowledged space acknowledgement).acknowledged
          packet then
        (recovery.removeAcknowledged space
          acknowledgement).recovery.sampleRoundTripTime packet time delay
      else (recovery.removeAcknowledged space acknowledgement).recovery)
      space [] := by
    split
    · exact sampleRoundTripTime_resolution packet time delay
    · exact Resolution.refl _ _
  have hecn := hsampled.trans (processEcnFeedback_resolution _ space acknowledgement
    (recovery.removeAcknowledged space acknowledgement).acknowledged
    (some packet.timeSent)
    (recovery.increasesLargestAcknowledged space acknowledgement))
  have hconcluded := concludeAcknowledgement_resolution (hfollow hecn)
    (recovery.removeAcknowledged space acknowledgement).acknowledged time
  -- neither the sample nor the ECN time touches what is reported lost
  have hboth := hremoved.trans (hecn.trans (hconcluded false none))
  exact ⟨hboth.held, hboth.taken, hboth.others, hboth.bytes⟩

/-! ## Timers and discarded spaces -/

theorem onDeadlineReached_resolution (hkeyed : ∀ space, Keyed (recovery.unacknowledgedOf space))
    (now : QuicTime) :
    Resolution recovery (recovery.onDeadlineReached now).1
      (recovery.onDeadlineReached now).2.lostSpace
      (recovery.onDeadlineReached now).2.lost := by
  unfold onDeadlineReached
  split
  · next lossTime lossSpace hloss =>
    split
    · exact Resolution.refl _ _
    have hboth := (detectLostPackets_resolution (hkeyed lossSpace) now).trans
      (extendLossGap_resolution (recovery.detectLostPackets lossSpace now).recovery lossSpace
        (recovery.detectLostPackets lossSpace now).lost)
    rw [append_nil] at hboth
    exact hboth
  · split
    · exact Resolution.refl _ _
    split
    · exact Resolution.refl _ _
    · exact Resolution.nothing _ rfl rfl

theorem foldl_discardPacket (packets : List QuicSentPacketInfo) (recovery : QuicRecovery) :
    (packets.foldl discardPacket recovery).spaces = recovery.spaces ∧
      (packets.foldl discardPacket recovery).inFlightByteCount =
        recovery.inFlightByteCount - totalByteCount packets := by
  induction packets generalizing recovery with
  | nil => simp
  | cons packet rest ih =>
    obtain ⟨hspaces, hbytes⟩ := ih (recovery.discardPacket packet)
    refine ⟨hspaces.trans ?_, hbytes.trans ?_⟩
    · rw [discardPacket, noteEcnMarkedResolution_spaces]
    rw [discardPacket, noteEcnMarkedResolution_inFlight, totalByteCount_cons]
    dsimp only
    omega

variable (recovery)

theorem discardSpace_unacknowledgedOf (space space' : PacketNumberSpace) :
    (recovery.discardSpace space).unacknowledgedOf space' =
      if space' = space then .empty else recovery.unacknowledgedOf space' := by
  have hspaces := (foldl_discardPacket (recovery.unacknowledgedPackets space) recovery).1
  simp only [discardSpace, unacknowledgedOf, setSpace, PerSpace.get_set, hspaces]
  split <;> rfl

theorem discardSpace_inFlight (space : PacketNumberSpace) :
    (recovery.discardSpace space).inFlightByteCount = recovery.inFlightByteCount -
        totalByteCount (recovery.unacknowledgedPackets space) :=
  (foldl_discardPacket (recovery.unacknowledgedPackets space) recovery).2

end QuicRecovery

end AsynGyanis.Quic
