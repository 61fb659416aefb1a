import AsynGyanis.Quic.Recovery.Recovery

/-!
# The round-trip estimate keeps its bounds (RFC 9002 §5)

The averages are integer averages and the division truncates, so each sample
moves the smoothed time by at most the eighth of the way to it and never past
it. What is averaged is the sample without the delay the peer reports, and the
delay is only taken off where the smallest sample stays below. So the smoothed
time stays between the smallest and the largest of the samples. The caller
cuts the reported delay to a minute, so no sum comes near the end of the
clock's type.
-/

namespace AsynGyanis.Quic

open QuicRecovery List

/-- A recovery layer and the samples its estimate was made from. -/
inductive Estimates : QuicRecovery → List QuicTime → Prop
  | fresh {recovery : QuicRecovery} (h : recovery.hasRoundTripSample = false)
    (hdelay : 0 ≤ recovery.peerMaximumAcknowledgmentDelay) :
    Estimates recovery []
  | sample {recovery : QuicRecovery} {samples : List QuicTime}
    (h : Estimates recovery samples) {latest delay : QuicTime}
    (hlatest : 0 ≤ latest) (hdelay : 0 ≤ delay) :
    Estimates (recovery.updateRoundTripTime latest delay) (samples ++ [latest])
  | handshakeConfirmed {recovery : QuicRecovery} {samples : List QuicTime}
    (h : Estimates recovery samples) {maximumDelay : QuicTime}
    (hdelay : 0 ≤ maximumDelay) :
    Estimates (recovery.onHandshakeConfirmed maximumDelay) samples

/-- The bounds of an estimate, `largest` being the largest sample. -/
structure QuicRoundTripTimeEstimate.Within
    (estimate : QuicRoundTripTimeEstimate) (samples : List QuicTime)
    (largest : QuicTime) : Prop where
  minimum_mem : estimate.minimum ∈ samples
  minimum_le : ∀ sample ∈ samples, estimate.minimum ≤ sample
  largest_mem : largest ∈ samples
  le_largest : ∀ sample ∈ samples, sample ≤ largest
  smoothed_ge : estimate.minimum ≤ estimate.smoothed
  smoothed_le : estimate.smoothed ≤ largest
  variation_nonneg : 0 ≤ estimate.variation

/-- Truncation leads towards the present value, so a step of an average does
not leave the range of the two. -/
theorem smoothed_between {low high smoothed adjusted : Int} (hlow : low ≤ smoothed ∧ low ≤ adjusted)
    (hhigh : smoothed ≤ high ∧ adjusted ≤ high) :
    low ≤ smoothed + (adjusted - smoothed).tdiv 8 ∧
      smoothed + (adjusted - smoothed).tdiv 8 ≤ high := by
  rcases Int.le_total smoothed adjusted with hle | hle
  · rw [Int.tdiv_eq_ediv_of_nonneg (by omega)]
    omega
  · have hneg : (adjusted - smoothed).tdiv 8 = -((smoothed - adjusted) / 8) := by
      rw [← Int.tdiv_eq_ediv_of_nonneg (by omega), ← Int.neg_tdiv]
      congr 1
      omega
    rw [hneg]
    omega

theorem adjusted_between {minimum latest delay : Int} (h : 0 ≤ delay) :
    minimum ≤ latest → minimum ≤ (if latest ≥ minimum + delay then latest - delay else latest) ∧
      (if latest ≥ minimum + delay then latest - delay else latest) ≤ latest := by
  intro hle
  split <;> omega

theorem averaged_nonneg {variation smoothed adjusted : Int} (h : 0 ≤ variation) :
    0 ≤ (3 * variation + if smoothed > adjusted then smoothed - adjusted
      else adjusted - smoothed).tdiv 4 := by
  refine Int.tdiv_nonneg ?_ (by decide)
  split <;> omega

theorem QuicRoundTripTimeEstimate.Within.sample {recovery : QuicRecovery} {samples : List QuicTime}
    {largest : Int} (h : recovery.estimate.Within samples largest)
    (hsampled : recovery.hasRoundTripSample)
    (hmaximum : 0 ≤ recovery.peerMaximumAcknowledgmentDelay)
    {latest delay : Int} (hdelay : 0 ≤ delay) :
    (recovery.updateRoundTripTime latest delay).estimate.Within
      (samples ++ [latest]) (max largest latest) := by
  rw [updateRoundTripTime, hsampled, if_neg (by decide)]
  dsimp only
  generalize hclamped : (if recovery.isHandshakeConfirmed = true then
    min delay recovery.peerMaximumAcknowledgmentDelay else delay) = clamped
  have hclamped : 0 ≤ clamped := by
    rw [← hclamped]
    split
    · exact le_min hdelay hmaximum
    · exact hdelay
  have hadjusted := adjusted_between hclamped (min_le_right recovery.estimate.minimum latest)
  generalize (if latest ≥ min recovery.estimate.minimum latest + clamped then
    latest - clamped else latest) = adjusted at hadjusted ⊢
  have hsmoothed := @smoothed_between (min recovery.estimate.minimum latest)
    (max largest latest) recovery.estimate.smoothed adjusted
    ⟨min_le_of_left_le h.smoothed_ge, hadjusted.1⟩
    ⟨le_max_of_le_left h.smoothed_le, le_max_of_le_right hadjusted.2⟩
  refine ⟨?_, ?_, ?_, ?_, hsmoothed.1, hsmoothed.2, averaged_nonneg h.variation_nonneg⟩
  · rw [mem_append, mem_singleton]
    exact (min_choice recovery.estimate.minimum latest).imp
      (fun heq => by rw [heq]; exact h.minimum_mem) id
  · intro sample hsample
    rcases mem_append.mp hsample with hbefore | hlatest
    · exact min_le_of_left_le (h.minimum_le sample hbefore)
    · exact min_le_of_right_le (mem_singleton.mp hlatest).ge
  · rw [mem_append, mem_singleton]
    exact (max_choice largest latest).imp (fun heq => by rw [heq]; exact h.largest_mem) id
  · intro sample hsample
    rcases mem_append.mp hsample with hbefore | hlatest
    · exact le_max_of_le_left (h.le_largest sample hbefore)
    · exact le_max_of_le_right (mem_singleton.mp hlatest).le

theorem QuicRecovery.updateRoundTripTime_frame (recovery : QuicRecovery) (latest delay : QuicTime) :
    (recovery.updateRoundTripTime latest delay).peerMaximumAcknowledgmentDelay =
        recovery.peerMaximumAcknowledgmentDelay ∧
      (recovery.updateRoundTripTime latest delay).hasRoundTripSample := by
  rw [updateRoundTripTime]
  cases recovery.hasRoundTripSample <;> exact ⟨rfl, rfl⟩

theorem Estimates.bounds {recovery : QuicRecovery} {samples : List QuicTime}
    (h : Estimates recovery samples) :
    0 ≤ recovery.peerMaximumAcknowledgmentDelay ∧ (recovery.hasRoundTripSample ↔ samples ≠ []) ∧
      (samples ≠ [] → ∃ largest, recovery.estimate.Within samples largest) := by
  induction h with
  | fresh h hdelay => exact ⟨hdelay, by simp [h], fun hne => absurd rfl hne⟩
  | @sample recovery samples _ latest delay hlatest hdelay ih =>
    obtain ⟨hmaximum, hsampled, hwithin⟩ := ih
    have hkept := recovery.updateRoundTripTime_frame latest delay
    refine ⟨hkept.1 ▸ hmaximum, iff_of_true hkept.2 (by simp), fun _ => ?_⟩
    cases hfirst : recovery.hasRoundTripSample with
    | false =>
      obtain rfl : samples = [] := by
        by_contra hne
        rw [hsampled.mpr hne] at hfirst
        cases hfirst
      refine ⟨latest, ?_⟩
      rw [updateRoundTripTime, hfirst]
      exact ⟨mem_singleton_self _, fun _ hmem => (mem_singleton.mp hmem).ge,
        mem_singleton_self _, fun _ hmem => (mem_singleton.mp hmem).le,
        le_refl _, le_refl _, Int.tdiv_nonneg hlatest (by decide)⟩
    | true =>
      obtain ⟨largest, hwithin⟩ := hwithin (hsampled.mp hfirst)
      exact ⟨_, hwithin.sample hfirst hmaximum hdelay⟩
  | handshakeConfirmed _ hdelay ih => exact ⟨hdelay, ih.2⟩

/-- The smoothed round-trip time stays between the smallest and the largest
sample, the smallest sample is the minimum, and the variation does not become
negative. -/
theorem round_trip_estimate_bounded {recovery : QuicRecovery}
    {samples : List QuicTime} (h : Estimates recovery samples)
    (hne : samples ≠ []) :
    ∃ largest, recovery.estimate.Within samples largest :=
  h.bounds.2.2 hne

/-- The second sample comes with a delay that is taken off. -/
theorem round_trip_estimate_bounded_two : ∃ largest,
    ((QuicRecovery.updateRoundTripTime {} 100 0).updateRoundTripTime
      180 25).estimate.Within [100, 180] largest :=
  round_trip_estimate_bounded
    (.sample (.sample (.fresh rfl (by decide)) (by decide) (by decide))
      (by decide) (by decide)) nofun

end AsynGyanis.Quic
