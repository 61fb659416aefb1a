import AsynGyanis.Library.Intervals
import AsynGyanis.Quic.Codec.Frame

/-!
# The packet numbers a space has received

A receiver has to recognise duplicates and to report what arrived, and both
read one set, kept as canonical runs. `insert` looks only at the two runs
around the number, joins whatever now touches and answers whether the
number was new. `dropOldestUntil` bounds the set by giving up its lowest
members, so that after any history the set is a window of the greatest
numbers and not the history itself: everything below the window reads as
never received.

The structure carries canonicity and the running count, and the two
operations are judged by the finite set of members, `members`.
-/

namespace AsynGyanis.Quic

open Library Canonical List

/-- The cursor `upper_bound` gives: the runs that start at or below the
number, newest first, and the runs behind it. -/
def runsUpTo (packetNumber : Nat) (runs : List Interval) : List Interval :=
  (runs.takeWhile fun run => run.first ≤ packetNumber).reverse

def runsBehind (packetNumber : Nat) (runs : List Interval) : List Interval :=
  runs.dropWhile fun run => run.first ≤ packetNumber

/-- The run in front of `next`, sewn to it when the two touch. -/
def joinNext (run : Interval) : List Interval → List Interval
  | [] => [run]
  | next :: rest =>
    if next.first = run.last + 1 then ⟨run.first, next.last⟩ :: rest
    else run :: next :: rest

/-- The runs with one more number, or nothing when it is there already. -/
def insertPacketNumber (packetNumber : Nat) (runs : List Interval) : Option (List Interval) :=
  match runsUpTo packetNumber runs with
  | [] => some (joinNext ⟨packetNumber, packetNumber⟩ (runsBehind packetNumber runs))
  | previous :: older =>
    if packetNumber ≤ previous.last then none
    else if packetNumber = previous.last + 1 then
      some (older.reverse ++ joinNext ⟨previous.first, packetNumber⟩ (runsBehind packetNumber runs))
    else
      some (older.reverse ++ previous ::
        joinNext ⟨packetNumber, packetNumber⟩ (runsBehind packetNumber runs))

/-! ## What an insertion does -/

theorem runsUpTo_append (packetNumber : Nat) (runs : List Interval) :
    (runsUpTo packetNumber runs).reverse ++ runsBehind packetNumber runs =
      runs := by
  simp [runsUpTo, runsBehind]

variable {run : Interval} {runs : List Interval}

theorem mem_runsUpTo {packetNumber : Nat}
    (h : run ∈ runsUpTo packetNumber runs) : run.first ≤ packetNumber:= by
  have hmem := mem_takeWhile_imp (mem_reverse.mp h)
  simpa using hmem

theorem mem_runsBehind {packetNumber : Nat} (hruns : Canonical runs)
    (h : run ∈ runsBehind packetNumber runs) : packetNumber < run.first := by
  induction runs with
  | nil => simp [runsBehind] at h
  | cons head rest ih =>
    obtain ⟨hproper, hhead, hrest⟩ := cons_iff.mp hruns
    unfold runsBehind at h
    by_cases hfirst : head.first ≤ packetNumber
    · rw [dropWhile_cons_of_pos (by simpa using hfirst)] at h
      exact ih hrest h
    rw [dropWhile_cons_of_neg (by simpa using hfirst)] at h
    rcases mem_cons.mp h with rfl | h
    · omega
    · have hlt := hhead run h
      omega

theorem joinNext_spec {next : List Interval}
    (hrun : run.first ≤ run.last) (hnext : Canonical next)
    (hlt : ∀ r ∈ next, run.last < r.first) : Canonical (joinNext run next) ∧
      (∀ n, Covers (joinNext run next) n ↔ run.Contains n ∨ Covers next n) ∧
      ∀ r ∈ joinNext run next, run.first ≤ r.first := by
  cases next with
  | nil =>
    refine ⟨cons_iff.mpr ⟨hrun, by simp, nil⟩, ?_, ?_⟩
    · simp [joinNext]
    · simp [joinNext]
  | cons head rest =>
    obtain ⟨hproper, hhead, hrest⟩ := cons_iff.mp hnext
    have hbefore := hlt head mem_cons_self
    simp only [joinNext]
    split
    · next htouch =>
      refine ⟨cons_iff.mpr ⟨?_, hhead, hrest⟩, fun n => ?_, ?_⟩
      · simp only
        omega
      · have hsewn : Interval.Contains ⟨run.first, head.last⟩ n ↔
            run.Contains n ∨ head.Contains n := by
          simp only [Interval.Contains]
          omega
        rw [covers_cons, covers_cons, hsewn, or_assoc]
      · intro r hr
        rcases mem_cons.mp hr with rfl | hr
        · exact Nat.le_refl _
        · have hr := hhead r hr
          omega
    · next htouch =>
      refine ⟨cons_iff.mpr ⟨hrun, ?_, hnext⟩, fun n => ?_, ?_⟩
      · intro r hr
        rcases mem_cons.mp hr with rfl | hr
        · omega
        · have hr := hhead r hr
          omega
      · rw [covers_cons]
      · intro r hr
        rcases mem_cons.mp hr with rfl | hr
        · exact Nat.le_refl _
        · have hr := hlt r hr
          omega

/-- The number is refused exactly when some run covers it; otherwise it is
added, to that set and in that form. -/
theorem insertPacketNumber_spec (h : Canonical runs) (packetNumber : Nat) :
    match insertPacketNumber packetNumber runs with
    | none => Covers runs packetNumber
    | some runs' => ¬ Covers runs packetNumber ∧ Canonical runs' ∧
        ∀ n, Covers runs' n ↔ n = packetNumber ∨ Covers runs n := by
  have hsplit := runsUpTo_append packetNumber runs
  have hbefore : ∀ r ∈ runsUpTo packetNumber runs, r.first ≤ packetNumber := fun r => mem_runsUpTo
  have hbehind : ∀ r ∈ runsBehind packetNumber runs,
      packetNumber < r.first := fun r => mem_runsBehind h
  have hnot : ¬ Covers (runsBehind packetNumber runs) packetNumber := by
    rintro ⟨r, hr, hc⟩
    have hlt := hbehind r hr
    have hle := hc.1
    omega
  unfold insertPacketNumber
  generalize runsUpTo packetNumber runs = before at hsplit hbefore
  generalize runsBehind packetNumber runs = behind at hsplit hbehind hnot
  have hone : ∀ n, Interval.Contains ⟨packetNumber, packetNumber⟩ n ↔ n = packetNumber := by
    intro n
    simp only [Interval.Contains]
    omega
  cases before with
  | nil =>
    simp only [reverse_nil, nil_append] at hsplit
    subst hsplit
    obtain ⟨hcanonical, hcovers, -⟩ := @joinNext_spec ⟨packetNumber, packetNumber⟩ behind
        (Nat.le_refl packetNumber) h hbehind
    refine ⟨hnot, hcanonical, fun n => ?_⟩
    rw [hcovers, hone]
  | cons previous older =>
    rw [reverse_cons] at hsplit
    subst hsplit
    obtain ⟨hfront, hbehindc, hacross⟩ := append_iff.mp h
    obtain ⟨holder, hprevious, hgap⟩ := append_iff.mp hfront
    have hproper := hprevious.proper previous mem_cons_self
    have hfirst := hbefore previous mem_cons_self
    have hnotOlder : previous.last < packetNumber → ¬ Covers older.reverse packetNumber := by
      rintro hlast ⟨r, hr, hc⟩
      have hlt := hgap r hr previous mem_cons_self
      have hle := hc.2
      omega
    by_cases hlast : packetNumber ≤ previous.last
    · simp only [if_pos hlast, covers_append, covers_cons]
      exact .inl (.inr (.inl ⟨hfirst, hlast⟩))
    have hnotAll : ¬ Covers (older.reverse ++ [previous] ++ behind)
        packetNumber := by
      simp only [covers_append, covers_cons, covers_nil, or_false]
      rintro ((hc | hc) | hc)
      · exact hnotOlder (by omega) hc
      · exact hlast hc.2
      · exact hnot hc
    by_cases htouch : packetNumber = previous.last + 1
    · simp only [if_neg hlast, if_pos htouch]
      obtain ⟨hcanonical, hcovers, hstarts⟩ :=
        @joinNext_spec ⟨previous.first, packetNumber⟩ behind hfirst hbehindc hbehind
      refine ⟨hnotAll, append_iff.mpr ⟨holder, hcanonical, fun a ha b hb => ?_⟩, fun n => ?_⟩
      · have hlt := hgap a ha previous mem_cons_self
        have hle := hstarts b hb
        simp only at hle
        omega
      have hgrown : Interval.Contains ⟨previous.first, packetNumber⟩ n ↔
          n = packetNumber ∨ previous.Contains n := by
        simp only [Interval.Contains]
        omega
      simp only [covers_append, covers_cons, covers_nil, or_false, hcovers, hgrown]
      tauto
    simp only [if_neg hlast, if_neg htouch]
    obtain ⟨hcanonical, hcovers, hstarts⟩ := @joinNext_spec ⟨packetNumber, packetNumber⟩ behind
        (Nat.le_refl _) hbehindc hbehind
    have hprev : ∀ r ∈ joinNext ⟨packetNumber, packetNumber⟩ behind,
        previous.last + 1 < r.first := by
      intro r hr
      have hle := hstarts r hr
      simp only at hle
      omega
    refine ⟨hnotAll, append_iff.mpr
      ⟨holder, cons_iff.mpr ⟨hproper, hprev, hcanonical⟩, fun a ha b hb => ?_⟩, fun n => ?_⟩
    · have hlt := hgap a ha previous mem_cons_self
      rcases mem_cons.mp hb with rfl | hb
      · exact hlt
      · have hle := hprev b hb
        omega
    · simp only [covers_append, covers_cons, covers_nil, or_false, hcovers, hone]
      tauto

/-! ## The set -/

structure QuicReceivedPacketNumbers where
  ranges : List Interval
  trackedPacketNumberCount : Nat
  canonical : Canonical ranges
  counted : trackedPacketNumberCount = (numbersOf ranges).length

namespace QuicReceivedPacketNumbers

def empty : QuicReceivedPacketNumbers := ⟨[], 0, nil, List.length_nil.symm⟩

instance : Inhabited QuicReceivedPacketNumbers := ⟨empty⟩

variable (received : QuicReceivedPacketNumbers)

/-- The set the runs stand for. -/
def members : Finset Nat := (numbersOf received.ranges).toFinset

theorem mem_members {received : QuicReceivedPacketNumbers} {n : Nat} :
    n ∈ received.members ↔ Covers received.ranges n := by
  rw [members, mem_toFinset, received.canonical.mem_numbersOf]

theorem card_members : received.members.card = received.trackedPacketNumberCount := by
  rw [members, received.counted, toFinset_card_of_nodup]
  exact received.canonical.numbersOf_sorted.imp Nat.ne_of_lt

@[simp] theorem members_empty : empty.members = ∅ := rfl

theorem length_numbersOf_insert {runs' : List Interval}
    {packetNumber : Nat} (hruns : Canonical runs) (hruns' : Canonical runs')
    (hnot : ¬ Covers runs packetNumber)
    (hcovers : ∀ n, Covers runs' n ↔ n = packetNumber ∨ Covers runs n) :
    (numbersOf runs').length = (numbersOf runs).length + 1 := by
  have hnodup : ∀ {l : List Interval}, Canonical l → (numbersOf l).Nodup :=
    fun h => h.numbersOf_sorted.imp Nat.ne_of_lt
  have hset : (numbersOf runs').toFinset = insert packetNumber (numbersOf runs).toFinset := by
    ext n
    rw [mem_toFinset, hruns'.mem_numbersOf, hcovers, Finset.mem_insert,
      mem_toFinset, hruns.mem_numbersOf]
  rw [← toFinset_card_of_nodup (hnodup hruns'), hset,
    Finset.card_insert_of_notMem, toFinset_card_of_nodup (hnodup hruns)]
  rw [mem_toFinset, hruns.mem_numbersOf]
  exact hnot

/-- Whether the number was new, and the set with it. -/
def insert (packetNumber : Nat) : Bool × QuicReceivedPacketNumbers :=
  match hinsert : insertPacketNumber packetNumber received.ranges with
  | none => (false, received)
  | some ranges =>
    have hspec := insertPacketNumber_spec received.canonical packetNumber
    (true,
      { ranges := ranges
        trackedPacketNumberCount := received.trackedPacketNumberCount + 1
        canonical := by
          rw [hinsert] at hspec
          exact hspec.2.1
        counted := by
          rw [hinsert] at hspec
          rw [length_numbersOf_insert received.canonical hspec.2.1 hspec.1
            hspec.2.2, received.counted] })

/-- The loop of `dropOldestUntil`, run by run from the oldest. -/
def dropOldestRuns (maximumTracked : Nat) : Nat → List Interval → List Interval
  | _, [] => []
  | tracked, oldest :: rest =>
    if tracked ≤ maximumTracked then oldest :: rest
    else if oldest.span ≤ tracked - maximumTracked then
      dropOldestRuns maximumTracked (tracked - oldest.span) rest
    else
      { oldest with first := oldest.first + (tracked - maximumTracked) } :: rest

theorem dropOldestRuns_eq (maximumTracked tracked : Nat) (runs : List Interval) :
    dropOldestRuns maximumTracked tracked runs = dropLowest (tracked - maximumTracked) runs := by
  induction runs generalizing tracked with
  | nil => rfl
  | cons oldest rest ih =>
    unfold dropOldestRuns
    split
    · next hle =>
      rw [Nat.sub_eq_zero_of_le hle, dropLowest_zero]
    split
    · next hspan =>
      rw [ih, dropLowest, if_pos hspan]
      congr 1
      omega
    · next hspan => rw [dropLowest, if_neg hspan]

def dropOldestUntil (received : QuicReceivedPacketNumbers)
    (maximumTracked : Nat) : QuicReceivedPacketNumbers where
  ranges := dropOldestRuns maximumTracked received.trackedPacketNumberCount received.ranges
  trackedPacketNumberCount := min maximumTracked received.trackedPacketNumberCount
  canonical := by
    rw [dropOldestRuns_eq]
    exact dropLowest_canonical received.canonical _
  counted := by
    rw [dropOldestRuns_eq, numbersOf_dropLowest received.canonical, length_drop, ← received.counted]
    omega

theorem insert_isNew (packetNumber : Nat) : (received.insert packetNumber).1 =
      decide (packetNumber ∉ received.members) := by
  have hspec := insertPacketNumber_spec received.canonical packetNumber
  unfold insert
  split
  · next hinsert =>
    rw [hinsert] at hspec
    simpa [mem_members] using hspec
  rename_i ranges hinsert
  rw [hinsert] at hspec
  simpa [mem_members] using hspec.1

theorem insert_members (packetNumber : Nat) : (received.insert packetNumber).2.members =
      Insert.insert packetNumber received.members := by
  have hspec := insertPacketNumber_spec received.canonical packetNumber
  ext n
  rw [Finset.mem_insert]
  unfold insert
  split
  · next hinsert =>
    rw [hinsert] at hspec
    constructor
    · exact .inr
    rintro (rfl | hn)
    · exact mem_members.mpr hspec
    · exact hn
  · next ranges hinsert =>
    rw [hinsert] at hspec
    rw [mem_members, mem_members]
    exact hspec.2.2 n

theorem dropOldestUntil_members (maximumTracked : Nat) :
    (received.dropOldestUntil maximumTracked).members =
      highest maximumTracked received.members := by
  unfold members dropOldestUntil
  simp only [dropOldestRuns_eq, received.counted]
  exact dropLowest_keeps_highest received.canonical maximumTracked

end QuicReceivedPacketNumbers

/-! ## Acknowledgement ranges -/

/-- The highest runs that start at or below the number, newest first and
cut at the number; if there is none, the number alone. -/
def buildQuicAcknowledgementRanges (received : QuicReceivedPacketNumbers)
    (acknowledgedUpTo : Nat) : List QuicAcknowledgementRange :=
  let ranges :=
    ((received.ranges.reverse.filter fun run =>
      run.first ≤ acknowledgedUpTo).take kQuicMaximumAcknowledgementRanges).map
        fun run => (⟨run.first, min run.last acknowledgedUpTo⟩ : QuicAcknowledgementRange)
  if ranges.isEmpty then [⟨acknowledgedUpTo, acknowledgedUpTo⟩] else ranges

def QuicAcknowledgementRange.Contains (range : QuicAcknowledgementRange)
    (packetNumber : Nat) : Prop :=
  range.smallestAcknowledged ≤ packetNumber ∧ packetNumber ≤ range.largestAcknowledged

instance (range : QuicAcknowledgementRange) (packetNumber : Nat) :
    Decidable (range.Contains packetNumber) :=
  inferInstanceAs (Decidable (_ ∧ _))

/-- The frame acknowledges the packet. -/
def QuicAcknowledgementFrame.Covers (frame : QuicAcknowledgementFrame)
    (packetNumber : Nat) : Prop :=
  ∃ range ∈ frame.ranges, range.Contains packetNumber

instance (frame : QuicAcknowledgementFrame) (packetNumber : Nat) :
    Decidable (frame.Covers packetNumber) :=
  inferInstanceAs (Decidable (∃ _ ∈ frame.ranges, _))

namespace QuicReceivedPacketNumbers

variable {received : QuicReceivedPacketNumbers} {acknowledgedUpTo : Nat}

/-- The runs an ACK frame has room for. -/
def highestRuns (received : QuicReceivedPacketNumbers) : List Interval :=
  received.ranges.reverse.take kQuicMaximumAcknowledgementRanges

/-- The runs that start at or below a number, newest first. -/
def runsBelow (received : QuicReceivedPacketNumbers) (acknowledgedUpTo : Nat) : List Interval :=
  received.ranges.reverse.filter fun run => run.first ≤ acknowledgedUpTo

theorem mem_runsBelow : run ∈ received.runsBelow acknowledgedUpTo ↔
      run ∈ received.ranges ∧ run.first ≤ acknowledgedUpTo := by
  simp [runsBelow]

theorem runsBelow_apart : (received.runsBelow acknowledgedUpTo).Pairwise
    fun newer older => older.last + 1 < newer.first := by
  refine List.Pairwise.filter _ ?_
  rw [pairwise_reverse]
  exact received.canonical.apart

theorem runsBelow_head {rest : List Interval}
    (hruns : received.runsBelow acknowledgedUpTo = run :: rest)
    (hheld : acknowledgedUpTo ∈ received.members) : run.Contains acknowledgedUpTo := by
  obtain ⟨holder, hholder, hcontains⟩ := mem_members.mp hheld
  have hmem : holder ∈ received.runsBelow acknowledgedUpTo :=
    mem_runsBelow.mpr ⟨hholder, hcontains.1⟩
  have hrun : run.first ≤ acknowledgedUpTo := (mem_runsBelow.mp (hruns ▸ mem_cons_self)).2
  have hapart : (received.runsBelow acknowledgedUpTo).Pairwise _ := runsBelow_apart
  rw [hruns] at hmem hapart
  rcases mem_cons.mp hmem with rfl | hmem
  · exact hcontains
  -- An older run ends below where this one starts.
  have hbelow := (pairwise_cons.mp hapart).1 holder hmem
  have hend := hcontains.2
  omega

/-- A run as the frame reports it. -/
def reportedRange (acknowledgedUpTo : Nat) (run : Interval) :
    QuicAcknowledgementRange :=
  ⟨run.first, min run.last acknowledgedUpTo⟩

theorem buildQuicAcknowledgementRanges_eq :
    buildQuicAcknowledgementRanges received acknowledgedUpTo =
      match received.runsBelow acknowledgedUpTo with
      | [] => [⟨acknowledgedUpTo, acknowledgedUpTo⟩]
      | run :: rest =>
        ((run :: rest).take kQuicMaximumAcknowledgementRanges).map
          (reportedRange acknowledgedUpTo) := by
  unfold buildQuicAcknowledgementRanges runsBelow
  cases (received.ranges.reverse.filter fun run =>
    run.first ≤ acknowledgedUpTo) <;> rfl

/-- What the encoder asks of the ranges of a frame and what the peer may
conclude from them, for a number that is tracked or older than all that
are. -/
theorem buildQuicAcknowledgementRanges_spec
    (h : acknowledgedUpTo ∈ received.members ∨ ∀ n ∈ received.members, acknowledgedUpTo < n) :
    (∃ first rest, buildQuicAcknowledgementRanges received acknowledgedUpTo =
          first :: rest ∧ first.largestAcknowledged = acknowledgedUpTo) ∧
      DescendingRanges (buildQuicAcknowledgementRanges received acknowledgedUpTo) ∧
      (buildQuicAcknowledgementRanges received acknowledgedUpTo).length ≤
        kQuicMaximumAcknowledgementRanges ∧
      ∀ range ∈ buildQuicAcknowledgementRanges received acknowledgedUpTo,
        ∀ n, range.Contains n → n ∈ received.members ∨ n = acknowledgedUpTo := by
  rw [buildQuicAcknowledgementRanges_eq]
  cases hruns : received.runsBelow acknowledgedUpTo with
  | nil =>
    refine ⟨⟨_, _, rfl, rfl⟩, ⟨pairwise_singleton _ _, ?_⟩,
      by simp [kQuicMaximumAcknowledgementRanges], ?_⟩
    · intro range hrange
      rw [mem_singleton.mp hrange]
    intro range hrange n hn
    rw [mem_singleton.mp hrange] at hn
    exact .inr (Nat.le_antisymm hn.2 hn.1)
  | cons run rest =>
    have hall : ∀ other ∈ run :: rest, other ∈ received.ranges ∧ other.first ≤ acknowledgedUpTo :=
      fun other hother => mem_runsBelow.mp (hruns ▸ hother)
    have hfirst := hall run mem_cons_self
    have hproper := received.canonical.proper run hfirst.1
    have hheld : acknowledgedUpTo ∈ received.members := by
      rcases h with h | habove
      · exact h
      have := habove run.first (mem_members.mpr ⟨run, hfirst.1, Nat.le_refl _, hproper⟩)
      omega
    have hend := (runsBelow_head hruns hheld).2
    refine ⟨⟨_, _, rfl, Nat.min_eq_right hend⟩, ⟨?_, ?_⟩, ?_, ?_⟩
    · have hapart : (run :: rest).Pairwise _ := hruns ▸ runsBelow_apart
      refine List.Pairwise.map _ (fun newer older hlt => ?_) (hapart.sublist (take_sublist _ _))
      have : min older.last acknowledgedUpTo ≤ older.last := Nat.min_le_left _ _
      simp only [reportedRange]
      omega
    · intro range hrange
      obtain ⟨other, hother, rfl⟩ := mem_map.mp hrange
      obtain ⟨hmem, hle⟩ := hall other (mem_of_mem_take hother)
      exact Nat.le_min.mpr ⟨received.canonical.proper other hmem, hle⟩
    · rw [length_map]
      exact length_take_le _ _
    · intro range hrange n hn
      obtain ⟨other, hother, rfl⟩ := mem_map.mp hrange
      obtain ⟨hmem, -⟩ := hall other (mem_of_mem_take hother)
      exact .inl (mem_members.mpr ⟨other, hmem, hn.1, Nat.le_trans hn.2 (Nat.min_le_left _ _)⟩)

/-- What is not above the number and in one of the highest runs is
reported: skipping the runs above it only makes room for more. -/
theorem buildQuicAcknowledgementRanges_complete {n : Nat}
    (hrun : run ∈ received.highestRuns) (hn : run.Contains n) (hle : n ≤ acknowledgedUpTo) :
    ∃ range ∈ buildQuicAcknowledgementRanges received acknowledgedUpTo, range.Contains n := by
  have hfirst : run.first ≤ acknowledgedUpTo := Nat.le_trans hn.1 hle
  have htake : run ∈ (received.runsBelow acknowledgedUpTo).take
      kQuicMaximumAcknowledgementRanges := by
    have hprefix : (received.highestRuns.filter fun run =>
        run.first ≤ acknowledgedUpTo) <+: (received.runsBelow acknowledgedUpTo).take
            kQuicMaximumAcknowledgementRanges := by
      refine prefix_take_iff.mpr ⟨( take_prefix _ _).filter _, ?_⟩
      exact Nat.le_trans (length_filter_le _ _) (length_take_le _ _)
    exact hprefix.subset (mem_filter.mpr ⟨hrun, by simpa using hfirst⟩)
  rw [buildQuicAcknowledgementRanges_eq]
  cases hruns : received.runsBelow acknowledgedUpTo with
  | nil => simp [hruns] at htake
  | cons first rest =>
    rw [hruns] at htake
    exact ⟨_, mem_map_of_mem htake, hn.1, Nat.le_min.mpr ⟨hn.2, hle⟩⟩

end QuicReceivedPacketNumbers

/-! ## Restoring a truncated packet number -/

/-- `restoreQuicPacketNumber` on 64-bit numbers: the candidate with the
header's low bytes closest to what is expected next. -/
def restoreQuicPacketNumber (largestReceivedPacketNumber
    truncatedPacketNumber packetNumberByteCount : Nat) : Nat :=
  let windowSize := 2 ^ (packetNumberByteCount * 8)
  let halfWindow := windowSize / 2
  let expected := (largestReceivedPacketNumber + 1) % 2 ^ 64
  let candidate := expected - expected % windowSize + truncatedPacketNumber
  if (candidate + halfWindow) % 2 ^ 64 ≤ expected ∧ candidate < 2 ^ 62 - windowSize then
    candidate + windowSize
  else if candidate > (expected + halfWindow) % 2 ^ 64 ∧ candidate ≥ windowSize then
    candidate - windowSize
  else candidate

example : restoreQuicPacketNumber 0xa82f30ea 0x9b32 2 = 0xa82f9b32 := by
  decide

end AsynGyanis.Quic
