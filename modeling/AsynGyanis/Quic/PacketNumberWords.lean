import AsynGyanis.Quic.ReceivedPacketNumbers

/-!
# The packet numbers in machine words

`QuicReceivedPacketNumbers` reasons about numbers without end. The source
has 64 bits for a number and for the count, and its sums go around: one past
a run that ends at the last number is zero, and a run of all numbers has a
span of zero. Here the two operations are written as the source computes
them, each sum taken modulo `2 ^ 64`.

A sum that decides something never goes around. One past the run in front of
the number is at most the number; a run behind the number starts above it,
so the number is not the last one. A span or the count goes around only when
every number is a member. As long as one number has never been inserted (the
header promises numbers below `2 ^ 62`), the words therefore do what the
structure does (`PacketNumberWords.Represents`).

What the two do is stated against a finite set of integers that knows
nothing of runs, over any sequence of calls.
-/

namespace AsynGyanis.Quic

open Library QuicReceivedPacketNumbers List
open QuicReceivedPacketNumbers (dropOldestRuns)

/-! ## The source's operations -/

/-- The members of the class: the ranges by their starts and the count. -/
structure PacketNumberWords where
  ranges : List Interval
  trackedPacketNumberCount : Nat
  deriving DecidableEq, Repr

namespace PacketNumberWords

/-- `word + 1U`. -/
def next (word : Nat) : Nat := (word + 1) % 2 ^ 64

def joinNextWord (run : Interval) : List Interval → List Interval
  | [] => [run]
  | right :: rest =>
    if right.first = next run.last then ⟨run.first, right.last⟩ :: rest
    else run :: right :: rest

def insertRuns (packetNumber : Nat) (runs : List Interval) : Option (List Interval) :=
  match runsUpTo packetNumber runs with
  | [] => some (joinNextWord ⟨packetNumber, packetNumber⟩ (runsBehind packetNumber runs))
  | previous :: older =>
    if packetNumber ≤ previous.last then none
    else if packetNumber = next previous.last then
      some (older.reverse ++ joinNextWord ⟨previous.first, packetNumber⟩
        (runsBehind packetNumber runs))
    else
      some (older.reverse ++ previous :: joinNextWord ⟨packetNumber, packetNumber⟩
          (runsBehind packetNumber runs))

def insert (words : PacketNumberWords) (packetNumber : Nat) : Bool × PacketNumberWords :=
  match insertRuns packetNumber words.ranges with
  | none => (false, words)
  | some ranges => (true, ⟨ranges, next words.trackedPacketNumberCount⟩)

/-- `oldest->second - oldest->first + 1U`. -/
def spanOf (run : Interval) : Nat := (run.last + 2 ^ 64 - run.first + 1) % 2 ^ 64

/-- The loop of `dropOldestUntil`. -/
def dropOldest (maximumTracked : Nat) : Nat → List Interval → PacketNumberWords
  | tracked, [] => ⟨[], tracked⟩
  | tracked, oldest :: rest =>
    if tracked ≤ maximumTracked then ⟨oldest :: rest, tracked⟩
    else if spanOf oldest ≤ tracked - maximumTracked then
      dropOldest maximumTracked (tracked - spanOf oldest) rest
    else
      ⟨{ oldest with
          first := (oldest.first + (tracked - maximumTracked)) % 2 ^ 64 } ::
        rest, maximumTracked⟩

def dropOldestUntil (words : PacketNumberWords) (maximumTracked : Nat) :
    PacketNumberWords :=
  dropOldest maximumTracked words.trackedPacketNumberCount words.ranges

/-! ## The sums that do not go around -/

/-- The words hold what the structure holds, and there is a number left. -/
structure Represents (free : Nat) (words : PacketNumberWords)
    (received : QuicReceivedPacketNumbers) : Prop where
  ranges : words.ranges = received.ranges
  count : words.trackedPacketNumberCount = received.trackedPacketNumberCount
  bounded : ∀ n ∈ received.members, n < 2 ^ 64
  free_lt : free < 2 ^ 64
  free_notMem : free ∉ received.members

/-- A set of words that leaves one out has fewer than `2 ^ 64` members. -/
theorem card_lt_of_free {members : Finset Nat} {free : Nat}
    (hbounded : ∀ n ∈ members, n < 2 ^ 64) (hfree : free < 2 ^ 64)
    (hnot : free ∉ members) : members.card < 2 ^ 64 := by
  have hsubset : members ⊂ Finset.range (2 ^ 64) := by
    refine Finset.ssubset_iff_subset_ne.mpr ⟨fun n hn => ?_, fun heq => ?_⟩
    · rw [Finset.mem_range]
      exact hbounded n hn
    · rw [heq, Finset.mem_range] at hnot
      exact hnot hfree
  have hcard := Finset.card_lt_card hsubset
  rwa [Finset.card_range] at hcard

theorem next_eq {word : Nat} (h : word + 1 < 2 ^ 64) : next word = word + 1 := Nat.mod_eq_of_lt h

theorem joinNextWord_eq {run : Interval} {behind : List Interval}
    (hbehind : ∀ r ∈ behind, run.last < r.first ∧ r.first < 2 ^ 64) :
    joinNextWord run behind = joinNext run behind := by
  cases behind with
  | nil => rfl
  | cons right rest =>
    have hright := hbehind right mem_cons_self
    rw [joinNextWord, joinNext, next_eq (by omega)]

variable {received : QuicReceivedPacketNumbers}

theorem first_mem {run : Interval} (h : run ∈ received.ranges) :
    run.first ∈ received.members ∧ run.last ∈ received.members := by
  have hproper := received.canonical.proper run h
  rw [mem_members, mem_members]
  exact ⟨⟨run, h, Nat.le_refl _, hproper⟩, ⟨run, h, hproper, Nat.le_refl _⟩⟩

theorem insertRuns_eq {packetNumber : Nat} (hbounded : ∀ n ∈ received.members, n < 2 ^ 64)
    (hnumber : packetNumber < 2 ^ 64) :
    insertRuns packetNumber received.ranges = insertPacketNumber packetNumber received.ranges := by
  have hbehind : ∀ r ∈ runsBehind packetNumber received.ranges,
      packetNumber < r.first ∧ r.first < 2 ^ 64 := fun r hr =>
    ⟨mem_runsBehind received.canonical hr,
      hbounded _ (first_mem ((dropWhile_suffix _).subset hr)).1⟩
  unfold insertRuns insertPacketNumber
  cases hupTo : runsUpTo packetNumber received.ranges with
  | nil =>
    show some _ = some _
    rw [joinNextWord_eq hbehind]
  | cons previous older =>
    show (if _ then _ else _) = if _ then _ else _
    by_cases hle : packetNumber ≤ previous.last
    · rw [if_pos hle, if_pos hle]
    · rw [if_neg hle, if_neg hle, next_eq (by omega),
        joinNextWord_eq hbehind, joinNextWord_eq hbehind]

theorem span_eq {run : Interval} (hproper : run.first ≤ run.last)
    (hlast : run.last < 2 ^ 64) (hspan : run.span < 2 ^ 64) : spanOf run = run.span := by
  unfold Interval.span at *
  unfold spanOf
  omega

theorem dropOldest_eq (maximumTracked tracked : Nat) (runs : List Interval)
    (hproper : ∀ run ∈ runs, run.first ≤ run.last) (hlast : ∀ run ∈ runs, run.last < 2 ^ 64)
    (hcounted : tracked = (numbersOf runs).length) (htracked : tracked < 2 ^ 64) :
    dropOldest maximumTracked tracked runs =
      ⟨dropOldestRuns maximumTracked tracked runs, min maximumTracked tracked⟩ := by
  induction runs generalizing tracked with
  | nil =>
    rw [hcounted]
    simp [dropOldest, dropOldestRuns, numbersOf]
  | cons oldest rest ih =>
    have hlength : (numbersOf (oldest :: rest)).length = oldest.span + (numbersOf rest).length := by
      simp [numbersOf]
    have holdest := hproper oldest mem_cons_self
    have hend := hlast oldest mem_cons_self
    rw [dropOldest, dropOldestRuns, span_eq holdest hend (by omega)]
    split
    · next hle => rw [Nat.min_eq_right hle]
    split
    · next hspan =>
      rw [ih _ (fun r hr => hproper r (mem_cons_of_mem _ hr))
        (fun r hr => hlast r (mem_cons_of_mem _ hr))
        (by omega) (by omega)]
      congr 1
      omega
    rename_i hspan
    have hfirst : oldest.first + (tracked - maximumTracked) < 2 ^ 64 := by
      unfold Interval.span at hspan
      omega
    rw [Nat.mod_eq_of_lt hfirst, Nat.min_eq_left (by omega)]

/-! ## One call -/

namespace Represents

variable {free : Nat} {words : PacketNumberWords}

theorem count_lt (h : Represents free words received) :
    received.trackedPacketNumberCount < 2 ^ 64 := by
  have hcard := card_lt_of_free h.bounded h.free_lt h.free_notMem
  rwa [received.card_members] at hcard

theorem empty {free : Nat} (hfree : free < 2 ^ 64) : Represents free ⟨[], 0⟩ .empty :=
  ⟨rfl, rfl, by simp, hfree, by simp⟩

theorem insert_eq (h : Represents free words received) {packetNumber : Nat}
    (hnumber : packetNumber < 2 ^ 64) (hfree : packetNumber ≠ free) :
    (words.insert packetNumber).1 = (received.insert packetNumber).1 ∧
      Represents free (words.insert packetNumber).2 (received.insert packetNumber).2 := by
  have hbounded : ∀ n ∈ (received.insert packetNumber).2.members, n < 2 ^ 64 := by
    intro n hn
    rw [received.insert_members] at hn
    rcases Finset.mem_insert.mp hn with rfl | hn
    · exact hnumber
    · exact h.bounded n hn
  have hnotMem : free ∉ (received.insert packetNumber).2.members := by
    rw [received.insert_members, Finset.mem_insert, not_or]
    exact ⟨hfree.symm, h.free_notMem⟩
  have hruns := insertRuns_eq h.bounded hnumber
  have hcount := h.count_lt
  have hresult : (words.insert packetNumber).1 = (received.insert packetNumber).1 ∧
      (words.insert packetNumber).2.ranges = (received.insert packetNumber).2.ranges ∧
      (words.insert packetNumber).2.trackedPacketNumberCount =
        (received.insert packetNumber).2.trackedPacketNumberCount := by
    unfold PacketNumberWords.insert
    rw [h.ranges, hruns]
    split
    · next hnone =>
      unfold QuicReceivedPacketNumbers.insert
      split
      · exact ⟨rfl, h.ranges, h.count⟩
      · next hsome => exact nomatch hnone.symm.trans hsome
    rename_i hsome
    unfold QuicReceivedPacketNumbers.insert
    split
    · next hnone => exact nomatch hnone.symm.trans hsome
    rename_i hsome'
    refine ⟨rfl, Option.some.inj (hsome.symm.trans hsome'), ?_⟩
    -- The count can only go around when the new set is everything.
    have hnew : received.trackedPacketNumberCount + 1 < 2 ^ 64 := by
      have hcard := card_lt_of_free hbounded h.free_lt hnotMem
      rw [received.insert_members, Finset.card_insert_of_notMem, received.card_members] at hcard
      · exact hcard
      have hspec := insertPacketNumber_spec received.canonical packetNumber
      rw [hsome] at hspec
      rw [mem_members]
      exact hspec.1
    show next words.trackedPacketNumberCount = _
    rw [h.count]
    exact next_eq (by omega)
  exact ⟨hresult.1, ⟨hresult.2.1, hresult.2.2, hbounded, h.free_lt, hnotMem⟩⟩

theorem dropOldestUntil_eq (h : Represents free words received) (maximumTracked : Nat) :
    Represents free (words.dropOldestUntil maximumTracked)
      (received.dropOldestUntil maximumTracked) := by
  have hsubset : (received.dropOldestUntil maximumTracked).members ⊆
      received.members := by
    rw [received.dropOldestUntil_members]
    exact highest_subset _ _
  have hcount := h.count_lt
  have hloop := dropOldest_eq maximumTracked received.trackedPacketNumberCount received.ranges
    received.canonical.proper
    (fun run hrun => h.bounded _ (first_mem hrun).2) received.counted
    (by omega)
  have hwords : words.dropOldestUntil maximumTracked =
      ⟨(received.dropOldestUntil maximumTracked).ranges,
        (received.dropOldestUntil maximumTracked).trackedPacketNumberCount⟩ := by
    unfold PacketNumberWords.dropOldestUntil
    rw [h.ranges, h.count, hloop]
    rfl
  rw [hwords]
  exact ⟨rfl, rfl, fun n hn => h.bounded n (hsubset hn), h.free_lt,
    fun hfree => h.free_notMem (hsubset hfree)⟩

end Represents

end PacketNumberWords

/-! ## Sequences of calls -/

inductive PacketNumberCall where
  | insert (packetNumber : Nat)
  | dropOldestUntil (maximumTracked : Nat)
  deriving DecidableEq, Repr

/-- The state after the calls and what the insertions answered. -/
def runPacketNumberCalls (calls : List PacketNumberCall) : PacketNumberWords × List Bool :=
  calls.foldl (fun (words, answers) call =>
    match call with
    | .insert packetNumber =>
      ((words.insert packetNumber).2, answers ++ [(words.insert packetNumber).1])
    | .dropOldestUntil maximumTracked =>
      (words.dropOldestUntil maximumTracked, answers)) (⟨[], 0⟩, [])

/-- The same calls on a finite set of integers. -/
def runSetCalls (calls : List PacketNumberCall) : Finset Nat × List Bool :=
  calls.foldl (fun (members, answers) call =>
    match call with
    | .insert packetNumber =>
      (insert packetNumber members, answers ++ [decide (packetNumber ∉ members)])
    | .dropOldestUntil maximumTracked =>
      (highest maximumTracked members, answers)) (∅, [])

/-- The words after the calls are those of a structure that holds the set,
and the answers are the set's. -/
theorem runPacketNumberCalls_represents {free : Nat} (hfree : free < 2 ^ 64)
    (calls : List PacketNumberCall)
    (hwords : ∀ packetNumber, .insert packetNumber ∈ calls →
      packetNumber < 2 ^ 64 ∧ packetNumber ≠ free) :
    ∃ received : QuicReceivedPacketNumbers,
      PacketNumberWords.Represents free (runPacketNumberCalls calls).1 received ∧
      received.members = (runSetCalls calls).1 ∧
      (runPacketNumberCalls calls).2 = (runSetCalls calls).2 := by
  induction calls using reverseRecOn with
  | nil => exact ⟨.empty, .empty hfree, rfl, rfl⟩
  | append_singleton calls call ih =>
    obtain ⟨received, hrep, hmembers, hanswers⟩ := ih fun packetNumber h =>
      hwords packetNumber (mem_append_left _ h)
    unfold runPacketNumberCalls runSetCalls at *
    rw [foldl_append, foldl_append]
    generalize calls.foldl _ _ = words at *
    generalize calls.foldl _ _ = members at *
    cases call with
    | insert packetNumber =>
      obtain ⟨hnumber, hne⟩ := hwords packetNumber (by simp)
      obtain ⟨hanswer, hnext⟩ := hrep.insert_eq hnumber hne
      refine ⟨_, hnext, ?_, ?_⟩
      · rw [received.insert_members, hmembers]
        rfl
      · show words.2 ++ [_] = members.2 ++ [_]
        rw [hanswers, hanswer, received.insert_isNew, hmembers]
    | dropOldestUntil maximumTracked =>
      refine ⟨_, hrep.dropOldestUntil_eq maximumTracked, ?_, hanswers⟩
      rw [received.dropOldestUntil_members, hmembers]
      rfl

/-- Over any sequence of calls that leaves one 64-bit number out, the class
is a finite set of integers: the ranges are sorted, disjoint and apart and
cover the set, the count is the set's cardinality, and an insertion answers
whether the number is not in it. Pruning keeps the greatest numbers. -/
theorem packetNumbers_refine_set (calls : List PacketNumberCall)
    (hwords : ∀ packetNumber, .insert packetNumber ∈ calls → packetNumber < 2 ^ 64)
    (hfree : ∃ free < 2 ^ 64, .insert free ∉ calls) :
    Canonical (runPacketNumberCalls calls).1.ranges ∧
      (∀ n, Covers (runPacketNumberCalls calls).1.ranges n ↔ n ∈ (runSetCalls calls).1) ∧
      (runPacketNumberCalls calls).1.trackedPacketNumberCount = (runSetCalls calls).1.card ∧
      (runPacketNumberCalls calls).2 = (runSetCalls calls).2 := by
  obtain ⟨free, hlt, hnot⟩ := hfree
  obtain ⟨received, hrep, hmembers, hanswers⟩ :=
    runPacketNumberCalls_represents hlt calls fun packetNumber h =>
      ⟨hwords packetNumber h, fun heq => hnot (heq ▸ h)⟩
  rw [hrep.ranges, hrep.count, ← hmembers, received.card_members]
  exact ⟨received.canonical, fun n =>
    mem_members.symm, rfl, hanswers⟩

/-- Two numbers at the top, the gap above them, and a cut through a run. -/
theorem packetNumbers_refine_set_top :
    (runPacketNumberCalls [.insert 0, .insert (2 ^ 64 - 3),
        .insert (2 ^ 64 - 2), .insert (2 ^ 64 - 2),
        .dropOldestUntil 1]).1.trackedPacketNumberCount =
      (runSetCalls [.insert 0, .insert (2 ^ 64 - 3), .insert (2 ^ 64 - 2),
        .insert (2 ^ 64 - 2), .dropOldestUntil 1]).1.card :=
  (packetNumbers_refine_set [.insert 0, .insert (2 ^ 64 - 3),
    .insert (2 ^ 64 - 2), .insert (2 ^ 64 - 2), .dropOldestUntil 1]
    (by simp) ⟨2 ^ 64 - 1, by decide, by simp⟩).2.2.1

end AsynGyanis.Quic
