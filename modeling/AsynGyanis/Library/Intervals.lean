import AsynGyanis.Library.HighestMembers

/-!
# Sets of numbers kept as intervals

A set of natural numbers that grows mostly in order is cheapest kept as the
ascending list of its maximal runs. `Canonical` says that the list is such
a list: the runs are non-empty, ascending, and no two of them touch.
`numbersOf` spells the set out again, in order, and is what every operation
on the runs is judged by.
-/

namespace AsynGyanis.Library

/-- A run of consecutive numbers, both ends included. -/
structure Interval where
  first : Nat
  last : Nat
  deriving DecidableEq, Repr

namespace Interval

def Contains (run : Interval) (n : Nat) : Prop := run.first ≤ n ∧ n ≤ run.last

instance (run : Interval) (n : Nat) : Decidable (run.Contains n) :=
  inferInstanceAs (Decidable (_ ∧ _))

def span (run : Interval) : Nat := run.last - run.first + 1

/-- The members of a run, ascending. -/
def numbers (run : Interval) : List Nat := List.range' run.first run.span

theorem mem_numbers {run : Interval} (h : run.first ≤ run.last) {n : Nat} :
    n ∈ run.numbers ↔ run.Contains n := by
  simp only [numbers, span, List.mem_range'_1, Contains]
  omega

@[simp] theorem length_numbers (run : Interval) : run.numbers.length = run.span := by
  simp [numbers]

end Interval

open Interval

/-- Ascending runs that neither overlap nor touch. -/
structure Canonical (runs : List Interval) : Prop where
  apart : runs.Pairwise fun a b => a.last + 1 < b.first
  proper : ∀ run ∈ runs, run.first ≤ run.last

/-- The set a list of runs stands for. -/
def Covers (runs : List Interval) (n : Nat) : Prop := ∃ run ∈ runs, run.Contains n

instance (runs : List Interval) (n : Nat) : Decidable (Covers runs n) :=
  inferInstanceAs (Decidable (∃ _ ∈ runs, _))

def numbersOf (runs : List Interval) : List Nat := runs.flatMap numbers

@[simp] theorem numbersOf_nil : numbersOf [] = [] := rfl

@[simp] theorem numbersOf_cons (run : Interval) (runs : List Interval) :
    numbersOf (run :: runs) = run.numbers ++ numbersOf runs := rfl

@[simp] theorem covers_nil (n : Nat) : ¬ Covers [] n := by
  simp [Covers]

@[simp] theorem covers_cons {run : Interval} {runs : List Interval}
    {n : Nat} : Covers (run :: runs) n ↔ run.Contains n ∨ Covers runs n := by
  simp [Covers]

@[simp] theorem covers_append {left right : List Interval} {n : Nat} :
    Covers (left ++ right) n ↔ Covers left n ∨ Covers right n := by
  simp only [Covers, List.mem_append, or_and_right, exists_or]

namespace Canonical

variable {runs left right : List Interval} {run : Interval} {n : Nat}

theorem nil : Canonical [] := ⟨List.Pairwise.nil, by simp⟩

theorem cons_iff : Canonical (run :: runs) ↔
    run.first ≤ run.last ∧ (∀ r ∈ runs, run.last + 1 < r.first) ∧ Canonical runs := by
  constructor
  · intro h
    obtain ⟨hhead, hrest⟩ := List.pairwise_cons.mp h.apart
    exact ⟨h.proper run List.mem_cons_self, hhead, hrest,
      fun r hr => h.proper r (List.mem_cons_of_mem _ hr)⟩
  rintro ⟨hproper, hhead, hrest⟩
  refine ⟨List.pairwise_cons.mpr ⟨hhead, hrest.apart⟩, ?_⟩
  intro r hr
  rcases List.mem_cons.mp hr with rfl | hr
  · exact hproper
  · exact hrest.proper r hr

theorem append_iff : Canonical (left ++ right) ↔ Canonical left ∧ Canonical right ∧
      ∀ a ∈ left, ∀ b ∈ right, a.last + 1 < b.first := by
  constructor
  · intro h
    obtain ⟨hleft, hright, hacross⟩ := List.pairwise_append.mp h.apart
    exact ⟨⟨hleft, fun r hr => h.proper r (List.mem_append_left _ hr)⟩,
      ⟨hright, fun r hr => h.proper r (List.mem_append_right _ hr)⟩,
      hacross⟩
  rintro ⟨hleft, hright, hacross⟩
  refine ⟨List.pairwise_append.mpr ⟨hleft.apart, hright.apart, hacross⟩, fun r hr => ?_⟩
  rcases List.mem_append.mp hr with hr | hr
  · exact hleft.proper r hr
  · exact hright.proper r hr

theorem mem_numbersOf (h : Canonical runs) : n ∈ numbersOf runs ↔ Covers runs n := by
  simp only [numbersOf, List.mem_flatMap, Covers]
  constructor
  · rintro ⟨r, hr, hn⟩
    exact ⟨r, hr, (mem_numbers (h.proper r hr)).mp hn⟩
  · rintro ⟨r, hr, hn⟩
    exact ⟨r, hr, (mem_numbers (h.proper r hr)).mpr hn⟩

theorem numbersOf_sorted (h : Canonical runs) : (numbersOf runs).Pairwise (· < ·) := by
  induction runs with
  | nil => exact List.Pairwise.nil
  | cons run rest ih =>
    obtain ⟨hproper, hhead, hrest⟩ := cons_iff.mp h
    refine List.pairwise_append.mpr ⟨List.pairwise_lt_range', ih hrest, fun a ha b hb => ?_⟩
    obtain ⟨r, hr, hbr⟩ := hrest.mem_numbersOf.mp hb
    have hr := hhead r hr
    have ha := (mem_numbers hproper).mp ha
    have hbr := hbr.1
    have ha := ha.2
    omega

end Canonical

/-! ## Dropping the lowest members -/

/-- The runs without their `excess` lowest members. A run that only partly
goes loses its front. -/
def dropLowest : Nat → List Interval → List Interval
  | _, [] => []
  | excess, run :: rest =>
    if run.span ≤ excess then dropLowest (excess - run.span) rest
    else { run with first := run.first + excess } :: rest

theorem dropLowest_zero (runs : List Interval) : dropLowest 0 runs = runs := by
  cases runs with
  | nil => rfl
  | cons run rest =>
    have hspan : ¬ run.span ≤ 0 := by
      unfold span
      omega
    simp [dropLowest, hspan]

theorem dropLowest_canonical {runs : List Interval} (h : Canonical runs)
    (excess : Nat) : Canonical (dropLowest excess runs) := by
  induction runs generalizing excess with
  | nil => exact Canonical.nil
  | cons run rest ih =>
    obtain ⟨hproper, hhead, hrest⟩ := Canonical.cons_iff.mp h
    unfold dropLowest
    split
    · exact ih hrest _
    rename_i hspan
    refine Canonical.cons_iff.mpr ⟨?_, hhead, hrest⟩
    simp only [span] at hspan
    simp only
    omega

theorem numbersOf_dropLowest {runs : List Interval} (h : Canonical runs) (excess : Nat) :
    numbersOf (dropLowest excess runs) = (numbersOf runs).drop excess := by
  induction runs generalizing excess with
  | nil => simp [dropLowest]
  | cons run rest ih =>
    obtain ⟨hproper, -, hrest⟩ := Canonical.cons_iff.mp h
    unfold dropLowest
    split
    · next hspan =>
      have hgone : run.numbers.drop excess = [] := List.drop_eq_nil_of_le (by rwa [length_numbers])
      rw [ih hrest, numbersOf_cons, List.drop_append, length_numbers, hgone, List.nil_append]
    rename_i hspan
    have hspan : excess < run.span := Nat.lt_of_not_le hspan
    rw [numbersOf_cons, numbersOf_cons, List.drop_append,
      length_numbers, Nat.sub_eq_zero_of_le (Nat.le_of_lt hspan),
      List.drop_zero]
    congr 1
    simp only [numbers, span, List.drop_range'] at hspan ⊢
    congr 1
    · omega
    · omega

/-- Cutting a canonical list down to `k` members keeps the greatest. -/
theorem dropLowest_keeps_highest {runs : List Interval} (h : Canonical runs) (k : Nat) :
    (numbersOf (dropLowest ((numbersOf runs).length - k) runs)).toFinset =
      highest k (numbersOf runs).toFinset := by
  rw [numbersOf_dropLowest h]
  exact toFinset_drop_eq_highest h.numbersOf_sorted k

end AsynGyanis.Library
