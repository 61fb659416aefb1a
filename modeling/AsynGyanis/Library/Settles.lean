import Mathlib

/-!
# Computations with fuel

A recursive descent has no measure that every call makes smaller, so its
functions take a number of steps they may still make. Nothing is claimed
about small numbers: a computation settles on a result when it gives that
result from some number of steps on. Results are then unique, and a
computation that calls another settles as soon as the other one does.
-/

namespace AsynGyanis.Library

/-- From some fuel on, the result is `result`. -/
def Settles {α : Type} (computation : Nat → α) (result : α) : Prop :=
  ∃ enough, ∀ fuel, enough ≤ fuel → computation fuel = result

namespace Settles

variable {α β : Type} {computation : Nat → α} {a b : α}

theorem unique (ha : Settles computation a) (hb : Settles computation b) : a = b := by
  obtain ⟨n, hn⟩ := ha
  obtain ⟨m, hm⟩ := hb
  rw [← hn (max n m) (Nat.le_max_left n m), hm _ (Nat.le_max_right n m)]

theorem const (a : α) : Settles (fun _ => a) a := ⟨0, fun _ _ => rfl⟩

theorem step {other : Nat → β} {result : β} (h : Settles computation a)
    (hstep : ∀ fuel, computation fuel = a → other (fuel + 1) = result) :
    Settles other result := by
  obtain ⟨n, hn⟩ := h
  refine ⟨n + 1, fun fuel hfuel => ?_⟩
  obtain ⟨before, rfl⟩ : ∃ before, fuel = before + 1 := ⟨fuel - 1, by omega⟩
  exact hstep before (hn before (by omega))

theorem pair {other : Nat → β} {b : β} (ha : Settles computation a) (hb : Settles other b) :
    Settles (fun fuel => (computation fuel, other fuel)) (a, b) := by
  obtain ⟨n, hn⟩ := ha
  obtain ⟨m, hm⟩ := hb
  refine ⟨max n m, fun fuel hfuel => ?_⟩
  show (computation fuel, other fuel) = (a, b)
  rw [hn fuel (by omega), hm fuel (by omega)]

theorem stepPair {γ : Type} {second : Nat → β} {b : β} {other : Nat → γ}
    {result : γ} (ha : Settles computation a) (hb : Settles second b)
    (hstep : ∀ fuel, computation fuel = a → second fuel = b →
      other (fuel + 1) = result) : Settles other result :=
  (ha.pair hb).step fun fuel h =>
    hstep fuel (congrArg Prod.fst h) (congrArg Prod.snd h)

end Settles

end AsynGyanis.Library
