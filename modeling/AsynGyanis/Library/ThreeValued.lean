import Mathlib

/-!
# Three truth values

A comparison with an absent value is neither true nor false. The third value
is `none`; conjunction and disjunction are the minimum and the maximum in
the order false, unknown, true, and negation turns the order around. What
chains of them need is here: the conjunction of a list is true exactly when
every member is, the disjunction when some member is, however the chain was
bracketed.
-/

namespace AsynGyanis.Library

abbrev Truth := Option Bool

namespace Truth

def not : Truth → Truth
  | some value => some !value
  | none => none

def and : Truth → Truth → Truth
  | some false, _ => some false
  | _, some false => some false
  | some true, other => other
  | other, some true => other
  | none, none => none

def or : Truth → Truth → Truth
  | some true, _ => some true
  | _, some true => some true
  | some false, other => other
  | other, some false => other
  | none, none => none

/-- The conjunction of a list; of none, true. -/
def all : List Truth → Truth
  | [] => some true
  | value :: rest => and value (all rest)

/-- The disjunction of a list; of none, false. -/
def any : List Truth → Truth
  | [] => some false
  | value :: rest => or value (any rest)

theorem and_assoc (a b c : Truth) : and (and a b) c = and a (and b c) := by
  rcases a with _ | _ | _ <;> rcases b with _ | _ | _ <;>
    rcases c with _ | _ | _ <;> rfl

theorem or_assoc (a b c : Truth) : or (or a b) c = or a (or b c) := by
  rcases a with _ | _ | _ <;> rcases b with _ | _ | _ <;>
    rcases c with _ | _ | _ <;> rfl

theorem and_true (a : Truth) : and a (some true) = a := by
  rcases a with _ | _ | _ <;> rfl

theorem or_false (a : Truth) : or a (some false) = a := by
  rcases a with _ | _ | _ <;> rfl

theorem foldl_and (first : Truth) (rest : List Truth) :
    rest.foldl and first = all (first :: rest) := by
  induction rest generalizing first with
  | nil => exact (and_true first).symm
  | cons next rest ih =>
    rw [List.foldl_cons, ih, all, all, all, and_assoc]

theorem foldl_or (first : Truth) (rest : List Truth) :
    rest.foldl or first = any (first :: rest) := by
  induction rest generalizing first with
  | nil => exact (or_false first).symm
  | cons next rest ih =>
    rw [List.foldl_cons, ih, any, any, any, or_assoc]

theorem and_eq_true {a b : Truth} : and a b = some true ↔ a = some true ∧ b = some true := by
  rcases a with _ | _ | _ <;> rcases b with _ | _ | _ <;> decide

theorem all_eq_true {values : List Truth} :
    all values = some true ↔ ∀ value ∈ values, value = some true := by
  induction values with
  | nil => exact ⟨fun _ => nofun, fun _ => rfl⟩
  | cons value rest ih => rw [all, and_eq_true, ih, List.forall_mem_cons]

end Truth

end AsynGyanis.Library
