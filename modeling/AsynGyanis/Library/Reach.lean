import Mathlib

/-!
# Runs of a state machine

A machine is a total step function together with a side condition that
says which events may happen in which state: what the caller promises,
that the call reported no error, or the condition a theorem is stated
under. `Reach` is the set of states its runs lead to.

Every safety result in this development has the same shape: an invariant
holds at the start and is kept by each permitted step, so it holds in
every reachable state. `Reach.invariant` is that induction, done once.
Concrete runs are lists of events; `Permitted` checks the side condition
along one and is decidable whenever the side condition is.
-/

namespace AsynGyanis.Library

variable {σ ε : Type} {step : σ → ε → σ} {ok ok' : σ → ε → Prop} {init : σ}

/-- The states some run of permitted events leads to. -/
inductive Reach (step : σ → ε → σ) (ok : σ → ε → Prop) (init : σ) : σ → Prop
  | start : Reach step ok init init
  | next {s : σ} {e : ε} : Reach step ok init s → ok s e → Reach step ok init (step s e)

/-- What holds initially and survives every permitted step holds in every
reachable state. -/
theorem Reach.invariant {P : σ → Prop} {s : σ} (h : Reach step ok init s)
    (hinit : P init) (hstep : ∀ s e, P s → ok s e → P (step s e)) : P s := by
  induction h with
  | start => exact hinit
  | next _ hok ih => exact hstep _ _ ih hok

theorem Reach.invariant_with {P Q : σ → Prop} {s : σ}
    (h : Reach step ok init s) (hP : ∀ s, Reach step ok init s → P s)
    (hinit : Q init) (hstep : ∀ s e, P s → Q s → ok s e → Q (step s e)) : Q s := by
  induction h with
  | start => exact hinit
  | next hreach hok ih => exact hstep _ _ (hP _ hreach) ih hok

theorem Reach.single {s : σ} {e : ε} (h : ok s e) : Reach step ok s (step s e) :=
  Reach.next .start h

theorem Reach.trans {s t : σ} (h : Reach step ok init s)
    (h' : Reach step ok s t) : Reach step ok init t := by
  induction h' with
  | start => exact h
  | next _ hok ih => exact Reach.next ih hok

theorem Reach.mono {s : σ} (h : Reach step ok init s)
    (hle : ∀ s e, ok s e → ok' s e) : Reach step ok' init s := by
  induction h with
  | start => exact Reach.start
  | next _ hok ih => exact Reach.next ih (hle _ _ hok)

/-- Every event of the list is permitted in the state it meets. -/
def Permitted (step : σ → ε → σ) (ok : σ → ε → Prop) : σ → List ε → Prop
  | _, [] => True
  | s, e :: rest => ok s e ∧ Permitted step ok (step s e) rest

instance [∀ s e, Decidable (ok s e)] : ∀ (s : σ) (es : List ε), Decidable (Permitted step ok s es)
  | _, [] => isTrue trivial
  | s, e :: rest =>
    have : Decidable (Permitted step ok (step s e) rest) := instDecidablePermitted (step s e) rest
    inferInstanceAs (Decidable (ok s e ∧ Permitted step ok (step s e) rest))

theorem Reach.run {s : σ} (h : Reach step ok init s) (es : List ε) (hes : Permitted step ok s es) :
    Reach step ok init (es.foldl step s) := by
  induction es generalizing s with
  | nil => exact h
  | cons e rest ih => exact ih (Reach.next h hes.1) hes.2

/-- A fold keeps what each of its steps keeps, whatever it folds over. -/
theorem foldl_invariant {α β : Type} {f : β → α → β} {P : β → Prop}
    (hf : ∀ b a, P b → P (f b a)) (l : List α) (b : β) (h : P b) : P (l.foldl f b) := by
  induction l generalizing b with
  | nil => exact h
  | cons a rest ih => exact ih _ (hf b a h)

end AsynGyanis.Library
