import Mathlib

/-!
# Items cut out of an input that arrives piece by piece

A buffer keeps what has arrived; from its front one item after the other is
cut off as soon as all of it is there. `Framing.next` says what one look at
the buffer gives: an item and what is behind it, nothing yet, or a refusal.
What it says must not depend on what arrives later (`Framing.Stable`): an
item stays the same item and a refusal the same refusal.

Then neither the cuts of the input nor the moments at which the buffer is
looked at make a difference. `parse` is the one way to read an input, and
every mixture of arrivals and looks leads to what it gives
(`Framing.outcome_run`). A refusal is for good, and what is behind it is not
compared.
-/

namespace AsynGyanis.Library

variable {σ α ε : Type}

/-- How an item is cut off: the state takes the item in. -/
structure Framing (σ α ε : Type) where
  next : σ → List α → Except ε (Option (σ × List α))

namespace Framing

variable (F : Framing σ α ε)

/-- More input changes nothing, and an item takes some of it. -/
structure Stable : Prop where
  taken : ∀ {s : σ} {input : List α} {s' : σ} {rest : List α},
    F.next s input = .ok (some (s', rest)) → ∀ more,
      F.next s (input ++ more) = .ok (some (s', rest ++ more))
  refused : ∀ {s : σ} {input : List α} {e : ε},
    F.next s input = .error e → ∀ more, F.next s (input ++ more) = .error e
  shorter : ∀ {s : σ} {input : List α} {s' : σ} {rest : List α},
    F.next s input = .ok (some (s', rest)) → rest.length < input.length

/-! ## One input -/

/-- All items of an input, and what is left or why it was refused. -/
def cutOff : Nat → σ → List α → σ × Except ε (List α)
  | 0, s, input => (s, .ok input)
  | rounds + 1, s, input =>
    match F.next s input with
    | .error e => (s, .error e)
    | .ok none => (s, .ok input)
    | .ok (some (s', rest)) => cutOff rounds s' rest

/-- Every item takes at least one element, and one look finds no more. -/
def parse (s : σ) (input : List α) : σ × Except ε (List α) := F.cutOff (input.length + 1) s input

variable {F} (h : F.Stable)

variable {s : σ} {input : List α}

theorem parse_refused {e : ε} (hnext : F.next s input = .error e) :
    F.parse s input = (s, .error e) := by
  rw [parse, cutOff, hnext]

theorem parse_waiting (hnext : F.next s input = .ok none) : F.parse s input = (s, .ok input) := by
  rw [parse, cutOff, hnext]

include h

theorem cutOff_congr {n m : Nat} (hn : input.length < n) (hm : input.length < m) :
    F.cutOff n s input = F.cutOff m s input := by
  induction n generalizing m s input with
  | zero => exact absurd hn (Nat.not_lt_zero _)
  | succ n ih =>
    cases m with
    | zero => exact absurd hm (Nat.not_lt_zero _)
    | succ m =>
      rw [cutOff, cutOff]
      split
      · rfl
      · rfl
      rename_i s' rest hnext
      have hlt := h.shorter hnext
      exact ih (by omega) (by omega)

theorem parse_taken {s' : σ} {rest : List α} (hnext : F.next s input = .ok (some (s', rest))) :
    F.parse s input = F.parse s' rest := by
  have hlt := h.shorter hnext
  rw [parse, cutOff, hnext]
  exact cutOff_congr h (by omega) (by omega)

theorem parse_append (s : σ) (input more : List α) : F.parse s (input ++ more) =
      match F.parse s input with
      | (s', .error e) => (s', .error e)
      | (s', .ok rest) => F.parse s' (rest ++ more) := by
  induction hlength : input.length using Nat.strongRecOn generalizing s input with
  | ind n ih =>
    subst hlength
    cases hnext : F.next s input with
    | error e =>
      rw [parse_refused hnext, parse_refused (h.refused hnext more)]
    | ok item =>
      cases item with
      | none => rw [parse_waiting hnext]
      | some item =>
        obtain ⟨s', rest⟩ := item
        rw [parse_taken h hnext, parse_taken h (h.taken hnext more)]
        exact ih rest.length (h.shorter hnext) s' rest rfl

omit h

theorem parse_induction {P : σ → Prop}
    (hitem : ∀ s input s' rest, P s → F.next s input = .ok (some (s', rest)) → P s')
    (hs : P s) (input : List α) : P (F.parse s input).1 := by
  unfold parse
  generalize input.length + 1 = rounds
  induction rounds generalizing s input with
  | zero => exact hs
  | succ rounds ih =>
    rw [cutOff]
    split
    · exact hs
    · exact hs
    · next s' rest hnext => exact ih (hitem s input s' rest hs hnext) rest

/-! ## Arrivals and looks -/

structure Progress (σ α ε : Type) where
  state : σ
  unread : List α := []
  refusal : Option ε := none

inductive Event (α : Type)
  | feed (piece : List α)
  | look

/-- Everything that arrives. -/
def arrivals : List (Event α) → List α
  | [] => []
  | .feed piece :: events => piece ++ arrivals events
  | .look :: events => arrivals events

variable (p : Progress σ α ε)

def feed (piece : List α) : Progress σ α ε :=
  match p.refusal with
  | some _ => p
  | none => { p with unread := p.unread ++ piece }

variable (F) in
def look : Progress σ α ε :=
  match p.refusal with
  | some _ => p
  | none =>
    match F.next p.state p.unread with
    | .error e => { p with refusal := some e }
    | .ok none => p
    | .ok (some (s, rest)) => { p with state := s, unread := rest }

variable (F) in
def apply : Event α → Progress σ α ε
  | .feed piece => feed p piece
  | .look => F.look p

variable (F) in
/-- What is there once all of the buffer has been read. -/
def outcome : σ × Except ε (List α) :=
  match p.refusal with
  | some e => (p.state, .error e)
  | none => F.parse p.state p.unread

include h

theorem outcome_look : F.outcome (F.look p) = F.outcome p := by
  obtain ⟨s, unread, refusal⟩ := p
  cases refusal with
  | some e => rfl
  | none =>
    cases hnext : F.next s unread with
    | error e => simp only [look, outcome, hnext, parse_refused hnext]
    | ok item =>
      cases item with
      | none => simp only [look, outcome, hnext]
      | some item => simp only [look, outcome, hnext, parse_taken h hnext]

theorem outcome_feed (piece : List α) : F.outcome (feed p piece) =
      match F.outcome p with
      | (s, .error e) => (s, .error e)
      | (s, .ok rest) => F.parse s (rest ++ piece) := by
  obtain ⟨s, unread, refusal⟩ := p
  cases refusal with
  | some e => rfl
  | none => exact parse_append h s unread piece

theorem outcome_run (events : List (Event α)) : F.outcome (events.foldl F.apply p) =
      F.outcome (feed p (arrivals events)) := by
  induction events generalizing p with
  | nil =>
    obtain ⟨s, unread, refusal⟩ := p
    cases refusal with
    | some e => rfl
    | none => simp only [List.foldl_nil, feed, arrivals, List.append_nil]
  | cons event events ih =>
    rw [List.foldl_cons, ih]
    cases event with
    | look =>
      show F.outcome (feed (F.look p) (arrivals events)) = _
      rw [outcome_feed h, outcome_look h, ← outcome_feed h]
      rfl
    | feed piece =>
      show F.outcome (feed (feed p piece) (arrivals events)) =
        F.outcome (feed p (piece ++ arrivals events))
      cases hrefusal : p.refusal with
      | some e => simp only [feed, hrefusal]
      | none => simp only [feed, hrefusal, List.append_assoc]

omit h

end Framing

end AsynGyanis.Library
