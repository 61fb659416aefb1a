import Mathlib

/-!
# Readers that can be interrupted

A reader works its input off in rounds. A round takes some of the input and
leaves the rest; when the input is used up in the middle of something, the
reader remembers what it has and goes on with the next input. `graze` has the
reader take its input an element at a time, and so it has no idea of cuts: two
pieces are grazed like one (`graze_append`). `Resumable` says what one round
has to satisfy so that reading comes to the same as grazing: the first element
of its input may as well be taken alone, and either that is all the round
does, or what it does is what the next round does with the others, or the
reader refuses in both ways for one reason.

The states of a reader that has refused are not compared, only the reason is:
how much it had read by then does depend on the cuts.
-/

namespace AsynGyanis.Library

open List

variable {σ α β ε : Type}

structure Reader (σ α ε : Type) where
  /-- One round, on an input that is not empty: what is left is returned. -/
  round : σ → List α → σ × List α
  /-- The reader takes nothing more. -/
  stopped : σ → Bool
  /-- Why the reader refuses its input, if it does. -/
  refusal : σ → Option ε

namespace Reader

variable (R : Reader σ α ε)

def run : Nat → σ → List α → σ × List α
  | 0, s, input => (s, input)
  | fuel + 1, s, input =>
    if R.stopped s || input.isEmpty then (s, input)
    else run fuel (R.round s input).1 (R.round s input).2

/-- Rounds until the input is used up or the reader has stopped. -/
def read (s : σ) (input : List α) : σ × List α := R.run input.length s input

/-- The state behind some pieces of input that come one after the other. -/
def feed (s : σ) (pieces : List (List α)) : σ := pieces.foldl (fun s piece => (R.read s piece).1) s

/-- The pieces one by one, each behind what is left of those before it. -/
def deliver (s : σ) (pieces : List (List α)) : σ × List α :=
  pieces.foldl (fun x piece => R.read x.1 (x.2 ++ piece)) (s, [])

/-- A round on a single element. -/
def eat (s : σ) (x : α) : σ := (R.round s [x]).1

/-- The elements one by one, until the reader has stopped. -/
def graze : σ → List α → σ × List α
  | s, [] => (s, [])
  | s, x :: rest =>
    if R.stopped s then (s, x :: rest) else graze (R.eat s x) rest

/-- The same outcome: one state, or refusals for one reason. -/
def Same (s t : σ) : Prop := s = t ∨ ∃ e, R.refusal s = some e ∧ R.refusal t = some e

/-- The same outcome, and if it is no refusal, the same rest. -/
def SameRest (x y : σ × List α) : Prop :=
  x = y ∨ ∃ e, R.refusal x.1 = some e ∧ R.refusal y.1 = some e

/-- All rounds of the reader on an input are fair ones. -/
inductive Fair (fair : σ → List α → Prop) : σ → List α → Prop
  | done {s : σ} {input : List α} (h : R.stopped s = true ∨ input = []) : Fair fair s input
  | next {s : σ} {input : List α} (h : fair s input)
      (hrest : Fair fair (R.round s input).1 (R.round s input).2) :
      Fair fair s input

/-- What a round does with an element in front of others, against what it
does with the element alone. -/
inductive Splits (fair : σ → List α → Prop) (s : σ) (x : α) (b : List α) :
    Prop
  | apart (h : R.round s (x :: b) = (R.eat s x, b))
  | across (hb : b ≠ []) (hstopped : R.stopped (R.eat s x) = false) (hfair : fair (R.eat s x) b)
      (h : R.SameRest (R.round s (x :: b)) (R.round (R.eat s x) b))
  | refused (e : ε) (hx : R.refusal (R.eat s x) = some e)
      (hxb : R.refusal (R.round s (x :: b)).1 = some e)

/-- What makes the cuts of the input irrelevant. -/
structure Resumable (inv : σ → Prop) (fair : σ → List α → Prop) : Prop where
  refusal_stopped : ∀ s e, R.refusal s = some e → R.stopped s = true
  inv_round : ∀ s input, inv s → R.stopped s = false → input ≠ [] → inv (R.round s input).1
  progress : ∀ s input, inv s → R.stopped s = false → input ≠ [] →
    (R.round s input).2.length < input.length ∨ (R.refusal (R.round s input).1).isSome = true
  fair_before : ∀ s a b, inv s → fair s (a ++ b) → fair s a
  splits : ∀ s x b, inv s → R.stopped s = false → fair s (x :: b) → R.Splits fair s x b

variable {R} {inv : σ → Prop} {fair : σ → List α → Prop}

theorem SameRest.refl (x : σ × List α) : R.SameRest x x := .inl rfl

variable {x y : σ × List α}

theorem SameRest.symm (h : R.SameRest x y) : R.SameRest y x :=
  h.imp Eq.symm fun ⟨e, hx, hy⟩ => ⟨e, hy, hx⟩

theorem SameRest.trans {z : σ × List α} (hxy : R.SameRest x y)
    (hyz : R.SameRest y z) : R.SameRest x z := by
  rcases hxy with rfl | ⟨e, hx, hy⟩
  · exact hyz
  rcases hyz with rfl | ⟨f, hy', hz⟩
  · exact .inr ⟨e, hx, hy⟩
  · cases hy.symm.trans hy'
    exact .inr ⟨e, hx, hz⟩

theorem SameRest.same (h : R.SameRest x y) : R.Same x.1 y.1 := h.imp (congrArg Prod.fst) id

theorem SameRest.eq (h : R.SameRest x y) (hy : R.refusal y.1 = none) : x = y :=
  h.resolve_right fun ⟨_, _, he⟩ => nomatch he.symm.trans hy

theorem Same.trans {s t u : σ} (hst : R.Same s t) (htu : R.Same t u) : R.Same s u := by
  rcases hst with rfl | ⟨e, hs, ht⟩
  · exact htu
  rcases htu with rfl | ⟨f, ht', hu⟩
  · exact .inr ⟨e, hs, ht⟩
  · cases ht.symm.trans ht'
    exact .inr ⟨e, hs, hu⟩

theorem Same.refusal_eq {s t : σ} (h : R.Same s t) : R.refusal s = R.refusal t := by
  rcases h with rfl | ⟨e, hs, ht⟩
  · rfl
  · exact hs.trans ht.symm

variable {s : σ} {input : List α}

/-! ## Rounds and reading -/

theorem run_stopped (h : R.stopped s = true ∨ input = []) (fuel : Nat) :
    R.run fuel s input = (s, input) := by
  cases fuel with
  | zero => rfl
  | succ fuel =>
    rw [run, if_pos]
    rcases h with h | rfl
    · rw [h, Bool.true_or]
    · exact Bool.or_true _

theorem read_stopped (h : R.stopped s = true ∨ input = []) : R.read s input = (s, input) :=
  run_stopped h _

theorem run_succ (hs : R.stopped s = false) (hinput : input ≠ [])
    (fuel : Nat) : R.run (fuel + 1) s input =
      R.run fuel (R.round s input).1 (R.round s input).2 := by
  rw [run, if_neg]
  simp [hs, hinput]

theorem read_single (hs : R.stopped s = false) (x : α) : R.read s [x] = R.round s [x] :=
  run_succ hs (cons_ne_nil x []) 0

theorem feed_stopped (hs : R.stopped s) (pieces : List (List α)) : R.feed s pieces = s := by
  induction pieces with
  | nil => rfl
  | cons piece pieces ih =>
    show R.feed (R.read s piece).1 pieces = s
    rw [read_stopped (.inl hs)]
    exact ih

theorem graze_stopped (hs : R.stopped s) (input : List α) : R.graze s input = (s, input) := by
  cases input with
  | nil => rfl
  | cons x rest => rw [graze, if_pos hs]

theorem graze_cons (hs : R.stopped s = false) (x : α) (rest : List α) :
    R.graze s (x :: rest) = R.graze (R.eat s x) rest := by
  rw [graze, hs, if_neg Bool.false_ne_true]

theorem graze_append (s : σ) (a b : List α) : R.graze s (a ++ b) =
      R.graze (R.graze s a).1 ((R.graze s a).2 ++ b) := by
  induction a generalizing s with
  | nil => rfl
  | cons x a ih =>
    cases hs : R.stopped s with
    | true => rw [graze_stopped hs (x :: a)]
    | false => rw [cons_append, graze_cons hs, graze_cons hs, ih]

theorem feed_singles (s : σ) (input : List α) :
    R.feed s (input.map fun x => [x]) = (R.graze s input).1 := by
  induction input generalizing s with
  | nil => rfl
  | cons x rest ih =>
    cases hs : R.stopped s with
    | true => rw [feed_stopped hs, graze_stopped hs]
    | false =>
      show R.feed (R.read s [x]).1 (rest.map fun x => [x]) = _
      rw [read_single hs, graze_cons hs]
      exact ih _

theorem Fair.of_round (h : R.Fair fair s input) (hs : R.stopped s = false) (hinput : input ≠ []) :
    fair s input ∧ R.Fair fair (R.round s input).1 (R.round s input).2 := by
  cases h with
  | done hdone =>
    rcases hdone with hstop | hnil
    · exact nomatch hs.symm.trans hstop
    · exact absurd hnil hinput
  | next hfair hrest => exact ⟨hfair, hrest⟩

section Resumable

variable (h : R.Resumable inv fair)

include h

theorem read_refused {e : ε} (he : R.refusal s = some e) (input : List α) :
    R.read s input = (s, input) := read_stopped (.inl (h.refusal_stopped s e he))

theorem graze_refused {e : ε} (he : R.refusal s = some e) (input : List α) :
    R.graze s input = (s, input) := graze_stopped (h.refusal_stopped s e he) input

theorem run_congr (n m : Nat) (hinv : inv s) (hn : input.length ≤ n)
    (hm : input.length ≤ m) : R.run n s input = R.run m s input := by
  induction n generalizing m s input with
  | zero =>
    have hnil := length_eq_zero_iff.mp (Nat.le_zero.mp hn)
    rw [run_stopped (.inr hnil), run_stopped (.inr hnil)]
  | succ n ih =>
    by_cases hdone : R.stopped s = true ∨ input = []
    · rw [run_stopped hdone, run_stopped hdone]
    obtain ⟨hs, hinput⟩ := not_or.mp hdone
    rw [Bool.not_eq_true] at hs
    have hpos := length_pos_iff.mpr hinput
    cases m with
    | zero => omega
    | succ m =>
      rw [run_succ hs hinput, run_succ hs hinput]
      rcases h.progress s input hinv hs hinput with hless | hrefused
      · exact ih m (h.inv_round s input hinv hs hinput) (by omega) (by omega)
      obtain ⟨e, he⟩ := Option.isSome_iff_exists.mp hrefused
      have hstop := h.refusal_stopped _ e he
      rw [run_stopped (.inl hstop), run_stopped (.inl hstop)]

theorem read_round (hinv : inv s) (hs : R.stopped s = false) (hinput : input ≠ []) :
    R.read s input = R.read (R.round s input).1 (R.round s input).2 := by
  rw [read, run_congr h input.length (input.length + 1) hinv (Nat.le_refl _)
    (Nat.le_succ _), run_succ hs hinput]
  rcases h.progress s input hinv hs hinput with hless | hrefused
  · exact run_congr h _ _ (h.inv_round s input hinv hs hinput) (by omega) (Nat.le_refl _)
  obtain ⟨e, he⟩ := Option.isSome_iff_exists.mp hrefused
  rw [read_refused h he]
  exact run_stopped (.inl (h.refusal_stopped _ e he)) _

theorem Resumable.induction {P : σ → List α → Prop}
    (done : ∀ s input, R.stopped s = true ∨ input = [] → P s input)
    (next : ∀ s input, inv s → R.stopped s = false → input ≠ [] →
      P (R.round s input).1 (R.round s input).2 → P s input)
    {s : σ} (hinv : inv s) (input : List α) : P s input := by
  generalize hn : input.length = n
  induction n using Nat.strongRecOn generalizing s input with
  | ind n ih =>
    by_cases hdone : R.stopped s = true ∨ input = []
    · exact done s input hdone
    obtain ⟨hs, hinput⟩ := not_or.mp hdone
    rw [Bool.not_eq_true] at hs
    refine next s input hinv hs hinput ?_
    rcases h.progress s input hinv hs hinput with hless | hrefused
    · exact ih _ (hn ▸ hless) (h.inv_round s input hinv hs hinput) _ rfl
    · obtain ⟨e, he⟩ := Option.isSome_iff_exists.mp hrefused
      exact done _ _ (.inl (h.refusal_stopped _ e he))

theorem read_spec (hinv : inv s) (input : List α) : inv (R.read s input).1 ∧
      (R.stopped (R.read s input).1 = true ∨ (R.read s input).2 = []) ∧
      ((R.read s input).2.length ≤ input.length ∨ (R.refusal (R.read s input).1).isSome) := by
  refine h.induction (P := fun s input => inv s → inv (R.read s input).1 ∧
      (R.stopped (R.read s input).1 = true ∨ (R.read s input).2 = []) ∧
      ((R.read s input).2.length ≤ input.length ∨ (R.refusal (R.read s input).1).isSome))
    (fun s input hdone hinv => ?_)
    (fun s input hinv hs hinput ih _ => ?_) hinv input hinv
  · rw [read_stopped hdone]
    exact ⟨hinv, hdone, .inl (Nat.le_refl _)⟩
  obtain ⟨hinv', hrest, hlength⟩ := ih (h.inv_round s input hinv hs hinput)
  rw [read_round h hinv hs hinput]
  refine ⟨hinv', hrest, ?_⟩
  rcases h.progress s input hinv hs hinput with hless | hrefused
  · exact hlength.imp_left fun hle =>
      Nat.le_of_lt (Nat.lt_of_le_of_lt hle hless)
  obtain ⟨e, he⟩ := Option.isSome_iff_exists.mp hrefused
  rw [read_refused h he]
  exact .inr hrefused

theorem read_progress (hinv : inv s) (hs : R.stopped s = false) (hinput : input ≠ []) :
    (R.read s input).2.length < input.length ∨ (R.refusal (R.read s input).1).isSome := by
  have hspec := read_spec h (h.inv_round s input hinv hs hinput) (R.round s input).2
  rw [read_round h hinv hs hinput]
  rcases h.progress s input hinv hs hinput with hless | hrefused
  · exact hspec.2.2.imp_left fun hle => Nat.lt_of_le_of_lt hle hless
  obtain ⟨e, he⟩ := Option.isSome_iff_exists.mp hrefused
  rw [read_refused h he]
  exact .inr hrefused

theorem SameRest.graze (hxy : R.SameRest x y) :
    R.SameRest (R.graze x.1 x.2) (R.graze y.1 y.2) := by
  rcases hxy with rfl | ⟨e, hx, hy⟩
  · exact .refl _
  rw [graze_refused h hx, graze_refused h hy]
  exact .inr ⟨e, hx, hy⟩

theorem SameRest.transfer (hxy : R.SameRest x y)
    (hx : R.Fair fair x.1 x.2) : R.Fair fair y.1 y.2 := by
  rcases hxy with rfl | ⟨e, -, hy⟩
  · exact hx
  · exact .done (.inl (h.refusal_stopped _ e hy))

/-! ## Grazing -/

theorem inv_eat (hinv : inv s) (hs : R.stopped s = false) (x : α) : inv (R.eat s x) :=
  h.inv_round s [x] hinv hs (cons_ne_nil x [])

theorem inv_graze (hinv : inv s) (input : List α) : inv (R.graze s input).1 := by
  induction input generalizing s with
  | nil => exact hinv
  | cons x rest ih =>
    cases hs : R.stopped s with
    | true => rwa [graze_stopped hs]
    | false =>
      rw [graze_cons hs]
      exact ih (inv_eat h hinv hs x)

theorem graze_round (hinv : inv s) (hs : R.stopped s = false)
    (hinput : input ≠ []) (hfair : fair s input) :
    R.SameRest (R.graze (R.round s input).1 (R.round s input).2) (R.graze s input) := by
  induction input generalizing s with
  | nil => exact absurd rfl hinput
  | cons x b ih =>
    rw [graze_cons hs]
    cases h.splits s x b hinv hs hfair with
    | apart hround =>
      rw [hround]
      exact .refl _
    | across hb hstopped hfair' hround =>
      exact (hround.graze h).trans (ih (inv_eat h hinv hs x) hstopped hb hfair')
    | refused e hx hxb =>
      rw [graze_refused h hx, graze_refused h hxb]
      exact .inr ⟨e, hxb, hx⟩

theorem read_graze (hinv : inv s) (hfair : R.Fair fair s input) :
    R.SameRest (R.read s input) (R.graze s input) := by
  refine h.induction (P := fun s input => R.Fair fair s input →
      R.SameRest (R.read s input) (R.graze s input))
    (fun s input hdone _ => ?_)
    (fun s input hinv hs hinput ih hfair => ?_) hinv input hfair
  · rw [read_stopped hdone]
    rcases hdone with hs | rfl
    · rw [graze_stopped hs]
      exact .refl _
    · exact .refl _
  obtain ⟨hfair, hrest⟩ := hfair.of_round hs hinput
  rw [read_round h hinv hs hinput]
  exact (ih hrest).trans (graze_round h hinv hs hinput hfair)

theorem fair_cons (hinv : inv s) (hs : R.stopped s = false) (x : α)
    (b : List α) : R.Fair fair s (x :: b) ↔ fair s (x :: b) ∧ R.Fair fair (R.eat s x) b := by
  constructor
  · intro hfair
    obtain ⟨hfair, hrest⟩ := hfair.of_round hs (cons_ne_nil x b)
    refine ⟨hfair, ?_⟩
    cases h.splits s x b hinv hs hfair with
    | apart hround => rwa [hround] at hrest
    | across _ _ hfair' hround => exact .next hfair' (hround.transfer h hrest)
    | refused e hx _ => exact .done (.inl (h.refusal_stopped _ e hx))
  · rintro ⟨hfair, hrest⟩
    refine .next hfair ?_
    cases h.splits s x b hinv hs hfair with
    | apart hround => rwa [hround]
    | across hb hstopped _ hround =>
      exact hround.symm.transfer h (hrest.of_round hstopped hb).2
    | refused e _ hxb => exact .done (.inl (h.refusal_stopped _ e hxb))

theorem fair_append (hinv : inv s) {a b : List α}
    (hfair : R.Fair fair s (a ++ b)) : R.Fair fair s a ∧
      R.Fair fair (R.graze s a).1 ((R.graze s a).2 ++ b) := by
  induction a generalizing s with
  | nil => exact ⟨.done (.inr rfl), hfair⟩
  | cons x a ih =>
    cases hs : R.stopped s with
    | true =>
      rw [graze_stopped hs]
      exact ⟨.done (.inl hs), hfair⟩
    | false =>
      rw [cons_append, fair_cons h hinv hs] at hfair
      obtain ⟨ha, hb⟩ := ih (inv_eat h hinv hs x) hfair.2
      rw [fair_cons h hinv hs, graze_cons hs]
      exact ⟨⟨h.fair_before s (x :: a) b hinv hfair.1, ha⟩, hb⟩

theorem feed_graze (hinv : inv s) (pieces : List (List α)) (hfair : R.Fair fair s pieces.flatten) :
    R.Same (R.graze s pieces.flatten).1 (R.feed s pieces) := by
  induction pieces generalizing s with
  | nil => exact .inl rfl
  | cons piece pieces ih =>
    rw [flatten_cons] at hfair ⊢
    obtain ⟨hpiece, hrest⟩ := fair_append h hinv hfair
    rw [graze_append]
    show R.Same _ (R.feed (R.read s piece).1 pieces)
    rcases read_graze h hinv hpiece with heq | ⟨e, he, he'⟩
    · rw [← heq] at hrest ⊢
      obtain ⟨hinv', hstop | hnil, -⟩ := read_spec h hinv piece
      · rw [feed_stopped hstop, graze_stopped hstop]
        exact .inl rfl
      · rw [hnil, nil_append] at hrest ⊢
        exact ih hinv' hrest
    · rw [graze_refused h he', feed_stopped (h.refusal_stopped _ e he)]
      exact .inr ⟨e, he', he⟩

theorem feed_flatten (hinv : inv s) (pieces : List (List α))
    (hfair : R.Fair fair s pieces.flatten) :
    R.Same (R.read s pieces.flatten).1 (R.feed s pieces) :=
  (read_graze h hinv hfair).same.trans (feed_graze h hinv pieces hfair)

theorem deliver_graze (hinv : inv s) (pieces : List (List α))
    (hfair : R.Fair fair s pieces.flatten) :
    R.SameRest (R.deliver s pieces) (R.graze s pieces.flatten) := by
  induction pieces using reverseRecOn with
  | nil => exact .refl _
  | append_singleton pieces piece ih =>
    rw [flatten_append, flatten_singleton] at hfair ⊢
    obtain ⟨hbefore, hrest⟩ := fair_append h hinv hfair
    rw [graze_append, deliver, foldl_append]
    show R.SameRest (R.read (R.deliver s pieces).1 ((R.deliver s pieces).2 ++ piece)) _
    rcases ih hbefore with heq | ⟨e, he, he'⟩
    · rw [heq]
      exact read_graze h (inv_graze h hinv _) hrest
    · rw [read_refused h he, graze_refused h he']
      exact .inr ⟨e, he, he'⟩

theorem deliver_flatten (hinv : inv s) (pieces : List (List α))
    (hfair : R.Fair fair s pieces.flatten) :
    R.SameRest (R.read s pieces.flatten) (R.deliver s pieces) :=
  (read_graze h hinv hfair).trans (deliver_graze h hinv pieces hfair).symm

end Resumable

/-! ## Rounds that take a number of elements -/

/-- Rounds that take up to `need` elements with `put`, unless too many have
been taken. -/
structure Takes (R : Reader σ α ε) (need : σ → Nat) (isOver : σ → Nat → Bool)
    (e : ε) (fail : σ → List α → σ × List α) (put : σ → List α → σ)
    (settle : σ → σ) (taking : σ → Prop) : Prop where
  round : ∀ s input, taking s → R.round s input =
    if isOver s (input.take (need s)).length then fail s input
    else (settle (put s (input.take (need s))), input.drop (need s))
  refused : ∀ s input, R.refusal (fail s input).1 = some e
  over_mono : ∀ s m n, isOver s m = true → m ≤ n → isOver s n = true
  need_pos : ∀ s, taking s → 0 < need s
  short : ∀ s a, taking s → a.length < need s →
    isOver s a.length = false → settle (put s a) = put s a ∧
      taking (put s a) ∧ R.stopped (put s a) = false
  need_put : ∀ s a, need (put s a) = need s - a.length
  over_put : ∀ s a n, isOver (put s a) n = isOver s (a.length + n)
  put_put : ∀ s a b, put (put s a) b = put s (a ++ b)

section Takes

variable {need : σ → Nat} {isOver : σ → Nat → Bool} {e : ε}
  {fail : σ → List α → σ × List α} {put : σ → List α → σ} {settle : σ → σ}
  {taking : σ → Prop} (h : R.Takes need isOver e fail put settle taking)

include h

theorem Takes.splits (hfair : ∀ s input, taking s → fair s input)
    (hs : taking s) (x : α) (b : List α) : R.Splits fair s x b := by
  have hneed := h.need_pos s hs
  have hround := h.round s [x] hs
  have hroundb := h.round s (x :: b) hs
  have htake : [x].take (need s) = [x] := take_of_length_le hneed
  rw [htake, drop_of_length_le (by exact hneed)] at hround
  by_cases hover : isOver s [x].length
  · refine .refused e ?_ ?_
    · rw [eat, hround, if_pos hover]
      exact h.refused s [x]
    · rw [hroundb, if_pos (h.over_mono s _ _ hover ?_)]
      · exact h.refused s (x :: b)
      · simp only [length_take, length_cons, length_nil]
        omega
  rw [if_neg hover] at hround
  by_cases hone : need s = 1
  · refine .apart ?_
    rw [eat, hround, hroundb, hone]
    exact if_neg hover
  obtain ⟨hsettle, htaking, hrunning⟩ := h.short s [x] hs
    (by rw [length_singleton]; omega) (Bool.eq_false_iff.mpr hover)
  have heat : R.eat s x = put s [x] := by rw [eat, hround, hsettle]
  by_cases hb : b = []
  · subst hb
    exact .apart (by rw [eat, hround])
  refine .across hb (heat ▸ hrunning) (heat ▸ hfair _ b htaking) ?_
  obtain ⟨n, hn⟩ : ∃ n, need s = n + 1 := ⟨need s - 1, by omega⟩
  rw [heat, hroundb, h.round _ b htaking, h.need_put, h.over_put, h.put_put,
    hn, take_succ_cons, drop_succ_cons, length_singleton,
    Nat.add_sub_cancel, length_cons, Nat.add_comm 1,
    singleton_append]
  split
  · exact .inr ⟨e, h.refused _ _, h.refused _ _⟩
  · exact .refl _

theorem Takes.progress (hs : taking s) (hinput : input ≠ []) :
    (R.round s input).2.length < input.length ∨ (R.refusal (R.round s input).1).isSome := by
  have hneed := h.need_pos s hs
  have hpos := length_pos_iff.mpr hinput
  rw [h.round s input hs]
  split
  · rw [h.refused]
    exact .inr rfl
  · left
    rw [length_drop]
    omega

end Takes

/-! ## Where cuts make a difference -/

/-- A round that is not fair: grazing is refused for another reason. -/
structure Sharp (R : Reader σ α ε) (inv : σ → Prop)
    (fair : σ → List α → Prop) : Prop where
  keeps : ∀ s input, inv s → R.stopped s = false → input ≠ [] →
    R.refusal (R.round s input).1 = none → (R.round s input).2 ≠ [] →
    inv (R.round s input).1
  unfair : ∀ s input, inv s → R.stopped s = false → input ≠ [] →
    ¬fair s input → ∃ e f, R.refusal (R.round s input).1 = some e ∧
      R.refusal (R.graze s input).1 = some f ∧ e ≠ f

section Sharp

variable {inv' : σ → Prop} (hsharp : R.Sharp inv fair)
  (h : R.Resumable inv' fair)

include hsharp h

theorem Sharp.differ (hinv : inv s) (hinv' : inv' s) (hunfair : ¬R.Fair fair s input) :
    ∃ e f, R.refusal (R.read s input).1 = some e ∧
      R.refusal (R.graze s input).1 = some f ∧ e ≠ f := by
  refine h.induction (P := fun s input => inv s → inv' s →
      ¬R.Fair fair s input → ∃ e f, R.refusal (R.read s input).1 = some e ∧
        R.refusal (R.graze s input).1 = some f ∧ e ≠ f)
    (fun s input hdone _ _ hunfair => absurd (.done hdone) hunfair)
    (fun s input hinv' hs hinput ih hinv _ hunfair => ?_) hinv' input hinv hinv' hunfair
  rw [read_round h hinv' hs hinput]
  by_cases hfair : fair s input
  · have hrest : ¬R.Fair fair (R.round s input).1 (R.round s input).2 :=
      fun hrest => hunfair (.next hfair hrest)
    have hrefusal : R.refusal (R.round s input).1 = none := by
      cases he : R.refusal (R.round s input).1 with
      | none => rfl
      | some e => exact absurd (.done (.inl (h.refusal_stopped _ e he))) hrest
    have hne : (R.round s input).2 ≠ [] := fun hnil =>
      hrest (.done (.inr hnil))
    rw [← (graze_round h hinv' hs hinput hfair).same.refusal_eq]
    exact ih (hsharp.keeps s input hinv hs hinput hrefusal hne)
      (h.inv_round s input hinv' hs hinput) hrest
  · obtain ⟨e, f, he, hf, hne⟩ := hsharp.unfair s input hinv hs hinput hfair
    rw [read_refused h he]
    exact ⟨e, f, he, hf, hne⟩

theorem Sharp.fair_of_read (hinv : inv s) (hinv' : inv' s)
    (hread : R.refusal (R.read s input).1 = none) : R.Fair fair s input := by
  by_contra hunfair
  obtain ⟨e, f, he, -⟩ := hsharp.differ h hinv hinv' hunfair
  exact nomatch hread.symm.trans he

/-- The cuts are irrelevant for the inputs that are read fairly, and only for
these. -/
theorem Sharp.cuts_iff (hinv : inv s) (hinv' : inv' s) (input : List α) :
    (∀ pieces : List (List α), pieces.flatten = input →
      R.Same (R.read s input).1 (R.feed s pieces)) ↔
    R.Fair fair s input := by
  constructor
  · intro hcuts
    by_contra hunfair
    obtain ⟨e, f, he, hf, hne⟩ := hsharp.differ h hinv hinv' hunfair
    have hsame := (hcuts (input.map fun x => [x])
      (by rw [← flatMap_def, flatMap_singleton'])).refusal_eq
    rw [feed_singles, he, hf] at hsame
    exact hne (Option.some.inj hsame)
  · rintro hfair pieces rfl
    exact feed_flatten h hinv' pieces hfair

end Sharp

/-! ## One item after the other

A reader that stops at the end of an item can be started again for the next
one. `serial` does so, and collects what it has read. -/

variable (R) in
/-- The reader has come to the end of an item. -/
def finished (s : σ) : Bool := R.stopped s && (R.refusal s).isNone

variable (R) in
def serial (emit : σ → β) (restart : σ → σ) : Reader (List β × σ) α (List β × ε) where
  round t input :=
    if R.finished (R.read t.2 input).1 then
      ((t.1 ++ [emit (R.read t.2 input).1], restart (R.read t.2 input).1), (R.read t.2 input).2)
    else ((t.1, (R.read t.2 input).1), (R.read t.2 input).2)
  stopped t := (R.refusal t.2).isSome
  refusal t := (R.refusal t.2).map fun e => (t.1, e)

theorem finished_iff : R.finished s ↔ R.stopped s ∧ R.refusal s = none := by
  rw [finished, Bool.and_eq_true, Option.isNone_iff_eq_none]

theorem read_append_of_finished {inv' : σ → Prop}
    (hsharp : R.Sharp inv fair) (h : R.Resumable inv' fair) (hinv : inv s)
    (hinv' : inv' s) (a b : List α) (hfinished : R.finished (R.read s a).1) :
    R.read s (a ++ b) = ((R.read s a).1, (R.read s a).2 ++ b) := by
  obtain ⟨hstop, hnone⟩ := finished_iff.mp hfinished
  have hread := (read_graze h hinv' (hsharp.fair_of_read h hinv hinv' hnone)).symm.eq hnone
  have happend : R.graze s (a ++ b) = ((R.read s a).1, (R.read s a).2 ++ b) := by
    rw [graze_append, hread, graze_stopped hstop]
  have hfair : R.Fair fair s (a ++ b) := by
    by_contra hunfair
    obtain ⟨e, f, -, hf, -⟩ := hsharp.differ h hinv hinv' hunfair
    rw [happend] at hf
    exact nomatch hnone.symm.trans hf
  rw [← happend]
  exact (read_graze h hinv' hfair).eq (by rw [happend]; exact hnone)

/-- Between two rounds of `serial` no item is at its end. -/
def SerialInv (R : Reader σ α ε) (inv : σ → Prop) (t : List β × σ) : Prop :=
  inv t.2 ∧ R.finished t.2 = false

/-- All rounds on the way to the end of the item are fair. -/
def SerialFair (R : Reader σ α ε) (fair : σ → List α → Prop)
    (t : List β × σ) (input : List α) : Prop :=
  R.Fair fair t.2 input

section Serial

variable {emit : σ → β} {restart : σ → σ} {t : List β × σ}

theorem serial_round_finished (h : R.finished (R.read t.2 input).1) :
    (R.serial emit restart).round t input =
      ((t.1 ++ [emit (R.read t.2 input).1], restart (R.read t.2 input).1), (R.read t.2 input).2) :=
  if_pos h

theorem serial_round_unfinished (h : R.finished (R.read t.2 input).1 = false) :
    (R.serial emit restart).round t input = ((t.1, (R.read t.2 input).1), (R.read t.2 input).2) :=
  if_neg (by rw [h]; exact Bool.false_ne_true)

theorem serial_refusal {out : List β} {e : ε} (h : R.refusal s = some e) :
    (R.serial emit restart).refusal (out, s) = some (out, e) :=
  congrArg (Option.map fun e => (out, e)) h

theorem serial_refused {e : ε} (h : R.refusal (R.read t.2 input).1 = some e) :
    (R.serial emit restart).refusal ((R.serial emit restart).round t input).1 = some (t.1, e) := by
  rw [serial_round_unfinished (by rw [finished, h]; exact Bool.and_false _)]
  exact serial_refusal h

theorem stopped_of_serial (h : (R.serial emit restart).stopped t = false)
    (hinv : R.finished t.2 = false) : R.stopped t.2 = false := by
  have h : (R.refusal t.2).isSome = false := h
  cases hs : R.stopped t.2 with
  | false => rfl
  | true =>
    rw [finished, hs, Option.isSome_eq_false_iff.mp h] at hinv
    cases hinv

/-- What reading comes to decides what a round of `serial` comes to. -/
theorem serial_same {out : List β} {s s' : σ} {a b : List α}
    (h : R.SameRest (R.read s a) (R.read s' b)) :
    (R.serial emit restart).SameRest ((R.serial emit restart).round (out, s) a)
      ((R.serial emit restart).round (out, s') b) := by
  rcases h with heq | ⟨e, he, he'⟩
  · left
    simp only [serial, heq]
  · exact .inr ⟨_, serial_refused he, serial_refused he'⟩

theorem serial_eat (hs : R.stopped t.2 = false) (x : α) : (R.serial emit restart).eat t x =
      if R.finished (R.eat t.2 x) then
        (t.1 ++ [emit (R.eat t.2 x)], restart (R.eat t.2 x))
      else (t.1, R.eat t.2 x) := by
  rw [eat, show R.eat t.2 x = (R.read t.2 [x]).1 by rw [read_single hs]; rfl]
  dsimp only [serial]
  split <;> rfl

variable (h : R.Resumable inv fair)
  (hrestart : ∀ s, inv s → R.finished s = true → inv (restart s) ∧ R.stopped (restart s) = false)

include h hrestart

theorem Resumable.serial : (R.serial emit restart).Resumable (SerialInv R inv)
      (SerialFair R fair) where
  refusal_stopped t e he := by
    obtain ⟨f, hf, -⟩ := Option.map_eq_some_iff.mp he
    show (R.refusal t.2).isSome
    rw [hf]
    rfl
  inv_round t input hinv hs hinput := by
    obtain ⟨hread, -⟩ := read_spec h hinv.1 input
    cases hfinished : R.finished (R.read t.2 input).1 with
    | true =>
      rw [serial_round_finished hfinished]
      obtain ⟨hinv', hs'⟩ := hrestart _ hread hfinished
      exact ⟨hinv', by rw [finished, hs', Bool.false_and]⟩
    | false =>
      rw [serial_round_unfinished hfinished]
      exact ⟨hread, hfinished⟩
  progress t input hinv hs hinput := by
    rcases read_progress h hinv.1 (stopped_of_serial hs hinv.2) hinput with
      hless | hrefused
    · left
      cases hfinished : R.finished (R.read t.2 input).1 with
      | true => rwa [serial_round_finished hfinished]
      | false => rwa [serial_round_unfinished hfinished]
    · obtain ⟨e, he⟩ := Option.isSome_iff_exists.mp hrefused
      rw [serial_refused he]
      exact .inr rfl
  fair_before t a b hinv hfair := (fair_append h hinv.1 hfair).1
  splits t x b hinv hs hfair := by
    have hs' := stopped_of_serial hs hinv.2
    obtain ⟨-, hrest⟩ := (fair_cons h hinv.1 hs' x b).mp hfair
    have hgraze := read_graze h hinv.1 hfair
    rw [graze_cons hs'] at hgraze
    have heat := @serial_eat _ _ _ _ R emit restart t hs' x
    cases he : R.refusal (R.eat t.2 x) with
    | some e =>
      rw [graze_refused h he] at hgraze
      refine .refused (t.1, e) ?_ (serial_refused (hgraze.same.refusal_eq.trans he))
      rw [heat, if_neg (by rw [finished, he]; simp)]
      exact serial_refusal he
    | none =>
      cases hfinished : R.finished (R.eat t.2 x) with
      | true =>
        rw [graze_stopped (finished_iff.mp hfinished).1] at hgraze
        have hread := hgraze.eq he
        rw [hfinished, if_pos rfl] at heat
        refine .apart ?_
        rw [heat, serial_round_finished (by rw [hread]; exact hfinished), hread]
      | false =>
        rw [hfinished, if_neg Bool.false_ne_true] at heat
        by_cases hb : b = []
        · subst hb
          have hread : R.read t.2 [x] = (R.eat t.2 x, []) := hgraze.eq he
          refine .apart ?_
          rw [heat, serial_round_unfinished (by rw [hread]; exact hfinished), hread]
        refine .across hb ?_ ?_ ?_
        · rw [heat]
          show (R.refusal (R.eat t.2 x)).isSome = false
          rw [he]
          rfl
        · rw [heat]
          exact hrest
        · rw [heat]
          exact serial_same (hgraze.trans (read_graze h (inv_eat h hinv.1 hs' x) hrest).symm)

omit hrestart in
theorem serial_graze_refused {e : ε} {out : List β} (hfinished : R.finished s = false)
    (he : R.refusal (R.graze s input).1 = some e) :
    (R.serial emit restart).refusal
      ((R.serial emit restart).graze (out, s) input).1 = some (out, e) := by
  induction input generalizing s with
  | nil => exact serial_refusal he
  | cons x rest ih =>
    cases hrefusal : R.refusal s with
    | some f =>
      rw [graze_refused h hrefusal] at he
      rw [graze_stopped (by
        show (R.refusal s).isSome = true
        rw [hrefusal]
        rfl)]
      exact serial_refusal he
    | none =>
      have hs : (R.serial emit restart).stopped (out, s) = false := by
        show (R.refusal s).isSome = false
        rw [hrefusal]
        rfl
      have hs' : R.stopped s = false := stopped_of_serial hs hfinished
      rw [graze_cons hs'] at he
      have heat := @serial_eat _ _ _ _ R emit restart (out, s) hs' x
      cases hnext : R.finished (R.eat s x) with
      | true =>
        obtain ⟨hstop, hnone⟩ := finished_iff.mp hnext
        rw [graze_stopped hstop] at he
        exact nomatch hnone.symm.trans he
      | false =>
        rw [hnext, if_neg Bool.false_ne_true] at heat
        rw [graze_cons hs, heat]
        exact ih hnext he

/-- The rounds that are not fair to a reader are not so to `serial`. -/
theorem Sharp.serial {inv' : σ → Prop} (hsharp : R.Sharp inv' fair)
    (hagain : ∀ s, inv s → R.finished s → inv' (restart s)) :
    (R.serial emit restart).Sharp (fun t => inv' t.2 ∧ SerialInv R inv t) (SerialFair R fair) where
  keeps t input hinv hs hinput hrefusal hrest := by
    obtain ⟨hread, hstop, -⟩ := read_spec h hinv.2.1 input
    cases hfinished : R.finished (R.read t.2 input).1 with
    | true =>
      refine ⟨?_, (h.serial hrestart).inv_round t input hinv.2 hs hinput⟩
      rw [serial_round_finished hfinished]
      exact hagain _ hread hfinished
    | false =>
      rw [serial_round_unfinished hfinished] at hrefusal hrest
      have hnone : R.refusal (R.read t.2 input).1 = none := Option.map_eq_none_iff.mp hrefusal
      rcases hstop with hstop | hnil
      · exact nomatch hfinished.symm.trans (finished_iff.mpr ⟨hstop, hnone⟩)
      · exact absurd hnil hrest
  unfair t input hinv hs hinput hunfair := by
    obtain ⟨e, f, he, hf, hne⟩ := hsharp.differ h hinv.1 hinv.2.1 hunfair
    exact ⟨(t.1, e), (t.1, f), serial_refused he, serial_graze_refused h hinv.2.2 hf,
      fun heq => hne (congrArg Prod.snd heq)⟩

theorem serial_read_flatten {inv' : σ → Prop} (hsharp : R.Sharp inv' fair)
    (hinv : inv s) (hinv' : inv' s) (hs : R.stopped s = false) (items : List (List α))
    (hitems : ∀ item ∈ items, (R.read s item).2 = [] ∧
      R.finished (R.read s item).1 ∧ restart (R.read s item).1 = s)
    (rest : List α) (out : List β) :
    (R.serial emit restart).read (out, s) (items.flatten ++ rest) = (R.serial emit restart).read
        (out ++ items.map fun item => emit (R.read s item).1, s) rest := by
  induction items generalizing out with
  | nil => simp
  | cons item items ih =>
    obtain ⟨hrest, hfinished, hagain⟩ := hitems item mem_cons_self
    have hstart : SerialInv R inv (out, s) := ⟨hinv, by rw [finished, hs, Bool.false_and]⟩
    have hrefusal : R.refusal s = none := by
      cases he : R.refusal s with
      | none => rfl
      | some e => exact nomatch hs.symm.trans (h.refusal_stopped s e he)
    have hne : item ++ (items.flatten ++ rest) ≠ [] := by
      intro hnil
      rw [(append_eq_nil_iff.mp hnil).1, read_stopped (.inr rfl), finished, hs] at hfinished
      cases hfinished
    have happend := read_append_of_finished hsharp h hinv' hinv item
      (items.flatten ++ rest) hfinished
    have hround : (R.serial emit restart).round (out, s) (item ++ (items.flatten ++ rest)) =
        ((out ++ [emit (R.read s item).1], s), items.flatten ++ rest) := by
      rw [serial_round_finished (by rw [happend]; exact hfinished)]
      simp [happend, hrest, hagain]
    rw [flatten_cons, append_assoc, read_round
      (h.serial hrestart) hstart (by
        show (R.refusal s).isSome = false
        rw [hrefusal]
        rfl) hne, hround,
      ih (fun item hmem => hitems item (mem_cons_of_mem _ hmem))]
    simp

end Serial

end Reader

end AsynGyanis.Library
