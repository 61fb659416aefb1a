import Mathlib

/-!
# Ledgers of spans

A sender cuts what it was given into spans and moves them between tables:
queued, in flight, acknowledged, queued again. Whatever the tables are,
their spans taken together form a ledger of everything written so far.
They never overlap, they leave no gap below the number of bytes written,
and the mark that closes the sequence sits on exactly one span, the one
that ends where the sequence ends.

A ledger does not see the order of its spans, so moving a span from one
table to another is a permutation (`Ledger.perm`). Only two events change
the spans themselves: appending what is newly written (`Ledger.append`)
and cutting one span in two (`Ledger.split`).
-/

namespace AsynGyanis.Library

open List

/-- Positions `beginOffset ≤ x < endOffset` of a sequence; `isFinal` marks
the span that closes it. -/
structure Span where
  beginOffset : Nat
  endOffset : Nat
  isFinal : Bool
  deriving DecidableEq, Repr

/-- No shared position, and no shared beginning even when one is empty. -/
def Span.Apart (a b : Span) : Prop := a.beginOffset ≠ b.beginOffset ∧
    (a.endOffset ≤ b.beginOffset ∨ b.endOffset ≤ a.beginOffset)

theorem Span.Apart.symm {a b : Span} (h : a.Apart b) : b.Apart a := ⟨Ne.symm h.1, h.2.symm⟩

def Span.Covers (s : Span) (x : Nat) : Prop := s.beginOffset ≤ x ∧ x < s.endOffset

/-- The spans tile `[0, length)` and carry the closing mark exactly when
the sequence is closed. -/
structure Ledger (spans : List Span) (length : Nat) (final : Option Nat) :
    Prop where
  apart : spans.Pairwise Span.Apart
  inside : ∀ s ∈ spans, s.beginOffset ≤ s.endOffset ∧ s.endOffset ≤ length
  nonempty : ∀ s ∈ spans, s.isFinal = false → s.beginOffset < s.endOffset
  cover : ∀ x, x < length → ∃ s ∈ spans, s.Covers x
  final_end : ∀ s ∈ spans, s.isFinal = true → final = some s.endOffset
  closed : ∀ n, final = some n → n = length ∧ ∃ s ∈ spans, s.isFinal = true

namespace Ledger

variable {spans spans' : List Span} {length : Nat} {final : Option Nat}

theorem nil : Ledger [] 0 none where
  apart := List.Pairwise.nil
  inside := fun _ h => absurd h not_mem_nil
  nonempty := fun _ h => absurd h not_mem_nil
  cover := fun _ h => absurd h (Nat.not_lt_zero _)
  final_end := fun _ h => absurd h not_mem_nil
  closed := fun _ h => absurd h (by simp)

theorem perm (h : Ledger spans length final) (hp : spans.Perm spans') :
    Ledger spans' length final where
  apart := (hp.pairwise_iff Span.Apart.symm).mp h.apart
  inside := fun s hs => h.inside s (hp.mem_iff.mpr hs)
  nonempty := fun s hs => h.nonempty s (hp.mem_iff.mpr hs)
  cover := fun x hx =>
    let ⟨s, hs, hc⟩ := h.cover x hx
    ⟨s, hp.mem_iff.mp hs, hc⟩
  final_end := fun s hs => h.final_end s (hp.mem_iff.mpr hs)
  closed := fun n hn =>
    let ⟨hlen, s, hs, hf⟩ := h.closed n hn
    ⟨hlen, s, hp.mem_iff.mp hs, hf⟩

theorem not_final_of_open (h : Ledger spans length none) {s : Span}
    (hs : s ∈ spans) : s.isFinal = false := by
  cases hf : s.isFinal with
  | false => rfl
  | true => exact absurd (h.final_end s hs hf) (by simp)

/-- Writing `count` more positions to an open sequence, and closing it in
the same breath when `closing` is set. -/
theorem append (h : Ledger spans length none) (count : Nat) (closing : Bool)
    (hne : closing = false → 0 < count) :
    Ledger (⟨length, length + count, closing⟩ :: spans) (length + count)
      (if closing then some (length + count) else none) where
  apart := by
    refine pairwise_cons.mpr ⟨?_, h.apart⟩
    intro s hs
    have hin := h.inside s hs
    have hlt := h.nonempty s hs (h.not_final_of_open hs)
    exact ⟨by dsimp only; omega, .inr hin.2⟩
  inside := by
    intro s hs
    rcases mem_cons.mp hs with rfl | hs
    · exact ⟨Nat.le_add_right _ _, Nat.le_refl _⟩
    · have hin := h.inside s hs
      omega
  nonempty := by
    intro s hs hf
    rcases mem_cons.mp hs with rfl | hs
    · have hpos := hne hf
      show length < length + count
      omega
    · exact h.nonempty s hs hf
  cover := by
    intro x hx
    by_cases hlt : x < length
    · obtain ⟨s, hs, hc⟩ := h.cover x hlt
      exact ⟨s, mem_cons_of_mem _ hs, hc⟩
    · exact ⟨_, mem_cons_self, Nat.le_of_not_lt hlt, hx⟩
  final_end := by
    intro s hs hf
    rcases mem_cons.mp hs with rfl | hs
    · exact if_pos hf
    · exact absurd hf (by simp [h.not_final_of_open hs])
  closed := by
    intro n hn
    cases closing with
    | false => simp at hn
    | true =>
      simp only [if_true, Option.some.injEq] at hn
      exact ⟨hn.symm, _, mem_cons_self, rfl⟩

theorem split {first last : Nat} {closing : Bool} (middle : Nat)
    (h : Ledger (⟨first, last, closing⟩ :: spans) length final)
    (hlo : first < middle) (hhi : middle < last) :
    Ledger (⟨first, middle, false⟩ :: ⟨middle, last, closing⟩ :: spans) length final where
  apart := by
    obtain ⟨hhead, hrest⟩ := pairwise_cons.mp h.apart
    have hfresh : ∀ s ∈ spans, (Span.mk first middle false).Apart s ∧
        (Span.mk middle last closing).Apart s := by
      intro s hs
      have hap := hhead s hs
      have hin := h.inside s (mem_cons_of_mem _ hs)
      simp only [Span.Apart] at hap ⊢
      omega
    refine pairwise_cons.mpr ⟨?_, pairwise_cons.mpr ⟨?_, hrest⟩⟩
    · intro s hs
      rcases mem_cons.mp hs with rfl | hs
      · exact ⟨Nat.ne_of_lt hlo, .inl (Nat.le_refl _)⟩
      · exact (hfresh s hs).1
    · exact fun s hs => (hfresh s hs).2
  inside := by
    have hin := (h.inside _ mem_cons_self).2
    intro s hs
    rcases mem_cons.mp hs with rfl | hs
    · dsimp only at hin ⊢; omega
    rcases mem_cons.mp hs with rfl | hs
    · dsimp only at hin ⊢; omega
    · exact h.inside s (mem_cons_of_mem _ hs)
  nonempty := by
    intro s hs hf
    rcases mem_cons.mp hs with rfl | hs
    · exact hlo
    rcases mem_cons.mp hs with rfl | hs
    · exact hhi
    · exact h.nonempty s (mem_cons_of_mem _ hs) hf
  cover := by
    intro x hx
    obtain ⟨s, hs, hc⟩ := h.cover x hx
    rcases mem_cons.mp hs with rfl | hs
    · by_cases hlt : x < middle
      · exact ⟨⟨first, middle, false⟩, mem_cons_self, hc.1, hlt⟩
      exact ⟨⟨middle, last, closing⟩, mem_cons_of_mem _ mem_cons_self, Nat.le_of_not_lt hlt, hc.2⟩
    · exact ⟨s, mem_cons_of_mem _ (mem_cons_of_mem _ hs), hc⟩
  final_end := by
    intro s hs hf
    rcases mem_cons.mp hs with rfl | hs
    · exact absurd hf (by simp)
    rcases mem_cons.mp hs with rfl | hs
    · exact h.final_end ⟨first, last, closing⟩ mem_cons_self hf
    · exact h.final_end s (mem_cons_of_mem _ hs) hf
  closed := by
    intro n hn
    obtain ⟨hlen, s, hs, hf⟩ := h.closed n hn
    refine ⟨hlen, ?_⟩
    rcases mem_cons.mp hs with rfl | hs
    · exact ⟨⟨middle, last, closing⟩, mem_cons_of_mem _ mem_cons_self, hf⟩
    · exact ⟨s, mem_cons_of_mem _ (mem_cons_of_mem _ hs), hf⟩

/-- The first span that is not yet below `mark` begins at or below it:
whatever precedes it lies in spans that end by `mark`. -/
theorem begin_le_mark {front : Span} {mark : Nat} (h : Ledger (front :: spans) length final)
    (hrest : ∀ s ∈ spans, s.endOffset ≤ mark ∨ front.beginOffset ≤ s.beginOffset) :
    front.beginOffset ≤ mark := by
  by_cases hzero : front.beginOffset = 0
  · omega
  have hin := h.inside front mem_cons_self
  obtain ⟨s, hs, hc⟩ := h.cover (front.beginOffset - 1) (by omega)
  have hlo := hc.1
  have hhi := hc.2
  rcases mem_cons.mp hs with rfl | hs
  · omega
  · have hside := hrest s hs
    omega

end Ledger

end AsynGyanis.Library
