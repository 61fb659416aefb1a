import AsynGyanis.Quic.ReassemblyBuffer

/-!
# The reassembly buffer as a partial map

What `QuicReassemblyBuffer` is for can be said without fragments. A stream
that is still incomplete is a delivery point and a byte at some of the
offsets behind it (`PartialStream`). An insertion writes its bytes over what
is there, as far as they lie behind the delivery point; a drain takes the
bytes up to the first offset that has none.

The operations of the source work on 64-bit words: the end of a fragment is a
sum that may go around, and the count of buffered bytes is kept by additions
and subtractions along the loop. They are written down here as the source has
them. As long as no segment reaches beyond the last offset, which QUIC puts
at `2 ^ 62`, the words do what the structure does (`Represents`), and the
structure is read as a partial map (`Holding`).
-/

namespace AsynGyanis.Quic

open List QuicFragment QuicReassemblyBuffer

/-! ## A stream as a partial map -/

/-- A stream with holes: the bytes below the delivery point are gone, of
those behind it some have arrived. -/
structure PartialStream where
  deliveredOffset : Nat
  byteAt : Nat → Option UInt8

namespace PartialStream

def empty : PartialStream := ⟨0, fun _ => none⟩

/-- The bytes go in where they were not delivered yet, over older ones. -/
def insert (stream : PartialStream) (offset : Nat) (bytes : Bytes) :
    PartialStream :=
  { stream with
    byteAt := fun x =>
      if stream.deliveredOffset ≤ x ∧ offset ≤ x ∧ x < offset + bytes.length then
        bytes[x - offset]?
      else stream.byteAt x }

/-- The first offset from the delivery point on that has no byte. -/
noncomputable def firstGap (stream : PartialStream) : Nat :=
  sInf {x | stream.deliveredOffset ≤ x ∧ stream.byteAt x = none}

/-- The bytes up to the first gap. -/
noncomputable def contiguous (stream : PartialStream) : Bytes :=
  (range' stream.deliveredOffset (stream.firstGap - stream.deliveredOffset)).filterMap stream.byteAt

/-- These bytes are handed out and leave the map. -/
noncomputable def drain (stream : PartialStream) : Bytes × PartialStream :=
  (stream.contiguous,
    { deliveredOffset := stream.firstGap
      byteAt := fun x =>
        if x < stream.firstGap then none else stream.byteAt x })

theorem firstGap_eq {stream : PartialStream} {gap : Nat}
    (hle : stream.deliveredOffset ≤ gap) (hgap : stream.byteAt gap = none)
    (hrun : ∀ x, stream.deliveredOffset ≤ x → x < gap → stream.byteAt x ≠ none) :
    stream.firstGap = gap := by
  refine le_antisymm (Nat.sInf_le ⟨hle, hgap⟩) ?_
  refine le_csInf ⟨gap, hle, hgap⟩ fun x hx => ?_
  by_contra hlt
  exact hrun x hx.1 (Nat.lt_of_not_le hlt) hx.2

theorem contiguous_eq {stream : PartialStream} {bytes : Bytes}
    (hbytes : ∀ i, i < bytes.length → stream.byteAt (stream.deliveredOffset + i) = bytes[i]?)
    (hgap : stream.byteAt (stream.deliveredOffset + bytes.length) = none) :
    stream.firstGap = stream.deliveredOffset + bytes.length ∧ stream.contiguous = bytes := by
  have hfirst : stream.firstGap = stream.deliveredOffset + bytes.length := by
    refine firstGap_eq (Nat.le_add_right _ _) hgap fun x hle hlt hnone => ?_
    have hbyte := hbytes (x - stream.deliveredOffset) (by omega)
    rw [Nat.add_sub_cancel' hle, hnone, getElem?_eq_getElem (by omega)] at hbyte
    cases hbyte
  refine ⟨hfirst, ?_⟩
  unfold contiguous
  rw [hfirst, Nat.add_sub_cancel_left]
  generalize stream.deliveredOffset = first at hbytes
  clear hgap hfirst
  induction bytes generalizing first with
  | nil => rfl
  | cons byte rest ih =>
    have hhead := hbytes 0 (by simp)
    rw [length_cons, range'_succ, filterMap_cons,
      show stream.byteAt first = some byte by simpa using hhead]
    show byte :: _ = byte :: rest
    refine congrArg (byte :: ·) (ih (first + 1) fun i hi => ?_)
    have hnext := hbytes (i + 1) (by simpa using hi)
    rw [← Nat.add_assoc, getElem?_cons_succ] at hnext
    rw [← hnext]
    exact congrArg stream.byteAt (by omega)

end PartialStream

/-! ## The fragments as a partial map -/

def QuicFragment.byteAt (fragment : QuicFragment) (x : Nat) : Option UInt8 :=
  if fragment.beginOffset ≤ x then
    fragment.bytes[x - fragment.beginOffset]?
  else none

/-- The byte that a list of fragments holds at an offset. -/
def storedByte (x : Nat) : List QuicFragment → Option UInt8
  | [] => none
  | fragment :: rest => (fragment.byteAt x).or (storedByte x rest)

theorem QuicFragment.byteAt_eq_none {fragment : QuicFragment} {x : Nat} :
    fragment.byteAt x = none ↔ ¬fragment.Covers x := by
  unfold byteAt QuicFragment.Covers
  rw [endOffset_eq]
  split
  · rw [getElem?_eq_none_iff]
    omega
  · simp only [true_iff]
    omega

theorem storedByte_append (x : Nat) (a b : List QuicFragment) :
    storedByte x (a ++ b) = (storedByte x a).or (storedByte x b) := by
  induction a with
  | nil => rfl
  | cons fragment rest ih =>
    rw [cons_append, storedByte, storedByte, ih, Option.or_assoc]

variable {fragments : List QuicFragment}

theorem storedByte_eq_none {x : Nat}
    (h : ∀ f ∈ fragments, ¬f.Covers x) : storedByte x fragments = none := by
  induction fragments with
  | nil => rfl
  | cons fragment rest ih =>
    rw [storedByte, ih fun f hf => h f (mem_cons_of_mem _ hf),
      byteAt_eq_none.mpr (h fragment mem_cons_self)]
    rfl

variable {incoming : QuicFragment}

theorem mergeFragment_byteAt {cached : QuicFragment}
    (hlo : cached.beginOffset ≤ incoming.endOffset)
    (hhi : incoming.beginOffset ≤ cached.endOffset) (x : Nat) :
    (mergeFragment incoming cached).byteAt x = (incoming.byteAt x).or (cached.byteAt x) := by
  have hin := incoming.endOffset_eq
  have hca := cached.endOffset_eq
  have hend := mergeFragment_endOffset incoming cached
  have hbegin : (mergeFragment incoming cached).beginOffset =
      min incoming.beginOffset cached.beginOffset := rfl
  by_cases hcovered : incoming.Covers x ∨ cached.Covers x
  · have hbytes := mergeFragment_getElem? incoming cached
      (x - min incoming.beginOffset cached.beginOffset) x
      (by simp only [QuicFragment.Covers] at hcovered; omega) hcovered
    have hle : min incoming.beginOffset cached.beginOffset ≤ x := by
      simp only [QuicFragment.Covers] at hcovered
      omega
    rw [byteAt, hbegin, if_pos hle, hbytes]
    split
    · next hown =>
      rw [byteAt, if_pos hown.1, getElem?_eq_getElem (by omega)]
      rfl
    rename_i hother
    rw [byteAt_eq_none.mpr hother, Option.none_or, byteAt, if_pos]
    exact (hcovered.resolve_left hother).1
  · obtain ⟨hown, hother⟩ := not_or.mp hcovered
    rw [byteAt_eq_none.mpr hown, byteAt_eq_none.mpr hother, Option.or_none, byteAt_eq_none]
    simp only [QuicFragment.Covers] at hown hother ⊢
    omega

variable {rest : List QuicFragment}

/-- The loop keeps every byte in its place, the incoming ones on top. -/
theorem mergeFragments_storedByte (incoming : QuicFragment)
    (hreach : ∀ f ∈ rest, incoming.beginOffset ≤ f.endOffset) (x : Nat) :
    storedByte x ((mergeFragments incoming rest).1 :: (mergeFragments incoming rest).2) =
      (incoming.byteAt x).or (storedByte x rest) := by
  induction rest generalizing incoming with
  | nil => rfl
  | cons cached rest ih =>
    simp only [mergeFragments]
    split
    · next htouch =>
      rw [ih, mergeFragment_byteAt htouch (hreach cached mem_cons_self),
        Option.or_assoc, storedByte]
      intro f hf
      have hf' := hreach f (mem_cons_of_mem _ hf)
      simp only [mergeFragment]
      omega
    · rfl

theorem insertFragment_storedByte (incoming : QuicFragment)
    (hsep : Separated fragments) (x : Nat) :
    storedByte x (insertFragment incoming fragments) =
      (incoming.byteAt x).or (storedByte x fragments) := by
  have hcut := splitAtCursor_append incoming.beginOffset fragments
  have hmerge := mergeFragments_storedByte incoming (fun f hf => splitAtCursor_right hsep hf) x
  rw [insertFragment, storedByte_append, hmerge]
  conv => rhs; rw [← hcut, storedByte_append]
  -- What stays in front of the cursor ends before the incoming bytes.
  by_cases hcovers : incoming.Covers x
  · have hleft : storedByte x (splitAtCursor incoming.beginOffset fragments).1 = none :=
      storedByte_eq_none fun f hf hcovered => by
        have hlt := splitAtCursor_left hsep hf
        simp only [QuicFragment.Covers] at hcovered hcovers
        omega
    rw [hleft, Option.none_or, Option.none_or]
  · rw [byteAt_eq_none.mpr hcovers, Option.none_or, Option.none_or]

/-- A drain takes the first fragment, if it begins at the delivery point, or
leaves everything. -/
theorem QuicReassemblyBuffer.drain_cases (b : QuicReassemblyBuffer) :
    (∃ first rest, b.fragments = first :: rest ∧
      first.beginOffset = b.deliveredOffset ∧
      b.drain.1 = first.bytes ∧ b.drain.2.fragments = rest ∧
      b.drain.2.deliveredOffset = first.endOffset ∧
      b.drain.2.bufferedByteCount = b.bufferedByteCount - first.bytes.length) ∨
    ((∀ f ∈ b.fragments, b.deliveredOffset < f.beginOffset) ∧
      b.drain.1 = [] ∧ b.drain.2.fragments = b.fragments ∧
      b.drain.2.deliveredOffset = b.deliveredOffset ∧
      b.drain.2.bufferedByteCount = b.bufferedByteCount) := by
  rcases drainFragments_cases b.deliveredOffset b.separated with
    ⟨first, rest, hfirst, hbegin, hdrained⟩ | ⟨hdrained, hnone⟩
  · refine .inl ⟨first, rest, hfirst, hbegin, ?_⟩
    simp only [drain, hdrained, and_self]
  refine .inr ⟨fun f hf => ?_, ?_⟩
  · have hseparated := b.separated
    cases hfragments : b.fragments with
    | nil => exact absurd (hfragments ▸ hf) not_mem_nil
    | cons first rest =>
      have hne := hnone first rest hfragments
      have hbeyond := b.beyond first (hfragments ▸ mem_cons_self)
      rw [hfragments] at hf hseparated
      rcases mem_cons.mp hf with rfl | hf
      · omega
      have hlt := (pairwise_cons.mp hseparated).1 f hf
      rw [first.endOffset_eq] at hlt
      omega
  · simp only [drain, hdrained, length_nil, Nat.sub_zero, and_self]

/-! ## The source's operations -/

/-- The members of the class. -/
structure ReassemblyWords where
  fragments : List QuicFragment
  deliveredOffset : Nat
  bufferedByteCount : Nat
  deriving DecidableEq, Repr

namespace ReassemblyWords

/-- `fragment->first + fragment->second.size()`. -/
def fragmentEnd (fragment : QuicFragment) : Nat :=
  (fragment.beginOffset + fragment.bytes.length) % 2 ^ 64

/-- `m_bufferedByteCount -= byteCount`. -/
def less (count byteCount : Nat) : Nat := (count + (2 ^ 64 - byteCount)) % 2 ^ 64

/-- One round of the loop on the fragment and its end. -/
def mergeRound (incoming : QuicFragment) (incomingEnd : Nat)
    (cached : QuicFragment) : QuicFragment :=
  let mergedBegin := min incoming.beginOffset cached.beginOffset
  let mergedEnd := max incomingEnd (fragmentEnd cached)
  let merged := replicate (mergedEnd - mergedBegin) 0
  let merged := copyAt merged (cached.beginOffset - mergedBegin) cached.bytes
  let merged := copyAt merged (incoming.beginOffset - mergedBegin) incoming.bytes
  ⟨mergedBegin, merged⟩

/-- The loop: the grown fragment, what is left behind it, and the count. -/
def mergeLoop (incoming : QuicFragment) (incomingEnd count : Nat) :
    List QuicFragment → QuicFragment × List QuicFragment × Nat
  | [] => (incoming, [], count)
  | cached :: rest =>
    if cached.beginOffset ≤ incomingEnd then
      mergeLoop (mergeRound incoming incomingEnd cached) (max incomingEnd (fragmentEnd cached))
        (less count cached.bytes.length) rest
    else (incoming, cached :: rest, count)

/-- `upper_bound(begin)`, and one step back when the fragment in front of it
reaches `begin`. -/
def cursorAt (begin_ : Nat) (fragments : List QuicFragment) :
    List QuicFragment × List QuicFragment :=
  let before := fragments.takeWhile (fun f => f.beginOffset ≤ begin_)
  let after := fragments.dropWhile (fun f => f.beginOffset ≤ begin_)
  match before.getLast? with
  | none => (before, after)
  | some previous =>
    if fragmentEnd previous ≥ begin_ then (before.dropLast, previous :: after)
    else (before, after)

/-- What follows the trimming. -/
def insertIncoming (words : ReassemblyWords) (incoming : QuicFragment) :
    ReassemblyWords :=
  let cut := cursorAt incoming.beginOffset words.fragments
  let merged := mergeLoop incoming (fragmentEnd incoming) words.bufferedByteCount cut.2
  { words with
    fragments := cut.1 ++ merged.1 :: merged.2.1
    bufferedByteCount := (merged.2.2 + merged.1.bytes.length) % 2 ^ 64 }

def insert (words : ReassemblyWords) (offset : Nat) (bytes : Bytes) :
    ReassemblyWords :=
  if bytes = [] ∨ (offset + bytes.length) % 2 ^ 64 ≤ words.deliveredOffset then
    words
  else
    words.insertIncoming (trimDelivered words.deliveredOffset offset bytes)

/-- The loop of `drain`. Each round erases an entry, so as many rounds as
there are entries are enough. -/
def drainRounds : Nat → ReassemblyWords → Bytes × ReassemblyWords
  | 0, words => ([], words)
  | rounds + 1, words =>
    match words.fragments.find? (fun f => f.beginOffset = words.deliveredOffset) with
    | none => ([], words)
    | some fragment =>
      let drained := drainRounds rounds
        { fragments := words.fragments.filter (fun f => f.beginOffset ≠ fragment.beginOffset)
          deliveredOffset := (words.deliveredOffset + fragment.bytes.length) % 2 ^ 64
          bufferedByteCount := less words.bufferedByteCount fragment.bytes.length }
      (fragment.bytes ++ drained.1, drained.2)

def drain (words : ReassemblyWords) : Bytes × ReassemblyWords :=
  drainRounds words.fragments.length words

/-! ## The sums that do not go around -/

/-- The words hold what the structure holds, below the end of the words. -/
structure Represents (words : ReassemblyWords) (b : QuicReassemblyBuffer) :
    Prop where
  fragments : words.fragments = b.fragments
  deliveredOffset : words.deliveredOffset = b.deliveredOffset
  bufferedByteCount : words.bufferedByteCount = b.bufferedByteCount
  bounded : ∀ f ∈ b.fragments, f.endOffset < 2 ^ 64
  deliveredOffset_lt : b.deliveredOffset < 2 ^ 64

theorem fragmentEnd_eq {fragment : QuicFragment} (h : fragment.endOffset < 2 ^ 64) :
    fragmentEnd fragment = fragment.endOffset := Nat.mod_eq_of_lt h

theorem less_eq {count byteCount : Nat} (hcount : count < 2 ^ 64)
    (hle : byteCount ≤ count) : less count byteCount = count - byteCount := by
  unfold less
  omega

theorem cursorAt_eq {begin_ : Nat} (hbounded : ∀ f ∈ fragments, f.endOffset < 2 ^ 64) :
    cursorAt begin_ fragments = splitAtCursor begin_ fragments := by
  have hbefore := fun f (hf : f ∈ fragments.takeWhile (fun f => f.beginOffset ≤ begin_)) =>
    hbounded f ((takeWhile_sublist _).subset hf)
  simp only [cursorAt, splitAtCursor]
  generalize fragments.takeWhile _ = before at hbefore
  cases hlast : before.getLast? with
  | none => rfl
  | some previous =>
    simp only
    rw [fragmentEnd_eq (hbefore previous (mem_of_getLast? hlast))]

theorem mergeRound_eq {cached : QuicFragment} (hcached : cached.endOffset < 2 ^ 64) :
    mergeRound incoming incoming.endOffset cached = mergeFragment incoming cached := by
  unfold mergeRound mergeFragment
  rw [fragmentEnd_eq hcached]

/-- Without a sum that goes around the loop is the structure's, and the
count loses what was merged. -/
theorem mergeLoop_eq {count : Nat} (hbounded : ∀ f ∈ rest, f.endOffset < 2 ^ 64)
    (hcount : count < 2 ^ 64) (hle : fragmentByteCount rest ≤ count) :
    mergeLoop incoming incoming.endOffset count rest =
      ((mergeFragments incoming rest).1, (mergeFragments incoming rest).2,
        count - (fragmentByteCount rest - fragmentByteCount (mergeFragments incoming rest).2)) := by
  induction rest generalizing incoming count with
  | nil => rfl
  | cons cached rest ih =>
    have hcached := hbounded cached mem_cons_self
    have hcons : fragmentByteCount (cached :: rest) =
        cached.bytes.length + fragmentByteCount rest := by
      simp [fragmentByteCount]
    rw [mergeLoop, mergeFragments]
    split
    · have hmerged := mergeFragments_byteCount (mergeFragment incoming cached) rest
      rw [mergeRound_eq hcached, fragmentEnd_eq hcached,
        ← mergeFragment_endOffset, less_eq hcount (by omega),
        ih (fun f hf => hbounded f (mem_cons_of_mem _ hf)) (by omega) (by omega)]
      have hsame : count - cached.bytes.length -
          (fragmentByteCount rest - fragmentByteCount
            (mergeFragments (mergeFragment incoming cached) rest).2) =
          count - (fragmentByteCount (cached :: rest) - fragmentByteCount
            (mergeFragments (mergeFragment incoming cached) rest).2) := by
        omega
      rw [hsame]
    · rw [Nat.sub_self, Nat.sub_zero]

theorem fragmentByteCount_le {first last : Nat} (hsep : Separated fragments)
    (hfirst : ∀ f ∈ fragments, first ≤ f.beginOffset)
    (hlast : ∀ f ∈ fragments, f.endOffset ≤ last) (hle : first ≤ last) :
    fragmentByteCount fragments ≤ last - first := by
  induction fragments generalizing first with
  | nil => exact Nat.zero_le _
  | cons fragment rest ih =>
    obtain ⟨hgap, hrest⟩ := pairwise_cons.mp hsep
    have hcons : fragmentByteCount (fragment :: rest) =
        fragment.bytes.length + fragmentByteCount rest := by
      simp [fragmentByteCount]
    have hbegin := hfirst fragment mem_cons_self
    have hend := hlast fragment mem_cons_self
    have hbehind := @ih fragment.endOffset hrest (fun f hf => Nat.le_of_lt (hgap f hf))
      (fun f hf => hlast f (mem_cons_of_mem _ hf)) hend
    rw [endOffset_eq] at hend hbehind
    omega

theorem byteCount_lt (hsep : Separated fragments)
    (hbounded : ∀ f ∈ fragments, f.endOffset < 2 ^ 64) :
    fragmentByteCount fragments < 2 ^ 64 := by
  have hle := @fragmentByteCount_le fragments 0 (2 ^ 64 - 1) hsep (fun _ _ => Nat.zero_le _)
    (fun f hf => Nat.le_sub_one_of_lt (hbounded f hf)) (Nat.zero_le _)
  omega

theorem mergeFragments_endOffset_lt {last : Nat} (hincoming : incoming.endOffset < last)
    (hrest : ∀ f ∈ rest, f.endOffset < last) :
    (mergeFragments incoming rest).1.endOffset < last := by
  induction rest generalizing incoming with
  | nil => exact hincoming
  | cons cached rest ih =>
    rw [mergeFragments]
    split
    · refine ih ?_ fun f hf => hrest f (mem_cons_of_mem _ hf)
      rw [mergeFragment_endOffset]
      exact Nat.max_lt.mpr ⟨hincoming, hrest cached mem_cons_self⟩
    · exact hincoming

theorem drainRounds_of_none {words : ReassemblyWords}
    (h : ∀ f ∈ words.fragments, f.beginOffset ≠ words.deliveredOffset)
    (rounds : Nat) : drainRounds rounds words = ([], words) := by
  cases rounds with
  | zero => rfl
  | succ rounds =>
    rw [drainRounds, find?_eq_none.mpr fun f hf => by
      simpa using h f hf]

/-! ## One call -/

namespace Represents

variable {words : ReassemblyWords} {b : QuicReassemblyBuffer}

theorem empty : Represents ⟨[], 0, 0⟩ .empty :=
  ⟨rfl, rfl, rfl, fun _ h => absurd h not_mem_nil, by decide⟩

theorem count_lt (h : Represents words b) : b.bufferedByteCount < 2 ^ 64 := by
  rw [b.counted]
  exact byteCount_lt b.separated h.bounded

theorem insertIncoming_eq (h : Represents words b)
    (hincoming : incoming.endOffset < 2 ^ 64) : words.insertIncoming incoming =
        ⟨insertFragment incoming b.fragments, b.deliveredOffset,
          fragmentByteCount (insertFragment incoming b.fragments)⟩ ∧
      ∀ f ∈ insertFragment incoming b.fragments, f.endOffset < 2 ^ 64 := by
  have hparts := splitAtCursor_append incoming.beginOffset b.fragments
  have hbehind : ∀ f ∈ (splitAtCursor incoming.beginOffset b.fragments).2,
      f.endOffset < 2 ^ 64 := fun f hf =>
    h.bounded f (hparts ▸ mem_append_right _ hf)
  have hbounded : ∀ f ∈ insertFragment incoming b.fragments, f.endOffset < 2 ^ 64 := by
    intro f hf
    rcases mem_insertFragment hf with hf | rfl
    · exact h.bounded f hf
    · exact mergeFragments_endOffset_lt hincoming hbehind
  refine ⟨?_, hbounded⟩
  have hcount := h.count_lt
  have hle : fragmentByteCount (splitAtCursor incoming.beginOffset b.fragments).2 ≤
        b.bufferedByteCount := by
    have htotal := congrArg fragmentByteCount hparts
    rw [fragmentByteCount_append] at htotal
    rw [b.counted]
    omega
  have htotal := insertFragment_byteCount incoming b.fragments
  have hlt := byteCount_lt (insertFragment_separated b.separated) hbounded
  rw [← b.counted] at htotal
  simp only [insertIncoming]
  rw [h.fragments, h.bufferedByteCount, h.deliveredOffset,
    cursorAt_eq h.bounded, fragmentEnd_eq hincoming,
    mergeLoop_eq hbehind hcount hle, htotal, Nat.mod_eq_of_lt hlt]
  rfl

theorem insert_eq (h : Represents words b) {offset : Nat} {bytes : Bytes}
    (hend : offset + bytes.length < 2 ^ 64) :
    Represents (words.insert offset bytes) (b.insert offset bytes) := by
  unfold ReassemblyWords.insert
  rw [Nat.mod_eq_of_lt hend, h.deliveredOffset]
  by_cases hold : bytes = [] ∨ offset + bytes.length ≤ b.deliveredOffset
  · rw [if_pos hold, QuicReassemblyBuffer.insert, dif_pos hold]
    exact h
  have hincoming : (trimDelivered b.deliveredOffset offset bytes).endOffset < 2 ^ 64 := by
    rw [trimDelivered_end b.deliveredOffset offset bytes (Nat.lt_of_not_le (not_or.mp hold).2)]
    exact hend
  obtain ⟨hinserted, hbounded⟩ := h.insertIncoming_eq hincoming
  rw [if_neg hold, hinserted]
  have hfragments : (b.insert offset bytes).fragments = insertFragment
      (trimDelivered b.deliveredOffset offset bytes) b.fragments := by
    rw [QuicReassemblyBuffer.insert, dif_neg hold]
  refine ⟨hfragments.symm, (b.insert_deliveredOffset offset bytes).symm, ?_, ?_, ?_⟩
  · rw [(b.insert offset bytes).counted, hfragments]
  · rw [hfragments]
    exact hbounded
  · rw [insert_deliveredOffset]
    exact h.deliveredOffset_lt

/-- A fragment at the delivery point is the first one and the only one that
goes out. -/
theorem drain_eq (h : Represents words b) :
    words.drain.1 = b.drain.1 ∧ Represents words.drain.2 b.drain.2 := by
  have hcount := h.count_lt
  have hcounted := b.counted
  have hseparated := b.separated
  have hbounded := h.bounded
  rcases b.drain_cases with ⟨first, rest, hfirst, hbegin, hb⟩ | ⟨hbehind, hb⟩
  · rw [hfirst] at hcounted hseparated hbounded
    have hgap := (pairwise_cons.mp hseparated).1
    have hend := hbounded first mem_cons_self
    have hcons : b.bufferedByteCount =
        first.bytes.length + fragmentByteCount rest := by
      rw [hcounted]
      simp [fragmentByteCount]
    have hrest : (first :: rest).filter (fun f => f.beginOffset ≠ first.beginOffset) = rest := by
      rw [filter_cons_of_neg (by simp), filter_eq_self]
      intro f hf
      have hlt := hgap f hf
      rw [first.endOffset_eq] at hlt
      simp only [ne_eq, decide_eq_true_eq]
      omega
    have hwords : words.drain = (first.bytes,
        ⟨rest, first.endOffset, b.bufferedByteCount - first.bytes.length⟩) := by
      rw [ReassemblyWords.drain, h.fragments, hfirst, length_cons,
        drainRounds, h.fragments, hfirst, h.deliveredOffset,
        find?_cons_of_pos (by simpa using hbegin)]
      simp only
      rw [hrest, ← hbegin, ← first.endOffset_eq, Nat.mod_eq_of_lt hend,
        h.bufferedByteCount, less_eq hcount (by omega), drainRounds_of_none]
      · rw [append_nil]
      · intro f hf
        exact Nat.ne_of_gt (hgap f hf)
    rw [hwords, hb.1]
    refine ⟨rfl, hb.2.1.symm, hb.2.2.1.symm, hb.2.2.2.symm, ?_, ?_⟩
    · rw [hb.2.1]
      exact fun f hf => hbounded f (mem_cons_of_mem _ hf)
    · rw [hb.2.2.1]
      exact hend
  · have habsent : ∀ f ∈ words.fragments, f.beginOffset ≠ words.deliveredOffset := by
      rw [h.fragments, h.deliveredOffset]
      exact fun f hf => Nat.ne_of_gt (hbehind f hf)
    rw [ReassemblyWords.drain, drainRounds_of_none habsent, hb.1]
    refine ⟨rfl, h.fragments.trans hb.2.1.symm, h.deliveredOffset.trans hb.2.2.1.symm,
      h.bufferedByteCount.trans hb.2.2.2.symm, ?_, ?_⟩
    · rw [hb.2.1]
      exact hbounded
    · rw [hb.2.2.1]
      exact h.deliveredOffset_lt

end Represents

end ReassemblyWords

/-! ## The structure and the map -/

/-- The structure holds just the bytes of the map. -/
structure Holding (b : QuicReassemblyBuffer) (stream : PartialStream) :
    Prop where
  deliveredOffset : b.deliveredOffset = stream.deliveredOffset
  byteAt : ∀ x, storedByte x b.fragments = stream.byteAt x

theorem trimDelivered_byteAt (deliveredOffset offset : Nat) (bytes : Bytes) (x : Nat) :
    (trimDelivered deliveredOffset offset bytes).byteAt x =
      if deliveredOffset ≤ x ∧ offset ≤ x ∧ x < offset + bytes.length then
        bytes[x - offset]?
      else none := by
  unfold trimDelivered byteAt
  by_cases hcut : offset < deliveredOffset
  · rw [if_pos hcut]
    by_cases hx : deliveredOffset ≤ x
    · rw [if_pos hx, getElem?_drop,
        show deliveredOffset - offset + (x - deliveredOffset) = x - offset by
          omega]
      split
      · rfl
      · rw [getElem?_eq_none_iff]
        omega
    · rw [if_neg hx, if_neg fun h => hx h.1]
  · rw [if_neg hcut]
    simp only
    by_cases hx : offset ≤ x
    · rw [if_pos hx]
      split
      · rfl
      · rw [getElem?_eq_none_iff]
        omega
    · rw [if_neg hx, if_neg fun h => hx h.2.1]

namespace Holding

variable {b : QuicReassemblyBuffer} {stream : PartialStream}

theorem empty : Holding .empty .empty := ⟨rfl, fun _ => rfl⟩

theorem insert (h : Holding b stream) (offset : Nat) (bytes : Bytes) :
    Holding (b.insert offset bytes) (stream.insert offset bytes) := by
  refine ⟨(b.insert_deliveredOffset offset bytes).trans h.deliveredOffset, fun x => ?_⟩
  show _ = if stream.deliveredOffset ≤ x ∧ offset ≤ x ∧
    x < offset + bytes.length then bytes[x - offset]? else stream.byteAt x
  rw [← h.deliveredOffset, ← h.byteAt]
  by_cases hold : bytes = [] ∨ offset + bytes.length ≤ b.deliveredOffset
  · rw [QuicReassemblyBuffer.insert, dif_pos hold, if_neg]
    rintro ⟨hdelivered, hbegin, hend⟩
    rcases hold with rfl | hold
    · simp only [length_nil] at hend
      omega
    · omega
  have hfragments : (b.insert offset bytes).fragments = insertFragment
      (trimDelivered b.deliveredOffset offset bytes) b.fragments := by
    rw [QuicReassemblyBuffer.insert, dif_neg hold]
  rw [hfragments, insertFragment_storedByte _ b.separated, trimDelivered_byteAt]
  split
  · rw [getElem?_eq_getElem (by omega)]
    rfl
  · exact Option.none_or

theorem drain (h : Holding b stream) :
    b.drain.1 = stream.drain.1 ∧ Holding b.drain.2 stream.drain.2 := by
  have hseparated := b.separated
  have hbyteAt := h.byteAt
  rcases b.drain_cases with ⟨first, rest, hfirst, hbegin, hb⟩ | ⟨hbehind, hb⟩
  · rw [hfirst] at hseparated hbyteAt
    have hgap := (pairwise_cons.mp hseparated).1
    have hend := first.endOffset_eq
    have hrest : ∀ x, x ≤ first.endOffset → storedByte x rest = none :=
      fun x hx => storedByte_eq_none fun f hf hcovers => by
        have hlt := hgap f hf
        have hle := hcovers.1
        omega
    have hbehind : ∀ x, first.endOffset ≤ x → first.byteAt x = none :=
      fun x hx => byteAt_eq_none.mpr fun hcovers => by
        have hlt := hcovers.2
        omega
    have hcontiguous := @PartialStream.contiguous_eq stream
      first.bytes
      (fun i hi => by
        rw [← h.deliveredOffset, ← hbegin, ← hbyteAt, storedByte,
          QuicFragment.byteAt, if_pos (Nat.le_add_right _ _),
          Nat.add_sub_cancel_left, getElem?_eq_getElem hi]
        rfl)
      (by
        rw [← h.deliveredOffset, ← hbegin, ← hend, ← hbyteAt, storedByte,
          hbehind _ (Nat.le_refl _), hrest _ (Nat.le_refl _)]
        rfl)
    rw [← h.deliveredOffset, ← hbegin, ← hend] at hcontiguous
    refine ⟨hb.1.trans hcontiguous.2.symm, ⟨hb.2.2.1.trans hcontiguous.1.symm, fun x => ?_⟩⟩
    show _ = if x < stream.firstGap then none else stream.byteAt x
    rw [hb.2.1, hcontiguous.1, ← hbyteAt, storedByte]
    split
    · next hlt => exact hrest x (Nat.le_of_lt hlt)
    · next hle => rw [hbehind x (Nat.le_of_not_lt hle), Option.none_or]
  · have hgap : storedByte b.deliveredOffset b.fragments = none :=
      storedByte_eq_none fun f hf hcovers =>
        absurd hcovers.1 (Nat.not_le_of_lt (hbehind f hf))
    have hcontiguous := @PartialStream.contiguous_eq stream []
      (fun i hi => absurd hi (Nat.not_lt_zero i))
      (by rw [← h.deliveredOffset, ← hbyteAt]; exact hgap)
    rw [← h.deliveredOffset, length_nil, Nat.add_zero] at hcontiguous
    refine ⟨hb.1.trans hcontiguous.2.symm, ⟨hb.2.2.1.trans hcontiguous.1.symm, fun x => ?_⟩⟩
    show _ = if x < stream.firstGap then none else stream.byteAt x
    rw [hb.2.1, hcontiguous.1, ← hbyteAt]
    split
    · next hlt =>
      refine storedByte_eq_none fun f hf hcovers => ?_
      have hle := b.beyond f hf
      have hcovered := hcovers.1
      omega
    · rfl

end Holding

/-! ## Sequences of calls -/

inductive ReassemblyCall where
  | insert (offset : Nat) (bytes : Bytes)
  | drain
  deriving DecidableEq, Repr

/-- The members after the calls and the bytes of each drain. -/
def runReassembly (calls : List ReassemblyCall) : ReassemblyWords × List Bytes :=
  calls.foldl (fun (words, drained) call =>
    match call with
    | .insert offset bytes => (words.insert offset bytes, drained)
    | .drain => (words.drain.2, drained ++ [words.drain.1])) (⟨[], 0, 0⟩, [])

/-- The same calls on a partial map. -/
noncomputable def runPartialStream (calls : List ReassemblyCall) : PartialStream × List Bytes :=
  calls.foldl (fun (stream, drained) call =>
    match call with
    | .insert offset bytes => (stream.insert offset bytes, drained)
    | .drain => (stream.drain.2, drained ++ [stream.drain.1])) (.empty, [])

/-- After any calls the words are those of a structure that holds the map,
and what went out is the map's and ends at the delivery point. -/
theorem runReassembly_represents (calls : List ReassemblyCall)
    (hwords : ∀ offset bytes, .insert offset bytes ∈ calls → offset + bytes.length < 2 ^ 64) :
    ∃ b : QuicReassemblyBuffer, ReassemblyWords.Represents (runReassembly calls).1 b ∧
      Holding b (runPartialStream calls).1 ∧
      (runReassembly calls).2 = (runPartialStream calls).2 ∧
      (runReassembly calls).2.flatten.length = b.deliveredOffset := by
  induction calls using reverseRecOn with
  | nil => exact ⟨.empty, .empty, .empty, rfl, rfl⟩
  | append_singleton calls call ih =>
    obtain ⟨b, hrep, hholding, hdrained, hlength⟩ :=
      ih fun offset bytes h => hwords offset bytes (mem_append_left _ h)
    unfold runReassembly runPartialStream at *
    rw [foldl_append, foldl_append]
    generalize calls.foldl _ _ = words at *
    generalize calls.foldl _ _ = stream at *
    cases call with
    | insert offset bytes =>
      refine ⟨b.insert offset bytes, hrep.insert_eq (hwords offset bytes (by simp)),
        hholding.insert offset bytes, hdrained, ?_⟩
      rw [b.insert_deliveredOffset]
      exact hlength
    | drain =>
      obtain ⟨hbytes, hnext⟩ := hrep.drain_eq
      obtain ⟨hmap, hmapNext⟩ := hholding.drain
      refine ⟨b.drain.2, hnext, hmapNext, ?_, ?_⟩
      · show words.2 ++ [_] = stream.2 ++ [_]
        rw [hdrained, hbytes, hmap]
      show (words.2 ++ [_]).flatten.length = _
      rw [flatten_append, length_append, hlength, hbytes, flatten_singleton]
      rcases b.drain_cases with
        ⟨first, rest, -, hbegin, hb⟩ | ⟨-, hb⟩
      · rw [hb.1, hb.2.2.1, first.endOffset_eq, hbegin]
      · rw [hb.1, hb.2.2.1]
        rfl

/-- Over any sequence of calls that stays within the offsets the class is a
partial map: the fragments are in order, apart and not empty, the count is
their total length, they hold the map's bytes, and each drain hands out the
map's bytes up to the first gap. What went out is the stream up to the
delivery point, each byte once. -/
theorem reassembly_refines_partial_map (calls : List ReassemblyCall)
    (hwords : ∀ offset bytes, .insert offset bytes ∈ calls → offset + bytes.length < 2 ^ 64) :
    let words := (runReassembly calls).1
    let stream := (runPartialStream calls).1
    Separated words.fragments ∧ (∀ f ∈ words.fragments, f.bytes ≠ []) ∧
      words.bufferedByteCount = fragmentByteCount words.fragments ∧
      words.deliveredOffset = stream.deliveredOffset ∧
      (∀ x, storedByte x words.fragments = stream.byteAt x) ∧
      (runReassembly calls).2 = (runPartialStream calls).2 ∧
      (runReassembly calls).2.flatten.length = words.deliveredOffset := by
  obtain ⟨b, hrep, hholding, hdrained, hlength⟩ := runReassembly_represents calls hwords
  simp only
  rw [hrep.fragments, hrep.bufferedByteCount, hrep.deliveredOffset]
  exact ⟨b.separated, b.nonempty, b.counted, hholding.deliveredOffset,
    hholding.byteAt, hdrained, hlength⟩

/-- A segment that bridges two others, one that overlaps what was drained,
and drains between them. -/
theorem reassembly_refines_partial_map_bridged :
    (runReassembly [.insert 4 [4, 5], .insert 0 [0, 1], .drain,
        .insert 1 [9, 2, 3, 9], .drain]).2.flatten.length =
      (runReassembly [.insert 4 [4, 5], .insert 0 [0, 1], .drain,
        .insert 1 [9, 2, 3, 9], .drain]).1.deliveredOffset :=
  (reassembly_refines_partial_map [.insert 4 [4, 5], .insert 0 [0, 1], .drain,
    .insert 1 [9, 2, 3, 9], .drain] (fun offset bytes h => by
      simp only [mem_cons, ReassemblyCall.insert.injEq, reduceCtorEq,
        not_mem_nil, false_or, or_false] at h
      rcases h with ⟨rfl, rfl⟩ | ⟨rfl, rfl⟩ | ⟨rfl, rfl⟩ <;>
        decide)).2.2.2.2.2.2

example : (runReassembly [.insert 4 [4, 5], .insert 0 [0, 1], .drain,
    .insert 1 [9, 2, 3, 9], .drain]).2 = [[0, 1], [2, 3, 9, 5]] := by
  decide +kernel

end AsynGyanis.Quic
