import AsynGyanis.Quic.Codec.VariableLengthInteger

/-!
# The reassembly buffer

`QuicReassemblyBuffer` holds the fragments of one stream that have arrived
ahead of the delivery point. Its private map keeps them disjoint, in order
and never even touching: a new fragment is merged with every fragment it
overlaps or meets before it is stored. That shape is a field of the
structure here, so each operation restores it once, in its definition, and
nothing downstream has to assume it.

What a buffer means is a set of positions (`Holds`) and, as long as all
the bytes that went in agree with one content of the stream (`Agrees`),
the bytes at these positions. In those terms an insertion is a union, and
a drain hands out the content from the old delivery point up to the first
position the buffer does not hold.
-/

namespace AsynGyanis.Quic

open List

/-- One entry of the fragment map: the key is the first offset. -/
structure QuicFragment where
  beginOffset : Nat
  bytes : Bytes
  deriving DecidableEq, Repr

def QuicFragment.endOffset (fragment : QuicFragment) : Nat :=
  fragment.beginOffset + fragment.bytes.length

theorem QuicFragment.endOffset_eq (fragment : QuicFragment) :
    fragment.endOffset = fragment.beginOffset + fragment.bytes.length := rfl

def QuicFragment.Covers (fragment : QuicFragment) (x : Nat) : Prop :=
  fragment.beginOffset ≤ x ∧ x < fragment.endOffset

/-- The fragment's bytes are the stream's bytes at the same offsets. -/
def QuicFragment.Agrees (content : Nat → UInt8) (fragment : QuicFragment) :
    Prop :=
  ∀ i, (h : i < fragment.bytes.length) → fragment.bytes[i] = content (fragment.beginOffset + i)

/-- Ascending, disjoint and with a gap after each fragment. -/
def Separated (fragments : List QuicFragment) : Prop :=
  fragments.Pairwise (fun a b => a.endOffset < b.beginOffset)

def fragmentByteCount (fragments : List QuicFragment) : Nat := (fragments.map (·.bytes.length)).sum

/-! ## Merging two fragments -/

/-- `std::ranges::copy(source, target.begin() + position)`. -/
def copyAt (target : Bytes) (position : Nat) (source : Bytes) : Bytes :=
  target.take position ++ source ++ target.drop (position + source.length)

/-- One round of the merge loop: both byte strings copied into one zeroed
buffer, the incoming one last. -/
def mergeFragment (incoming cached : QuicFragment) : QuicFragment :=
  let mergedBegin := min incoming.beginOffset cached.beginOffset
  let mergedEnd := max incoming.endOffset cached.endOffset
  let merged := replicate (mergedEnd - mergedBegin) 0
  let merged := copyAt merged (cached.beginOffset - mergedBegin) cached.bytes
  let merged := copyAt merged (incoming.beginOffset - mergedBegin) incoming.bytes
  ⟨mergedBegin, merged⟩

theorem copyAt_length {target source : Bytes} {position : Nat}
    (h : position + source.length ≤ target.length) :
    (copyAt target position source).length = target.length := by
  simp [copyAt]
  omega

theorem copyAt_getElem? {target source : Bytes} {position : Nat}
    (h : position + source.length ≤ target.length) (i : Nat) :
    (copyAt target position source)[i]? =
      if position ≤ i ∧ i < position + source.length
      then source[i - position]? else target[i]? := by
  have htake : (target.take position).length = position := by
    rw [length_take]
    omega
  unfold copyAt
  by_cases hlo : i < position
  · rw [if_neg (by omega), append_assoc, getElem?_append_left (by omega), getElem?_take_of_lt hlo]
  by_cases hhi : i < position + source.length
  · rw [if_pos ⟨by omega, hhi⟩, append_assoc, getElem?_append_right (by omega), htake,
      getElem?_append_left (by omega)]
  rw [if_neg (by omega), getElem?_append_right (by
    rw [length_append, htake]; omega), getElem?_drop,
    length_append, htake]
  congr 1
  omega

theorem mergeFragment_endOffset (incoming cached : QuicFragment) :
    (mergeFragment incoming cached).endOffset = max incoming.endOffset cached.endOffset := by
  simp only [QuicFragment.endOffset, mergeFragment]
  rw [copyAt_length, copyAt_length, length_replicate]
  · omega
  · rw [length_replicate]; omega
  · rw [copyAt_length] <;> rw [length_replicate] <;> omega

theorem mergeFragment_getElem? (incoming cached : QuicFragment) (i x : Nat)
    (hx : x = min incoming.beginOffset cached.beginOffset + i)
    (hcovered : incoming.Covers x ∨ cached.Covers x) :
    (mergeFragment incoming cached).bytes[i]? =
      if incoming.beginOffset ≤ x ∧ x < incoming.endOffset
      then incoming.bytes[x - incoming.beginOffset]?
      else cached.bytes[x - cached.beginOffset]? := by
  have hin := incoming.endOffset_eq
  have hca := cached.endOffset_eq
  simp only [QuicFragment.Covers] at hcovered
  simp only [mergeFragment]
  rw [copyAt_getElem?]
  · by_cases h : incoming.beginOffset ≤ x ∧ x < incoming.endOffset
    · rw [if_pos h, if_pos (by omega)]
      congr 1
      omega
    rw [if_neg h, if_neg (by omega), copyAt_getElem?, if_pos (by omega)]
    · congr 1
      omega
    · rw [length_replicate]; omega
  · rw [copyAt_length] <;> rw [length_replicate] <;> omega

variable {incoming : QuicFragment} {content : Nat → UInt8}

theorem mergeFragment_agrees {cached : QuicFragment} (hincoming : incoming.Agrees content)
    (hcached : cached.Agrees content) (hlo : cached.beginOffset ≤ incoming.endOffset)
    (hhi : incoming.beginOffset ≤ cached.endOffset) :
    (mergeFragment incoming cached).Agrees content := by
  intro i hi
  have hin := incoming.endOffset_eq
  have hca := cached.endOffset_eq
  have hend := mergeFragment_endOffset incoming cached
  rw [QuicFragment.endOffset_eq] at hend
  have hbegin : (mergeFragment incoming cached).beginOffset =
      min incoming.beginOffset cached.beginOffset := rfl
  have hbytes := mergeFragment_getElem? incoming cached i _ rfl
    (by simp only [QuicFragment.Covers]; omega)
  rw [getElem?_eq_getElem hi] at hbytes
  split at hbytes
  · next hown =>
    rw [getElem?_eq_getElem (by omega)] at hbytes
    rw [Option.some.inj hbytes, hincoming _ (by omega)]
    congr 1
    omega
  rw [getElem?_eq_getElem (by omega)] at hbytes
  rw [Option.some.inj hbytes, hcached _ (by omega)]
  congr 1
  omega

/-! ## The merge loop -/

/-- The `while` loop of `insert`: fragments that begin at or before the end
of the growing one are merged into it and erased. -/
def mergeFragments (incoming : QuicFragment) : List QuicFragment → QuicFragment × List QuicFragment
  | [] => (incoming, [])
  | cached :: rest =>
    if cached.beginOffset ≤ incoming.endOffset then
      mergeFragments (mergeFragment incoming cached) rest
    else (incoming, cached :: rest)

/-- Where the loop starts: `upper_bound(begin)`, one step back when the
fragment before it reaches `begin`. -/
def splitAtCursor (begin : Nat) (fragments : List QuicFragment) :
    List QuicFragment × List QuicFragment :=
  let before := fragments.takeWhile (fun f => f.beginOffset ≤ begin)
  let after := fragments.dropWhile (fun f => f.beginOffset ≤ begin)
  match before.getLast? with
  | none => (before, after)
  | some previous =>
    if previous.endOffset ≥ begin then (before.dropLast, previous :: after)
    else (before, after)

theorem splitAtCursor_append (begin : Nat) (fragments : List QuicFragment) :
    (splitAtCursor begin fragments).1 ++ (splitAtCursor begin fragments).2 =
      fragments := by
  simp only [splitAtCursor]
  split
  · exact takeWhile_append_dropWhile
  rename_i previous hlast
  split
  · have hne : fragments.takeWhile (fun f => f.beginOffset ≤ begin) ≠ [] := by
      intro hnil
      rw [hnil] at hlast
      cases hlast
    have hget := getLast?_eq_some_getLast hne
    rw [hlast, Option.some.injEq] at hget
    rw [hget, append_cons, dropLast_append_getLast hne]
    exact takeWhile_append_dropWhile
  · exact takeWhile_append_dropWhile

variable {f : QuicFragment} {fragments : List QuicFragment}

theorem splitAtCursor_left {begin : Nat} (hsep : Separated fragments)
    (hf : f ∈ (splitAtCursor begin fragments).1) : f.endOffset < begin := by
  have hsep' : Separated (fragments.takeWhile (fun f => f.beginOffset ≤ begin)) :=
    hsep.sublist (takeWhile_sublist _)
  have hkey : ∀ g ∈ fragments.takeWhile (fun f => f.beginOffset ≤ begin),
      g.beginOffset ≤ begin := fun g hg => by
    simpa using mem_takeWhile_imp hg
  simp only [splitAtCursor] at hf
  generalize fragments.takeWhile (fun f => f.beginOffset ≤ begin) = before at hsep' hkey hf
  rcases eq_nil_or_concat' before with rfl | ⟨init, previous, rfl⟩
  · simp at hf
  have hprev := hkey previous (by simp)
  have hinit : ∀ g ∈ init, g.endOffset < begin := by
    intro g hg
    have hlt := (pairwise_append.mp hsep').2.2 g hg previous (by simp)
    omega
  simp only [getLast?_append, getLast?_singleton, Option.some_or] at hf
  split at hf
  · rw [dropLast_concat] at hf
    exact hinit f hf
  rcases mem_append.mp hf with hf | hf
  · exact hinit f hf
  · rw [mem_singleton.mp hf]
    omega

variable {rest : List QuicFragment}

/-- What the loop leaves: the grown fragment first, everything behind it
beyond a gap. -/
theorem mergeFragments_separated (hsep : Separated rest) :
    Separated ((mergeFragments incoming rest).1 :: (mergeFragments incoming rest).2) := by
  induction rest generalizing incoming with
  | nil => exact pairwise_singleton _ _
  | cons cached rest ih =>
    obtain ⟨hhead, hrest⟩ := pairwise_cons.mp hsep
    simp only [mergeFragments]
    split
    · exact ih hrest
    rename_i hgap
    refine pairwise_cons.mpr ⟨?_, hsep⟩
    intro f hf
    show incoming.endOffset < f.beginOffset
    rcases mem_cons.mp hf with rfl | hf
    · omega
    have hlt := hhead f hf
    simp only [QuicFragment.endOffset] at hlt hgap ⊢
    omega

theorem mergeFragments_subset (hf : f ∈ (mergeFragments incoming rest).2) : f ∈ rest := by
  induction rest generalizing incoming with
  | nil => exact hf
  | cons cached rest ih =>
    simp only [mergeFragments] at hf
    split at hf
    · exact mem_cons_of_mem _ (ih hf)
    · exact hf

theorem lt_mergeFragments_begin {n : Nat} (hn : n ≤ incoming.beginOffset)
    (hrest : ∀ f ∈ rest, n ≤ f.beginOffset) :
    n ≤ (mergeFragments incoming rest).1.beginOffset := by
  induction rest generalizing incoming with
  | nil => exact hn
  | cons cached rest ih =>
    simp only [mergeFragments]
    split
    · refine ih ?_ fun f hf => hrest f (mem_cons_of_mem _ hf)
      have hc := hrest cached mem_cons_self
      simp only [mergeFragment]
      omega
    · exact hn

theorem mergeFragments_nonempty (h : incoming.bytes ≠ []) :
    (mergeFragments incoming rest).1.bytes ≠ [] := by
  induction rest generalizing incoming with
  | nil => exact h
  | cons cached rest ih =>
    simp only [mergeFragments]
    split
    · refine ih ?_
      have hend := mergeFragment_endOffset incoming cached
      have hpos := length_pos_iff.mpr h
      refine length_pos_iff.mp ?_
      simp only [QuicFragment.endOffset, mergeFragment] at hend ⊢
      omega
    · exact h

/-- The loop only regroups: it covers what it was given, each byte once. -/
theorem mergeFragments_covers (incoming : QuicFragment)
    (hreach : ∀ f ∈ rest, incoming.beginOffset ≤ f.endOffset) (x : Nat) :
    ((mergeFragments incoming rest).1.Covers x ∨
        ∃ f ∈ (mergeFragments incoming rest).2, f.Covers x) ↔
      (incoming.Covers x ∨ ∃ f ∈ rest, f.Covers x) := by
  induction rest generalizing incoming with
  | nil => simp [mergeFragments]
  | cons cached rest ih =>
    simp only [mergeFragments]
    split
    · next htouch =>
      have hlo := hreach cached mem_cons_self
      rw [ih]
      · simp only [QuicFragment.Covers, mergeFragment_endOffset,
          mem_cons, exists_eq_or_imp, ← or_assoc]
        have hsplit :
            ((mergeFragment incoming cached).beginOffset ≤ x ∧
              x < max incoming.endOffset cached.endOffset) ↔
            ((incoming.beginOffset ≤ x ∧ x < incoming.endOffset) ∨
              (cached.beginOffset ≤ x ∧ x < cached.endOffset)) := by
          simp only [mergeFragment]
          omega
        rw [hsplit]
      · intro f hf
        have hf' := hreach f (mem_cons_of_mem _ hf)
        simp only [mergeFragment]
        omega
    · rfl

theorem mergeFragments_agrees (hincoming : incoming.Agrees content)
    (hrest : ∀ f ∈ rest, f.Agrees content)
    (hreach : ∀ f ∈ rest, incoming.beginOffset ≤ f.endOffset) :
    (mergeFragments incoming rest).1.Agrees content := by
  induction rest generalizing incoming with
  | nil => exact hincoming
  | cons cached rest ih =>
    simp only [mergeFragments]
    split
    · next htouch =>
      refine ih ?_ (fun f hf => hrest f (mem_cons_of_mem _ hf)) ?_
      · exact mergeFragment_agrees hincoming (hrest cached mem_cons_self) htouch
          (hreach cached mem_cons_self)
      intro f hf
      have hf' := hreach f (mem_cons_of_mem _ hf)
      simp only [mergeFragment]
      omega
    · exact hincoming

theorem splitAtCursor_right {begin : Nat} (hsep : Separated fragments)
    (hf : f ∈ (splitAtCursor begin fragments).2) : begin ≤ f.endOffset := by
  have hafter : ∀ g ∈ fragments.dropWhile (fun f => f.beginOffset ≤ begin),
      begin ≤ g.endOffset := by
    intro g hg
    have hsep' : Separated (fragments.dropWhile (fun f => f.beginOffset ≤ begin)) :=
      hsep.sublist (dropWhile_sublist _)
    have hhead := head?_dropWhile_not
      (fun f : QuicFragment => decide (f.beginOffset ≤ begin)) fragments
    generalize fragments.dropWhile (fun f => f.beginOffset ≤ begin) = after at hg hsep' hhead
    cases after with
    | nil => exact absurd hg not_mem_nil
    | cons first rest =>
      have hfirst : begin < first.beginOffset := by simpa using hhead
      rcases mem_cons.mp hg with rfl | hg
      · rw [QuicFragment.endOffset_eq]; omega
      have hlt := (pairwise_cons.mp hsep').1 g hg
      rw [QuicFragment.endOffset_eq] at hlt ⊢
      omega
  simp only [splitAtCursor] at hf
  split at hf
  · exact hafter f hf
  split at hf
  · rcases mem_cons.mp hf with rfl | hf
    · assumption
    · exact hafter f hf
  · exact hafter f hf

theorem mergeFragments_byteCount (incoming : QuicFragment) (rest : List QuicFragment) :
    fragmentByteCount (mergeFragments incoming rest).2 ≤ fragmentByteCount rest := by
  induction rest generalizing incoming with
  | nil => exact Nat.le_refl _
  | cons cached rest ih =>
    have hcons : fragmentByteCount (cached :: rest) =
        cached.bytes.length + fragmentByteCount rest := by
      simp [fragmentByteCount]
    simp only [mergeFragments]
    split
    · have hrest := ih (mergeFragment incoming cached)
      omega
    · exact Nat.le_refl _

theorem fragmentByteCount_append (a b : List QuicFragment) :
    fragmentByteCount (a ++ b) = fragmentByteCount a + fragmentByteCount b := by
  simp [fragmentByteCount]

/-! ## The buffer -/

/-- The buffer together with what its private map is kept to: separated,
non-empty fragments beyond the delivery point, and their total size. -/
structure QuicReassemblyBuffer where
  fragments : List QuicFragment
  deliveredOffset : Nat
  bufferedByteCount : Nat
  separated : Separated fragments
  nonempty : ∀ f ∈ fragments, f.bytes ≠ []
  beyond : ∀ f ∈ fragments, deliveredOffset ≤ f.beginOffset
  counted : bufferedByteCount = fragmentByteCount fragments
  deriving DecidableEq

def QuicReassemblyBuffer.empty : QuicReassemblyBuffer where
  fragments := []
  deliveredOffset := 0
  bufferedByteCount := 0
  separated := List.Pairwise.nil
  nonempty := fun _ h => absurd h not_mem_nil
  beyond := fun _ h => absurd h not_mem_nil
  counted := rfl

instance : Inhabited QuicReassemblyBuffer := ⟨.empty⟩

/-- What `insert` keeps of a segment: the part that was never delivered. -/
def trimDelivered (deliveredOffset offset : Nat) (bytes : Bytes) :
    QuicFragment :=
  if offset < deliveredOffset then
    ⟨deliveredOffset, bytes.drop (deliveredOffset - offset)⟩
  else ⟨offset, bytes⟩

theorem trimDelivered_begin (deliveredOffset offset : Nat) (bytes : Bytes) :
    (trimDelivered deliveredOffset offset bytes).beginOffset = max deliveredOffset offset := by
  unfold trimDelivered
  split <;> dsimp only <;> omega

theorem trimDelivered_end (deliveredOffset offset : Nat) (bytes : Bytes)
    (h : deliveredOffset < offset + bytes.length) :
    (trimDelivered deliveredOffset offset bytes).endOffset = offset + bytes.length := by
  unfold trimDelivered
  split
  · simp only [QuicFragment.endOffset, length_drop]
    omega
  · rfl

theorem trimDelivered_agrees {deliveredOffset offset : Nat} {bytes : Bytes}
    (h : (QuicFragment.mk offset bytes).Agrees content) :
    (trimDelivered deliveredOffset offset bytes).Agrees content := by
  unfold trimDelivered
  split
  · intro i hi
    simp only [length_drop] at hi
    have hbyte := h (deliveredOffset - offset + i) (by dsimp only; omega)
    simp only [getElem_drop] at hbyte ⊢
    rw [hbyte]
    congr 1
    omega
  · exact h

/-- The fragment map after an insertion. -/
def insertFragment (incoming : QuicFragment) (fragments : List QuicFragment) : List QuicFragment :=
  let cut := splitAtCursor incoming.beginOffset fragments
  let merged := mergeFragments incoming cut.2
  cut.1 ++ merged.1 :: merged.2

section InsertFragment

variable {incoming : QuicFragment} {fragments : List QuicFragment}

theorem insertFragment_separated (hsep : Separated fragments) :
    Separated (insertFragment incoming fragments) := by
  have hcut := splitAtCursor_append incoming.beginOffset fragments
  have hparts : Separated ((splitAtCursor incoming.beginOffset fragments).1 ++
      (splitAtCursor incoming.beginOffset fragments).2) := by
    rw [hcut]; exact hsep
  obtain ⟨hleft, hright, hcross⟩ := pairwise_append.mp hparts
  refine pairwise_append.mpr ⟨hleft, mergeFragments_separated hright, ?_⟩
  intro f hf g hg
  have hlt := splitAtCursor_left hsep hf
  rcases mem_cons.mp hg with rfl | hg
  · exact lt_mergeFragments_begin hlt fun g hg => hcross f hf g hg
  · exact hcross f hf g (mergeFragments_subset hg)

theorem mem_insertFragment (hf : f ∈ insertFragment incoming fragments) :
    f ∈ fragments ∨ f = (mergeFragments incoming
      (splitAtCursor incoming.beginOffset fragments).2).1 := by
  have hcut := splitAtCursor_append incoming.beginOffset fragments
  rcases mem_append.mp hf with hf | hf
  · exact .inl (hcut ▸ mem_append_left _ hf)
  rcases mem_cons.mp hf with hf | hf
  · exact .inr hf
  · exact .inl (hcut ▸ mem_append_right _ (mergeFragments_subset hf))

theorem insertFragment_covers (incoming : QuicFragment) (hsep : Separated fragments) (x : Nat) :
    (∃ f ∈ insertFragment incoming fragments, f.Covers x) ↔
      incoming.Covers x ∨ ∃ f ∈ fragments, f.Covers x := by
  have hcut := splitAtCursor_append incoming.beginOffset fragments
  have hmerge := mergeFragments_covers incoming (fun f hf => splitAtCursor_right hsep hf) x
  have hparts : (∃ f ∈ fragments, f.Covers x) ↔
      (∃ f ∈ (splitAtCursor incoming.beginOffset fragments).1, f.Covers x) ∨
      ∃ f ∈ (splitAtCursor incoming.beginOffset fragments).2, f.Covers x := by
    conv => lhs; rw [← hcut]
    simp only [mem_append, or_and_right, exists_or]
  simp only [insertFragment, mem_append, mem_cons, or_and_right,
    exists_or, exists_eq_left, hmerge, hparts]
  exact or_left_comm

theorem insertFragment_agrees (hsep : Separated fragments) (hincoming : incoming.Agrees content)
    (hcached : ∀ f ∈ fragments, f.Agrees content)
    (hf : f ∈ insertFragment incoming fragments) : f.Agrees content := by
  have hcut := splitAtCursor_append incoming.beginOffset fragments
  rcases mem_insertFragment hf with hf | rfl
  · exact hcached f hf
  refine mergeFragments_agrees hincoming (fun g hg => hcached g ?_)
    fun g hg => splitAtCursor_right hsep hg
  exact hcut ▸ mem_append_right _ hg

end InsertFragment

/-- The bytes of the fragments an insertion erases, and of the one it
stores, add up to what the map holds afterwards. -/
theorem insertFragment_byteCount (incoming : QuicFragment) (fragments : List QuicFragment) :
    let cut := splitAtCursor incoming.beginOffset fragments
    let merged := mergeFragments incoming cut.2
    fragmentByteCount fragments - (fragmentByteCount cut.2 - fragmentByteCount merged.2) +
        merged.1.bytes.length =
      fragmentByteCount (insertFragment incoming fragments) := by
  intro cut merged
  have hcut := congrArg fragmentByteCount (splitAtCursor_append incoming.beginOffset fragments)
  have hle := mergeFragments_byteCount incoming cut.2
  have hcons : fragmentByteCount (merged.1 :: merged.2) =
      merged.1.bytes.length + fragmentByteCount merged.2 := by
    simp [fragmentByteCount]
  have hall : fragmentByteCount (insertFragment incoming fragments) =
      fragmentByteCount cut.1 + fragmentByteCount (merged.1 :: merged.2) :=
    fragmentByteCount_append _ _
  rw [fragmentByteCount_append] at hcut
  change fragmentByteCount cut.1 + fragmentByteCount cut.2 = _ at hcut
  change fragmentByteCount merged.2 ≤ fragmentByteCount cut.2 at hle
  omega

/-- The loop of `drain`. Keys ascend and none lies below the delivery
point, so `find(deliveredOffset)` can only hit the first entry. -/
def drainFragments (deliveredOffset : Nat) : List QuicFragment → Bytes × Nat × List QuicFragment
  | [] => ([], deliveredOffset, [])
  | f :: rest =>
    if f.beginOffset = deliveredOffset then
      let drained := drainFragments f.endOffset rest
      (f.bytes ++ drained.1, drained.2)
    else ([], deliveredOffset, f :: rest)

/-- A gap follows every fragment, so at most the first one is drained. -/
theorem drainFragments_cases (deliveredOffset : Nat) (hsep : Separated fragments) :
    (∃ f rest, fragments = f :: rest ∧ f.beginOffset = deliveredOffset ∧
      drainFragments deliveredOffset fragments = (f.bytes, f.endOffset, rest)) ∨
    (drainFragments deliveredOffset fragments = ([], deliveredOffset, fragments) ∧
      ∀ f rest, fragments = f :: rest → f.beginOffset ≠ deliveredOffset) := by
  cases fragments with
  | nil => exact .inr ⟨rfl, by simp⟩
  | cons f rest =>
    have hgap := (pairwise_cons.mp hsep).1
    by_cases hbegin : f.beginOffset = deliveredOffset
    · refine .inl ⟨f, rest, rfl, hbegin, ?_⟩
      rw [drainFragments, if_pos hbegin]
      cases rest with
      | nil => simp [drainFragments]
      | cons g rest =>
        have hlt := hgap g mem_cons_self
        rw [drainFragments, if_neg (by omega)]
        simp
    · refine .inr ⟨?_, ?_⟩
      · rw [drainFragments, if_neg hbegin]
      intro f' rest' heq
      injection heq with heq _
      exact heq ▸ hbegin

namespace QuicReassemblyBuffer

/-- `insert`. The source takes the size of each merged fragment off the
counter as it erases it; together these are the fragments the loop was
given and did not leave behind. -/
def insert (b : QuicReassemblyBuffer) (offset : Nat) (bytes : Bytes) :
    QuicReassemblyBuffer :=
  if h : bytes = [] ∨ offset + bytes.length ≤ b.deliveredOffset then b
  else
    let incoming := trimDelivered b.deliveredOffset offset bytes
    let cut := splitAtCursor incoming.beginOffset b.fragments
    let merged := mergeFragments incoming cut.2
    { fragments := insertFragment incoming b.fragments
      deliveredOffset := b.deliveredOffset
      bufferedByteCount := b.bufferedByteCount -
        (fragmentByteCount cut.2 - fragmentByteCount merged.2) +
        merged.1.bytes.length
      separated := insertFragment_separated b.separated
      nonempty := by
        intro f hf
        rcases mem_insertFragment hf with hf | rfl
        · exact b.nonempty f hf
        refine mergeFragments_nonempty (length_pos_iff.mp ?_)
        have hend := trimDelivered_end b.deliveredOffset offset bytes
          (Nat.lt_of_not_le (not_or.mp h).2)
        have hbegin := trimDelivered_begin b.deliveredOffset offset bytes
        have hpos := length_pos_iff.mpr (not_or.mp h).1
        have hnew := (not_or.mp h).2
        rw [QuicFragment.endOffset_eq] at hend
        show 0 < (trimDelivered b.deliveredOffset offset bytes).bytes.length
        omega
      beyond := by
        intro f hf
        rcases mem_insertFragment hf with hf | rfl
        · exact b.beyond f hf
        refine lt_mergeFragments_begin ?_ fun g hg => b.beyond g ?_
        · rw [trimDelivered_begin]; omega
        · exact splitAtCursor_append incoming.beginOffset b.fragments ▸ mem_append_right _ hg
      counted := by
        rw [b.counted]
        exact insertFragment_byteCount incoming b.fragments }

/-- `drain`: the bytes handed out and the buffer left. -/
def drain (b : QuicReassemblyBuffer) : Bytes × QuicReassemblyBuffer :=
  let drained := drainFragments b.deliveredOffset b.fragments
  (drained.1,
    { fragments := drained.2.2
      deliveredOffset := drained.2.1
      bufferedByteCount := b.bufferedByteCount - drained.1.length
      separated := by
        have hsep := b.separated
        rcases drainFragments_cases b.deliveredOffset hsep with ⟨f, rest, hfrag, _, hd⟩ | ⟨hd, _⟩
        · simp only [drained, hd]
          exact (pairwise_cons.mp (hfrag ▸ hsep)).2
        · simp only [drained, hd]
          exact hsep
      nonempty := by
        have hne := b.nonempty
        rcases drainFragments_cases b.deliveredOffset
          b.separated with ⟨f, rest, hfrag, _, hd⟩ | ⟨hd, _⟩
        · simp only [drained, hd]
          exact fun g hg => hne g (hfrag ▸ mem_cons_of_mem _ hg)
        · simp only [drained, hd]
          exact hne
      beyond := by
        have hbeyond := b.beyond
        have hsep := b.separated
        rcases drainFragments_cases b.deliveredOffset hsep with ⟨f, rest, hfrag, _, hd⟩ | ⟨hd, _⟩
        · simp only [drained, hd]
          rw [hfrag] at hsep
          exact fun g hg => Nat.le_of_lt ((pairwise_cons.mp hsep).1 g hg)
        · simp only [drained, hd]
          exact hbeyond
      counted := by
        have hcount := b.counted
        rcases drainFragments_cases b.deliveredOffset
          b.separated with ⟨f, rest, hfrag, _, hd⟩ | ⟨hd, _⟩
        · simp only [drained, hd]
          rw [hfrag] at hcount
          simp only [fragmentByteCount, map_cons, sum_cons] at hcount ⊢
          omega
        · simp only [drained, hd]
          simpa using hcount })

/-! ## What the buffer means -/

/-- The buffer holds the byte at `x`. -/
def Holds (b : QuicReassemblyBuffer) (x : Nat) : Prop := ∃ f ∈ b.fragments, f.Covers x

def Agrees (content : Nat → UInt8) (b : QuicReassemblyBuffer) : Prop :=
  ∀ f ∈ b.fragments, f.Agrees content

/-- The stream's bytes from `first` up to `last`. -/
def contentSlice (content : Nat → UInt8) (first last : Nat) : Bytes :=
  (range' first (last - first)).map content

theorem contentSlice_append (content : Nat → UInt8) {a b c : Nat} (hab : a ≤ b) (hbc : b ≤ c) :
    contentSlice content a b ++ contentSlice content b c = contentSlice content a c := by
  have hb : b = a + (b - a) := by omega
  have hlen : c - a = (b - a) + (c - b) := by omega
  simp only [contentSlice, ← map_append]
  congr 1
  rw [hlen, ← range'_append_1, ← hb]

section Meaning

variable {b : QuicReassemblyBuffer} {content : Nat → UInt8}

@[simp] theorem empty_deliveredOffset : empty.deliveredOffset = 0 := rfl

theorem empty_not_holds (x : Nat) : ¬ empty.Holds x := by
  rintro ⟨f, hf, _⟩
  exact not_mem_nil hf

theorem empty_agrees : empty.Agrees content := fun _ hf => absurd hf not_mem_nil

@[simp] theorem insert_deliveredOffset (offset : Nat) (bytes : Bytes) :
    (b.insert offset bytes).deliveredOffset = b.deliveredOffset := by
  unfold insert
  split <;> rfl

theorem insert_holds (offset : Nat) (bytes : Bytes) (x : Nat) :
    (b.insert offset bytes).Holds x ↔ b.Holds x ∨
      (b.deliveredOffset ≤ x ∧ offset ≤ x ∧ x < offset + bytes.length) := by
  unfold insert
  split
  · next h =>
    have hold : offset + bytes.length ≤ max b.deliveredOffset offset := by
      rcases h with rfl | h
      · exact Nat.le_max_right _ _
      · omega
    constructor
    · exact .inl
    rintro (h | h)
    · exact h
    · omega
  rename_i h
  have hend := trimDelivered_end b.deliveredOffset offset bytes (Nat.lt_of_not_le (not_or.mp h).2)
  have hbegin := trimDelivered_begin b.deliveredOffset offset bytes
  have hcov := insertFragment_covers (trimDelivered b.deliveredOffset offset bytes) b.separated x
  refine Iff.trans hcov ?_
  rw [or_comm]
  refine or_congr Iff.rfl ?_
  rw [QuicFragment.Covers, hend, hbegin]
  omega

theorem insert_agrees (hb : b.Agrees content) {offset : Nat} {bytes : Bytes}
    (hbytes : (QuicFragment.mk offset bytes).Agrees content) :
    (b.insert offset bytes).Agrees content := by
  unfold insert
  split
  · exact hb
  · intro f hf
    exact insertFragment_agrees b.separated (trimDelivered_agrees hbytes) hb hf

theorem fragment_eq_slice (hf : f.Agrees content) :
    f.bytes = contentSlice content f.beginOffset f.endOffset := by
  refine ext_getElem ?_ ?_
  · simp [contentSlice, QuicFragment.endOffset]
  · intro i hi _
    simp [contentSlice, hf i hi]

theorem drain_deliveredOffset_le : b.deliveredOffset ≤ b.drain.2.deliveredOffset := by
  show b.deliveredOffset ≤ (drainFragments b.deliveredOffset b.fragments).2.1
  rcases drainFragments_cases b.deliveredOffset b.separated with ⟨f, rest, _, hbegin, hd⟩ | ⟨hd, _⟩
  · rw [hd, QuicFragment.endOffset_eq]; dsimp only; omega
  · rw [hd]

theorem drain_bytes (hb : b.Agrees content) : b.drain.1 =
      contentSlice content b.deliveredOffset b.drain.2.deliveredOffset := by
  show (drainFragments b.deliveredOffset b.fragments).1 = contentSlice content b.deliveredOffset
      (drainFragments b.deliveredOffset b.fragments).2.1
  rcases drainFragments_cases b.deliveredOffset
    b.separated with ⟨f, rest, hfrag, hbegin, hd⟩ | ⟨hd, _⟩
  · rw [hd, ← hbegin]
    exact fragment_eq_slice (hb f (hfrag ▸ mem_cons_self))
  · rw [hd]
    simp [contentSlice]

theorem drain_agrees (hb : b.Agrees content) : b.drain.2.Agrees content := by
  intro f hf
  refine hb f ?_
  change f ∈ (drainFragments b.deliveredOffset b.fragments).2.2 at hf
  rcases drainFragments_cases b.deliveredOffset b.separated with ⟨g, rest, hfrag, _, hd⟩ | ⟨hd, _⟩
  · rw [hd] at hf
    exact hfrag ▸ mem_cons_of_mem _ hf
  · rw [hd] at hf
    exact hf

/-- A drain moves positions from the buffer to the delivered prefix and
loses none. -/
theorem drain_holds (x : Nat) : (x < b.drain.2.deliveredOffset ∨ b.drain.2.Holds x) ↔
      (x < b.deliveredOffset ∨ b.Holds x) := by
  have hsep := b.separated
  change (x < (drainFragments b.deliveredOffset b.fragments).2.1 ∨
    ∃ f ∈ (drainFragments b.deliveredOffset b.fragments).2.2, f.Covers x) ↔
    (x < b.deliveredOffset ∨ ∃ f ∈ b.fragments, f.Covers x)
  rcases drainFragments_cases b.deliveredOffset hsep with ⟨g, rest, hfrag, hbegin, hd⟩ | ⟨hd, _⟩
  · rw [hd, hfrag, exists_mem_cons_iff, ← or_assoc]
    refine or_congr ?_ Iff.rfl
    rw [QuicFragment.Covers, QuicFragment.endOffset_eq, hbegin]
    dsimp only
    omega
  · rw [hd]

theorem drain_stops : ¬ b.drain.2.Holds b.drain.2.deliveredOffset := by
  have hsep := b.separated
  have hbeyond := b.beyond
  change ¬ ∃ f ∈ (drainFragments b.deliveredOffset b.fragments).2.2,
    f.Covers (drainFragments b.deliveredOffset b.fragments).2.1
  rcases drainFragments_cases b.deliveredOffset hsep with ⟨g, rest, hfrag, hbegin, hd⟩ | ⟨hd, hne⟩
  · rw [hd]
    rintro ⟨f, hf, hcov⟩
    rw [hfrag] at hsep
    have hlt := (pairwise_cons.mp hsep).1 f hf
    have hlo := hcov.1
    dsimp only at hlo
    omega
  rw [hd]
  rintro ⟨f, hf, hcov⟩
  have hlo := hcov.1
  dsimp only at hf hlo
  cases hfrag : b.fragments with
  | nil => exact absurd (hfrag ▸ hf) not_mem_nil
  | cons g rest =>
    have hg := hbeyond g (hfrag ▸ mem_cons_self)
    have hgne := hne g rest hfrag
    rw [hfrag] at hsep hf
    rcases mem_cons.mp hf with rfl | hf
    · omega
    have hlt := (pairwise_cons.mp hsep).1 f hf
    rw [QuicFragment.endOffset_eq] at hlt
    omega

end Meaning

end QuicReassemblyBuffer

end AsynGyanis.Quic
