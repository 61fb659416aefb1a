import AsynGyanis.Http3.QpackEncoder
import AsynGyanis.Library.Reach

/-!
# The encoder's table and what the peer makes of its instructions

The encoder and the peer's decoder each keep the dynamic table, and the
peer's follows the instructions on the encoder stream. `followInstructions`
is that peer: it starts from an empty table and does what
`feedEncoderStream` does with one instruction after the other.

The two tables agree as long as no insertion is refused halfway. An
insertion makes room entry by entry and may find, behind entries it has
already evicted, one that has to stay; it is then given up, nothing is
sent, and the entries evicted are gone from the encoder's table but not
from the peer's. Changing the capacity looks ahead instead, and evicts
nothing it would have to regret.
-/

namespace AsynGyanis.Http3

open Quic (Bytes)
open Library (Reach)

variable {t t' table : QpackDynamicTable} {permitted : Nat → Bool}
variable {entry : QpackHeaderField}

namespace QpackDynamicTable

/-- The peer evicts whatever has to go; an entry larger than the table is an
error. -/
def inserting (t : QpackDynamicTable) (entry : QpackHeaderField) : Option QpackDynamicTable :=
  match t.insert entry fun _ => true with
  | (table, some _) => some table
  | (_, none) => none

/-- What `QpackDecoder::feedEncoderStream` does to its table for one
instruction, under the capacity it has announced. -/
def followInstruction (maximumTableCapacityByteCount : Nat)
    (t : QpackDynamicTable) : EncoderInstruction → Option QpackDynamicTable
  | .setDynamicTableCapacity capacityByteCount =>
    if capacityByteCount > maximumTableCapacityByteCount then none
    else t.setCapacityByteCount capacityByteCount fun _ => true
  | .insertWithNameReference isStatic nameIndex value =>
    match (if isStatic then kQpackStaticTable[nameIndex]?
        else t.tryGetEntryByRelativeIndexFromInsertionPoint nameIndex) with
    | none => none
    | some referenced => t.inserting ⟨referenced.name, value⟩
  | .insertWithLiteralName name value => t.inserting ⟨name, value⟩
  | .duplicate relativeIndex =>
    match t.tryGetEntryByRelativeIndexFromInsertionPoint relativeIndex with
    | none => none
    | some sourceEntry => t.inserting sourceEntry

def followInstructions (maximumTableCapacityByteCount : Nat)
    (t : QpackDynamicTable) (instructions : List EncoderInstruction) :
    Option QpackDynamicTable :=
  instructions.foldlM (followInstruction maximumTableCapacityByteCount) t

theorem followInstructions_append {maximum : Nat} {sent more : List EncoderInstruction}
    (h : t.followInstructions maximum sent = some t') :
    t.followInstructions maximum (sent ++ more) = t'.followInstructions maximum more := by
  rw [followInstructions, List.foldlM_append]
  rw [followInstructions] at h
  rw [h]
  rfl

theorem followInstructions_one (maximum : Nat) (t : QpackDynamicTable)
    (instruction : EncoderInstruction) :
    t.followInstructions maximum [instruction] = t.followInstruction maximum instruction := by
  rw [followInstructions, List.foldlM_cons]
  cases t.followInstruction maximum instruction <;> rfl

theorem inserting_eq {index : Nat} (h : t.insert entry permitted = (table, some index)) :
    t.inserting entry = some table := by
  rw [inserting, insert_permissive (congrArg Prod.snd h), h]

end QpackDynamicTable

namespace QpackEncoder

open QpackDynamicTable

/-! ## The condition -/

/-- The insertion a line gives rise to, if any, is not refused halfway. -/
def LineUndivided (e : QpackEncoder) (may : Bool) (s : SectionInProgress)
    (fieldLine : QpackHeaderField) : Prop :=
  findQpackStaticTableIndex fieldLine.name fieldLine.value = none →
    match s.table.findMatchingEntry fieldLine.name fieldLine.value with
    | some found =>
      isToBeDuplicated s found may →
        ¬ s.table.HalfEvicts e.isEntryEvictable (entrySizeByteCountOf fieldLine)
    | none =>
      e.tableCapacityByteCount ≠ 0 ∧ may = true →
        ¬ s.table.HalfEvicts e.isEntryEvictable (entrySizeByteCountOf fieldLine)

/-- No line of a section has its insertion refused halfway. -/
def LinesUndivided (e : QpackEncoder) (baseValue : Nat) (may : Bool) :
    SectionInProgress → List QpackHeaderField → Prop
  | _, [] => True
  | s, fieldLine :: rest => e.LineUndivided may s fieldLine ∧ e.LinesUndivided baseValue may
        (e.encodeFieldLine baseValue may s fieldLine) rest

/-! ## One line -/

/-- The peer, which started from this table, is where the section is. -/
def SectionInProgress.InStep (maximum : Nat) (first : QpackDynamicTable)
    (s : SectionInProgress) : Prop :=
  s.table.Counted ∧ first.followInstructions maximum s.instructions = some s.table

variable {maximum : Nat} {first : QpackDynamicTable} {e : QpackEncoder}
  {s : SectionInProgress}

theorem inStep_inserted (h : s.InStep maximum first) {index : Nat}
    {instruction : EncoderInstruction}
    (hinsert : s.table.insert entry e.isEntryEvictable = (table, some index))
    (hfollow : s.table.followInstruction maximum instruction = s.table.inserting entry) :
    (e.inserted s table instruction).InStep maximum first := by
  refine ⟨?_, ?_⟩
  · show table.Counted
    have := h.1.insert entry e.isEntryEvictable
    rw [hinsert] at this
    exact this
  show first.followInstructions maximum (s.instructions ++ [instruction]) = some table
  rw [followInstructions_append h.2, followInstructions_one, hfollow, inserting_eq hinsert]

theorem insert_none (h : t.insert entry permitted = (table, none))
    (hwhole : ¬ t.HalfEvicts permitted (entrySizeByteCountOf entry)) : table = t := by
  have hsame := (refusal_unchanged_iff t entry permitted).mpr hwhole (congrArg Prod.snd h)
  rw [h] at hsame
  exact hsame

variable {fieldLine : QpackHeaderField}

theorem inStep_duplicateIfDraining (h : s.InStep maximum first) {may : Bool} {found : Nat}
    (hfound : s.table.findMatchingEntry fieldLine.name fieldLine.value = some found)
    (hwhole : isToBeDuplicated s found may → ¬ s.table.HalfEvicts e.isEntryEvictable
        (entrySizeByteCountOf fieldLine)) :
    (e.duplicateIfDraining may s found).1.InStep maximum first := by
  obtain ⟨hlt, entry, hget, hsame⟩ := findNewest_some h.1 hfound
  have hentry : entry = fieldLine := by
    obtain ⟨hname, hvalue⟩ : entry.name = fieldLine.name ∧
        entry.value = fieldLine.value := by simpa using hsame
    cases entry
    cases fieldLine
    simp_all
  subst hentry
  rw [duplicateIfDraining]
  split
  · next hdue =>
    rw [hget]
    dsimp only
    cases hinsert : s.table.insert entry e.isEntryEvictable with
    | mk table outcome =>
      cases outcome with
      | none =>
        rw [insert_none hinsert (hwhole hdue)]
        exact h
      | some duplicated =>
        refine inStep_inserted h hinsert ?_
        rw [followInstruction, tryGetEntryByRelativeIndex_eq hlt, hget]
  · exact h

theorem follow_insertionInstruction (h : s.table.Counted) (fieldLine : QpackHeaderField) :
    s.table.followInstruction maximum (insertionInstruction s.table fieldLine) =
      s.table.inserting fieldLine := by
  rw [insertionInstruction]
  cases hstatic : findQpackStaticTableNameIndex fieldLine.name with
  | some index =>
    obtain ⟨entry, hentry, hname⟩ := name_of_findQpackStaticTableNameIndex hstatic
    rw [followInstruction, if_pos rfl, hentry]
    dsimp only
    rw [hname]
  | none =>
    cases hdynamic : s.table.findNameEntry fieldLine.name with
    | some absoluteIndex =>
      obtain ⟨hlt, entry, hget, hname⟩ := findNewest_some h hdynamic
      have hname : entry.name = fieldLine.name := by simpa using hname
      rw [followInstruction, if_neg (by decide), tryGetEntryByRelativeIndex_eq hlt, hget]
      dsimp only
      rw [hname]
    | none => rfl

theorem encodeLiteral_same (e : QpackEncoder) (baseValue : Nat) (may : Bool)
    (s : SectionInProgress) (fieldLine : QpackHeaderField) :
    (e.encodeLiteral baseValue may s fieldLine).table = s.table ∧
      (e.encodeLiteral baseValue may s fieldLine).instructions =
        s.instructions := by
  rw [encodeLiteral]
  split
  · exact ⟨rfl, rfl⟩
  split
  · exact ⟨rfl, rfl⟩
  split
  · exact ⟨rfl, rfl⟩
  · exact ⟨rfl, rfl⟩

theorem inStep_encodeLiteral (h : s.InStep maximum first) (baseValue : Nat)
    (may : Bool) (fieldLine : QpackHeaderField) :
    (e.encodeLiteral baseValue may s fieldLine).InStep maximum first := by
  obtain ⟨htable, hsent⟩ := encodeLiteral_same e baseValue may s fieldLine
  refine ⟨?_, ?_⟩
  · rw [htable]
    exact h.1
  · rw [htable, hsent]
    exact h.2

theorem inStep_insertAndReference (h : s.InStep maximum first) (baseValue : Nat) {may : Bool}
    (hwhole : e.tableCapacityByteCount ≠ 0 ∧ may →
      ¬ s.table.HalfEvicts e.isEntryEvictable (entrySizeByteCountOf fieldLine)) :
    (e.insertAndReference baseValue may s fieldLine).InStep maximum first := by
  rw [insertAndReference]
  split
  · next hinserts =>
    cases hinsert : s.table.insert fieldLine e.isEntryEvictable with
    | mk table outcome =>
      cases outcome with
      | none =>
        rw [insert_none hinsert (hwhole hinserts)]
        exact inStep_encodeLiteral h baseValue may fieldLine
      | some absoluteIndex =>
        exact inStep_inserted h hinsert (follow_insertionInstruction h.1 fieldLine)
  · exact inStep_encodeLiteral h baseValue may fieldLine

theorem inStep_encodeFieldLine (h : s.InStep maximum first) (baseValue : Nat)
    {may : Bool} (hwhole : e.LineUndivided may s fieldLine) :
    (e.encodeFieldLine baseValue may s fieldLine).InStep maximum first := by
  rw [encodeFieldLine]
  split
  · exact h
  rename_i hstatic
  have hwhole := hwhole hstatic
  cases hfound : s.table.findMatchingEntry fieldLine.name fieldLine.value with
  | none =>
    rw [hfound] at hwhole
    exact inStep_insertAndReference h baseValue hwhole
  | some found =>
    rw [hfound] at hwhole
    have hdone := inStep_duplicateIfDraining h hfound hwhole
    dsimp only
    split
    · exact hdone
    · exact inStep_encodeLiteral hdone baseValue may fieldLine

theorem inStep_encodeFieldLines (h : s.InStep maximum first)
    {baseValue : Nat} {may : Bool} {fieldLines : List QpackHeaderField}
    (hwhole : e.LinesUndivided baseValue may s fieldLines) :
    (fieldLines.foldl (e.encodeFieldLine baseValue may) s).InStep maximum
      first := by
  induction fieldLines generalizing s with
  | nil => exact h
  | cons fieldLine rest ih =>
    exact ih (inStep_encodeFieldLine h baseValue hwhole.1) hwhole.2

/-! ## A section always has its prefix -/

/-- The table of a section has this capacity, and something can only have
been referred to if an entry fits into it. -/
def SectionInProgress.Fits (capacityByteCount : Nat) (s : SectionInProgress) :
    Prop :=
  s.table.Sized ∧ s.table.capacityByteCount = capacityByteCount ∧
    (s.requiredInsertCount ≠ 0 → kQpackEntryOverheadByteCount ≤ capacityByteCount)

variable {capacityByteCount : Nat}

theorem fits_reference (h : s.Fits capacityByteCount)
    (hroom : kQpackEntryOverheadByteCount ≤ capacityByteCount)
    (absoluteIndex : Nat) (line : FieldLineRepresentation) :
    (reference s absoluteIndex line).Fits capacityByteCount := ⟨h.1, h.2.1, fun _ => hroom⟩

theorem fits_insert (h : s.Fits capacityByteCount) (entry : QpackHeaderField)
    (permitted : Nat → Bool) :
    SectionInProgress.Fits capacityByteCount
      { s with table := (s.table.insert entry permitted).1 } :=
  ⟨h.1.insert entry permitted, (insert_capacityByteCount _ _ _).trans h.2.1, h.2.2⟩

theorem fits_encodeLiteral (h : s.Fits capacityByteCount) (baseValue : Nat)
    (may : Bool) (fieldLine : QpackHeaderField) :
    (e.encodeLiteral baseValue may s fieldLine).Fits capacityByteCount := by
  rw [encodeLiteral]
  split
  · exact h
  split
  · exact h
  rename_i found
  split
  · exact fits_reference h (h.2.1 ▸ overhead_le_of_findNewest h.1 found) _ _
  · exact h

theorem fits_duplicateIfDraining (h : s.Fits capacityByteCount) (may : Bool) (found : Nat) :
    (e.duplicateIfDraining may s found).1.Fits capacityByteCount := by
  rw [duplicateIfDraining]
  split
  · split
    · exact h
    rename_i entry _
    have hfits := fits_insert h entry e.isEntryEvictable
    cases hinsert : s.table.insert entry e.isEntryEvictable with
    | mk table outcome =>
      rw [hinsert] at hfits
      cases outcome with
      | none => exact hfits
      | some duplicated => exact hfits
  · exact h

theorem fits_insertAndReference (h : s.Fits capacityByteCount)
    (baseValue : Nat) (may : Bool) (fieldLine : QpackHeaderField) :
    (e.insertAndReference baseValue may s fieldLine).Fits
      capacityByteCount := by
  rw [insertAndReference]
  split
  · have hfits := fits_insert h fieldLine e.isEntryEvictable
    cases hinsert : s.table.insert fieldLine e.isEntryEvictable with
    | mk table outcome =>
      rw [hinsert] at hfits
      cases outcome with
      | none => exact fits_encodeLiteral hfits baseValue may fieldLine
      | some absoluteIndex =>
        have hroom := overhead_le_of_insert (congrArg Prod.snd hinsert)
        rw [h.2.1] at hroom
        exact ⟨hfits.1, hfits.2.1, fun _ => hroom⟩
  · exact fits_encodeLiteral h baseValue may fieldLine

theorem fits_encodeFieldLine (h : s.Fits capacityByteCount) (baseValue : Nat)
    (may : Bool) (fieldLine : QpackHeaderField) :
    (e.encodeFieldLine baseValue may s fieldLine).Fits capacityByteCount := by
  rw [encodeFieldLine]
  split
  · exact h
  cases hfound : s.table.findMatchingEntry fieldLine.name fieldLine.value with
  | none => exact fits_insertAndReference h baseValue may fieldLine
  | some found =>
    have hroom := h.2.1 ▸ overhead_le_of_findNewest h.1 hfound
    have hdone := @fits_duplicateIfDraining e s capacityByteCount h may found
    dsimp only
    split
    · exact fits_reference hdone hroom _ _
    · exact fits_encodeLiteral hdone baseValue may fieldLine

theorem fits_encodeFieldLines (h : s.Fits capacityByteCount) (baseValue : Nat)
    (may : Bool) (fieldLines : List QpackHeaderField) :
    (fieldLines.foldl (e.encodeFieldLine baseValue may) s).Fits
      capacityByteCount := by
  induction fieldLines generalizing s with
  | nil => exact h
  | cons fieldLine rest ih =>
    exact ih (fits_encodeFieldLine h baseValue may fieldLine)

/-- The error that a reference without room for an entry would be cannot
happen. -/
theorem finishSection_ok (h : s.Fits capacityByteCount)
    (hmaximum : capacityByteCount ≤ e.peerMaximumTableCapacityByteCount)
    (baseValue : Nat) : ∃ block, e.finishSection baseValue s = .ok block := by
  rw [finishSection]
  by_cases hzero : s.requiredInsertCount = 0
  · rw [if_pos hzero]
    exact ⟨_, rfl⟩
  have hroom := h.2.2 hzero
  have hcount : maximumEntryCount e.peerMaximumTableCapacityByteCount ≠ 0 := by
    exact Nat.ne_of_gt (Nat.div_pos (le_trans hroom hmaximum) (by decide))
  rw [if_neg hzero]
  rw [if_neg hcount]
  split
  · exact ⟨_, rfl⟩
  · exact ⟨_, rfl⟩

/-! ## Runs -/

end QpackEncoder

/-- The calls made to an encoder. -/
inductive QpackEncoderEvent
  | encodeFieldSection (streamId : Nat) (fieldLines : List QpackHeaderField)
  | setMaximumTableCapacityByteCount (capacityByteCount : Nat)
  | decoderInstruction (instruction : DecoderInstruction)
  | noteStreamAbandoned (streamId : Nat)
  | noteStreamClosed (streamId : Nat)

/-- An encoder and all the instructions it has emitted. -/
structure QpackEncoderRun where
  encoder : QpackEncoder
  emitted : List EncoderInstruction

namespace QpackEncoderRun

open QpackDynamicTable QpackEncoder

def start (peerMaximumTableCapacityByteCount peerMaximumBlockedStreamCount
    localTableCapacityByteCount : Nat) : QpackEncoderRun :=
  ⟨.construct peerMaximumTableCapacityByteCount peerMaximumBlockedStreamCount
    localTableCapacityByteCount, []⟩

def step (r : QpackEncoderRun) : QpackEncoderEvent → QpackEncoderRun
  | .encodeFieldSection streamId fieldLines =>
    match r.encoder.encodeFieldSection streamId fieldLines with
    | (encoder, .ok (_, instructions)) =>
      ⟨encoder, r.emitted ++ instructions⟩
    | (encoder, .error _) => ⟨encoder, r.emitted⟩
  | .setMaximumTableCapacityByteCount capacityByteCount =>
    match r.encoder.setMaximumTableCapacityByteCount capacityByteCount with
    | .ok (encoder, instructions) => ⟨encoder, r.emitted ++ instructions⟩
    | .error _ => r
  | .decoderInstruction instruction =>
    match r.encoder.takeDecoderInstruction instruction with
    | .ok encoder => { r with encoder }
    | .error _ => r
  | .noteStreamAbandoned streamId =>
    { r with encoder := r.encoder.noteStreamAbandoned streamId }
  | .noteStreamClosed streamId =>
    { r with encoder := r.encoder.noteStreamClosed streamId }

/-- No insertion of the call is refused after it has evicted something. -/
def Undivided (r : QpackEncoderRun) : QpackEncoderEvent → Prop
  | .encodeFieldSection streamId fieldLines =>
    r.encoder.tableCapacityByteCount ≤ r.encoder.peerMaximumTableCapacityByteCount →
      r.encoder.LinesUndivided r.encoder.dynamicTable.insertCount
        (r.encoder.mayReferenceUnacknowledgedEntries streamId)
        r.encoder.startSection fieldLines
  | _ => True

/-- The encoder's table and the peer's, from whichever empty table the peer
starts. Until the capacity given to the constructor has been announced,
nothing has been sent and the table is as it was. -/
structure Agrees (maximum initial : Nat) (r : QpackEncoderRun) : Prop where
  peer : r.encoder.peerMaximumTableCapacityByteCount = maximum
  counted : r.encoder.dynamicTable.Counted
  sized : r.encoder.dynamicTable.Sized
  capacity : r.encoder.dynamicTable.capacityByteCount = r.encoder.tableCapacityByteCount
  pending : r.encoder.hasPendingCapacityInstruction = true →
    r.emitted = [] ∧ r.encoder.dynamicTable = .empty initial
  announced : r.encoder.hasPendingCapacityInstruction = false →
    (empty 0).followInstructions maximum r.emitted = some r.encoder.dynamicTable
  constructed : initial ≤ maximum → (empty initial).followInstructions maximum r.emitted =
      some r.encoder.dynamicTable

theorem agrees_start (maximum blocked initial : Nat) :
    (start maximum blocked initial).Agrees maximum initial := by
  refine ⟨rfl, le_refl 0, Nat.zero_le initial, rfl, fun _ => ⟨rfl, rfl⟩, ?_, fun _ => rfl⟩
  intro hpending
  have hzero : initial = 0 := by
    simpa [start, QpackEncoder.construct] using hpending
  subst hzero
  rfl

/-- Whatever leaves the table, the capacity and what has been sent alone. -/
theorem Agrees.same {maximum initial : Nat} {r r' : QpackEncoderRun} (h : r.Agrees maximum initial)
    (hpeer : r'.encoder.peerMaximumTableCapacityByteCount =
      r.encoder.peerMaximumTableCapacityByteCount)
    (htable : r'.encoder.dynamicTable = r.encoder.dynamicTable)
    (hcapacity : r'.encoder.tableCapacityByteCount = r.encoder.tableCapacityByteCount)
    (hpending : r'.encoder.hasPendingCapacityInstruction = r.encoder.hasPendingCapacityInstruction)
    (hemitted : r'.emitted = r.emitted) : r'.Agrees maximum initial := by
  refine ⟨?_, ?_, ?_, ?_, ?_, ?_, ?_⟩
  · rw [hpeer]
    exact h.peer
  · rw [htable]
    exact h.counted
  · rw [htable]
    exact h.sized
  · rw [htable, hcapacity]
    exact h.capacity
  · rw [hpending, hemitted, htable]
    exact h.pending
  · rw [hpending, hemitted, htable]
    exact h.announced
  · rw [hemitted, htable]
    exact h.constructed

/-! ### What the decoder stream leaves alone -/

end QpackEncoderRun

namespace QpackEncoder

/-- The table, its capacity and what is still to be announced are as they
were. -/
def SameTable (before after : QpackEncoder) : Prop := after.peerMaximumTableCapacityByteCount =
      before.peerMaximumTableCapacityByteCount ∧
    after.dynamicTable = before.dynamicTable ∧
    after.tableCapacityByteCount = before.tableCapacityByteCount ∧
    after.hasPendingCapacityInstruction = before.hasPendingCapacityInstruction

theorem SameTable.refl (e : QpackEncoder) : SameTable e e := ⟨rfl, rfl, rfl, rfl⟩

theorem SameTable.trans {e₁ e₂ e₃ : QpackEncoder} (h : SameTable e₁ e₂)
    (h' : SameTable e₂ e₃) : SameTable e₁ e₃ :=
  ⟨h'.1.trans h.1, h'.2.1.trans h.2.1, h'.2.2.1.trans h.2.2.1, h'.2.2.2.trans h.2.2.2⟩

theorem sameTable_foldl {α : Type} {f : QpackEncoder → α → QpackEncoder}
    (hf : ∀ e a, SameTable e (f e a)) (l : List α) (e : QpackEncoder) :
    SameTable e (l.foldl f e) :=
  Library.foldl_invariant (fun b a hb => hb.trans (hf b a)) l e (.refl e)

theorem sameTable_subtractBlockingSectionCount (e : QpackEncoder)
    (streamId : Nat) : SameTable e (e.subtractBlockingSectionCount streamId) := by
  rw [subtractBlockingSectionCount]
  split
  · exact .refl e
  split
  · exact ⟨rfl, rfl, rfl, rfl⟩
  · exact ⟨rfl, rfl, rfl, rfl⟩

theorem sameTable_cancelSection (streamId : Nat) (e : QpackEncoder)
    (pendingSection : PendingFieldSection) :
    SameTable e (cancelSection streamId e pendingSection) := by
  have hreleased : SameTable e (e.releasePendingSectionReferences
    pendingSection) := ⟨rfl, rfl, rfl, rfl⟩
  rw [cancelSection]
  split
  · exact hreleased.trans (sameTable_subtractBlockingSectionCount _ streamId)
  · exact hreleased

theorem sameTable_cancelStreamReferences (e : QpackEncoder) (streamId : Nat) :
    SameTable e (e.cancelStreamReferences streamId) := by
  rw [cancelStreamReferences]
  split
  · exact .refl e
  rename_i sections _
  exact (sameTable_foldl (sameTable_cancelSection streamId) sections e).trans ⟨rfl, rfl, rfl, rfl⟩

theorem sameTable_refreshSections (streamId : Nat)
    (sections : List PendingFieldSection) (e : QpackEncoder) :
    SameTable e (refreshSections streamId e sections).2 := by
  induction sections generalizing e with
  | nil => exact .refl e
  | cons pendingSection rest ih =>
    rw [refreshSections]
    split
    · exact (sameTable_subtractBlockingSectionCount e streamId).trans (ih _)
    · exact ih e

theorem sameTable_refreshStream (e : QpackEncoder) (streamId : Nat) :
    SameTable e (e.refreshStream streamId) := by
  rw [refreshStream]
  split
  · exact .refl e
  rename_i sections _
  exact (sameTable_refreshSections streamId sections e).trans ⟨rfl, rfl, rfl, rfl⟩

theorem sameTable_refreshBlockingState (e : QpackEncoder) : SameTable e e.refreshBlockingState :=
  sameTable_foldl sameTable_refreshStream _ e

theorem sameTable_takeDecoderInstruction {e e' : QpackEncoder} {instruction : DecoderInstruction}
    (h : e.takeDecoderInstruction instruction = .ok e') : SameTable e e' := by
  cases instruction with
  | sectionAcknowledgment streamId =>
    rw [takeDecoderInstruction] at h
    split at h
    · injection h with h
      subst h
      exact .refl e
    · injection h with h
      subst h
      exact .refl e
    rename_i acknowledged rest _
    injection h with h
    subst h
    exact (sameTable_cancelSection streamId e acknowledged).trans
      (SameTable.trans ⟨rfl, rfl, rfl, rfl⟩ (sameTable_refreshBlockingState _))
  | streamCancellation streamId =>
    injection h with h
    subst h
    exact sameTable_cancelStreamReferences e streamId
  | insertCountIncrement increment =>
    rw [takeDecoderInstruction] at h
    split at h
    · cases h
    split at h
    · cases h
    injection h with h
    subst h
    exact SameTable.trans ⟨rfl, rfl, rfl, rfl⟩ (sameTable_refreshBlockingState _)

end QpackEncoder

namespace QpackEncoderRun

open QpackDynamicTable QpackEncoder

variable {maximum initial : Nat} {r : QpackEncoderRun}

theorem Agrees.decoderInstruction (h : r.Agrees maximum initial)
    (instruction : DecoderInstruction) :
    (r.step (.decoderInstruction instruction)).Agrees maximum initial := by
  rw [step]
  split
  · next encoder htaken =>
    obtain ⟨hpeer, htable, hcapacity, hpending⟩ := sameTable_takeDecoderInstruction htaken
    exact h.same hpeer htable hcapacity hpending rfl
  · exact h

theorem Agrees.cancel (h : r.Agrees maximum initial) (streamId : Nat) : Agrees maximum initial
      { r with encoder := r.encoder.cancelStreamReferences streamId } := by
  obtain ⟨hpeer, htable, hcapacity, hpending⟩ := sameTable_cancelStreamReferences r.encoder streamId
  exact h.same hpeer htable hcapacity hpending rfl

/-! ### A section -/

theorem inStep_startSection {e : QpackEncoder} (hcounted : e.dynamicTable.Counted)
    {first : QpackDynamicTable}
    (hfirst : first.followInstructions maximum
      (if e.hasPendingCapacityInstruction then
        [.setDynamicTableCapacity e.tableCapacityByteCount] else []) =
        some e.dynamicTable) :
    e.startSection.InStep maximum first := ⟨hcounted, hfirst⟩

theorem fits_startSection {e : QpackEncoder} (hsized : e.dynamicTable.Sized)
    (hcapacity : e.dynamicTable.capacityByteCount = e.tableCapacityByteCount) :
    e.startSection.Fits e.tableCapacityByteCount :=
  ⟨hsized, hcapacity, fun hzero => absurd rfl hzero⟩

theorem follow_setCapacity_empty {before after : Nat} (h : after ≤ maximum) :
    (empty before).followInstructions maximum
      [.setDynamicTableCapacity after] = some (empty after) := by
  rw [followInstructions_one, followInstruction, if_neg (by omega)]
  rfl

theorem Agrees.encodeFieldSection (h : r.Agrees maximum initial)
    (streamId : Nat) (fieldLines : List QpackHeaderField)
    (hok : r.Undivided (.encodeFieldSection streamId fieldLines)) :
    (r.step (.encodeFieldSection streamId fieldLines)).Agrees maximum
      initial := by
  rw [step, QpackEncoder.encodeFieldSection]
  by_cases hover : r.encoder.tableCapacityByteCount > r.encoder.peerMaximumTableCapacityByteCount
  · rw [if_pos hover]
    exact h
  rw [if_neg hover]
  have hle : r.encoder.tableCapacityByteCount ≤ maximum := by
    have := h.peer
    omega
  have hok := hok (by omega)
  dsimp only
  have hfits := fits_encodeFieldLines (fits_startSection h.sized h.capacity) (e := r.encoder)
    r.encoder.dynamicTable.insertCount
    (r.encoder.mayReferenceUnacknowledgedEntries streamId) fieldLines
  obtain ⟨block, hblock⟩ := finishSection_ok hfits (e := r.encoder)
    (by omega) r.encoder.dynamicTable.insertCount
  have hstep : ∀ first : QpackDynamicTable,
      first.followInstructions maximum
        (if r.encoder.hasPendingCapacityInstruction then
          [.setDynamicTableCapacity r.encoder.tableCapacityByteCount]
          else []) = some r.encoder.dynamicTable →
      (r.encoder.encodeFieldLines streamId fieldLines).InStep maximum
        first := fun first hfirst =>
    inStep_encodeFieldLines (inStep_startSection h.counted hfirst) hok
  rw [QpackEncoder.encodeFieldLines, hblock]
  have hannounce : r.encoder.hasPendingCapacityInstruction →
      ∀ initial', (empty initial').followInstructions maximum
        (if r.encoder.hasPendingCapacityInstruction then
          [.setDynamicTableCapacity r.encoder.tableCapacityByteCount]
          else []) = some r.encoder.dynamicTable := by
    intro hpending initial'
    obtain ⟨_, htable⟩ := h.pending hpending
    have hcapacity := h.capacity
    rw [htable] at hcapacity
    rw [if_pos hpending, follow_setCapacity_empty hle, htable, ← hcapacity]
    rfl
  have hnothing : r.encoder.hasPendingCapacityInstruction = false →
      r.encoder.dynamicTable.followInstructions maximum
        (if r.encoder.hasPendingCapacityInstruction then
          [.setDynamicTableCapacity r.encoder.tableCapacityByteCount]
          else []) = some r.encoder.dynamicTable := by
    intro hpending
    rw [hpending]
    rfl
  -- the peer, told everything up to here, has the table the lines leave
  have hsent : ∀ initial', (r.encoder.hasPendingCapacityInstruction = false →
        (empty initial').followInstructions maximum r.emitted = some r.encoder.dynamicTable) →
      (r.encoder.encodeFieldLines streamId fieldLines).table.Counted ∧
      (empty initial').followInstructions maximum (r.emitted ++
        (r.encoder.encodeFieldLines streamId fieldLines).instructions) =
        some (r.encoder.encodeFieldLines streamId fieldLines).table := by
    intro initial' hnow
    cases hpending : r.encoder.hasPendingCapacityInstruction with
    | false =>
      rw [followInstructions_append (hnow hpending)]
      exact hstep _ (hnothing hpending)
    | true =>
      rw [(h.pending hpending).1, List.nil_append]
      exact hstep _ (hannounce hpending initial')
  exact ⟨h.peer, (hsent 0 h.announced).1, hfits.1, hfits.2.1,
    fun hpending => (nomatch hpending), fun _ => (hsent 0 h.announced).2,
    fun hinitial => (hsent initial fun _ => h.constructed hinitial).2⟩

/-! ### The capacity -/

theorem capacity_of_setCapacityByteCount_zero
    (hsized : t.Sized) (hzero : t.capacityByteCount = 0)
    (h : t.setCapacityByteCount 0 permitted = some t') : t' = t := by
  have hnil : t.entries = [] := by
    cases hentries : t.entries with
    | nil => rfl
    | cons newest rest =>
      have hsized : sizeByteCountOf t.entries ≤ t.capacityByteCount := hsized
      rw [hentries, sizeByteCountOf_cons, entrySizeByteCountOf,
        kQpackEntryOverheadByteCount] at hsized
      omega
  cases t with
  | mk entries capacityByteCount insertCount =>
    have hnil : entries = [] := hnil
    have hzero : capacityByteCount = 0 := hzero
    subst hnil
    subst hzero
    injection h with h
    exact h.symm

theorem follow_capacity_le
    (hle : t.capacityByteCount ≤ maximum) {instruction : EncoderInstruction}
    (h : t.followInstruction maximum instruction = some t') :
    t'.capacityByteCount ≤ maximum := by
  have hinserting : ∀ entry, t.inserting entry = some t' → t'.capacityByteCount ≤ maximum := by
    intro entry hinserted
    have hsame := insert_capacityByteCount t entry fun _ => true
    rw [inserting] at hinserted
    split at hinserted
    · next table _ hinsert =>
      injection hinserted with hinserted
      subst hinserted
      rw [hinsert] at hsame
      exact hsame ▸ hle
    · cases hinserted
  cases instruction with
  | setDynamicTableCapacity capacityByteCount =>
    rw [followInstruction] at h
    split at h
    · cases h
    rw [setCapacityByteCount] at h
    split at h
    · cases h
    injection h with h
    subst h
    show capacityByteCount ≤ maximum
    omega
  | insertWithNameReference isStatic nameIndex value =>
    rw [followInstruction] at h
    split at h
    · cases h
    · exact hinserting _ h
  | insertWithLiteralName name value => exact hinserting _ h
  | duplicate relativeIndex =>
    rw [followInstruction] at h
    split at h
    · cases h
    · exact hinserting _ h

theorem followInstructions_capacity_le (hle : t.capacityByteCount ≤ maximum)
    {instructions : List EncoderInstruction}
    (h : t.followInstructions maximum instructions = some t') :
    t'.capacityByteCount ≤ maximum := by
  induction instructions generalizing t with
  | nil =>
    injection h with h
    exact h ▸ hle
  | cons instruction rest ih =>
    rw [followInstructions, List.foldlM_cons] at h
    cases hfirst : t.followInstruction maximum instruction with
    | none =>
      rw [hfirst] at h
      cases h
    | some table =>
      rw [hfirst] at h
      exact ih (follow_capacity_le hle hfirst) h

theorem Agrees.setMaximumTableCapacity (h : r.Agrees maximum initial) (capacityByteCount : Nat) :
    (r.step (.setMaximumTableCapacityByteCount capacityByteCount)).Agrees maximum initial := by
  have hpeer := h.peer
  rw [step, QpackEncoder.setMaximumTableCapacityByteCount]
  by_cases hover : capacityByteCount > r.encoder.peerMaximumTableCapacityByteCount
  · rw [if_pos hover]
    exact h
  rw [if_neg hover]
  cases hset : r.encoder.dynamicTable.setCapacityByteCount
      capacityByteCount r.encoder.isEntryEvictable with
  | none => exact h
  | some table =>
    obtain ⟨hcounted, hcapacity⟩ := h.counted.setCapacityByteCount hset
    have hsized := sized_of_setCapacityByteCount hset
    dsimp only
    by_cases hsilent : capacityByteCount = 0 ∧ r.encoder.peerMaximumTableCapacityByteCount = 0
    · rw [if_pos hsilent]
      obtain ⟨hzero, hnever⟩ := hsilent
      subst hzero
      have hmaximum : maximum = 0 := by omega
      -- the peer allows nothing: its table is empty and stays so
      have hsent : (empty 0).followInstructions maximum r.emitted = some table := by
        cases hpending : r.encoder.hasPendingCapacityInstruction with
        | false =>
          have hagreed := h.announced hpending
          have hle := followInstructions_capacity_le (Nat.zero_le _) hagreed
          rw [hagreed, capacity_of_setCapacityByteCount_zero h.sized (by omega) hset]
        | true =>
          obtain ⟨hnone, htable⟩ := h.pending hpending
          rw [htable] at hset
          injection hset with hset
          rw [hnone, ← hset]
          rfl
      refine ⟨hpeer, hcounted, hsized, hcapacity,
        fun hpending => (nomatch hpending), fun _ => ?_, fun hinitial => ?_⟩
      · show (empty 0).followInstructions maximum (r.emitted ++ []) = some table
        rw [List.append_nil]
        exact hsent
      have hnone : initial = 0 := by omega
      show (empty initial).followInstructions maximum (r.emitted ++ []) = some table
      rw [List.append_nil, hnone]
      exact hsent
    · rw [if_neg hsilent]
      -- the peer makes the change with nobody to ask
      have hfollow : r.encoder.dynamicTable.followInstructions maximum
          [.setDynamicTableCapacity capacityByteCount] = some table := by
        rw [followInstructions_one, followInstruction, if_neg (by omega)]
        exact setCapacityByteCount_permissive hset
      refine ⟨hpeer, hcounted, hsized, hcapacity,
        fun hpending => (nomatch hpending), fun _ => ?_, fun hinitial => ?_⟩
      · show (empty 0).followInstructions maximum (r.emitted ++
          [.setDynamicTableCapacity capacityByteCount]) = some table
        cases hpending : r.encoder.hasPendingCapacityInstruction with
        | false =>
          rw [followInstructions_append (h.announced hpending)]
          exact hfollow
        | true =>
          obtain ⟨hnone, htable⟩ := h.pending hpending
          rw [htable] at hset
          injection hset with hset
          rw [hnone, List.nil_append, follow_setCapacity_empty (by omega), ← hset]
          rfl
      · show (empty initial).followInstructions maximum (r.emitted ++
          [.setDynamicTableCapacity capacityByteCount]) = some table
        rw [followInstructions_append (h.constructed hinitial)]
        exact hfollow

theorem Agrees.step (h : r.Agrees maximum initial) {event : QpackEncoderEvent}
    (hok : r.Undivided event) : (r.step event).Agrees maximum initial := by
  cases event with
  | encodeFieldSection streamId fieldLines =>
    exact h.encodeFieldSection streamId fieldLines hok
  | setMaximumTableCapacityByteCount capacityByteCount =>
    exact h.setMaximumTableCapacity capacityByteCount
  | decoderInstruction instruction => exact h.decoderInstruction instruction
  | noteStreamAbandoned streamId => exact h.cancel streamId
  | noteStreamClosed streamId => exact h.cancel streamId

/-- In a run in which no insertion is refused halfway, the encoder's table
is the one the peer gets from an empty table by following the instructions
emitted: the same entries in the same order, the same capacity and the same
insert count. The peer may start with the capacity the encoder was
constructed with, if that is within its own limit; if it starts with none,
the tables agree once that capacity has been announced, and until then
nothing has been emitted and nothing inserted. -/
theorem encoder_table_replayed {maximum blocked initial : Nat} {r : QpackEncoderRun}
    (h : Reach QpackEncoderRun.step Undivided (start maximum blocked initial) r) :
    (initial ≤ maximum → (empty initial).followInstructions maximum r.emitted =
        some r.encoder.dynamicTable) ∧
    (r.encoder.hasPendingCapacityInstruction = false →
      (empty 0).followInstructions maximum r.emitted = some r.encoder.dynamicTable) ∧
    (r.encoder.hasPendingCapacityInstruction = true →
      r.emitted = [] ∧ r.encoder.dynamicTable = empty initial) := by
  have hagrees : r.Agrees maximum initial :=
    Reach.invariant h (agrees_start maximum blocked initial) fun _ _ hr hok => hr.step hok
  exact ⟨hagrees.constructed, hagrees.announced, hagrees.pending⟩

/-- One insertion after the capacity has been set. -/
theorem encoder_table_replayed_once :
    let r := [QpackEncoderEvent.setMaximumTableCapacityByteCount 100,
      .encodeFieldSection 0 [⟨[97], [49]⟩]].foldl step (start 100 2 0);
    (empty 0).followInstructions 100 r.emitted = some r.encoder.dynamicTable ∧
      r.encoder.dynamicTable.entries = [⟨[97], [49]⟩] := by
  intro r
  have hfound : (((start 100 2 0).step
      (.setMaximumTableCapacityByteCount 100)).encoder.startSection.table
        ).findMatchingEntry [97] [49] = none := by decide +kernel
  have hundivided : Library.Permitted step Undivided (start 100 2 0)
      [.setMaximumTableCapacityByteCount 100, .encodeFieldSection 0 [⟨[97], [49]⟩]] := by
    refine ⟨trivial, ?_, trivial⟩
    intro _
    refine ⟨?_, trivial⟩
    intro _
    rw [hfound]
    intro _ ⟨_, _, hmore, _⟩
    exact Nat.not_lt_zero _ hmore
  exact ⟨(encoder_table_replayed (Reach.run .start _ hundivided)).2.1
    (by decide +kernel), by decide +kernel⟩

/-- Two entries fit and the older one is acknowledged; a third that needs
the room of both evicts the older and is refused at the younger. The
encoder's table has lost an entry that the peer still has. -/
theorem refused_insertion_loses_entry :
    let r := [QpackEncoderEvent.setMaximumTableCapacityByteCount 100,
      .encodeFieldSection 0 [⟨[97], [49]⟩],
      .encodeFieldSection 4 [⟨[98], [50]⟩],
      .decoderInstruction (.sectionAcknowledgment 0),
      .encodeFieldSection 8 [⟨[99], List.replicate 40 51⟩]].foldl step (start 100 2 0);
    r.encoder.dynamicTable = ⟨[⟨[98], [50]⟩], 100, 2⟩ ∧ (empty 0).followInstructions 100 r.emitted =
        some ⟨[⟨[98], [50]⟩, ⟨[97], [49]⟩], 100, 2⟩ := by
  decide +kernel

end QpackEncoderRun

end AsynGyanis.Http3
