import AsynGyanis.Http3.QpackTable

/-!
# The QPACK encoder

`encodeFieldSection` goes through the field lines once. A line that is in
the static table is referred to there; otherwise a matching entry of the
dynamic table is referred to, copied to the front first if it is about to
be evicted; otherwise the line is inserted and the new entry referred to;
otherwise it is written out, with its name referred to if possible. What
the peer's decoder has to do to its table goes out on the encoder stream:
those are the instructions here, before they are written as bytes. What
comes back on the decoder stream acknowledges sections, cancels streams and
reports insertions.

A header block is kept as the values of its prefix and the representations
of its lines.
-/

namespace AsynGyanis.Http3

open Quic (Bytes)
open Library (SortedMap)

/-- RFC 9204, 4.3. -/
inductive EncoderInstruction
  | setDynamicTableCapacity (capacityByteCount : Nat)
  | insertWithNameReference (isStatic : Bool) (nameIndex : Nat) (value : Bytes)
  | insertWithLiteralName (name value : Bytes)
  | duplicate (relativeIndex : Nat)
  deriving DecidableEq, Repr

/-- RFC 9204, 4.4. -/
inductive DecoderInstruction
  | sectionAcknowledgment (streamId : Nat)
  | streamCancellation (streamId : Nat)
  | insertCountIncrement (increment : Nat)
  deriving DecidableEq, Repr

/-- RFC 9204, 4.5.2 to 4.5.6. -/
inductive FieldLineRepresentation
  | indexedStatic (index : Nat)
  | indexed (relativeIndex : Nat)
  | indexedPostBase (index : Nat)
  | literalWithStaticName (index : Nat) (value : Bytes)
  | literalWithNameReference (relativeIndex : Nat) (value : Bytes)
  | literalWithPostBaseName (index : Nat) (value : Bytes)
  | literalWithLiteralName (name value : Bytes)
  deriving DecidableEq, Repr

/-- A header block: the encoded Required Insert Count, the sign bit, the
Delta Base and the lines. -/
structure FieldSection where
  encodedInsertCount : Nat
  isNegative : Bool
  deltaBase : Nat
  lines : List FieldLineRepresentation
  deriving DecidableEq, Repr

/-- A header block that has not been acknowledged. -/
structure PendingFieldSection where
  requiredInsertCount : Nat
  referencedAbsoluteIndices : List Nat
  risksBlocking : Bool
  deriving DecidableEq, Repr

structure QpackEncoder where
  peerMaximumTableCapacityByteCount : Nat
  peerMaximumBlockedStreamCount : Nat
  tableCapacityByteCount : Nat
  hasPendingCapacityInstruction : Bool
  dynamicTable : QpackDynamicTable
  entryReferenceCount : SortedMap Nat Nat
  pendingSectionsByStreamId : SortedMap Nat (List PendingFieldSection)
  blockingSectionCountByStreamId : SortedMap Nat Nat
  knownReceivedInsertCount : Nat
  drainingAbsoluteIndex : Nat

def kQpackDrainingFreeSpaceDivisor : Nat := 2

namespace QpackEncoder

def construct (peerMaximumTableCapacityByteCount peerMaximumBlockedStreamCount
    localTableCapacityByteCount : Nat) : QpackEncoder where
  peerMaximumTableCapacityByteCount
  peerMaximumBlockedStreamCount
  tableCapacityByteCount := localTableCapacityByteCount
  hasPendingCapacityInstruction := localTableCapacityByteCount ≠ 0
  dynamicTable := .empty localTableCapacityByteCount
  entryReferenceCount := .empty
  pendingSectionsByStreamId := .empty
  blockingSectionCountByStreamId := .empty
  knownReceivedInsertCount := 0
  drainingAbsoluteIndex := 0

variable (e : QpackEncoder) (streamId : Nat)

/-- RFC 9204, 2.2.2.2: acknowledged and not referred to. -/
def isEntryEvictable (absoluteIndex : Nat) : Bool := absoluteIndex < e.knownReceivedInsertCount &&
    ((e.entryReferenceCount.find? absoluteIndex).getD 0 == 0)

/-! ## References and blocked streams -/

def releaseReference (references : SortedMap Nat Nat) (absoluteIndex : Nat) : SortedMap Nat Nat :=
  match references.find? absoluteIndex with
  | none => references
  | some count =>
    if count ≤ 1 then references.erase absoluteIndex
    else references.insert absoluteIndex (count - 1)

def releasePendingSectionReferences (pendingSection : PendingFieldSection) : QpackEncoder :=
  { e with
    entryReferenceCount := pendingSection.referencedAbsoluteIndices.foldl releaseReference
        e.entryReferenceCount }

def subtractBlockingSectionCount :
    QpackEncoder :=
  match e.blockingSectionCountByStreamId.find? streamId with
  | none => e
  | some count =>
    if count ≤ 1 then
      { e with blockingSectionCountByStreamId := e.blockingSectionCountByStreamId.erase streamId }
    else
      { e with blockingSectionCountByStreamId :=
          e.blockingSectionCountByStreamId.insert streamId (count - 1) }

/-- One section of `cancelStreamReferences`. -/
def cancelSection (e : QpackEncoder) (pendingSection : PendingFieldSection) : QpackEncoder :=
  let released := e.releasePendingSectionReferences pendingSection
  if pendingSection.risksBlocking then
    released.subtractBlockingSectionCount streamId
  else released

def cancelStreamReferences : QpackEncoder :=
  match e.pendingSectionsByStreamId.find? streamId with
  | none => e
  | some sections =>
    let cancelled := sections.foldl (cancelSection streamId) e
    { cancelled with
      pendingSectionsByStreamId := cancelled.pendingSectionsByStreamId.erase streamId
      blockingSectionCountByStreamId := cancelled.blockingSectionCountByStreamId.erase streamId }

/-- The sections of one stream in `refreshBlockingState`. -/
def refreshSections (streamId : Nat) (e : QpackEncoder) :
    List PendingFieldSection → List PendingFieldSection × QpackEncoder
  | [] => ([], e)
  | pendingSection :: rest =>
    if pendingSection.risksBlocking ∧
        pendingSection.requiredInsertCount ≤ e.knownReceivedInsertCount then
      let (sections, refreshed) :=
        refreshSections streamId (e.subtractBlockingSectionCount streamId) rest
      ({ pendingSection with risksBlocking := false } :: sections, refreshed)
    else
      let (sections, refreshed) := refreshSections streamId e rest
      (pendingSection :: sections, refreshed)

def refreshStream : QpackEncoder :=
  match e.pendingSectionsByStreamId.find? streamId with
  | none => e
  | some sections =>
    let (refreshed, e) := refreshSections streamId e sections
    { e with pendingSectionsByStreamId := e.pendingSectionsByStreamId.insert streamId refreshed }

def refreshBlockingState : QpackEncoder := e.pendingSectionsByStreamId.keys.foldl refreshStream e

/-! ## Capacity -/

/-- The encoder afterwards and the instructions to send, or why not. -/
def setMaximumTableCapacityByteCount (capacityByteCount : Nat) :
    Except QpackErrorKind (QpackEncoder × List EncoderInstruction) :=
  if capacityByteCount > e.peerMaximumTableCapacityByteCount then
    .error .invalidLocalState
  else
    match e.dynamicTable.setCapacityByteCount capacityByteCount e.isEntryEvictable with
    | none => .error .invalidLocalState
    | some table =>
      let resized := { e with
        dynamicTable := table
        tableCapacityByteCount := capacityByteCount
        hasPendingCapacityInstruction := false }
      if capacityByteCount = 0 ∧ e.peerMaximumTableCapacityByteCount = 0 then
        .ok (resized, [])
      else .ok (resized, [.setDynamicTableCapacity capacityByteCount])

/-! ## Encoding -/

/-- What `encodeFieldSection` works on while it goes through the lines. -/
structure SectionInProgress where
  table : QpackDynamicTable
  drainingAbsoluteIndex : Nat
  instructions : List EncoderInstruction
  lines : List FieldLineRepresentation
  referencedAbsoluteIndices : List Nat
  requiredInsertCount : Nat
  deriving DecidableEq, Repr

/-- The loop of `refreshDrainingAbsoluteIndex`: entries from the newest on,
up to the bytes that may be referred to. -/
def projectDrainingIndex (insertCount referenceableByteCount : Nat) :
    List QpackHeaderField → Nat → Nat → Nat → Nat
  | [], _, _, projected => projected
  | candidate :: rest, entryIndex, accumulatedByteCount, _ =>
    if accumulatedByteCount + entrySizeByteCountOf candidate >
        referenceableByteCount then insertCount - entryIndex
    else
      projectDrainingIndex insertCount referenceableByteCount rest
        (entryIndex + 1) (accumulatedByteCount + entrySizeByteCountOf candidate)
        (insertCount - entryIndex - 1)

def refreshDrainingAbsoluteIndex (s : SectionInProgress) :
    SectionInProgress :=
  { s with
    drainingAbsoluteIndex := max s.drainingAbsoluteIndex
      (projectDrainingIndex s.table.insertCount
        (e.tableCapacityByteCount / kQpackDrainingFreeSpaceDivisor)
        s.table.entries 0 0 s.table.insertCount) }

/-- A new entry is in the table and the peer is told how to get it. -/
def inserted (s : SectionInProgress)
    (table : QpackDynamicTable) (instruction : EncoderInstruction) :
    SectionInProgress :=
  e.refreshDrainingAbsoluteIndex { s with table, instructions := s.instructions ++ [instruction] }

/-- RFC 9204, 2.1.1.1: whether an entry found is to be copied to the front
before it is referred to. -/
def isToBeDuplicated (s : SectionInProgress) (absoluteIndex : Nat)
    (mayReferenceUnacknowledgedEntries : Bool) : Prop :=
  absoluteIndex < s.drainingAbsoluteIndex ∧ absoluteIndex + 1 < s.table.insertCount ∧
    mayReferenceUnacknowledgedEntries = true

instance (s : SectionInProgress) (absoluteIndex : Nat) (may : Bool) :
    Decidable (isToBeDuplicated s absoluteIndex may) :=
  inferInstanceAs (Decidable (_ ∧ _ ∧ _))

def duplicateIfDraining (may : Bool) (s : SectionInProgress)
    (matchedAbsoluteIndex : Nat) : SectionInProgress × Nat :=
  if isToBeDuplicated s matchedAbsoluteIndex may then
    match s.table.tryGetEntryByAbsoluteIndex matchedAbsoluteIndex with
    | none => (s, matchedAbsoluteIndex)
    | some sourceEntry =>
      match s.table.insert sourceEntry e.isEntryEvictable with
      | (table, some duplicated) =>
        (e.inserted s table (.duplicate
          (s.table.insertCount - 1 - matchedAbsoluteIndex)), duplicated)
      | (table, none) => ({ s with table }, matchedAbsoluteIndex)
  else (s, matchedAbsoluteIndex)

def reference (s : SectionInProgress) (absoluteIndex : Nat)
    (line : FieldLineRepresentation) : SectionInProgress :=
  { s with
    lines := s.lines ++ [line]
    referencedAbsoluteIndices := s.referencedAbsoluteIndices ++ [absoluteIndex]
    requiredInsertCount := max s.requiredInsertCount (absoluteIndex + 1) }

/-- RFC 9204, 3.2.5 and 3.2.6: relative to the Base or behind it. -/
def referenceEntry (baseValue : Nat) (s : SectionInProgress)
    (absoluteIndex : Nat) : SectionInProgress :=
  reference s absoluteIndex <|
    if absoluteIndex < baseValue then .indexed (baseValue - 1 - absoluteIndex)
    else .indexedPostBase (absoluteIndex - baseValue)

/-- The instruction that tells the peer of an insertion, by the name the
line shares with the static table, with an older entry, or with nobody. -/
def insertionInstruction (table : QpackDynamicTable)
    (fieldLine : QpackHeaderField) : EncoderInstruction :=
  match findQpackStaticTableNameIndex fieldLine.name with
  | some index => .insertWithNameReference true index fieldLine.value
  | none =>
    match table.findNameEntry fieldLine.name with
    | some absoluteIndex =>
      .insertWithNameReference false (table.insertCount - 1 - absoluteIndex) fieldLine.value
    | none => .insertWithLiteralName fieldLine.name fieldLine.value

/-- Neither referred to nor inserted: written out. -/
def encodeLiteral (baseValue : Nat) (may : Bool)
    (s : SectionInProgress) (fieldLine : QpackHeaderField) :
    SectionInProgress :=
  match findQpackStaticTableNameIndex fieldLine.name with
  | some index =>
    { s with lines := s.lines ++ [.literalWithStaticName index fieldLine.value] }
  | none =>
    let literal : SectionInProgress := { s with
      lines := s.lines ++ [.literalWithLiteralName fieldLine.name fieldLine.value] }
    match s.table.findNameEntry fieldLine.name with
    | none => literal
    | some absoluteIndex =>
      if absoluteIndex < e.knownReceivedInsertCount ∨ may then
        reference s absoluteIndex <|
          if absoluteIndex < baseValue then
            .literalWithNameReference (baseValue - 1 - absoluteIndex) fieldLine.value
          else
            .literalWithPostBaseName (absoluteIndex - baseValue) fieldLine.value
      else literal

/-- A line that is not in the dynamic table. -/
def insertAndReference (baseValue : Nat) (may : Bool)
    (s : SectionInProgress) (fieldLine : QpackHeaderField) :
    SectionInProgress :=
  if e.tableCapacityByteCount ≠ 0 ∧ may then
    match s.table.insert fieldLine e.isEntryEvictable with
    | (table, some absoluteIndex) =>
      referenceEntry baseValue (e.inserted s table (insertionInstruction s.table fieldLine))
        absoluteIndex
    | (table, none) => e.encodeLiteral baseValue may { s with table } fieldLine
  else e.encodeLiteral baseValue may s fieldLine

def encodeFieldLine (baseValue : Nat) (may : Bool)
    (s : SectionInProgress) (fieldLine : QpackHeaderField) :
    SectionInProgress :=
  match findQpackStaticTableIndex fieldLine.name fieldLine.value with
  | some index => { s with lines := s.lines ++ [.indexedStatic index] }
  | none =>
    match s.table.findMatchingEntry fieldLine.name fieldLine.value with
    | none => e.insertAndReference baseValue may s fieldLine
    | some found =>
      let (s, absoluteIndex) := e.duplicateIfDraining may s found
      if absoluteIndex < e.knownReceivedInsertCount ∨ may then
        referenceEntry baseValue s absoluteIndex
      else e.encodeLiteral baseValue may s fieldLine

/-- RFC 9204, 2.1.2: a stream that risks blocking already takes no new
place. -/
def mayReferenceUnacknowledgedEntries :
    Bool :=
  e.blockingSectionCountByStreamId.size < e.peerMaximumBlockedStreamCount ||
    (e.blockingSectionCountByStreamId.find? streamId).isSome

/-- Where the lines start from; a capacity not announced yet goes first. -/
def startSection (e : QpackEncoder) : SectionInProgress where
  table := e.dynamicTable
  drainingAbsoluteIndex := e.drainingAbsoluteIndex
  instructions :=
    if e.hasPendingCapacityInstruction then
      [.setDynamicTableCapacity e.tableCapacityByteCount]
    else []
  lines := []
  referencedAbsoluteIndices := []
  requiredInsertCount := 0

/-- The lines of a section, one after the other. -/
def encodeFieldLines (fieldLines : List QpackHeaderField) : SectionInProgress :=
  fieldLines.foldl (e.encodeFieldLine e.dynamicTable.insertCount
    (e.mayReferenceUnacknowledgedEntries streamId)) e.startSection

/-- The prefix of RFC 9204, 4.5.1, in front of the lines. -/
def finishSection (baseValue : Nat) (s : SectionInProgress) : Except QpackErrorKind FieldSection :=
  if s.requiredInsertCount = 0 then .ok ⟨0, false, 0, s.lines⟩
  else
    let maximumEntryCount := QpackDynamicTable.maximumEntryCount e.peerMaximumTableCapacityByteCount
    if maximumEntryCount = 0 then .error .invalidLocalState
    else if baseValue ≥ s.requiredInsertCount then
      .ok ⟨s.requiredInsertCount % (2 * maximumEntryCount) + 1, false,
        baseValue - s.requiredInsertCount, s.lines⟩
    else
      .ok ⟨s.requiredInsertCount % (2 * maximumEntryCount) + 1, true,
        s.requiredInsertCount - baseValue - 1, s.lines⟩

def addReference (references : SortedMap Nat Nat) (absoluteIndex : Nat) : SortedMap Nat Nat :=
  references.insert absoluteIndex ((references.find? absoluteIndex).getD 0 + 1)

/-- The section is on its way: its references count, and it may block. -/
def registerSection (s : SectionInProgress) : QpackEncoder :=
  let risksBlocking := s.requiredInsertCount > e.knownReceivedInsertCount
  { e with
    entryReferenceCount := s.referencedAbsoluteIndices.foldl addReference e.entryReferenceCount
    pendingSectionsByStreamId :=
      if s.requiredInsertCount ≠ 0 then
        e.pendingSectionsByStreamId.insert streamId
          ((e.pendingSectionsByStreamId.find? streamId).getD [] ++
            [⟨s.requiredInsertCount, s.referencedAbsoluteIndices, risksBlocking⟩])
      else e.pendingSectionsByStreamId
    blockingSectionCountByStreamId :=
      if risksBlocking then
        e.blockingSectionCountByStreamId.insert streamId
          ((e.blockingSectionCountByStreamId.find? streamId).getD 0 + 1)
      else e.blockingSectionCountByStreamId }

/-- The encoder afterwards, and the header block with the instructions to
send ahead of it. -/
def encodeFieldSection (fieldLines : List QpackHeaderField) : QpackEncoder ×
      Except QpackErrorKind (FieldSection × List EncoderInstruction) :=
  if e.tableCapacityByteCount > e.peerMaximumTableCapacityByteCount then
    (e, .error .invalidLocalState)
  else
    let s := e.encodeFieldLines streamId fieldLines
    let encoded := { e with
      hasPendingCapacityInstruction := false
      dynamicTable := s.table
      drainingAbsoluteIndex := s.drainingAbsoluteIndex }
    match e.finishSection e.dynamicTable.insertCount s with
    | .error kind => (encoded, .error kind)
    | .ok block =>
      (encoded.registerSection streamId s, .ok (block, s.instructions))

/-! ## The decoder stream -/

/-- One instruction of `feedDecoderStream`. -/
def takeDecoderInstruction : DecoderInstruction → Except QpackErrorKind QpackEncoder
  | .sectionAcknowledgment streamId =>
    match e.pendingSectionsByStreamId.find? streamId with
    | none => .ok e
    | some [] => .ok e
    | some (acknowledged :: rest) =>
      let released := cancelSection streamId e acknowledged
      .ok { released with
        knownReceivedInsertCount :=
          max released.knownReceivedInsertCount acknowledged.requiredInsertCount
        pendingSectionsByStreamId :=
          if rest = [] then released.pendingSectionsByStreamId.erase streamId
          else released.pendingSectionsByStreamId.insert streamId rest
        }.refreshBlockingState
  | .streamCancellation streamId => .ok (e.cancelStreamReferences streamId)
  | .insertCountIncrement increment =>
    if increment = 0 then .error .decoderStreamError
    else if e.knownReceivedInsertCount > e.dynamicTable.insertCount ∨
        increment > e.dynamicTable.insertCount - e.knownReceivedInsertCount then
      .error .decoderStreamError
    else
      .ok { e with knownReceivedInsertCount :=
        e.knownReceivedInsertCount + increment }.refreshBlockingState

def noteStreamAbandoned : QpackEncoder := e.cancelStreamReferences streamId

def noteStreamClosed : QpackEncoder := e.cancelStreamReferences streamId

end QpackEncoder

end AsynGyanis.Http3
