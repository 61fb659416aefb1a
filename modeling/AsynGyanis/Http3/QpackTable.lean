import AsynGyanis.Http.HeaderRules
import AsynGyanis.Http3.State

/-!
# The tables of QPACK

The static table is fixed. The dynamic table is a queue of entries, the
newest first, that are evicted from the old end: to make room, the oldest
entries go one after another, each only if its absolute index may be
evicted. The encoder lets an entry go when the peer has acknowledged it and
nothing in flight refers to it; the decoder lets every entry go, since the
peer decides. Absolute indices count insertions and never change.

The size of a table is kept by the source in a field of its own; here it is
the sum of the sizes of the entries.
-/

namespace AsynGyanis.Http3

open Quic (Bytes)
open Http (asciiText)

/-! ## The static table -/

def staticEntry (name value : String) : QpackHeaderField := ⟨asciiText name, asciiText value⟩

def kQpackStaticTable : List QpackHeaderField := [ staticEntry ":authority" "",
  staticEntry ":path" "/",
  staticEntry "age" "0",
  staticEntry "content-disposition" "",
  staticEntry "content-length" "0",
  staticEntry "cookie" "",
  staticEntry "date" "",
  staticEntry "etag" "",
  staticEntry "if-modified-since" "",
  staticEntry "if-none-match" "",
  staticEntry "last-modified" "",
  staticEntry "link" "",
  staticEntry "location" "",
  staticEntry "referer" "",
  staticEntry "set-cookie" "",
  staticEntry ":method" "CONNECT",
  staticEntry ":method" "DELETE",
  staticEntry ":method" "GET",
  staticEntry ":method" "HEAD",
  staticEntry ":method" "OPTIONS",
  staticEntry ":method" "POST",
  staticEntry ":method" "PUT",
  staticEntry ":scheme" "http",
  staticEntry ":scheme" "https",
  staticEntry ":status" "103",
  staticEntry ":status" "200",
  staticEntry ":status" "304",
  staticEntry ":status" "404",
  staticEntry ":status" "503",
  staticEntry "accept" "*/*",
  staticEntry "accept" "application/dns-message",
  staticEntry "accept-encoding" "gzip, deflate, br",
  staticEntry "accept-ranges" "bytes",
  staticEntry "access-control-allow-headers" "cache-control",
  staticEntry "access-control-allow-headers" "content-type",
  staticEntry "access-control-allow-origin" "*",
  staticEntry "cache-control" "max-age=0",
  staticEntry "cache-control" "max-age=2592000",
  staticEntry "cache-control" "max-age=604800",
  staticEntry "cache-control" "no-cache",
  staticEntry "cache-control" "no-store",
  staticEntry "cache-control" "public, max-age=31536000",
  staticEntry "content-encoding" "br",
  staticEntry "content-encoding" "gzip",
  staticEntry "content-type" "application/dns-message",
  staticEntry "content-type" "application/javascript",
  staticEntry "content-type" "application/json",
  staticEntry "content-type" "application/x-www-form-urlencoded",
  staticEntry "content-type" "image/gif",
  staticEntry "content-type" "image/jpeg",
  staticEntry "content-type" "image/png",
  staticEntry "content-type" "text/css",
  staticEntry "content-type" "text/html; charset=utf-8",
  staticEntry "content-type" "text/plain",
  staticEntry "content-type" "text/plain;charset=utf-8",
  staticEntry "range" "bytes=0-",
  staticEntry "strict-transport-security" "max-age=31536000",
  staticEntry "strict-transport-security" "max-age=31536000; includesubdomains",
  staticEntry "strict-transport-security" "max-age=31536000; includesubdomains; preload",
  staticEntry "vary" "accept-encoding",
  staticEntry "vary" "origin",
  staticEntry "x-content-type-options" "nosniff",
  staticEntry "x-xss-protection" "1; mode=block",
  staticEntry ":status" "100",
  staticEntry ":status" "204",
  staticEntry ":status" "206",
  staticEntry ":status" "302",
  staticEntry ":status" "400",
  staticEntry ":status" "403",
  staticEntry ":status" "421",
  staticEntry ":status" "425",
  staticEntry ":status" "500",
  staticEntry "accept-language" "",
  staticEntry "access-control-allow-credentials" "FALSE",
  staticEntry "access-control-allow-credentials" "TRUE",
  staticEntry "access-control-allow-headers" "*",
  staticEntry "access-control-allow-methods" "get",
  staticEntry "access-control-allow-methods" "get, post, options",
  staticEntry "access-control-allow-methods" "options",
  staticEntry "access-control-expose-headers" "content-length",
  staticEntry "access-control-request-headers" "content-type",
  staticEntry "access-control-request-method" "get",
  staticEntry "access-control-request-method" "post",
  staticEntry "alt-svc" "clear",
  staticEntry "authorization" "",
  staticEntry "content-security-policy" "script-src 'none'; object-src 'none'; base-uri 'none'",
  staticEntry "early-data" "1",
  staticEntry "expect-ct" "",
  staticEntry "forwarded" "",
  staticEntry "if-range" "",
  staticEntry "origin" "",
  staticEntry "purpose" "prefetch",
  staticEntry "server" "",
  staticEntry "timing-allow-origin" "*",
  staticEntry "upgrade-insecure-requests" "1",
  staticEntry "user-agent" "",
  staticEntry "x-forwarded-for" "",
  staticEntry "x-frame-options" "deny",
  staticEntry "x-frame-options" "sameorigin"]

/-- The first entry with this name and this value. -/
def findQpackStaticTableIndex (name value : Bytes) : Option Nat :=
  kQpackStaticTable.findIdx? fun entry => entry.name = name ∧ entry.value = value

def findQpackStaticTableNameIndex (name : Bytes) : Option Nat :=
  kQpackStaticTable.findIdx? fun entry => entry.name = name

theorem name_of_findQpackStaticTableNameIndex {name : Bytes} {index : Nat}
    (h : findQpackStaticTableNameIndex name = some index) :
    ∃ entry, kQpackStaticTable[index]? = some entry ∧ entry.name = name := by
  rw [findQpackStaticTableNameIndex, List.findIdx?_eq_some_iff_getElem] at h
  obtain ⟨hlt, hname, _⟩ := h
  exact ⟨kQpackStaticTable[index], List.getElem?_eq_getElem hlt,
    by simpa using hname⟩

/-! ## The dynamic table -/

/-- Entries, newest first; how many bytes they may take; and how many have
ever been inserted. -/
structure QpackDynamicTable where
  entries : List QpackHeaderField
  capacityByteCount : Nat
  insertCount : Nat
  deriving DecidableEq, Repr

def sizeByteCountOf (entries : List QpackHeaderField) : Nat :=
  (entries.map entrySizeByteCountOf).sum

namespace QpackDynamicTable

variable {t : QpackDynamicTable} {field : QpackHeaderField}
  {permitted : Nat → Bool}

def empty (capacityByteCount : Nat) : QpackDynamicTable := ⟨[], capacityByteCount, 0⟩

def sizeByteCount (t : QpackDynamicTable) : Nat := sizeByteCountOf t.entries

/-- The walk from the old end: of the newest entries, how many are left when
they take no more than the room, and whether it got that far. -/
def entriesKept (t : QpackDynamicTable) (evictionPermitted : Nat → Bool)
    (room : Nat) : Nat → Nat × Bool
  | 0 => (0, true)
  | remaining + 1 =>
    if sizeByteCountOf (t.entries.take (remaining + 1)) ≤ room then
      (remaining + 1, true)
    else if evictionPermitted (t.insertCount - (remaining + 1)) then
      t.entriesKept evictionPermitted room remaining
    else (remaining + 1, false)

def keepNewest (t : QpackDynamicTable) (count : Nat) : QpackDynamicTable :=
  { t with entries := t.entries.take count }

/-- Nothing is evicted unless everything that has to go may go. -/
def setCapacityByteCount (t : QpackDynamicTable) (capacityByteCount : Nat)
    (evictionPermitted : Nat → Bool) : Option QpackDynamicTable :=
  match t.entriesKept evictionPermitted capacityByteCount t.entries.length with
  | (_, false) => none
  | (kept, true) => some { t.keepNewest kept with capacityByteCount }

/-- The table afterwards and the absolute index of the new entry. Entries
are evicted on the way, and an entry that may not go ends the attempt with
the older ones already gone. -/
def insert (t : QpackDynamicTable) (field : QpackHeaderField)
    (evictionPermitted : Nat → Bool) : QpackDynamicTable × Option Nat :=
  if entrySizeByteCountOf field > t.capacityByteCount then (t, none)
  else
    match t.entriesKept evictionPermitted (t.capacityByteCount - entrySizeByteCountOf field)
        t.entries.length with
    | (kept, false) => (t.keepNewest kept, none)
    | (kept, true) =>
      ({ t with entries := field :: t.entries.take kept,
                insertCount := t.insertCount + 1 }, some t.insertCount)

def tryGetEntryByAbsoluteIndex (t : QpackDynamicTable) (absoluteIndex : Nat) :
    Option QpackHeaderField :=
  let oldestAbsoluteIndex := t.insertCount - t.entries.length
  if absoluteIndex < oldestAbsoluteIndex ∨ absoluteIndex ≥ t.insertCount then
    none
  else
    t.entries[t.entries.length - 1 - (absoluteIndex - oldestAbsoluteIndex)]?

def tryGetEntryByRelativeIndexFromInsertionPoint (t : QpackDynamicTable)
    (relativeIndex : Nat) : Option QpackHeaderField :=
  if t.insertCount = 0 ∨ relativeIndex ≥ t.insertCount then none
  else t.tryGetEntryByAbsoluteIndex (t.insertCount - 1 - relativeIndex)

/-- The newest entry that fits the description, by its absolute index. -/
def findNewest (t : QpackDynamicTable) (description : QpackHeaderField → Bool) : Option Nat :=
  (t.entries.findIdx? description).map fun entryIndex =>
    t.insertCount - 1 - entryIndex

def findMatchingEntry (t : QpackDynamicTable) (name value : Bytes) : Option Nat :=
  t.findNewest fun entry => entry.name = name ∧ entry.value = value

def findNameEntry (t : QpackDynamicTable) (name : Bytes) : Option Nat :=
  t.findNewest fun entry => entry.name = name

def maximumEntryCount (maximumTableCapacityByteCount : Nat) : Nat :=
  maximumTableCapacityByteCount / kQpackEntryOverheadByteCount

/-! ## The walk and what it leaves -/

theorem sizeByteCountOf_cons (field : QpackHeaderField) (entries : List QpackHeaderField) :
    sizeByteCountOf (field :: entries) = entrySizeByteCountOf field + sizeByteCountOf entries :=
  List.sum_cons

theorem entriesKept_fits {room count : Nat} (h : (t.entriesKept permitted room count).2) :
    sizeByteCountOf (t.entries.take (t.entriesKept permitted room count).1) ≤
      room := by
  induction count with
  | zero => exact Nat.zero_le room
  | succ remaining ih =>
    rw [entriesKept] at h ⊢
    split
    · next hfits => exact hfits
    rename_i hfits
    rw [if_neg hfits] at h
    split
    · next hpermitted =>
      rw [if_pos hpermitted] at h
      exact ih h
    rename_i hpermitted
    rw [if_neg hpermitted] at h
    cases h

/-- Where everything may be evicted, the walk ends where a successful walk
with any other permission ends. -/
theorem entriesKept_permissive {room count : Nat} (h : (t.entriesKept permitted room count).2) :
    t.entriesKept (fun _ => true) room count = t.entriesKept permitted room count := by
  induction count with
  | zero => rfl
  | succ remaining ih =>
    rw [entriesKept] at h ⊢
    rw [entriesKept]
    by_cases hfits : sizeByteCountOf (t.entries.take (remaining + 1)) ≤ room
    · rw [if_pos hfits, if_pos hfits]
    rw [if_neg hfits] at h
    rw [if_neg hfits, if_neg hfits, if_pos rfl]
    split
    · next hpermitted =>
      rw [if_pos hpermitted] at h
      exact ih h
    rename_i hpermitted
    rw [if_neg hpermitted] at h
    cases h

/-- A walk fails at an entry that may not go although it has to, with every
older one permitted to go. -/
theorem entriesKept_refused {room count : Nat}
    (h : (t.entriesKept permitted room count).2 = false) :
    ∃ remaining, remaining < count ∧ (t.entriesKept permitted room count).1 = remaining + 1 ∧
      room < sizeByteCountOf (t.entries.take (remaining + 1)) ∧
      permitted (t.insertCount - (remaining + 1)) = false ∧
      ∀ older, remaining + 1 < older → older ≤ count → permitted (t.insertCount - older) := by
  induction count with
  | zero => exact nomatch h
  | succ count ih =>
    rw [entriesKept] at h ⊢
    by_cases hfits : sizeByteCountOf (t.entries.take (count + 1)) ≤ room
    · rw [if_pos hfits] at h
      cases h
    rw [if_neg hfits] at h ⊢
    by_cases hpermitted : permitted (t.insertCount - (count + 1))
    · rw [if_pos hpermitted] at h ⊢
      obtain ⟨remaining, hlt, hkept, hover, hstays, holder⟩ := ih h
      refine ⟨remaining, by omega, hkept, hover, hstays, ?_⟩
      intro older hyounger hle
      by_cases hlast : older = count + 1
      · rw [hlast]
        exact hpermitted
      · exact holder older hyounger (by omega)
    · rw [if_neg hpermitted]
      refine ⟨count, by omega, rfl, by omega, by simpa using hpermitted, ?_⟩
      intro older hyounger hle
      omega

/-! ## Insertion -/

/-- To make room for an entry of this size some of the oldest entries can
go, but one behind them has to go as well and may not. -/
def HalfEvicts (t : QpackDynamicTable) (evictionPermitted : Nat → Bool)
    (entrySizeByteCount : Nat) : Prop :=
  entrySizeByteCount ≤ t.capacityByteCount ∧
    ∃ remaining, remaining + 1 < t.entries.length ∧ t.capacityByteCount <
        sizeByteCountOf (t.entries.take (remaining + 1)) + entrySizeByteCount ∧
      evictionPermitted (t.insertCount - (remaining + 1)) = false ∧
      ∀ older, remaining + 1 < older → older ≤ t.entries.length →
        evictionPermitted (t.insertCount - older) = true

theorem keepNewest_length (t : QpackDynamicTable) : t.keepNewest t.entries.length = t := by
  rw [keepNewest, List.take_length]

theorem sizeByteCountOf_take_mono (entries : List QpackHeaderField)
    {fewer more : Nat} (h : fewer ≤ more) :
    sizeByteCountOf (entries.take fewer) ≤ sizeByteCountOf (entries.take more) := by
  induction entries generalizing fewer more with
  | nil => simp
  | cons field rest ih =>
    cases fewer with
    | zero => exact Nat.zero_le _
    | succ fewer =>
      cases more with
      | zero => omega
      | succ more =>
        rw [List.take_succ_cons, List.take_succ_cons, sizeByteCountOf_cons, sizeByteCountOf_cons]
        have := @ih fewer more (by omega)
        omega

theorem entriesKept_stuck {room remaining : Nat}
    (hover : room < sizeByteCountOf (t.entries.take (remaining + 1)))
    (hstays : permitted (t.insertCount - (remaining + 1)) = false) {count : Nat}
    (hlt : remaining < count)
    (holder : ∀ older, remaining + 1 < older → older ≤ count → permitted (t.insertCount - older)) :
    t.entriesKept permitted room count = (remaining + 1, false) := by
  induction count with
  | zero => omega
  | succ count ih =>
    have hmono := @sizeByteCountOf_take_mono t.entries (remaining + 1) (count + 1) (by omega)
    rw [entriesKept, if_neg (by omega)]
    by_cases hlast : remaining = count
    · subst hlast
      rw [if_neg (by simp [hstays])]
    rw [if_pos (holder (count + 1) (by omega) (le_refl _))]
    exact ih (by omega) fun older hyounger hle =>
      holder older hyounger (by omega)

/-- An attempt that is refused leaves the table alone, unless it is refused
halfway. -/
theorem refusal_unchanged_iff (t : QpackDynamicTable) (field : QpackHeaderField)
    (permitted : Nat → Bool) :
    ((t.insert field permitted).2 = none → (t.insert field permitted).1 = t) ↔
      ¬ t.HalfEvicts permitted (entrySizeByteCountOf field) := by
  constructor
  · intro h ⟨hfits, remaining, hmore, hover, hstays, holder⟩
    have hstuck := @entriesKept_stuck t permitted
      (t.capacityByteCount - entrySizeByteCountOf field) remaining (by omega)
      hstays t.entries.length (by omega) holder
    rw [insert, if_neg (by omega), hstuck] at h
    have hlength := congrArg (fun table => table.entries.length) (h rfl)
    have hlength : (t.entries.take (remaining + 1)).length =
        t.entries.length := hlength
    rw [List.length_take] at hlength
    omega
  intro h
  rw [insert]
  split
  · exact fun _ => rfl
  split
  · next kept hwalk =>
    intro _
    have hrefused := entriesKept_refused (congrArg Prod.snd hwalk)
    obtain ⟨remaining, hlt, hkept, hover, hstays, holder⟩ := hrefused
    rw [hwalk] at hkept
    have hkept : kept = remaining + 1 := hkept
    by_cases hwhole : remaining + 1 = t.entries.length
    · show t.keepNewest kept = t
      rw [hkept, hwhole, keepNewest_length]
    · exact absurd ⟨by omega, remaining, by omega, by omega, hstays, holder⟩ h
  · exact nofun

/-- Who evicts without asking anybody inserts as well, with the same
outcome. -/
theorem insert_permissive {index : Nat} (h : (t.insert field permitted).2 = some index) :
    t.insert field (fun _ => true) = t.insert field permitted := by
  rw [insert] at h ⊢
  rw [insert]
  split
  · rfl
  rename_i hfits
  rw [if_neg hfits] at h
  cases hwalk : t.entriesKept permitted (t.capacityByteCount - entrySizeByteCountOf field)
      t.entries.length with
  | mk kept reached =>
    rw [hwalk] at h
    cases reached with
    | false => exact nomatch h
    | true =>
      rw [entriesKept_permissive (congrArg Prod.snd hwalk), hwalk]

variable {permitted : Nat → Bool} {capacityByteCount : Nat}
variable {t t' : QpackDynamicTable}

theorem setCapacityByteCount_permissive
    (h : t.setCapacityByteCount capacityByteCount permitted = some t') :
    t.setCapacityByteCount capacityByteCount (fun _ => true) = some t' := by
  rw [setCapacityByteCount] at h ⊢
  cases hwalk : t.entriesKept permitted capacityByteCount t.entries.length with
  | mk kept reached =>
    rw [hwalk] at h
    cases reached with
    | false => exact nomatch h
    | true =>
      rw [entriesKept_permissive (congrArg Prod.snd hwalk), hwalk]
      exact h

/-! ## Indices -/

/-- No more entries than have been inserted. -/
def Counted (t : QpackDynamicTable) : Prop := t.entries.length ≤ t.insertCount

theorem Counted.keepNewest (h : t.Counted) (count : Nat) : (t.keepNewest count).Counted := by
  show (t.entries.take count).length ≤ t.insertCount
  rw [List.length_take]
  have : t.entries.length ≤ t.insertCount := h
  omega

theorem Counted.insert (h : t.Counted) (field : QpackHeaderField)
    (permitted : Nat → Bool) : (t.insert field permitted).1.Counted := by
  rw [QpackDynamicTable.insert]
  split
  · exact h
  split
  · exact h.keepNewest _
  rename_i kept _
  have hkept : (t.entries.take kept).length ≤ t.insertCount := h.keepNewest kept
  exact Nat.succ_le_succ hkept

theorem Counted.setCapacityByteCount (h : t.Counted)
    (hset : t.setCapacityByteCount capacityByteCount permitted = some t') :
    t'.Counted ∧ t'.capacityByteCount = capacityByteCount := by
  rw [QpackDynamicTable.setCapacityByteCount] at hset
  split at hset
  · cases hset
  injection hset with hset
  subst hset
  exact ⟨h.keepNewest _, rfl⟩

theorem insert_capacityByteCount (t : QpackDynamicTable)
    (field : QpackHeaderField) (permitted : Nat → Bool) :
    (t.insert field permitted).1.capacityByteCount = t.capacityByteCount := by
  rw [insert]
  split
  · rfl
  · split <;> rfl

variable {absoluteIndex : Nat}

theorem findNewest_some (hc : t.Counted) {description : QpackHeaderField → Bool}
    (h : t.findNewest description = some absoluteIndex) :
    absoluteIndex < t.insertCount ∧
      ∃ entry, t.tryGetEntryByAbsoluteIndex absoluteIndex = some entry ∧ description entry := by
  rw [findNewest, Option.map_eq_some_iff] at h
  obtain ⟨entryIndex, hfound, rfl⟩ := h
  rw [List.findIdx?_eq_some_iff_getElem] at hfound
  obtain ⟨hlt, hdescribed, _⟩ := hfound
  have hc : t.entries.length ≤ t.insertCount := hc
  refine ⟨by omega, t.entries[entryIndex], ?_, hdescribed⟩
  rw [tryGetEntryByAbsoluteIndex, if_neg (by omega)]
  have hindex : t.entries.length - 1 -
      (t.insertCount - 1 - entryIndex - (t.insertCount - t.entries.length)) =
        entryIndex := by omega
  rw [hindex, List.getElem?_eq_getElem hlt]

theorem tryGetEntryByRelativeIndex_eq (h : absoluteIndex < t.insertCount) :
    t.tryGetEntryByRelativeIndexFromInsertionPoint (t.insertCount - 1 - absoluteIndex) =
      t.tryGetEntryByAbsoluteIndex absoluteIndex := by
  rw [tryGetEntryByRelativeIndexFromInsertionPoint, if_neg (by omega)]
  have hindex : t.insertCount - 1 - (t.insertCount - 1 - absoluteIndex) =
      absoluteIndex := by omega
  rw [hindex]

/-! ## Sizes -/

/-- The entries fit. -/
def Sized (t : QpackDynamicTable) : Prop := t.sizeByteCount ≤ t.capacityByteCount

theorem Sized.keepNewest (h : t.Sized) (count : Nat) : (t.keepNewest count).Sized := by
  have hmono : sizeByteCountOf (t.entries.take count) ≤ sizeByteCountOf t.entries := by
    rcases le_total count t.entries.length with hle | hle
    · have := sizeByteCountOf_take_mono t.entries hle
      rw [List.take_length] at this
      exact this
    · rw [List.take_of_length_le hle]
  exact le_trans hmono h

theorem Sized.insert (h : t.Sized) (field : QpackHeaderField)
    (permitted : Nat → Bool) : (t.insert field permitted).1.Sized := by
  rw [QpackDynamicTable.insert]
  split
  · exact h
  split
  · exact h.keepNewest _
  rename_i hfits kept hwalk
  have hroom := entriesKept_fits (congrArg Prod.snd hwalk)
  rw [hwalk] at hroom
  show sizeByteCountOf (field :: t.entries.take kept) ≤ t.capacityByteCount
  rw [sizeByteCountOf_cons]
  dsimp only at hroom
  omega

theorem sized_of_setCapacityByteCount
    (h : t.setCapacityByteCount capacityByteCount permitted = some t') : t'.Sized := by
  rw [setCapacityByteCount] at h
  split at h
  · cases h
  rename_i kept hwalk
  injection h with h
  subst h
  have hroom := entriesKept_fits (congrArg Prod.snd hwalk)
  rw [hwalk] at hroom
  exact hroom

theorem overhead_le_of_findNewest (h : t.Sized) {description : QpackHeaderField → Bool}
    (hfound : t.findNewest description = some absoluteIndex) :
    kQpackEntryOverheadByteCount ≤ t.capacityByteCount := by
  have h : sizeByteCountOf t.entries ≤ t.capacityByteCount := h
  cases hentries : t.entries with
  | nil =>
    rw [findNewest, hentries] at hfound
    cases hfound
  | cons newest rest =>
    rw [hentries, sizeByteCountOf_cons, entrySizeByteCountOf] at h
    omega

theorem overhead_le_of_insert {index : Nat} (h : (t.insert field permitted).2 = some index) :
    kQpackEntryOverheadByteCount ≤ t.capacityByteCount := by
  rw [insert] at h
  split at h
  · cases h
  rename_i hfits
  rw [entrySizeByteCountOf] at hfits
  omega

end QpackDynamicTable

end AsynGyanis.Http3
