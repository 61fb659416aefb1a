import Mathlib

/-!
# Ordered maps

`std::map` as a strictly sorted association list. The order is a field of
the structure, so no map with a repeated or misplaced key can be built,
and every traversal below visits the keys in ascending order, which is
what the programs that walk such a map rely on.

Two views of a map are kept in step. Lookups (`find?`) describe what one
update does to one key and leave the others alone. Permutations of the
entry list (`entries_insert_perm`, `entries_erase_perm`) describe what it
does to the whole table, and any fold that ignores the order, the sums of
`sumBy` above all, is moved across an update by them.
-/

namespace AsynGyanis.Library

open List

/-- A finite map with its keys in strictly ascending order. -/
structure SortedMap (K V : Type) [LinearOrder K] where
  entries : List (K × V)
  sorted : entries.Pairwise (fun a b => a.1 < b.1)

namespace SortedMap

variable {K V : Type} [LinearOrder K]

/-! ## Operations -/

variable (before after : SortedMap K V) {m : SortedMap K V} {k : K} {old : V}
  {v : V} (f : V → Nat) {l : List (K × V)}

def empty : SortedMap K V := ⟨[], List.Pairwise.nil⟩

instance : Inhabited (SortedMap K V) := ⟨empty⟩

def lookupEntry (k : K) : List (K × V) → Option V
  | [] => none
  | e :: rest => if e.1 = k then some e.2 else lookupEntry k rest

def insertEntry (k : K) (v : V) : List (K × V) → List (K × V)
  | [] => [(k, v)]
  | e :: rest =>
    if k < e.1 then (k, v) :: e :: rest
    else if k = e.1 then (k, v) :: rest
    else e :: insertEntry k v rest

theorem mem_insertEntry {e : K × V} (h : e ∈ insertEntry k v l) : e = (k, v) ∨ e ∈ l := by
  induction l with
  | nil =>
    simp only [insertEntry, mem_singleton] at h
    exact .inl h
  | cons head rest ih =>
    simp only [insertEntry] at h
    split at h
    · exact mem_cons.mp h
    split at h
    · rcases mem_cons.mp h with h | h
      · exact .inl h
      · exact .inr (mem_cons_of_mem _ h)
    rcases mem_cons.mp h with h | h
    · exact .inr (h ▸ mem_cons_self)
    · exact (ih h).imp_right (mem_cons_of_mem _)

theorem insertEntry_sorted (h : l.Pairwise (fun a b => a.1 < b.1)) :
    (insertEntry k v l).Pairwise (fun a b => a.1 < b.1) := by
  induction l with
  | nil => simp [insertEntry]
  | cons head rest ih =>
    obtain ⟨hhead, hrest⟩ := pairwise_cons.mp h
    simp only [insertEntry]
    split
    · next hlt =>
      refine pairwise_cons.mpr ⟨?_, h⟩
      intro e he
      rcases mem_cons.mp he with rfl | he
      · exact hlt
      · exact lt_trans hlt (hhead e he)
    rename_i hnlt
    split
    · next heq => exact pairwise_cons.mpr ⟨heq ▸ hhead, hrest⟩
    rename_i hne
    refine pairwise_cons.mpr ⟨?_, ih hrest⟩
    intro e he
    rcases mem_insertEntry he with rfl | he
    · exact lt_of_le_of_ne (not_lt.mp hnlt) (Ne.symm hne)
    · exact hhead e he

/-- `map.find(k)`. -/
def find? (m : SortedMap K V) (k : K) : Option V := lookupEntry k m.entries

/-- `map[k] = v`: a new entry or the old one overwritten. -/
def insert (m : SortedMap K V) (k : K) (v : V) : SortedMap K V :=
  ⟨insertEntry k v m.entries, insertEntry_sorted m.sorted⟩

/-- `map.erase(k)`. -/
def erase (m : SortedMap K V) (k : K) : SortedMap K V :=
  ⟨m.entries.filter (fun e => e.1 ≠ k), m.sorted.filter _⟩

/-- The keys in ascending order, which is the order of a range-for. -/
def keys (m : SortedMap K V) : List K := m.entries.map (·.1)

def values (m : SortedMap K V) : List V := m.entries.map (·.2)

def size (m : SortedMap K V) : Nat := m.entries.length

/-- The values summed through `f`. -/
def sumBy (f : V → Nat) (m : SortedMap K V) : Nat := (m.values.map f).sum

/-! ## Lookups -/

theorem lookupEntry_insertEntry_self (k : K) (v : V) (l : List (K × V)) :
    lookupEntry k (insertEntry k v l) = some v := by
  induction l with
  | nil => simp [insertEntry, lookupEntry]
  | cons head rest ih =>
    simp only [insertEntry]
    split
    · simp [lookupEntry]
    split
    · simp [lookupEntry]
    · next hne => rw [lookupEntry, if_neg (Ne.symm hne)]; exact ih

theorem lookupEntry_insertEntry_of_ne {k k' : K} (v : V) (l : List (K × V))
    (h : k' ≠ k) : lookupEntry k' (insertEntry k v l) = lookupEntry k' l := by
  induction l with
  | nil => simp [insertEntry, lookupEntry, Ne.symm h]
  | cons head rest ih =>
    simp only [insertEntry]
    split
    · rw [lookupEntry, if_neg (Ne.symm h)]
    split
    · next heq => simp [lookupEntry, Ne.symm h, ← heq]
    · rw [lookupEntry, lookupEntry, ih]

theorem lookupEntry_filter_self (k : K) (l : List (K × V)) :
    lookupEntry k (l.filter (fun e => e.1 ≠ k)) = none := by
  induction l with
  | nil => rfl
  | cons head rest ih =>
    rw [filter_cons]
    split
    · next hne =>
      rw [lookupEntry, if_neg (by simpa using hne)]
      exact ih
    · exact ih

theorem lookupEntry_filter_of_ne {k k' : K} (l : List (K × V)) (h : k' ≠ k) :
    lookupEntry k' (l.filter (fun e => e.1 ≠ k)) = lookupEntry k' l := by
  induction l with
  | nil => rfl
  | cons head rest ih =>
    rw [filter_cons]
    split
    · rw [lookupEntry, lookupEntry, ih]
    rename_i heq
    have hk : head.1 = k := by simpa using heq
    rw [lookupEntry, if_neg (hk ▸ Ne.symm h), ih]

@[simp] theorem find?_empty (k : K) : (empty : SortedMap K V).find? k = none := rfl

variable (m)

@[simp] theorem find?_insert_self (k : K) (v : V) :
    (m.insert k v).find? k = some v := lookupEntry_insertEntry_self k v m.entries

theorem find?_insert_of_ne {k k' : K} (v : V)
    (h : k' ≠ k) : (m.insert k v).find? k' = m.find? k' :=
  lookupEntry_insertEntry_of_ne v m.entries h

theorem find?_insert (k k' : K) (v : V) :
    (m.insert k v).find? k' = if k' = k then some v else m.find? k' := by
  split
  · next h => rw [h, find?_insert_self]
  · next h => rw [find?_insert_of_ne m v h]

@[simp] theorem find?_erase_self (k : K) : (m.erase k).find? k = none :=
  lookupEntry_filter_self k m.entries

theorem find?_erase_of_ne {k k' : K} (h : k' ≠ k) :
    (m.erase k).find? k' = m.find? k' := lookupEntry_filter_of_ne m.entries h

theorem find?_erase (k k' : K) : (m.erase k).find? k' = if k' = k then none else m.find? k' := by
  split
  · next h => rw [h, find?_erase_self]
  · next h => rw [find?_erase_of_ne m h]

theorem mem_of_lookupEntry (h : lookupEntry k l = some v) : (k, v) ∈ l := by
  induction l with
  | nil => simp [lookupEntry] at h
  | cons head rest ih =>
    rw [lookupEntry] at h
    split at h
    · next heq =>
      injection h with h
      subst heq h
      exact mem_cons_self
    · exact mem_cons_of_mem _ (ih h)

theorem lookupEntry_of_mem (hs : l.Pairwise (fun a b => a.1 < b.1))
    (h : (k, v) ∈ l) : lookupEntry k l = some v := by
  induction l with
  | nil => exact absurd h not_mem_nil
  | cons head rest ih =>
    obtain ⟨hhead, hrest⟩ := pairwise_cons.mp hs
    rw [lookupEntry]
    rcases mem_cons.mp h with rfl | h
    · exact if_pos rfl
    · rw [if_neg (ne_of_lt (hhead _ h))]
      exact ih hrest h

variable {m}

theorem mem_entries_iff : (k, v) ∈ m.entries ↔ m.find? k = some v :=
  ⟨lookupEntry_of_mem m.sorted, mem_of_lookupEntry⟩

theorem mem_values_iff : v ∈ m.values ↔ ∃ k, m.find? k = some v := by
  simp only [values, mem_map, Prod.exists, exists_eq_right, mem_entries_iff]

theorem mem_keys_iff : k ∈ m.keys ↔ ∃ v, m.find? k = some v := by
  simp only [keys, mem_map, Prod.exists, exists_and_right, exists_eq_right, mem_entries_iff]

variable (m)

theorem keys_sorted : m.keys.Pairwise (· < ·) := pairwise_map.mpr m.sorted

theorem keys_nodup : m.keys.Nodup := m.keys_sorted.imp ne_of_lt

/-! ## Updates as permutations -/

theorem insertEntry_perm_of_none (h : lookupEntry k l = none) :
    (insertEntry k v l).Perm ((k, v) :: l) := by
  induction l with
  | nil => rfl
  | cons head rest ih =>
    rw [lookupEntry] at h
    split at h
    · exact absurd h (by simp)
    rename_i hne
    simp only [insertEntry]
    split
    · rfl
    · rw [if_neg (Ne.symm hne)]
      exact ((ih h).cons head).trans (List.Perm.swap _ _ _)

theorem filter_ne_head {head : K × V} {rest : List (K × V)} (h : ∀ e ∈ rest, head.1 < e.1) :
    (head :: rest).filter (fun e => e.1 ≠ head.1) = rest := by
  rw [filter_cons, if_neg (by simp)]
  exact filter_eq_self.mpr fun e he => by
    simpa using (ne_of_lt (h e he)).symm

theorem insertEntry_perm_of_some {v old : V} {l : List (K × V)}
    (hs : l.Pairwise (fun a b => a.1 < b.1)) (h : lookupEntry k l = some old) :
    (insertEntry k v l).Perm ((k, v) :: l.filter (fun e => e.1 ≠ k)) := by
  induction l with
  | nil => simp [lookupEntry] at h
  | cons head rest ih =>
    obtain ⟨hhead, hrest⟩ := pairwise_cons.mp hs
    rw [lookupEntry] at h
    simp only [insertEntry]
    split at h
    · next heq =>
      subst heq
      rw [if_neg (lt_irrefl _), if_pos rfl, filter_ne_head hhead]
    rename_i hne
    have hmem := hhead _ (mem_of_lookupEntry h)
    rw [if_neg (not_lt.mpr (le_of_lt hmem)), if_neg (Ne.symm hne),
      filter_cons, if_pos (by simpa using hne)]
    exact ((ih hrest h).cons head).trans (List.Perm.swap _ _ _)

theorem perm_filter_of_some (hs : l.Pairwise (fun a b => a.1 < b.1))
    (h : lookupEntry k l = some old) : l.Perm ((k, old) :: l.filter (fun e => e.1 ≠ k)) := by
  induction l with
  | nil => simp [lookupEntry] at h
  | cons head rest ih =>
    obtain ⟨hhead, hrest⟩ := pairwise_cons.mp hs
    rw [lookupEntry] at h
    split at h
    · next heq =>
      injection h with h
      subst heq h
      rw [filter_ne_head hhead]
    · next hne =>
      rw [filter_cons, if_pos (by simpa using hne)]
      exact ((ih hrest h).cons head).trans (List.Perm.swap _ _ _)

variable {m}

theorem entries_insert_perm (v : V) (h : m.find? k = none) :
    (m.insert k v).entries.Perm ((k, v) :: m.entries) := insertEntry_perm_of_none h

theorem entries_erase_perm (h : m.find? k = some v) :
    m.entries.Perm ((k, v) :: (m.erase k).entries) := perm_filter_of_some m.sorted h

theorem entries_overwrite_perm (v : V) (h : m.find? k = some old) :
    (m.insert k v).entries.Perm ((k, v) :: (m.erase k).entries) :=
  insertEntry_perm_of_some m.sorted h

theorem values_insert_perm (v : V) (h : m.find? k = none) :
    (m.insert k v).values.Perm (v :: m.values) := (entries_insert_perm v h).map Prod.snd

theorem values_erase_perm (h : m.find? k = some v) : m.values.Perm (v :: (m.erase k).values) :=
  (entries_erase_perm h).map Prod.snd

theorem values_overwrite_perm (v : V) (h : m.find? k = some old) :
    (m.insert k v).values.Perm (v :: (m.erase k).values) :=
  (entries_overwrite_perm v h).map Prod.snd

/-! ## Sums over a map -/

@[simp] theorem sumBy_empty : sumBy f (empty : SortedMap K V) = 0 := rfl

theorem sumBy_insert_of_none (v : V) (h : m.find? k = none) :
    sumBy f (m.insert k v) = f v + sumBy f m := by
  have hperm := ((values_insert_perm v h).map f).sum_eq
  simpa [sumBy] using hperm

theorem sumBy_erase (h : m.find? k = some v) : f v + sumBy f (m.erase k) = sumBy f m := by
  have hperm := ((values_erase_perm h).map f).sum_eq
  simpa [sumBy] using hperm.symm

theorem sumBy_overwrite (v : V) (h : m.find? k = some old) :
    f old + sumBy f (m.insert k v) = f v + sumBy f m := by
  have hnew := ((values_overwrite_perm v h).map f).sum_eq
  have hold := sumBy_erase f h
  simp only [map_cons, sum_cons] at hnew
  have hnew' : sumBy f (m.insert k v) = f v + sumBy f (m.erase k) := hnew
  omega

/-! ## Entries that disappear -/

/-- The entries of `before` whose keys `after` no longer has. -/
def departed (before after : SortedMap K V) : List (K × V) :=
  before.entries.filter fun e => (after.find? e.1).isNone

/-- When `after` has only keys of `before`, with the same weights, what it
lost in weight is the weight of the departed entries. -/
theorem sumBy_add_departed
    (h : ∀ k v', after.find? k = some v' → ∃ v, before.find? k = some v ∧ f v' = f v) :
    sumBy f after + ((departed before after).map fun e => f e.2).sum = sumBy f before := by
  let weigh := fun e : K × V => (e.1, f e.2)
  let kept := before.entries.filter fun e => !(after.find? e.1).isNone
  have hnodup : ∀ l : List (K × V), l.Pairwise (fun a b => a.1 < b.1) → (l.map weigh).Nodup := by
    intro l hl
    refine pairwise_map.mpr (hl.imp ?_)
    intro a b hab heq
    exact absurd (congrArg Prod.fst heq) (ne_of_lt hab)
  have hperm : (kept.map weigh).Perm (after.entries.map weigh) := by
    refine (perm_ext_iff_of_nodup (hnodup kept (before.sorted.filter _))
      (hnodup after.entries after.sorted)).mpr ?_
    rintro ⟨k, n⟩
    simp only [mem_map, Prod.exists, weigh, Prod.mk.injEq, kept, mem_filter, mem_entries_iff]
    constructor
    · rintro ⟨k', v, ⟨hv, hsome⟩, rfl, rfl⟩
      cases hv' : after.find? k' with
      | none => simp [hv'] at hsome
      | some v' =>
        obtain ⟨w, hw, hf⟩ := h k' v' hv'
        rw [hv] at hw
        injection hw with hw
        exact ⟨k', v', hv', rfl, hw ▸ hf⟩
    · rintro ⟨k', v', hv', rfl, rfl⟩
      obtain ⟨v, hv, hf⟩ := h k' v' hv'
      exact ⟨k', v, ⟨hv, by simp [hv']⟩, rfl, hf.symm⟩
  have hsum := (hperm.map Prod.snd).sum_eq
  have hsplit := (filter_append_perm (fun e : K × V => (after.find? e.1).isNone) before.entries)
  have htotal := (hsplit.map fun e => f e.2).sum_eq
  simp only [map_map, map_append, sum_append] at hsum htotal
  have hafter : sumBy f after = (after.entries.map (Prod.snd ∘ weigh)).sum := by
    simp [sumBy, values, weigh, Function.comp_def]
  have hbefore : sumBy f before = (before.entries.map fun e => f e.2).sum := by
    simp [sumBy, values, Function.comp_def]
  rw [hafter, hbefore, ← hsum, ← htotal, Nat.add_comm]
  rfl

theorem departed_eq_nil (h : ∀ k v, before.find? k = some v → ∃ v', after.find? k = some v') :
    departed before after = [] := by
  refine filter_eq_nil_iff.mpr ?_
  rintro ⟨k, v⟩ hmem
  obtain ⟨v', hv'⟩ := h k v (mem_entries_iff.mp hmem)
  simp [hv']

theorem mem_departed {before after : SortedMap K V} {k : K} {v : V} :
    (k, v) ∈ departed before after ↔ before.find? k = some v ∧ after.find? k = none := by
  simp only [departed, mem_filter, mem_entries_iff, Option.isNone_iff_eq_none]

theorem sumBy_congr
    (hkept : ∀ k v, before.find? k = some v → ∃ v', after.find? k = some v' ∧ f v' = f v)
    (hfresh : ∀ k, before.find? k = none → after.find? k = none) :
    sumBy f after = sumBy f before := by
  have hsum := sumBy_add_departed before after f (by
    intro k v' hv'
    cases hv : before.find? k with
    | none =>
      rw [hfresh k hv] at hv'
      cases hv'
    | some v =>
      obtain ⟨w, hw, hf⟩ := hkept k v hv
      rw [hw] at hv'
      injection hv' with hv'
      exact ⟨v, rfl, hv' ▸ hf⟩)
  rw [departed_eq_nil before after fun k v hv =>
    let ⟨w, hw, _⟩ := hkept k v hv
    ⟨w, hw⟩] at hsum
  simpa using hsum

theorem le_sumBy (h : m.find? k = some v) : f v ≤ sumBy f m :=
  sumBy_erase f h ▸ Nat.le_add_right _ _

/-! ## Updates of one entry -/

theorem ext_find? {m m' : SortedMap K V} (h : ∀ k, m.find? k = m'.find? k) : m = m' := by
  have hnodup : ∀ m : SortedMap K V, m.entries.Nodup := fun m =>
    m.sorted.imp fun hlt heq => absurd (congrArg Prod.fst heq) (ne_of_lt hlt)
  have hperm : m.entries.Perm m'.entries := by
    refine (perm_ext_iff_of_nodup (hnodup m) (hnodup m')).mpr ?_
    rintro ⟨k, v⟩
    rw [mem_entries_iff, mem_entries_iff, h]
  have hentries := hperm.eq_of_pairwise
    (fun _ _ _ _ hlt hgt => absurd hlt (not_lt_of_gt hgt)) m.sorted m'.sorted
  cases m
  cases m'
  congr

/-- The value under a key, if there is one, replaced by its image. -/
def modify (m : SortedMap K V) (k : K) (f : V → V) : SortedMap K V :=
  match m.find? k with
  | none => m
  | some v => m.insert k (f v)

variable (m)

theorem find?_modify (k k' : K) (f : V → V) : (m.modify k f).find? k' =
      if k' = k then (m.find? k).map f else m.find? k' := by
  unfold modify
  cases hfound : m.find? k with
  | none =>
    show m.find? k' = _
    split
    · next heq => rw [heq, hfound]; rfl
    · rfl
  | some v => exact find?_insert m k k' (f v)

variable {m}

theorem modify_of_none (f : V → V) (h : m.find? k = none) : m.modify k f = m := by
  rw [modify, h]

theorem modify_of_some (f : V → V) (h : m.find? k = some v) : m.modify k f = m.insert k (f v) := by
  rw [modify, h]

theorem modify_of_fixed {f : V → V} (h : m.find? k = some v) (hf : f v = v) : m.modify k f = m := by
  refine ext_find? fun k' => ?_
  rw [find?_modify, h]
  split
  · next heq => rw [heq, h, Option.map_some, hf]
  · rfl

variable (m)

theorem keys_modify (k : K) (f : V → V) : (m.modify k f).keys = m.keys := by
  have hperm : (m.modify k f).keys.Perm m.keys := by
    refine (perm_ext_iff_of_nodup (keys_nodup _) m.keys_nodup).mpr ?_
    intro k'
    rw [mem_keys_iff, mem_keys_iff, find?_modify]
    split
    · next heq => cases hfound : m.find? k <;> simp [heq, hfound]
    · rfl
  exact hperm.eq_of_pairwise (fun _ _ _ _ hlt hgt => absurd hlt (not_lt_of_gt hgt)) (keys_sorted _)
    m.keys_sorted

theorem modify_comm (k k' : K) {f g : V → V} (h : ∀ v, f (g v) = g (f v)) :
    (m.modify k' g).modify k f = (m.modify k f).modify k' g := by
  refine ext_find? fun key => ?_
  simp only [find?_modify]
  by_cases hk : key = k <;> by_cases hk' : key = k'
  · simp [← hk, ← hk', Option.map_map, Function.comp_def, h]
  · have hne : k ≠ k' := hk ▸ hk'
    simp [hk, hne]
  · have hne : k' ≠ k := hk' ▸ hk
    simp [hk', hne]
  · simp [hk, hk']

end SortedMap

end AsynGyanis.Library
