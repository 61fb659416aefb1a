import AsynGyanis.Http.RouterSegments
import AsynGyanis.Http.StaticPath

/-!
# Nothing above the root

What `sanitizeRequestPath` accepts can be said without its loops: the text
decoded once, cut at its slashes, names no segment that leads up, and what is
returned are the segments that lead anywhere. Behind a root such a text stays
below it, by the lexical check the server makes afterwards, and escaped again
it is accepted for what it is.
-/

namespace AsynGyanis.Http

open List

/-! ## The second check -/

/-- `std::filesystem::path` on POSIX by its elements: the root directory, if
there is one, and the names. A text that ends in a separator has an empty last
name. -/
structure FilePath where
  isAbsolute : Bool
  fileNames : List Bytes
  deriving DecidableEq, Repr

namespace FilePath

/-- Separators in a row are one. -/
def ofText (text : Bytes) : FilePath :=
  let names := (text.splitOn 0x2F).filter (· ≠ [])
  { isAbsolute := text.head? = some 0x2F
    fileNames := if names ≠ [] ∧ text.getLast? = some 0x2F then names ++ [[]] else names }

/-- The operator `/`: nothing behind a name leaves a separator. -/
def append (path other : FilePath) : FilePath :=
  if other.isAbsolute then other
  else
    let directory :=
      if path.fileNames.getLast? = some [] then path.fileNames.dropLast else path.fileNames
    { path with
      fileNames := directory ++
        if other.fileNames = [] ∧ path.fileNames ≠ [] then [[]] else other.fileNames }

def IsNormalised (path : FilePath) : Prop :=
  path.isAbsolute = true ∧
    ∀ name ∈ path.fileNames, name ≠ [] ∧ name ≠ asciiText "." ∧ name ≠ asciiText ".."

def mismatch : List Bytes → List Bytes → List Bytes × List Bytes
  | name :: names, baseName :: baseNames =>
    if name = baseName then mismatch names baseNames else (name :: names, baseName :: baseNames)
  | names, baseNames => (names, baseNames)

def lexicallyRelative (path base : FilePath) : FilePath :=
  if path.isAbsolute ≠ base.isAbsolute then ⟨false, []⟩
  else
    let (names, baseNames) := mismatch path.fileNames base.fileNames
    let count : Int :=
      baseNames.countP (· ∉ [[], asciiText ".", asciiText ".."]) - baseNames.count (asciiText "..")
    if names = [] ∧ baseNames = [] then ⟨false, [asciiText "."]⟩
    else if count < 0 then ⟨false, []⟩
    else if count = 0 ∧ names.head?.all (· = []) then ⟨false, [asciiText "."]⟩
    else ⟨false, replicate count.toNat (asciiText "..") ++ names⟩

end FilePath

def isWithinRootDirectory (candidateFilePath rootDirectoryPath : FilePath) : Bool :=
  let relativePath := candidateFilePath.lexicallyRelative rootDirectoryPath
  if relativePath = ⟨false, []⟩ then candidateFilePath = rootDirectoryPath
  else if relativePath.isAbsolute then false
  else relativePath.fileNames.head? ≠ some (asciiText "..")

/-! ## What is accepted -/

/-- One round of percent-decoding. -/
inductive Decodes : Bytes → Bytes → Prop
  | nil : Decodes [] []
  | plain {character : UInt8} {rest decoded : Bytes} (hplain : character ≠ 0x25)
    (h : Decodes rest decoded) : Decodes (character :: rest) (character :: decoded)
  | escape {high low : UInt8} {highValue lowValue : Nat} {rest decoded : Bytes}
    (hhigh : hexadecimalDigitValue high = some highValue)
    (hlow : hexadecimalDigitValue low = some lowValue) (h : Decodes rest decoded) :
    Decodes (0x25 :: high :: low :: rest) (UInt8.ofNat (highValue * 16 + lowValue) :: decoded)

/-- The segments that lead anywhere. -/
def keptSegments (segments : List Bytes) : List Bytes :=
  segments.filter fun segment => segment ≠ asciiText "." ∧ segment ≠ []

variable {encoded decoded rawPath relativeText : Bytes} {segments done : List Bytes}

theorem decodes_of_decodePathEscapes (h : decodePathEscapes encoded = some decoded) :
    Decodes encoded decoded := by
  fun_induction decodePathEscapes encoded generalizing decoded with
  | case1 =>
    cases h
    exact .nil
  | case2 | case4 | case5 => cases h
  | case3 =>
    rename_i hlow hhigh _ _ ih
    obtain ⟨behind, hbehind, rfl⟩ := Option.map_eq_some_iff.mp h
    exact .escape hhigh hlow (ih hbehind)
  | case6 _ _ _ hplain ih =>
    obtain ⟨behind, hbehind, rfl⟩ := Option.map_eq_some_iff.mp h
    exact .plain hplain (ih hbehind)

theorem Decodes.decodePathEscapes_eq (h : Decodes encoded decoded) (hnull : 0x00 ∉ decoded) :
    decodePathEscapes encoded = some decoded := by
  induction h with
  | nil => rfl
  | plain hplain _ ih =>
    rw [decodePathEscapes, if_neg hplain, ih (not_mem_of_not_mem_cons hnull)]
    · rfl
    · exact fun _ _ _ heq => absurd heq hplain
  | @escape high low highValue lowValue rest decoded hhigh hlow _ ih =>
    have hzero : ¬highValue * 16 + lowValue = 0 := fun hzero => by simp [hzero] at hnull
    rw [decodePathEscapes, hhigh, hlow]
    dsimp only
    rw [if_neg hzero, ih (not_mem_of_not_mem_cons hnull)]
    rfl

theorem Decodes.head (h : Decodes rawPath decoded) (hslash : rawPath.head? = some 0x2F) :
    ∃ text, decoded = 0x2F :: text := by
  cases h with
  | nil => cases hslash
  | plain =>
    cases hslash
    exact ⟨_, rfl⟩
  | escape => exact absurd (Option.some.inj hslash) (by decide)

theorem keepSegments_forbidden (h : asciiText ".." ∈ segments) :
    keepSegments segments relativeText = .forbidden := by
  induction segments generalizing relativeText with
  | nil => cases h
  | cons segment rest ih =>
    rw [keepSegments]
    split
    · rfl
    next hup =>
    have hrest := (mem_cons.mp h).resolve_left fun heq => hup heq.symm
    split <;> exact ih hrest

/-- The text is the names kept so far, with slashes between. -/
theorem keepSegments_accepted (h : asciiText ".." ∉ segments) (hdone : [] ∉ done) :
    keepSegments segments (intercalate [0x2F] done) =
      .accepted (intercalate [0x2F] (done ++ keptSegments segments)) := by
  induction segments generalizing done with
  | nil => rw [keepSegments, keptSegments, filter_nil, append_nil]
  | cons segment rest ih =>
    obtain ⟨hup, hrest⟩ := not_or.mp (mt mem_cons.mpr h)
    rw [keepSegments, if_neg (Ne.symm hup)]
    split
    · next hskip =>
      have hkept : keptSegments (segment :: rest) = keptSegments rest :=
        filter_cons_of_neg (by rcases hskip with rfl | rfl <;> decide)
      rw [hkept]
      exact ih hrest hdone
    · next hkeep =>
      have hkeep := not_or.mp hkeep
      have hkept : keptSegments (segment :: rest) = segment :: keptSegments rest :=
        filter_cons_of_pos (decide_eq_true hkeep)
      rw [hkept, append_cons done, ← ih hrest (by simp [hdone, Ne.symm hkeep.2])]
      congr 1
      by_cases hnil : done = []
      · subst hnil
        simp
      · rw [if_pos (intercalate_ne_nil hnil fun text hmem heq => hdone (heq ▸ hmem)),
          intercalate_append hnil (by simp)]
        simp

theorem splitOn_slash_cons (text : Bytes) :
    (0x2F :: text : Bytes).splitOn 0x2F = [] :: text.splitOn 0x2F := by
  rw [splitOn_cons_eq_if_modifyHead]
  rfl

theorem mem_splitOn_iff {text : Bytes} :
    asciiText ".." ∈ (0x2F :: text : Bytes).splitOn 0x2F ↔ asciiText ".." ∈ splitSegments text := by
  have hne : asciiText ".." ≠ [] := by decide
  rw [splitOn_slash_cons, splitOn_eq_splitSegments]
  split <;> simp [hne]

theorem keptSegments_splitOn (text : Bytes) :
    keptSegments ((0x2F :: text : Bytes).splitOn 0x2F) = keptSegments (splitSegments text) := by
  rw [splitOn_slash_cons, splitOn_eq_splitSegments, keptSegments, filter_cons_of_neg (by decide),
    filter_append]
  split
  · exact append_nil _
  · exact append_nil _

/-- A path that is accepted, and what it comes to. -/
structure IsConfined (rawPath relativeText : Bytes) : Prop where
  absolute : rawPath.head? = some 0x2F
  oneLine : 0x0D ∉ rawPath ∧ 0x0A ∉ rawPath
  decoded : ∃ decoded, Decodes rawPath decoded ∧ ¬asciiText "//" <+: decoded ∧
    (0x00 ∉ decoded ∧ 0x5C ∉ decoded ∧ 0x3A ∉ decoded) ∧
      asciiText ".." ∉ decoded.splitOn 0x2F ∧
        relativeText = intercalate [0x2F] (keptSegments (decoded.splitOn 0x2F))

theorem isAbsoluteFormPath_iff {text : Bytes} (hbackslash : 0x5C ∉ text) :
    isAbsoluteFormPath (0x2F :: text) = true ↔ asciiText "//" <+: 0x2F :: text := by
  have hsecond : ¬asciiText "/\\" <+: 0x2F :: text := fun h =>
    hbackslash (((cons_prefix_cons.mp h).2).subset (by decide))
  have hfirst : ¬asciiText "\\" <+: 0x2F :: text := fun h =>
    absurd (cons_prefix_cons.mp h).1 (by decide)
  rw [isAbsoluteFormPath, Bool.or_eq_true, Bool.or_eq_true, isPrefixOf_iff_prefix,
    isPrefixOf_iff_prefix, isPrefixOf_iff_prefix, or_iff_left hfirst, or_iff_left hsecond]

theorem sanitizeRequestPath_iff :
    sanitizeRequestPath rawPath = .accepted relativeText ↔ IsConfined rawPath relativeText := by
  constructor
  · intro h
    rw [sanitizeRequestPath] at h
    split at h
    · cases h
    next habsolute =>
    split at h
    · cases h
    next hlines =>
    split at h
    · cases h
    next decoded hdecoded =>
    have hdecodes := decodes_of_decodePathEscapes hdecoded
    obtain ⟨text, rfl⟩ := hdecodes.head (not_not.mp habsolute)
    split at h
    · cases h
    next hform =>
    split at h
    · cases h
    next hnull =>
    split at h
    · cases h
    next hletters =>
    rw [tail_cons] at h
    simp only [Bool.or_eq_true, contains_iff_mem, not_or] at hlines hnull hletters
    have hbackslash := not_mem_of_not_mem_cons hletters.1
    rw [isAbsoluteFormPath_iff hbackslash] at hform
    by_cases hup : asciiText ".." ∈ splitSegments text
    · rw [keepSegments_forbidden hup] at h
      cases h
    rw [← intercalate_nil, keepSegments_accepted hup not_mem_nil] at h
    cases h
    exact ⟨not_not.mp habsolute, hlines, _, hdecodes, hform, ⟨hnull, hletters⟩,
      mt mem_splitOn_iff.mp hup, by rw [keptSegments_splitOn, nil_append]⟩
  · rintro ⟨habsolute, hlines, decoded, hdecodes, hform, ⟨hnull, hletters⟩, hup, rfl⟩
    obtain ⟨text, rfl⟩ := hdecodes.head habsolute
    have hbackslash := not_mem_of_not_mem_cons hletters.1
    rw [← isAbsoluteFormPath_iff hbackslash] at hform
    rw [sanitizeRequestPath, if_neg (not_not.mpr habsolute), if_neg (by simpa using hlines),
      hdecodes.decodePathEscapes_eq hnull]
    dsimp only
    rw [if_neg hform, if_neg (by simpa using hnull), if_neg (by simpa using hletters), tail_cons,
      keptSegments_splitOn]
    exact @keepSegments_accepted _ [] (mt mem_splitOn_iff.mpr hup) not_mem_nil

/-! ## Below the root -/

theorem mem_of_mem_intercalate {letter : UInt8} {names : List Bytes}
    (h : letter ∈ intercalate [0x2F] names) : letter = 0x2F ∨ ∃ name ∈ names, letter ∈ name := by
  induction names with
  | nil => cases h
  | cons name rest ih =>
    by_cases hrest : rest = []
    · subst hrest
      rw [intercalate_singleton] at h
      exact .inr ⟨name, mem_cons_self, h⟩
    · rw [intercalate_cons_of_ne_nil hrest, mem_append, mem_append, mem_singleton] at h
      rcases h with (h | h) | h
      · exact .inr ⟨name, mem_cons_self, h⟩
      · exact .inl h
      · exact (ih h).imp_right fun ⟨other, hmem, hin⟩ => ⟨other, mem_cons_of_mem _ hmem, hin⟩

/-- What was accepted is text like what it was read from, and its own names are
the segments that were kept. -/
theorem IsConfined.names (h : IsConfined rawPath relativeText) : relativeText.head? ≠ some 0x2F ∧
    (0x00 ∉ relativeText ∧ 0x5C ∉ relativeText ∧ 0x3A ∉ relativeText) ∧
      asciiText ".." ∉ relativeText.splitOn 0x2F ∧
        relativeText = intercalate [0x2F] (keptSegments (relativeText.splitOn 0x2F)) := by
  obtain ⟨habsolute, -, decoded, hdecodes, -, hletters, hup, rfl⟩ := h
  obtain ⟨text, rfl⟩ := hdecodes.head habsolute
  rw [mem_splitOn_iff] at hup
  rw [keptSegments_splitOn]
  have hletter : ∀ letter, letter ∉ (0x2F :: text : Bytes) →
      letter ∉ intercalate [0x2F] (keptSegments (splitSegments text)) := by
    intro letter hnot hmem
    rcases mem_of_mem_intercalate hmem with rfl | ⟨name, hname, hin⟩
    · exact hnot mem_cons_self
    · exact hnot (mem_cons_of_mem _ (mem_splitSegments (mem_of_mem_filter hname) hin))
  have hsafe : asciiText ".." ∉ keptSegments (splitSegments text) := mt mem_of_mem_filter hup
  have hfree : ∀ name ∈ keptSegments (splitSegments text), 0x2F ∉ name := fun name hname =>
    not_mem_of_splitSegments (mem_of_mem_filter hname)
  have hkept : keptSegments (keptSegments (splitSegments text)) =
      keptSegments (splitSegments text) := filter_eq_self.mpr fun _ hname => (mem_filter.mp hname).2
  generalize keptSegments (splitSegments text) = names at hletter hsafe hfree hkept ⊢
  cases names with
  | nil => exact ⟨nofun, ⟨nofun, nofun, nofun⟩, by decide, rfl⟩
  | cons name rest =>
    have hsplit := splitOn_intercalate 0x2F hfree (cons_ne_nil name rest)
    refine ⟨fun hslash => ?_, ⟨hletter _ hletters.1, hletter _ hletters.2.1,
      hletter _ hletters.2.2⟩, by rwa [hsplit], by rw [hsplit, hkept]⟩
    obtain ⟨behind, hbehind⟩ := head?_eq_some_iff.mp hslash
    rw [hbehind, splitOn_slash_cons] at hsplit
    rw [← (cons.inj hsplit).1, keptSegments, filter_cons_of_neg (by decide)] at hkept
    exact absurd (congrArg length hkept) (Nat.ne_of_lt (Nat.lt_succ_of_le (length_filter_le _ _)))

theorem mismatch_append (front names : List Bytes) :
    FilePath.mismatch (front ++ names) front = (names, []) := by
  induction front with
  | nil => cases names <;> rfl
  | cons name rest ih => rw [cons_append, FilePath.mismatch, if_pos rfl, ih]

theorem isWithinRootDirectory_append {root : FilePath} {names : List Bytes}
    (hup : asciiText ".." ∉ names) :
    isWithinRootDirectory { root with fileNames := root.fileNames ++ names } root = true := by
  have hrelative : ∃ name rest, name ≠ asciiText ".." ∧
      FilePath.lexicallyRelative { root with fileNames := root.fileNames ++ names } root =
        ⟨false, name :: rest⟩ := by
    rw [FilePath.lexicallyRelative, mismatch_append, if_neg (not_not.mpr rfl)]
    cases names with
    | nil => exact ⟨asciiText ".", [], by decide, rfl⟩
    | cons name rest =>
      by_cases hname : name = []
      · exact ⟨asciiText ".", [], by decide, by simp [hname]⟩
      · exact ⟨name, rest, fun heq => hup (heq ▸ mem_cons_self), by simp [hname]⟩
  obtain ⟨name, rest, hname, heq⟩ := hrelative
  rw [isWithinRootDirectory, heq, if_neg (by simp), if_neg (by simp)]
  exact decide_eq_true fun h => hname (Option.some.inj h)

/-- What the static route does with every path, below every root. -/
structure StaticConfinement : Prop where
  accepts : ∀ rawPath relativeText,
    sanitizeRequestPath rawPath = .accepted relativeText ↔ IsConfined rawPath relativeText
  within : ∀ rawPath relativeText, sanitizeRequestPath rawPath = .accepted relativeText →
    ∀ root : FilePath, root.IsNormalised →
      isWithinRootDirectory (root.append (.ofText relativeText)) root = true
  again : ∀ rawPath relativeText, sanitizeRequestPath rawPath = .accepted relativeText →
    ∀ encoded, encoded.head? = some 0x2F → 0x0D ∉ encoded ∧ 0x0A ∉ encoded →
      Decodes encoded (0x2F :: relativeText) →
        sanitizeRequestPath encoded = .accepted relativeText

theorem static_paths_confined : StaticConfinement where
  accepts := fun _ _ => sanitizeRequestPath_iff
  within := by
    intro rawPath relativeText h root hroot
    obtain ⟨hrelative, -, hup, -⟩ := (sanitizeRequestPath_iff.mp h).names
    have hnames : asciiText ".." ∉ (FilePath.ofText relativeText).fileNames := by
      have hfilter := mt (mem_of_mem_filter (p := (· ≠ []))) hup
      rw [FilePath.ofText]
      dsimp only
      split
      · rw [mem_append, not_or]
        exact ⟨hfilter, by decide⟩
      · exact hfilter
    rw [FilePath.append, if_neg (by simpa [FilePath.ofText] using hrelative), if_neg ?_]
    · refine isWithinRootDirectory_append ?_
      split
      · decide
      · exact hnames
    · exact fun hlast => (hroot.2 _ (mem_of_getLast? hlast)).1 rfl
  again := by
    intro rawPath relativeText h encoded habsolute hlines hdecodes
    obtain ⟨hrelative, hletters, hup, hkept⟩ := (sanitizeRequestPath_iff.mp h).names
    refine sanitizeRequestPath_iff.mpr ⟨habsolute, hlines, _, hdecodes, fun hform => ?_, ?_, ?_, ?_⟩
    · obtain ⟨behind, hbehind⟩ := (cons_prefix_cons.mp hform).2
      exact hrelative (by rw [← hbehind]; rfl)
    · simpa using hletters
    · rw [splitOn_slash_cons, mem_cons, not_or]
      exact ⟨by decide, hup⟩
    · rw [splitOn_slash_cons, keptSegments, filter_cons_of_neg (by decide)]
      exact hkept

end AsynGyanis.Http
