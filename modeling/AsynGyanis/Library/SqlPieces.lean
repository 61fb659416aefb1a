import AsynGyanis.Library.SqlText

/-!
# Pieces of SQL text

Text is written piece by piece, and a lexer reads across the seams: behind a
word, a number or a name it goes on for as long as the characters fit. A
piece is closed when every text that a space, a parenthesis or a comma
starts is cut off from it. Closed pieces are put together from the right: a
piece in front of text that starts so keeps its own tokens.
-/

namespace AsynGyanis.Library.Sql

open List

variable (quote : Char) (count : Nat) (rest : List Char)

/-- The characters that quote a name in SQL text. -/
def IsNameQuote (quote : Char) : Prop :=
  quote = '"' ∨ quote = Char.ofNat 0x60

/-- Nothing, or text at whose front a token of any kind ends. -/
def Delimited : List Char → Prop
  | [] => True
  | character :: _ => character = ' ' ∨ character = ')' ∨ character = ','

/-! ## One token -/

theorem tokens_nil : tokens quote count [] = some [] := by
  rw [tokens]

theorem tokens_space : tokens quote count (' ' :: rest) = tokens quote count rest := by
  rw [tokens, if_pos rfl]

variable {character : Char}

theorem tokens_token {quote : Char} {count count' : Nat}
    {rest behind : List Char} {first : Token} (hspace : character ≠ ' ')
    (htoken : token quote count (character :: rest) = some (first, behind, count'))
    (hlength : behind.length ≤ rest.length) :
    tokens quote count (character :: rest) = (tokens quote count' behind).map (first :: ·) := by
  rw [tokens, if_neg hspace, htoken]
  exact if_pos (Nat.lt_succ_of_le hlength)

theorem tokens_leftParenthesis : tokens quote count ('(' :: rest) =
      (tokens quote count rest).map (Token.leftParenthesis :: ·) :=
  tokens_token (by decide) (by simp [token]) (Nat.le_refl _)

theorem tokens_rightParenthesis : tokens quote count (')' :: rest) =
      (tokens quote count rest).map (Token.rightParenthesis :: ·) :=
  tokens_token (by decide) (by simp [token]) (Nat.le_refl _)

theorem tokens_comma : tokens quote count (',' :: rest) =
      (tokens quote count rest).map (Token.comma :: ·) :=
  tokens_token (by decide) (by simp [token]) (Nat.le_refl _)

theorem tokens_dot : tokens quote count ('.' :: rest) =
      (tokens quote count rest).map (Token.dot :: ·) :=
  tokens_token (by decide) (by simp [token]) (Nat.le_refl _)

theorem tokens_questionMark : tokens quote count ('?' :: rest) =
      (tokens quote (count + 1) rest).map (Token.placeholder count :: ·) :=
  tokens_token (by decide) (by simp [token]) (Nat.le_refl _)

/-! ## Words and numbers -/

theorem Delimited.takeWhile_eq_nil {rest : List Char} (h : Delimited rest)
    {p : Char → Bool} (hspace : p ' ' = false) (hright : p ')' = false)
    (hcomma : p ',' = false) : rest.takeWhile p = [] := by
  cases rest with
  | nil => rfl
  | cons character rest =>
    rcases h with rfl | rfl | rfl <;> simp [*]

theorem Delimited.takeWhile_append {rest : List Char} (h : Delimited rest)
    {p : Char → Bool} (hspace : p ' ' = false) (hright : p ')' = false)
    (hcomma : p ',' = false) {run : List Char} (hrun : run.all p) :
    (run ++ rest).takeWhile p = run ∧ (run ++ rest).dropWhile p = rest := by
  have hall : ∀ character ∈ run, p character := all_eq_true.mp hrun
  have hnil := h.takeWhile_eq_nil hspace hright hcomma
  have hdrop : rest.dropWhile p = rest := by
    conv => rhs; rw [← takeWhile_append_dropWhile (p := p) (l := rest)]
    rw [hnil, nil_append]
  rw [takeWhile_append_of_pos hall, dropWhile_append_of_pos hall,
    hnil, hdrop, append_nil]
  exact ⟨rfl, rfl⟩

theorem ne_of_class {p : Char → Bool} {other : Char} (h : p character) (hother : p other = false) :
    character ≠ other := by
  intro heq
  rw [heq, hother] at h
  exact absurd h (by decide)

/-- The characters that begin no word, number or name. -/
def marks : List Char := [' ', '(', ')', ',', '.', '?', '=', '!', '>', '<', '$', apostrophe]

theorem not_mem_marks {p : Char → Bool} (h : p character)
    (hmarks : marks.all (!p ·)) : character ∉ marks := by
  intro hmem
  have hother := all_eq_true.mp hmarks character hmem
  rw [h] at hother
  exact absurd hother (by decide)

theorem token_of_not_mem_marks {quote : Char} (h : character ∉ marks) :
    token quote count (character :: rest) =
      if character = quote then
        (scanQuoted quote rest).map fun (text, rest) =>
          (.name text, rest, count)
      else if character.isDigit then
        some (.number (numberOf (character :: rest.takeWhile Char.isDigit)),
          rest.dropWhile Char.isDigit, count)
      else if character.isAlpha then
        some (.word (character :: rest.takeWhile Char.isAlpha), rest.dropWhile Char.isAlpha, count)
      else none := by
  simp only [marks, mem_cons, not_mem_nil, or_false, not_or] at h
  simp [token, h]

theorem isDigit_of_isAlpha (h : character.isAlpha) : character.isDigit = false := by
  simp only [Char.isAlpha, Char.isUpper, Char.isLower, Char.isDigit,
    Bool.or_eq_true, decide_eq_true_eq, Bool.and_eq_false_iff,
    decide_eq_false_iff_not, ge_iff_le, UInt32.le_iff_toNat_le,
    Bool.and_eq_true] at h ⊢
  have hA : 'A'.val.toNat = 65 := rfl
  have ha : 'a'.val.toNat = 97 := rfl
  have h9 : '9'.val.toNat = 57 := rfl
  omega

theorem IsNameQuote.isAlpha {quote : Char} (h : IsNameQuote quote) : quote.isAlpha = false := by
  rcases h with rfl | rfl <;> decide

theorem IsNameQuote.isDigit {quote : Char} (h : IsNameQuote quote) : quote.isDigit = false := by
  rcases h with rfl | rfl <;> decide

theorem tokens_word {quote : Char} (hquote : IsNameQuote quote)
    (count : Nat) {word rest : List Char} (halpha : (character :: word).all Char.isAlpha)
    (hrest : Delimited rest) :
    tokens quote count (character :: (word ++ rest)) =
      (tokens quote count rest).map (Token.word (character :: word) :: ·) := by
  rw [all_cons, Bool.and_eq_true] at halpha
  obtain ⟨hfirst, hword⟩ := halpha
  have hrun := hrest.takeWhile_append (p := Char.isAlpha) rfl rfl rfl hword
  refine tokens_token (ne_of_class hfirst rfl) ?_ ?_
  · rw [token_of_not_mem_marks _ _ (not_mem_marks hfirst rfl),
      if_neg (ne_of_class hfirst hquote.isAlpha),
      if_neg (by rw [isDigit_of_isAlpha hfirst]; decide), if_pos hfirst,
      hrun.1, hrun.2]
  · rw [length_append]
    exact Nat.le_add_left _ _

variable {digits : List Char}

theorem tokens_number {quote : Char} (hquote : IsNameQuote quote)
    (count : Nat) {rest : List Char} (hdigits : (character :: digits).all Char.isDigit)
    (hrest : Delimited rest) :
    tokens quote count (character :: (digits ++ rest)) = (tokens quote count rest).map
        (Token.number (numberOf (character :: digits)) :: ·) := by
  rw [all_cons, Bool.and_eq_true] at hdigits
  obtain ⟨hfirst, hdigits⟩ := hdigits
  have hrun := hrest.takeWhile_append (p := Char.isDigit) rfl rfl rfl hdigits
  refine tokens_token (ne_of_class hfirst rfl) ?_ ?_
  · rw [token_of_not_mem_marks _ _ (not_mem_marks hfirst rfl),
      if_neg (ne_of_class hfirst hquote.isDigit), if_pos hfirst, hrun.1,
      hrun.2]
  · rw [length_append]
    exact Nat.le_add_left _ _

theorem tokens_dollar {rest : List Char}
    (hdigits : digits.all Char.isDigit) (hrest : Delimited rest) :
    tokens quote count ('$' :: (digits ++ rest)) = (tokens quote (count + 1) rest).map
        (Token.placeholder (numberOf digits - 1) :: ·) := by
  have hrun := hrest.takeWhile_append (p := Char.isDigit) rfl rfl rfl hdigits
  refine tokens_token (by decide) ?_ ?_
  · simp [token, hrun]
  · rw [length_append]
    exact Nat.le_add_left _ _

/-! ## Text between quotes -/

/-- A quote inside stands twice. -/
def doubleQuote (quote : Char) (text : List Char) : List Char := text.flatMap fun character =>
    if character = quote then [quote, character] else [character]

theorem doubleQuote_cons (quote character : Char) (text : List Char) :
    doubleQuote quote (character :: text) =
      (if character = quote then [quote, character] else [character]) ++
        doubleQuote quote text := rfl

theorem scanQuoted_other {quote : Char} (h : character ≠ quote)
    {text : List Char} (hne : text ≠ []) :
    scanQuoted quote (character :: text) = (scanQuoted quote text).map fun (inner, rest) =>
        (character :: inner, rest) := by
  cases text with
  | nil => exact absurd rfl hne
  | cons next text => rw [scanQuoted, if_neg h]

theorem scanQuoted_doubleQuote (text : List Char) {rest : List Char}
    (hrest : rest.head? ≠ some quote) :
    scanQuoted quote (doubleQuote quote text ++ quote :: rest) = some (text, rest) := by
  induction text with
  | nil =>
    cases rest with
    | nil => exact if_pos rfl
    | cons next rest =>
      have hnext : next ≠ quote := fun h => hrest (by rw [h]; rfl)
      show scanQuoted quote (quote :: next :: rest) = _
      rw [scanQuoted, if_pos rfl, if_neg hnext]
  | cons character text ih =>
    rw [doubleQuote_cons]
    by_cases h : character = quote
    · rw [if_pos h, h]
      show scanQuoted quote (quote :: quote :: (doubleQuote quote text ++ quote :: rest)) = _
      rw [scanQuoted, if_pos rfl, if_pos rfl, ih]
      rfl
    · rw [if_neg h, singleton_append, cons_append, scanQuoted_other h (by simp), ih]
      rfl

theorem IsNameQuote.not_mem_marks {quote : Char} (h : IsNameQuote quote) : quote ∉ marks := by
  rcases h with rfl | rfl <;> decide

theorem tokens_name {quote : Char} (hquote : IsNameQuote quote)
    (count : Nat) (text : List Char) {rest : List Char} (hrest : rest.head? ≠ some quote) :
    tokens quote count (quote :: (doubleQuote quote text ++ quote :: rest)) =
      (tokens quote count rest).map (Token.name text :: ·) := by
  have hplain := hquote.not_mem_marks
  refine tokens_token (ne_of_not_mem_cons hplain) ?_ ?_
  · rw [token_of_not_mem_marks _ _ hplain, if_pos rfl, scanQuoted_doubleQuote quote text hrest]
    rfl
  · rw [length_append, length_cons]
    omega

theorem tokens_text (text : List Char) {rest : List Char}
    (hrest : rest.head? ≠ some apostrophe) : tokens quote count
        (apostrophe :: (doubleQuote apostrophe text ++ apostrophe :: rest)) =
      (tokens quote count rest).map (Token.text text :: ·) := by
  refine tokens_token (by decide) ?_ ?_
  · rw [token, if_neg (by decide), if_neg (by decide), if_neg (by decide),
      if_neg (by decide), if_neg (by decide), if_neg (by decide),
      if_neg (by decide), if_neg (by decide), if_neg (by decide),
      if_neg (by decide), if_pos rfl,
      scanQuoted_doubleQuote apostrophe text hrest]
    rfl
  · rw [length_append, length_cons]
    omega

/-! ## Comparisons -/

def comparisonText : Comparison → List Char
  | .equal => ['=']
  | .notEqual => ['!', '=']
  | .greater => ['>']
  | .greaterOrEqual => ['>', '=']
  | .less => ['<']
  | .lessOrEqual => ['<', '=']

theorem tokens_comparison (comparison : Comparison) {rest : List Char}
    (hrest : rest.head? ≠ some '=') :
    tokens quote count (comparisonText comparison ++ rest) =
      (tokens quote count rest).map (Token.comparison comparison :: ·) := by
  cases comparison <;>
    exact tokens_token (by decide) (by simp [token, hrest]) (by simp [comparisonText])

/-! ## Closed pieces -/

theorem Delimited.head_ne {rest : List Char} (h : Delimited rest)
    (hne : character ≠ ' ' ∧ character ≠ ')' ∧ character ≠ ',') :
    rest.head? ≠ some character := by
  cases rest with
  | nil => exact nofun
  | cons first rest =>
    intro heq
    cases heq
    rcases h with h | h | h
    · exact hne.1 h
    · exact hne.2.1 h
    · exact hne.2.2 h

theorem Delimited.append {piece rest : List Char} (h : Delimited piece)
    (hrest : Delimited rest) : Delimited (piece ++ rest) := by
  cases piece with
  | nil => exact hrest
  | cons character piece => exact h

/-- The piece yields its tokens in front of any text that is cut off from
it. It stands behind `count` placeholders and holds `places` of them. -/
def Lexes (quote : Char) (count : Nat) (piece : List Char) (places : Nat)
    (output : List Token) : Prop :=
  ∀ rest, Delimited rest → tokens quote count (piece ++ rest) =
    (tokens quote (count + places) rest).map (output ++ ·)

namespace Lexes

variable {quote count} {places places' : Nat}
  {piece piece' : List Char} {output output' : List Token}

theorem append (h : Lexes quote count piece places output)
    (h' : Lexes quote (count + places) piece' places' output') (hdelimited : Delimited piece') :
    Lexes quote count (piece ++ piece') (places + places') (output ++ output') := by
  intro rest hrest
  rw [append_assoc, h _ (hdelimited.append hrest), h' rest hrest,
    Option.map_map, Nat.add_assoc]
  congr 1
  funext more
  exact (append_assoc _ _ _).symm

theorem before (h : Lexes quote count piece 0 output) (h' : Lexes quote count piece' places output')
    (hdelimited : Delimited piece') :
    Lexes quote count (piece ++ piece') places (output ++ output') := by
  have happend := h.append h' hdelimited
  rw [Nat.zero_add] at happend
  exact happend

theorem space (h : Lexes quote count piece places output) :
    Lexes quote count (' ' :: piece) places output := by
  intro rest hrest
  rw [cons_append, tokens_space, h rest hrest]

theorem leftParenthesis (h : Lexes quote count piece places output) :
    Lexes quote count ('(' :: piece) places (Token.leftParenthesis :: output) := by
  intro rest hrest
  rw [cons_append, tokens_leftParenthesis, h rest hrest, Option.map_map]
  rfl

theorem comma (h : Lexes quote count piece places output) :
    Lexes quote count (',' :: piece) places (Token.comma :: output) := by
  intro rest hrest
  rw [cons_append, tokens_comma, h rest hrest, Option.map_map]
  rfl

theorem rightParenthesis : Lexes quote count [')'] 0 [Token.rightParenthesis] := by
  intro rest _
  exact tokens_rightParenthesis quote count rest

theorem word (hquote : IsNameQuote quote) {character : Char} {word : List Char}
    (halpha : (character :: word).all Char.isAlpha) :
    Lexes quote count (character :: word) 0 [Token.word (character :: word)] :=
  fun _ hrest => tokens_word hquote count halpha hrest

theorem number (hquote : IsNameQuote quote) {character : Char}
    (hdigits : (character :: digits).all Char.isDigit) :
    Lexes quote count (character :: digits) 0 [Token.number (numberOf (character :: digits))] :=
  fun _ hrest => tokens_number hquote count hdigits hrest

theorem questionMark : Lexes quote count ['?'] 1 [Token.placeholder count] :=
  fun rest _ => tokens_questionMark quote count rest

theorem dollar (hdigits : digits.all Char.isDigit) :
    Lexes quote count ('$' :: digits) 1 [Token.placeholder (numberOf digits - 1)] :=
  fun _ hrest => tokens_dollar quote count hdigits hrest

theorem comparison (operator : Comparison) :
    Lexes quote count (comparisonText operator) 0 [Token.comparison operator] :=
  fun _ hrest => tokens_comparison quote count operator (hrest.head_ne (by decide))

theorem text (content : List Char) : Lexes quote count
      (apostrophe :: (doubleQuote apostrophe content ++ [apostrophe])) 0
      [Token.text content] := by
  intro rest hrest
  rw [cons_append, append_assoc, singleton_append]
  exact tokens_text quote count content (hrest.head_ne (by decide))

theorem name (hquote : IsNameQuote quote) (content : List Char) :
    Lexes quote count (quote :: (doubleQuote quote content ++ [quote])) 0 [Token.name content] := by
  intro rest hrest
  rw [cons_append, append_assoc, singleton_append]
  exact tokens_name hquote count content
    (hrest.head_ne (by rcases hquote with rfl | rfl <;> decide))

theorem nameDot (hquote : IsNameQuote quote) (content : List Char)
    (h : Lexes quote count piece places output) :
    Lexes quote count (quote :: (doubleQuote quote content ++ [quote]) ++ '.' :: piece)
      places (Token.name content :: Token.dot :: output) := by
  intro rest hrest
  rw [append_assoc, cons_append, append_assoc,
    singleton_append, tokens_name hquote count content
      (by rcases hquote with rfl | rfl <;> exact nofun), cons_append,
    tokens_dot, h rest hrest, Option.map_map, Option.map_map]
  rfl

theorem tokens_eq (h : Lexes quote count piece places output) :
    tokens quote count piece = some output := by
  rw [← append_nil piece, h [] trivial, tokens_nil, Option.map_some, append_nil]

end Lexes

/-! ## Text that opens what follows -/

/-- Text that any piece may follow, and the tokens that it adds. -/
def Leads (quote : Char) (front : List Char) (added : List Token) : Prop :=
  ∀ (count places : Nat) (piece : List Char) (output : List Token),
    Lexes quote count piece places output →
      Lexes quote count (front ++ piece) places (added ++ output)

namespace Leads

variable {quote} {front front' : List Char} {added added' : List Token}

theorem leftParenthesis : Leads quote ['('] [Token.leftParenthesis] :=
  fun _ _ _ _ h => h.leftParenthesis

theorem commaSpace : Leads quote [',', ' '] [Token.comma] := fun _ _ _ _ h => h.space.comma

theorem append (h : Leads quote front added) (h' : Leads quote front' added') :
    Leads quote (front ++ front') (added ++ added') := by
  intro count places piece output hpiece
  rw [append_assoc, append_assoc]
  exact h _ _ _ _ (h' _ _ _ _ hpiece)

theorem ofLexes {piece : List Char} {output : List Token}
    (h : ∀ count, Lexes quote count piece 0 output) : Leads quote (piece ++ [' ']) output := by
  intro count places piece' output' hpiece
  rw [append_assoc]
  exact (h count).before hpiece.space (.inl rfl)

end Leads

end AsynGyanis.Library.Sql
