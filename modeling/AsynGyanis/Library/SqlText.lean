import AsynGyanis.Library.Settles
import AsynGyanis.Library.ThreeValued

/-!
# Reading SQL conditions

The text of a condition is cut into tokens and read by recursive descent,
with the precedence SQL gives its operators: comparisons and the postfix
tests bind tightest, then `NOT`, then `AND`, then `OR`. What is read is an
expression; its value on a row is computed with three truth values.

The reader knows three things about an engine, and no more: which character
quotes a name, what its comparisons answer, and that a truth value used as a
value keeps the truth it had. A list behind `IN` holds expressions, so a
comparison may stand there as a value.
-/

namespace AsynGyanis.Library.Sql

open Library

/-! ## Tokens -/

inductive Comparison
  | equal
  | notEqual
  | greater
  | greaterOrEqual
  | less
  | lessOrEqual
  deriving DecidableEq, Repr

inductive Token
  | leftParenthesis
  | rightParenthesis
  | comma
  | dot
  | comparison (comparison : Comparison)
  /-- A name between quotes. -/
  | name (text : List Char)
  /-- A word: a key word, as far as conditions go. -/
  | word (text : List Char)
  | number (value : Nat)
  | text (text : List Char)
  /-- A place for the parameter at this index. -/
  | placeholder (index : Nat)
  deriving DecidableEq, Repr

def wordAnd : Token := .word ['A', 'N', 'D']
def wordOr : Token := .word ['O', 'R']
def wordNot : Token := .word ['N', 'O', 'T']
def wordIn : Token := .word ['I', 'N']
def wordIs : Token := .word ['I', 'S']
def wordNull : Token := .word ['N', 'U', 'L', 'L']
def wordLike : Token := .word ['L', 'I', 'K', 'E']
def wordEscape : Token := .word ['E', 'S', 'C', 'A', 'P', 'E']

/-- Up to the closing quote, a doubled quote standing for one. -/
def scanQuoted (quote : Char) : List Char → Option (List Char × List Char)
  | [] => none
  | [character] => if character = quote then some ([], []) else none
  | character :: next :: rest =>
    if character = quote then
      if next = quote then
        (scanQuoted quote rest).map fun (text, rest) => (quote :: text, rest)
      else some ([], next :: rest)
    else
      (scanQuoted quote (next :: rest)).map fun (text, rest) =>
        (character :: text, rest)

/-- The quote of a text. -/
def apostrophe : Char := Char.ofNat 39

def numberOf (digits : List Char) : Nat := Nat.ofDigitChars 10 digits 0

/-- The token at the front, what follows it, and the number of placeholders
up to there. A question mark is the next placeholder; behind a dollar sign
the placeholder says itself which one it is, counting from one. -/
def token (quote : Char) (count : Nat) : List Char → Option (Token × List Char × Nat)
  | [] => none
  | character :: rest =>
    if character = '(' then some (.leftParenthesis, rest, count)
    else if character = ')' then some (.rightParenthesis, rest, count)
    else if character = ',' then some (.comma, rest, count)
    else if character = '.' then some (.dot, rest, count)
    else if character = '?' then some (.placeholder count, rest, count + 1)
    else if character = '=' then some (.comparison .equal, rest, count)
    else if character = '!' then
      if rest.head? = some '=' then
        some (.comparison .notEqual, rest.tail, count)
      else none
    else if character = '>' then
      if rest.head? = some '=' then
        some (.comparison .greaterOrEqual, rest.tail, count)
      else some (.comparison .greater, rest, count)
    else if character = '<' then
      if rest.head? = some '=' then
        some (.comparison .lessOrEqual, rest.tail, count)
      else some (.comparison .less, rest, count)
    else if character = '$' then
      some (.placeholder (numberOf (rest.takeWhile Char.isDigit) - 1),
        rest.dropWhile Char.isDigit, count + 1)
    else if character = apostrophe then
      (scanQuoted apostrophe rest).map fun (text, rest) => (.text text, rest, count)
    else if character = quote then
      (scanQuoted quote rest).map fun (text, rest) => (.name text, rest, count)
    else if character.isDigit then
      some (.number (numberOf (character :: rest.takeWhile Char.isDigit)),
        rest.dropWhile Char.isDigit, count)
    else if character.isAlpha then
      some (.word (character :: rest.takeWhile Char.isAlpha), rest.dropWhile Char.isAlpha, count)
    else none

/-- All tokens of a text; spaces stand between them. -/
def tokens (quote : Char) (count : Nat) (text : List Char) : Option (List Token) :=
  match text with
  | [] => some []
  | character :: rest =>
    if character = ' ' then tokens quote count rest
    else
      match token quote count (character :: rest) with
      | none => none
      | some (first, behind, count) =>
        if behind.length < (character :: rest).length then
          (tokens quote count behind).map (first :: ·)
        else none
termination_by text.length
decreasing_by all_goals simp_all

/-! ## Expressions -/

inductive Expression
  /-- The segments of a name that dots separate. -/
  | field (segments : List (List Char))
  | placeholder (index : Nat)
  | number (value : Nat)
  | text (text : List Char)
  | compare (comparison : Comparison) (left right : Expression)
  | like (left right : Expression) (escape : Option (List Char))
  | isNull (operand : Expression)
  | isNotNull (operand : Expression)
  | inList (operand : Expression) (items : List Expression)
  | notInList (operand : Expression) (items : List Expression)
  | not (operand : Expression)
  | and (left right : Expression)
  | or (left right : Expression)

/-- What is read from the front of a list of tokens, and what is left. -/
abbrev Reading (α : Type) := Option (α × List Token)

/-- Further segments of a name. -/
def readSegments : List Token → List (List Char) × List Token
  | .dot :: .name segment :: rest =>
    let (segments, rest) := readSegments rest
    (segment :: segments, rest)
  | rest => ([], rest)

/-- The text behind `ESCAPE`, if there is one. -/
def readEscape : List Token → Option (List Char) × List Token
  | .word ['E', 'S', 'C', 'A', 'P', 'E'] :: .text text :: rest =>
    (some text, rest)
  | rest => (none, rest)

mutual

def readOr : Nat → List Token → Reading Expression
  | 0, _ => none
  | fuel + 1, input => (readAnd fuel input).bind fun (left, rest) =>
    readOrChain fuel left rest

def readOrChain : Nat → Expression → List Token → Reading Expression
  | 0, _, _ => none
  | fuel + 1, left, input =>
    if input.head? = some wordOr then
      (readAnd fuel input.tail).bind fun (right, rest) =>
        readOrChain fuel (.or left right) rest
    else some (left, input)

def readAnd : Nat → List Token → Reading Expression
  | 0, _ => none
  | fuel + 1, input => (readNot fuel input).bind fun (left, rest) =>
    readAndChain fuel left rest

def readAndChain : Nat → Expression → List Token → Reading Expression
  | 0, _, _ => none
  | fuel + 1, left, input =>
    if input.head? = some wordAnd then
      (readNot fuel input.tail).bind fun (right, rest) =>
        readAndChain fuel (.and left right) rest
    else some (left, input)

def readNot : Nat → List Token → Reading Expression
  | 0, _ => none
  | fuel + 1, input =>
    if input.head? = some wordNot then
      (readNot fuel input.tail).map fun (operand, rest) =>
        (.not operand, rest)
    else readPredicate fuel input

def readPredicate : Nat → List Token → Reading Expression
  | 0, _ => none
  | fuel + 1, input => (readPrimary fuel input).bind fun (left, rest) =>
    readTest fuel left rest

/-- What may stand behind an operand. -/
def readTest : Nat → Expression → List Token → Reading Expression
  | 0, _, _ => none
  | fuel + 1, left, input =>
    match input with
    | .comparison comparison :: rest =>
      (readPrimary fuel rest).map fun (right, rest) =>
        (.compare comparison left right, rest)
    | .word word :: rest =>
      if word = ['L', 'I', 'K', 'E'] then
        (readPrimary fuel rest).map fun (right, rest) =>
          let (escape, rest) := readEscape rest
          (.like left right escape, rest)
      else if word = ['I', 'S'] then
        if rest.head? = some wordNull then some (.isNull left, rest.tail)
        else if rest.head? = some wordNot ∧ rest.tail.head? = some wordNull then
          some (.isNotNull left, rest.tail.tail)
        else none
      else if word = ['I', 'N'] then
        (readList fuel rest).map fun (items, rest) =>
          (.inList left items, rest)
      else if word = ['N', 'O', 'T'] ∧ rest.head? = some wordIn then
        (readList fuel rest.tail).map fun (items, rest) =>
          (.notInList left items, rest)
      else some (left, input)
    | _ => some (left, input)

def readPrimary : Nat → List Token → Reading Expression
  | 0, _ => none
  | fuel + 1, input =>
    match input with
    | .leftParenthesis :: rest =>
      (readOr fuel rest).bind fun (inner, rest) =>
        if rest.head? = some .rightParenthesis then some (inner, rest.tail)
        else none
    | .name segment :: rest =>
      let (segments, rest) := readSegments rest
      some (.field (segment :: segments), rest)
    | .placeholder index :: rest => some (.placeholder index, rest)
    | .number value :: rest => some (.number value, rest)
    | .text text :: rest => some (.text text, rest)
    | _ => none

/-- A list between parentheses. -/
def readList : Nat → List Token → Reading (List Expression)
  | 0, _ => none
  | fuel + 1, input =>
    if input.head? = some .leftParenthesis then readItems fuel input.tail
    else none

/-- The items of a list, the closing parenthesis included. -/
def readItems : Nat → List Token → Reading (List Expression)
  | 0, _ => none
  | fuel + 1, input => (readOr fuel input).bind fun (item, rest) =>
    if rest.head? = some .comma then
      (readItems fuel rest.tail).map fun (items, rest) => (item :: items, rest)
    else if rest.head? = some .rightParenthesis then some ([item], rest.tail)
    else none

end

/-- A text is read as an expression: all of it, whatever the fuel from some
fuel on. `count` placeholders stand before the text. -/
def ReadsAs (quote : Char) (count : Nat) (text : List Char) (expression : Expression) : Prop :=
  ∃ input, tokens quote count text = some input ∧
    Settles (fun fuel => readOr fuel input) (some (expression, []))

theorem ReadsAs.unique {quote : Char} {count : Nat} {text : List Char}
    {a b : Expression} (ha : ReadsAs quote count text a)
    (hb : ReadsAs quote count text b) : a = b := by
  obtain ⟨input, htokens, hsettles⟩ := ha
  obtain ⟨input', htokens', hsettles'⟩ := hb
  rw [htokens] at htokens'
  cases htokens'
  cases hsettles.unique hsettles'
  rfl

/-! ## Values -/

/-- What an engine computes with. A truth value may be used as a value. -/
structure Engine (Value : Type) where
  isNull : Value → Bool
  ofTruth : Truth → Value
  truth : Value → Truth
  ofNumber : Nat → Value
  ofText : List Char → Value
  compare : Comparison → Value → Value → Truth
  like : Value → Value → Option (List Char) → Truth
  truth_ofTruth : ∀ value, truth (ofTruth value) = value
  number_equal : ∀ a b, compare .equal (ofNumber a) (ofNumber b) = some (a == b)
  truth_equal : ∀ a b, compare .equal (ofTruth (some a)) (ofTruth (some b)) = some (a == b)

section Values

variable {Value : Type} (engine : Engine Value)
  (row : List (List Char) → Value) (parameter : Nat → Value)

mutual

/-- The value of an expression, names and parameters given. -/
def Expression.eval : Expression → Value
  | .field segments => row segments
  | .placeholder index => parameter index
  | .number value => engine.ofNumber value
  | .text characters => engine.ofText characters
  | .compare comparison left right =>
    engine.ofTruth (engine.compare comparison left.eval right.eval)
  | .like left right escape =>
    engine.ofTruth (engine.like left.eval right.eval escape)
  | .isNull operand => engine.ofTruth (some (engine.isNull operand.eval))
  | .isNotNull operand =>
    engine.ofTruth (some !(engine.isNull operand.eval))
  | .inList operand items => engine.ofTruth (Truth.any
      ((evalItems items).map (engine.compare .equal operand.eval)))
  | .notInList operand items => engine.ofTruth (Truth.not (Truth.any
      ((evalItems items).map (engine.compare .equal operand.eval))))
  | .not operand => engine.ofTruth (Truth.not (engine.truth operand.eval))
  | .and left right => engine.ofTruth (Truth.and (engine.truth left.eval) (engine.truth right.eval))
  | .or left right => engine.ofTruth (Truth.or (engine.truth left.eval) (engine.truth right.eval))

/-- The values of a list behind `IN`. -/
def evalItems : List Expression → List Value
  | [] => []
  | item :: rest => item.eval :: evalItems rest

end

end Values

end AsynGyanis.Library.Sql
