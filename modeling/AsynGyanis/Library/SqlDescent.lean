import AsynGyanis.Library.SqlText

/-!
# The rules of the descent

What a reader makes of a list of tokens, as rules without fuel: a reader
reads a value from the front of its input and leaves the rest if it does so
from some fuel on. There is a rule for each form of an operand and of a
test, and one about chains, which `AND` and `OR` share.
-/

namespace AsynGyanis.Library.Sql

open Library Settles

-- Ten mutually recursive readers: their equations are derived here, once.
attribute [local simp] readPrimary readPredicate readTest readNot readAnd
  readAndChain readOr readOrChain readItems readList

/-- The reader takes this value from the front of the input and leaves the
rest. -/
def Reads {α : Type} (reader : Nat → List Token → Reading α)
    (input : List Token) (value : α) (rest : List Token) : Prop :=
  Settles (fun fuel => reader fuel input) (some (value, rest))

/-- Tokens in front of which a list or a group ends. -/
def Ends : List Token → Prop
  | [] => True
  | first :: _ => first = .rightParenthesis ∨ first = .comma

/-- Tokens that no test begins with. -/
def Stops (rest : List Token) : Prop :=
  rest.head? = some wordAnd ∨ rest.head? = some wordOr ∨ Ends rest

theorem Ends.head_ne {rest : List Token} (h : Ends rest)
    {word : List Char} : rest.head? ≠ some (.word word) := by
  cases rest with
  | nil => exact nofun
  | cons first rest =>
    intro heq
    cases heq
    rcases h with h | h <;> exact nomatch h

theorem Stops.head_ne_dot {rest : List Token} (h : Stops rest) : rest.head? ≠ some .dot := by
  cases rest with
  | nil => exact nofun
  | cons first rest =>
    intro heq
    cases heq
    rcases h with h | h | h | h <;> exact nomatch h

theorem readEscape_stop {rest : List Token} (h : Stops rest) : readEscape rest = (none, rest) := by
  cases rest with
  | nil => rfl
  | cons first rest =>
    rcases h with h | h | h | h <;> cases h <;> rfl

/-! ## Operands -/

section Operands

variable {rest : List Token}

theorem reads_placeholder (index : Nat) :
    Reads readPrimary (.placeholder index :: rest) (.placeholder index)
      rest := (const ()).step fun _ _ => by simp

theorem reads_number (value : Nat) :
    Reads readPrimary (.number value :: rest) (.number value) rest :=
  (const ()).step fun _ _ => by simp

theorem reads_name (segment : List Char) : Reads readPrimary (.name segment :: rest)
      (.field (segment :: (readSegments rest).1)) (readSegments rest).2 :=
  (const ()).step fun _ _ => by simp

theorem reads_group {input : List Token} {inner : Expression}
    (h : Reads readOr input inner (.rightParenthesis :: rest)) :
    Reads readPrimary (.leftParenthesis :: input) inner rest :=
  h.step fun fuel hread => by
    rw [readPrimary, hread]
    rfl

end Operands

/-! ## Tests -/

variable {middle : List Token} {value : Expression}

section Tests

variable {left right : Expression} {input rest : List Token}

/-- A test on `left`: how the reader goes on behind it. -/
def ReadsTest (left : Expression) (input : List Token)
    (value : Expression) (rest : List Token) : Prop :=
  Settles (fun fuel => readTest fuel left input) (some (value, rest))

theorem reads_test (h : Reads readPrimary input left middle)
    (htest : ReadsTest left middle value rest) : Reads readPredicate input value rest :=
  h.stepPair htest fun fuel hread hvalue => by
    rw [readPredicate, hread]
    exact hvalue

theorem readsTest_none (h : Stops rest) : ReadsTest left rest left rest :=
  (const ()).step fun fuel _ => by
    cases rest with
    | nil => rfl
    | cons first rest =>
      rcases h with h | h | h | h
      · cases h
        rfl
      · cases h
        rfl
      · cases h
        rfl
      · cases h
        rfl

theorem readsTest_comparison (comparison : Comparison) (h : Reads readPrimary input right rest) :
    ReadsTest left (.comparison comparison :: input) (.compare comparison left right) rest :=
  h.step fun fuel hread => by
    rw [readTest, hread]
    rfl

theorem readsTest_like (h : Reads readPrimary input right rest) : ReadsTest left (wordLike :: input)
      (.like left right (readEscape rest).1) (readEscape rest).2 :=
  h.step fun fuel hread => by
    rw [wordLike, readTest, if_pos rfl, hread]
    rfl

theorem readsTest_isNull : ReadsTest left (wordIs :: wordNull :: rest) (.isNull left) rest :=
  (const ()).step fun fuel _ => by
    rfl

theorem readsTest_isNotNull : ReadsTest left (wordIs :: wordNot :: wordNull :: rest)
      (.isNotNull left) rest :=
  (const ()).step fun fuel _ => by
    rfl

theorem readsTest_in {items : List Expression} (h : Reads readList input items rest) :
    ReadsTest left (wordIn :: input) (.inList left items) rest :=
  h.step fun fuel hread => by
    rw [wordIn, readTest, if_neg (by decide), if_neg (by decide), if_pos rfl, hread]
    rfl

theorem readsTest_notIn {items : List Expression} (h : Reads readList input items rest) :
    ReadsTest left (wordNot :: wordIn :: input) (.notInList left items)
      rest :=
  h.step fun fuel hread => by
    show Option.map _ (readList fuel input) = _
    rw [hread]
    rfl

theorem reads_operand (h : Reads readPrimary input left rest)
    (hrest : Stops rest) : Reads readPredicate input left rest :=
  reads_test h (readsTest_none hrest)

end Tests

/-! ## Operators -/

section Operators

variable {operand : Expression} {input rest : List Token}

theorem reads_predicate (hnot : input.head? ≠ some wordNot)
    (h : Reads readPredicate input operand rest) : Reads readNot input operand rest :=
  h.step fun fuel hread => by
    rw [readNot, if_neg hnot, hread]

theorem reads_not (h : Reads readNot input operand rest) :
    Reads readNot (wordNot :: input) (.not operand) rest :=
  h.step fun fuel hread => by
    rw [readNot, List.head?_cons, if_pos rfl, List.tail_cons, hread]
    rfl

/-- How a chain of operands goes on: it takes the operands behind its
separator for as long as there is one. -/
structure IsChain (separator : Token)
    (join : Expression → Expression → Expression)
    (reader : Nat → List Token → Reading Expression)
    (chain : Nat → Expression → List Token → Reading Expression) : Prop where
  stop : ∀ fuel left input, input.head? ≠ some separator →
    chain (fuel + 1) left input = some (left, input)
  step : ∀ fuel left input, chain (fuel + 1) left (separator :: input) =
    (reader fuel input).bind fun (right, rest) =>
      chain fuel (join left right) rest

theorem andChain : IsChain wordAnd .and readNot readAndChain where
  stop fuel left input h := by rw [readAndChain, if_neg h]
  step fuel left input := by
    rw [readAndChain, List.head?_cons, if_pos rfl, List.tail_cons]

theorem orChain : IsChain wordOr .or readAnd readOrChain where
  stop fuel left input h := by rw [readOrChain, if_neg h]
  step fuel left input := by
    rw [readOrChain, List.head?_cons, if_pos rfl, List.tail_cons]

/-- From `left` on, the chain reads on up to the rest. -/
def ReadsChain (chain : Nat → Expression → List Token → Reading Expression)
    (left : Expression) (input : List Token) (value : Expression)
    (rest : List Token) : Prop :=
  Settles (fun fuel => chain fuel left input) (some (value, rest))

variable {left : Expression}

namespace IsChain

variable {separator : Token} {join : Expression → Expression → Expression}
  {reader : Nat → List Token → Reading Expression}
  {chain : Nat → Expression → List Token → Reading Expression}

theorem readsNone (h : IsChain separator join reader chain)
    (hrest : rest.head? ≠ some separator) : ReadsChain chain left rest left rest :=
  (const ()).step fun fuel _ => h.stop fuel left rest hrest

theorem readsNext (h : IsChain separator join reader chain) {right : Expression}
    (hright : Reads reader input right middle)
    (hchain : ReadsChain chain (join left right) middle value rest) :
    ReadsChain chain left (separator :: input) value rest :=
  hright.stepPair hchain fun fuel hread hvalue => by
    rw [h.step, hread]
    exact hvalue

end IsChain

theorem reads_and (h : Reads readNot input left middle)
    (hchain : ReadsChain readAndChain left middle value rest) : Reads readAnd input value rest :=
  h.stepPair hchain fun fuel hread hvalue => by
    rw [readAnd, hread]
    exact hvalue

theorem reads_or (h : Reads readAnd input left middle)
    (hchain : ReadsChain readOrChain left middle value rest) : Reads readOr input value rest :=
  h.stepPair hchain fun fuel hread hvalue => by
    rw [readOr, hread]
    exact hvalue

theorem reads_and_one (h : Reads readNot input operand rest) (hrest : rest.head? ≠ some wordAnd) :
    Reads readAnd input operand rest := reads_and h (andChain.readsNone hrest)

theorem reads_or_one (h : Reads readAnd input operand rest)
    (hrest : rest.head? ≠ some wordOr) : Reads readOr input operand rest :=
  reads_or h (orChain.readsNone hrest)

theorem reads_item (h : Reads readNot input operand rest)
    (hrest : Ends rest) : Reads readOr input operand rest :=
  reads_or_one (reads_and_one h hrest.head_ne) hrest.head_ne

end Operators

/-! ## Lists -/

section Lists

variable {item : Expression} {items : List Expression}
  {input rest : List Token}

theorem readsItems_last (h : Reads readOr input item (.rightParenthesis :: rest)) :
    Reads readItems input [item] rest :=
  h.step fun fuel hread => by
    rw [readItems, hread]
    rfl

theorem readsItems_cons {more : List Token} (h : Reads readOr input item (.comma :: more))
    (hmore : Reads readItems more items rest) : Reads readItems input (item :: items) rest :=
  h.stepPair hmore fun fuel hread hitems => by
    rw [readItems, hread]
    show Option.map _ (readItems fuel more) = _
    rw [hitems]
    rfl

theorem reads_list (h : Reads readItems input items rest) :
    Reads readList (.leftParenthesis :: input) items rest :=
  h.step fun fuel hread => by
    rw [readList, List.head?_cons, if_pos rfl, List.tail_cons, hread]

end Lists

end AsynGyanis.Library.Sql
