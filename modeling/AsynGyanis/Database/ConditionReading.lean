import AsynGyanis.Database.ConditionTokens
import AsynGyanis.Library.SqlDescent

/-!
# Reading rendered conditions

What SQL makes of the text that `appendCondition` writes. A condition is
written as a group in parentheses, behind `NOT`, or as a test on a column,
and none of the three has an `AND` or an `OR` outside of parentheses: it is
read by `readNot`, whatever group it stands in. The expression that is read
follows the tree, but for a set without values: there the list behind the
key word is a comparison of two constants, a list of one truth value.
-/

namespace AsynGyanis.Database

open Library Library.Sql List

/-! ## Expression of a tree -/

def fieldExpression (name : List Char) : Expression := .field (dotSegments name)

def placeholders (index : Nat) : List ParameterValue → List Expression
  | [] => []
  | _ :: rest => .placeholder index :: placeholders (index + 1) rest

/-- `1 = 0` where a list was to stand is a list of one value. -/
def membershipItems (index : Nat) (op : SqlOperator)
    (inValues : List ParameterValue) : List Expression :=
  if inValues.isEmpty then
    [.compare .equal (.number 1) (.number (if op = .isIn then 0 else 1))]
  else placeholders index inValues

def rightExpression (index : Nat) : RightOperand → Expression
  | .field reference => fieldExpression reference.name
  | .parameter _ => .placeholder index

/-- The pattern that `likeLiteral` writes escapes with an exclamation
mark. -/
def escapeOf (op : SqlOperator) : Option (List Char) :=
  if op = .likeLiteral then some ['!'] else none

def comparisonExpression (op : SqlOperator) (left right : Expression) :
    Expression :=
  match comparisonOf op with
  | some comparison => .compare comparison left right
  | none => .like left right (escapeOf op)

/-- A chain, bracketed to the left. -/
def chainExpression (join : Expression → Expression → Expression) : List Expression → Expression
  | [] => .number 0
  | first :: rest => rest.foldl join first

mutual

def conditionExpression (index : Nat) : WhereCondition → Expression
  | .mk left op right inValues children =>
    match op with
    | .and =>
      if children.isEmpty then .compare .equal (.number 1) (.number 1)
      else chainExpression .and (childExpressions index children)
    | .or =>
      if children.isEmpty then .compare .equal (.number 1) (.number 0)
      else chainExpression .or (childExpressions index children)
    | .not =>
      if children.isEmpty then
        .not (.compare .equal (.number 1) (.number 1))
      else .not (chainExpression .and (childExpressions index children))
    | .isNull => .isNull (fieldExpression left.name)
    | .isNotNull => .isNotNull (fieldExpression left.name)
    | .isIn => .inList (fieldExpression left.name) (membershipItems index .isIn inValues)
    | .notIn => .notInList (fieldExpression left.name) (membershipItems index .notIn inValues)
    | .eq | .neq | .gt | .ge | .lt | .le | .like | .likeLiteral =>
      comparisonExpression op (fieldExpression left.name) (rightExpression index right)

def childExpressions (index : Nat) : List WhereCondition → List Expression
  | [] => []
  | child :: rest => conditionExpression index child ::
      childExpressions (index + (conditionParameters child).length) rest

end

/-! ## Operands -/

variable {rest : List Token}

theorem readSegments_segmentTokens (segments : List (List Char)) (hrest : rest.head? ≠ some .dot) :
    readSegments (segmentTokens segments ++ rest) = (segments, rest) := by
  induction segments with
  | nil =>
    rw [segmentTokens, nil_append, readSegments]
    intro segment tail heq
    rw [heq] at hrest
    exact hrest rfl
  | cons segment segments ih =>
    rw [segmentTokens, cons_append, cons_append, readSegments, ih]

theorem fieldTokens_reads (name : List Char) (hrest : rest.head? ≠ some .dot) :
    Reads readPrimary (fieldTokens name ++ rest) (fieldExpression name)
      rest := by
  rw [fieldTokens, fieldExpression]
  cases hsegments : dotSegments name with
  | nil => exact absurd hsegments (dotSegments_ne_nil name)
  | cons segment segments =>
    have hread : Reads readPrimary (.name segment :: (segmentTokens segments ++ rest)) _ _ :=
      reads_name segment
    rw [readSegments_segmentTokens segments hrest] at hread
    exact hread

theorem fieldTokens_head (name : List Char) (rest : List Token) :
    (fieldTokens name ++ rest).head? ≠ some wordNot := by
  rw [fieldTokens]
  cases hsegments : dotSegments name with
  | nil => exact absurd hsegments (dotSegments_ne_nil name)
  | cons segment segments => rintro ⟨⟩

theorem constant_reads (left right : Nat) (hrest : Stops rest) :
    Reads readNot (.number left :: .comparison .equal :: .number right :: rest)
      (.compare .equal (.number left) (.number right)) rest := by
  refine reads_predicate nofun (reads_test (reads_number left) ?_)
  exact readsTest_comparison .equal (reads_number right)

theorem constantTokens_reads (left right : Nat) (hrest : Stops rest) :
    Reads readNot (constantTokens left right ++ rest)
      (.compare .equal (.number left) (.number right)) rest := by
  have hinner : Reads readNot (.number left :: .comparison .equal ::
      .number right :: .rightParenthesis :: rest) _ (.rightParenthesis :: rest) :=
    constant_reads left right (.inr (.inr (.inl rfl)))
  exact reads_predicate nofun (reads_operand (reads_group (reads_item hinner (.inl rfl))) hrest)

/-! ## Tests on a column -/

theorem valueTokens_reads (index : Nat) {values : List ParameterValue}
    (hne : values ≠ []) (rest : List Token) :
    Reads readItems (valueTokens index values ++ .rightParenthesis :: rest)
      (placeholders index values) rest := by
  have hplaceholder : ∀ (place : Nat) (more : List Token), Ends more →
      Reads readOr (.placeholder place :: more) (.placeholder place) more :=
    fun place more hmore => reads_item (reads_predicate nofun
      (reads_operand (reads_placeholder place) (.inr (.inr hmore)))) hmore
  induction values generalizing index with
  | nil => exact absurd rfl hne
  | cons value values ih =>
    cases values with
    | nil =>
      exact readsItems_last (hplaceholder index _ (.inl rfl))
    | cons next values =>
      exact readsItems_cons (hplaceholder index _ (.inr rfl)) (ih (index + 1) nofun)

theorem membershipList_reads (index : Nat) (op : SqlOperator)
    (inValues : List ParameterValue) (rest : List Token) :
    Reads readList
      ((if inValues.isEmpty then constantTokens 1 (if op = .isIn then 0 else 1)
        else .leftParenthesis :: valueTokens index inValues ++ [.rightParenthesis]) ++ rest)
      (membershipItems index op inValues) rest := by
  cases inValues with
  | nil =>
    refine reads_list (readsItems_last ?_)
    exact reads_item (constant_reads 1 _ (.inr (.inr (.inl rfl)))) (.inl rfl)
  | cons value values =>
    have hread := reads_list (valueTokens_reads index (cons_ne_nil value values) rest)
    show Reads readList ((_ ++ [_]) ++ rest) _ _
    rw [append_assoc]
    exact hread

theorem rightTokens_reads (index : Nat) (right : RightOperand) (hrest : rest.head? ≠ some .dot) :
    Reads readPrimary (rightTokens index right ++ rest) (rightExpression index right) rest := by
  cases right with
  | field reference => exact fieldTokens_reads reference.name hrest
  | parameter value => exact reads_placeholder index

/-- The operator of a comparison, its right operand, and for a literal
pattern the escape. -/
theorem comparison_reads (index : Nat) {op : SqlOperator}
    (left : Expression) (right : RightOperand) (hrest : Stops rest) :
    ReadsTest left (operatorToken op :: (rightTokens index right ++ escapeTokens op) ++ rest)
      (comparisonExpression op left (rightExpression index right)) rest := by
  rw [cons_append, append_assoc, operatorToken, comparisonExpression]
  have hescape : (escapeTokens op ++ rest).head? ≠ some .dot := by
    rw [escapeTokens]
    split
    · rintro ⟨⟩
    · exact hrest.head_ne_dot
  have hright := rightTokens_reads index right hescape
  cases hop : comparisonOf op with
  | some comparison =>
    have hnone : escapeTokens op = [] := if_neg fun heq => by
      rw [heq] at hop
      cases hop
    rw [hnone] at hright ⊢
    exact readsTest_comparison comparison hright
  | none =>
    have hlike : ReadsTest left (wordLike :: _) _ _ := readsTest_like hright
    have hread : readEscape (escapeTokens op ++ rest) = (escapeOf op, rest) := by
      rw [escapeTokens, escapeOf]
      split
      · rfl
      · exact readEscape_stop hrest
    rw [hread] at hlike
    exact hlike

/-! ## Groups -/

/-- The condition is read in front of everything that stops a test. -/
def ReadsBack (condition : WhereCondition) : Prop :=
  ∀ (index : Nat) (rest : List Token), Stops rest →
    Reads readNot (conditionTokens index condition ++ rest)
      (conditionExpression index condition) rest

/-- The children behind the first, each behind a separator. -/
def tailTokens (separator : Token) (index : Nat) : List WhereCondition → List Token
  | [] => []
  | child :: rest =>
    separator :: (conditionTokens index child ++
      tailTokens separator (index + (conditionParameters child).length) rest)

theorem joinedTokens_cons (separator : Token) (index : Nat)
    (child : WhereCondition) (rest : List WhereCondition) :
    joinedTokens separator index (child :: rest) = conditionTokens index child ++
        tailTokens separator (index + (conditionParameters child).length)
          rest := by
  induction rest generalizing index child with
  | nil => rw [joinedTokens, tailTokens, append_nil]
  | cons next rest ih =>
    rw [joinedTokens, tailTokens, ih]

section Chain

variable {word : List Char} {join : Expression → Expression → Expression}
  {reader : Nat → List Token → Reading Expression}
  {chain : Nat → Expression → List Token → Reading Expression}

theorem tailTokens_stops (hword : Token.word word = wordAnd ∨
      Token.word word = wordOr) (index : Nat)
    (children : List WhereCondition) {rest : List Token} (hrest : Ends rest) :
    Stops (tailTokens (.word word) index children ++ rest) ∧
      ((tailTokens (.word word) index children ++ rest).head? = some (.word word) ∨
        Ends (tailTokens (.word word) index children ++ rest)) := by
  cases children with
  | nil => exact ⟨.inr (.inr hrest), .inr hrest⟩
  | cons child children =>
    refine ⟨?_, .inl rfl⟩
    rcases hword with h | h
    · exact .inl (congrArg some h)
    · exact .inr (.inl (congrArg some h))

theorem tailTokens_reads (hchain : IsChain (.word word) join reader chain)
    (hword : Token.word word = wordAnd ∨ Token.word word = wordOr)
    (hoperand : ∀ {input operand rest}, Reads readNot input operand rest →
      rest.head? = some (.word word) ∨ Ends rest →
      Reads reader input operand rest)
    {children : List WhereCondition}
    (hchildren : ∀ child ∈ children, ReadsBack child) (index : Nat)
    (left : Expression) {rest : List Token} (hrest : Ends rest) :
    ReadsChain chain left (tailTokens (.word word) index children ++ rest)
      ((childExpressions index children).foldl join left) rest := by
  induction children generalizing index left with
  | nil => exact hchain.readsNone hrest.head_ne
  | cons child children ih =>
    rw [tailTokens, childExpressions, foldl_cons, cons_append, append_assoc]
    have hstops := tailTokens_stops hword
      (index + (conditionParameters child).length) children hrest
    refine hchain.readsNext (hoperand (hchildren child mem_cons_self
      index _ hstops.1) hstops.2) ?_
    exact ih (fun next hmem => hchildren next (mem_cons_of_mem _ hmem))
      _ _

end Chain

theorem andTokens_read {children : List WhereCondition}
    (hne : children ≠ []) (hchildren : ∀ child ∈ children, ReadsBack child)
    (index : Nat) (hrest : Ends rest) :
    Reads readOr (joinedTokens wordAnd index children ++ rest)
      (chainExpression .and (childExpressions index children)) rest := by
  cases children with
  | nil => exact absurd rfl hne
  | cons child children =>
    rw [joinedTokens_cons, append_assoc]
    have hstops := tailTokens_stops (.inl rfl)
      (index + (conditionParameters child).length) children hrest
    refine reads_or_one (reads_and (hchildren child mem_cons_self index
      _ hstops.1) ?_) hrest.head_ne
    exact tailTokens_reads andChain (.inl rfl) (fun h _ => h)
      (fun next hmem => hchildren next (mem_cons_of_mem _ hmem)) _ _
      hrest

theorem orTokens_read {children : List WhereCondition}
    (hne : children ≠ []) (hchildren : ∀ child ∈ children, ReadsBack child)
    (index : Nat) (hrest : Ends rest) :
    Reads readOr (joinedTokens wordOr index children ++ rest)
      (chainExpression .or (childExpressions index children)) rest := by
  have hsingle : ∀ {input operand rest}, Reads readNot input operand rest →
      rest.head? = some wordOr ∨ Ends rest →
      Reads readAnd input operand rest := by
    intro input operand rest h hend
    refine reads_and_one h ?_
    rcases hend with hend | hend
    · rw [hend]
      exact nofun
    · exact hend.head_ne
  cases children with
  | nil => exact absurd rfl hne
  | cons child children =>
    rw [joinedTokens_cons, append_assoc]
    have hstops := tailTokens_stops (.inr rfl)
      (index + (conditionParameters child).length) children hrest
    refine reads_or (hsingle (hchildren child mem_cons_self index
      _ hstops.1) hstops.2) ?_
    exact tailTokens_reads orChain (.inr rfl) hsingle
      (fun next hmem => hchildren next (mem_cons_of_mem _ hmem)) _ _
      hrest

theorem group_reads {input : List Token} {inner : Expression}
    (h : Reads readOr (input ++ .rightParenthesis :: rest) inner
      (.rightParenthesis :: rest)) (hrest : Stops rest) :
    Reads readNot (.leftParenthesis :: input ++ [.rightParenthesis] ++ rest) inner
      rest := by
  rw [append_assoc]
  exact reads_predicate nofun (reads_operand (reads_group h) hrest)

/-! ## The tree -/

theorem columnTest_reads {name : List Char} {test : List Token}
    {value : Expression} (hdot : (test ++ rest).head? ≠ some .dot)
    (h : ReadsTest (fieldExpression name) (test ++ rest) value rest) :
    Reads readNot (fieldTokens name ++ test ++ rest) value rest := by
  rw [append_assoc]
  exact reads_predicate (fieldTokens_head name _) (reads_test (fieldTokens_reads name hdot) h)

theorem operatorToken_ne_dot (op : SqlOperator) : some (operatorToken op) ≠ some .dot := by
  cases op <;> decide

theorem readsBack (condition : WhereCondition) : ReadsBack condition := by
  induction condition using WhereCondition.induction with
  | h left op right inValues children hchildren =>
    intro index rest hrest
    cases op with
    | and =>
      cases children with
      | nil => exact constantTokens_reads 1 1 hrest
      | cons child children =>
        exact group_reads
          (andTokens_read (cons_ne_nil child children) hchildren index (.inl rfl)) hrest
    | or =>
      cases children with
      | nil => exact constantTokens_reads 1 0 hrest
      | cons child children =>
        exact group_reads
          (orTokens_read (cons_ne_nil child children) hchildren index (.inl rfl)) hrest
    | not =>
      cases children with
      | nil => exact reads_not (constantTokens_reads 1 1 hrest)
      | cons child children =>
        exact reads_not (group_reads
          (andTokens_read (cons_ne_nil child children) hchildren index (.inl rfl)) hrest)
    | isNull =>
      exact columnTest_reads nofun readsTest_isNull
    | isNotNull =>
      exact columnTest_reads nofun readsTest_isNotNull
    | isIn =>
      refine columnTest_reads nofun (readsTest_in ?_)
      exact membershipList_reads index .isIn inValues rest
    | notIn =>
      refine columnTest_reads nofun (readsTest_notIn ?_)
      exact membershipList_reads index .notIn inValues rest
    | eq | neq | gt | ge | lt | le | like | likeLiteral =>
      exact columnTest_reads (operatorToken_ne_dot _) (comparison_reads index _ right hrest)

end AsynGyanis.Database
