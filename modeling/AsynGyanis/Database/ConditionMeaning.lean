import AsynGyanis.Database.ConditionReading

/-!
# What a rendered condition selects

A condition tree has a truth value on a row of its own: groups are
conjunctions and disjunctions, a set without values has no member. The text
of a tree in which every set has values is true of exactly the rows that the
tree is true of. A set without values is rendered behind the column and the
key word, so its text asks whether the column equals a truth value: no
engine leaves both of its forms the rows they should have, and a clause that
holds one selects, updates or deletes other rows.
-/

namespace AsynGyanis.Database

open Library Library.Sql List Truth

/-! ## Parts of a tree -/

def SqlOperator.IsGroup (op : SqlOperator) : Prop := op = .and ∨ op = .or ∨ op = .not

/-- The conditions that are rendered on the way to a tree: the tree itself,
and the parts of the children of a group. -/
inductive WhereCondition.IsPartOf : WhereCondition → WhereCondition → Prop
  | self (condition : WhereCondition) : IsPartOf condition condition
  | child {part child : WhereCondition} {left : FieldReference}
      {op : SqlOperator} {right : RightOperand}
      {inValues : List ParameterValue} {children : List WhereCondition}
      (hgroup : op.IsGroup) (hmem : child ∈ children)
      (hpart : IsPartOf part child) :
      IsPartOf part (.mk left op right inValues children)

variable {condition : WhereCondition}

theorem WhereCondition.IsPartOf.trans {inner part : WhereCondition}
    (h : inner.IsPartOf part) (hpart : part.IsPartOf condition) : inner.IsPartOf condition := by
  induction hpart with
  | self => exact h
  | child hgroup hmem hpart ih => exact .child hgroup hmem ih

/-- `IN` or `NOT IN` over no values. -/
def WhereCondition.IsEmptySet : WhereCondition → Prop
  | .mk _ op _ inValues _ => (op = .isIn ∨ op = .notIn) ∧ inValues = []

variable {children : List WhereCondition}

theorem childrenOverColumns_iff {quote : Char} :
    childrenOverColumns quote children ↔ ∀ child ∈ children, child.IsOverColumns quote := by
  induction children with
  | nil => exact ⟨fun _ => nofun, fun _ => trivial⟩
  | cons child rest ih =>
    rw [childrenOverColumns, ih, forall_mem_cons]

theorem WhereCondition.IsPartOf.isOverColumns {quote : Char}
    {part : WhereCondition} (hpart : part.IsPartOf condition)
    (h : condition.IsOverColumns quote) : part.IsOverColumns quote := by
  induction hpart with
  | self => exact h
  | child hgroup hmem hpart ih =>
    refine ih (childrenOverColumns_iff.mp ?_ _ hmem)
    rcases hgroup with rfl | rfl | rfl <;> exact h

/-! ## Truth of a tree -/

section Meaning

variable {Value : Type} (engine : Sql.Engine Value)
  (ofValue : DatabaseValue → Value) (row : List (List Char) → Value)

def column (reference : FieldReference) : Value := row (dotSegments reference.name)

def rightMeaning : RightOperand → Value
  | .field reference => column row reference
  | .parameter value => ofValue (convertParameter value)

/-- Membership is equality with some member. -/
def isMember (value : Value) (inValues : List ParameterValue) : Truth :=
  any (inValues.map fun candidate =>
    engine.compare .equal value (ofValue (convertParameter candidate)))

mutual

/-- The truth of a tree on a row. -/
def meaning : WhereCondition → Truth
  | .mk left op right inValues children =>
    match op with
    | .and => all (childMeanings children)
    | .or => any (childMeanings children)
    | .not => not (all (childMeanings children))
    | .isNull => some (engine.isNull (column row left))
    | .isNotNull => some !(engine.isNull (column row left))
    | .isIn => isMember engine ofValue (column row left) inValues
    | .notIn => not (isMember engine ofValue (column row left) inValues)
    | .eq | .neq | .gt | .ge | .lt | .le | .like | .likeLiteral =>
      match comparisonOf op with
      | some comparison => engine.compare comparison (column row left)
          (rightMeaning ofValue row right)
      | none => engine.like (column row left) (rightMeaning ofValue row right) (escapeOf op)

def childMeanings : List WhereCondition → List Truth
  | [] => []
  | child :: rest => meaning child :: childMeanings rest

end

theorem childMeanings_eq (children : List WhereCondition) :
    childMeanings engine ofValue row children = children.map (meaning engine ofValue row) := by
  induction children with
  | nil => rfl
  | cons child rest ih => rw [childMeanings, ih, map_cons]

/-- The parameters of a statement, bound in the order of their places. -/
def bound (parameters : List DatabaseValue) (index : Nat) : Value :=
  ofValue (parameters.getD index .monostate)

/-! ## What is read means the tree -/

/-- From `index` on, the places hold these parameters. -/
def Binds (parameter : Nat → Value) (index : Nat) (parameters : List DatabaseValue) : Prop :=
  ∀ offset value, parameters[offset]? = some value → parameter (index + offset) = ofValue value

variable {engine ofValue row} {parameter : Nat → Value}

theorem Binds.append {index : Nat} {first rest : List DatabaseValue}
    (h : Binds ofValue parameter index (first ++ rest)) :
    Binds ofValue parameter index first ∧ Binds ofValue parameter (index + first.length) rest := by
  constructor
  · intro offset value hvalue
    refine h offset value ?_
    have hlt := (List.getElem?_eq_some_iff.mp hvalue).1
    rw [getElem?_append_left hlt, hvalue]
  intro offset value hvalue
  rw [add_assoc]
  refine h _ value ?_
  rw [getElem?_append_right (Nat.le_add_right _ _), Nat.add_sub_cancel_left, hvalue]

theorem Binds.head {index : Nat} {value : DatabaseValue} {rest : List DatabaseValue}
    (h : Binds ofValue parameter index (value :: rest)) :
    parameter index = ofValue value ∧ Binds ofValue parameter (index + 1) rest := by
  refine ⟨h 0 value rfl, fun offset other hother => ?_⟩
  rw [add_assoc, add_comm 1]
  exact h (offset + 1) other hother

theorem bound_binds (before pushed : List DatabaseValue) :
    Binds ofValue (bound ofValue (before ++ pushed)) before.length pushed := by
  intro offset value hvalue
  rw [bound, getD_eq_getElem?_getD, getElem?_append_right (Nat.le_add_right _ _),
    Nat.add_sub_cancel_left, hvalue]
  rfl

variable (engine row parameter) in
/-- The truth value of what has been read. -/
def truthOf (expression : Expression) : Truth := engine.truth (expression.eval engine row parameter)

theorem placeholders_eval (index : Nat) (value : Value) {inValues : List ParameterValue}
    (h : Binds ofValue parameter index (inValues.map convertParameter)) :
    (evalItems engine row parameter (placeholders index inValues)).map
        (engine.compare .equal value) =
      inValues.map fun candidate =>
        engine.compare .equal value (ofValue (convertParameter candidate)) := by
  induction inValues generalizing index with
  | nil => rfl
  | cons candidate rest ih =>
    have hhead := h.head
    rw [placeholders, evalItems, map_cons, map_cons, ih _ hhead.2, Expression.eval, hhead.1]

theorem rightExpression_eval (index : Nat) {right : RightOperand}
    (h : Binds ofValue parameter index (rightParameters right)) :
    (rightExpression index right).eval engine row parameter = rightMeaning ofValue row right := by
  cases right with
  | field reference => rfl
  | parameter value => exact h.head.1

theorem comparisonExpression_truth (op : SqlOperator) (left right : Expression) :
    truthOf engine row parameter (comparisonExpression op left right) =
      match comparisonOf op with
      | some comparison => engine.compare comparison
          (left.eval engine row parameter) (right.eval engine row parameter)
      | none => engine.like (left.eval engine row parameter)
          (right.eval engine row parameter) (escapeOf op) := by
  rw [comparisonExpression]
  cases comparisonOf op with
  | some comparison => exact engine.truth_ofTruth _
  | none => exact engine.truth_ofTruth _

theorem constant_truth (left right : Nat) : truthOf engine row parameter
        (.compare .equal (.number left) (.number right)) =
      some (left == right) := by
  rw [truthOf, Expression.eval, engine.truth_ofTruth]
  exact engine.number_equal left right

theorem andChain_truth (first : Expression) (rest : List Expression) :
    truthOf engine row parameter (rest.foldl .and first) =
      Truth.all ((first :: rest).map (truthOf engine row parameter)) := by
  rw [map_cons, ← foldl_and]
  induction rest generalizing first with
  | nil => rfl
  | cons next rest ih =>
    rw [foldl_cons, ih, map_cons, foldl_cons]
    congr 1
    exact engine.truth_ofTruth _

theorem orChain_truth (first : Expression) (rest : List Expression) :
    truthOf engine row parameter (rest.foldl .or first) =
      Truth.any ((first :: rest).map (truthOf engine row parameter)) := by
  rw [map_cons, ← foldl_or]
  induction rest generalizing first with
  | nil => rfl
  | cons next rest ih =>
    rw [foldl_cons, ih, map_cons, foldl_cons]
    congr 1
    exact engine.truth_ofTruth _

variable (engine ofValue row parameter) in
/-- What is read from a condition has the truth of the condition. -/
def MeansItself (condition : WhereCondition) : Prop :=
  ∀ index, Binds ofValue parameter index (conditionParameters condition) →
    truthOf engine row parameter (conditionExpression index condition) =
      meaning engine ofValue row condition

theorem childExpressions_truth
    (hchildren : ∀ child ∈ children, MeansItself engine ofValue row parameter child) (index : Nat)
    (hbinds : Binds ofValue parameter index (childrenParameters children)) :
    (childExpressions index children).map (truthOf engine row parameter) =
      childMeanings engine ofValue row children := by
  induction children generalizing index with
  | nil => rfl
  | cons child rest ih =>
    have hsplit := Binds.append hbinds
    rw [childExpressions, map_cons, childMeanings, hchildren child mem_cons_self index hsplit.1,
      ih (fun next hmem => hchildren next (mem_cons_of_mem _ hmem)) _ hsplit.2]

theorem andExpression_truth (hne : children ≠ [])
    (hchildren : ∀ child ∈ children, MeansItself engine ofValue row parameter child) (index : Nat)
    (hbinds : Binds ofValue parameter index (childrenParameters children)) :
    truthOf engine row parameter (chainExpression .and (childExpressions index children)) =
      Truth.all (childMeanings engine ofValue row children) := by
  rw [← childExpressions_truth hchildren index hbinds]
  cases children with
  | nil => exact absurd rfl hne
  | cons child rest => exact andChain_truth _ _

theorem orExpression_truth (hne : children ≠ [])
    (hchildren : ∀ child ∈ children, MeansItself engine ofValue row parameter child) (index : Nat)
    (hbinds : Binds ofValue parameter index (childrenParameters children)) :
    truthOf engine row parameter (chainExpression .or (childExpressions index children)) =
      Truth.any (childMeanings engine ofValue row children) := by
  rw [← childExpressions_truth hchildren index hbinds]
  cases children with
  | nil => exact absurd rfl hne
  | cons child rest => exact orChain_truth _ _

theorem not_truth (operand : Expression) : truthOf engine row parameter (.not operand) =
      not (truthOf engine row parameter operand) := engine.truth_ofTruth _

theorem membership_truth (index : Nat) (left : FieldReference)
    {inValues : List ParameterValue} (hbinds : Binds ofValue parameter index
      (inValues.map convertParameter)) :
    Truth.any ((evalItems engine row parameter (placeholders index inValues)).map
          (engine.compare .equal (column row left))) =
      isMember engine ofValue (column row left) inValues :=
  congrArg Truth.any (placeholders_eval index _ hbinds)

/-- The expression that is read from a tree has the tree's truth, unless a
set in it is empty. -/
theorem meansItself (condition : WhereCondition)
    (hsets : ∀ part : WhereCondition, part.IsPartOf condition → ¬part.IsEmptySet) :
    MeansItself engine ofValue row parameter condition := by
  induction condition using WhereCondition.induction with
  | h left op right inValues children hchildren =>
    have hinner : op.IsGroup → ∀ child ∈ children, MeansItself engine ofValue row parameter child :=
      fun hgroup child hmem => hchildren child hmem fun part hpart =>
        hsets part (.child hgroup hmem hpart)
    intro index hbinds
    cases op with
    | and =>
      cases children with
      | nil => exact constant_truth 1 1
      | cons child rest =>
        exact andExpression_truth (cons_ne_nil child rest) (hinner (.inl rfl)) index hbinds
    | or =>
      cases children with
      | nil => exact constant_truth 1 0
      | cons child rest =>
        exact orExpression_truth (cons_ne_nil child rest)
          (hinner (.inr (.inl rfl))) index hbinds
    | not =>
      rw [conditionExpression, meaning]
      cases children with
      | nil =>
        show truthOf engine row parameter (.not _) = _
        rw [not_truth, constant_truth]
        rfl
      | cons child rest =>
        show truthOf engine row parameter (.not _) = _
        rw [not_truth, andExpression_truth (cons_ne_nil child rest)
          (hinner (.inr (.inr rfl))) index hbinds]
    | isNull =>
      exact engine.truth_ofTruth _
    | isNotNull =>
      exact engine.truth_ofTruth _
    | isIn =>
      have hne : inValues ≠ [] := fun heq =>
        hsets _ (.self _) ⟨.inl rfl, heq⟩
      rw [conditionExpression, meaning, membershipItems, if_neg (by simp [hne])]
      exact (engine.truth_ofTruth _).trans (membership_truth index left hbinds)
    | notIn =>
      have hne : inValues ≠ [] := fun heq =>
        hsets _ (.self _) ⟨.inr rfl, heq⟩
      rw [conditionExpression, meaning, membershipItems, if_neg (by simp [hne])]
      exact (engine.truth_ofTruth _).trans (congrArg Truth.not (membership_truth index left hbinds))
    | eq | neq | gt | ge | lt | le | like | likeLiteral =>
      rw [conditionExpression, meaning, comparisonExpression_truth,
        rightExpression_eval index hbinds]
      rfl

end Meaning

/-! ## The rendered text -/

section Selection

variable (dialect : SqlDialect) {Value : Type} (engine : Sql.Engine Value)
  (ofValue : DatabaseValue → Value)

/-- The text that a condition is rendered as, behind whatever has been
written, is true of exactly the rows that the condition is true of. -/
def SelectsItsRows (condition : WhereCondition) : Prop :=
  ∀ output rendered, appendCondition dialect output condition = .ok rendered →
    ∃ text expression, rendered.sqlText = output.sqlText ++ text ∧
      ReadsAs dialect.identifierQuoteCharacter output.parameters.length text expression ∧
      ∀ row, truthOf engine row (bound ofValue rendered.parameters) expression = some true ↔
        meaning engine ofValue row condition = some true

/-- The text behind `WHERE` is true of exactly the rows that every one of
the conditions is true of. -/
def ClauseSelectsItsRows (whereConditions : List WhereCondition) : Prop :=
  ∀ output rendered, whereConditions ≠ [] →
    appendWhereClause dialect output whereConditions = .ok rendered →
    ∃ text expression, rendered.sqlText =
        output.sqlText ++ ([' ', 'W', 'H', 'E', 'R', 'E', ' '] ++ text) ∧
      ReadsAs dialect.identifierQuoteCharacter output.parameters.length text expression ∧
      ∀ row, truthOf engine row (bound ofValue rendered.parameters) expression = some true ↔
        ∀ condition ∈ whereConditions, meaning engine ofValue row condition = some true

variable {dialect engine ofValue}

theorem dialectFor_quote {databaseType : DatabaseType} (h : dialectFor databaseType = .ok dialect) :
    IsNameQuote dialect.identifierQuoteCharacter := by
  cases databaseType with
  | redis => exact nomatch h
  | mySql => cases h; exact .inr rfl
  | sqlite => cases h; exact .inl rfl
  | postgreSql => cases h; exact .inl rfl

theorem appendCondition_reads (hquote : IsNameQuote dialect.identifierQuoteCharacter)
    (hcolumns : condition.IsOverColumns dialect.identifierQuoteCharacter)
    {output rendered : Rendering} (h : appendCondition dialect output condition = .ok rendered) :
    ∃ text, rendered.sqlText = output.sqlText ++ text ∧ rendered.parameters =
        output.parameters ++ conditionParameters condition ∧
      ReadsAs dialect.identifierQuoteCharacter output.parameters.length text
        (conditionExpression output.parameters.length condition) := by
  obtain ⟨text, rfl, hlexes⟩ := appendCondition_writes hquote condition hcolumns h
  refine ⟨text, rfl, rfl, _, hlexes.tokens_eq, ?_⟩
  have hread := readsBack condition output.parameters.length [] (.inr (.inr trivial))
  rw [append_nil] at hread
  exact reads_item hread trivial

theorem selectsItsRows_of_sets (hquote : IsNameQuote dialect.identifierQuoteCharacter)
    (hcolumns : condition.IsOverColumns dialect.identifierQuoteCharacter)
    (hsets : ∀ part : WhereCondition, part.IsPartOf condition → ¬part.IsEmptySet) :
    SelectsItsRows dialect engine ofValue condition := by
  intro output rendered h
  obtain ⟨text, htext, hparameters, hreads⟩ := appendCondition_reads hquote hcolumns h
  refine ⟨text, _, htext, hreads, fun row => ?_⟩
  rw [hparameters, meansItself condition hsets _ (bound_binds _ _)]

/-- The column compared with a truth value: a row where it is that value is
on the wrong side. -/
theorem not_selectsItsRows_of_emptySet (hquote : IsNameQuote dialect.identifierQuoteCharacter)
    (hcolumns : condition.IsOverColumns dialect.identifierQuoteCharacter)
    (hempty : condition.IsEmptySet) : ¬SelectsItsRows dialect engine ofValue condition := by
  intro hselects
  obtain ⟨left, op, right, inValues, children⟩ := condition
  obtain ⟨hop, rfl⟩ := hempty
  have hcolumn : IsColumn dialect.identifierQuoteCharacter left.name := by
    rcases hop with rfl | rfl <;> exact hcolumns
  obtain ⟨rendered, hrendered, _⟩ := appendMembership_writes hquote hcolumn op [] ⟨[], []⟩
  have hok : appendCondition dialect ⟨[], []⟩ (.mk left op right [] children) = .ok rendered := by
    rcases hop with rfl | rfl <;> rw [appendCondition, hrendered]
  obtain ⟨text, expression, htext, hreads, hrows⟩ := hselects _ _ hok
  obtain ⟨text', htext', _, hreads'⟩ := appendCondition_reads hquote hcolumns hok
  rw [htext, append_cancel_left_eq] at htext'
  rw [← htext'] at hreads'
  have hexpression := hreads.unique hreads'
  rcases hop with rfl | rfl
  · have hrow := hrows fun _ => engine.ofTruth (some false)
    have htrue : truthOf engine (fun _ => engine.ofTruth (some false))
        (bound ofValue rendered.parameters) expression = some true := by
      rw [hexpression, conditionExpression, truthOf, Expression.eval, engine.truth_ofTruth]
      show Truth.any [engine.compare .equal (engine.ofTruth (some false))
        (engine.ofTruth (engine.compare .equal (engine.ofNumber 1)
          (engine.ofNumber 0)))] = some true
      rw [engine.number_equal, engine.truth_equal]
      rfl
    exact absurd (hrow.mp htrue) (by rw [meaning]; exact nofun)
  have hrow := hrows fun _ => engine.ofTruth (some true)
  have hfalse : truthOf engine (fun _ => engine.ofTruth (some true))
      (bound ofValue rendered.parameters) expression = some false := by
    rw [hexpression, conditionExpression, truthOf, Expression.eval, engine.truth_ofTruth]
    show not (any [engine.compare .equal (engine.ofTruth (some true))
      (engine.ofTruth (engine.compare .equal (engine.ofNumber 1)
        (engine.ofNumber 1)))]) = some false
    rw [engine.number_equal, engine.truth_equal]
    rfl
  have htrue := hrow.mpr (by rw [meaning]; rfl)
  rw [hfalse] at htrue
  cases htrue

theorem clauseSelectsItsRows_of_sets (hquote : IsNameQuote dialect.identifierQuoteCharacter)
    {whereConditions : List WhereCondition}
    (hcolumns : ∀ condition ∈ whereConditions,
      condition.IsOverColumns dialect.identifierQuoteCharacter)
    (hsets : ∀ condition ∈ whereConditions, ∀ part : WhereCondition,
      part.IsPartOf condition → ¬part.IsEmptySet) :
    ClauseSelectsItsRows dialect engine ofValue whereConditions := by
  intro output rendered hne h
  rw [appendWhereClause, if_neg (by simp [hne])] at h
  have hand : Leads dialect.identifierQuoteCharacter ([' ', 'A', 'N', 'D'] ++ [' ']) [wordAnd] :=
    Leads.ofLexes (lexes_word hquote 'A' ['N', 'D'] rfl)
  obtain ⟨text, rfl, hlexes⟩ := appendJoined_writes hquote hand (fun _ => .inl rfl) whereConditions
    (childrenOverColumns_iff.mpr hcolumns) hne h
  have hread := andTokens_read hne (fun child _ => readsBack child)
    output.parameters.length (show Ends [] from trivial)
  rw [append_nil] at hread
  refine ⟨text, _, append_assoc _ _ _, ⟨_, hlexes.tokens_eq, hread⟩, fun row => ?_⟩
  show truthOf engine row (bound ofValue
    (output.parameters ++ childrenParameters whereConditions)) _ = _ ↔ _
  rw [andExpression_truth hne (fun child hmem => meansItself child (hsets child hmem)) _
    (bound_binds _ _), Truth.all_eq_true, childMeanings_eq]
  exact forall_mem_map

/-- The rendered text of every condition of a query, of every part of one,
and of the clause that joins them selects the rows it should, if and only if
no set in them is empty. -/
theorem conditions_select_their_rows {databaseType : DatabaseType}
    (hdialect : dialectFor databaseType = .ok dialect)
    (whereConditions : List WhereCondition)
    (hcolumns : ∀ condition ∈ whereConditions,
      condition.IsOverColumns dialect.identifierQuoteCharacter) :
    ((∀ condition ∈ whereConditions, ∀ part : WhereCondition,
        part.IsPartOf condition → SelectsItsRows dialect engine ofValue part) ∧
      ClauseSelectsItsRows dialect engine ofValue whereConditions) ↔
    ∀ condition ∈ whereConditions, ∀ part : WhereCondition,
      part.IsPartOf condition → ¬part.IsEmptySet := by
  have hquote := dialectFor_quote hdialect
  constructor
  · intro h condition hmem part hpart hempty
    exact not_selectsItsRows_of_emptySet hquote
      (hpart.isOverColumns (hcolumns condition hmem)) hempty
      (h.1 condition hmem part hpart)
  intro hsets
  refine ⟨fun condition hmem part hpart => ?_, clauseSelectsItsRows_of_sets hquote hcolumns hsets⟩
  refine selectsItsRows_of_sets hquote
    (hpart.isOverColumns (hcolumns condition hmem)) fun inner hinner => ?_
  exact hsets condition hmem inner (hinner.trans hpart)

end Selection

/-! ## An engine of integers -/

def compareIntegers (comparison : Comparison) : Option Int → Option Int → Truth
  | some left, some right => some <| match comparison with
    | .equal => left == right
    | .notEqual => left != right
    | .greater => right < left
    | .greaterOrEqual => right ≤ left
    | .less => left < right
    | .lessOrEqual => left ≤ right
  | _, _ => none

/-- Integers and `NULL`; a truth value is 0 or 1. -/
def integers : Sql.Engine (Option Int) where
  isNull value := value.isNone
  ofTruth truth := truth.map fun value => if value then 1 else 0
  truth value := value.map (· != 0)
  ofNumber value := some value
  ofText _ := none
  compare := compareIntegers
  like _ _ _ := none
  truth_ofTruth value := by
    rcases value with _ | _ | _ <;> rfl
  number_equal a b := by
    rw [compareIntegers, Option.some_inj, Bool.eq_iff_iff, beq_iff_eq, beq_iff_eq]
    exact Int.ofNat_inj
  truth_equal a b := by
    cases a <;> cases b <;> rfl

def ofDatabaseValue : DatabaseValue → Option Int
  | .int64 value => some value
  | .bool value => some (if value then 1 else 0)
  | _ => none

/-- `age IN ()` or `age NOT IN ()`. -/
def ageInNothing (op : SqlOperator) : WhereCondition :=
  .mk ⟨['a', 'g', 'e']⟩ op (.parameter .null) [] []

/-- `age IN (18, 21) OR NOT age = min_age`. -/
def ageAllowed : WhereCondition := .mk ⟨[]⟩ .or (.parameter .null) []
    [.mk ⟨['a', 'g', 'e']⟩ .isIn (.parameter .null) [.int64 18, .int64 21] [],
      .mk ⟨[]⟩ .not (.parameter .null) []
        [.mk ⟨['a', 'g', 'e']⟩ .eq (.field ⟨['m', 'i', 'n', '_', 'a']⟩) [] []]]

theorem ageAllowed_isOverColumns : ageAllowed.IsOverColumns '"' := by
  have hage : IsColumn '"' ['a', 'g', 'e'] := by decide
  have hminimum : IsColumn '"' ['m', 'i', 'n', '_', 'a'] := by decide
  exact ⟨hage, ⟨⟨hage, hminimum⟩, trivial⟩, trivial⟩

theorem ageInNothing_isOverColumns (op : SqlOperator)
    (h : op = .isIn ∨ op = .notIn) : (ageInNothing op).IsOverColumns '"' := by
  have hage : IsColumn '"' ['a', 'g', 'e'] := by decide
  rcases h with rfl | rfl <;> exact hage

theorem conditions_select_their_rows_allowed :
    ((∀ condition ∈ [ageAllowed], ∀ part : WhereCondition, part.IsPartOf condition →
          SelectsItsRows postgresDialect integers ofDatabaseValue part) ∧
      ClauseSelectsItsRows postgresDialect integers ofDatabaseValue [ageAllowed]) ↔
    ∀ condition ∈ [ageAllowed], ∀ part : WhereCondition,
      part.IsPartOf condition → ¬part.IsEmptySet :=
  conditions_select_their_rows
    (show dialectFor .postgreSql = .ok postgresDialect from rfl) [ageAllowed]
    fun condition hmem => by
      cases List.mem_singleton.mp hmem
      exact ageAllowed_isOverColumns

/-- A column that is 0 is selected by an empty `IN`, and one that is 1 is
not selected by an empty `NOT IN`. -/
theorem empty_set_selects_other_rows : ¬SelectsItsRows sqliteDialect integers ofDatabaseValue
        (ageInNothing .isIn) ∧
      ¬SelectsItsRows sqliteDialect integers ofDatabaseValue (ageInNothing .notIn) ∧
      appendCondition sqliteDialect ⟨[], []⟩ (ageInNothing .isIn) =
        .ok ⟨"\"age\" IN (1 = 0)".toList, []⟩ ∧
      meaning integers ofDatabaseValue (fun _ => some 0) (ageInNothing .isIn) = some false ∧
      truthOf integers (fun _ => some 0) (bound ofDatabaseValue [])
        (conditionExpression 0 (ageInNothing .isIn)) = some true :=
  ⟨not_selectsItsRows_of_emptySet (.inl rfl)
      (ageInNothing_isOverColumns .isIn (.inl rfl)) ⟨.inl rfl, rfl⟩,
    not_selectsItsRows_of_emptySet (.inl rfl)
      (ageInNothing_isOverColumns .notIn (.inr rfl)) ⟨.inr rfl, rfl⟩,
    by decide, by decide, by decide⟩

end AsynGyanis.Database
