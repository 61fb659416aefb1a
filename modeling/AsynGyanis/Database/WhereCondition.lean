import AsynGyanis.Database.SqlDialect

/-!
# Rendering conditions

A `WhereCondition` is a tree: groups over children, comparisons of a column
with a parameter or with another column, and set membership over a list of
values. `appendCondition` writes its text behind what has been written
already and pushes the parameters in the order of their placeholders, so
the index of a placeholder is the number of parameters pushed before it.

Text is a list of characters; a byte of a multi-byte character is a
character from `0x80` on. A `double` is its bit pattern.
-/

namespace AsynGyanis.Database

/-! ## The tree -/

inductive SqlOperator where
  | eq
  | neq
  | gt
  | ge
  | lt
  | le
  | like
  | isIn
  | notIn
  | isNull
  | isNotNull
  | and
  | or
  | not
  | likeLiteral
deriving DecidableEq, Repr

structure FieldReference where
  name : List Char
deriving DecidableEq, Repr

inductive ParameterValue where
  | null
  | bool (value : Bool)
  | int64 (value : Int)
  | uint64 (value : Nat)
  | double (bits : UInt64)
  | string (value : List Char)
  | bytes (value : List UInt8)
deriving DecidableEq, Repr

inductive DatabaseValue where
  | monostate
  | bool (value : Bool)
  | int64 (value : Int)
  | double (bits : UInt64)
  | string (value : List Char)
  | bytes (value : List UInt8)
deriving DecidableEq, Repr

/-- The right operand of a comparison. -/
inductive RightOperand where
  | parameter (value : ParameterValue)
  | field (reference : FieldReference)
deriving DecidableEq, Repr

inductive WhereCondition where
  | mk (left : FieldReference) (op : SqlOperator) (right : RightOperand)
      (inValues : List ParameterValue) (children : List WhereCondition)

theorem WhereCondition.induction {P : WhereCondition → Prop}
    (h : ∀ left op right inValues children, (∀ child ∈ children, P child) →
      P (.mk left op right inValues children)) (condition : WhereCondition) :
    P condition := by
  obtain ⟨left, op, right, inValues, children⟩ := condition
  refine h left op right inValues children fun child hmem => ?_
  exact WhereCondition.induction h child
termination_by sizeOf condition
decreasing_by
  have := List.sizeOf_lt_of_mem hmem
  rw [WhereCondition.mk.sizeOf_spec]
  omega

/-! ## Names -/

def isIdentifierByte (character : Char) : Bool :=
  character.isAlpha || character.isDigit || character == '_' || 0x80 ≤ character.toNat

def isQuotableIdentifier (text : List Char) (quoteCharacter : Char) : Bool :=
  !text.isEmpty && text.all fun character =>
    isIdentifierByte character || character == quoteCharacter || character == ' '

/-- The segments that the scan for dots cuts a name into. -/
def dotSegments : List Char → List (List Char)
  | [] => [[]]
  | character :: rest =>
    if character = '.' then [] :: dotSegments rest
    else
      match dotSegments rest with
      | [] => [[character]]
      | segment :: segments => (character :: segment) :: segments

def isQuotableQualifiedName (text : List Char) (quoteCharacter : Char) :
    Bool :=
  (dotSegments text).all fun segment =>
    segment == ['*'] || isQuotableIdentifier segment quoteCharacter

/-- `appendQuotedIdentifier`: the quote character is doubled inside. -/
def quotedIdentifier (quoteCharacter : Char) (identifier : List Char) : List Char :=
  quoteCharacter :: (identifier.flatMap fun character =>
    if character = quoteCharacter then [quoteCharacter, character]
    else [character]) ++ [quoteCharacter]

def segmentText (quoteCharacter : Char) (segment : List Char) : List Char :=
  if segment = ['*'] then ['*'] else quotedIdentifier quoteCharacter segment

/-- The segments of a qualified name with dots between them. -/
def qualifiedText (quoteCharacter : Char) : List (List Char) → List Char
  | [] => []
  | [segment] => segmentText quoteCharacter segment
  | segment :: segments =>
    segmentText quoteCharacter segment ++ '.' :: qualifiedText quoteCharacter segments

/-! ## Rendering -/

/-- What `sqlText` and `parameters` hold. -/
structure Rendering where
  sqlText : List Char
  parameters : List DatabaseValue
deriving DecidableEq, Repr

def Rendering.append (output : Rendering) (text : List Char) : Rendering :=
  { output with sqlText := output.sqlText ++ text }

/-- An unsigned value that no signed one holds travels as decimal text. -/
def convertParameter : ParameterValue → DatabaseValue
  | .null => .monostate
  | .bool value => .bool value
  | .int64 value => .int64 value
  | .uint64 value =>
    if value ≤ 2 ^ 63 - 1 then .int64 value
    else .string (Nat.toDigits 10 value)
  | .double bits => .double bits
  | .string value => .string value
  | .bytes value => .bytes value

def comparisonOperatorText : SqlOperator → Option (List Char)
  | .eq => some ['=']
  | .neq => some ['!', '=']
  | .gt => some ['>']
  | .ge => some ['>', '=']
  | .lt => some ['<']
  | .le => some ['<', '=']
  | .like | .likeLiteral => some ['L', 'I', 'K', 'E']
  | .isIn => some ['I', 'N']
  | .notIn => some ['N', 'O', 'T', ' ', 'I', 'N']
  | .isNull | .isNotNull | .and | .or | .not => none

/-- ` ESCAPE '!'` -/
def kLikeEscapeClauseText : List Char :=
  [' ', 'E', 'S', 'C', 'A', 'P', 'E', ' ', Char.ofNat 39, '!', Char.ofNat 39]

inductive RenderingFailure where
  /-- `InvalidArgumentException`: a name is empty. -/
  | emptyFieldName
  /-- `InvalidArgumentException`: `NOT` over several children. -/
  | ambiguousNot (childCount : Nat)
  /-- `LogicException` -/
  | noComparisonText
deriving DecidableEq, Repr

section Rendering

variable (dialect : SqlDialect)

variable (output : Rendering)

/-- `StandardSqlDialect::appendPlaceholder`; PostgreSQL overrides it. -/
def appendPlaceholder (index : Nat) : Rendering :=
  if dialect.databaseType = .postgreSql then
    output.append ('$' :: Nat.toDigits 10 (index + 1))
  else output.append ['?']

def appendParameter (parameter : ParameterValue) :
    Rendering :=
  let output := appendPlaceholder dialect output output.parameters.length
  { output with
    parameters := output.parameters ++ [convertParameter parameter] }

def appendFieldReference (fieldText : List Char) : Except RenderingFailure Rendering :=
  if fieldText.isEmpty then .error .emptyFieldName
  else if fieldText = ['*'] then .ok (output.append ['*'])
  else if !isQuotableQualifiedName fieldText dialect.identifierQuoteCharacter
    then .ok (output.append fieldText)
  else .ok (output.append (qualifiedText dialect.identifierQuoteCharacter (dotSegments fieldText)))

/-- The loop over the values of a set. -/
def appendValues (output : Rendering) : List ParameterValue → Rendering
  | [] => output
  | [value] => appendParameter dialect output value
  | value :: values =>
    appendValues ((appendParameter dialect output value).append [',', ' ']) values

/-- What stands behind the key word of a membership test. -/
def appendMembershipList (op : SqlOperator) (inValues : List ParameterValue) : Rendering :=
  if inValues.isEmpty then
    output.append (if op = .isIn then ['(', '1', ' ', '=', ' ', '0', ')']
      else ['(', '1', ' ', '=', ' ', '1', ')'])
  else (appendValues dialect (output.append ['(']) inValues).append [')']

/-- `IN` and `NOT IN`: the column and the key word are written before the
values are looked at. -/
def appendMembership (left : FieldReference) (op : SqlOperator) (inValues : List ParameterValue) :
    Except RenderingFailure Rendering := do
  let output ← appendFieldReference dialect output left.name
  .ok (appendMembershipList dialect
    (output.append (if op = .isIn then [' ', 'I', 'N', ' ']
      else [' ', 'N', 'O', 'T', ' ', 'I', 'N', ' '])) op inValues)

/-- A leaf that compares. -/
def appendComparison (left : FieldReference) (op : SqlOperator) (right : RightOperand) :
    Except RenderingFailure Rendering := do
  let output ← appendFieldReference dialect output left.name
  let some operatorText := comparisonOperatorText op
    | .error .noComparisonText
  let output := output.append (' ' :: operatorText ++ [' '])
  let output ← match right with
    | .field reference => appendFieldReference dialect output reference.name
    | .parameter value => .ok (appendParameter dialect output value)
  .ok (if op = .likeLiteral then output.append kLikeEscapeClauseText
    else output)

mutual

def appendCondition (output : Rendering) : WhereCondition → Except RenderingFailure Rendering
  | .mk left op right inValues children =>
    match op with
    | .and =>
      if children.isEmpty then
        .ok (output.append ['(', '1', ' ', '=', ' ', '1', ')'])
      else do
        let output ← appendJoined [' ', 'A', 'N', 'D', ' ']
          (output.append ['(']) children
        .ok (output.append [')'])
    | .or =>
      if children.isEmpty then
        .ok (output.append ['(', '1', ' ', '=', ' ', '0', ')'])
      else do
        let output ← appendJoined [' ', 'O', 'R', ' ']
          (output.append ['(']) children
        .ok (output.append [')'])
    | .not =>
      match children with
      | [] => .ok (output.append ['N', 'O', 'T', ' ', '(', '1', ' ', '=', ' ', '1', ')'])
      | [child] => do
        let output ← appendCondition
          (output.append ['N', 'O', 'T', ' ', '(']) child
        .ok (output.append [')'])
      | first :: second :: rest =>
        .error (.ambiguousNot (rest.length + 2))
    | .isNull => do
      let output ← appendFieldReference dialect output left.name
      .ok (output.append [' ', 'I', 'S', ' ', 'N', 'U', 'L', 'L'])
    | .isNotNull => do
      let output ← appendFieldReference dialect output left.name
      .ok (output.append [' ', 'I', 'S', ' ', 'N', 'O', 'T', ' ', 'N', 'U', 'L', 'L'])
    | .isIn | .notIn => appendMembership dialect output left op inValues
    | .eq | .neq | .gt | .ge | .lt | .le | .like | .likeLiteral =>
      appendComparison dialect output left op right

/-- The loop over children, a separator between two of them. -/
def appendJoined (separator : List Char) (output : Rendering) :
    List WhereCondition → Except RenderingFailure Rendering
  | [] => .ok output
  | [child] => appendCondition output child
  | child :: next :: rest => do
    let output ← appendCondition output child
    appendJoined separator (output.append separator) (next :: rest)

end

/-- `appendWhereClause`: the top level is a conjunction without parentheses. -/
def appendWhereClause (whereConditions : List WhereCondition) : Except RenderingFailure Rendering :=
  if whereConditions.isEmpty then .ok output
  else appendJoined dialect [' ', 'A', 'N', 'D', ' ']
    (output.append [' ', 'W', 'H', 'E', 'R', 'E', ' ']) whereConditions

end Rendering

end AsynGyanis.Database
