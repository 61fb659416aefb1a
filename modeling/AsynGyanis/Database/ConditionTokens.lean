import AsynGyanis.Database.WhereCondition
import AsynGyanis.Library.Judgement
import AsynGyanis.Library.SqlPieces

/-!
# Tokens of rendered conditions

What a lexer makes of the text that `appendCondition` writes. A definition
follows the tree and lists its tokens; an induction over the tree shows that
every piece of text a function of the rendering appends yields the tokens of
its part, whatever text follows. Names are columns here: each segment of a
name goes between quotes. Other text in the place of a name is an expression
that the caller wrote, and the rendering passes it on as it is.
-/

namespace AsynGyanis.Database

open Library Library.Sql Leads Lexes List Rendering

/-! ## Parameters of a tree -/

def rightParameters : RightOperand → List DatabaseValue
  | .field _ => []
  | .parameter value => [convertParameter value]

mutual

/-- What a condition pushes, in order. -/
def conditionParameters : WhereCondition → List DatabaseValue
  | .mk _ op right inValues children =>
    match op with
    | .and | .or | .not => childrenParameters children
    | .isNull | .isNotNull => []
    | .isIn | .notIn => inValues.map convertParameter
    | .eq | .neq | .gt | .ge | .lt | .le | .like | .likeLiteral =>
      rightParameters right

def childrenParameters : List WhereCondition → List DatabaseValue
  | [] => []
  | child :: rest => conditionParameters child ++ childrenParameters rest

end

/-! ## Tokens of a tree -/

def comparisonOf : SqlOperator → Option Comparison
  | .eq => some .equal
  | .neq => some .notEqual
  | .gt => some .greater
  | .ge => some .greaterOrEqual
  | .lt => some .less
  | .le => some .lessOrEqual
  | _ => none

/-- Dotted names behind the first. -/
def segmentTokens : List (List Char) → List Token
  | [] => []
  | segment :: segments => .dot :: .name segment :: segmentTokens segments

def fieldTokens (name : List Char) : List Token :=
  match dotSegments name with
  | [] => []
  | segment :: segments => .name segment :: segmentTokens segments

def valueTokens (index : Nat) : List ParameterValue → List Token
  | [] => []
  | [_] => [.placeholder index]
  | _ :: next :: rest =>
    .placeholder index :: .comma :: valueTokens (index + 1) (next :: rest)

/-- A constant comparison in parentheses. -/
def constantTokens (left right : Nat) : List Token :=
  [.leftParenthesis, .number left, .comparison .equal, .number right, .rightParenthesis]

def membershipTokens (index : Nat) (op : SqlOperator)
    (inValues : List ParameterValue) : List Token :=
  (if op = .isIn then [wordIn] else [wordNot, wordIn]) ++
    if inValues.isEmpty then constantTokens 1 (if op = .isIn then 0 else 1)
    else .leftParenthesis :: valueTokens index inValues ++ [.rightParenthesis]

def operatorToken (op : SqlOperator) : Token :=
  match comparisonOf op with
  | some comparison => .comparison comparison
  | none => wordLike

def rightTokens (index : Nat) : RightOperand → List Token
  | .field reference => fieldTokens reference.name
  | .parameter _ => [.placeholder index]

def escapeTokens (op : SqlOperator) : List Token :=
  if op = .likeLiteral then [wordEscape, .text ['!']] else []

mutual

def conditionTokens (index : Nat) : WhereCondition → List Token
  | .mk left op right inValues children =>
    match op with
    | .and =>
      if children.isEmpty then constantTokens 1 1
      else .leftParenthesis :: joinedTokens wordAnd index children ++ [.rightParenthesis]
    | .or =>
      if children.isEmpty then constantTokens 1 0
      else .leftParenthesis :: joinedTokens wordOr index children ++ [.rightParenthesis]
    | .not =>
      if children.isEmpty then wordNot :: constantTokens 1 1
      else wordNot :: .leftParenthesis :: joinedTokens wordAnd index children ++ [.rightParenthesis]
    | .isNull => fieldTokens left.name ++ [wordIs, wordNull]
    | .isNotNull => fieldTokens left.name ++ [wordIs, wordNot, wordNull]
    | .isIn | .notIn =>
      fieldTokens left.name ++ membershipTokens index op inValues
    | .eq | .neq | .gt | .ge | .lt | .le | .like | .likeLiteral =>
      fieldTokens left.name ++ operatorToken op :: (rightTokens index right ++ escapeTokens op)

def joinedTokens (separator : Token) (index : Nat) : List WhereCondition → List Token
  | [] => []
  | [child] => conditionTokens index child
  | child :: next :: rest =>
    conditionTokens index child ++ separator ::
      joinedTokens separator (index + (conditionParameters child).length) (next :: rest)

end

/-! ## Trees over columns -/

/-- A column: each of its segments goes between quotes. -/
def IsColumn (quote : Char) (name : List Char) : Prop :=
  (dotSegments name).all (isQuotableIdentifier · quote) = true

instance (quote : Char) (name : List Char) : Decidable (IsColumn quote name) :=
  inferInstanceAs (Decidable (_ = true))

def RightOperand.IsOverColumns (quote : Char) : RightOperand → Prop
  | .field reference => IsColumn quote reference.name
  | .parameter _ => True

mutual

/-- Every name that the tree mentions in a test is a column. -/
def WhereCondition.IsOverColumns (quote : Char) : WhereCondition → Prop
  | .mk left op right _ children =>
    match op with
    | .and | .or | .not => childrenOverColumns quote children
    | .isNull | .isNotNull | .isIn | .notIn => IsColumn quote left.name
    | .eq | .neq | .gt | .ge | .lt | .le | .like | .likeLiteral =>
      IsColumn quote left.name ∧ right.IsOverColumns quote

def childrenOverColumns (quote : Char) : List WhereCondition → Prop
  | [] => True
  | child :: rest =>
    child.IsOverColumns quote ∧ childrenOverColumns quote rest

end

/-! ## What a function writes -/

@[simp] theorem Rendering.append_sqlText (output : Rendering) (text : List Char) :
    (output.append text).sqlText = output.sqlText ++ text := rfl

@[simp] theorem Rendering.append_parameters (output : Rendering) (text : List Char) :
    (output.append text).parameters = output.parameters := rfl

/-- From one rendering to another a piece has been appended that yields
these tokens, and these parameters, one for each placeholder. -/
def Writes (quote : Char) (before after : Rendering)
    (pushed : List DatabaseValue) (output : List Token) : Prop :=
  ∃ piece, after = ⟨before.sqlText ++ piece, before.parameters ++ pushed⟩ ∧
    Lexes quote before.parameters.length piece pushed.length output

namespace Writes

variable {quote : Char} {before middle after : Rendering}
  {pushed pushed' : List DatabaseValue} {output output' added : List Token}
  {back : List Char}

theorem opened {front : List Char} (hfront : Leads quote front added)
    (h : Writes quote (before.append front) after pushed output) :
    Writes quote before after pushed (added ++ output) := by
  obtain ⟨piece, rfl, hlexes⟩ := h
  refine ⟨front ++ piece, ?_, hfront _ _ _ _ hlexes⟩
  rw [append_sqlText, append_parameters, append_assoc]

theorem closed (h : Writes quote before after pushed output)
    (hback : ∀ count, Lexes quote count back 0 added) (hdelimited : Delimited back) :
    Writes quote before (after.append back) pushed (output ++ added) := by
  obtain ⟨piece, rfl, hlexes⟩ := h
  refine ⟨piece ++ back, ?_, hlexes.append (hback _) hdelimited⟩
  rw [Rendering.append, List.append_assoc]

theorem joined (front : List Char) (h : Writes quote before middle pushed output)
    (hseparator : Leads quote (front ++ [' ']) added)
    (hdelimited : ∀ text, Delimited (front ++ ' ' :: text))
    (h' : Writes quote (middle.append (front ++ [' '])) after pushed' output') :
    Writes quote before after (pushed ++ pushed') (output ++ (added ++ output')) := by
  obtain ⟨piece, rfl, hlexes⟩ := h
  obtain ⟨piece', rfl, hlexes'⟩ := h'
  refine ⟨piece ++ (front ++ [' '] ++ piece'), ?_, ?_⟩
  · simp
  rw [append_parameters, length_append] at hlexes'
  rw [length_append]
  refine hlexes.append (hseparator _ _ _ _ hlexes') ?_
  rw [append_assoc]
  exact hdelimited _

end Writes

/-! ## Names -/

theorem dotSegments_ne_nil (name : List Char) : dotSegments name ≠ [] := by
  cases name with
  | nil => exact nofun
  | cons character rest =>
    rw [dotSegments]
    split
    · exact nofun
    · split <;> exact nofun

variable {quote : Char}

theorem isQuotableIdentifier_ne {segment : List Char} (hquote : IsNameQuote quote)
    (h : isQuotableIdentifier segment quote) : segment ≠ [] ∧ segment ≠ ['*'] := by
  rcases hquote with rfl | rfl
  · exact ⟨fun heq => by rw [heq] at h; exact absurd h (by decide),
      fun heq => by rw [heq] at h; exact absurd h (by decide)⟩
  · exact ⟨fun heq => by rw [heq] at h; exact absurd h (by decide),
      fun heq => by rw [heq] at h; exact absurd h (by decide)⟩

theorem IsColumn.ne {name : List Char} (hquote : IsNameQuote quote) (h : IsColumn quote name) :
    name ≠ [] ∧ name ≠ ['*'] := by
  constructor
  · intro heq
    rw [heq, IsColumn] at h
    exact absurd h (by simp [dotSegments, isQuotableIdentifier])
  intro heq
  rw [heq] at h
  have hstar : isQuotableIdentifier ['*'] quote := by
    simpa [IsColumn, dotSegments] using h
  exact (isQuotableIdentifier_ne hquote hstar).2 rfl

theorem qualifiedText_lexes (hquote : IsNameQuote quote)
    (count : Nat) {segment : List Char} {segments : List (List Char)}
    (h : (segment :: segments).all (isQuotableIdentifier · quote)) :
    Lexes quote count (qualifiedText quote (segment :: segments)) 0
      (.name segment :: segmentTokens segments) := by
  have hsegment : segmentText quote segment =
      quote :: (doubleQuote quote segment ++ [quote]) := by
    rw [all_cons, Bool.and_eq_true] at h
    exact if_neg (isQuotableIdentifier_ne hquote h.1).2
  induction segments generalizing segment with
  | nil =>
    rw [qualifiedText, hsegment]
    exact name hquote segment
  | cons next rest ih =>
    rw [all_cons, Bool.and_eq_true] at h
    have hnext := h.2
    rw [qualifiedText, hsegment]
    · refine nameDot hquote segment (ih hnext ?_)
      rw [all_cons, Bool.and_eq_true] at hnext
      exact if_neg (isQuotableIdentifier_ne hquote hnext.1).2
    · exact nofun

theorem appendFieldReference_writes {dialect : SqlDialect}
    (hquote : IsNameQuote dialect.identifierQuoteCharacter)
    {name : List Char} (h : IsColumn dialect.identifierQuoteCharacter name)
    (output : Rendering) :
    ∃ after, appendFieldReference dialect output name = .ok after ∧
      Writes dialect.identifierQuoteCharacter output after [] (fieldTokens name) := by
  have hqualified : isQuotableQualifiedName name dialect.identifierQuoteCharacter := by
    rw [isQuotableQualifiedName, all_eq_true]
    intro segment hmem
    rw [all_eq_true.mp h segment hmem, Bool.or_true]
  have hne := h.ne hquote
  refine ⟨_, ?_, qualifiedText dialect.identifierQuoteCharacter (dotSegments name), rfl, ?_⟩
  · rw [appendFieldReference, if_neg (by simp [hne.1]), if_neg hne.2,
      if_neg (by simp [hqualified]), Rendering.append, List.append_nil]
  rw [fieldTokens]
  rw [IsColumn] at h
  cases hsegments : dotSegments name with
  | nil => exact absurd hsegments (dotSegments_ne_nil name)
  | cons segment segments =>
    rw [hsegments] at h
    exact qualifiedText_lexes hquote _ h

/-! ## Values -/

theorem appendPlaceholder_lexes (dialect : SqlDialect) (output : Rendering) (index : Nat) :
    ∃ piece, appendPlaceholder dialect output index = output.append piece ∧
      Lexes dialect.identifierQuoteCharacter index piece 1 [.placeholder index] := by
  by_cases h : dialect.databaseType = .postgreSql
  · refine ⟨_, if_pos h, ?_⟩
    have hdigits : (Nat.toDigits 10 (index + 1)).all Char.isDigit := all_eq_true.mpr fun _ hmem =>
        Nat.isDigit_of_mem_toDigits (by decide) (by decide) hmem
    have hnumber : numberOf (Nat.toDigits 10 (index + 1)) - 1 = index := by
      rw [numberOf, Nat.ofDigitChars_ten_toDigits, Nat.add_sub_cancel]
    have hlexes : Lexes dialect.identifierQuoteCharacter index
        ('$' :: Nat.toDigits 10 (index + 1)) 1 _ := dollar hdigits
    rw [hnumber] at hlexes
    exact hlexes
  · exact ⟨_, if_neg h, questionMark⟩

theorem appendParameter_writes (dialect : SqlDialect) (output : Rendering)
    (value : ParameterValue) :
    Writes dialect.identifierQuoteCharacter output
      (appendParameter dialect output value) [convertParameter value]
      [.placeholder output.parameters.length] := by
  obtain ⟨piece, hpiece, hlexes⟩ := appendPlaceholder_lexes dialect output output.parameters.length
  refine ⟨piece, ?_, hlexes⟩
  rw [appendParameter, hpiece]
  rfl

theorem appendParameter_count (dialect : SqlDialect) (output : Rendering) (value : ParameterValue) :
    (appendParameter dialect output value).parameters.length = output.parameters.length + 1 := by
  obtain ⟨piece, hafter, _⟩ := appendParameter_writes dialect output value
  rw [hafter, length_append]
  rfl

theorem appendValues_writes (dialect : SqlDialect) (output : Rendering)
    {values : List ParameterValue} (hne : values ≠ []) :
    Writes dialect.identifierQuoteCharacter output
      (appendValues dialect output values) (values.map convertParameter)
      (valueTokens output.parameters.length values) := by
  induction values generalizing output with
  | nil => exact absurd rfl hne
  | cons value values ih =>
    cases values with
    | nil => exact appendParameter_writes dialect output value
    | cons next rest =>
      have hrest := ih ((appendParameter dialect output value).append [',', ' ']) nofun
      rw [append_parameters, appendParameter_count] at hrest
      exact (appendParameter_writes dialect output value).joined [','] commaSpace
        (fun _ => .inr (.inr rfl)) hrest

/-! ## Tests on a column -/

variable {left : FieldReference}

section Tests

variable {dialect : SqlDialect}

theorem lexes_word (hquote : IsNameQuote quote) (character : Char) (word : List Char)
    (h : (character :: word).all Char.isAlpha) (count : Nat) :
    Lexes quote count (' ' :: character :: word) 0 [.word (character :: word)] :=
  (Lexes.word hquote h).space

theorem lexes_constant (hquote : IsNameQuote quote)
    {left right : Char} (hleft : left.isDigit) (hright : right.isDigit) (count : Nat) :
    Lexes quote count ['(', left, ' ', '=', ' ', right, ')'] 0
      (constantTokens (numberOf [left]) (numberOf [right])) := by
  have hall : ∀ digit : Char, digit.isDigit → all [digit] Char.isDigit := by
    intro digit h
    rw [all_cons, h]
    rfl
  have hend : Lexes quote count [' ', right, ')'] 0
      [.number (numberOf [right]), .rightParenthesis] :=
    ((number hquote (hall right hright)).before rightParenthesis (.inr (.inl rfl))).space
  have hequal : Lexes quote count [' ', '=', ' ', right, ')'] 0
      [.comparison .equal, .number (numberOf [right]), .rightParenthesis] :=
    ((comparison .equal).before hend (.inl rfl)).space
  exact ((number hquote (hall left hleft)).before hequal (.inl rfl)).leftParenthesis

theorem appendMembershipList_writes (hquote : IsNameQuote dialect.identifierQuoteCharacter)
    (op : SqlOperator) (inValues : List ParameterValue) (output : Rendering) :
    Writes dialect.identifierQuoteCharacter output (appendMembershipList dialect output op inValues)
      (inValues.map convertParameter)
      (if inValues.isEmpty then constantTokens 1 (if op = .isIn then 0 else 1)
        else .leftParenthesis :: valueTokens output.parameters.length inValues ++
            [.rightParenthesis]) := by
  cases inValues with
  | nil =>
    refine ⟨if op = .isIn then ['(', '1', ' ', '=', ' ', '0', ')']
      else ['(', '1', ' ', '=', ' ', '1', ')'], ?_, ?_⟩
    · rw [map_nil, append_nil]
      rfl
    by_cases h : op = .isIn
    · rw [if_pos h, if_pos h]
      exact lexes_constant hquote rfl rfl _
    · rw [if_neg h, if_neg h]
      exact lexes_constant hquote rfl rfl _
  | cons value values =>
    have hvalues := appendValues_writes dialect (output.append ['(']) (cons_ne_nil value values)
    exact (hvalues.opened leftParenthesis).closed (fun _ => rightParenthesis) (.inr (.inl rfl))

theorem appendMembership_writes (hquote : IsNameQuote dialect.identifierQuoteCharacter)
    (hcolumn : IsColumn dialect.identifierQuoteCharacter left.name)
    (op : SqlOperator) (inValues : List ParameterValue) (output : Rendering) :
    ∃ after, appendMembership dialect output left op inValues = .ok after ∧
      Writes dialect.identifierQuoteCharacter output after (inValues.map convertParameter)
        (fieldTokens left.name ++ membershipTokens output.parameters.length op inValues) := by
  obtain ⟨field, hfield, hwrites⟩ := appendFieldReference_writes hquote hcolumn output
  have hcount : field.parameters.length = output.parameters.length := by
    obtain ⟨_, rfl, _⟩ := hwrites
    rw [append_nil]
  have hin : Leads dialect.identifierQuoteCharacter ([' ', 'I', 'N'] ++ [' ']) [wordIn] :=
    ofLexes (lexes_word hquote 'I' ['N'] rfl)
  have hnot : Leads dialect.identifierQuoteCharacter ([' ', 'N', 'O', 'T'] ++ [' ']) [wordNot] :=
    ofLexes (lexes_word hquote 'N' ['O', 'T'] rfl)
  have hbare : Leads dialect.identifierQuoteCharacter (['I', 'N'] ++ [' ']) [wordIn] :=
    ofLexes fun _ => word hquote rfl
  have hnotIn : Leads dialect.identifierQuoteCharacter
      ([' ', 'N', 'O', 'T', ' ', 'I', 'N'] ++ [' ']) [wordNot, wordIn] :=
    hnot.append hbare
  by_cases hop : op = .isIn
  · have hlist := appendMembershipList_writes hquote op inValues (field.append [' ', 'I', 'N', ' '])
    rw [append_parameters, hcount] at hlist
    rw [membershipTokens, if_pos hop, appendMembership, hfield, if_pos hop]
    exact ⟨_, rfl, hwrites.joined [' ', 'I', 'N'] hin (fun _ => .inl rfl) hlist⟩
  have hlist := appendMembershipList_writes hquote op inValues
    (field.append [' ', 'N', 'O', 'T', ' ', 'I', 'N', ' '])
  rw [append_parameters, hcount] at hlist
  rw [membershipTokens, if_neg hop, appendMembership, hfield, if_neg hop]
  exact ⟨_, rfl, hwrites.joined [' ', 'N', 'O', 'T', ' ', 'I', 'N'] hnotIn
    (fun _ => .inl rfl) hlist⟩

theorem lexes_escape (quote : Char) (hquote : IsNameQuote quote)
    (count : Nat) : Lexes quote count kLikeEscapeClauseText 0 [wordEscape, .text ['!']] := by
  have htext : Lexes quote count [' ', apostrophe, '!', apostrophe] 0
      [.text ['!']] := (text ['!']).space
  exact (lexes_word hquote 'E' ['S', 'C', 'A', 'P', 'E'] rfl count).before htext (.inl rfl)

theorem operator_leads (hquote : IsNameQuote quote) {op : SqlOperator} {operatorText : List Char}
    (htext : comparisonOperatorText op = some operatorText)
    (hin : op ≠ .isIn) (hnotIn : op ≠ .notIn) :
    Leads quote (' ' :: operatorText ++ [' ']) [operatorToken op] := by
  have hlike := ofLexes (lexes_word hquote 'L' ['I', 'K', 'E'] rfl)
  have hcompare : ∀ comparison, Leads quote (' ' :: comparisonText comparison ++ [' '])
      [.comparison comparison] :=
    fun comparison => Leads.ofLexes fun _ => (Lexes.comparison comparison).space
  cases op with
  | isIn => exact absurd rfl hin
  | notIn => exact absurd rfl hnotIn
  | isNull | isNotNull | and | or | not => exact nomatch htext
  | like | likeLiteral => cases htext; exact hlike
  | eq => cases htext; exact hcompare .equal
  | neq => cases htext; exact hcompare .notEqual
  | gt => cases htext; exact hcompare .greater
  | ge => cases htext; exact hcompare .greaterOrEqual
  | lt => cases htext; exact hcompare .less
  | le => cases htext; exact hcompare .lessOrEqual

/-- The right operand of a comparison. -/
def appendRightOperand (dialect : SqlDialect) (output : Rendering) :
    RightOperand → Except RenderingFailure Rendering
  | .field reference => appendFieldReference dialect output reference.name
  | .parameter value => .ok (appendParameter dialect output value)

theorem appendRightOperand_writes (hquote : IsNameQuote dialect.identifierQuoteCharacter)
    {right : RightOperand} (hcolumn : right.IsOverColumns dialect.identifierQuoteCharacter)
    (output : Rendering) :
    ∃ after, appendRightOperand dialect output right = .ok after ∧
      Writes dialect.identifierQuoteCharacter output after (rightParameters right)
        (rightTokens output.parameters.length right) := by
  cases right with
  | field reference =>
    exact appendFieldReference_writes hquote hcolumn output
  | parameter value =>
    exact ⟨_, rfl, appendParameter_writes dialect output value⟩

theorem appendComparison_writes (hquote : IsNameQuote dialect.identifierQuoteCharacter)
    {op : SqlOperator} {right : RightOperand}
    (hleft : IsColumn dialect.identifierQuoteCharacter left.name)
    (hright : right.IsOverColumns dialect.identifierQuoteCharacter)
    {operatorText : List Char} (htext : comparisonOperatorText op = some operatorText)
    (hin : op ≠ .isIn) (hnotIn : op ≠ .notIn) (output : Rendering) :
    ∃ after, appendComparison dialect output left op right = .ok after ∧
      Writes dialect.identifierQuoteCharacter output after (rightParameters right)
        (fieldTokens left.name ++ operatorToken op ::
          (rightTokens output.parameters.length right ++ escapeTokens op)) := by
  obtain ⟨field, hfield, hwrites⟩ := appendFieldReference_writes hquote hleft output
  have hcount : field.parameters.length = output.parameters.length := by
    obtain ⟨_, rfl, _⟩ := hwrites
    rw [append_nil]
  obtain ⟨compared, hcompared, hoperand⟩ := appendRightOperand_writes hquote
    hright (field.append (' ' :: operatorText ++ [' ']))
  rw [append_parameters, hcount] at hoperand
  have hjoined := hwrites.joined (' ' :: operatorText)
    (operator_leads hquote htext hin hnotIn) (fun _ => .inl rfl) hoperand
  have hstep : appendComparison dialect output left op right =
      .ok (if op = .likeLiteral then compared.append kLikeEscapeClauseText
        else compared) := by
    rw [appendComparison, hfield, htext]
    cases right with
    | field reference =>
      show (do
        let output ← appendFieldReference dialect _ reference.name
        Except.ok _) = _
      rw [show appendFieldReference dialect
        (field.append (' ' :: operatorText ++ [' '])) reference.name = .ok compared from hcompared]
      rfl
    | parameter value =>
      cases hcompared
      rfl
  rw [hstep]
  by_cases hescape : op = .likeLiteral
  · rw [if_pos hescape, escapeTokens, if_pos hescape]
    have hclosed := hjoined.closed (lexes_escape dialect.identifierQuoteCharacter hquote) (.inl rfl)
    rw [append_assoc, append_assoc] at hclosed
    exact ⟨_, rfl, hclosed⟩
  · rw [if_neg hescape, escapeTokens, if_neg hescape, append_nil]
    exact ⟨_, rfl, hjoined⟩

end Tests

/-! ## The tree -/

section Tree

variable {dialect : SqlDialect}
variable {output : List Token}

theorem Writes.parenthesized {before after : Rendering} {pushed : List DatabaseValue}
    (h : Writes quote (before.append ['(']) after pushed output) :
    Writes quote before (after.append [')']) pushed
      (.leftParenthesis :: output ++ [.rightParenthesis]) :=
  (h.opened leftParenthesis).closed (fun _ => rightParenthesis) (.inr (.inl rfl))

theorem Writes.of_ok {before after : Rendering} {pushed : List DatabaseValue}
    {result : Except RenderingFailure Rendering} (hok : result = .ok after)
    (h : ∃ after, result = .ok after ∧ Writes quote before after pushed output) :
    Writes quote before after pushed output := by
  obtain ⟨written, hwritten, hwrites⟩ := h
  cases hok.symm.trans hwritten
  exact hwrites

theorem Writes.ofLexes (before : Rendering) {text : List Char}
    (h : ∀ count, Lexes quote count text 0 output) :
    Writes quote before (before.append text) [] output := by
  refine ⟨text, ?_, h _⟩
  rw [append_nil]
  rfl

theorem appendTest_writes (hquote : IsNameQuote dialect.identifierQuoteCharacter)
    (hcolumn : IsColumn dialect.identifierQuoteCharacter left.name)
    (output : Rendering) {test : List Char} {added : List Token}
    (htest : ∀ count, Lexes dialect.identifierQuoteCharacter count test 0
      added) (hdelimited : Delimited test) : ∃ after, (do
        let output ← appendFieldReference dialect output left.name
        Except.ok (output.append test)) = .ok after ∧
      Writes dialect.identifierQuoteCharacter output after [] (fieldTokens left.name ++ added) := by
  obtain ⟨field, hfield, hwrites⟩ := appendFieldReference_writes hquote hcolumn output
  rw [hfield]
  exact ⟨_, rfl, hwrites.closed htest hdelimited⟩

mutual

theorem appendCondition_writes (hquote : IsNameQuote dialect.identifierQuoteCharacter)
    (condition : WhereCondition)
    (hcolumns : condition.IsOverColumns dialect.identifierQuoteCharacter)
    {output after : Rendering} (h : appendCondition dialect output condition = .ok after) :
    Writes dialect.identifierQuoteCharacter output after (conditionParameters condition)
      (conditionTokens output.parameters.length condition) := by
  obtain ⟨left, op, right, inValues, children⟩ := condition
  have hand : Leads dialect.identifierQuoteCharacter ([' ', 'A', 'N', 'D'] ++ [' ']) [wordAnd] :=
    ofLexes (lexes_word hquote 'A' ['N', 'D'] rfl)
  have hor : Leads dialect.identifierQuoteCharacter ([' ', 'O', 'R'] ++ [' ']) [wordOr] :=
    ofLexes (lexes_word hquote 'O' ['R'] rfl)
  have hnot : Leads dialect.identifierQuoteCharacter (['N', 'O', 'T'] ++ [' '] ) [wordNot] :=
    ofLexes fun _ => word hquote rfl
  cases op with
  | and =>
    cases children with
    | nil =>
      cases h
      exact Writes.ofLexes output (lexes_constant hquote rfl rfl)
    | cons child rest =>
      obtain ⟨joined, hjoined, h⟩ := bind_eq_ok h
      cases h
      exact (appendJoined_writes hquote hand (fun _ => .inl rfl)
        (child :: rest) hcolumns nofun hjoined).parenthesized
  | or =>
    cases children with
    | nil =>
      cases h
      exact Writes.ofLexes output (lexes_constant hquote rfl rfl)
    | cons child rest =>
      obtain ⟨joined, hjoined, h⟩ := bind_eq_ok h
      cases h
      exact (appendJoined_writes hquote hor (fun _ => .inl rfl)
        (child :: rest) hcolumns nofun hjoined).parenthesized
  | not =>
    rw [conditionParameters, conditionTokens]
    match children, hcolumns, h with
    | [], _, h =>
      cases h
      exact Writes.ofLexes output fun count =>
        hnot _ _ _ _ (lexes_constant hquote rfl rfl count)
    | [child], hcolumns, h =>
      obtain ⟨inner, hinner, h⟩ := bind_eq_ok h
      cases h
      rw [childrenParameters, childrenParameters, append_nil, joinedTokens]
      have hchild := appendCondition_writes hquote child hcolumns.1 hinner
      exact (hchild.opened (hnot.append leftParenthesis)).closed
        (fun _ => rightParenthesis) (.inr (.inl rfl))
    | first :: second :: rest, _, h =>
      cases h
  | isNull =>
    refine Writes.of_ok h (appendTest_writes hquote hcolumns output (fun count => ?_) (.inl rfl))
    exact (lexes_word hquote 'I' ['S'] rfl count).before
      (lexes_word hquote 'N' ['U', 'L', 'L'] rfl count) (.inl rfl)
  | isNotNull =>
    refine Writes.of_ok h (appendTest_writes hquote hcolumns output (fun count => ?_) (.inl rfl))
    exact (lexes_word hquote 'I' ['S'] rfl count).before
      ((lexes_word hquote 'N' ['O', 'T'] rfl count).before
        (lexes_word hquote 'N' ['U', 'L', 'L'] rfl count) (.inl rfl))
      (.inl rfl)
  | isIn | notIn =>
    exact Writes.of_ok h (appendMembership_writes hquote hcolumns _ inValues output)
  | eq | neq | gt | ge | lt | le | like | likeLiteral =>
    exact Writes.of_ok h (appendComparison_writes hquote hcolumns.1
      hcolumns.2 rfl (by decide) (by decide) output)

theorem appendJoined_writes (hquote : IsNameQuote dialect.identifierQuoteCharacter)
    {front : List Char} {separator : Token}
    (hseparator : Leads dialect.identifierQuoteCharacter (front ++ [' '])
      [separator]) (hdelimited : ∀ text, Delimited (front ++ ' ' :: text))
    (children : List WhereCondition)
    (hcolumns : childrenOverColumns dialect.identifierQuoteCharacter children)
    (hne : children ≠ []) {output after : Rendering}
    (h : appendJoined dialect (front ++ [' ']) output children = .ok after) :
    Writes dialect.identifierQuoteCharacter output after (childrenParameters children)
      (joinedTokens separator output.parameters.length children) := by
  match children, hcolumns, h with
  | [child], hcolumns, h =>
    rw [childrenParameters, childrenParameters, append_nil, joinedTokens]
    exact appendCondition_writes hquote child hcolumns.1 h
  | child :: next :: rest, hcolumns, h =>
    rw [appendJoined] at h
    cases hchild : appendCondition dialect output child with
    | error failure => rw [hchild] at h; exact nomatch h
    | ok middle =>
      rw [hchild] at h
      have hfirst := appendCondition_writes hquote child hcolumns.1 hchild
      have hrest := appendJoined_writes hquote hseparator hdelimited
        (next :: rest) hcolumns.2 nofun h
      have hcount : middle.parameters.length = output.parameters.length +
            (conditionParameters child).length := by
        obtain ⟨_, rfl, _⟩ := hfirst
        rw [length_append]
      rw [append_parameters, hcount] at hrest
      exact hfirst.joined front hseparator hdelimited hrest

end

end Tree

end AsynGyanis.Database
