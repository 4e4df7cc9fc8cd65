import TypedQuery.Request
import TypedQuery.Text.Spelling

/-!
# Filter clauses

A filter is a list of clauses. A clause compares one field with a literal and says how it is joined
to the clause before it.
-/

namespace TypedQuery

/-- The comparisons of filter clauses. -/
inductive ComparisonOp where
  | equals
  | notEqualTo
  | greaterThan
  | greaterThanOrEqualTo
  | lessThan
  | lessThanOrEqualTo
  | isIn
  | notIn
  | isNull
deriving DecidableEq, Inhabited

namespace ComparisonOp

/-- All comparisons, in their canonical order. -/
def all : List ComparisonOp :=
  [equals, notEqualTo, greaterThan, greaterThanOrEqualTo, lessThan, lessThanOrEqualTo, isIn, notIn,
    isNull]

theorem mem_all (op : ComparisonOp) : op ∈ all := by
  cases op <;> decide

/-- The attribute by which a clause sets the comparison. -/
def wireName : ComparisonOp → String
  | equals => "equals"
  | notEqualTo => "notEqualTo"
  | greaterThan => "greaterThan"
  | greaterThanOrEqualTo => "greaterThanOrEqualTo"
  | lessThan => "lessThan"
  | lessThanOrEqualTo => "lessThanOrEqualTo"
  | isIn => "in"
  | notIn => "notIn"
  | isNull => "isNull"

/-- Whether the comparison asks for the order of its operands. -/
def isOrdering : ComparisonOp → Bool
  | greaterThan | greaterThanOrEqualTo | lessThan | lessThanOrEqualTo => true
  | _ => false

end ComparisonOp

/-- How a clause is joined to the one before it. -/
inductive Conjunction where
  | and
  | or
deriving DecidableEq, Inhabited

/-- What a clause compares its field with. -/
inductive Literal where
  | text (s : String)
  | textSet (items : List String)
  | flag (b : Bool)
  | absent
deriving DecidableEq, Inhabited

namespace Literal

/-- The kind of the literal in words. -/
def kind : Literal → String
  | text _ => "text"
  | textSet _ => "text set"
  | flag _ => "flag"
  | absent => "nothing"

/-- The literal in a message. -/
def display : Literal → String
  | text s => "\"" ++ s ++ "\""
  | textSet items => Text.quotedList items
  | flag b => if b then "true" else "false"
  | absent => "<absent>"

end Literal

/-- A condition on one field. A clause that sets no comparison, or more than one, has none; in the
second case `conflicting` lists those it sets. -/
structure FilterClause where
  field : Option FieldPath
  comparison : Option ComparisonOp
  literal : Literal
  conjunction : Conjunction
  conflicting : List ComparisonOp
deriving DecidableEq, Inhabited

namespace FilterClause

/-- The clause that compares a field with a literal. -/
def of (field : FieldPath) (comparison : ComparisonOp) (literal : Literal) : FilterClause :=
  ⟨some field, some comparison, literal, .and, []⟩

/-- The clause that compares a field with a text. -/
def ofText (field : FieldPath) (comparison : ComparisonOp) (s : String) : FilterClause :=
  of field comparison (.text s)

/-- The clause that the text of a field is one of the items. -/
def oneOf (field : FieldPath) (items : List String) : FilterClause :=
  of field .isIn (.textSet items)

/-- The clause that a field is null, or that it is not. -/
def isNull (field : FieldPath) (flag : Bool) : FilterClause := of field .isNull (.flag flag)

/-- The clause as an alternative to the one before it. -/
def or (c : FilterClause) : FilterClause := { c with conjunction := .or }

/-- The clause as a further condition beside the one before it. -/
def and (c : FilterClause) : FilterClause := { c with conjunction := .and }

/-- The path of the clause's field, if it names a member. -/
def path? (c : FilterClause) : Option FieldPath := c.field.filter fun p => !p.isEmpty

/-- Whether the clause has a field and a comparison. -/
def isValid (c : FilterClause) : Bool := c.comparison.isSome && c.path?.isSome

/-- The clause in a message. -/
def display (c : FilterClause) : String :=
  let field := match c.field with
    | some p => p.raw
    | none => "<none>"
  match c.comparison with
  | some op => field ++ " " ++ op.wireName ++ " " ++ c.literal.display
  | none => field ++ " <no single comparison>"

end FilterClause

end TypedQuery
