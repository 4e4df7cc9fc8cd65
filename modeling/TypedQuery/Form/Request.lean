import TypedQuery.Form.Part
import TypedQuery.Settings.Reader
import TypedQuery.Wire.Request

/-!
# Document forms of requests

Filter clauses, sorts and pages as documents that hold all of them, and settings read from a document
that is already there.
-/

namespace TypedQuery

open Json

/-! ## Clauses -/

namespace ComparisonOp

/-- The name of the comparison in documents. -/
def formName : ComparisonOp → String
  | equals => "Equals"
  | notEqualTo => "NotEqualTo"
  | greaterThan => "GreaterThan"
  | greaterThanOrEqualTo => "GreaterThanOrEqualTo"
  | lessThan => "LessThan"
  | lessThanOrEqualTo => "LessThanOrEqualTo"
  | isIn => "In"
  | notIn => "NotIn"
  | isNull => "IsNull"

/-- The comparison that a document names. -/
def ofForm? (j : Json) : Option ComparisonOp := named? (all.map fun op => (op.formName, op)) j

/-- The document form of a comparison. -/
def form (op : ComparisonOp) : Json := .string op.formName

end ComparisonOp

namespace Literal

/-- The document form of a literal. -/
def form : Literal → Json
  | text s => tagged "Text" (.string s)
  | textSet items => tagged "TextSet" (ofStrings items)
  | flag b => tagged "Flag" (.bool b)
  | absent => .string "Absent"

/-- The literal of a document form. -/
def ofForm? (j : Json) : Option Literal :=
  match constructor? j with
  | some ("Text", some c) => (string? c.1).map text
  | some ("TextSet", some c) => (strings? c.1).map textSet
  | some ("Flag", some c) => (decodeBool c.1).toOption.map flag
  | _ => named? [("Absent", absent)] j

end Literal

namespace FilterClause

/-- The document form of a clause. What it lists as conflicting is left out if there is nothing. -/
def form (c : FilterClause) : Json :=
  .object ([("field", ofOption (fun p => Json.string p.raw) c.field),
    ("comparison", ofOption ComparisonOp.form c.comparison), ("literal", c.literal.form),
    ("conjunction", .string c.conjunction.wireName)] ++
    if c.conflicting.isEmpty then []
    else [("conflicting", .array (c.conflicting.map ComparisonOp.form))])

/-- The clause of a document form. -/
def ofForm? (j : Json) : Option FilterClause := do
  if !isRecord 5 j then none
  else
    let field ← (← optionalSlot? j 0 "field").mapM fun c => string? c.1
    let comparison ← (← optionalSlot? j 1 "comparison").mapM fun c => ComparisonOp.ofForm? c.1
    let literal ← Literal.ofForm? (← slot? j 2 "literal").1
    let conjunction ← named? Conjunction.names (← slot? j 3 "conjunction").1
    let conflicting ← match slot? j 4 "conflicting" with
      | none => some []
      | some c => do (← parts? c.1).mapM fun p => ComparisonOp.ofForm? p.1
    return ⟨field.map FieldPath.mk, comparison, literal, conjunction, conflicting⟩

end FilterClause

/-! ## Sorts and pages -/

namespace SortSpec

/-- The document form of a sort. -/
def form (s : SortSpec) : Json :=
  .object [("field", ofOption (fun p => Json.string p.raw) s.field),
    ("direction", .string s.direction.wireName)]

/-- The sort of a document form. -/
def ofForm? (j : Json) : Option SortSpec := do
  if !isRecord 2 j then none
  else
    let field ← (← optionalSlot? j 0 "field").mapM fun c => string? c.1
    let direction ← named? SortDirection.names (← slot? j 1 "direction").1
    return ⟨field.map FieldPath.mk, direction⟩

end SortSpec

namespace PageSpec

/-- The document form of a page request. -/
def form (p : PageSpec) : Json :=
  .object [("page", integerDocument p.page), ("page_size", integerDocument p.size)]

/-- The page request of a document form. -/
def ofForm? (j : Json) : Option PageSpec := do
  if !isRecord 2 j then none
  else
    let page ← (← optionalSlot? j 0 "page").mapM fun c => (decodeInt64 c.1).toOption
    let size ← (← optionalSlot? j 1 "page_size").mapM fun c => (decodeInt64 c.1).toOption
    return ⟨page, size⟩

end PageSpec

/-! ## Settings -/

namespace Settings

/-- The name of a way to match names. -/
def lookupName : MemberLookup → String
  | .exact => "exact"
  | .ignoreCase => "ignore_ascii_case"

/-- The name of a policy for clauses. -/
def policyName : ClausePolicy → String
  | .drop => "drop"
  | .reject => "reject"

/-- The document form of settings. -/
def form (s : Settings) : Json :=
  .object [("member_lookup", .string (lookupName s.lookup)),
    ("ambiguous_clauses", .string (policyName s.policy))]

/-- The settings of a document form; those that do not come are standard. -/
def ofForm? (j : Json) : Option Settings :=
  (decodeRecord "CompileSettings" false
    [("member_lookup", fun (s : Settings) c => do
        return { s with lookup := ← decodeName lookupNames c }),
      ("ambiguous_clauses", fun s c => do return { s with policy := ← decodeName policyNames c })]
    standard j).toOption

end Settings

end TypedQuery
