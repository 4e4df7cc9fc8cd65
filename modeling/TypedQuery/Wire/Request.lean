import TypedQuery.Filter.Issue
import TypedQuery.Json.Decode
import TypedQuery.Request
import TypedQuery.Value.Basic

/-!
# Requests on the wire

A clause on the wire has an attribute for each comparison and sets those that are not null. The
literal of a text comparison may also be a number or a truth value, which stands for its text.

Attributes that a sort or a page does not have are passed over, and those that do not come are null or
ascending.
-/

namespace TypedQuery

open Json

/-! ## Requests that cannot be read -/

/-- What a document on the wire stands for. -/
inductive WirePart where
  | clause
  | sort
  | page
deriving DecidableEq, Inhabited

/-- The part in words. -/
def WirePart.display : WirePart → String
  | clause => "filter clause"
  | sort => "sort"
  | page => "page"

/-- How a document on the wire fails to be what it stands for. -/
inductive WireError where
  | malformed (part : WirePart) (fault : Json.DecodeFault)
  /-- A filter that is no list. -/
  | noClauseList (found : Json)
deriving Inhabited

namespace WireError

/-- The failure in words. -/
def message : WireError → String
  | malformed part fault => "Malformed " ++ part.display ++ ": " ++ fault.message
  | noClauseList found => "Expected a list of clauses for filter, found " ++ found.text

end WireError

/-! ## Filters -/

/-- A filter clause as it stands on the wire. -/
structure FilterInput where
  field : Option String
  conjunction : Conjunction
  equals : Option String
  notEqualTo : Option String
  greaterThan : Option String
  greaterThanOrEqualTo : Option String
  lessThan : Option String
  lessThanOrEqualTo : Option String
  isIn : Option (List String)
  notIn : Option (List String)
  isNull : Option Bool
deriving DecidableEq, Inhabited

/-- The conjunctions by their names on the wire. -/
def Conjunction.names : List (String × Conjunction) := [("AND", .and), ("OR", .or)]

/-- The name of a conjunction on the wire. -/
def Conjunction.wireName : Conjunction → String
  | and => "AND"
  | or => "OR"

/-- The text of a document that is a text, a number or a truth value. -/
def scalarText? : Json → Option String
  | .string s => some s
  | .number n => some n.text
  | .bool b => some (Json.bool b).text
  | _ => none

/-- Reads the literal of a text comparison. -/
def decodeTextLiteral (j : Json) : Except DecodeFault String :=
  match scalarText? j with
  | some s => .ok s
  | none => .error (.unsuitable j "a scalar literal")

/-- Reads a member of a set. -/
def decodeSetMember (j : Json) : Except DecodeFault String :=
  match scalarText? j with
  | some s => .ok s
  | none => .error (.unsuitable j "scalar set members")

/-- Reads a set. -/
def decodeTextSet : Json → Except DecodeFault (List String)
  | .array items => items.mapM decodeSetMember
  | j => .error (.unsuitable j "a list")

namespace FilterInput

/-- A clause that sets nothing. -/
def empty : FilterInput := ⟨none, .and, none, none, none, none, none, none, none, none, none⟩

/-- The attributes of a clause and how each is read. -/
def attributes : List (RecordField FilterInput) :=
  [("field", fun c j => do return { c with field := ← decodeOption decodeString j }),
    ("conjunction", fun c j => do return { c with conjunction := ← decodeName Conjunction.names j }),
    ("equals", fun c j => do return { c with equals := ← decodeOption decodeTextLiteral j }),
    ("notEqualTo", fun c j => do return { c with notEqualTo := ← decodeOption decodeTextLiteral j }),
    ("greaterThan", fun c j => do
      return { c with greaterThan := ← decodeOption decodeTextLiteral j }),
    ("greaterThanOrEqualTo", fun c j => do
      return { c with greaterThanOrEqualTo := ← decodeOption decodeTextLiteral j }),
    ("lessThan", fun c j => do return { c with lessThan := ← decodeOption decodeTextLiteral j }),
    ("lessThanOrEqualTo", fun c j => do
      return { c with lessThanOrEqualTo := ← decodeOption decodeTextLiteral j }),
    ("in", fun c j => do return { c with isIn := ← decodeOption decodeTextSet j }),
    ("notIn", fun c j => do return { c with notIn := ← decodeOption decodeTextSet j }),
    ("isNull", fun c j => do return { c with isNull := ← decodeOption decodeBool j })]

/-- Reads a clause. It may have no attribute but those of clauses. -/
def decode (j : Json) : Except DecodeFault FilterInput :=
  decodeRecord "FilterInput" true attributes empty j

/-- The literal that the attribute of a comparison sets. -/
def literal? (c : FilterInput) : ComparisonOp → Option Literal
  | .equals => c.equals.map .text
  | .notEqualTo => c.notEqualTo.map .text
  | .greaterThan => c.greaterThan.map .text
  | .greaterThanOrEqualTo => c.greaterThanOrEqualTo.map .text
  | .lessThan => c.lessThan.map .text
  | .lessThanOrEqualTo => c.lessThanOrEqualTo.map .text
  | .isIn => c.isIn.map .textSet
  | .notIn => c.notIn.map .textSet
  | .isNull => c.isNull.map .flag

/-- The comparisons that the clause sets, in canonical order. -/
def operators (c : FilterInput) : List ComparisonOp :=
  ComparisonOp.all.filter fun op => (c.literal? op).isSome

/-- The clause that is meant. Unless exactly one comparison is set it has none. -/
def clause (c : FilterInput) : FilterClause :=
  let field := c.field.map FieldPath.mk
  match c.operators with
  | [op] => ⟨field, some op, (c.literal? op).getD .absent, c.conjunction, []⟩
  | operators => ⟨field, none, .absent, c.conjunction, operators⟩

/-- What keeps the clause from being compiled, if anything does. -/
def defect? (c : FilterInput) : Option ClauseDefect := c.clause.defect?

/-- A text as a document, or null. -/
def textDocument (s : Option String) : Json := (s.map Json.string).getD .null

/-- A list of texts as a document, or null. -/
def textsDocument (items : Option (List String)) : Json :=
  (items.map fun items => Json.array (items.map Json.string)).getD .null

/-- The clause as it is written on the wire, with every attribute. -/
def toJson (c : FilterInput) : Json :=
  .object [("field", textDocument c.field), ("conjunction", .string c.conjunction.wireName),
    ("equals", textDocument c.equals), ("notEqualTo", textDocument c.notEqualTo),
    ("greaterThan", textDocument c.greaterThan),
    ("greaterThanOrEqualTo", textDocument c.greaterThanOrEqualTo),
    ("lessThan", textDocument c.lessThan),
    ("lessThanOrEqualTo", textDocument c.lessThanOrEqualTo), ("in", textsDocument c.isIn),
    ("notIn", textsDocument c.notIn), ("isNull", (c.isNull.map Json.bool).getD .null)]

end FilterInput

/-- Reads one clause of a filter. -/
def decodeClause (j : Json) : Except WireError FilterInput :=
  (FilterInput.decode j).mapError (.malformed .clause)

/-- Reads a filter: a list of clauses, or null for none. -/
def decodeFilter : Json → Except WireError (List FilterInput)
  | .null => .ok []
  | .array items => items.mapM decodeClause
  | j => .error (.noClauseList j)

/-- Reads a filter as the clauses that are meant. -/
def decodeClauses (j : Json) : Except WireError (List FilterClause) :=
  (decodeFilter j).map (·.map FilterInput.clause)

/-- Reads a filter that is given as a value. -/
def clausesOfValue (v : Value) : Except WireError (List FilterInput) := decodeFilter v.toJson

/-! ## Sorts -/

/-- A sort as it stands on the wire. -/
structure SortInput where
  field : Option String
  direction : SortDirection
deriving DecidableEq, Inhabited

/-- The directions by their names on the wire. -/
def SortDirection.names : List (String × SortDirection) :=
  [("ASC", .ascending), ("asc", .ascending), ("DESC", .descending), ("desc", .descending)]

/-- The name of a direction on the wire. -/
def SortDirection.wireName : SortDirection → String
  | ascending => "ASC"
  | descending => "DESC"

namespace SortInput

/-- The attributes of a sort and how each is read. -/
def attributes : List (RecordField SortInput) :=
  [("field", fun s j => do return { s with field := ← decodeOption decodeString j }),
    ("direction", fun s j => do return { s with direction := ← decodeName SortDirection.names j })]

/-- Reads a sort. -/
def decode (j : Json) : Except DecodeFault SortInput :=
  decodeRecord "SortInput" false attributes ⟨none, .ascending⟩ j

/-- The sort that is meant; a blank field is none. -/
def spec (s : SortInput) : SortSpec :=
  ⟨(s.field.filter fun f => !(Text.trimmed f.toList).isEmpty).map FieldPath.mk, s.direction⟩

/-- The sort as it is written on the wire. -/
def toJson (s : SortInput) : Json :=
  .object [("field", (s.field.map Json.string).getD .null),
    ("direction", .string s.direction.wireName)]

end SortInput

/-- Reads a sort; null is none. -/
def decodeSort : Json → Except WireError (Option SortSpec)
  | .null => .ok none
  | j => ((SortInput.decode j).mapError (.malformed .sort)).map fun s => some s.spec

/-! ## Pages -/

/-- The attributes of a page on the wire, and how each is read. -/
def PageSpec.attributes : List (RecordField PageSpec) :=
  [("page", fun p j => do return { p with page := ← decodeOption decodeInt64 j }),
    ("pageSize", fun p j => do return { p with size := ← decodeOption decodeInt64 j })]

/-- Reads a page request with its attributes. -/
def PageSpec.decode (j : Json) : Except DecodeFault PageSpec :=
  decodeRecord "PageInput" false PageSpec.attributes .all j

/-- An integer as a document, or null. -/
def integerDocument (n : Option Int64) : Json := (n.map Json.ofInt64).getD .null

/-- The page request as it is written on the wire. -/
def PageSpec.wireJson (p : PageSpec) : Json :=
  .object [("page", integerDocument p.page), ("pageSize", integerDocument p.size)]

/-- Reads a page request; null asks for everything. -/
def decodePage : Json → Except WireError PageSpec
  | .null => .ok .all
  | j => (PageSpec.decode j).mapError (.malformed .page)

end TypedQuery
