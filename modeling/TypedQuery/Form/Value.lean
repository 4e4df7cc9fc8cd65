import TypedQuery.Calendar.Reader
import TypedQuery.Form.Part
import TypedQuery.Value.Basic

/-!
# Document forms of values

A value goes by the name of its variant with its content. Decimals are written as text and read also
from numbers; dates and timestamps are read in their looser document forms.
-/

namespace TypedQuery

open Json

namespace Value

mutual

/-- The document form of a value. -/
def form : Value → Json
  | .int n => tagged "Int" (Json.ofInt64 n)
  | .uint n => tagged "Uint" (Json.ofUInt64 n)
  | .float x => tagged "Float" (Json.ofFloat x)
  | .decimal d => tagged "Decimal" (.string d.text)
  | .string s => tagged "String" (.string s)
  | .boolean b => tagged "Boolean" (.bool b)
  | .json j => tagged "Json" j
  | .uuid u => tagged "Uuid" (.string u.text)
  | .date d => tagged "Date" (.string d.text)
  | .timestamp t => tagged "Timestamp" (.string t.zuluText)
  | .enum type value => tagged "Enum" (.array [.string type, .string value])
  | .stringArray items => tagged "StringArray" (ofStrings items)
  | .list items => tagged "List" (.array (formOfItems items))
  | .record fields => tagged "Record" (.object (formOfFields fields))
  | .null => .string "Null"

/-- The document forms of the items. -/
def formOfItems : List Value → List Json
  | [] => []
  | v :: rest => v.form :: formOfItems rest

/-- The document forms of the fields. -/
def formOfFields : List (String × Value) → List (String × Json)
  | [] => []
  | (k, v) :: rest => (k, v.form) :: formOfFields rest

end

/-- The signed integer that a document is. -/
def formInt? (j : Json) : Option Int64 := (decodeInt64 j).toOption

/-- The unsigned integer that a document is. -/
def formUInt? : Json → Option UInt64
  | .number n => n.toUInt64?
  | _ => none

/-- The decimal that a document stands for. -/
def formDecimal? : Json → Option Decimal
  | .string s => Decimal.read? s.toList
  | .number (.integer n _) => some (.ofInt n)
  | .number (.float x _) => Decimal.ofFloat? x
  | _ => none

/-- The value of a document form. -/
def ofForm? (j : Json) : Option Value :=
  match constructor? j with
  | some ("Null", none) => some .null
  | some ("Null", some ⟨.null, _⟩) => some .null
  | some ("Int", some ⟨c, _⟩) => (formInt? c).map .int
  | some ("Uint", some ⟨c, _⟩) => (formUInt? c).map .uint
  | some ("Float", some ⟨.number n, _⟩) => some (.float n.toFloat)
  | some ("Decimal", some ⟨c, _⟩) => (formDecimal? c).map .decimal
  | some ("String", some ⟨c, _⟩) => (string? c).map .string
  | some ("Boolean", some ⟨.bool b, _⟩) => some (.boolean b)
  | some ("Json", some ⟨c, _⟩) => some (.json c)
  | some ("Uuid", some ⟨c, _⟩) => do return .uuid (← Uuid.read? (← string? c).toList)
  | some ("Date", some ⟨c, _⟩) => do return .date (← readLooseDate? (← string? c).toList)
  | some ("Timestamp", some ⟨c, _⟩) => do
    return .timestamp (← readLooseTimestamp? (← string? c).toList)
  | some ("Enum", some ⟨c, _⟩) => do
    let (type, value) ← pair? c
    return .enum (← string? type.1) (← string? value.1)
  | some ("StringArray", some ⟨c, _⟩) => (strings? c).map .stringArray
  | some ("List", some ⟨c, _⟩) => do
    let items ← parts? c
    return .list (← items.mapM fun ⟨p, _⟩ => ofForm? p)
  | some ("Record", some ⟨c, _⟩) => do
    let entries ← entries? c
    return .ofFields (← entries.mapM fun (k, ⟨p, _⟩) => do return (k, ← ofForm? p))
  | _ => none
termination_by j.depth

end Value

end TypedQuery
