import TypedQuery.Expr.Type
import TypedQuery.Form.Part

/-!
# Document forms of types

Scalar types go by their names; static types by what they are, with their parts.
-/

namespace TypedQuery

open Json

namespace DataType

/-- The scalar types that are a name alone, with that name. -/
def formNames : List (String × DataType) :=
  [("Boolean", boolean), ("Short", short), ("Int", int), ("Long", long), ("IntUnsigned", unsigned),
    ("Float", float), ("Double", double), ("Decimal", decimal), ("String", string), ("Char", char),
    ("Uuid", uuid), ("Date", date), ("Timestamp", timestamp), ("Json", json), ("Enum", enum),
    ("Null", null)]

/-- The document form of a scalar type. -/
def form : DataType → Json
  | boolean => .string "Boolean"
  | short => .string "Short"
  | int => .string "Int"
  | long => .string "Long"
  | unsigned => .string "IntUnsigned"
  | float => .string "Float"
  | double => .string "Double"
  | decimal => .string "Decimal"
  | string => .string "String"
  | char => .string "Char"
  | uuid => .string "Uuid"
  | date => .string "Date"
  | timestamp => .string "Timestamp"
  | json => .string "Json"
  | enum => .string "Enum"
  | null => .string "Null"
  | custom name => tagged "Custom" (.string name)

/-- The scalar type of a document form. -/
def ofForm? (j : Json) : Option DataType :=
  match constructor? j with
  | some ("Custom", some c) => (string? c.1).map custom
  | _ => named? formNames j

end DataType

namespace ExprType

mutual

/-- The document form of a static type. -/
def form : ExprType → Json
  | .scalar type => tagged "Scalar" type.form
  | .object name => tagged "Object" (.string name)
  | .record fields => tagged "Record" (.array (formOfFields fields))
  | .sequence element => tagged "Sequence" element.form
  | .function params output =>
    tagged "Function" (.object [("params", .array (formOfItems params)), ("output", output.form)])

/-- The document forms of the types. -/
def formOfItems : List ExprType → List Json
  | [] => []
  | t :: rest => t.form :: formOfItems rest

/-- The document forms of the fields. -/
def formOfFields : List (String × ExprType) → List Json
  | [] => []
  | (k, t) :: rest => .array [.string k, t.form] :: formOfFields rest

end

/-- The static type of a document form. -/
def ofForm? (j : Json) : Option ExprType :=
  match constructor? j with
  | some ("Scalar", some ⟨c, _⟩) => (DataType.ofForm? c).map scalar
  | some ("Object", some ⟨c, _⟩) => (string? c).map object
  | some ("Record", some ⟨c, _⟩) => do
    let items ← parts? c
    let fields ← items.mapM fun ⟨p, _⟩ => do
      let (⟨k, _⟩, ⟨t, _⟩) ← pair? p
      return (← string? k, ← ofForm? t)
    return .record fields
  | some ("Sequence", some ⟨c, _⟩) => (ofForm? c).map sequence
  | some ("Function", some ⟨c, _⟩) => do
    let ⟨ps, _⟩ ← content? c "params"
    let items ← parts? ps
    let params ← items.mapM fun ⟨p, _⟩ => ofForm? p
    let ⟨output, _⟩ ← content? c "output"
    return .function params (← ofForm? output)
  | _ => none
termination_by j.depth

end ExprType

end TypedQuery
