import TypedQuery.Value.Basic

/-!
# Static types

The static type of an expression: a scalar, an object of the schema by its name, a record by its
fields, a sequence, or a function.
-/

namespace TypedQuery

/-- Static type of an expression. -/
inductive ExprType where
  | scalar (type : DataType)
  | object (name : String)
  | record (fields : List (String × ExprType))
  | sequence (element : ExprType)
  | function (params : List ExprType) (output : ExprType)
deriving Inhabited

namespace ExprType

/-- The type of truth values. -/
def boolean : ExprType := .scalar .boolean

/-- Whether the type is one of sequences. -/
def isSequence : ExprType → Bool
  | .sequence _ => true
  | _ => false

/-- The type of the elements of a sequence type. -/
def element? : ExprType → Option ExprType
  | .sequence element => some element
  | _ => none

/-- The scalar type that the type is. -/
def scalar? : ExprType → Option DataType
  | .scalar type => some type
  | _ => none

/-- The name of the object type that the type is. -/
def objectName? : ExprType → Option String
  | .object name => some name
  | _ => none

mutual

/-- The type of a runtime value, as far as the value shows it: the first item of a list stands for
all. -/
def ofValue : Value → ExprType
  | .record fields => .record (ofFields fields)
  | .list [] => .sequence (.scalar .null)
  | .list (v :: _) => .sequence (ofValue v)
  | .stringArray _ => .sequence (.scalar .string)
  | v => .scalar v.dataType

/-- The types of the fields of a record. -/
def ofFields : List (String × Value) → List (String × ExprType)
  | [] => []
  | (k, v) :: rest => (k, ofValue v) :: ofFields rest

end

mutual

/-- The type in words: scalars by their schema name, records in braces, sequences in brackets. -/
def display : ExprType → String
  | .scalar type => type.scalarName
  | .object name => name
  | .record fields => "\x7b" ++ ", ".intercalate (displayFields fields) ++ "\x7d"
  | .sequence element => "[" ++ element.display ++ "]"
  | .function params output => "(" ++ ", ".intercalate (displayItems params) ++ ") -> " ++ output.display

/-- The types in words. -/
def displayItems : List ExprType → List String
  | [] => []
  | t :: rest => t.display :: displayItems rest

/-- The fields in words. -/
def displayFields : List (String × ExprType) → List String
  | [] => []
  | (k, t) :: rest => (k ++ ": " ++ t.display) :: displayFields rest

end

end ExprType

end TypedQuery
