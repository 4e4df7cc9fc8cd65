import TypedQuery.Text.Class
import TypedQuery.Text.Spelling

/-!
# Scalar types

The declared types of members and arguments, the names under which schemas speak of them, and which
type may stand in for which without a conversion.
-/

namespace TypedQuery

open Text

/-- Declared type of a scalar member or argument. -/
inductive DataType where
  | boolean
  | short
  | int
  | long
  | unsigned
  | float
  | double
  | decimal
  | string
  | char
  | uuid
  | date
  | timestamp
  | json
  | enum
  | null
  | custom (name : String)
deriving DecidableEq, Inhabited

namespace DataType

/-- The scalar names of schemas, in upper case. -/
def scalarNames : List (String × DataType) :=
  [("BOOLEAN", boolean), ("BOOL", boolean), ("SHORT", short), ("INT", int), ("INTEGER", int),
    ("LONG", long), ("UINT", unsigned), ("FLOAT", float), ("DOUBLE", double),
    ("DECIMAL", decimal), ("STRING", string), ("CHAR", char), ("ID", uuid), ("UUID", uuid),
    ("DATE", date), ("DATETIME", timestamp), ("TIMESTAMP", timestamp), ("JSON", json),
    ("ENUM", enum)]

/-- A scalar name without blanks around it and exclamation marks behind it, in upper case. -/
def nameKey (name : String) : String :=
  String.ofList (upperKey ((trimmed name.toList).reverse.dropWhile (· == '!')).reverse)

/-- The type that a schema means by a scalar name. -/
def ofScalarName? (name : String) : Option DataType := scalarNames.lookup (nameKey name)

/-- What is said of a name that is no scalar name. -/
def unknownScalarMessage (name : String) : String := "Unknown scalar type: " ++ name

/-- The name of the type in a schema. -/
def scalarName : DataType → String
  | boolean => "Boolean"
  | short | int => "Int"
  | long => "Long"
  | unsigned => "UInt"
  | float | double => "Float"
  | decimal => "Decimal"
  | string | char => "String"
  | uuid => "ID"
  | date => "Date"
  | timestamp => "DateTime"
  | json => "JSON"
  | enum => "Enum"
  | null => "Null"
  | custom name => name

/-- Whether the values are integers. -/
def isInteger : DataType → Bool
  | short | int | long | unsigned => true
  | _ => false

/-- Whether the values are texts. -/
def isTextual : DataType → Bool
  | string | char | enum | custom _ => true
  | _ => false

/-- Whether a value of type `other` stands in for one of `self` as it is. -/
def isCompatible (self other : DataType) : Bool :=
  match self, other with
  | short, int | int, short | int, long | long, int | short, long | long, short => true
  | float, double | double, float => true
  | string, char | char, string => true
  | enum, string | string, enum => true
  | custom _, string => true
  | self, other => self == other

@[simp] theorem isCompatible_refl (t : DataType) : t.isCompatible t = true := by
  cases t <;> simp [isCompatible]

end DataType

end TypedQuery
