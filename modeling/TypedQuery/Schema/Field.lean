import TypedQuery.Dict
import TypedQuery.Expr.Display
import TypedQuery.Expr.Parameters
import TypedQuery.Value.Order

/-!
# Schema fields

A field is a template: a function of the context and, if the field takes arguments, of their holder,
a record with a slot for each. Some arguments are not for the template but shape the query: they
filter, sort or page the sequence that the template gives.
-/

namespace TypedQuery

/-- What an argument is for. -/
inductive ArgumentKind where
  | value (type : DataType)
  | filterQuery
  | sort
  | page
  | pageSize
deriving DecidableEq, Inhabited

namespace ArgumentKind

/-- The type of an argument's slot in the holder. -/
def slotType : ArgumentKind → ExprType
  | value type => .scalar type
  | filterQuery => .record [("hasValue", .boolean), ("query", .scalar .json)]
  | sort => .record [("field", .scalar .string), ("direction", .scalar .string)]
  | page | pageSize => .scalar .int

/-- Whether the argument shapes the query. -/
def isShaping : ArgumentKind → Bool
  | value _ => false
  | _ => true

end ArgumentKind

/-- An argument that a field takes. -/
structure ArgumentDescriptor where
  name : String
  kind : ArgumentKind
  required : Bool
  default : Option Value
deriving Inhabited

namespace ArgumentDescriptor

/-- An argument that may be left out. -/
def ofKind (name : String) (kind : ArgumentKind) : ArgumentDescriptor := ⟨name, kind, false, none⟩

/-- An argument that is a value. -/
def ofType (name : String) (type : DataType) (required : Bool) : ArgumentDescriptor :=
  ⟨name, .value type, required, none⟩

/-- Equality of what an argument may have in place of what is left out. -/
def sameDefault : Option Value → Option Value → Bool
  | none, none => true
  | some v, some w => v.same w
  | _, _ => false

/-- Equality of arguments, part by part. -/
def same (a b : ArgumentDescriptor) : Bool :=
  a.name == b.name && a.kind == b.kind && a.required == b.required &&
    sameDefault a.default b.default

end ArgumentDescriptor

/-- A type by its name, or lists of it. -/
structure TypeRef where
  typeName : String
  isList : Bool
deriving DecidableEq, Inhabited

/-- A field of a schema. -/
structure SchemaField where
  name : String
  description : Option String
  /-- A function of the context and the argument holder. -/
  template : Lambda
  arguments : List ArgumentDescriptor
  returns : TypeRef
deriving Inhabited

namespace SchemaField

/-- The parameter for the context. -/
def contextParam? (f : SchemaField) : Option Parameter := f.template.params[0]?

/-- The parameter for the argument holder. -/
def argsParam? (f : SchemaField) : Option Parameter := f.template.params[1]?

/-- The template's body. -/
def body (f : SchemaField) : Expr := f.template.body

/-- The first argument of a name. -/
def argument? (f : SchemaField) (name : String) : Option ArgumentDescriptor :=
  f.arguments.find? (·.name == name)

/-- The names of the arguments that may not be left out. -/
def requiredNames (f : SchemaField) : List String :=
  (f.arguments.filter ArgumentDescriptor.required).map ArgumentDescriptor.name

/-- Whether an argument shapes the query. -/
def isShaped (f : SchemaField) : Bool := f.arguments.any fun a => a.kind.isShaping

/-- The type of the argument holder. -/
def holderType (f : SchemaField) : ExprType :=
  .record (f.arguments.map fun a => (a.name, a.kind.slotType))

end SchemaField

end TypedQuery
