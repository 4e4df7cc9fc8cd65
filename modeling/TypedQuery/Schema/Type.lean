import TypedQuery.Expr.Type

/-!
# Object types

An object type of a schema has a name and declared members. The members declared with a scalar type
are those that filters may name.
-/

namespace TypedQuery

/-- A declared member of an object type. -/
structure MemberDescriptor where
  name : String
  ty : ExprType
deriving Inhabited

/-- Whether the member is declared with a scalar type. -/
def MemberDescriptor.isScalar (m : MemberDescriptor) : Bool := m.ty.scalar?.isSome

/-- An object type of a schema. -/
structure TypeDescriptor where
  name : String
  description : Option String
  members : List MemberDescriptor
deriving Inhabited

namespace TypeDescriptor

/-- A type without members. -/
def bare (name : String) : TypeDescriptor := ⟨name, none, []⟩

/-- The first member of a name. -/
def member? (t : TypeDescriptor) (name : String) : Option MemberDescriptor :=
  t.members.find? (·.name == name)

/-- The members declared with a scalar type. -/
def scalarMembers (t : TypeDescriptor) : List MemberDescriptor :=
  t.members.filter MemberDescriptor.isScalar

end TypeDescriptor

/-- The enumeration of the members of a type that filters may name. -/
structure FilterFieldEnum where
  name : String
  typeName : String
  description : String
  fields : List String
deriving DecidableEq, Inhabited

/-- The filter fields of a type. -/
def TypeDescriptor.filterFields (t : TypeDescriptor) : FilterFieldEnum where
  name := t.name ++ "FilterEnum"
  typeName := t.name
  description := "A list of the fields in " ++ t.name ++ " that can be filtered by."
  fields := t.scalarMembers.map MemberDescriptor.name

end TypedQuery
