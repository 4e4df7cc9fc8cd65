import TypedQuery.Form.Type
import TypedQuery.Schema.Type

/-!
# Document forms of schema types

Object types with their members, and the enumerations of their filter fields.
-/

namespace TypedQuery

open Json

namespace MemberDescriptor

/-- The document form of a member. -/
def form (m : MemberDescriptor) : Json := .object [("name", .string m.name), ("ty", m.ty.form)]

/-- The member of a document form. -/
def ofForm? (j : Json) : Option MemberDescriptor := do
  if !isRecord 2 j then none
  else
    let name ← string? (← slot? j 0 "name").1
    return ⟨name, ← ExprType.ofForm? (← slot? j 1 "ty").1⟩

end MemberDescriptor

namespace TypeDescriptor

/-- The document form of an object type. -/
def form (t : TypeDescriptor) : Json :=
  .object [("name", .string t.name), ("description", ofOption Json.string t.description),
    ("members", .array (t.members.map MemberDescriptor.form))]

/-- The object type of a document form. -/
def ofForm? (j : Json) : Option TypeDescriptor := do
  if !isRecord 3 j then none
  else
    let name ← string? (← slot? j 0 "name").1
    let description ← (← optionalSlot? j 1 "description").mapM fun c => string? c.1
    let members ← (← parts? (← slot? j 2 "members").1).mapM fun p => MemberDescriptor.ofForm? p.1
    return ⟨name, description, members⟩

end TypeDescriptor

namespace FilterFieldEnum

/-- The document form of an enumeration of filter fields. -/
def form (e : FilterFieldEnum) : Json :=
  .object [("name", .string e.name), ("type_name", .string e.typeName),
    ("description", .string e.description), ("fields", ofStrings e.fields)]

/-- The enumeration of a document form. -/
def ofForm? (j : Json) : Option FilterFieldEnum := do
  if !isRecord 4 j then none
  else
    let name ← string? (← slot? j 0 "name").1
    let typeName ← string? (← slot? j 1 "type_name").1
    let description ← string? (← slot? j 2 "description").1
    return ⟨name, typeName, description, ← strings? (← slot? j 3 "fields").1⟩

end FilterFieldEnum

end TypedQuery
