import TypedQuery.Schema.Field
import TypedQuery.Schema.Type

/-!
# Schemas

A schema holds object types, the fields of each, and mutations, all under their names.
`SchemaBuilder` collects them: an entry is never replaced, except that the query type, which is there
from the start, may be given its members later. From a list field of the query type it derives a
field that finds an element by its id and one that takes a filter, a sort and a page. `build` checks
the return types and enumerates the filter fields of each type.
-/

namespace TypedQuery

open Text

/-- What stands against an entry of a schema. -/
inductive SchemaError where
  | duplicateType (name : String)
  | duplicateField (typeName field : String)
  | unknownType (name : String)
  | unknownField (typeName field : String)
  | invalidField (typeName field reason : String)
deriving DecidableEq, Inhabited

/-- The failure in words. -/
def SchemaError.message : SchemaError → String
  | duplicateType name => "Type '" ++ name ++ "' is already registered"
  | duplicateField typeName field =>
    "Field '" ++ field ++ "' is already registered on type '" ++ typeName ++ "'"
  | unknownType name => "Unknown type '" ++ name ++ "'"
  | unknownField typeName field => "Field '" ++ field ++ "' not found on type '" ++ typeName ++ "'"
  | invalidField typeName field reason =>
    "Field '" ++ field ++ "' on '" ++ typeName ++ "' cannot be used here: " ++ reason

/-- A finished schema. -/
structure Schema where
  queryType : String
  types : Dict TypeDescriptor
  fields : Dict (Dict SchemaField)
  mutations : Dict SchemaField
  filterFields : Dict FilterFieldEnum
deriving Inhabited

namespace Schema

/-- The fields of a type, in the order of their names. -/
def fieldsOf (s : Schema) (typeName : String) : List SchemaField :=
  ((s.fields.get? typeName).getD []).values

/-- A field of a type. -/
def field? (s : Schema) (typeName field : String) : Option SchemaField :=
  (s.fields.get? typeName).bind (Dict.get? · field)

/-- A type. -/
def type? (s : Schema) (name : String) : Option TypeDescriptor := s.types.get? name

/-- The filter fields of a type. -/
def filterFields? (s : Schema) (typeName : String) : Option FilterFieldEnum :=
  s.filterFields.get? typeName

/-- A field of the query type. -/
def queryField? (s : Schema) (name : String) : Option SchemaField := s.field? s.queryType name

/-- A mutation. -/
def mutation? (s : Schema) (name : String) : Option SchemaField := s.mutations.get? name

end Schema

/-- A schema in the making. The parameters of derived templates come from the supply, which has none
that occurs in a template registered before. -/
structure SchemaBuilder where
  queryType : String
  types : Dict TypeDescriptor
  fields : Dict (Dict SchemaField)
  mutations : Dict SchemaField
  supply : Supply
deriving Inhabited

namespace SchemaBuilder

/-- The builder whose only type is the query type, without members. -/
def start (queryType : String) (supply : Supply) : SchemaBuilder :=
  ⟨queryType, [(queryType, .bare queryType)], [], [], supply⟩

/-- A type. -/
def type? (b : SchemaBuilder) (name : String) : Option TypeDescriptor := b.types.get? name

/-- The fields of a type. -/
def fieldsOf (b : SchemaBuilder) (typeName : String) : Dict SchemaField :=
  (b.fields.get? typeName).getD []

/-- Whether the query type still has no members. -/
def hasBareQuery (b : SchemaBuilder) : Bool :=
  match b.type? b.queryType with
  | some t => t.members.isEmpty
  | none => false

/-- Registers a type. The query type may be registered again as long as it has no members. -/
def addType (b : SchemaBuilder) (t : TypeDescriptor) : Except SchemaError SchemaBuilder :=
  if b.types.contains t.name && !(t.name == b.queryType && b.hasBareQuery) then
    .error (.duplicateType t.name)
  else .ok { b with types := b.types.insert t.name t }

/-- Registers a field on a type. -/
def addField (b : SchemaBuilder) (typeName : String) (f : SchemaField) :
    Except SchemaError SchemaBuilder :=
  if !b.types.contains typeName then .error (.unknownType typeName)
  else if (b.fieldsOf typeName).contains f.name then .error (.duplicateField typeName f.name)
  else
    .ok { b with
      fields := b.fields.insert typeName ((b.fieldsOf typeName).insert f.name f)
      supply := b.supply.avoiding f.template.expr }

/-- Registers a field on the query type. -/
def addQueryField (b : SchemaBuilder) (f : SchemaField) : Except SchemaError SchemaBuilder :=
  b.addField b.queryType f

/-- Registers a mutation. -/
def addMutation (b : SchemaBuilder) (f : SchemaField) : Except SchemaError SchemaBuilder :=
  if b.mutations.contains f.name then .error (.duplicateField "Mutation" f.name)
  else
    .ok { b with
      mutations := b.mutations.insert f.name f
      supply := b.supply.avoiding f.template.expr }

/-! ## Derived fields -/

/-- A field of the query type that gives a list. -/
def listField (b : SchemaBuilder) (name : String) : Except SchemaError SchemaField :=
  match (b.fieldsOf b.queryType).get? name with
  | none => .error (.unknownField b.queryType name)
  | some f =>
    if f.returns.isList && f.body.ty.isSequence then .ok f
    else .error (.invalidField b.queryType name "not a list field")

/-- Whether a member identifies the elements of a list: it is called `id`, or `id` after the name of
the list. -/
def isIdMember (list : String) (m : MemberDescriptor) : Bool :=
  let name := lower m.name
  name == "id" || name == lower list ++ "id"

/-- The member that identifies the elements of a list, with its scalar type. -/
def idMember (b : SchemaBuilder) (list element : String) :
    Except SchemaError (MemberDescriptor × DataType) :=
  match b.type? element with
  | none => .error (.unknownType element)
  | some t =>
    match t.members.find? (isIdMember list) with
    | none =>
      .error (.invalidField b.queryType list ("element type '" ++ element ++ "' has no id member"))
    | some m =>
      match m.ty.scalar? with
      | some type => .ok (m, type)
      | none => .error (.invalidField element m.name "id member is not a scalar")

/-- The field that gives the first element of a list whose id is the one asked for. -/
def idLookupField (name element : String) (id : MemberDescriptor) (type : DataType)
    (ctx args item : Parameter) (list : Expr) : SchemaField where
  name := name
  description := some ("Return a " ++ element ++ " by its Id")
  template :=
    let hasId := Expr.lambda [item]
      (.binary .equal (.member item.expr id.name id.ty) (.member args.expr id.name id.ty))
    ⟨[ctx, args], .call .first (.call .filter list [hasId]) []⟩
  arguments := [.ofType id.name type true]
  returns := ⟨element, false⟩

/-- Registers a field that finds an element of a list field by its id. -/
def addIdLookupField (b : SchemaBuilder) (list name : String) : Except SchemaError SchemaBuilder := do
  let source ← b.listField list
  let element := source.returns.typeName
  let (id, type) ← b.idMember list element
  let (ctx, supply) := b.supply.draw "ctx" (.object b.queryType)
  let (args, supply) :=
    supply.draw "args" (.record [(id.name, (ArgumentKind.value type).slotType)])
  let (item, supply) := supply.draw "x" (.object element)
  match source.contextParam? with
  | none => .error (.invalidField b.queryType list "template has no context parameter")
  | some old =>
    let elements := source.body.replace old.id ctx.expr
    { b with supply }.addQueryField (idLookupField name element id type ctx args item elements)

/-- The arguments of a field that filters, sorts and pages a list. -/
def filterQueryArguments : List ArgumentDescriptor :=
  [.ofKind "filter" .filterQuery, .ofKind "sort" .sort, .ofKind "page" .page,
    .ofKind "pageSize" .pageSize]

/-- The type of the holder of those arguments. -/
def filterQueryHolder : ExprType :=
  .record (filterQueryArguments.map fun a => (a.name, a.kind.slotType))

/-- Registers a field that filters, sorts and pages a list field. -/
def addFilterQueryField (b : SchemaBuilder) (list : String) : Except SchemaError SchemaBuilder := do
  let source ← b.listField list
  let element := source.returns.typeName
  let (ctx, supply) := b.supply.draw "ctx" (.object b.queryType)
  let (args, supply) := supply.draw "args" filterQueryHolder
  let body := match source.contextParam? with
    | some old => source.body.replace old.id ctx.expr
    | none => source.body
  { b with supply }.addQueryField
    { name := list ++ "FilterQuery"
      description := some ("Return a " ++ element ++ " after filtering it")
      template := ⟨[ctx, args], body⟩
      arguments := filterQueryArguments
      returns := ⟨element, true⟩ }

/-! ## Finishing -/

/-- All fields and then all mutations. -/
def allFields (b : SchemaBuilder) : List SchemaField :=
  b.fields.values.flatMap Dict.values ++ b.mutations.values

/-- Whether a name stands for a scalar or a registered type. -/
def knows (b : SchemaBuilder) (name : String) : Bool :=
  (DataType.ofScalarName? name).isSome || b.types.contains name

/-- The filter fields of the types other than the query type that have any. -/
def enumerations (b : SchemaBuilder) : Dict FilterFieldEnum :=
  (b.types.values.filter fun t => t.name != b.queryType && !t.scalarMembers.isEmpty).map fun t =>
    (t.name, t.filterFields)

/-- The finished schema, if every return type is known. -/
def build (b : SchemaBuilder) : Except SchemaError Schema :=
  match b.allFields.find? fun f => !b.knows f.returns.typeName with
  | some f => .error (.unknownType f.returns.typeName)
  | none => .ok ⟨b.queryType, b.types, b.fields, b.mutations, b.enumerations⟩

end SchemaBuilder

end TypedQuery
