import TypedQuery.Plan.Error
import TypedQuery.Request
import TypedQuery.Schema.Builder
import TypedQuery.Settings.Basic

/-!
# Paths to members

A path is followed from an expression through the declared members of object types and the fields of
record types. A declared name that is the one asked for goes before one that only matches it.
-/

namespace TypedQuery

/-- An access to a member: the path asked for, the expression it stands for, and its type. -/
structure FieldRef where
  path : FieldPath
  expr : Expr
  ty : ExprType
deriving Inhabited

/-- The scalar type that the member is declared with. -/
def FieldRef.declared? (f : FieldRef) : Option DataType := f.ty.scalar?

/-- Finds members by their names. -/
structure MemberResolver where
  schema : Schema
  lookup : MemberLookup
deriving Inhabited

namespace MemberResolver

/-- The entry of a name, else the first entry whose name matches. -/
def pick? {α : Type} (r : MemberResolver) (entries : List (String × α)) (name : String) :
    Option (String × α) :=
  (entries.find? (·.1 == name)).or (entries.find? fun e => r.lookup.pairs e.1 name)

/-- The declared name and type of a member. -/
def member (r : MemberResolver) (owner : ExprType) (name : String) :
    Except CompileError (String × ExprType) :=
  let found (m : Option (String × ExprType)) : Except CompileError (String × ExprType) :=
    match m with
    | some m => .ok m
    | none => .error (.unknownField name owner.display)
  match owner with
  | .object typeName =>
    match r.schema.type? typeName with
    | none => .error (.unknownType typeName)
    | some t => found (r.pick? (t.members.map fun m => (m.name, m.ty)) name)
  | .record fields => found (r.pick? fields name)
  | _ => found none

/-- Follows member names from an expression of a type. -/
def follow (r : MemberResolver) (e : Expr) (ty : ExprType) :
    List String → Except CompileError (Expr × ExprType)
  | [] => .ok (e, ty)
  | name :: rest => do
    let (declared, memberTy) ← r.member ty name
    follow r (.member e declared memberTy) memberTy rest

/-- Follows a path from an expression. The path has to name a member. -/
def resolvePath (r : MemberResolver) (root : Expr) (path : FieldPath) :
    Except CompileError FieldRef :=
  if path.isEmpty then .error (.unknownField path.raw root.ty.display)
  else do
    let (e, ty) ← r.follow root root.ty path.segments
    return ⟨path, e, ty⟩

/-- Checks that a path of one name is among the filter fields of an object type, if that has any. -/
def checkFilterable (r : MemberResolver) (owner : ExprType) (path : FieldPath) :
    Except CompileError Unit :=
  match owner.objectName?.bind r.schema.filterFields?, path.segments with
  | some fields, [name] =>
    if fields.fields.any fun f => r.lookup.pairs f name then .ok ()
    else .error (.unknownField path.raw fields.name)
  | _, _ => .ok ()

end MemberResolver

end TypedQuery
