import TypedQuery.Plan.Field
import TypedQuery.Plan.Mutation

/-!
# The compiler

What a schema and settings make of requests: filters, sorts and pages for sequences, paths, and fields
with arguments. Operations that make parameters take them from a supply and give back what is left
of it.
-/

namespace TypedQuery

/-- A schema with settings. -/
structure Compiler where
  schema : Schema
  settings : Settings
deriving Inhabited

namespace Compiler

/-- Finds members by the settings. -/
def resolver (c : Compiler) : MemberResolver := ⟨c.schema, c.settings.lookup⟩

/-- Compiles a filter on elements of a type. -/
def compileFilter (c : Compiler) (clauses : List FilterClause) (elementType : ExprType)
    (supply : Supply) : Except CompileError (CompiledFilter × Supply) := do
  let (element, supply) := supply.draw "p" elementType
  let filter ← TypedQuery.compileFilter c.resolver c.settings.policy element clauses
  return (filter, supply)

/-- Compiles a filter, a sort and a page for a sequence of elements of a type. -/
def compileShaping (c : Compiler) (request : ShapingRequest) (elementType : ExprType)
    (supply : Supply) : Except CompileError (Shaping × Supply) :=
  drawShaping c.resolver c.settings.policy elementType request supply

/-- The type of the elements of an expression that is a sequence. -/
def elementType (seq : Expr) : Except CompileError ExprType :=
  match seq.ty.element? with
  | some type => .ok type
  | none => .error (.notASequence seq.ty)

/-- Sorts a sequence. -/
def applySort (c : Compiler) (seq : Expr) (spec : Option SortSpec) (supply : Supply) :
    Except CompileError (Expr × Supply) := do
  let type ← elementType seq
  let (element, supply) := supply.draw "s" type
  let sort ← compileSort c.resolver element spec
  return (sort.apply seq, supply)

/-- Cuts a sequence to a page. -/
def applyPage (seq : Expr) (page : PageSpec) : Except CompileError Expr := do
  let _ ← elementType seq
  return page.apply seq

/-- Follows a path from an expression. -/
def resolvePath (c : Compiler) (root : Expr) (path : FieldPath) : Except CompileError FieldRef :=
  c.resolver.resolvePath root path

/-- Resolves a field of a type with arguments in a context. -/
def resolveField (c : Compiler) (typeName name : String) (supplied : Dict Expr) (context : Expr)
    (supply : Supply) : Except CompileError (BoundExpr × Supply) :=
  match c.schema.field? typeName name with
  | none => .error (.unknownField name typeName)
  | some f => TypedQuery.resolveField c.resolver c.settings.policy f supplied context supply

end Compiler

end TypedQuery
