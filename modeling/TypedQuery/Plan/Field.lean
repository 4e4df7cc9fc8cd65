import TypedQuery.Plan.Arguments

/-!
# Resolving fields

A field applied to arguments in a context: the template's sequence is shaped by the arguments, the
argument holder is closed over as a constant, and the context takes the place of the template's own.
-/

namespace TypedQuery

/-- The template's body over a new parameter for the argument holder. -/
structure Instance where
  body : Expr
  holder : Option Parameter
  supply : Supply
deriving Inhabited

/-- The body of a field's template with a new parameter for the argument holder. -/
def SchemaField.freshBody (f : SchemaField) (supply : Supply) : Instance :=
  match f.argsParam? with
  | none => ⟨f.body, none, supply⟩
  | some args =>
    let (holder, supply) := supply.draw args.name f.holderType
    ⟨f.body.replace args.id holder.expr, some holder, supply⟩

/-- A sequence shaped by the arguments of a field. An expression that is no sequence, and one of a field
without such arguments, is left as it is. -/
def shapeBody (r : MemberResolver) (policy : ClausePolicy) (f : SchemaField) (arguments : BoundArguments)
    (body : Expr) (supply : Supply) : Except CompileError (Expr × Supply) :=
  match f.isShaped, body.ty.element? with
  | true, some elementType => do
    let (shaping, supply) ← drawShaping r policy elementType arguments.shaping supply
    return (shaping.apply body, supply)
  | _, _ => .ok (body, supply)

/-- Resolves a field with arguments in a context. Its new parameters are none that occurs in the
template or in the context. -/
def resolveField (r : MemberResolver) (policy : ClausePolicy) (f : SchemaField) (supplied : Dict Expr)
    (context : Expr) (supply : Supply) : Except CompileError (BoundExpr × Supply) := do
  let arguments ← bindArguments f r.lookup supplied
  let fresh := f.freshBody ((supply.avoiding f.template.expr).avoiding context)
  let (body, supply) ← shapeBody r policy f arguments fresh.body fresh.supply
  let constants := match fresh.holder with
    | some holder => [(holder, arguments.holderValue)]
    | none => []
  return (BoundExpr.substituteContext ⟨f.contextParam?, body, constants⟩ context, supply)

end TypedQuery
