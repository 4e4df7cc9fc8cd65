import TypedQuery.Expr.Display
import TypedQuery.Expr.Parameters

/-!
# Bound expressions

An expression whose one open variable is its context; other parameters are closed over by constants
bound to them.
-/

namespace TypedQuery

/-- An expression over a context parameter, with constants bound to other parameters. -/
structure BoundExpr where
  context : Option Parameter
  expression : Expr
  constants : List (Parameter × Value) := []
deriving Inhabited

namespace BoundExpr

/-- Binds a constant to one more parameter. -/
def withConstant (b : BoundExpr) (p : Parameter) (v : Value) : BoundExpr :=
  { b with constants := b.constants ++ [(p, v)] }

/-- Binds constants to more parameters. -/
def withConstants (b : BoundExpr) (constants : List (Parameter × Value)) : BoundExpr :=
  { b with constants := b.constants ++ constants }

/-- The first constant bound to a parameter. -/
def value? (b : BoundExpr) (id : ParamId) : Option Value :=
  (b.constants.find? fun (p, _) => p.id == id).map Prod.snd

/-- The free parameters to which no constant is bound. -/
def unboundParameters (b : BoundExpr) : List Parameter :=
  b.expression.freeParameters.filter fun p => (b.value? p.id).isNone

/-- Puts an expression in the place of the context. Its first free parameter is the new context. -/
def substituteContext (b : BoundExpr) (r : Expr) : BoundExpr where
  context :=
    match r with
    | .param p => some p
    | r => r.freeParameters.head?
  expression :=
    match b.context with
    | some c => b.expression.replace c.id r
    | none => b.expression
  constants := b.constants

/-- The expression with each constant in the place of the parameter it is bound to. -/
def inlineConstants (b : BoundExpr) : Expr :=
  b.constants.foldl (fun e (p, v) => e.replace p.id (.const v p.ty)) b.expression

/-- The written form. -/
def display (b : BoundExpr) : String := b.expression.display

end BoundExpr

end TypedQuery
