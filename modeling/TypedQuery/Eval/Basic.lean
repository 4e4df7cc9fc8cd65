import TypedQuery.Eval.Sequence
import TypedQuery.Expr.Bound

/-!
# Evaluation

`Expr.eval` gives the value of an expression in a scope, or why it has none. Evaluation goes from
left to right and stops at the first failure; a logical operator leaves out an operand that no longer
counts. `Expr.evalClosed` evaluates an expression without free parameters, and `BoundExpr.execute`
runs a bound expression on a root value.
-/

namespace TypedQuery

/-- The values of parameters. The latest binding comes first and hides earlier ones. -/
abbrev Scope := List (ParamId × Value)

namespace Scope

/-- The value of a parameter. -/
def get? (scope : Scope) (id : ParamId) : Option Value := scope.lookup id

/-- The scope with a value for one more parameter. -/
def bind (scope : Scope) (p : Parameter) (v : Value) : Scope := (p.id, v) :: scope

/-- The scope of a function's body when the function is applied to an element. -/
def enter (scope : Scope) (params : List Parameter) (v : Value) : Scope :=
  match params with
  | [] => scope
  | p :: _ => scope.bind p v

/-- The scope in which values are bound to parameters, one after the other. -/
def ofList (bindings : List (Parameter × Value)) : Scope :=
  bindings.foldl (fun scope (p, v) => scope.bind p v) []

end Scope

namespace Expr

mutual

/-- The value of an expression in a scope. -/
def eval (scope : Scope) : Expr → Except EvalError Value
  | .param p =>
    match scope.get? p.id with
    | some v => .ok v
    | none => .error (.unbound p.name)
  | .const v _ => .ok v
  | .member e name _ => do (← eval scope e).member name
  | .binary op l r =>
    if op.isLogical then do
      let left ← (← eval scope l).truth
      match op.decided? left with
      | some b => return .boolean b
      | none => return .boolean (← (← eval scope r).truth)
    else do
      let left ← eval scope l
      let right ← eval scope r
      op.run left right
  | .not e => do return .boolean (!(← (← eval scope e).truth))
  | .compare l r => do
    let left ← eval scope l
    let right ← eval scope r
    left.compareTo right
  | .text e => do return .string (← eval scope e).text
  | .contains set e => do return .boolean (set.contains (← eval scope e).text)
  | .call op source args => do
    let items ← (← eval scope source).sequence
    op.run items (operand scope args)
  | .lambda params body => .error (Operand.functionValueError (Lambda.display ⟨params, body⟩))
  | .new _ fields => do return .ofFields (← evalFields scope fields)

/-- The first of the arguments of a call. -/
def operand (scope : Scope) : List Expr → Operand
  | [] => .missing
  | .lambda params body :: _ =>
    .function params.length (fun v => eval (scope.enter params v) body)
      (Lambda.display ⟨params, body⟩)
  | e :: _ => .plain (eval scope e) e.display

/-- The values of the fields of a record. -/
def evalFields (scope : Scope) : List (String × Expr) → Except EvalError (List (String × Value))
  | [] => .ok []
  | (k, e) :: rest => do
    let v ← eval scope e
    let values ← evalFields scope rest
    return (k, v) :: values

end

/-- The value of an expression that has no free parameters. -/
def evalClosed (e : Expr) : Except EvalError Value :=
  match e.freeParameters with
  | p :: _ => .error (.unbound p.name)
  | [] => e.eval []

end Expr

/-- What a function makes of an element: the value of its body where its first parameter stands for the
element. -/
def Lambda.apply (f : Lambda) (scope : Scope) (v : Value) : Except EvalError Value :=
  f.body.eval (scope.enter f.params v)

namespace BoundExpr

/-- The scope of an execution: the constants, and the root for the context. -/
def scope (b : BoundExpr) (root : Value) : Scope :=
  let constants := Scope.ofList b.constants
  match b.context with
  | some c => constants.bind c root
  | none => constants

/-- Runs the expression with the root in the place of the context. A free parameter that has no value
is found before anything is evaluated. -/
def execute (b : BoundExpr) (root : Value) : Except EvalError Value :=
  match b.expression.freeParameters.find? fun p => ((b.scope root).get? p.id).isNone with
  | some p => .error (.unbound p.name)
  | none => b.expression.eval (b.scope root)

end BoundExpr

end TypedQuery
