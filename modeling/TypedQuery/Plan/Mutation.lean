import TypedQuery.Eval.Basic
import TypedQuery.Plan.Error

/-!
# Selecting from mutation results

A mutation gives a query over the context, or a value. A selection is put on every element of a
sequence, in front of the operator that picks one of them, or on the one value there is.
-/

namespace TypedQuery

/-- The output asked for of one element. -/
structure Selection where
  param : Parameter
  body : Expr
  constants : List (Parameter × Value)
deriving Inhabited

namespace Selection

/-- The selection as a function of the element. -/
def lambda (s : Selection) : Lambda := ⟨[s.param], s.body⟩

/-- Selects members of the element into a record. -/
def ofMembers (param : Parameter) (members : List (String × ExprType)) : Selection where
  param := param
  body := .new none (members.map fun (name, ty) => (name, .member param.expr name ty))
  constants := []

/-- The selection on every element of a sequence. -/
def onEach (s : Selection) (source : Expr) : Expr := .call .select source [s.lambda.expr]

/-- The selection on one value. -/
def onValue (s : Selection) (context : Option Parameter) (v : Value) : BoundExpr :=
  ⟨context, s.body, (s.param, v) :: s.constants⟩

end Selection

/-- What a mutation gives: a query over the context, or a value. -/
inductive MutationResult where
  | query (f : Lambda)
  | value (v : Value)
deriving Inhabited

/-- The forms that a mutation's query may have. -/
inductive MutationShape where
  | sequence
  /-- An operator that picks an element, perhaps of those that pass a filter. -/
  | terminal (op : SequenceOp) (source : Expr) (filter : Option Lambda)
  /-- Members of a constant. -/
  | memberOnConstant
  | constant (v : Value)
  | unsupported
deriving Inhabited

namespace MutationShape

/-- Whether the expression is a constant or a member of one, or of a member of one and so on. -/
def isRootedAtConstant : Expr → Bool
  | .member e _ _ => isRootedAtConstant e
  | .const _ _ => true
  | _ => false

/-- The form of a query that is no call to pick an element. -/
def classifyOther (e : Expr) : MutationShape :=
  if e.ty.isSequence then .sequence
  else
    match e with
    | .member target _ _ => if isRootedAtConstant target then .memberOnConstant else .unsupported
    | .const v _ => .constant v
    | _ => .unsupported

/-- The form of a query. -/
def classify (e : Expr) : MutationShape :=
  match e with
  | .call op source args =>
    if op.isTerminal then
      match args with
      | [] => .terminal op source none
      | [.lambda params body] => .terminal op source (some ⟨params, body⟩)
      | _ => .unsupported
    else classifyOther e
  | e => classifyOther e

/-- The form in words. -/
def name : MutationShape → String
  | sequence => "sequence"
  | terminal _ _ _ => "terminal"
  | memberOnConstant => "member on constant"
  | constant _ => "constant"
  | unsupported => "unsupported"

end MutationShape

/-- The selection on what a value is: on every item of a list, else on the value. -/
def rewriteValue (v : Value) (s : Selection) : BoundExpr :=
  if (ExprType.ofValue v).isSequence then ⟨none, s.onEach (.ofValue v), s.constants⟩
  else s.onValue none v

/-- The selection put into a query. -/
def rewriteQuery (f : Lambda) (s : Selection) : Except CompileError BoundExpr :=
  let context := f.params[0]?
  match MutationShape.classify f.body with
  | .sequence => .ok ⟨context, s.onEach f.body, s.constants⟩
  | .terminal op source filter =>
    let source := match filter with
      | some p => .call .filter source [p.expr]
      | none => source
    .ok ⟨context, .call op (s.onEach source) [], s.constants⟩
  | .memberOnConstant => do return s.onValue context (← evaluated f.body.evalClosed)
  | .constant v => .ok (s.onValue context v)
  | .unsupported => .error (.unsupportedMutationShape f.body.display)

/-- Puts a selection on the result of a mutation. -/
def rewriteMutation (result : MutationResult) (s : Selection) : Except CompileError BoundExpr :=
  match result with
  | .value v => .ok (rewriteValue v s)
  | .query f => rewriteQuery f s

/-- Puts a selection on the result of a mutation, over a context. -/
def rewriteMutationOnto (result : MutationResult) (s : Selection) (context : Expr) :
    Except CompileError BoundExpr :=
  (rewriteMutation result s).map (·.substituteContext context)

end TypedQuery
