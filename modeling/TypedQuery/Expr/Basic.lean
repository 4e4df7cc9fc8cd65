import TypedQuery.Expr.Type

/-!
# Expressions

The typed expressions that queries are made of. A parameter has an identity of its own, so that two
parameters of one name are still two. A lambda declares parameters for its body.
-/

namespace TypedQuery

/-- Identity of a parameter. -/
structure ParamId where
  index : Nat
deriving DecidableEq, Inhabited

/-- A variable of an expression: its identity, the name it is shown by, and its type. -/
structure Parameter where
  id : ParamId
  name : String
  ty : ExprType
deriving Inhabited

/-- Operators between two operands. -/
inductive BinaryOp where
  | equal
  | notEqual
  | greaterThan
  | greaterOrEqual
  | lessThan
  | lessOrEqual
  | and
  | or
deriving DecidableEq, Inhabited

namespace BinaryOp

/-- The operator as an expression shows it. -/
def symbol : BinaryOp → String
  | equal => "=="
  | notEqual => "!="
  | greaterThan => ">"
  | greaterOrEqual => ">="
  | lessThan => "<"
  | lessOrEqual => "<="
  | and => "&&"
  | or => "||"

/-- Whether the operator joins truth values. -/
def isLogical : BinaryOp → Bool
  | and | or => true
  | _ => false

end BinaryOp

/-- Operators on sequences. -/
inductive SequenceOp where
  | filter
  | select
  | orderBy
  | orderByDescending
  | reverse
  | skip
  | take
  | first
  | firstOrDefault
  | last
  | lastOrDefault
deriving DecidableEq, Inhabited

namespace SequenceOp

/-- Whether the operator picks a single element. -/
def isTerminal : SequenceOp → Bool
  | first | firstOrDefault | last | lastOrDefault => true
  | _ => false

/-- The operator as an expression shows it. -/
def name : SequenceOp → String
  | filter => "Where"
  | select => "Select"
  | orderBy => "OrderBy"
  | orderByDescending => "OrderByDescending"
  | reverse => "Reverse"
  | skip => "Skip"
  | take => "Take"
  | first => "First"
  | firstOrDefault => "FirstOrDefault"
  | last => "Last"
  | lastOrDefault => "LastOrDefault"

end SequenceOp

/-- A typed expression. -/
inductive Expr where
  | param (p : Parameter)
  | const (value : Value) (ty : ExprType)
  | member (target : Expr) (name : String) (ty : ExprType)
  | binary (op : BinaryOp) (left right : Expr)
  | not (operand : Expr)
  /-- The order of two operands: an integer below, at or above zero. -/
  | compare (left right : Expr)
  /-- The operand as text; null is the empty text. -/
  | text (operand : Expr)
  /-- Whether the text of the item is one of the set. -/
  | contains (set : List String) (item : Expr)
  | call (op : SequenceOp) (source : Expr) (args : List Expr)
  | lambda (params : List Parameter) (body : Expr)
  /-- A record, of a named type if `type` is given. -/
  | new (type : Option String) (fields : List (String × Expr))
deriving Inhabited

/-- A function from its parameters to its body. -/
structure Lambda where
  params : List Parameter
  body : Expr
deriving Inhabited

namespace Expr

/-- A constant with the type that its value shows. -/
def ofValue (v : Value) : Expr := .const v (.ofValue v)

/-- A constant truth value. -/
def ofBool (b : Bool) : Expr := .const (.boolean b) .boolean

/-- Whether the expression is the constant true. -/
def isTrue : Expr → Bool
  | .const (.boolean b) _ => b
  | _ => false

mutual

/-- The static type of an expression. -/
def ty : Expr → ExprType
  | .param p => p.ty
  | .const _ t => t
  | .member _ _ t => t
  | .binary _ _ _ => .boolean
  | .not _ => .boolean
  | .contains _ _ => .boolean
  | .compare _ _ => .scalar .int
  | .text _ => .scalar .string
  | .call .select _ (.lambda _ body :: _) => .sequence body.ty
  | .call op source _ =>
    if op.isTerminal then source.ty.element?.getD source.ty else source.ty
  | .lambda params body => .function (params.map Parameter.ty) body.ty
  | .new (some name) _ => .object name
  | .new none fields => .record (tyOfFields fields)

/-- The static types of the fields of a record. -/
def tyOfFields : List (String × Expr) → List (String × ExprType)
  | [] => []
  | (k, e) :: rest => (k, e.ty) :: tyOfFields rest

end

mutual

/-- The expression and all its parts, each before its own parts, from left to right. -/
def nodes : Expr → List Expr
  | .param p => [.param p]
  | .const v t => [.const v t]
  | .member e name t => .member e name t :: e.nodes
  | .binary op l r => .binary op l r :: (l.nodes ++ r.nodes)
  | .not e => .not e :: e.nodes
  | .compare l r => .compare l r :: (l.nodes ++ r.nodes)
  | .text e => .text e :: e.nodes
  | .contains set e => .contains set e :: e.nodes
  | .call op source args => .call op source args :: (source.nodes ++ nodesOfItems args)
  | .lambda params body => .lambda params body :: body.nodes
  | .new type fields => .new type fields :: nodesOfFields fields

/-- The expressions of a list and all their parts. -/
def nodesOfItems : List Expr → List Expr
  | [] => []
  | e :: rest => e.nodes ++ nodesOfItems rest

/-- The expressions of the fields and all their parts. -/
def nodesOfFields : List (String × Expr) → List Expr
  | [] => []
  | (_, e) :: rest => e.nodes ++ nodesOfFields rest

end

end Expr

namespace Parameter

/-- The parameter as an expression. -/
def expr (p : Parameter) : Expr := .param p

end Parameter

namespace Lambda

/-- The function as an expression. -/
def expr (f : Lambda) : Expr := .lambda f.params f.body

/-- The static type of a function. -/
def ty (f : Lambda) : ExprType := f.expr.ty

end Lambda

end TypedQuery
