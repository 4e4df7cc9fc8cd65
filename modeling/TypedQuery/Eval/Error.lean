import TypedQuery.Expr.Basic

/-!
# Failures of evaluation

Why an expression has no value in a scope, and how each reason is put in words.
-/

namespace TypedQuery

/-- Why an expression has no value. -/
inductive EvalError where
  /-- A parameter of this name has no value in the scope. -/
  | unbound (name : String)
  /-- A value of another type was needed. -/
  | typeMismatch (expected actual : String)
  /-- The operator picks an element of a sequence that has none. -/
  | emptySequence (op : SequenceOp)
  | unsupported (operation : String)
  /-- A record has no field of this name. -/
  | fieldNotFound (name : String)
deriving DecidableEq, Inhabited

namespace EvalError

/-- The kinds of failure, without what they are about. -/
inductive Kind where
  | unbound
  | typeMismatch
  | emptySequence
  | unsupported
  | fieldNotFound
deriving DecidableEq, Inhabited

/-- The kind of a failure. -/
def kind : EvalError → Kind
  | unbound _ => .unbound
  | typeMismatch _ _ => .typeMismatch
  | emptySequence _ => .emptySequence
  | unsupported _ => .unsupported
  | fieldNotFound _ => .fieldNotFound

/-- The failure in words. -/
def message : EvalError → String
  | unbound name => "Parameter '" ++ name ++ "' is not bound"
  | typeMismatch expected actual => "Type mismatch: expected " ++ expected ++ ", got " ++ actual
  | emptySequence op => "Sequence contains no elements (" ++ op.name ++ ")"
  | unsupported operation => "Unsupported operation: " ++ operation
  | fieldNotFound name => "Field not found: " ++ name

/-- A value of the wrong type where `expected` was needed. -/
def mismatch (expected : String) (v : Value) : EvalError :=
  .typeMismatch expected v.dataType.scalarName

end EvalError

end TypedQuery
