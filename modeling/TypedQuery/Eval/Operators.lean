import TypedQuery.Eval.Error
import TypedQuery.Value.Order

/-!
# Operators on values

What the operators of expressions do to values that are already there: access to members, truth
values, comparisons. None of them looks at an expression.
-/

namespace TypedQuery

open Text

namespace Value

/-- The value as a truth value; nothing but a truth value is one. -/
def truth : Value → Except EvalError Bool
  | .boolean b => .ok b
  | v => .error (.mismatch "Boolean" v)

/-- The items of a value that is a sequence. -/
def sequence (v : Value) : Except EvalError (List Value) :=
  match v.asList? with
  | some items => .ok items
  | none => .error (.mismatch "sequence" v)

/-- The value as a number of elements; a number below zero counts as zero. -/
def count (v : Value) : Except EvalError Nat :=
  match v.asInt? with
  | some n => .ok n.toInt.toNat
  | none => .error (.mismatch "Int" v)

/-- The field of a record by its name or, if none has it, the first one whose name differs in case
only. -/
def field? (fields : List (String × Value)) (name : String) : Option Value :=
  match Dict.get? fields name with
  | some v => some v
  | none => (fields.find? fun (k, _) => eqIgnoringCase k name).map Prod.snd

/-- Access to a member. A member of null is null. -/
def member (v : Value) (name : String) : Except EvalError Value :=
  match v with
  | .null => .ok .null
  | .record fields =>
    match field? fields name with
    | some v => .ok v
    | none => .error (.fieldNotFound name)
  | v => .error (.mismatch ("record with member '" ++ name ++ "'") v)

/-- Equality where null equals nothing but null. -/
def equalOrNull (a b : Value) : Bool :=
  if a.isNull || b.isNull then a.isNull && b.isNull else a.equal b

end Value

/-- A number for an order: below, at or above zero. -/
def signOf : Ordering → Int64
  | .lt => -1
  | .eq => 0
  | .gt => 1

namespace BinaryOp

/-- Whether the operator holds between two values in a given order; operators that do not compare hold
in none. -/
def holdsFor (op : BinaryOp) (order : Ordering) : Bool :=
  match op with
  | greaterThan => order == .gt
  | greaterOrEqual => order != .lt
  | lessThan => order == .lt
  | lessOrEqual => order != .gt
  | equal | notEqual | and | or => false

/-- The operator between two values. -/
def run (op : BinaryOp) (a b : Value) : Except EvalError Value :=
  let incomparable := EvalError.typeMismatch ("operands comparable with " ++ op.symbol)
    (a.dataType.scalarName ++ " and " ++ b.dataType.scalarName)
  match op with
  | equal => .ok (.boolean (a.equalOrNull b))
  | notEqual => .ok (.boolean (!a.equalOrNull b))
  | greaterThan | greaterOrEqual | lessThan | lessOrEqual =>
    match a.cmp? b with
    | some order => .ok (.boolean (op.holdsFor order))
    | none => .error incomparable
  | and | or =>
    match a, b with
    | .boolean x, .boolean y => .ok (.boolean (if op = .and then x && y else x || y))
    | _, _ => .error incomparable

/-- What the truth value of the left operand already decides. -/
def decided? (op : BinaryOp) (left : Bool) : Option Bool :=
  match op, left with
  | and, false => some false
  | or, true => some true
  | _, _ => none

end BinaryOp

/-- The order of two values as a number. -/
def Value.compareTo (a b : Value) : Except EvalError Value :=
  match a.cmp? b with
  | some order => .ok (.int (signOf order))
  | none => .error (.typeMismatch a.dataType.scalarName b.dataType.scalarName)

end TypedQuery
