import TypedQuery.Eval.Operators

/-!
# Operators on sequences

What the operators on sequences do to a list of values. The argument of an operator is given as an
`Operand`: a function comes as what it does to an element, so that nothing here looks at an
expression.
-/

namespace TypedQuery

/-- The first argument of a call. -/
inductive Operand where
  | missing
  /-- A function of `arity` parameters, what it makes of an element, and its written form. -/
  | function (arity : Nat) (apply : Value → Except EvalError Value) (text : String)
  /-- Any other expression: its value and its written form. -/
  | plain (value : Except EvalError Value) (text : String)

namespace Operand

/-- What an argument gives that has to be a function of one parameter. -/
def function? (op : SequenceOp) : Operand → Except EvalError (Value → Except EvalError Value)
  | .function 1 apply _ => .ok apply
  | _ => .error (.unsupported (op.name ++ " expects a single-parameter lambda"))

/-- What is said of a function whose value is asked for. -/
def functionValueError (text : String) : EvalError :=
  .unsupported ("lambda '" ++ text ++ "' outside a sequence operator")

/-- The number of elements that an argument gives. -/
def count (op : SequenceOp) : Operand → Except EvalError Nat
  | .missing => .error (.unsupported (op.name ++ " expects a count"))
  | .function _ _ text => .error (functionValueError text)
  | .plain value _ => value >>= Value.count

end Operand

/-- The items that pass a test, in order. -/
def keepItems (test : Value → Except EvalError Value) : List Value → Except EvalError (List Value)
  | [] => .ok []
  | v :: rest => do
    let passes ← test v >>= Value.truth
    let kept ← keepItems test rest
    return if passes then v :: kept else kept

/-- What a function makes of the items, one by one. -/
def mapItems (f : Value → Except EvalError Value) : List Value → Except EvalError (List Value)
  | [] => .ok []
  | v :: rest => do
    let w ← f v
    let mapped ← mapItems f rest
    return w :: mapped

/-- Whether an item may stand in front of another by their keys. Keys without an order count as
equal, which makes a total order only where all keys have one. -/
def inOrder (descending : Bool) (a b : Value × Value) : Bool :=
  let order := (a.1.cmp? b.1).getD .eq
  (if descending then order.swap else order) != .gt

/-- The items sorted by their keys; items with equal keys stay in their order. Where keys have no
total order, a stable sort leaves open in which order the items come, and the merge gives one of
those that are permitted. -/
def sortItems (descending : Bool) (key : Value → Except EvalError Value) (items : List Value) :
    Except EvalError (List Value) := do
  let keys ← mapItems key items
  return ((keys.zip items).mergeSort (inOrder descending)).map Prod.snd

/-- The items that an argument leaves of those that an element is picked of. -/
def candidates (op : SequenceOp) (arg : Operand) (items : List Value) :
    Except EvalError (List Value) :=
  match arg with
  | .missing => .ok items
  | .function _ apply _ => keepItems apply items
  | .plain _ text => .error (.unsupported (op.name ++ " expects a predicate lambda, got " ++ text))

namespace SequenceOp

/-- The operator on the items of its source and its argument. -/
def run (op : SequenceOp) (items : List Value) (arg : Operand) : Except EvalError Value :=
  match op with
  | filter => do
    let f ← arg.function? op
    return .list (← keepItems f items)
  | select => do
    let f ← arg.function? op
    return .list (← mapItems f items)
  | orderBy => do
    let f ← arg.function? op
    return .list (← sortItems false f items)
  | orderByDescending => do
    let f ← arg.function? op
    return .list (← sortItems true f items)
  | reverse => .ok (.list items.reverse)
  | skip => do
    let n ← arg.count op
    return .list (items.drop n)
  | take => do
    let n ← arg.count op
    return .list (items.take n)
  | first => do
    match (← candidates op arg items).head? with
    | some v => return v
    | none => .error (.emptySequence op)
  | last => do
    match (← candidates op arg items).getLast? with
    | some v => return v
    | none => .error (.emptySequence op)
  | firstOrDefault => do return (← candidates op arg items).head?.getD .null
  | lastOrDefault => do return (← candidates op arg items).getLast?.getD .null

end SequenceOp

end TypedQuery
