import TypedQuery.Expr.Basic
import TypedQuery.Form.Type
import TypedQuery.Form.Value

/-!
# Document forms of expressions

An expression goes by what it is, with its parts by their names. The identity of a parameter is
written as an identifier of 128 bits.
-/

namespace TypedQuery

open Json

/-! ## Parameters and operators -/

namespace Parameter

/-- The document form of a parameter. -/
def form (p : Parameter) : Json :=
  .object [("id", .string (Uuid.text ⟨BitVec.ofNat 128 p.id.index⟩)), ("name", .string p.name),
    ("ty", p.ty.form)]

/-- The parameter of a document form. -/
def ofForm? (j : Json) : Option Parameter := do
  if !isRecord 3 j then none
  else
    let id ← Uuid.read? (← string? (← slot? j 0 "id").1).toList
    let name ← string? (← slot? j 1 "name").1
    let ty ← ExprType.ofForm? (← slot? j 2 "ty").1
    return ⟨⟨id.bits.toNat⟩, name, ty⟩

end Parameter

namespace BinaryOp

/-- The name of the operator in documents. -/
def formName : BinaryOp → String
  | equal => "Equal"
  | notEqual => "NotEqual"
  | greaterThan => "GreaterThan"
  | greaterOrEqual => "GreaterOrEqual"
  | lessThan => "LessThan"
  | lessOrEqual => "LessOrEqual"
  | and => "And"
  | or => "Or"

/-- All operators. -/
def all : List BinaryOp :=
  [equal, notEqual, greaterThan, greaterOrEqual, lessThan, lessOrEqual, and, or]

/-- The operator that a document names. -/
def ofForm? (j : Json) : Option BinaryOp := named? (all.map fun op => (op.formName, op)) j

end BinaryOp

namespace SequenceOp

/-- All operators. -/
def all : List SequenceOp :=
  [filter, select, orderBy, orderByDescending, reverse, skip, take, first, firstOrDefault, last,
    lastOrDefault]

/-- The operator that a document names. -/
def ofForm? (j : Json) : Option SequenceOp := named? (all.map fun op => (op.name, op)) j

end SequenceOp

/-! ## Expressions -/

namespace Expr

mutual

/-- The document form of an expression. -/
def form : Expr → Json
  | .param p => tagged "Parameter" p.form
  | .const v ty => tagged "Constant" (.object [("value", v.form), ("ty", ty.form)])
  | .member e name ty =>
    tagged "Member" (.object [("target", e.form), ("name", .string name), ("ty", ty.form)])
  | .binary op l r =>
    tagged "Binary" (.object [("left", l.form), ("op", .string op.formName), ("right", r.form)])
  | .not e => tagged "Not" e.form
  | .compare l r => tagged "Compare" (.object [("left", l.form), ("right", r.form)])
  | .text e => tagged "Text" e.form
  | .contains set e => tagged "Contains" (.object [("set", ofStrings set), ("item", e.form)])
  | .call op source args =>
    tagged "Call" (.object [("op", .string op.name), ("source", source.form),
      ("args", .array (formOfItems args))])
  | .lambda params body =>
    tagged "Lambda" (.object [("params", .array (params.map Parameter.form)), ("body", body.form)])
  | .new type fields =>
    tagged "New" (.object [("ty", ofOption Json.string type),
      ("fields", .array (formOfFields fields))])

/-- The document forms of the expressions. -/
def formOfItems : List Expr → List Json
  | [] => []
  | e :: rest => e.form :: formOfItems rest

/-- The document forms of the fields. -/
def formOfFields : List (String × Expr) → List Json
  | [] => []
  | (k, e) :: rest => .array [.string k, e.form] :: formOfFields rest

end

/-- The expression of a document form. -/
def ofForm? (j : Json) : Option Expr :=
  match constructor? j with
  | some ("Parameter", some ⟨c, _⟩) => (Parameter.ofForm? c).map .param
  | some ("Constant", some ⟨c, _⟩) => do
    let v ← Value.ofForm? (← content? c "value").1
    return .const v (← ExprType.ofForm? (← content? c "ty").1)
  | some ("Member", some ⟨c, _⟩) => do
    let ⟨target, _⟩ ← content? c "target"
    let e ← ofForm? target
    let name ← string? (← content? c "name").1
    return .member e name (← ExprType.ofForm? (← content? c "ty").1)
  | some ("Binary", some ⟨c, _⟩) => do
    let ⟨left, _⟩ ← content? c "left"
    let ⟨right, _⟩ ← content? c "right"
    let op ← BinaryOp.ofForm? (← content? c "op").1
    return .binary op (← ofForm? left) (← ofForm? right)
  | some ("Not", some ⟨c, _⟩) => (ofForm? c).map .not
  | some ("Compare", some ⟨c, _⟩) => do
    let ⟨left, _⟩ ← content? c "left"
    let ⟨right, _⟩ ← content? c "right"
    return .compare (← ofForm? left) (← ofForm? right)
  | some ("Text", some ⟨c, _⟩) => (ofForm? c).map .text
  | some ("Contains", some ⟨c, _⟩) => do
    let set ← strings? (← content? c "set").1
    let ⟨item, _⟩ ← content? c "item"
    return .contains set (← ofForm? item)
  | some ("Call", some ⟨c, _⟩) => do
    let op ← SequenceOp.ofForm? (← content? c "op").1
    let ⟨source, _⟩ ← content? c "source"
    let ⟨args, _⟩ ← content? c "args"
    let items ← parts? args
    return .call op (← ofForm? source) (← items.mapM fun ⟨p, _⟩ => ofForm? p)
  | some ("Lambda", some ⟨c, _⟩) => do
    if !isRecord 2 c then none
    else
      let ⟨params, _⟩ ← slot? c 0 "params"
      let params ← (← parts? params).mapM fun p => Parameter.ofForm? p.1
      let ⟨body, _⟩ ← slot? c 1 "body"
      return .lambda params (← ofForm? body)
  | some ("New", some ⟨c, _⟩) => do
    let type ← (← optionalSlot? c 0 "ty").mapM fun t => string? t.1
    let ⟨fields, _⟩ ← content? c "fields"
    let items ← parts? fields
    let fields ← items.mapM fun ⟨p, _⟩ => do
      let (⟨k, _⟩, ⟨e, _⟩) ← pair? p
      return (← string? k, ← ofForm? e)
    return .new type fields
  | _ => none
termination_by j.depth

end Expr

/-- The function of a document form. -/
def Lambda.ofForm? (j : Json) : Option Lambda := do
  match ← Expr.ofForm? (tagged "Lambda" j) with
  | .lambda params body => return ⟨params, body⟩
  | _ => none

/-- The document form of a function. -/
def Lambda.form (f : Lambda) : Json :=
  .object [("params", .array (f.params.map Parameter.form)), ("body", f.body.form)]

end TypedQuery
