import TypedQuery.Expr.Basic

/-!
# Parameters of expressions

Which parameters are free in an expression, putting an expression in the place of a parameter, and a
supply of identities that no expression at hand has.
-/

namespace TypedQuery

/-- Adds a parameter to those found, unless one of its identity is among them. -/
def addParameter (found : List Parameter) (p : Parameter) : List Parameter :=
  if found.any (·.id == p.id) then found else found ++ [p]

namespace Expr

mutual

/-- Adds the free parameters of an expression to those `found`, where the parameters of identities
`bound` are declared around it. -/
def collectFree (bound : List ParamId) (found : List Parameter) : Expr → List Parameter
  | .param p => if bound.contains p.id then found else addParameter found p
  | .const _ _ => found
  | .member e _ _ => collectFree bound found e
  | .binary _ l r => collectFree bound (collectFree bound found l) r
  | .not e => collectFree bound found e
  | .compare l r => collectFree bound (collectFree bound found l) r
  | .text e => collectFree bound found e
  | .contains _ e => collectFree bound found e
  | .call _ source args => collectFreeItems bound (collectFree bound found source) args
  | .lambda params body => collectFree (params.map Parameter.id ++ bound) found body
  | .new _ fields => collectFreeFields bound found fields

/-- Adds the free parameters of the expressions. -/
def collectFreeItems (bound : List ParamId) (found : List Parameter) : List Expr → List Parameter
  | [] => found
  | e :: rest => collectFreeItems bound (collectFree bound found e) rest

/-- Adds the free parameters of the fields. -/
def collectFreeFields (bound : List ParamId) (found : List Parameter) :
    List (String × Expr) → List Parameter
  | [] => found
  | (_, e) :: rest => collectFreeFields bound (collectFree bound found e) rest

end

/-- The parameters that occur outside every lambda that declares them, each once, in the order of
their first such occurrence. -/
def freeParameters (e : Expr) : List Parameter := collectFree [] [] e

/-- Whether a parameter occurs anywhere in the expression. -/
def mentions (e : Expr) (id : ParamId) : Bool :=
  e.nodes.any fun
    | .param p => p.id == id
    | _ => false

mutual

/-- Puts `r` in the place of every occurrence of the parameter `id`, those under a lambda that
declares it included. -/
def replace (e : Expr) (id : ParamId) (r : Expr) : Expr :=
  match e with
  | .param p => if p.id = id then r else .param p
  | .const v t => .const v t
  | .member e name t => .member (e.replace id r) name t
  | .binary op l e => .binary op (l.replace id r) (e.replace id r)
  | .not e => .not (e.replace id r)
  | .compare l e => .compare (l.replace id r) (e.replace id r)
  | .text e => .text (e.replace id r)
  | .contains set e => .contains set (e.replace id r)
  | .call op source args => .call op (source.replace id r) (replaceItems args id r)
  | .lambda params body => .lambda params (body.replace id r)
  | .new type fields => .new type (replaceFields fields id r)

/-- The replacement in each of the expressions. -/
def replaceItems (es : List Expr) (id : ParamId) (r : Expr) : List Expr :=
  match es with
  | [] => []
  | e :: rest => e.replace id r :: replaceItems rest id r

/-- The replacement in each of the fields. -/
def replaceFields (fields : List (String × Expr)) (id : ParamId) (r : Expr) : List (String × Expr) :=
  match fields with
  | [] => []
  | (k, e) :: rest => (k, e.replace id r) :: replaceFields rest id r

end

mutual

/-- A number above the index of every parameter that occurs or is declared in the expression. -/
def idBound : Expr → Nat
  | .param p => p.id.index + 1
  | .const _ _ => 0
  | .member e _ _ => e.idBound
  | .binary _ l r => max l.idBound r.idBound
  | .not e => e.idBound
  | .compare l r => max l.idBound r.idBound
  | .text e => e.idBound
  | .contains _ e => e.idBound
  | .call _ source args => max source.idBound (idBoundOfItems args)
  | .lambda params body => max ((params.map fun p => p.id.index + 1).foldr max 0) body.idBound
  | .new _ fields => idBoundOfFields fields

/-- The greatest bound of the expressions. -/
def idBoundOfItems : List Expr → Nat
  | [] => 0
  | e :: rest => max e.idBound (idBoundOfItems rest)

/-- The greatest bound of the fields. -/
def idBoundOfFields : List (String × Expr) → Nat
  | [] => 0
  | (_, e) :: rest => max e.idBound (idBoundOfFields rest)

end

end Expr

namespace Lambda

/-- The free parameters of a function. -/
def freeParameters (f : Lambda) : List Parameter := f.expr.freeParameters

end Lambda

/-! ## New parameters -/

/-- The identities that have not been given to a parameter: all from `next` on. -/
structure Supply where
  next : Nat := 0
deriving Inhabited

namespace Supply

/-- The supply without the identities of an expression. -/
def avoiding (s : Supply) (e : Expr) : Supply := ⟨max s.next e.idBound⟩

/-- A parameter with an identity of its own, and the supply without it. -/
def draw (s : Supply) (name : String) (ty : ExprType) : Parameter × Supply :=
  (⟨⟨s.next⟩, name, ty⟩, ⟨s.next + 1⟩)

end Supply

end TypedQuery
