import TypedQuery.Plan.Predicate
import TypedQuery.Request

/-!
# Shaping a sequence

What a filter, a sort and a page add to a sequence expression: they are applied in this order, and
each adds nothing where it changes nothing.
-/

namespace TypedQuery

/-! ## Sorts -/

/-- What a sort does to a sequence. -/
inductive CompiledSort where
  | unchanged
  | reversed
  | byKey (key : Lambda) (descending : Bool)
deriving Inhabited

namespace CompiledSort

/-- Whether the sort changes nothing. -/
def isUnchanged : CompiledSort → Bool
  | unchanged => true
  | _ => false

/-- The sequence after the sort. -/
def apply : CompiledSort → Expr → Expr
  | unchanged, seq => seq
  | reversed, seq => .call .reverse seq []
  | byKey key descending, seq =>
    .call (if descending then .orderByDescending else .orderBy) seq [key.expr]

end CompiledSort

/-- Compiles a sort, with a parameter for the element. -/
def compileSort (r : MemberResolver) (element : Parameter) (spec : Option SortSpec) :
    Except CompileError CompiledSort :=
  match spec with
  | none => .ok .unchanged
  | some ⟨none, .ascending⟩ => .ok .unchanged
  | some ⟨none, .descending⟩ => .ok .reversed
  | some ⟨some path, direction⟩ => do
    let f ← r.resolvePath element.expr path
    return .byKey ⟨[element], f.expr⟩ (direction == .descending)

/-! ## Pages -/

/-- The sequence with a number of its first elements left out, if that is not zero. -/
def skipTo (n : Int64) (seq : Expr) : Expr :=
  if n == 0 then seq else .call .skip seq [.ofValue (.int n)]

/-- The sequence cut at a limit, if there is one. -/
def limitTo (n : Option Int64) (seq : Expr) : Expr :=
  match n with
  | some n => .call .take seq [.ofValue (.int n)]
  | none => seq

/-- The page of a sequence. A number of elements below zero is left to the evaluation. -/
def PageSpec.apply (p : PageSpec) (seq : Expr) : Expr := limitTo p.take (skipTo p.skip seq)

/-! ## All three -/

/-- A filter, a sort and a page for one sequence. -/
structure Shaping where
  filter : CompiledFilter
  sort : CompiledSort
  page : PageSpec
deriving Inhabited

namespace Shaping

/-- The sequence filtered. -/
def filtered (s : Shaping) (seq : Expr) : Expr :=
  if s.filter.isNoop then seq else .call .filter seq [s.filter.predicate.expr]

/-- The sequence filtered, then sorted, then cut to the page. -/
def apply (s : Shaping) (seq : Expr) : Expr := s.page.apply (s.sort.apply (s.filtered seq))

/-- Whether the shaping changes nothing. -/
def isNoop (s : Shaping) : Bool := s.filter.isNoop && s.sort.isUnchanged && s.page.isNoop

end Shaping

/-- What shapes the sequence of a field, before it is compiled. -/
structure ShapingRequest where
  clauses : List FilterClause
  sort : Option SortSpec
  page : PageSpec
deriving Inhabited

/-- Compiles the shaping of a sequence, with a parameter for the element in the filter and one in the
sort. -/
def compileShaping (r : MemberResolver) (policy : ClausePolicy) (filterElement sortElement : Parameter)
    (request : ShapingRequest) : Except CompileError Shaping := do
  let filter ← compileFilter r policy filterElement request.clauses
  let sort ← compileSort r sortElement request.sort
  return ⟨filter, sort, request.page⟩

/-- Draws the parameters for the elements and compiles the shaping. -/
def drawShaping (r : MemberResolver) (policy : ClausePolicy) (elementType : ExprType)
    (request : ShapingRequest) (supply : Supply) : Except CompileError (Shaping × Supply) := do
  let (filterElement, supply) := supply.draw "p" elementType
  let (sortElement, supply) := supply.draw "s" elementType
  let shaping ← compileShaping r policy filterElement sortElement request
  return (shaping, supply)

end TypedQuery
