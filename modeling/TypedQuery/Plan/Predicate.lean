import TypedQuery.Plan.Path
import TypedQuery.Value.Coercion

/-!
# Predicates of filters

Each clause becomes a condition on the element, and the conditions become one predicate. A clause
joined by `or` begins a new group, one joined by `and` goes on with the group before it; the
predicate is the disjunction of the groups, each the conjunction of its conditions.
-/

namespace TypedQuery

/-! ## Conditions -/

/-- The constant that a text stands for at a field: the text read as the declared type, and the text
itself where documents or null are declared. -/
def literalConstant (f : FieldRef) (s : String) : Except CompileError Expr :=
  match f.declared? with
  | none => .error (.typeCoercion f.path.raw s f.ty.display)
  | some type =>
    let value := match type with
      | .null | .json => some (Value.string s)
      | type => Value.parseAs? s type
    match value with
    | some v => .ok (.const v (.scalar type))
    | none => .error (.typeCoercion f.path.raw s type.scalarName)

/-- Whether the text of a field is in a set. -/
def textIn (f : FieldRef) (set : List String) : Expr := .contains set (.text f.expr)

/-- A field related to a text. -/
def relation (f : FieldRef) (op : BinaryOp) (s : String) : Except CompileError Expr := do
  return .binary op f.expr (← literalConstant f s)

/-- The order of a field and a text related to zero. -/
def orderRelation (f : FieldRef) (op : BinaryOp) (s : String) : Except CompileError Expr := do
  return .binary op (.compare f.expr (← literalConstant f s)) (.ofValue (.int 0))

/-- The kind of literal that a comparison takes, in words. -/
def ComparisonOp.operandKind : ComparisonOp → String
  | isIn | notIn => "text set"
  | isNull => "flag"
  | _ => "text"

/-- The condition that a comparison with a literal puts on a field. -/
def translate (f : FieldRef) (op : Option ComparisonOp) (literal : Literal) :
    Except CompileError Expr :=
  match op, literal with
  | none, _ => .error (.unsupportedOperator f.path.raw)
  | some .equals, .text s => relation f .equal s
  | some .notEqualTo, .text s => relation f .notEqual s
  | some .greaterThan, .text s => orderRelation f .greaterThan s
  | some .greaterThanOrEqualTo, .text s => orderRelation f .greaterOrEqual s
  | some .lessThan, .text s => orderRelation f .lessThan s
  | some .lessThanOrEqualTo, .text s => orderRelation f .lessOrEqual s
  | some .isIn, .textSet set => .ok (textIn f set)
  | some .notIn, .textSet set => .ok (.not (textIn f set))
  | some .isNull, .flag b =>
    .ok (.binary (if b then .equal else .notEqual) (.text f.expr) (.ofValue (.string "")))
  | some op, literal =>
    .error (.typeCoercion f.path.raw literal.display ("a " ++ op.operandKind ++ " operand"))

/-- The condition of a clause on the field at a path of the element. -/
def clauseCondition (r : MemberResolver) (element : Parameter) (path : FieldPath) (c : FilterClause) :
    Except CompileError Expr := do
  r.checkFilterable element.ty path
  let f ← r.resolvePath element.expr path
  translate f c.comparison c.literal

/-! ## Groups -/

/-- The groups of a filter, where `running` is the group that is not finished. -/
def groupsFrom (running : Expr) : List (Conjunction × Expr) → List Expr
  | [] => [running]
  | (.and, e) :: rest => groupsFrom (.binary .and running e) rest
  | (.or, e) :: rest => running :: groupsFrom e rest

/-- The groups of a filter. How the first condition is joined does not count. -/
def groups : List (Conjunction × Expr) → List Expr
  | [] => []
  | (_, e) :: rest => groupsFrom e rest

/-- The disjunction of expressions; of none it is true. -/
def disjunction : List Expr → Expr
  | [] => .ofBool true
  | e :: rest => rest.foldl (Expr.binary .or) e

/-! ## Filters -/

/-- A predicate on elements, with the issues of the clauses that were left out. -/
structure CompiledFilter where
  predicate : Lambda
  issues : List ClauseIssue
deriving Inhabited

/-- Whether the predicate accepts every element as it stands. -/
def CompiledFilter.isNoop (f : CompiledFilter) : Bool := f.predicate.body.isTrue

/-- The conditions of the clauses from position `index` on, and the issues of those left out. -/
def clauseConditions (r : MemberResolver) (policy : ClausePolicy) (element : Parameter) (index : Nat) :
    List FilterClause → Except CompileError (List (Conjunction × Expr) × List ClauseIssue)
  | [] => .ok ([], [])
  | c :: rest =>
    match c.defect?, c.field with
    | some defect, _ =>
      match policy with
      | .reject => .error (.ambiguousFilterClause index defect)
      | .drop => do
        let (conditions, issues) ← clauseConditions r policy element (index + 1) rest
        return (conditions, ⟨index, .warning, defect⟩ :: issues)
    | none, none => clauseConditions r policy element (index + 1) rest
    | none, some path => do
      let condition ← clauseCondition r element path c
      let (conditions, issues) ← clauseConditions r policy element (index + 1) rest
      return ((c.conjunction, condition) :: conditions, issues)

/-- Compiles a filter to a predicate on a parameter for the element. -/
def compileFilter (r : MemberResolver) (policy : ClausePolicy) (element : Parameter)
    (clauses : List FilterClause) : Except CompileError CompiledFilter := do
  let (conditions, issues) ← clauseConditions r policy element 0 clauses
  return ⟨⟨[element], disjunction (groups conditions)⟩, issues⟩

end TypedQuery
