import TypedQuery.Plan.Predicate
import TypedQuery.Proofs.Eval.Locality
import TypedQuery.Proofs.Except
import TypedQuery.Proofs.Expr.Replacement

/-!
# Conditions on an element

What clauses and sort fields are compiled to is read off the element alone.  `Expr.OverElement` is
the form of such expressions: they are built over the element's parameter without lambdas, calls and
records.  Which parameter stands for the element makes no difference, so
`Expr.OverElement.eval_replace` and `clauseCondition_rename` let later modules change it at will.
-/

namespace TypedQuery

/-- An expression over one parameter, without lambdas, calls and records. -/
inductive Expr.OverElement (id : ParamId) : Expr → Prop where
  | param (p : Parameter) (h : p.id = id) : OverElement id (.param p)
  | const (v : Value) (t : ExprType) : OverElement id (.const v t)
  | member {e : Expr} (name : String) (t : ExprType) (h : OverElement id e) :
      OverElement id (.member e name t)
  | binary (op : BinaryOp) {l r : Expr} (hl : OverElement id l) (hr : OverElement id r) :
      OverElement id (.binary op l r)
  | not {e : Expr} (h : OverElement id e) : OverElement id (.not e)
  | compare {l r : Expr} (hl : OverElement id l) (hr : OverElement id r) :
      OverElement id (.compare l r)
  | text {e : Expr} (h : OverElement id e) : OverElement id (.text e)
  | contains (set : List String) {e : Expr} (h : OverElement id e) :
      OverElement id (.contains set e)

namespace Expr.OverElement

variable {id : ParamId} {e : Expr} (h : e.OverElement id)

include h

theorem isUnary : e.isUnary = true := by
  induction h with
  | param | const => rfl
  | member _ _ _ ih | not _ ih | text _ ih | contains _ _ ih => simpa using ih
  | binary _ _ _ hl hr | compare _ _ hl hr => simp [hl, hr]

theorem declares_eq_false (y : ParamId) : e.declares y = false := by
  induction h with
  | param | const => rfl
  | member _ _ _ ih | not _ ih | text _ ih | contains _ _ ih => simpa using ih
  | binary _ _ _ hl hr | compare _ _ hl hr => simp [hl, hr]

theorem mentions_eq_false {y : ParamId} (hy : y ≠ id) : e.mentions y = false := by
  induction h with
  | param p hp =>
    rw [mentions_param, hp]
    exact beq_eq_false_iff_ne.2 hy.symm
  | const => rfl
  | member _ _ _ ih | not _ ih | text _ ih | contains _ _ ih => simpa using ih
  | binary _ _ _ hl hr | compare _ _ hl hr => simp [hl, hr]

theorem eq_of_mem_freeIds {y : ParamId} (hy : y ∈ e.freeIds) : y = id := by
  by_contra hne
  have hmentions := mentions_of_mem_freeIds hy
  rw [h.mentions_eq_false hne] at hmentions
  cases hmentions

/-- The value for the element is what counts, under whatever parameter it stands. -/
theorem eval_replace {σ τ : Scope} {q : Parameter} {v : Value} (hσ : σ.get? id = some v)
    (hτ : τ.get? q.id = some v) : (e.replace id q.expr).eval τ = e.eval σ := by
  induction h with
  | param p hp =>
    subst hp
    rw [replace_param_self, Parameter.expr, eval_param_of_get? hτ, eval_param_of_get? hσ]
  | const => rfl
  | member _ _ _ ih => rw [replace_member, eval_member, eval_member, ih]
  | binary op _ _ hl hr => rw [replace_binary, eval, eval, hl, hr]
  | not _ ih => rw [replace_not, eval_not, eval_not, ih]
  | compare _ _ hl hr => rw [replace_compare, eval_compare, eval_compare, hl, hr]
  | text _ ih => rw [replace_text, eval_text, eval_text, ih]
  | contains _ _ ih => rw [replace_contains, eval_contains, eval_contains, ih]

theorem eval_eq {σ τ : Scope} {v : Value} (hσ : σ.get? id = some v) (hτ : τ.get? id = some v) :
    e.eval σ = e.eval τ := by
  refine eval_congr h.isUnary ?_
  intro y hy
  rw [h.eq_of_mem_freeIds hy, hσ, hτ]

end Expr.OverElement

/-! ## Tests -/

namespace Expr

/-- What an expression is as a truth value. -/
def test (scope : Scope) (e : Expr) : Except EvalError Bool := e.eval scope >>= Value.truth

/-- An expression that has no values but truth values. -/
def IsTest (e : Expr) : Prop := ∀ scope, e.eval scope = (e.test scope).map Value.boolean

theorem isTest_of_eval {e : Expr} (h : ∀ scope v, e.eval scope = .ok v → ∃ b, v = .boolean b) :
    e.IsTest := by
  intro scope
  unfold test
  cases he : e.eval scope with
  | error err => rfl
  | ok v =>
    obtain ⟨b, rfl⟩ := h scope v he
    rfl

theorem isTest_ofBool (b : Bool) : (ofBool b).IsTest := fun _ => rfl

theorem isTest_not (e : Expr) : (Expr.not e).IsTest := by
  refine isTest_of_eval ?_
  intro scope v h
  rw [eval_not, bind_eq_ok_iff] at h
  obtain ⟨_, -, h⟩ := h
  obtain ⟨b, -, h⟩ := bind_eq_ok_iff.1 h
  exact ⟨!b, (Except.ok.inj h).symm⟩

theorem isTest_contains (set : List String) (e : Expr) : (Expr.contains set e).IsTest := by
  refine isTest_of_eval ?_
  intro scope v h
  rw [eval_contains, bind_eq_ok_iff] at h
  obtain ⟨w, -, h⟩ := h
  exact ⟨set.contains w.text, (Except.ok.inj h).symm⟩

/-- The operators between two operands give truth values only. -/
theorem exists_eq_boolean_of_run {op : BinaryOp} {a b v : Value} (h : op.run a b = .ok v) :
    ∃ t, v = .boolean t := by
  unfold BinaryOp.run at h
  split at h
  · exact ⟨_, (Except.ok.inj h).symm⟩
  · exact ⟨_, (Except.ok.inj h).symm⟩
  all_goals
    split at h
    · exact ⟨_, (Except.ok.inj h).symm⟩
    · cases h

theorem isTest_binary (op : BinaryOp) (l r : Expr) : (Expr.binary op l r).IsTest := by
  refine isTest_of_eval ?_
  intro scope v h
  by_cases hop : op.isLogical = true
  · rw [eval_binary_logical hop, bind_eq_ok_iff] at h
    obtain ⟨_, -, h⟩ := h
    obtain ⟨left, -, h⟩ := bind_eq_ok_iff.1 h
    split at h
    · exact ⟨_, (Except.ok.inj h).symm⟩
    · obtain ⟨_, -, h⟩ := bind_eq_ok_iff.1 h
      obtain ⟨right, -, h⟩ := bind_eq_ok_iff.1 h
      exact ⟨right, (Except.ok.inj h).symm⟩
  · rw [eval_binary_of_not_logical hop, bind_eq_ok_iff] at h
    obtain ⟨_, -, h⟩ := h
    obtain ⟨_, -, h⟩ := bind_eq_ok_iff.1 h
    exact exists_eq_boolean_of_run h

end Expr

/-! ## Paths -/

section Paths

variable {r : MemberResolver}

theorem follow_cons (e : Expr) (ty : ExprType) (name : String) (names : List String) :
    r.follow e ty (name :: names) =
      r.member ty name >>= fun m => r.follow (.member e m.1 m.2) m.2 names := rfl

/-- Members are found by types alone, so what they are members of may be replaced before. -/
theorem follow_replace (x : ParamId) (d e : Expr) (ty : ExprType) (names : List String) :
    r.follow (e.replace x d) ty names =
      (r.follow e ty names).map fun found => (found.1.replace x d, found.2) := by
  induction names generalizing e ty with
  | nil => rfl
  | cons name names ih =>
    rw [follow_cons, follow_cons, map_bind]
    congr 1
    funext m
    exact ih (.member e m.1 m.2) m.2

theorem overElement_of_follow {id : ParamId} {e e' : Expr} {ty ty' : ExprType}
    {names : List String} (he : e.OverElement id) (h : r.follow e ty names = .ok (e', ty')) :
    e'.OverElement id := by
  induction names generalizing e ty with
  | nil =>
    obtain ⟨rfl, -⟩ := Prod.mk.inj (Except.ok.inj h)
    exact he
  | cons name names ih =>
    rw [follow_cons, bind_eq_ok_iff] at h
    obtain ⟨m, -, h⟩ := h
    exact ih (.member m.1 m.2 he) h

/-- A reference whose expression has something else in the place of a parameter. -/
def FieldRef.replace (f : FieldRef) (x : ParamId) (d : Expr) : FieldRef :=
  { f with expr := f.expr.replace x d }

theorem resolvePath_eq (root : Expr) (path : FieldPath) :
    r.resolvePath root path =
      if path.isEmpty then .error (.unknownField path.raw root.ty.display)
      else (r.follow root root.ty path.segments).map fun found => ⟨path, found.1, found.2⟩ := by
  unfold MemberResolver.resolvePath
  split
  · rfl
  · cases r.follow root root.ty path.segments <;> rfl

theorem overElement_of_resolvePath {p : Parameter} {path : FieldPath} {f : FieldRef}
    (h : r.resolvePath p.expr path = .ok f) : f.expr.OverElement p.id := by
  rw [resolvePath_eq] at h
  split at h
  · cases h
  · obtain ⟨⟨e, ty⟩, hfollow, rfl⟩ := map_eq_ok_iff.1 h
    exact overElement_of_follow (.param p rfl) hfollow

/-- Paths from two parameters of one type differ in the parameter only. -/
theorem resolvePath_rename {p q : Parameter} (hty : q.ty = p.ty) (path : FieldPath) :
    r.resolvePath q.expr path = (r.resolvePath p.expr path).map (·.replace p.id q.expr) := by
  have htypes : q.expr.ty = p.expr.ty := hty
  rw [resolvePath_eq, resolvePath_eq, htypes]
  split
  · rfl
  · have hfollow := follow_replace (r := r) p.id q.expr p.expr p.expr.ty path.segments
    rw [show p.expr.replace p.id q.expr = q.expr from Expr.replace_param_self p] at hfollow
    rw [hfollow]
    cases r.follow p.expr p.expr.ty path.segments <;> rfl

end Paths

/-! ## Conditions of clauses -/

theorem literalConstant_replace (f : FieldRef) (x : ParamId) (d : Expr) (s : String) :
    literalConstant (f.replace x d) s = literalConstant f s := rfl

theorem exists_const_of_literalConstant {f : FieldRef} {s : String} {e : Expr}
    (h : literalConstant f s = .ok e) : ∃ v t, e = .const v t := by
  unfold literalConstant at h
  split at h
  · cases h
  · dsimp only at h
    split at h
    · exact ⟨_, _, (Except.ok.inj h).symm⟩
    · cases h

theorem relation_eq (f : FieldRef) (op : BinaryOp) (s : String) :
    relation f op s = (literalConstant f s).map fun c => .binary op f.expr c := by
  unfold relation
  cases literalConstant f s <;> rfl

theorem orderRelation_eq (f : FieldRef) (op : BinaryOp) (s : String) :
    orderRelation f op s =
      (literalConstant f s).map fun c => .binary op (.compare f.expr c) (.ofValue (.int 0)) := by
  unfold orderRelation
  cases literalConstant f s <;> rfl

/-- What a comparison with a literal comes to, whatever the field is: a condition on it, or a failure
that names it. -/
inductive ConditionForm where
  | relation (test : BinaryOp) (s : String)
  | order (test : BinaryOp) (s : String)
  | among (set : List String)
  | notAmong (set : List String)
  | textRelation (test : BinaryOp)
  | unsupported
  | unsuited (literal operand : String)

/-- The condition of the form on a field. -/
def ConditionForm.on (f : FieldRef) : ConditionForm → Except CompileError Expr
  | relation test s => TypedQuery.relation f test s
  | order test s => orderRelation f test s
  | among set => .ok (textIn f set)
  | notAmong set => .ok (.not (textIn f set))
  | textRelation test => .ok (.binary test (.text f.expr) (.ofValue (.string "")))
  | unsupported => .error (.unsupportedOperator f.path.raw)
  | unsuited literal operand => .error (.typeCoercion f.path.raw literal operand)

/-- Every comparison with a literal has a form. -/
theorem exists_form_of_translate (op : Option ComparisonOp) (literal : Literal) :
    ∃ form : ConditionForm, ∀ f, translate f op literal = form.on f := by
  cases op with
  | none => exact ⟨.unsupported, fun _ => rfl⟩
  | some op =>
    cases literal with
    | text s =>
      cases op with
      | equals => exact ⟨.relation .equal s, fun _ => rfl⟩
      | notEqualTo => exact ⟨.relation .notEqual s, fun _ => rfl⟩
      | greaterThan => exact ⟨.order .greaterThan s, fun _ => rfl⟩
      | greaterThanOrEqualTo => exact ⟨.order .greaterOrEqual s, fun _ => rfl⟩
      | lessThan => exact ⟨.order .lessThan s, fun _ => rfl⟩
      | lessThanOrEqualTo => exact ⟨.order .lessOrEqual s, fun _ => rfl⟩
      | isIn | notIn | isNull => exact ⟨.unsuited _ _, fun _ => rfl⟩
    | textSet set =>
      cases op with
      | isIn => exact ⟨.among set, fun _ => rfl⟩
      | notIn => exact ⟨.notAmong set, fun _ => rfl⟩
      | _ => exact ⟨.unsuited _ _, fun _ => rfl⟩
    | flag b =>
      cases op with
      | isNull => exact ⟨.textRelation (if b then .equal else .notEqual), fun _ => rfl⟩
      | _ => exact ⟨.unsuited _ _, fun _ => rfl⟩
    | absent => cases op <;> exact ⟨.unsuited _ _, fun _ => rfl⟩

/-- The forms of a condition on a field. -/
inductive ConditionOn (field : Expr) : Expr → Prop where
  | relation (op : BinaryOp) (v : Value) (t : ExprType) :
      ConditionOn field (.binary op field (.const v t))
  | order (op : BinaryOp) (v w : Value) (t u : ExprType) :
      ConditionOn field (.binary op (.compare field (.const v t)) (.const w u))
  | among (set : List String) : ConditionOn field (.contains set (.text field))
  | notAmong (set : List String) : ConditionOn field (.not (.contains set (.text field)))
  | textRelation (op : BinaryOp) (v : Value) (t : ExprType) :
      ConditionOn field (.binary op (.text field) (.const v t))

namespace ConditionOn

variable {field e : Expr} (h : ConditionOn field e)

include h

theorem isTest : e.IsTest := by
  cases h with
  | relation | order | textRelation => exact Expr.isTest_binary _ _ _
  | among => exact Expr.isTest_contains _ _
  | notAmong => exact Expr.isTest_not _

theorem overElement {id : ParamId} (hfield : field.OverElement id) : e.OverElement id := by
  cases h with
  | relation op v t => exact .binary op hfield (.const v t)
  | order op v w t u => exact .binary op (.compare hfield (.const v t)) (.const w u)
  | among set => exact .contains set (.text hfield)
  | notAmong set => exact .not (.contains set (.text hfield))
  | textRelation op v t => exact .binary op (.text hfield) (.const v t)

end ConditionOn

theorem conditionOn_of_relation {f : FieldRef} {op : BinaryOp} {s : String} {e : Expr}
    (h : relation f op s = .ok e) : ConditionOn f.expr e := by
  rw [relation_eq, map_eq_ok_iff] at h
  obtain ⟨c, hc, rfl⟩ := h
  obtain ⟨v, t, rfl⟩ := exists_const_of_literalConstant hc
  exact .relation op v t

theorem conditionOn_of_orderRelation {f : FieldRef} {op : BinaryOp} {s : String} {e : Expr}
    (h : orderRelation f op s = .ok e) : ConditionOn f.expr e := by
  rw [orderRelation_eq, map_eq_ok_iff] at h
  obtain ⟨c, hc, rfl⟩ := h
  obtain ⟨v, t, rfl⟩ := exists_const_of_literalConstant hc
  exact .order op v _ t _

theorem conditionOn_of_translate {f : FieldRef} {op : Option ComparisonOp} {literal : Literal}
    {e : Expr} (h : translate f op literal = .ok e) : ConditionOn f.expr e := by
  obtain ⟨form, hform⟩ := exists_form_of_translate op literal
  rw [hform] at h
  cases form with
  | relation test s => exact conditionOn_of_relation h
  | order test s => exact conditionOn_of_orderRelation h
  | among set =>
    obtain rfl := Except.ok.inj h
    exact .among set
  | notAmong set =>
    obtain rfl := Except.ok.inj h
    exact .notAmong set
  | textRelation test =>
    obtain rfl := Except.ok.inj h
    exact .textRelation test _ _
  | unsupported | unsuited => cases h

/-- What is built on a constant is replaced around it, since the constant has nothing to replace. -/
theorem map_literalConstant_replace {f : FieldRef} {x : ParamId} {d : Expr} {s : String}
    {g g' : Expr → Expr} (h : ∀ v t, g' (.const v t) = (g (.const v t)).replace x d) :
    (literalConstant (f.replace x d) s).map g' =
      ((literalConstant f s).map g).map (·.replace x d) := by
  rw [literalConstant_replace]
  cases hc : literalConstant f s with
  | error err => rfl
  | ok c =>
    obtain ⟨v, t, rfl⟩ := exists_const_of_literalConstant hc
    rw [map_ok, map_ok, map_ok, h]

theorem relation_replace (f : FieldRef) (x : ParamId) (d : Expr) (op : BinaryOp) (s : String) :
    relation (f.replace x d) op s = (relation f op s).map (·.replace x d) := by
  rw [relation_eq, relation_eq]
  exact map_literalConstant_replace fun _ _ => rfl

theorem orderRelation_replace (f : FieldRef) (x : ParamId) (d : Expr) (op : BinaryOp)
    (s : String) :
    orderRelation (f.replace x d) op s = (orderRelation f op s).map (·.replace x d) := by
  rw [orderRelation_eq, orderRelation_eq]
  exact map_literalConstant_replace fun _ _ => rfl

theorem translate_replace (f : FieldRef) (x : ParamId) (d : Expr) (op : Option ComparisonOp)
    (literal : Literal) :
    translate (f.replace x d) op literal = (translate f op literal).map (·.replace x d) := by
  obtain ⟨form, hform⟩ := exists_form_of_translate op literal
  rw [hform, hform]
  cases form with
  | relation test s => exact relation_replace f x d test s
  | order test s => exact orderRelation_replace f x d test s
  | _ => rfl

section Clauses

variable {r : MemberResolver} {p q : Parameter} {path : FieldPath} {c : FilterClause} {e : Expr}

theorem clauseCondition_eq :
    clauseCondition r p path c =
      r.checkFilterable p.ty path >>= fun _ => r.resolvePath p.expr path >>= fun f =>
        translate f c.comparison c.literal := rfl

theorem conditionOn_of_clauseCondition (h : clauseCondition r p path c = .ok e) :
    ∃ f, r.resolvePath p.expr path = .ok f ∧ ConditionOn f.expr e := by
  rw [clauseCondition_eq, bind_eq_ok_iff] at h
  obtain ⟨_, -, h⟩ := h
  obtain ⟨f, hf, h⟩ := bind_eq_ok_iff.1 h
  exact ⟨f, hf, conditionOn_of_translate h⟩

/-- A condition looks at nothing but the element. -/
theorem overElement_of_clauseCondition (h : clauseCondition r p path c = .ok e) :
    e.OverElement p.id := by
  obtain ⟨f, hf, he⟩ := conditionOn_of_clauseCondition h
  exact he.overElement (overElement_of_resolvePath hf)

theorem isTest_of_clauseCondition (h : clauseCondition r p path c = .ok e) : e.IsTest := by
  obtain ⟨f, -, he⟩ := conditionOn_of_clauseCondition h
  exact he.isTest

/-- Conditions of one clause on two parameters of one type differ in the parameter only. -/
theorem clauseCondition_rename (hty : q.ty = p.ty) :
    clauseCondition r q path c = (clauseCondition r p path c).map (·.replace p.id q.expr) := by
  rw [clauseCondition_eq, clauseCondition_eq, hty, resolvePath_rename hty, map_bind]
  congr 1
  funext _
  rw [bind_map, map_bind]
  congr 1
  funext f
  exact translate_replace f p.id q.expr c.comparison c.literal

end Clauses

end TypedQuery
