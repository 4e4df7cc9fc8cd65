import TypedQuery.Proofs.Eval.Substitution
import TypedQuery.Proofs.Expr.Reparenting

/-!
# Running bound expressions

Execution evaluates a bound expression in the scope of its constants and the root, once every free
parameter has a value there.  Putting an expression in the place of the context means to evaluate
with the context bound to that expression's value.
-/

namespace TypedQuery

/-! ## Scopes -/

/-- The scope with a value for a parameter, if there is one. -/
def Scope.bindOption (scope : Scope) (p : Option Parameter) (v : Value) : Scope :=
  match p with
  | some p => scope.bind p v
  | none => scope

theorem Scope.get?_bindOption_eq {σ τ : Scope} (p : Option Parameter) (v : Value) {id : ParamId}
    (h : p.map Parameter.id ≠ some id → σ.get? id = τ.get? id) :
    (σ.bindOption p v).get? id = (τ.bindOption p v).get? id := by
  cases p with
  | none => exact h nofun
  | some p =>
    rw [bindOption, bindOption, get?_bind, get?_bind]
    split
    · rfl
    · rename_i hne
      exact h fun heq => hne (Option.some.inj heq).symm

theorem Scope.get?_bindOption_of_ne {scope : Scope} {p : Option Parameter} {v : Value}
    {id : ParamId} (h : ∀ q ∈ p, id ≠ q.id) :
    (scope.bindOption p v).get? id = scope.get? id := by
  cases p with
  | none => rfl
  | some q => exact get?_bind_of_ne (h q rfl)

/-- The constants have values, whatever else is bound before them. -/
theorem Scope.get?_foldl_bind_ne_none {bindings : List (Parameter × Value)} {scope : Scope}
    {id : ParamId} (h : id ∈ bindings.map (·.1.id) ∨ scope.get? id ≠ none) :
    (bindings.foldl (fun scope (p, v) => scope.bind p v) scope).get? id ≠ none := by
  induction bindings generalizing scope with
  | nil => simpa using h
  | cons c bindings ih =>
    refine ih ?_
    rw [get?_bind]
    split
    · exact Or.inr nofun
    · rename_i hne
      rw [List.map_cons, List.mem_cons] at h
      grind

/-! ## The context -/

section Context

variable {b : BoundExpr} {context : Expr} {x : Parameter}

theorem context_substituteContext (h : context.freeParameters = [x]) :
    (b.substituteContext context).context = some x := by
  rw [BoundExpr.context_substituteContext_eq_head?, h]
  rfl

/-- With the context's value for the parameter the expression means what it did. -/
theorem eval_substituteContext_eq_ok_iff (hcontext : context.isUnary = true)
    (hparam : ∀ c ∈ b.context, b.expression.declares c.id = false)
    (hcapture : ∀ id ∈ context.freeIds, b.expression.declares id = false) {scope : Scope}
    {v w : Value} (hv : context.eval scope = .ok v) :
    (b.substituteContext context).expression.eval scope = .ok w ↔
      b.expression.eval (scope.bindOption b.context v) = .ok w := by
  unfold BoundExpr.substituteContext
  cases hc : b.context with
  | none => rfl
  | some c => exact Expr.eval_replace_eq_ok_iff hcontext (hparam c hc) hcapture hv

end Context

/-! ## Execution -/

namespace BoundExpr

variable {b : BoundExpr} {root : Value}

/-- Where every free parameter has a value, execution is evaluation. -/
theorem scope_eq : b.scope root = (Scope.ofList b.constants).bindOption b.context root := by
  unfold scope
  cases b.context <;> rfl

/-- The identities that have a value when the expression is run. -/
def closedIds (b : BoundExpr) : List ParamId :=
  b.context.toList.map Parameter.id ++ b.constants.map (·.1.id)

/-- An expression whose free parameters all have a value when it is run. -/
def IsClosed (b : BoundExpr) : Prop := ∀ id ∈ b.expression.freeIds, id ∈ b.closedIds

theorem get?_scope_ne_none {id : ParamId} (h : id ∈ b.closedIds) :
    (b.scope root).get? id ≠ none := by
  have hconstant : id ∈ b.constants.map (·.1.id) → (Scope.ofList b.constants).get? id ≠ none :=
    fun hid => Scope.get?_foldl_bind_ne_none (Or.inl hid)
  rw [scope_eq]
  unfold closedIds at h
  cases hc : b.context with
  | none =>
    rw [hc] at h
    exact hconstant (by simpa using h)
  | some c =>
    rw [hc] at h
    rw [Scope.bindOption, Scope.get?_bind]
    split
    · nofun
    · rename_i hne
      refine hconstant ?_
      simpa [hne] using h

theorem execute_eq_eval
    (h : ∀ id ∈ b.expression.freeIds, (b.scope root).get? id ≠ none) :
    b.execute root = b.expression.eval (b.scope root) := by
  unfold execute
  have hfind : (b.expression.freeParameters.find? fun p =>
      ((b.scope root).get? p.id).isNone) = none := by
    rw [List.find?_eq_none]
    intro p hp hnone
    exact h p.id (Expr.id_mem_freeIds_of_mem hp) (Option.isNone_iff_eq_none.1 hnone)
  rw [hfind]

/-- Execution gives a value if every free parameter has one and the expression has. -/
theorem execute_eq_ok_iff {v : Value} :
    b.execute root = .ok v ↔
      (∀ id ∈ b.expression.freeIds, (b.scope root).get? id ≠ none) ∧
        b.expression.eval (b.scope root) = .ok v := by
  constructor
  · intro h
    have hbound : ∀ id ∈ b.expression.freeIds, (b.scope root).get? id ≠ none := by
      intro id hid hnone
      obtain ⟨p, hp, rfl⟩ := Expr.exists_mem_freeParameters hid
      unfold execute at h
      split at h
      · cases h
      · rename_i hfind
        rw [List.find?_eq_none] at hfind
        exact hfind p hp (Option.isNone_iff_eq_none.2 hnone)
    exact ⟨hbound, (execute_eq_eval hbound).symm.trans h⟩
  · rintro ⟨hbound, h⟩
    exact (execute_eq_eval hbound).trans h

theorem IsClosed.execute_eq_eval (h : b.IsClosed) :
    b.execute root = b.expression.eval ((Scope.ofList b.constants).bindOption b.context root) := by
  rw [BoundExpr.execute_eq_eval fun id hid => get?_scope_ne_none (h id hid), scope_eq]

/-! ## What stays open -/

/-- The identities of the parameters without a constant. -/
theorem mem_map_id_unboundParameters {id : ParamId} :
    id ∈ b.unboundParameters.map Parameter.id ↔
      id ∈ b.expression.freeIds ∧ id ∉ b.constants.map (·.1.id) := by
  have hvalue : (b.value? id).isNone = true ↔ id ∉ b.constants.map (·.1.id) := by
    rw [value?, Option.isNone_iff_eq_none, Option.map_eq_none_iff, List.find?_eq_none]
    simp
  rw [unboundParameters, ← hvalue, ← Expr.mem_map_id_freeParameters]
  simp only [List.mem_map, List.mem_filter]
  constructor
  · rintro ⟨p, ⟨hp, hnone⟩, rfl⟩
    exact ⟨⟨p, hp, rfl⟩, hnone⟩
  · rintro ⟨⟨p, hp, rfl⟩, hnone⟩
    exact ⟨p, ⟨hp, hnone⟩, rfl⟩

/-- Over a context a closed expression is open in parameters of the context only. -/
theorem IsClosed.mem_freeParameters_of_mem_unboundParameters (h : b.IsClosed) {context : Expr}
    {p : Parameter} (hp : p ∈ (b.substituteContext context).unboundParameters) :
    p ∈ context.freeParameters := by
  have hconstant := (mem_map_id_unboundParameters.1 (List.mem_map_of_mem hp)).2
  have hfree := (List.mem_filter.1 hp).1
  have hclosed : p.id ∈ b.expression.freeIds → p.id ∈ b.context.toList.map Parameter.id :=
    fun hmem => (List.mem_append.1 (h p.id hmem)).resolve_right hconstant
  unfold substituteContext at hfree
  cases hc : b.context with
  | none =>
    simp only [hc] at hfree hclosed
    exact nomatch hclosed (Expr.id_mem_freeIds_of_mem hfree)
  | some c =>
    simp only [hc] at hfree hclosed
    rw [Expr.mem_freeParameters_iff] at hfree ⊢
    exact Expr.find?_occurrences_replace (fun hmem => List.mem_singleton.1 (hclosed hmem)) hfree

end BoundExpr

end TypedQuery
