import TypedQuery.Proofs.Eval.Bound

/-!
# Constants in their places

A bound expression closes its parameters over by constants, which execution binds in the scope.
Putting each constant in the place of its parameter gives an expression that asks for the context
alone, and running it has the outcome of running the expression with its constants:
`BoundExpr.outcome_execute_inlined`.  The step is the substitution of one constant; a run of steps
leaves the bindings of the scope behind one by one.
-/

namespace TypedQuery

/-! ## Bindings one after the other -/

namespace Scope

/-- The scope with values for more parameters, bound one after the other. -/
def bindAll (scope : Scope) (bindings : List (Parameter × Value)) : Scope :=
  bindings.foldl (fun scope (p, v) => scope.bind p v) scope

variable {bindings : List (Parameter × Value)} {σ τ : Scope} {id : ParamId}

theorem bindAll_cons (scope : Scope) (c : Parameter × Value) (bindings : List (Parameter × Value)) :
    scope.bindAll (c :: bindings) = (scope.bind c.1 c.2).bindAll bindings := rfl

theorem bindAll_append (scope : Scope) (bindings more : List (Parameter × Value)) :
    scope.bindAll (bindings ++ more) = (scope.bindAll bindings).bindAll more :=
  List.foldl_append

theorem ofList_eq_bindAll (bindings : List (Parameter × Value)) :
    ofList bindings = bindAll [] bindings := rfl

/-- What is bound in the end depends on the scope at the start for the other parameters only. -/
theorem get?_bindAll_congr (h : id ∉ bindings.map (·.1.id) → σ.get? id = τ.get? id) :
    (σ.bindAll bindings).get? id = (τ.bindAll bindings).get? id := by
  induction bindings generalizing σ τ with
  | nil => exact h List.not_mem_nil
  | cons c bindings ih =>
    refine ih fun hid => ?_
    rw [get?_bind, get?_bind]
    split
    · rfl
    · rename_i hne
      refine h ?_
      rw [List.map_cons, List.mem_cons, not_or]
      exact ⟨hne, hid⟩

theorem get?_bindAll_of_notMem (h : id ∉ bindings.map (·.1.id)) :
    (σ.bindAll bindings).get? id = σ.get? id := by
  induction bindings generalizing σ with
  | nil => rfl
  | cons c bindings ih =>
    rw [List.map_cons, List.mem_cons, not_or] at h
    rw [bindAll_cons, ih h.2, get?_bind_of_ne h.1]

/-- Bindings of other parameters do not hide an earlier one. -/
theorem get?_bindAll_bind_self {p : Parameter} (h : p.id ∉ bindings.map (·.1.id)) (v : Value) :
    ((σ.bind p v).bindAll bindings).get? p.id = some v := by
  rw [get?_bindAll_of_notMem h, get?_bind_self]

/-- Of bindings to one value any gives it. -/
theorem get?_bindAll_eq_some {v : Value} (hid : id ∈ bindings.map (·.1.id))
    (hvalue : ∀ c ∈ bindings, c.2 = v) : (σ.bindAll bindings).get? id = some v := by
  induction bindings generalizing σ with
  | nil => cases hid
  | cons c bindings ih =>
    rw [List.forall_mem_cons] at hvalue
    by_cases hrest : id ∈ bindings.map (·.1.id)
    · exact ih hrest hvalue.2
    · rw [List.map_cons, List.mem_cons] at hid
      obtain rfl := hid.resolve_right hrest
      rw [bindAll_cons, get?_bindAll_bind_self hrest, hvalue.1]

end Scope

/-! ## Constants in an expression -/

namespace Expr

/-- The expression with each of some constants in the place of the parameter it is bound to. -/
def inline (e : Expr) (constants : List (Parameter × Value)) : Expr :=
  constants.foldl (fun e (p, v) => e.replace p.id (.const v p.ty)) e

variable {constants : List (Parameter × Value)} {e : Expr}

theorem inline_cons (e : Expr) (c : Parameter × Value) (constants : List (Parameter × Value)) :
    e.inline (c :: constants) = (e.replace c.1.id (.const c.2 c.1.ty)).inline constants := rfl

/-- A constant brings no lambda with it. -/
theorem declares_replace_const (e : Expr) (x y : ParamId) (v : Value) (t : ExprType) :
    (e.replace x (.const v t)).declares y = e.declares y := by
  rw [Bool.eq_iff_iff, declares_replace, declares_const]
  simp

/-- The parameters that are bound to constants are not free any more, the others are as before. -/
theorem mem_freeIds_inline {y : ParamId} :
    y ∈ (e.inline constants).freeIds ↔ y ∈ e.freeIds ∧ y ∉ constants.map (·.1.id) := by
  induction constants generalizing e with
  | nil => simp [inline]
  | cons c constants ih =>
    have hreplace : y ∈ (e.replace c.1.id (.const c.2 c.1.ty)).freeIds ↔
        y ∈ e.freeIds ∧ y ≠ c.1.id := by
      rw [mem_freeIds_replace fun id hid => absurd hid mem_freeIds_const]
      simp
    rw [inline_cons, ih, hreplace, List.map_cons, List.mem_cons, not_or, and_assoc]

/-- With constants in their places an expression has the outcome that it has where the constants are
bound, if each is bound once and no lambda declares a parameter of one. -/
theorem outcome_eval_inline (hdistinct : (constants.map (·.1.id)).Nodup)
    (hdeclares : ∀ c ∈ constants, e.declares c.1.id = false) (scope : Scope) :
    outcome ((e.inline constants).eval scope) =
      outcome (e.eval (scope.bindAll constants)) := by
  induction constants generalizing e with
  | nil => rfl
  | cons c constants ih =>
    obtain ⟨p, v⟩ := c
    rw [List.map_cons, List.nodup_cons] at hdistinct
    rw [List.forall_mem_cons] at hdeclares
    have hrest : ∀ c ∈ constants, (e.replace p.id (.const v p.ty)).declares c.1.id = false := by
      intro c hc
      rw [declares_replace_const]
      exact hdeclares.2 c hc
    -- The last of the bindings is read first, so the first constant moves behind the others.
    have hscope : ∀ id, Scope.get? ((p.id, v) :: scope.bindAll constants) id =
        ((scope.bind p v).bindAll constants).get? id := by
      intro id
      rw [Scope.get?_cons]
      split
      · rename_i heq
        rw [heq, Scope.get?_bindAll_bind_self hdistinct.1]
      · rename_i hne
        exact Scope.get?_bindAll_congr fun _ => (Scope.get?_bind_of_ne hne).symm
    rw [inline_cons, ih hdistinct.2 hrest, Scope.bindAll_cons,
      outcome_eval_replace (v := v) rfl hdeclares.1
        (fun id hid => absurd hid mem_freeIds_const) rfl]
    exact congrArg outcome (eval_eq_of_mentions fun id _ => hscope id)

end Expr

/-! ## Constants of a bound expression -/

namespace BoundExpr

/-- The bound expression with its constants in their places. -/
def inlined (b : BoundExpr) : BoundExpr := ⟨b.context, b.inlineConstants, []⟩

variable {b : BoundExpr} {root : Value}

theorem expression_inlined (b : BoundExpr) :
    b.inlined.expression = b.expression.inline b.constants := rfl

/-- Nothing has a value in the scope of an execution but the context and the constants. -/
theorem mem_closedIds_of_get?_ne_none {id : ParamId} (h : (b.scope root).get? id ≠ none) :
    id ∈ b.closedIds := by
  by_contra hnot
  unfold closedIds at hnot
  rw [List.mem_append, not_or] at hnot
  refine h ?_
  rw [scope_eq, Scope.get?_bindOption_of_ne, Scope.ofList_eq_bindAll,
    Scope.get?_bindAll_of_notMem hnot.2]
  · rfl
  · intro c hc heq
    rw [Option.mem_def.1 hc, heq] at hnot
    exact hnot.1 (List.mem_singleton_self _)

/-- What has been run with success is closed. -/
theorem isClosed_of_execute {v : Value} (h : b.execute root = .ok v) : b.IsClosed := fun id hid =>
  mem_closedIds_of_get?_ne_none ((execute_eq_ok_iff.1 h).1 id hid)

/-- An execution that meets a free parameter without a value stops there. -/
theorem outcome_execute_of_unbound {id : ParamId} (hid : id ∈ b.expression.freeIds)
    (hnone : (b.scope root).get? id = none) : outcome (b.execute root) = .error .unbound := by
  obtain ⟨p, hp, rfl⟩ := Expr.exists_mem_freeParameters hid
  unfold execute
  split
  · rfl
  · rename_i hfind
    rw [List.find?_eq_none] at hfind
    exact absurd (Option.isNone_iff_eq_none.2 hnone) (hfind p hp)

/-- The scope of the execution without constants, with the constants bound after all, is that with
constants, if the context is bound to none. -/
theorem get?_scope_inlined (hcontext : ∀ c ∈ b.context, c.id ∉ b.constants.map (·.1.id))
    (root : Value) (id : ParamId) :
    ((b.inlined.scope root).bindAll b.constants).get? id =
      (b.scope root).get? id := by
  have hscope : b.inlined.scope root = Scope.bindOption [] b.context root := scope_eq
  rw [hscope, scope_eq]
  cases hc : b.context with
  | none => rfl
  | some c =>
    rw [Scope.bindOption, Scope.bindOption, Scope.get?_bind]
    split
    · rename_i heq
      rw [heq, Scope.get?_bindAll_bind_self (hcontext c hc)]
    · rename_i hne
      exact Scope.get?_bindAll_congr fun _ => Scope.get?_bind_of_ne hne

/-- Running a bound expression with its constants in their places has the outcome of running it with
the constants bound: both give one value, or both fail for reasons of one kind. -/
theorem outcome_execute_inlined (hdistinct : (b.constants.map (·.1.id)).Nodup)
    (hcontext : ∀ c ∈ b.context, c.id ∉ b.constants.map (·.1.id))
    (hdeclares : ∀ c ∈ b.constants, b.expression.declares c.1.id = false) (root : Value) :
    outcome (b.inlined.execute root) = outcome (b.execute root) := by
  have hscope := get?_scope_inlined hcontext root
  have hfree : ∀ id, id ∈ b.inlined.expression.freeIds ↔
      id ∈ b.expression.freeIds ∧ id ∉ b.constants.map (·.1.id) := by
    intro id
    rw [expression_inlined, Expr.mem_freeIds_inline]
  have hother : ∀ id, id ∉ b.constants.map (·.1.id) →
      (b.inlined.scope root).get? id = (b.scope root).get? id := by
    intro id hid
    rw [← hscope, Scope.get?_bindAll_of_notMem hid]
  by_cases hbound : ∀ id ∈ b.expression.freeIds, (b.scope root).get? id ≠ none
  · have hbound' : ∀ id ∈ b.inlined.expression.freeIds, (b.inlined.scope root).get? id ≠ none := by
      intro id hid
      obtain ⟨hid, hconstant⟩ := (hfree id).1 hid
      rw [hother id hconstant]
      exact hbound id hid
    rw [execute_eq_eval hbound, execute_eq_eval hbound', expression_inlined,
      Expr.outcome_eval_inline hdistinct hdeclares]
    exact congrArg outcome (Expr.eval_eq_of_mentions fun id _ => hscope id)
  · obtain ⟨id, hid, hnone⟩ : ∃ id ∈ b.expression.freeIds, (b.scope root).get? id = none := by
      simpa using hbound
    -- A constant has a value, so what lacks one is free without the constants too.
    have hconstant : id ∉ b.constants.map (·.1.id) := fun hmem =>
      get?_scope_ne_none (List.mem_append_right _ hmem) hnone
    rw [outcome_execute_of_unbound hid hnone, outcome_execute_of_unbound
      ((hfree id).2 ⟨hid, hconstant⟩) ((hother id hconstant).trans hnone)]

end BoundExpr

namespace Sample

/-- Those in a club who are at least as old as a constant says, in the order of the list. -/
def adultsOfClub : BoundExpr where
  context := some clubParam
  expression := .call .filter (.member clubParam.expr "ages" (.sequence (.scalar .int)))
    [.lambda [ageParam] (.binary .greaterOrEqual ageParam.expr limitParam.expr)]
  constants := [(limitParam, .int 18)]

end Sample

open Sample in
/-- The limit of the ages is a constant that is read inside a filter. -/
theorem outcome_execute_adultsOfClub :
    (adultsOfClub.constants.map (·.1.id)).Nodup ∧
    (∀ c ∈ adultsOfClub.context, c.id ∉ adultsOfClub.constants.map (·.1.id)) ∧
    (∀ c ∈ adultsOfClub.constants, adultsOfClub.expression.declares c.1.id = false) ∧
    outcome (adultsOfClub.execute (.ofFields [("ages", .list [.int 36, .int 9, .int 45])])) =
      .ok (.list [.int 36, .int 45]) ∧
    outcome (adultsOfClub.inlined.execute
        (.ofFields [("ages", .list [.int 36, .int 9, .int 45])])) =
      .ok (.list [.int 36, .int 45]) := by
  have hdistinct : (adultsOfClub.constants.map (·.1.id)).Nodup := by decide
  have hcontext : ∀ c ∈ adultsOfClub.context, c.id ∉ adultsOfClub.constants.map (·.1.id) := by
    intro c hc
    obtain rfl := Option.some.inj hc
    decide
  have hdeclares : ∀ c ∈ adultsOfClub.constants,
      adultsOfClub.expression.declares c.1.id = false := by
    intro c hc
    obtain rfl : c = (limitParam, .int 18) := List.mem_singleton.1 hc
    rfl
  have hvalue : outcome (adultsOfClub.execute
      (.ofFields [("ages", .list [.int 36, .int 9, .int 45])])) = .ok (.list [.int 36, .int 45]) :=
    rfl
  exact ⟨hdistinct, hcontext, hdeclares, hvalue,
    (BoundExpr.outcome_execute_inlined hdistinct hcontext hdeclares _).trans hvalue⟩

end TypedQuery
