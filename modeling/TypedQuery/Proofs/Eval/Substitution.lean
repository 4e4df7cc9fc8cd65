import TypedQuery.Proofs.Eval.Locality
import TypedQuery.Proofs.Eval.Outcome
import TypedQuery.Proofs.Expr.Replacement

/-!
# Substitution and scopes

Putting an expression in the place of a parameter has the outcome of evaluating with the parameter
bound to the expression's value: `Expr.outcome_eval_replace`.  The replacement goes under lambdas as
they stand, so no lambda may declare the parameter, nor one that is free in the new expression.  How
many parameters the lambdas around the replacement have does not matter; those of the new expression
have one each, so that its value does not depend on parameters that are not free in it.
-/

namespace TypedQuery

/-! ## Scopes -/

namespace Scope

variable {scope : Scope}

/-- Bindings of two different parameters may be read in either order. -/
theorem get?_swap {x y : ParamId} (hne : x ≠ y) (v w : Value) (id : ParamId) :
    get? ((x, v) :: (y, w) :: scope) id = get? ((y, w) :: (x, v) :: scope) id := by
  simp only [get?_cons]
  split
  · rename_i hx
    rw [if_neg fun hy => hne (hx.symm.trans hy)]
  · rfl

/-- Inside a function the parameters that it does not declare have the values they have outside. -/
theorem get?_enter_of_ne {params : List Parameter} {w : Value} {id : ParamId}
    (h : ∀ p ∈ params, p.id ≠ id) : (scope.enter params w).get? id = scope.get? id := by
  cases params with
  | nil => rfl
  | cons p params => exact get?_bind_of_ne (h p (List.mem_cons_self ..)).symm

/-- A binding that a function does not hide is read alike from outside and from inside of it. -/
theorem get?_cons_enter {params : List Parameter} {x : ParamId} (hx : ∀ p ∈ params, p.id ≠ x)
    (v w : Value) (id : ParamId) :
    get? ((x, v) :: scope.enter params w) id =
      (enter ((x, v) :: scope) params w).get? id := by
  cases params with
  | nil => rfl
  | cons p params => exact get?_swap (hx p (List.mem_cons_self ..)).symm v w id

end Scope

namespace Expr

/-- A lambda has no value. -/
theorem isLambda_eq_false_of_eval {e : Expr} {scope : Scope} {v : Value}
    (h : e.eval scope = .ok v) : e.isLambda = false := by
  cases e with
  | lambda params body => cases h
  | _ => rfl

theorem outcome_evalFields_congr {σ τ : Scope} {f : Expr → Expr} {fields : List (String × Expr)}
    (h : ∀ g ∈ fields, outcome ((f g.2).eval σ) = outcome (g.2.eval τ)) :
    outcome (evalFields σ (fields.map fun g => (g.1, f g.2))) = outcome (evalFields τ fields) := by
  induction fields with
  | nil => rfl
  | cons g fields ih =>
    rw [List.map_cons, evalFields_cons, evalFields_cons]
    refine outcome_bind_congr (h g (List.mem_cons_self ..)) ?_
    intro v
    exact outcome_bind_left (ih fun g hg => h g (List.mem_cons_of_mem _ hg)) _

/-! ## Replacing a parameter -/

section Replace

variable {d : Expr} {x : ParamId} {scope : Scope} {v : Value}

/-- What takes the place of a parameter has its value inside a function too, if the function
declares none of its free parameters. -/
theorem eval_enter_of_declares (hd : d.isUnary = true) {params : List Parameter} {body : Expr}
    (hcapture : ∀ id ∈ d.freeIds, (Expr.lambda params body).declares id = false) (w : Value) :
    d.eval (scope.enter params w) = d.eval scope := by
  refine eval_congr hd fun id hid => Scope.get?_enter_of_ne fun p hp heq => ?_
  have hdeclared := hcapture id hid
  rw [declares_lambda, Bool.or_eq_false_iff, List.any_eq_false] at hdeclared
  exact hdeclared.1 p hp (beq_iff_eq.2 heq)

/-- The argument of a call does after the replacement what it does with the parameter bound. -/
theorem alike_operand_replace {args : List Expr} (hd : d.isUnary = true)
    (hx : ∀ e ∈ args, e.declares x = false)
    (hcapture : ∀ e ∈ args, ∀ id ∈ d.freeIds, e.declares id = false) (hv : d.eval scope = .ok v)
    (hargs : ∀ e ∈ args, outcome ((e.replace x d).eval scope) = outcome (e.eval ((x, v) :: scope)))
    (hbodies : ∀ params body, .lambda params body ∈ args → ∀ σ : Scope, d.eval σ = .ok v →
      outcome ((body.replace x d).eval σ) = outcome (body.eval ((x, v) :: σ))) :
    (operand scope (args.map (·.replace x d))).Alike (operand ((x, v) :: scope) args) := by
  cases args with
  | nil => exact .missing
  | cons e rest =>
    have hmem : e ∈ e :: rest := List.mem_cons_self ..
    rw [List.map_cons]
    cases hlambda : e.isLambda with
    | false =>
      rw [operand_of_isLambda_eq_false hlambda, operand_of_isLambda_eq_false
        ((isLambda_replace (isLambda_eq_false_of_eval hv)).trans hlambda)]
      exact .plain (hargs e hmem)
    | true =>
      obtain ⟨params, body, rfl⟩ := exists_eq_lambda hlambda
      have hparams : ∀ p ∈ params, p.id ≠ x := by
        have hundeclared := hx _ hmem
        rw [declares_lambda, Bool.or_eq_false_iff, List.any_eq_false] at hundeclared
        exact fun p hp heq => hundeclared.1 p hp (beq_iff_eq.2 heq)
      rw [replace_lambda, operand_lambda, operand_lambda]
      refine .function ?_
      intro w
      have hinside := (eval_enter_of_declares hd (hcapture _ hmem) w).trans hv
      rw [hbodies params body hmem _ hinside]
      -- The function's parameter is bound behind `x` here, and in front of it in a call.
      exact congrArg outcome
        (eval_eq_of_mentions fun id _ => Scope.get?_cons_enter hparams v w id)

/-- The outcome after a replacement is that with the parameter bound to the value of what takes its
place. -/
theorem outcome_eval_replace {e : Expr} (hd : d.isUnary = true) (hx : e.declares x = false)
    (hcapture : ∀ id ∈ d.freeIds, e.declares id = false) (hv : d.eval scope = .ok v) :
    outcome ((e.replace x d).eval scope) = outcome (e.eval ((x, v) :: scope)) := by
  induction e generalizing scope with
  | param p =>
    rw [replace_param]
    split
    · rename_i hp
      rw [hv, eval_param_of_get? (v := v) (by rw [Scope.get?_cons, if_pos hp])]
    · rename_i hp
      rw [eval, eval, Scope.get?_cons, if_neg hp]
  | const w t => rfl
  | member e name t ih =>
    simp only [declares_member] at hx hcapture
    rw [replace_member, eval_member, eval_member]
    exact outcome_bind_left (ih hx hcapture hv) _
  | binary op l r hl hr =>
    simp only [declares_binary, Bool.or_eq_false_iff] at hx hcapture
    have hl := hl hx.1 (fun id hid => (hcapture id hid).1) hv
    have hr := hr hx.2 (fun id hid => (hcapture id hid).2) hv
    rw [replace_binary]
    by_cases hop : op.isLogical = true
    · rw [eval_binary_logical hop, eval_binary_logical hop]
      refine outcome_bind_congr hl fun w => outcome_bind_congr rfl fun left => ?_
      cases op.decided? left with
      | some b => rfl
      | none => exact outcome_bind_left hr _
    · rw [eval_binary_of_not_logical hop, eval_binary_of_not_logical hop]
      exact outcome_bind_congr hl fun w => outcome_bind_left hr _
  | not e ih =>
    simp only [declares_not] at hx hcapture
    rw [replace_not, eval_not, eval_not]
    exact outcome_bind_left (ih hx hcapture hv) _
  | compare l r hl hr =>
    simp only [declares_compare, Bool.or_eq_false_iff] at hx hcapture
    rw [replace_compare, eval_compare, eval_compare]
    refine outcome_bind_congr (hl hx.1 (fun id hid => (hcapture id hid).1) hv) fun w => ?_
    exact outcome_bind_left (hr hx.2 (fun id hid => (hcapture id hid).2) hv) _
  | text e ih =>
    simp only [declares_text] at hx hcapture
    rw [replace_text, eval_text, eval_text]
    exact outcome_bind_left (ih hx hcapture hv) _
  | contains set e ih =>
    simp only [declares_contains] at hx hcapture
    rw [replace_contains, eval_contains, eval_contains]
    exact outcome_bind_left (ih hx hcapture hv) _
  | call op source args hsource hargs hbodies =>
    simp only [declares_call, Bool.or_eq_false_iff, List.any_eq_false, Bool.not_eq_true]
      at hx hcapture
    have hsource := hsource hx.1 (fun id hid => (hcapture id hid).1) hv
    have hargcapture : ∀ e ∈ args, ∀ id ∈ d.freeIds, e.declares id = false :=
      fun e he id hid => (hcapture id hid).2 e he
    have hoperand : (operand scope (args.map (·.replace x d))).Alike
        (operand ((x, v) :: scope) args) := by
      refine alike_operand_replace hd hx.2 hargcapture hv
        (fun e he => hargs e he (hx.2 e he) (hargcapture e he) hv) ?_
      intro params body hmem σ hσ
      have hbodyx := hx.2 _ hmem
      have hbodycapture := hargcapture _ hmem
      simp only [declares_lambda, Bool.or_eq_false_iff] at hbodyx hbodycapture
      exact hbodies params body hmem hbodyx.2 (fun id hid => (hbodycapture id hid).2) hσ
    rw [replace_call, eval_call, eval_call]
    refine outcome_bind_congr hsource fun w => outcome_bind_congr rfl fun items => ?_
    exact hoperand.outcome_run op items
  | lambda params body ih => rfl
  | new type fields hfields =>
    simp only [declares_new, List.any_eq_false, Bool.not_eq_true] at hx hcapture
    rw [replace_new, eval_new, eval_new]
    have hfields := outcome_evalFields_congr (f := (·.replace x d)) fun f hf =>
      hfields f hf (hx f hf) (fun id hid => hcapture id hid f hf) hv
    exact outcome_bind_left hfields _

/-- The value after a replacement is that with the parameter bound. -/
theorem eval_replace_eq_ok_iff {e : Expr} {w : Value} (hd : d.isUnary = true)
    (hx : e.declares x = false) (hcapture : ∀ id ∈ d.freeIds, e.declares id = false)
    (hv : d.eval scope = .ok v) :
    (e.replace x d).eval scope = .ok w ↔ e.eval ((x, v) :: scope) = .ok w := by
  rw [← outcome_eq_ok_iff, outcome_eval_replace hd hx hcapture hv, outcome_eq_ok_iff]

/-- Evaluating after a replacement is evaluating with the parameter bound to the value of what takes
its place: both give one value, or both fail for reasons of one kind. -/
theorem eval_replace_eq_eval_bind {e : Expr} {p : Parameter} (hd : d.isUnary = true)
    (hp : e.declares p.id = false) (hcapture : ∀ q ∈ d.freeParameters, e.declares q.id = false)
    (hv : d.eval scope = .ok v) :
    (∃ w, (e.replace p.id d).eval scope = .ok w ∧ e.eval (scope.bind p v) = .ok w) ∨
      ∃ err err', (e.replace p.id d).eval scope = .error err ∧
        e.eval (scope.bind p v) = .error err' ∧ err.kind = err'.kind := by
  refine outcome_eq_iff.1 (outcome_eval_replace hd hp (fun id hid => ?_) hv)
  obtain ⟨q, hq, rfl⟩ := List.mem_map.1 (mem_map_id_freeParameters.2 hid)
  exact hcapture q hq

end Replace

end Expr

namespace Sample

/-- The parameter for an age. -/
def limitParam : Parameter := ⟨⟨0⟩, "limit", .scalar .int⟩

/-- The parameter for the rules of a club. -/
def clubParam : Parameter := ⟨⟨1⟩, "club", .record [("minAge", .scalar .int)]⟩

/-- The parameter for each of the ages below. -/
def ageParam : Parameter := ⟨⟨2⟩, "age", .scalar .int⟩

/-- The ages in a list from the limit on. -/
def agesFromLimit : Expr :=
  .call .filter (.ofValue (.list [.int 9, .int 36, .int 45]))
    [.lambda [ageParam] (.binary .greaterOrEqual ageParam.expr limitParam.expr)]

/-- The first of two ages, picked by something that is no test; what stands for the test is part of
the words in which this fails. -/
def firstByLimit : Expr := .call .first (.ofValue (.list [.int 9, .int 36])) [limitParam.expr]

/-- The least age in a club. -/
def clubAge : Expr := .member clubParam.expr "minAge" (.scalar .int)

/-- A club for adults. -/
def clubScope : Scope := [(clubParam.id, .ofFields [("minAge", .int 18)])]

end Sample

open Sample in
/-- The least age takes the place of the limit inside the test of a filter, and where a test was
expected. -/
theorem eval_replace_clubAge :
    clubAge.isUnary = true ∧ agesFromLimit.declares limitParam.id = false ∧
    firstByLimit.declares limitParam.id = false ∧
    (∀ q ∈ clubAge.freeParameters,
      agesFromLimit.declares q.id = false ∧ firstByLimit.declares q.id = false) ∧
    clubAge.eval clubScope = .ok (.int 18) ∧
    (agesFromLimit.replace limitParam.id clubAge).eval clubScope = .ok (.list [.int 36, .int 45]) ∧
    ∃ err err', (firstByLimit.replace limitParam.id clubAge).eval clubScope = .error err ∧
      firstByLimit.eval (clubScope.bind limitParam (.int 18)) = .error err' ∧
      err.kind = err'.kind ∧ err ≠ err' := by
  have hcapture : ∀ q ∈ clubAge.freeParameters,
      agesFromLimit.declares q.id = false ∧ firstByLimit.declares q.id = false := by
    intro q hq
    obtain rfl : q = clubParam := List.mem_singleton.1 hq
    exact ⟨rfl, rfl⟩
  have hv : clubAge.eval clubScope = .ok (.int 18) := rfl
  refine ⟨rfl, rfl, rfl, hcapture, hv, ?_, ?_⟩
  · rcases Expr.eval_replace_eq_eval_bind (e := agesFromLimit) (p := limitParam) rfl rfl
      (fun q hq => (hcapture q hq).1) hv with ⟨w, hw, hbound⟩ | ⟨err, err', -, herr', -⟩
    · have hvalue : agesFromLimit.eval (clubScope.bind limitParam (.int 18)) =
          .ok (.list [.int 36, .int 45]) := rfl
      rw [hw, ← hbound, hvalue]
    · cases herr'
  · rcases Expr.eval_replace_eq_eval_bind (e := firstByLimit) (p := limitParam) rfl rfl
      (fun q hq => (hcapture q hq).2) hv with ⟨w, -, hbound⟩ | ⟨err, err', herr, herr', hkind⟩
    · cases hbound
    · refine ⟨err, err', herr, herr', hkind, ?_⟩
      rw [← Except.error.inj herr, ← Except.error.inj herr']
      decide

end TypedQuery
