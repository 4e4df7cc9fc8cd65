import TypedQuery.Eval.Basic
import TypedQuery.Proofs.Expr.Hygiene

/-!
# Evaluation looks at free parameters only

The equations of the evaluator, one for each form of an expression, and the first facts about it:
`Expr.eval_congr` says that an expression whose lambdas have one parameter each has the same outcome
in all scopes that agree on its free parameters, and `Expr.eval_eq_of_mentions` that any expression
has in scopes that agree on all parameters that occur in it.
-/

namespace TypedQuery

/-! ## Scopes -/

namespace Scope

variable {scope : Scope} {p : Parameter} {v : Value} {id : ParamId}

theorem get?_cons (q : ParamId) (v : Value) (scope : Scope) (id : ParamId) :
    get? ((q, v) :: scope) id = if id = q then some v else scope.get? id := by
  unfold get?
  rw [List.lookup_cons]
  by_cases h : id = q
  · simp [h]
  · simp [h, beq_eq_false_iff_ne.2 h]

theorem get?_bind : (scope.bind p v).get? id = if id = p.id then some v else scope.get? id :=
  get?_cons p.id v scope id

@[simp] theorem get?_bind_self : (scope.bind p v).get? p.id = some v := by
  rw [get?_bind, if_pos rfl]

theorem get?_bind_of_ne (h : id ≠ p.id) : (scope.bind p v).get? id = scope.get? id := by
  rw [get?_bind, if_neg h]

@[simp] theorem enter_singleton : scope.enter [p] v = scope.bind p v := rfl

theorem get?_enter_eq {σ τ : Scope} (params : List Parameter) (v : Value) {id : ParamId}
    (h : σ.get? id = τ.get? id) : (σ.enter params v).get? id = (τ.enter params v).get? id := by
  cases params with
  | nil => exact h
  | cons p params => rw [enter, enter, get?_bind, get?_bind, h]

/-- The scopes of a function's body agree on what they are asked for, if the scopes around the
function agree on what is free in it. -/
theorem enter_agree {σ τ : Scope} {params : List Parameter} (h : params.length = 1) (v : Value)
    {ids : List ParamId}
    (hagree : ∀ id ∈ ids, id ∉ params.map Parameter.id → σ.get? id = τ.get? id) :
    ∀ id ∈ ids, (σ.enter params v).get? id = (τ.enter params v).get? id := by
  obtain ⟨p, rfl⟩ := List.length_eq_one_iff.1 h
  intro id hid
  rw [enter_singleton, enter_singleton, get?_bind, get?_bind]
  split
  · rfl
  · rename_i hne
    exact hagree id hid (by simpa using hne)

end Scope

namespace Expr

/-! ## The equations of the evaluator -/

section Forms

variable {scope : Scope}

theorem eval_param_of_get? {p : Parameter} {v : Value} (h : scope.get? p.id = some v) :
    (Expr.param p).eval scope = .ok v := by
  rw [eval, h]

theorem eval_member (e : Expr) (name : String) (t : ExprType) :
    (Expr.member e name t).eval scope = e.eval scope >>= (·.member name) := rfl

theorem eval_not (e : Expr) :
    (Expr.not e).eval scope =
      e.eval scope >>= fun v => v.truth >>= fun b => .ok (.boolean !b) := rfl

theorem eval_compare (l r : Expr) :
    (Expr.compare l r).eval scope =
      l.eval scope >>= fun v => r.eval scope >>= fun w => v.compareTo w := rfl

theorem eval_text (e : Expr) :
    (Expr.text e).eval scope = e.eval scope >>= fun v => .ok (.string v.text) := rfl

theorem eval_contains (set : List String) (e : Expr) :
    (Expr.contains set e).eval scope =
      e.eval scope >>= fun v => .ok (.boolean (set.contains v.text)) := rfl

theorem eval_call (op : SequenceOp) (source : Expr) (args : List Expr) :
    (Expr.call op source args).eval scope =
      source.eval scope >>= fun v => v.sequence >>= fun items =>
        op.run items (operand scope args) := rfl

/-- The items of an expression whose value is a sequence. -/
def items (e : Expr) (scope : Scope) : Except EvalError (List Value) :=
  e.eval scope >>= Value.sequence

/-- A call looks at the items of its source only. -/
theorem eval_call_eq_bind (op : SequenceOp) (source : Expr) (args : List Expr) (scope : Scope) :
    (Expr.call op source args).eval scope =
      source.items scope >>= fun items => op.run items (operand scope args) := by
  rw [eval_call, items, bind_assoc]

theorem items_call (op : SequenceOp) (source : Expr) (args : List Expr) (scope : Scope) :
    (Expr.call op source args).items scope =
      source.items scope >>= fun items =>
        op.run items (operand scope args) >>= Value.sequence := by
  rw [items, eval_call_eq_bind, bind_assoc]

theorem eval_new (type : Option String) (fields : List (String × Expr)) :
    (Expr.new type fields).eval scope =
      evalFields scope fields >>= fun values => .ok (.ofFields values) := rfl

theorem evalFields_cons (f : String × Expr) (fields : List (String × Expr)) :
    evalFields scope (f :: fields) =
      f.2.eval scope >>= fun v => evalFields scope fields >>= fun values =>
        .ok ((f.1, v) :: values) := rfl

theorem operand_lambda (params : List Parameter) (body : Expr) (rest : List Expr) :
    operand scope (.lambda params body :: rest) =
      .function params.length (fun v => body.eval (scope.enter params v))
        (Lambda.display ⟨params, body⟩) := rfl

end Forms

theorem operand_of_isLambda_eq_false {scope : Scope} {e : Expr} (h : e.isLambda = false)
    (rest : List Expr) :
    operand scope (e :: rest) = .plain (e.eval scope) e.display := by
  cases e with
  | lambda params body => cases h
  | _ => rfl

/-- A logical operator evaluates its right operand only if the left one leaves the answer open. -/
theorem eval_binary_logical {scope : Scope} {op : BinaryOp} (hop : op.isLogical = true)
    (l r : Expr) :
    (Expr.binary op l r).eval scope =
      l.eval scope >>= fun v => v.truth >>= fun left =>
        match op.decided? left with
        | some b => .ok (.boolean b)
        | none => r.eval scope >>= fun w => w.truth >>= fun right => .ok (.boolean right) := by
  rw [eval, if_pos hop]
  rfl

theorem eval_binary_of_not_logical {scope : Scope} {op : BinaryOp} (hop : ¬ op.isLogical = true)
    (l r : Expr) :
    (Expr.binary op l r).eval scope =
      l.eval scope >>= fun v => r.eval scope >>= fun w => op.run v w := by
  rw [eval, if_neg hop]

/-! ## Scopes that agree -/

/-- The fields of a record have equal values where each field has. -/
theorem evalFields_congr {σ τ : Scope} {fields : List (String × Expr)}
    (h : ∀ f ∈ fields, f.2.eval σ = f.2.eval τ) : evalFields σ fields = evalFields τ fields := by
  induction fields with
  | nil => rfl
  | cons f fields ih =>
    rw [evalFields_cons, evalFields_cons, h f (List.mem_cons_self ..),
      ih fun g hg => h g (List.mem_cons_of_mem _ hg)]

/-- Of the arguments of a call only the first counts, and of a lambda only its body. -/
theorem operand_congr {σ τ : Scope} {args : List Expr} (hargs : ∀ e ∈ args, e.eval σ = e.eval τ)
    (hbodies : ∀ params body, .lambda params body ∈ args → ∀ v,
      body.eval (σ.enter params v) = body.eval (τ.enter params v)) :
    operand σ args = operand τ args := by
  cases args with
  | nil => rfl
  | cons e rest =>
    have hmem : e ∈ e :: rest := List.mem_cons_self ..
    cases hlambda : e.isLambda with
    | false =>
      rw [operand_of_isLambda_eq_false hlambda, operand_of_isLambda_eq_false hlambda, hargs e hmem]
    | true =>
      obtain ⟨params, body, rfl⟩ := exists_eq_lambda hlambda
      rw [operand_lambda, operand_lambda]
      congr 1
      funext v
      exact hbodies params body hmem v

/-- Evaluation depends on the free parameters only. -/
theorem eval_congr {e : Expr} (hunary : e.isUnary = true) {σ τ : Scope}
    (h : ∀ id ∈ e.freeIds, σ.get? id = τ.get? id) : e.eval σ = e.eval τ := by
  induction e generalizing σ τ with
  | param p => rw [eval, eval, h p.id (by simp)]
  | const v t => rfl
  | member e name t ih => rw [eval_member, eval_member, ih (by simpa using hunary) h]
  | binary op l r hl hr =>
    rw [isUnary_binary, Bool.and_eq_true] at hunary
    have hl : l.eval σ = l.eval τ := hl hunary.1 fun id hid => h id (by simp [hid])
    have hr : r.eval σ = r.eval τ := hr hunary.2 fun id hid => h id (by simp [hid])
    rw [eval, eval, hl, hr]
  | not e ih => rw [eval_not, eval_not, ih (by simpa using hunary) h]
  | compare l r hl hr =>
    rw [isUnary_compare, Bool.and_eq_true] at hunary
    have hl : l.eval σ = l.eval τ := hl hunary.1 fun id hid => h id (by simp [hid])
    have hr : r.eval σ = r.eval τ := hr hunary.2 fun id hid => h id (by simp [hid])
    rw [eval_compare, eval_compare, hl, hr]
  | text e ih => rw [eval_text, eval_text, ih (by simpa using hunary) h]
  | contains set e ih => rw [eval_contains, eval_contains, ih (by simpa using hunary) h]
  | call op source args hsource hargs hbodies =>
    rw [isUnary_call, Bool.and_eq_true, List.all_eq_true] at hunary
    have hsource : source.eval σ = source.eval τ :=
      hsource hunary.1 fun id hid => h id (mem_freeIds_call.2 (Or.inl hid))
    have hfree : ∀ e ∈ args, ∀ id ∈ e.freeIds, σ.get? id = τ.get? id :=
      fun e he id hid => h id (mem_freeIds_call.2 (Or.inr ⟨e, he, hid⟩))
    have hoperand : operand σ args = operand τ args := by
      refine operand_congr (fun e he => hargs e he (hunary.2 e he) (hfree e he)) ?_
      intro params body hmem v
      have hone := hunary.2 _ hmem
      rw [isUnary_lambda, Bool.and_eq_true, beq_iff_eq] at hone
      refine hbodies params body hmem hone.2 (Scope.enter_agree hone.1 v ?_)
      exact fun id hid hparams => hfree _ hmem id (mem_freeIds_lambda.2 ⟨hid, hparams⟩)
    rw [eval_call, eval_call, hsource, hoperand]
  | lambda params body ih => rfl
  | new type fields hfields =>
    rw [isUnary_new, List.all_eq_true] at hunary
    have hfields : ∀ f ∈ fields, f.2.eval σ = f.2.eval τ := fun f hf =>
      hfields f hf (hunary f hf) fun id hid => h id (mem_freeIds_new.2 ⟨f, hf, hid⟩)
    rw [eval_new, eval_new, evalFields_congr hfields]

/-- Whatever lambdas declare, evaluation depends on the parameters that occur only. -/
theorem eval_eq_of_mentions {e : Expr} {σ τ : Scope}
    (h : ∀ id, e.mentions id = true → σ.get? id = τ.get? id) : e.eval σ = e.eval τ := by
  induction e generalizing σ τ with
  | param p => rw [eval, eval, h p.id (by simp)]
  | const v t => rfl
  | member e name t ih => rw [eval_member, eval_member, ih h]
  | binary op l r hl hr =>
    have hl : l.eval σ = l.eval τ := hl fun id hid => h id (by simp [hid])
    have hr : r.eval σ = r.eval τ := hr fun id hid => h id (by simp [hid])
    rw [eval, eval, hl, hr]
  | not e ih => rw [eval_not, eval_not, ih h]
  | compare l r hl hr =>
    have hl : l.eval σ = l.eval τ := hl fun id hid => h id (by simp [hid])
    have hr : r.eval σ = r.eval τ := hr fun id hid => h id (by simp [hid])
    rw [eval_compare, eval_compare, hl, hr]
  | text e ih => rw [eval_text, eval_text, ih h]
  | contains set e ih => rw [eval_contains, eval_contains, ih h]
  | call op source args hsource hargs hbodies =>
    have hsource : source.eval σ = source.eval τ := hsource fun id hid => h id (by simp [hid])
    have hmentions : ∀ e ∈ args, ∀ id, e.mentions id = true → σ.get? id = τ.get? id := by
      intro e he id hid
      refine h id ?_
      rw [mentions_call, Bool.or_eq_true, List.any_eq_true]
      exact Or.inr ⟨e, he, hid⟩
    have hoperand : operand σ args = operand τ args := by
      refine operand_congr (fun e he => hargs e he (hmentions e he)) ?_
      intro params body hmem v
      refine hbodies params body hmem fun id hid => ?_
      exact Scope.get?_enter_eq params v (hmentions _ hmem id hid)
    rw [eval_call, eval_call, hsource, hoperand]
  | lambda params body ih => rfl
  | new type fields hfields =>
    have hfields : ∀ f ∈ fields, f.2.eval σ = f.2.eval τ := by
      intro f hf
      refine hfields f hf fun id hid => h id ?_
      rw [mentions_new, List.any_eq_true]
      exact ⟨f, hf, hid⟩
    rw [eval_new, eval_new, evalFields_congr hfields]

end Expr

end TypedQuery
