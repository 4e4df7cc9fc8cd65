import TypedQuery.Proofs.Eval.Locality
import TypedQuery.Proofs.Except

/-!
# Evaluation in larger scopes

A parameter without a value is a failure, and no failure is caught.  So an expression that has a
value has read nothing but what is bound, and keeps the value where more is bound:
`Expr.eval_extends`.  Other than for `Expr.eval_congr` the lambdas of the expression may have any
number of parameters.
-/

namespace TypedQuery

/-! ## Scopes -/

namespace Scope

/-- The second scope has the values of the first, and perhaps more. -/
def Le (σ τ : Scope) : Prop := ∀ id v, σ.get? id = some v → τ.get? id = some v

variable {σ τ : Scope}

theorem nil_le (τ : Scope) : Le [] τ := fun _ _ h => nomatch h

theorem Le.bind (h : σ.Le τ) (p : Parameter) (v : Value) : (σ.bind p v).Le (τ.bind p v) := by
  intro id w hw
  rw [get?_bind] at hw ⊢
  split
  · rename_i heq
    rwa [if_pos heq] at hw
  · rename_i hne
    rw [if_neg hne] at hw
    exact h id w hw

theorem Le.enter (h : σ.Le τ) (params : List Parameter) (v : Value) :
    (σ.enter params v).Le (τ.enter params v) := by
  cases params with
  | nil => exact h
  | cons p params => exact h.bind p v

/-- A binding of what has no value yet hides nothing. -/
theorem le_bind {p : Parameter} (h : σ.get? p.id = none) (v : Value) : σ.Le (σ.bind p v) := by
  intro id w hw
  rw [get?_bind_of_ne, hw]
  rintro rfl
  rw [h] at hw
  cases hw

end Scope

/-! ## Operators -/

section Lists

variable {f g : Value → Except EvalError Value} (h : ∀ v, Extends (f v) (g v))

include h

theorem extends_keepItems (items : List Value) : Extends (keepItems f items) (keepItems g items) := by
  induction items with
  | nil => exact .refl _
  | cons v items ih =>
    refine Extends.bind ((h v).bind fun _ => .refl _) ?_
    intro passes
    exact ih.bind fun _ => .refl _

theorem extends_mapItems (items : List Value) : Extends (mapItems f items) (mapItems g items) := by
  induction items with
  | nil => exact .refl _
  | cons v items ih =>
    refine (h v).bind ?_
    intro w
    exact ih.bind fun _ => .refl _

theorem extends_sortItems (descending : Bool) (items : List Value) :
    Extends (sortItems descending f items) (sortItems descending g items) :=
  (extends_mapItems h items).bind fun _ => .refl _

end Lists

/-- Operands of one form, the second of which has every value that the first one has. -/
inductive Operand.Le : Operand → Operand → Prop where
  | missing : Le .missing .missing
  | function {arity : Nat} {f g : Value → Except EvalError Value} {s : String}
      (h : ∀ v, Extends (f v) (g v)) : Le (.function arity f s) (.function arity g s)
  | plain {x y : Except EvalError Value} {s : String} (h : Extends x y) :
      Le (.plain x s) (.plain y s)

namespace Operand.Le

variable {a b : Operand} (h : Le a b)

include h

/-- What is done with the function that an operand gives. -/
theorem extends_function?_bind {β : Type} (op : SequenceOp)
    {k : (Value → Except EvalError Value) → Except EvalError β}
    (hk : ∀ f g, (∀ v, Extends (f v) (g v)) → Extends (k f) (k g)) :
    Extends (a.function? op >>= k) (b.function? op >>= k) := by
  cases h with
  | missing => exact .refl _
  | @function arity f g s h =>
    match arity with
    | 1 => exact hk f g h
    | 0 | _ + 2 => exact .refl _
  | plain h => exact .refl _

theorem extends_count (op : SequenceOp) : Extends (a.count op) (b.count op) := by
  cases h with
  | missing => exact .refl _
  | function h => exact .refl _
  | plain h => exact h.bind fun _ => .refl _

theorem extends_candidates (op : SequenceOp) (items : List Value) :
    Extends (candidates op a items) (candidates op b items) := by
  cases h with
  | missing => exact .refl _
  | function h => exact extends_keepItems h items
  | plain h => exact .refl _

theorem extends_run (op : SequenceOp) (items : List Value) :
    Extends (op.run items a) (op.run items b) := by
  cases op with
  | filter =>
    exact h.extends_function?_bind _ fun f g hfg => (extends_keepItems hfg items).bind fun _ => .refl _
  | select =>
    exact h.extends_function?_bind _ fun f g hfg => (extends_mapItems hfg items).bind fun _ => .refl _
  | orderBy =>
    exact h.extends_function?_bind _ fun f g hfg =>
      (extends_sortItems hfg false items).bind fun _ => .refl _
  | orderByDescending =>
    exact h.extends_function?_bind _ fun f g hfg =>
      (extends_sortItems hfg true items).bind fun _ => .refl _
  | reverse => exact .refl _
  | skip | take => exact (h.extends_count _).bind fun _ => .refl _
  | first | firstOrDefault | last | lastOrDefault =>
    exact (h.extends_candidates _ items).bind fun _ => .refl _

end Operand.Le

/-! ## Expressions -/

namespace Expr

theorem extends_evalFields {σ τ : Scope} {fields : List (String × Expr)}
    (h : ∀ f ∈ fields, Extends (f.2.eval σ) (f.2.eval τ)) :
    Extends (evalFields σ fields) (evalFields τ fields) := by
  induction fields with
  | nil => exact .refl _
  | cons f fields ih =>
    rw [evalFields_cons, evalFields_cons]
    refine (h f (List.mem_cons_self ..)).bind ?_
    intro v
    exact (ih fun g hg => h g (List.mem_cons_of_mem _ hg)).bind fun _ => .refl _

theorem operand_le {σ τ : Scope} {args : List Expr}
    (hargs : ∀ e ∈ args, Extends (e.eval σ) (e.eval τ))
    (hbodies : ∀ params body, .lambda params body ∈ args → ∀ v,
      Extends (body.eval (σ.enter params v)) (body.eval (τ.enter params v))) :
    (operand σ args).Le (operand τ args) := by
  cases args with
  | nil => exact .missing
  | cons e rest =>
    have hmem : e ∈ e :: rest := List.mem_cons_self ..
    cases hlambda : e.isLambda with
    | false =>
      rw [operand_of_isLambda_eq_false hlambda, operand_of_isLambda_eq_false hlambda]
      exact .plain (hargs e hmem)
    | true =>
      obtain ⟨params, body, rfl⟩ := exists_eq_lambda hlambda
      rw [operand_lambda, operand_lambda]
      exact .function (hbodies params body hmem)

/-- A value that an expression has in a scope it has in every larger one. -/
theorem eval_extends {e : Expr} {σ τ : Scope} (h : σ.Le τ) : Extends (e.eval σ) (e.eval τ) := by
  induction e generalizing σ τ with
  | param p =>
    intro v hv
    cases hσ : σ.get? p.id with
    | none =>
      rw [eval, hσ] at hv
      cases hv
    | some w =>
      rw [eval_param_of_get? hσ] at hv
      rw [eval_param_of_get? (h p.id w hσ), hv]
  | const v t => exact .refl _
  | member e name t ih => exact (ih h).bind fun _ => .refl _
  | binary op l r hl hr =>
    by_cases hop : op.isLogical = true
    · rw [eval_binary_logical hop, eval_binary_logical hop]
      refine (hl h).bind fun v => (Extends.refl v.truth).bind fun left => ?_
      cases op.decided? left with
      | some b => exact .refl _
      | none => exact (hr h).bind fun _ => .refl _
    · rw [eval_binary_of_not_logical hop, eval_binary_of_not_logical hop]
      exact (hl h).bind fun _ => (hr h).bind fun _ => .refl _
  | not e ih => exact (ih h).bind fun _ => .refl _
  | compare l r hl hr => exact (hl h).bind fun _ => (hr h).bind fun _ => .refl _
  | text e ih => exact (ih h).bind fun _ => .refl _
  | contains set e ih => exact (ih h).bind fun _ => .refl _
  | call op source args hsource hargs hbodies =>
    have hoperand : (operand σ args).Le (operand τ args) :=
      operand_le (fun e he => hargs e he h)
        fun params body hmem v => hbodies params body hmem (h.enter params v)
    rw [eval_call, eval_call]
    refine (hsource h).bind fun v => (Extends.refl v.sequence).bind fun items => ?_
    exact hoperand.extends_run op items
  | lambda params body ih => exact .refl _
  | new type fields hfields =>
    exact (extends_evalFields fun f hf => hfields f hf h).bind fun _ => .refl _

end Expr

end TypedQuery
