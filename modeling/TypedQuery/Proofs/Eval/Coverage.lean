import TypedQuery.Proofs.Eval.Bound

/-!
# Scopes that cover an expression

A scope covers an expression if it has a value for every free parameter.  Evaluation in such a scope
does not fail for want of a value (`Expr.isCovered_eval`), whatever else it may fail for: nothing but
the occurrence of a parameter gives that failure, operators on values and sequences pass on what they
are given, and a function binds the parameter that it declares.  So a query that is run fails in this
way only where the look at its free parameters, before anything is evaluated, finds one without a
value: `Expr.eval_reads_freeParameters`.
-/

namespace TypedQuery

/-- Whether an evaluation does not fail for want of a parameter's value. -/
def IsCovered {α : Type} (x : Except EvalError α) : Prop := ∀ name, x ≠ .error (.unbound name)

/-! ## Operators on values -/

section Values

variable {α β : Type}

theorem isCovered_ok (a : α) : IsCovered (.ok a) := nofun

theorem IsCovered.bind {x : Except EvalError α} {f : α → Except EvalError β} (h : IsCovered x)
    (hf : ∀ a, IsCovered (f a)) : IsCovered (x >>= f) := by
  cases x with
  | ok a => exact hf a
  | error e =>
    intro name heq
    exact h name (congrArg Except.error (Except.error.inj heq))

theorem isCovered_truth (v : Value) : IsCovered v.truth := by
  cases v <;> nofun

theorem isCovered_sequence (v : Value) : IsCovered v.sequence := by
  unfold Value.sequence
  split <;> nofun

theorem isCovered_count (v : Value) : IsCovered v.count := by
  unfold Value.count
  split <;> nofun

theorem isCovered_member (v : Value) (name : String) : IsCovered (v.member name) := by
  unfold Value.member
  split
  · nofun
  · split <;> nofun
  · nofun

theorem isCovered_compareTo (v w : Value) : IsCovered (v.compareTo w) := by
  unfold Value.compareTo
  split <;> nofun

theorem isCovered_operator (op : BinaryOp) (v w : Value) : IsCovered (op.run v w) := by
  cases op with
  | equal | notEqual => nofun
  | greaterThan | greaterOrEqual | lessThan | lessOrEqual =>
    unfold BinaryOp.run
    dsimp only
    split <;> nofun
  | and | or =>
    unfold BinaryOp.run
    dsimp only
    split <;> nofun

end Values

/-! ## Operators on sequences -/

section Lists

variable {f : Value → Except EvalError Value} (h : ∀ v, IsCovered (f v))

include h

theorem isCovered_keepItems (items : List Value) : IsCovered (keepItems f items) := by
  induction items with
  | nil => exact isCovered_ok _
  | cons v items ih =>
    refine ((h v).bind isCovered_truth).bind ?_
    intro passes
    exact ih.bind fun _ => isCovered_ok _

theorem isCovered_mapItems (items : List Value) : IsCovered (mapItems f items) := by
  induction items with
  | nil => exact isCovered_ok _
  | cons v items ih =>
    refine (h v).bind ?_
    intro w
    exact ih.bind fun _ => isCovered_ok _

theorem isCovered_sortItems (descending : Bool) (items : List Value) :
    IsCovered (sortItems descending f items) :=
  (isCovered_mapItems h items).bind fun _ => isCovered_ok _

end Lists

namespace Operand

/-- Whether what an operand evaluates does not fail for want of a parameter's value. -/
def IsCovered : Operand → Prop
  | missing => True
  | function _ apply _ => ∀ v, TypedQuery.IsCovered (apply v)
  | plain value _ => TypedQuery.IsCovered value

variable {a : Operand} (h : a.IsCovered)

include h

/-- What is done with the function that an operand gives. -/
theorem isCovered_function?_bind {β : Type} (op : SequenceOp)
    {k : (Value → Except EvalError Value) → Except EvalError β}
    (hk : ∀ f, (∀ v, TypedQuery.IsCovered (f v)) → TypedQuery.IsCovered (k f)) :
    TypedQuery.IsCovered (a.function? op >>= k) := by
  cases a with
  | missing | plain => nofun
  | function arity apply text =>
    match arity with
    | 1 => exact hk apply h
    | 0 | _ + 2 => nofun

theorem isCovered_count (op : SequenceOp) : TypedQuery.IsCovered (a.count op) := by
  cases a with
  | missing | function => nofun
  | plain value text => exact IsCovered.bind h TypedQuery.isCovered_count

theorem isCovered_candidates (op : SequenceOp) (items : List Value) :
    TypedQuery.IsCovered (candidates op a items) := by
  cases a with
  | missing => exact isCovered_ok _
  | function arity apply text => exact isCovered_keepItems h items
  | plain => nofun

theorem isCovered_run (op : SequenceOp) (items : List Value) :
    TypedQuery.IsCovered (op.run items a) := by
  cases op with
  | filter =>
    exact isCovered_function?_bind h _ fun f hf =>
      (isCovered_keepItems hf items).bind fun _ => isCovered_ok _
  | select =>
    exact isCovered_function?_bind h _ fun f hf =>
      (isCovered_mapItems hf items).bind fun _ => isCovered_ok _
  | orderBy =>
    exact isCovered_function?_bind h _ fun f hf =>
      (isCovered_sortItems hf false items).bind fun _ => isCovered_ok _
  | orderByDescending =>
    exact isCovered_function?_bind h _ fun f hf =>
      (isCovered_sortItems hf true items).bind fun _ => isCovered_ok _
  | reverse => exact isCovered_ok _
  | skip | take => exact (isCovered_count h _).bind fun _ => isCovered_ok _
  | first | last =>
    refine (isCovered_candidates h _ items).bind fun kept => ?_
    split <;> nofun
  | firstOrDefault | lastOrDefault =>
    exact (isCovered_candidates h _ items).bind fun _ => isCovered_ok _

end Operand

/-! ## Expressions -/

/-- A function's body has values for its free parameters where the function has them for its own. -/
theorem Scope.get?_enter_ne_none {σ : Scope} {params : List Parameter} (h : params.length = 1)
    (v : Value) {body : Expr} (hσ : ∀ id ∈ (Expr.lambda params body).freeIds, σ.get? id ≠ none) :
    ∀ id ∈ body.freeIds, (σ.enter params v).get? id ≠ none := by
  obtain ⟨p, rfl⟩ := List.length_eq_one_iff.1 h
  intro id hid
  rw [enter_singleton, get?_bind]
  split
  · nofun
  · rename_i hne
    exact hσ id (Expr.mem_freeIds_lambda.2 ⟨hid, by simpa using hne⟩)

namespace Expr

theorem isCovered_evalFields {σ : Scope} {fields : List (String × Expr)}
    (h : ∀ f ∈ fields, IsCovered (f.2.eval σ)) : IsCovered (evalFields σ fields) := by
  induction fields with
  | nil => exact isCovered_ok _
  | cons f fields ih =>
    rw [evalFields_cons]
    refine (h f (List.mem_cons_self ..)).bind ?_
    intro v
    exact (ih fun g hg => h g (List.mem_cons_of_mem _ hg)).bind fun _ => isCovered_ok _

theorem isCovered_operand {σ : Scope} {args : List Expr} (hargs : ∀ e ∈ args, IsCovered (e.eval σ))
    (hbodies : ∀ params body, .lambda params body ∈ args → ∀ v,
      IsCovered (body.eval (σ.enter params v))) :
    (operand σ args).IsCovered := by
  cases args with
  | nil => trivial
  | cons e rest =>
    have hmem : e ∈ e :: rest := List.mem_cons_self ..
    cases hlambda : e.isLambda with
    | false =>
      rw [operand_of_isLambda_eq_false hlambda]
      exact hargs e hmem
    | true =>
      obtain ⟨params, body, rfl⟩ := exists_eq_lambda hlambda
      rw [operand_lambda]
      exact hbodies params body hmem

/-- Where every free parameter has a value, evaluation does not fail for want of one. -/
theorem isCovered_eval {e : Expr} (hunary : e.isUnary = true) {σ : Scope}
    (h : ∀ id ∈ e.freeIds, σ.get? id ≠ none) : IsCovered (e.eval σ) := by
  induction e generalizing σ with
  | param p =>
    obtain ⟨v, hv⟩ := Option.ne_none_iff_exists'.1 (h p.id (by simp))
    rw [eval_param_of_get? hv]
    exact isCovered_ok v
  | const v t => exact isCovered_ok v
  | member e name t ih => exact (ih (by simpa using hunary) h).bind fun v => isCovered_member v name
  | binary op l r hl hr =>
    rw [isUnary_binary, Bool.and_eq_true] at hunary
    have hl : IsCovered (l.eval σ) := hl hunary.1 fun id hid => h id (by simp [hid])
    have hr : IsCovered (r.eval σ) := hr hunary.2 fun id hid => h id (by simp [hid])
    by_cases hop : op.isLogical = true
    · rw [eval_binary_logical hop]
      refine hl.bind fun v => (isCovered_truth v).bind fun left => ?_
      cases op.decided? left with
      | some b => exact isCovered_ok _
      | none => exact hr.bind fun w => (isCovered_truth w).bind fun _ => isCovered_ok _
    · rw [eval_binary_of_not_logical hop]
      exact hl.bind fun v => hr.bind fun w => isCovered_operator op v w
  | not e ih =>
    refine (ih (by simpa using hunary) h).bind fun v => ?_
    exact (isCovered_truth v).bind fun _ => isCovered_ok _
  | compare l r hl hr =>
    rw [isUnary_compare, Bool.and_eq_true] at hunary
    have hl : IsCovered (l.eval σ) := hl hunary.1 fun id hid => h id (by simp [hid])
    have hr : IsCovered (r.eval σ) := hr hunary.2 fun id hid => h id (by simp [hid])
    exact hl.bind fun v => hr.bind fun w => isCovered_compareTo v w
  | text e ih => exact (ih (by simpa using hunary) h).bind fun _ => isCovered_ok _
  | contains set e ih => exact (ih (by simpa using hunary) h).bind fun _ => isCovered_ok _
  | call op source args hsource hargs hbodies =>
    rw [isUnary_call, Bool.and_eq_true, List.all_eq_true] at hunary
    have hfree : ∀ e ∈ args, ∀ id ∈ e.freeIds, σ.get? id ≠ none :=
      fun e he id hid => h id (mem_freeIds_call.2 (Or.inr ⟨e, he, hid⟩))
    have hoperand : (operand σ args).IsCovered := by
      refine isCovered_operand (fun e he => hargs e he (hunary.2 e he) (hfree e he)) ?_
      intro params body hmem v
      have hone := hunary.2 _ hmem
      rw [isUnary_lambda, Bool.and_eq_true, beq_iff_eq] at hone
      exact hbodies params body hmem hone.2 (Scope.get?_enter_ne_none hone.1 v (hfree _ hmem))
    rw [eval_call]
    refine (hsource hunary.1 fun id hid => h id (mem_freeIds_call.2 (Or.inl hid))).bind fun v => ?_
    exact (isCovered_sequence v).bind fun items => Operand.isCovered_run hoperand op items
  | lambda params body ih => nofun
  | new type fields hfields =>
    rw [isUnary_new, List.all_eq_true] at hunary
    refine (isCovered_evalFields fun f hf => ?_).bind fun _ => isCovered_ok _
    exact hfields f hf (hunary f hf) fun id hid => h id (mem_freeIds_new.2 ⟨f, hf, hid⟩)

end Expr

/-! ## What is looked at before anything is evaluated -/

namespace Expr

variable {e : Expr}

/-- A scope with values for the free parameters has them for the free identities. -/
theorem get?_ne_none_of_freeParameters {σ : Scope}
    (h : ∀ p ∈ e.freeParameters, σ.get? p.id ≠ none) : ∀ id ∈ e.freeIds, σ.get? id ≠ none := by
  intro id hid
  obtain ⟨p, hp, rfl⟩ := exists_mem_freeParameters hid
  exact h p hp

/-- An expression evaluated for itself lacks the value of its first free parameter, or of none. -/
theorem evalClosed_eq_unbound_iff (hunary : e.isUnary = true) {name : String} :
    e.evalClosed = .error (.unbound name) ↔ ∃ p, e.freeParameters.head? = some p ∧ p.name = name := by
  unfold evalClosed
  cases hfree : e.freeParameters with
  | nil =>
    have hbound : ∀ p ∈ e.freeParameters, Scope.get? [] p.id ≠ none := by
      rw [hfree]
      nofun
    have hcovered := isCovered_eval hunary (get?_ne_none_of_freeParameters hbound) name
    simpa using hcovered
  | cons p ps => simp

end Expr

/-- A query that is run lacks the value of its first free parameter without one, or of none. -/
theorem BoundExpr.execute_eq_unbound_iff {b : BoundExpr} (hunary : b.expression.isUnary = true)
    {root : Value} {name : String} :
    b.execute root = .error (.unbound name) ↔
      ∃ p, b.expression.freeParameters.find? (fun p => ((b.scope root).get? p.id).isNone) = some p ∧
        p.name = name := by
  unfold execute
  cases hfind : b.expression.freeParameters.find? fun p => ((b.scope root).get? p.id).isNone with
  | none =>
    have hbound : ∀ p ∈ b.expression.freeParameters, (b.scope root).get? p.id ≠ none := by
      intro p hp hnone
      exact List.find?_eq_none.1 hfind p hp (Option.isNone_iff_eq_none.2 hnone)
    have hcovered := Expr.isCovered_eval hunary (Expr.get?_ne_none_of_freeParameters hbound) name
    simpa using hcovered
  | some p => simp

/-- Evaluation reads nothing of a scope but the values of the free parameters, and where they all have
one it does not fail for want of one.  So the look at the free parameters finds every such failure. -/
theorem Expr.eval_reads_freeParameters {e : Expr} (hunary : e.isUnary = true) :
    (∀ σ τ : Scope, (∀ p ∈ e.freeParameters, σ.get? p.id = τ.get? p.id) → e.eval σ = e.eval τ) ∧
    (∀ σ : Scope, (∀ p ∈ e.freeParameters, σ.get? p.id ≠ none) →
      ∀ name, e.eval σ ≠ .error (.unbound name)) ∧
    (∀ name, e.evalClosed = .error (.unbound name) ↔
      ∃ p, e.freeParameters.head? = some p ∧ p.name = name) ∧
    ∀ b : BoundExpr, b.expression = e → ∀ root name, b.execute root = .error (.unbound name) ↔
      ∃ p, e.freeParameters.find? (fun p => ((b.scope root).get? p.id).isNone) = some p ∧
        p.name = name := by
  refine ⟨?_, ?_, fun name => evalClosed_eq_unbound_iff hunary, ?_⟩
  · intro σ τ h
    refine eval_congr hunary fun id hid => ?_
    obtain ⟨p, hp, rfl⟩ := exists_mem_freeParameters hid
    exact h p hp
  · intro σ h
    exact isCovered_eval hunary (get?_ne_none_of_freeParameters h)
  · rintro b rfl root name
    exact BoundExpr.execute_eq_unbound_iff hunary

namespace Sample

/-- A team of a grown member and a young one. -/
def openTeam : Value :=
  .ofFields [("minAge", .int 10),
    ("members", .list [.ofFields [("age", .int 36)], .ofFields [("age", .int 12)]])]

/-- A scope for the members of the team from the limit on. -/
def teamScope : Scope := .ofList [(teamParam, openTeam), (leastAge, .int 18)]

/-- The scope with a value for the parameter that the function declares, and one that is hidden. -/
def nestedScope : Scope :=
  .ofList [(eachParam, .null), (leastAge, .int 40), (leastAge, .int 18), (teamParam, openTeam)]

end Sample

open Sample in
/-- The function's parameter is in one scope and not in the other.  Run without a limit, the query
lacks it before anything is evaluated. -/
theorem eval_teamScope_eq_nestedScope :
    grownMembers.expression.isUnary = true ∧
    (∀ p ∈ grownMembers.expression.freeParameters,
      teamScope.get? p.id = nestedScope.get? p.id ∧ teamScope.get? p.id ≠ none) ∧
    teamScope.get? eachParam.id ≠ nestedScope.get? eachParam.id ∧
    grownMembers.expression.eval teamScope = grownMembers.expression.eval nestedScope ∧
    grownMembers.expression.eval teamScope = .ok (.list [.ofFields [("age", .int 36)]]) ∧
    (∀ name, grownMembers.expression.eval nestedScope ≠ .error (.unbound name)) ∧
    grownMembers.expression.evalClosed = .error (.unbound "team") ∧
    { grownMembers with constants := [] }.execute openTeam = .error (.unbound "limit") := by
  have hscopes : ∀ p ∈ grownMembers.expression.freeParameters,
      teamScope.get? p.id = nestedScope.get? p.id ∧ teamScope.get? p.id ≠ none := by
    intro p hp
    have hp : p ∈ [teamParam, leastAge] := hp
    rcases List.mem_pair.1 hp with rfl | rfl
    · exact ⟨rfl, nofun⟩
    · exact ⟨rfl, nofun⟩
  obtain ⟨hreads, hcovered, hclosed, hexecute⟩ :=
    Expr.eval_reads_freeParameters (e := grownMembers.expression) rfl
  have heq := hreads teamScope nestedScope fun p hp => (hscopes p hp).1
  refine ⟨rfl, hscopes, nofun, heq, rfl, ?_, (hclosed "team").2 ⟨teamParam, rfl, rfl⟩, ?_⟩
  · exact hcovered nestedScope fun p hp => (hscopes p hp).1 ▸ (hscopes p hp).2
  · exact (hexecute { grownMembers with constants := [] } rfl openTeam "limit").2
      ⟨leastAge, rfl, rfl⟩

end TypedQuery
