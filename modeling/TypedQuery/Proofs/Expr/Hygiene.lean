import Mathlib.Order.MinMax
import TypedQuery.Proofs.Expr.Free

/-!
# Which parameters an expression names

Besides its free parameters an expression names those that its lambdas declare.  Substitution goes
under lambdas as they stand, so most statements about it ask which parameters they declare.

* `Expr.declares` says that a lambda of the expression declares a parameter, `Expr.mentions` that
  the parameter occurs somewhere, and `Expr.isUnary` that every lambda has one parameter.
* `Expr.index_lt_idBound` says that `Expr.idBound` is above every identity that the expression
  names, so that parameters drawn from a supply that avoids an expression are new to it.
-/

namespace TypedQuery.Expr

/-- Whether a lambda of the expression declares a parameter. -/
def declares (e : Expr) (id : ParamId) : Bool :=
  e.nodes.any fun
    | .lambda params _ => params.any (·.id == id)
    | _ => false

/-- Whether every lambda of the expression has exactly one parameter. -/
def isUnary (e : Expr) : Bool :=
  e.nodes.all fun
    | .lambda params _ => params.length == 1
    | _ => true

/-- Whether the expression is a lambda. -/
def isLambda : Expr → Bool
  | .lambda _ _ => true
  | _ => false

/-- What is a lambda has parameters and a body. -/
theorem exists_eq_lambda {e : Expr} (h : e.isLambda = true) :
    ∃ params body, e = .lambda params body := by
  cases e with
  | lambda params body => exact ⟨params, body, rfl⟩
  | _ => cases h

section Declares

variable {id : ParamId}

@[simp] theorem declares_param {p : Parameter} : (Expr.param p).declares id = false := rfl

@[simp] theorem declares_const {v : Value} {t : ExprType} :
    (Expr.const v t).declares id = false := rfl

@[simp] theorem declares_member {e : Expr} {name : String} {t : ExprType} :
    (Expr.member e name t).declares id = e.declares id := by
  simp [declares, nodes_member]

@[simp] theorem declares_binary {op : BinaryOp} {l r : Expr} :
    (Expr.binary op l r).declares id = (l.declares id || r.declares id) := by
  simp [declares, nodes_binary, List.any_append]

@[simp] theorem declares_not {e : Expr} : (Expr.not e).declares id = e.declares id := by
  simp [declares, nodes_not]

@[simp] theorem declares_compare {l r : Expr} :
    (Expr.compare l r).declares id = (l.declares id || r.declares id) := by
  simp [declares, nodes_compare, List.any_append]

@[simp] theorem declares_text {e : Expr} : (Expr.text e).declares id = e.declares id := by
  simp [declares, nodes_text]

@[simp] theorem declares_contains {set : List String} {e : Expr} :
    (Expr.contains set e).declares id = e.declares id := by
  simp [declares, nodes_contains]

@[simp] theorem declares_call {op : SequenceOp} {source : Expr} {args : List Expr} :
    (Expr.call op source args).declares id =
      (source.declares id || args.any (·.declares id)) := by
  simp only [declares, nodes_call, List.any_cons, List.any_append,
    List.any_flatMap, Bool.false_or]

@[simp] theorem declares_lambda {params : List Parameter} {body : Expr} :
    (Expr.lambda params body).declares id = (params.any (·.id == id) || body.declares id) := by
  simp [declares, nodes_lambda]

@[simp] theorem declares_new {type : Option String} {fields : List (String × Expr)} :
    (Expr.new type fields).declares id = fields.any fun f => f.2.declares id := by
  simp only [declares, nodes_new, List.any_cons, List.any_flatMap,
    Bool.false_or]

end Declares

section Unary

@[simp] theorem isUnary_param {p : Parameter} : (Expr.param p).isUnary = true := rfl

@[simp] theorem isUnary_const {v : Value} {t : ExprType} : (Expr.const v t).isUnary = true := rfl

@[simp] theorem isUnary_member {e : Expr} {name : String} {t : ExprType} :
    (Expr.member e name t).isUnary = e.isUnary := by
  simp [isUnary, nodes_member]

@[simp] theorem isUnary_binary {op : BinaryOp} {l r : Expr} :
    (Expr.binary op l r).isUnary = (l.isUnary && r.isUnary) := by
  simp [isUnary, nodes_binary, List.all_append]

@[simp] theorem isUnary_not {e : Expr} : (Expr.not e).isUnary = e.isUnary := by
  simp [isUnary, nodes_not]

@[simp] theorem isUnary_compare {l r : Expr} :
    (Expr.compare l r).isUnary = (l.isUnary && r.isUnary) := by
  simp [isUnary, nodes_compare, List.all_append]

@[simp] theorem isUnary_text {e : Expr} : (Expr.text e).isUnary = e.isUnary := by
  simp [isUnary, nodes_text]

@[simp] theorem isUnary_contains {set : List String} {e : Expr} :
    (Expr.contains set e).isUnary = e.isUnary := by
  simp [isUnary, nodes_contains]

@[simp] theorem isUnary_call {op : SequenceOp} {source : Expr} {args : List Expr} :
    (Expr.call op source args).isUnary = (source.isUnary && args.all isUnary) := by
  simp only [isUnary, nodes_call, List.all_cons, List.all_append, List.all_flatMap, Bool.true_and]
  rfl

@[simp] theorem isUnary_lambda {params : List Parameter} {body : Expr} :
    (Expr.lambda params body).isUnary = (params.length == 1 && body.isUnary) := by
  simp [isUnary, nodes_lambda]

@[simp] theorem isUnary_new {type : Option String} {fields : List (String × Expr)} :
    (Expr.new type fields).isUnary = fields.all fun f => f.2.isUnary := by
  simp only [isUnary, nodes_new, List.all_cons, List.all_flatMap,
    Bool.true_and]

end Unary

section Mentions

variable {id : ParamId}

@[simp] theorem mentions_param {p : Parameter} : (Expr.param p).mentions id = (p.id == id) := by
  simp [mentions, nodes_param]

@[simp] theorem mentions_const {v : Value} {t : ExprType} :
    (Expr.const v t).mentions id = false := rfl

@[simp] theorem mentions_member {e : Expr} {name : String} {t : ExprType} :
    (Expr.member e name t).mentions id = e.mentions id := by
  simp [mentions, nodes_member]

@[simp] theorem mentions_binary {op : BinaryOp} {l r : Expr} :
    (Expr.binary op l r).mentions id = (l.mentions id || r.mentions id) := by
  simp [mentions, nodes_binary, List.any_append]

@[simp] theorem mentions_not {e : Expr} : (Expr.not e).mentions id = e.mentions id := by
  simp [mentions, nodes_not]

@[simp] theorem mentions_compare {l r : Expr} :
    (Expr.compare l r).mentions id = (l.mentions id || r.mentions id) := by
  simp [mentions, nodes_compare, List.any_append]

@[simp] theorem mentions_text {e : Expr} : (Expr.text e).mentions id = e.mentions id := by
  simp [mentions, nodes_text]

@[simp] theorem mentions_contains {set : List String} {e : Expr} :
    (Expr.contains set e).mentions id = e.mentions id := by
  simp [mentions, nodes_contains]

@[simp] theorem mentions_call {op : SequenceOp} {source : Expr} {args : List Expr} :
    (Expr.call op source args).mentions id =
      (source.mentions id || args.any (·.mentions id)) := by
  simp only [mentions, nodes_call, List.any_cons, List.any_append,
    List.any_flatMap, Bool.false_or]

@[simp] theorem mentions_lambda {params : List Parameter} {body : Expr} :
    (Expr.lambda params body).mentions id = body.mentions id := by
  simp [mentions, nodes_lambda]

@[simp] theorem mentions_new {type : Option String} {fields : List (String × Expr)} :
    (Expr.new type fields).mentions id = fields.any fun f => f.2.mentions id := by
  simp only [mentions, nodes_new, List.any_cons, List.any_flatMap,
    Bool.false_or]

end Mentions

/-- A free parameter occurs. -/
theorem mentions_of_mem_freeIds {e : Expr} {id : ParamId} (h : id ∈ e.freeIds) :
    e.mentions id = true := by
  induction e with
  | param p =>
    rw [mem_freeIds_param] at h
    simp [h]
  | const v t => simp at h
  | member e name t ih => simpa using ih h
  | binary op l r hl hr | compare l r hl hr =>
    simp only [mem_freeIds_binary, mem_freeIds_compare] at h
    rcases h with h | h
    · simp [hl h]
    · simp [hr h]
  | not e ih | text e ih => simpa using ih h
  | contains set e ih => simpa using ih h
  | call op source args hsource hargs =>
    rcases mem_freeIds_call.1 h with h | ⟨e, he, h⟩
    · simp [hsource h]
    · simp only [mentions_call, Bool.or_eq_true, List.any_eq_true]
      exact Or.inr ⟨e, he, hargs e he h⟩
  | lambda params body ih => simpa using ih (mem_freeIds_lambda.1 h).1
  | new type fields hfields =>
    obtain ⟨f, hf, h⟩ := mem_freeIds_new.1 h
    simp only [mentions_new, List.any_eq_true]
    exact ⟨f, hf, hfields f hf h⟩

/-- What occurs is free, unless a lambda declares it. -/
theorem mem_freeIds_of_mentions {e : Expr} {id : ParamId} (h : e.mentions id = true)
    (hdeclares : e.declares id = false) : id ∈ e.freeIds := by
  induction e with
  | param p =>
    rw [mentions_param, beq_iff_eq] at h
    exact mem_freeIds_param.2 h.symm
  | const v t => simp at h
  | member e name t ih => exact ih (by simpa using h) (by simpa using hdeclares)
  | binary op l r hl hr | compare l r hl hr =>
    simp only [mentions_binary, mentions_compare, Bool.or_eq_true] at h
    simp only [declares_binary, declares_compare, Bool.or_eq_false_iff] at hdeclares
    simp only [mem_freeIds_binary, mem_freeIds_compare]
    exact h.imp (hl · hdeclares.1) (hr · hdeclares.2)
  | not e ih | text e ih => exact ih (by simpa using h) (by simpa using hdeclares)
  | contains set e ih => exact ih (by simpa using h) (by simpa using hdeclares)
  | call op source args hsource hargs =>
    simp only [mentions_call, Bool.or_eq_true, List.any_eq_true] at h
    simp only [declares_call, Bool.or_eq_false_iff, List.any_eq_false, Bool.not_eq_true]
      at hdeclares
    rw [mem_freeIds_call]
    refine h.imp (hsource · hdeclares.1) ?_
    rintro ⟨e, he, h⟩
    exact ⟨e, he, hargs e he h (hdeclares.2 e he)⟩
  | lambda params body ih =>
    simp only [declares_lambda, Bool.or_eq_false_iff, List.any_eq_false, beq_iff_eq]
      at hdeclares
    refine mem_freeIds_lambda.2 ⟨ih (by simpa using h) hdeclares.2, ?_⟩
    simpa using hdeclares.1
  | new type fields hfields =>
    simp only [mentions_new, List.any_eq_true] at h
    simp only [declares_new, List.any_eq_false, Bool.not_eq_true] at hdeclares
    obtain ⟨f, hf, h⟩ := h
    exact mem_freeIds_new.2 ⟨f, hf, hfields f hf h (hdeclares f hf)⟩

/-! ## Above all identities -/

theorem index_lt_of_mem_params {params : List Parameter} {p : Parameter} (hp : p ∈ params) :
    p.id.index < (params.map fun p => p.id.index + 1).foldr max 0 := by
  induction params with
  | nil => nomatch hp
  | cons q params ih =>
    rw [List.map_cons, List.foldr_cons, lt_max_iff]
    rcases List.mem_cons.1 hp with rfl | hp
    · exact Or.inl (Nat.lt_succ_self _)
    · exact Or.inr (ih hp)

/-- The bound of an expression is above every identity that it names. -/
theorem index_lt_idBound {e : Expr} {id : ParamId}
    (h : e.mentions id = true ∨ e.declares id = true) : id.index < e.idBound := by
  induction e with
  | param p =>
    have hp : p.id = id := by simpa using h
    rw [idBound, hp]
    exact Nat.lt_succ_self _
  | const v t => simp at h
  | member e name t ih => exact ih (by simpa using h)
  | binary op l r hl hr | compare l r hl hr =>
    rw [idBound, lt_max_iff]
    have h : (l.mentions id = true ∨ l.declares id = true) ∨
        (r.mentions id = true ∨ r.declares id = true) := by
      simp only [mentions_binary, declares_binary, mentions_compare, declares_compare,
        Bool.or_eq_true] at h
      grind
    exact h.imp hl hr
  | not e ih | text e ih => exact ih (by simpa using h)
  | contains set e ih => exact ih (by simpa using h)
  | call op source args hsource hargs =>
    rw [idBound, lt_max_iff]
    have h : (source.mentions id = true ∨ source.declares id = true) ∨
        ∃ e ∈ args, e.mentions id = true ∨ e.declares id = true := by
      simp only [mentions_call, declares_call, Bool.or_eq_true, List.any_eq_true] at h
      grind
    rcases h with h | ⟨e, he, h⟩
    · exact Or.inl (hsource h)
    · exact Or.inr (Nat.lt_of_lt_of_le (hargs e he h) (idBound_le_of_mem_items he))
  | lambda params body ih =>
    rw [idBound, lt_max_iff]
    have h : (∃ p ∈ params, p.id = id) ∨ body.mentions id = true ∨ body.declares id = true := by
      simp only [mentions_lambda, declares_lambda, Bool.or_eq_true, List.any_eq_true,
        beq_iff_eq] at h
      exact or_left_comm.1 h
    refine h.imp ?_ ih
    rintro ⟨p, hp, rfl⟩
    exact index_lt_of_mem_params hp
  | new type fields hfields =>
    rw [idBound]
    have h : ∃ f ∈ fields, f.2.mentions id = true ∨ f.2.declares id = true := by
      simp only [mentions_new, declares_new, List.any_eq_true] at h
      grind
    obtain ⟨f, hf, h⟩ := h
    exact Nat.lt_of_lt_of_le (hfields f hf h) (idBound_le_of_mem_fields hf)

theorem declares_of_idBound_le {e : Expr} {id : ParamId} (h : e.idBound ≤ id.index) :
    e.declares id = false := by
  by_contra hne
  have hlt := index_lt_idBound (Or.inr (by simpa using hne))
  omega

theorem mentions_of_idBound_le {e : Expr} {id : ParamId} (h : e.idBound ≤ id.index) :
    e.mentions id = false := by
  by_contra hne
  have hlt := index_lt_idBound (Or.inl (by simpa using hne))
  omega

end TypedQuery.Expr
