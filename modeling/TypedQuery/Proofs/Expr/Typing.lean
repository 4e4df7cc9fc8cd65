import TypedQuery.Proofs.Expr.Replacement

/-!
# Static types after a replacement

The static type of an expression is read off its form, down to the parameters that it takes a type
from.  A call of `select` looks whether its first argument is a lambda, so what takes the place of a
parameter may change which rule applies.  An expression of the parameter's type that is no lambda
does not: `Expr.ty_replace`.  Which parameters occur after a replacement, each with the type that
stands there, is `Expr.mem_nodes_replace_param`.
-/

namespace TypedQuery.Expr

/-! ## Types of calls -/

theorem ty_call_select (source : Expr) (params : List Parameter) (body : Expr)
    (rest : List Expr) :
    (Expr.call .select source (.lambda params body :: rest)).ty = .sequence body.ty := rfl

theorem ty_call_select_of_isLambda_eq_false {e : Expr} (h : e.isLambda = false) (source : Expr)
    (rest : List Expr) : (Expr.call .select source (e :: rest)).ty = source.ty := by
  cases e <;> first | rfl | cases h

theorem ty_call_of_isTerminal {op : SequenceOp} (h : op.isTerminal = true) (source : Expr)
    (args : List Expr) :
    (Expr.call op source args).ty = source.ty.element?.getD source.ty := by
  cases op <;> first | rfl | cases h

theorem ty_call_of_ne_select {op : SequenceOp} (hselect : op ≠ .select)
    (hterminal : op.isTerminal = false) (source : Expr) (args : List Expr) :
    (Expr.call op source args).ty = source.ty := by
  cases op <;> first | rfl | exact absurd rfl hselect | cases hterminal

/-- What has no function type is no lambda. -/
theorem isLambda_eq_false_of_ty {e : Expr} (h : ∀ params output, e.ty ≠ .function params output) :
    e.isLambda = false := by
  cases e with
  | lambda params body => exact absurd rfl (h _ _)
  | _ => rfl

/-! ## Parameters among the parts -/

/-- The parameters that occur after a replacement are the others that occurred before, and those of
the new expression. -/
theorem mem_nodes_replace_param {e d : Expr} {x : ParamId} {p : Parameter}
    (h : .param p ∈ (e.replace x d).nodes) :
    .param p ∈ e.nodes ∧ p.id ≠ x ∨ .param p ∈ d.nodes := by
  induction e with
  | param q =>
    rw [replace_param] at h
    split at h
    · exact Or.inr h
    · rename_i hne
      obtain rfl := Expr.param.inj (List.mem_singleton.1 h)
      exact Or.inl ⟨h, hne⟩
  | const v t => simp [nodes] at h
  | member e name t ih =>
    simp only [replace_member, nodes_member, List.mem_cons, reduceCtorEq, false_or] at h ⊢
    exact ih h
  | binary op l r hl hr | compare l r hl hr =>
    simp only [replace_binary, nodes_binary, replace_compare, nodes_compare, List.mem_cons,
      List.mem_append, reduceCtorEq, false_or] at h ⊢
    rcases h with h | h
    · exact (hl h).imp_left fun h => ⟨Or.inl h.1, h.2⟩
    · exact (hr h).imp_left fun h => ⟨Or.inr h.1, h.2⟩
  | not e ih | text e ih =>
    simp only [replace_not, nodes_not, replace_text, nodes_text, List.mem_cons, reduceCtorEq,
      false_or] at h ⊢
    exact ih h
  | contains set e ih =>
    simp only [replace_contains, nodes_contains, List.mem_cons, reduceCtorEq, false_or] at h ⊢
    exact ih h
  | call op source args hsource hargs =>
    simp only [replace_call, nodes_call, List.mem_cons, List.mem_append, List.mem_flatMap,
      List.mem_map, exists_exists_and_eq_and, reduceCtorEq, false_or] at h ⊢
    rcases h with h | ⟨e, he, h⟩
    · exact (hsource h).imp_left fun h => ⟨Or.inl h.1, h.2⟩
    · exact (hargs e he h).imp_left fun h => ⟨Or.inr ⟨e, he, h.1⟩, h.2⟩
  | lambda params body ih =>
    simp only [replace_lambda, nodes_lambda, List.mem_cons, reduceCtorEq, false_or] at h ⊢
    exact ih h
  | new type fields hfields =>
    simp only [replace_new, nodes_new, List.mem_cons, List.mem_flatMap, List.mem_map,
      exists_exists_and_eq_and, reduceCtorEq, false_or] at h ⊢
    obtain ⟨f, hf, h⟩ := h
    exact (hfields f hf h).imp_left fun h => ⟨⟨f, hf, h.1⟩, h.2⟩

/-- What occurs somewhere is mentioned. -/
theorem mentions_of_mem_nodes {e : Expr} {p : Parameter} (h : .param p ∈ e.nodes) :
    e.mentions p.id = true :=
  List.any_eq_true.2 ⟨_, h, beq_self_eq_true _⟩

/-! ## Types after a replacement -/

/-- An expression that is no lambda may take the place of a parameter that has its type wherever it
occurs. -/
theorem ty_replace {e d : Expr} {x : ParamId} (hd : d.isLambda = false)
    (hty : ∀ p, .param p ∈ e.nodes → p.id = x → p.ty = d.ty) : (e.replace x d).ty = e.ty := by
  induction e with
  | param p =>
    rw [replace_param]
    split
    · rename_i hp
      exact (hty p (List.mem_singleton_self _) hp).symm
    · rfl
  | const | member | binary | not | compare | text | contains => rfl
  | call op source args hsource hargs hbodies =>
    simp only [nodes_call, List.mem_cons, List.mem_append, List.mem_flatMap, reduceCtorEq,
      false_or] at hty
    have hsource := hsource fun p hp => hty p (Or.inl hp)
    rw [replace_call]
    by_cases hselect : op = .select
    · subst hselect
      cases args with
      | nil => exact hsource
      | cons e rest =>
        rw [List.map_cons]
        -- The type is the selector's if there is one, and the replacement makes no other.
        cases hlambda : e.isLambda with
        | false =>
          rw [ty_call_select_of_isLambda_eq_false ((isLambda_replace hd).trans hlambda),
            ty_call_select_of_isLambda_eq_false hlambda, hsource]
        | true =>
          obtain ⟨params, body, rfl⟩ := exists_eq_lambda hlambda
          have hmem : Expr.lambda params body ∈ Expr.lambda params body :: rest :=
            List.mem_cons_self ..
          have hbody := hbodies params body hmem fun p hp =>
            hty p (Or.inr ⟨_, hmem, List.mem_cons_of_mem _ hp⟩)
          rw [replace_lambda, ty_call_select, ty_call_select, hbody]
    · by_cases hterminal : op.isTerminal = true
      · rw [ty_call_of_isTerminal hterminal, ty_call_of_isTerminal hterminal, hsource]
      · rw [Bool.not_eq_true] at hterminal
        rw [ty_call_of_ne_select hselect hterminal, ty_call_of_ne_select hselect hterminal, hsource]
  | lambda params body ih =>
    rw [replace_lambda, ty, ty, ih fun p hp => hty p (List.mem_cons_of_mem _ hp)]
  | new type fields hfields =>
    rw [replace_new]
    cases type with
    | some name => rfl
    | none =>
      simp only [nodes_new, List.mem_cons, List.mem_flatMap, reduceCtorEq, false_or] at hty
      rw [ty, ty, tyOfFields_eq_map, tyOfFields_eq_map, List.map_map]
      refine congrArg ExprType.record (List.map_congr_left fun f hf => congrArg (Prod.mk f.1) ?_)
      exact hfields f hf fun p hp => hty p ⟨f, hf, hp⟩

/-- Which of two parameters of one type takes the place of another does not show in the type. -/
theorem ty_replace_param (e : Expr) (x : ParamId) {p q : Parameter} (hty : q.ty = p.ty) :
    (e.replace x q.expr).ty = (e.replace x p.expr).ty := by
  -- Both have the type that the expression has with a parameter that occurs nowhere else.
  let other : Parameter := ⟨⟨e.idBound⟩, p.name, p.ty⟩
  have hother : e.mentions other.id = false := mentions_of_idBound_le (Nat.le_refl _)
  have hsame : ∀ s : Parameter, s.ty = p.ty →
      (e.replace x s.expr).ty = (e.replace x other.expr).ty := by
    intro s hs
    have hreplace : e.replace x s.expr = (e.replace x other.expr).replace other.id s.expr := by
      rw [replace_replace_of_mentions other.expr s.expr hother]
      exact congrArg (e.replace x) (replace_param_self other).symm
    rw [hreplace]
    refine ty_replace rfl fun t ht hid => ?_
    rcases mem_nodes_replace_param ht with ⟨ht, -⟩ | ht
    · have hmentions := mentions_of_mem_nodes ht
      rw [hid, hother] at hmentions
      cases hmentions
    · obtain rfl := Expr.param.inj (List.mem_singleton.1 ht)
      exact hs.symm
  rw [hsame q hty, hsame p rfl]

end TypedQuery.Expr
