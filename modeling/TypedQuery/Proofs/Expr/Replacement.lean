import TypedQuery.Proofs.Expr.Hygiene

/-!
# Replacing a parameter

What an expression names after another one has taken the place of a parameter.  The replacement goes
under lambdas as they stand.  `Expr.mem_freeIds_replace` says which parameters are then free, if no
lambda captures one of the new expression; `Expr.find?_occurrences_replace` holds also where one
does.
-/

namespace TypedQuery.Expr

section Forms

variable {x : ParamId} {d : Expr}

theorem replace_param (p : Parameter) :
    (Expr.param p).replace x d = if p.id = x then d else .param p := rfl

@[simp] theorem replace_param_self (p : Parameter) : (Expr.param p).replace p.id d = d :=
  if_pos rfl

@[simp] theorem replace_const (v : Value) (t : ExprType) :
    (Expr.const v t).replace x d = .const v t := rfl

@[simp] theorem replace_member (e : Expr) (name : String) (t : ExprType) :
    (Expr.member e name t).replace x d = .member (e.replace x d) name t := rfl

@[simp] theorem replace_binary (op : BinaryOp) (l r : Expr) :
    (Expr.binary op l r).replace x d = .binary op (l.replace x d) (r.replace x d) := rfl

@[simp] theorem replace_not (e : Expr) : (Expr.not e).replace x d = .not (e.replace x d) := rfl

@[simp] theorem replace_compare (l r : Expr) :
    (Expr.compare l r).replace x d = .compare (l.replace x d) (r.replace x d) := rfl

@[simp] theorem replace_text (e : Expr) : (Expr.text e).replace x d = .text (e.replace x d) := rfl

@[simp] theorem replace_contains (set : List String) (e : Expr) :
    (Expr.contains set e).replace x d = .contains set (e.replace x d) := rfl

@[simp] theorem replace_call (op : SequenceOp) (source : Expr) (args : List Expr) :
    (Expr.call op source args).replace x d =
      .call op (source.replace x d) (args.map (·.replace x d)) := by
  rw [← replaceItems_eq_map]
  rfl

@[simp] theorem replace_lambda (params : List Parameter) (body : Expr) :
    (Expr.lambda params body).replace x d = .lambda params (body.replace x d) := rfl

@[simp] theorem replace_new (type : Option String) (fields : List (String × Expr)) :
    (Expr.new type fields).replace x d =
      .new type (fields.map fun f => (f.1, f.2.replace x d)) := by
  rw [← replaceFields_eq_map]
  rfl

end Forms

/-- A parameter that does not occur leaves nothing to replace. -/
theorem replace_eq_self {e : Expr} {x : ParamId} (d : Expr) (h : e.mentions x = false) :
    e.replace x d = e := by
  induction e with
  | param p =>
    rw [replace_param, if_neg]
    simpa using h
  | const v t => rfl
  | member e name t ih => rw [replace_member, ih (by simpa using h)]
  | binary op l r hl hr =>
    simp only [mentions_binary, Bool.or_eq_false_iff] at h
    rw [replace_binary, hl h.1, hr h.2]
  | not e ih => rw [replace_not, ih (by simpa using h)]
  | compare l r hl hr =>
    simp only [mentions_compare, Bool.or_eq_false_iff] at h
    rw [replace_compare, hl h.1, hr h.2]
  | text e ih => rw [replace_text, ih (by simpa using h)]
  | contains set e ih => rw [replace_contains, ih (by simpa using h)]
  | call op source args hsource hargs =>
    simp only [mentions_call, Bool.or_eq_false_iff, List.any_eq_false, Bool.not_eq_true] at h
    rw [replace_call, hsource h.1, List.map_congr_left fun e he => hargs e he (h.2 e he),
      List.map_id']
  | lambda params body ih => rw [replace_lambda, ih (by simpa using h)]
  | new type fields hfields =>
    simp only [mentions_new, List.any_eq_false, Bool.not_eq_true] at h
    rw [replace_new, List.map_congr_left fun f hf =>
      show (f.1, f.2.replace x d) = f by rw [hfields f hf (h f hf)], List.map_id']

/-- Of two replacements the later one may be made first, in what the earlier one puts in too, if it
brings nothing for the earlier one to replace. -/
theorem replace_replace {e d r : Expr} {x y : ParamId} (hne : x ≠ y) (hr : r.mentions x = false) :
    (e.replace x d).replace y r = (e.replace y r).replace x (d.replace y r) := by
  induction e with
  | param p =>
    by_cases hx : p.id = x
    · subst hx
      rw [replace_param_self, replace_param, if_neg hne, replace_param_self]
    · rw [replace_param, if_neg hx, replace_param]
      split
      · exact (replace_eq_self _ hr).symm
      · rw [replace_param, if_neg hx]
  | const v t => rfl
  | member e name t ih => simp only [replace_member, ih]
  | binary op l r hl hr => simp only [replace_binary, hl, hr]
  | not e ih => simp only [replace_not, ih]
  | compare l r hl hr => simp only [replace_compare, hl, hr]
  | text e ih => simp only [replace_text, ih]
  | contains set e ih => simp only [replace_contains, ih]
  | call op source args hsource hargs =>
    simp only [replace_call, hsource, List.map_map]
    congr 1
    exact List.map_congr_left fun e he => hargs e he
  | lambda params body ih => simp only [replace_lambda, ih]
  | new type fields hfields =>
    simp only [replace_new, List.map_map]
    congr 1
    exact List.map_congr_left fun f hf => congrArg (Prod.mk f.1) (hfields f hf)

/-- A replacement in what has been put in may be made before it is put in, if the expression around
it has nothing to replace. -/
theorem replace_replace_of_mentions {e : Expr} {x y : ParamId} (d r : Expr)
    (h : e.mentions y = false) : (e.replace x d).replace y r = e.replace x (d.replace y r) := by
  induction e with
  | param p =>
    rw [replace_param, replace_param]
    split
    · rfl
    · exact replace_eq_self r h
  | const v t => rfl
  | member e name t ih => rw [replace_member, replace_member, replace_member, ih (by simpa using h)]
  | binary op l r hl hr =>
    simp only [mentions_binary, Bool.or_eq_false_iff] at h
    simp only [replace_binary, hl h.1, hr h.2]
  | not e ih => simp only [replace_not, ih (by simpa using h)]
  | compare l r hl hr =>
    simp only [mentions_compare, Bool.or_eq_false_iff] at h
    simp only [replace_compare, hl h.1, hr h.2]
  | text e ih => simp only [replace_text, ih (by simpa using h)]
  | contains set e ih => simp only [replace_contains, ih (by simpa using h)]
  | call op source args hsource hargs =>
    simp only [mentions_call, Bool.or_eq_false_iff, List.any_eq_false, Bool.not_eq_true] at h
    simp only [replace_call, hsource h.1, List.map_map]
    congr 1
    exact List.map_congr_left fun e he => hargs e he (h.2 e he)
  | lambda params body ih => simp only [replace_lambda, ih (by simpa using h)]
  | new type fields hfields =>
    simp only [mentions_new, List.any_eq_false, Bool.not_eq_true] at h
    simp only [replace_new, List.map_map]
    congr 1
    exact List.map_congr_left fun f hf => congrArg (Prod.mk f.1) (hfields f hf (h f hf))

/-- Of what is no lambda, a replacement by something that has a value makes none. -/
theorem isLambda_replace {e d : Expr} {x : ParamId} (hd : d.isLambda = false) :
    (e.replace x d).isLambda = e.isLambda := by
  cases e with
  | param p =>
    rw [replace_param]
    split
    · exact hd
    · rfl
  | _ => rfl

/-! ## What is named afterwards -/

/-- The parameters that occur after a replacement. -/
theorem mentions_replace (e : Expr) (x y : ParamId) (d : Expr) :
    (e.replace x d).mentions y = true ↔
      e.mentions y = true ∧ y ≠ x ∨ e.mentions x = true ∧ d.mentions y = true := by
  induction e with
  | param p =>
    rw [replace_param]
    split
    · rename_i hp
      subst hp
      grind [mentions_param]
    · grind [mentions_param]
  | const v t => simp
  | member e name t ih => simpa using ih
  | binary op l r hl hr | compare l r hl hr =>
    simp only [replace_binary, mentions_binary, replace_compare, mentions_compare,
      Bool.or_eq_true, hl, hr]
    grind
  | not e ih | text e ih => simpa using ih
  | contains set e ih => simpa using ih
  | call op source args hsource hargs =>
    simp only [replace_call, mentions_call, Bool.or_eq_true, List.any_eq_true, List.mem_map,
      exists_exists_and_eq_and, hsource]
    grind
  | lambda params body ih => simpa using ih
  | new type fields hfields =>
    simp only [replace_new, mentions_new, List.any_eq_true, List.mem_map, exists_exists_and_eq_and]
    grind

/-- The parameters that lambdas declare after a replacement. -/
theorem declares_replace (e : Expr) (x y : ParamId) (d : Expr) :
    (e.replace x d).declares y = true ↔
      e.declares y = true ∨ e.mentions x = true ∧ d.declares y = true := by
  induction e with
  | param p =>
    rw [replace_param]
    split <;> simp_all
  | const v t => simp
  | member e name t ih => simpa using ih
  | binary op l r hl hr | compare l r hl hr =>
    simp only [replace_binary, declares_binary, mentions_binary, replace_compare,
      declares_compare, mentions_compare, Bool.or_eq_true, hl, hr]
    grind
  | not e ih | text e ih => simpa using ih
  | contains set e ih => simpa using ih
  | call op source args hsource hargs =>
    simp only [replace_call, declares_call, mentions_call, Bool.or_eq_true, List.any_eq_true,
      List.mem_map, exists_exists_and_eq_and, hsource]
    grind
  | lambda params body ih =>
    simp only [replace_lambda, declares_lambda, mentions_lambda, Bool.or_eq_true, ih, or_assoc]
  | new type fields hfields =>
    simp only [replace_new, declares_new, mentions_new, List.any_eq_true, List.mem_map,
      exists_exists_and_eq_and]
    grind

/-- Lambdas have one parameter each after a replacement, if they had before. -/
theorem isUnary_replace {e d : Expr} {x : ParamId} (he : e.isUnary = true)
    (hd : d.isUnary = true) : (e.replace x d).isUnary = true := by
  induction e with
  | param p =>
    rw [replace_param]
    split
    · exact hd
    · rfl
  | const v t => rfl
  | member e name t ih => simpa using ih (by simpa using he)
  | binary op l r hl hr | compare l r hl hr =>
    simp only [isUnary_binary, isUnary_compare, Bool.and_eq_true] at he
    simp [hl he.1, hr he.2]
  | not e ih | text e ih => simpa using ih (by simpa using he)
  | contains set e ih => simpa using ih (by simpa using he)
  | call op source args hsource hargs =>
    simp only [isUnary_call, Bool.and_eq_true, List.all_eq_true] at he
    simp only [replace_call, isUnary_call, Bool.and_eq_true, List.all_eq_true, List.mem_map]
    refine ⟨hsource he.1, ?_⟩
    rintro _ ⟨e, hmem, rfl⟩
    exact hargs e hmem (he.2 e hmem)
  | lambda params body ih =>
    simp only [isUnary_lambda, Bool.and_eq_true] at he
    simp [he.1, ih he.2]
  | new type fields hfields =>
    simp only [isUnary_new, List.all_eq_true] at he
    simp only [replace_new, isUnary_new, List.all_eq_true, List.mem_map]
    rintro _ ⟨f, hmem, rfl⟩
    exact hfields f hmem (he f hmem)

/-! ## Free parameters -/

/-- What members of a list give may be filtered before, if each gives what is kept or nothing that
is. -/
theorem filter_flatMap_eq_flatMap_filter {α β : Type} {keep : β → Bool} {keep' : α → Bool}
    {g : α → List β} {l : List α}
    (h : ∀ a ∈ l, (g a).filter keep = if keep' a then g a else []) :
    (l.flatMap g).filter keep = (l.filter keep').flatMap g := by
  induction l with
  | nil => rfl
  | cons a l ih =>
    rw [List.flatMap_cons, List.filter_append, h a (List.mem_cons_self ..),
      ih fun b hb => h b (List.mem_cons_of_mem _ hb), List.filter_cons]
    split <;> rfl

/-- If no lambda declares the replaced parameter or one that is free in the new expression, each
occurrence of the parameter gives way to the occurrences in that expression. -/
theorem occurrences_replace {e d : Expr} {x : ParamId} (hx : e.declares x = false)
    (hcapture : ∀ id ∈ d.freeIds, e.declares id = false) :
    (e.replace x d).occurrences =
      e.occurrences.flatMap fun p => if p.id = x then d.occurrences else [p] := by
  induction e with
  | param p =>
    rw [replace_param, occurrences_param, List.flatMap_singleton]
    split <;> rfl
  | const v t => rfl
  | member e name t ih => exact ih (by simpa using hx) (by simpa using hcapture)
  | binary op l r hl hr | compare l r hl hr =>
    simp only [declares_binary, declares_compare, Bool.or_eq_false_iff] at hx hcapture
    simp only [replace_binary, replace_compare, occurrences_binary, occurrences_compare,
      List.flatMap_append, hl hx.1 fun id hid => (hcapture id hid).1,
      hr hx.2 fun id hid => (hcapture id hid).2]
  | not e ih | text e ih => exact ih (by simpa using hx) (by simpa using hcapture)
  | contains set e ih => exact ih (by simpa using hx) (by simpa using hcapture)
  | call op source args hsource hargs =>
    simp only [declares_call, Bool.or_eq_false_iff, List.any_eq_false, Bool.not_eq_true]
      at hx hcapture
    rw [replace_call, occurrences_call, List.flatMap_map, occurrences_call, List.flatMap_append,
      List.flatMap_assoc, hsource hx.1 fun id hid => (hcapture id hid).1]
    congr 1
    exact List.flatMap_congr fun e he =>
      hargs e he (hx.2 e he) fun id hid => (hcapture id hid).2 e he
  | lambda params body ih =>
    simp only [declares_lambda, Bool.or_eq_false_iff, List.any_eq_false, beq_iff_eq] at hx hcapture
    rw [replace_lambda, occurrences_lambda, occurrences_lambda,
      ih hx.2 fun id hid => (hcapture id hid).2]
    -- The lambda declares neither `x` nor what takes its place, and so hides nothing of them.
    refine filter_flatMap_eq_flatMap_filter fun p _ => ?_
    by_cases hp : p.id = x
    · have hkeep : (!(params.map Parameter.id).contains p.id) = true := by
        simpa [hp] using hx.1
      have hall : ∀ q ∈ d.occurrences, (!(params.map Parameter.id).contains q.id) = true := by
        intro q hq
        simpa using (hcapture q.id (List.mem_map_of_mem hq)).1
      rw [if_pos hp, if_pos hkeep, List.filter_eq_self.2 hall]
    · rw [if_neg hp]
      exact List.filter_cons
  | new type fields hfields =>
    simp only [declares_new, List.any_eq_false, Bool.not_eq_true] at hx hcapture
    rw [replace_new, occurrences_new, List.flatMap_map, occurrences_new, List.flatMap_assoc]
    exact List.flatMap_congr fun f hf =>
      hfields f hf (hx f hf) fun id hid => hcapture id hid f hf

/-- Whatever lambdas declare, an identity of which nothing but the replaced parameter is free occurs
first as it does in the new expression. -/
theorem find?_occurrences_replace {e d : Expr} {x y : ParamId} {p : Parameter}
    (he : y ∈ e.freeIds → y = x)
    (hp : (e.replace x d).occurrences.find? (·.id == y) = some p) :
    d.occurrences.find? (·.id == y) = some p := by
  induction e with
  | param q =>
    rw [replace_param] at hp
    split at hp
    · exact hp
    · rename_i hne
      have hmem := List.mem_of_find?_eq_some hp
      obtain rfl : p = q := List.mem_singleton.1 hmem
      have hy : p.id = y := by simpa using List.find?_some hp
      exact absurd (hy.trans (he (mem_freeIds_param.2 hy.symm))) hne
  | const v t => cases hp
  | member e name t ih => exact ih he hp
  | binary op l r hl hr | compare l r hl hr =>
    simp only [mem_freeIds_binary, mem_freeIds_compare] at he
    simp only [replace_binary, replace_compare, occurrences_binary, occurrences_compare,
      List.find?_append, Option.or_eq_some_iff] at hp
    rcases hp with hp | ⟨-, hp⟩
    · exact hl (fun hy => he (Or.inl hy)) hp
    · exact hr (fun hy => he (Or.inr hy)) hp
  | not e ih | text e ih => exact ih he hp
  | contains set e ih => exact ih he hp
  | call op source args hsource hargs =>
    rw [mem_freeIds_call] at he
    rw [replace_call, occurrences_call, List.flatMap_map, List.find?_append,
      Option.or_eq_some_iff, List.find?_flatMap] at hp
    rcases hp with hp | ⟨-, hp⟩
    · exact hsource (fun hy => he (Or.inl hy)) hp
    · obtain ⟨e, hmem, hp⟩ := List.exists_of_findSome?_eq_some hp
      exact hargs e hmem (fun hy => he (Or.inr ⟨e, hmem, hy⟩)) hp
  | lambda params body ih =>
    rw [mem_freeIds_lambda] at he
    rw [replace_lambda, occurrences_lambda, List.find?_filter] at hp
    have hparams : y ∉ params.map Parameter.id := by
      have htest := List.find?_some hp
      simp only [Bool.not_eq_true', List.contains_eq_mem, decide_eq_false_iff_not, beq_iff_eq,
        decide_eq_true_eq] at htest
      exact htest.2 ▸ htest.1
    -- Outside the parameters of the lambda the filter lets every occurrence of `y` through.
    have hfilter : (fun q : Parameter => decide ((!(params.map Parameter.id).contains q.id) = true ∧
        (q.id == y) = true)) = fun q => q.id == y := by
      funext q
      grind
    rw [hfilter] at hp
    exact ih (fun hy => he ⟨hy, hparams⟩) hp
  | new type fields hfields =>
    rw [mem_freeIds_new] at he
    rw [replace_new, occurrences_new, List.flatMap_map, List.find?_flatMap] at hp
    obtain ⟨f, hmem, hp⟩ := List.exists_of_findSome?_eq_some hp
    exact hfields f hmem (fun hy => he ⟨f, hmem, hy⟩) hp

theorem mem_freeIds_iff_find? {e : Expr} {y : ParamId} :
    y ∈ e.freeIds ↔ ∃ p, e.occurrences.find? (·.id == y) = some p := by
  rw [← Option.isSome_iff_exists, List.find?_isSome, freeIds, List.mem_map]
  simp only [beq_iff_eq]

/-- Whatever lambdas declare, a replacement opens no other parameters than those of the new
expression. -/
theorem mem_freeIds_of_mem_replace {e d : Expr} {x y : ParamId} (hy : y ∈ (e.replace x d).freeIds) :
    y ∈ e.freeIds ∧ y ≠ x ∨ y ∈ d.freeIds := by
  by_cases he : y ∈ e.freeIds ∧ y ≠ x
  · exact Or.inl he
  · obtain ⟨p, hp⟩ := mem_freeIds_iff_find?.1 hy
    have hx : y ∈ e.freeIds → y = x := fun hmem => by_contra fun hne => he ⟨hmem, hne⟩
    exact Or.inr (mem_freeIds_iff_find?.2 ⟨p, find?_occurrences_replace hx hp⟩)

/-- The other free parameters stay free. -/
theorem mem_freeIds_replace_of_ne {e : Expr} {x y : ParamId} (d : Expr) (hy : y ∈ e.freeIds)
    (hne : y ≠ x) : y ∈ (e.replace x d).freeIds := by
  induction e with
  | param p =>
    rw [replace_param, if_neg]
    · exact hy
    · rintro rfl
      exact hne (mem_freeIds_param.1 hy)
  | const v t => exact absurd hy mem_freeIds_const
  | member e name t ih => exact ih hy
  | binary op l r hl hr =>
    rw [replace_binary, mem_freeIds_binary]
    exact (mem_freeIds_binary.1 hy).imp hl hr
  | not e ih | text e ih => exact ih hy
  | compare l r hl hr =>
    rw [replace_compare, mem_freeIds_compare]
    exact (mem_freeIds_compare.1 hy).imp hl hr
  | contains set e ih => exact ih hy
  | call op source args hsource hargs =>
    rw [replace_call, mem_freeIds_call]
    refine (mem_freeIds_call.1 hy).imp hsource ?_
    rintro ⟨e, he, hy⟩
    exact ⟨e.replace x d, List.mem_map_of_mem he, hargs e he hy⟩
  | lambda params body ih =>
    obtain ⟨hy, hparams⟩ := mem_freeIds_lambda.1 hy
    exact mem_freeIds_lambda.2 ⟨ih hy, hparams⟩
  | new type fields hfields =>
    obtain ⟨f, hf, hy⟩ := mem_freeIds_new.1 hy
    rw [replace_new, mem_freeIds_new]
    exact ⟨(f.1, f.2.replace x d), List.mem_map_of_mem hf, hfields f hf hy⟩

/-- If no lambda declares a parameter that is free in the new expression, the replacement opens that
expression's parameters exactly where it takes place at all. -/
theorem mem_freeIds_replace {e d : Expr} {x y : ParamId}
    (hcapture : ∀ id ∈ d.freeIds, e.declares id = false) :
    y ∈ (e.replace x d).freeIds ↔
      y ∈ e.freeIds ∧ y ≠ x ∨ y ∈ d.freeIds ∧ e.mentions x = true := by
  induction e with
  | param p =>
    rw [replace_param]
    split
    · rename_i hp
      subst hp
      grind [mem_freeIds_param, mentions_param]
    · grind [mem_freeIds_param, mentions_param]
  | const v t => simp
  | member e name t ih => simpa using ih (by simpa using hcapture)
  | binary op l r hl hr =>
    simp only [declares_binary, Bool.or_eq_false_iff] at hcapture
    simp only [replace_binary, mem_freeIds_binary, mentions_binary, Bool.or_eq_true,
      hl fun id hid => (hcapture id hid).1, hr fun id hid => (hcapture id hid).2]
    grind
  | compare l r hl hr =>
    simp only [declares_compare, Bool.or_eq_false_iff] at hcapture
    simp only [replace_compare, mem_freeIds_compare, mentions_compare, Bool.or_eq_true,
      hl fun id hid => (hcapture id hid).1, hr fun id hid => (hcapture id hid).2]
    grind
  | not e ih | text e ih => simpa using ih (by simpa using hcapture)
  | contains set e ih => simpa using ih (by simpa using hcapture)
  | call op source args hsource hargs =>
    simp only [declares_call, Bool.or_eq_false_iff, List.any_eq_false, Bool.not_eq_true] at hcapture
    have hargs : ∀ e ∈ args, y ∈ (e.replace x d).freeIds ↔
        y ∈ e.freeIds ∧ y ≠ x ∨ y ∈ d.freeIds ∧ e.mentions x = true :=
      fun e he => hargs e he fun id hid => (hcapture id hid).2 e he
    simp only [replace_call, mem_freeIds_call, mentions_call, Bool.or_eq_true, List.any_eq_true,
      List.mem_map, exists_exists_and_eq_and, hsource fun id hid => (hcapture id hid).1]
    grind
  | lambda params body ih =>
    simp only [declares_lambda, Bool.or_eq_false_iff, List.any_eq_false, beq_iff_eq] at hcapture
    simp only [replace_lambda, mem_freeIds_lambda, mentions_lambda,
      ih fun id hid => (hcapture id hid).2, List.mem_map, not_exists, not_and]
    grind
  | new type fields hfields =>
    simp only [declares_new, List.any_eq_false, Bool.not_eq_true] at hcapture
    have hfields : ∀ f ∈ fields, y ∈ (f.2.replace x d).freeIds ↔
        y ∈ f.2.freeIds ∧ y ≠ x ∨ y ∈ d.freeIds ∧ f.2.mentions x = true :=
      fun f hf => hfields f hf fun id hid => hcapture id hid f hf
    simp only [replace_new, mem_freeIds_new, mentions_new, List.any_eq_true, List.mem_map,
      exists_exists_and_eq_and]
    grind

end TypedQuery.Expr
