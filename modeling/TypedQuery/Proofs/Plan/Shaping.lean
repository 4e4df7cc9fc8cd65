import TypedQuery.Plan.Shaping
import TypedQuery.Proofs.Eval.Sequence
import TypedQuery.Proofs.Plan.Filter

/-!
# What a shaping does to a list

`Shaping.run` says on lists what a filter, a sort and a page are for, and `Shaping.eval_apply` that
the operators which a shaping adds to a sequence do just that.  For a sort that is what was asked for
before it was compiled (`sortedBy`, `exists_key_of_compileSort`).  The operators are calls around the
sequence (`Wrapping`), so a replacement passes through them, and it does not matter which parameters
stand for the element.
-/

namespace TypedQuery

/-! ## Lists -/

/-- The items in the order of a sort. -/
def CompiledSort.arrange (s : CompiledSort) (scope : Scope) (items : List Value) :
    Except EvalError (List Value) :=
  match s with
  | unchanged => .ok items
  | reversed => .ok items.reverse
  | byKey key descending => do
    let keys ← items.mapM (key.apply scope)
    return ((keys.zip items).mergeSort (inOrder descending)).map Prod.snd

/-- How many items stand in front of a page, computed without bounds. -/
def PageSpec.offset (p : PageSpec) : Nat :=
  match p.page, p.size with
  | some page, some size => (page.toInt * size.toInt - size.toInt).toNat
  | _, _ => 0

/-- The items that are on a page. -/
def PageSpec.cut (p : PageSpec) (items : List Value) : List Value :=
  match p.size with
  | some size =>
    if 0 < size.toInt then (items.drop p.offset).take size.toInt.toNat else items.drop p.offset
  | none => items.drop p.offset

/-- The items up to the size of a page, if it has one. -/
def PageSpec.limit (p : PageSpec) (items : List Value) : List Value :=
  match p.size with
  | some size => if 0 < size.toInt then items.take size.toInt.toNat else items
  | none => items

theorem PageSpec.cut_eq_limit (p : PageSpec) (items : List Value) :
    p.cut items = p.limit (items.drop p.offset) := by
  obtain ⟨number, size⟩ := p
  cases size <;> rfl

/-- The items that a shaping leaves, in its order: those that the filter accepts, sorted, and of
these the ones on the page. -/
def Shaping.run (s : Shaping) (scope : Scope) (items : List Value) :
    Except EvalError (List Value) := do
  let kept ← items.filterM (s.filter.answer scope)
  let arranged ← s.sort.arrange scope kept
  return s.page.cut arranged

/-! ## Calls around a sequence -/

/-- Calls around an expression, each with no argument, a constant, or a function of the element
whose parameter is one of `ids`. -/
inductive Wrapping (ids : List ParamId) : (Expr → Expr) → Prop where
  | none : Wrapping ids fun e => e
  | bare {f : Expr → Expr} (op : SequenceOp) (h : Wrapping ids f) :
      Wrapping ids fun e => .call op (f e) []
  | count {f : Expr → Expr} (op : SequenceOp) (v : Value) (t : ExprType) (h : Wrapping ids f) :
      Wrapping ids fun e => .call op (f e) [.const v t]
  | each {f : Expr → Expr} (op : SequenceOp) {p : Parameter} {body : Expr} (hp : p.id ∈ ids)
      (hbody : body.OverElement p.id) (h : Wrapping ids f) :
      Wrapping ids fun e => .call op (f e) [.lambda [p] body]

namespace Wrapping

variable {ids : List ParamId} {f : Expr → Expr} (h : Wrapping ids f) (e : Expr) {y : ParamId}

include h

theorem isUnary : (f e).isUnary = e.isUnary := by
  induction h with
  | none => rfl
  | bare op _ ih | count op v t _ ih => simp [ih]
  | each op hp hbody _ ih => simp [ih, hbody.isUnary]

theorem mem_freeIds : y ∈ (f e).freeIds ↔ y ∈ e.freeIds := by
  induction h with
  | none => rfl
  | bare op _ ih | count op v t _ ih => simp [ih]
  | @each _ op p body hp hbody _ ih =>
    have hclosed : y ∉ (Expr.lambda [p] body).freeIds := by
      intro hy
      obtain ⟨hy, hne⟩ := Expr.mem_freeIds_lambda.1 hy
      exact hne (by simp [hbody.eq_of_mem_freeIds hy])
    rw [Expr.mem_freeIds_call, ih]
    constructor
    · rintro (hy | ⟨_, hmem, hy⟩)
      · exact hy
      · rw [List.mem_singleton.1 hmem] at hy
        exact absurd hy hclosed
    · exact Or.inl

theorem declares (hy : y ∉ ids) : (f e).declares y = e.declares y := by
  induction h with
  | none => rfl
  | bare op _ ih | count op v t _ ih => simp [ih]
  | @each _ op p body hp hbody _ ih =>
    have hne : (p.id == y) = false := beq_eq_false_iff_ne.2 (ne_of_mem_of_not_mem hp hy)
    simp [ih, hbody.declares_eq_false, hne]

theorem mentions (hy : y ∉ ids) : (f e).mentions y = e.mentions y := by
  induction h with
  | none => rfl
  | bare op _ ih | count op v t _ ih => simp [ih]
  | @each _ op p body hp hbody _ ih =>
    simp [ih, hbody.mentions_eq_false (ne_of_mem_of_not_mem hp hy).symm]

/-- A replacement takes place in the sequence alone. -/
theorem replace (hy : y ∉ ids) (d : Expr) : (f e).replace y d = f (e.replace y d) := by
  induction h with
  | none => rfl
  | bare op _ ih | count op v t _ ih => simp [ih]
  | @each _ op p body hp hbody _ ih =>
    have hbody := hbody.mentions_eq_false (ne_of_mem_of_not_mem hp hy).symm
    simp [ih, Expr.replace_eq_self d hbody]

end Wrapping

/-! ## Shapings over the element -/

/-- A sort by a key that looks at nothing but the element, under the given parameter. -/
inductive CompiledSort.Over (q : Parameter) : CompiledSort → Prop where
  | unchanged : Over q .unchanged
  | reversed : Over q .reversed
  | byKey {body : Expr} (descending : Bool) (h : body.OverElement q.id) :
      Over q (.byKey ⟨[q], body⟩ descending)

/-- A shaping whose filter and sort look at nothing but the element. -/
structure Shaping.Over (p q : Parameter) (s : Shaping) : Prop where
  filter : s.filter.Over p
  sort : s.sort.Over q

theorem compileSort_over {r : MemberResolver} {q : Parameter} {spec : Option SortSpec}
    {s : CompiledSort} (h : compileSort r q spec = .ok s) : s.Over q := by
  unfold compileSort at h
  split at h
  · rw [← Except.ok.inj h]
    exact .unchanged
  · rw [← Except.ok.inj h]
    exact .unchanged
  · rw [← Except.ok.inj h]
    exact .reversed
  · obtain ⟨f, hf, h⟩ := bind_eq_ok_iff.1 h
    rw [← Except.ok.inj h]
    exact .byKey _ (overElement_of_resolvePath hf)

theorem compileFilter_over {r : MemberResolver} {policy : ClausePolicy} {p : Parameter}
    {clauses : List FilterClause} {f : CompiledFilter}
    (h : compileFilter r policy p clauses = .ok f) : f.Over p := by
  obtain ⟨_, _, _, hover, _⟩ := exists_conditions_of_compileFilter (compileFilter_drop_of_ok h)
  exact hover

theorem compileShaping_eq (r : MemberResolver) (policy : ClausePolicy) (p q : Parameter)
    (request : ShapingRequest) :
    compileShaping r policy p q request =
      compileFilter r policy p request.clauses >>= fun filter =>
        compileSort r q request.sort >>= fun sort => .ok ⟨filter, sort, request.page⟩ := rfl

theorem compileShaping_over {r : MemberResolver} {policy : ClausePolicy} {p q : Parameter}
    {request : ShapingRequest} {s : Shaping} (h : compileShaping r policy p q request = .ok s) :
    s.Over p q := by
  rw [compileShaping_eq, bind_eq_ok_iff] at h
  obtain ⟨filter, hfilter, h⟩ := h
  obtain ⟨sort, hsort, h⟩ := bind_eq_ok_iff.1 h
  rw [← Except.ok.inj h]
  exact ⟨compileFilter_over hfilter, compileSort_over hsort⟩

namespace Wrapping

variable {ids : List ParamId} {f : Expr → Expr} (h : Wrapping ids f)

include h

theorem sort {q : Parameter} {s : CompiledSort} (hs : s.Over q) (hq : q.id ∈ ids) :
    Wrapping ids fun e => s.apply (f e) := by
  cases hs with
  | unchanged => exact h
  | reversed => exact .bare .reverse h
  | byKey descending hbody => exact .each _ hq hbody h

theorem skipTo (n : Int64) : Wrapping ids fun e => skipTo n (f e) := by
  unfold TypedQuery.skipTo
  by_cases hn : (n == 0) = true
  · simpa only [if_pos hn] using h
  · simpa only [if_neg hn] using .count .skip _ _ h

theorem limitTo (n : Option Int64) : Wrapping ids fun e => limitTo n (f e) := by
  cases n with
  | none => exact h
  | some n => exact .count .take _ _ h

theorem page (p : PageSpec) : Wrapping ids fun e => p.apply (f e) :=
  (h.skipTo p.skip).limitTo p.take

/-- Where the sequence fails, the calls around it do. -/
theorem eval_of_error {e : Expr} {scope : Scope} {err : EvalError}
    (he : e.eval scope = .error err) : (f e).eval scope = .error err := by
  induction h with
  | none => exact he
  | bare _ _ ih | count _ _ _ _ ih | each _ _ _ _ ih => rw [Expr.eval_call, ih, error_bind]

end Wrapping

theorem page_of_compileShaping {r : MemberResolver} {policy : ClausePolicy} {p q : Parameter}
    {request : ShapingRequest} {s : Shaping} (h : compileShaping r policy p q request = .ok s) :
    s.page = request.page := by
  rw [compileShaping_eq, bind_eq_ok_iff] at h
  obtain ⟨filter, -, h⟩ := h
  obtain ⟨sort, -, h⟩ := bind_eq_ok_iff.1 h
  rw [← Except.ok.inj h]

/-- A shaping puts calls around the sequence. -/
theorem Shaping.Over.wrapping {p q : Parameter} {s : Shaping} (h : s.Over p q) :
    Wrapping [p.id, q.id] s.apply := by
  have hfiltered : Wrapping [p.id, q.id] s.filtered := by
    obtain ⟨filter, sort, page⟩ := s
    unfold Shaping.filtered
    by_cases hnoop : filter.isNoop = true
    · simpa only [if_pos hnoop] using .none
    · simp only [if_neg hnoop]
      cases h.filter with
      | mk issues hbody => exact .each .filter (List.mem_cons_self ..) hbody .none
  exact (hfiltered.sort h.sort (by simp)).page s.page

/-! ## Evaluation -/

section Evaluation

variable {scope : Scope} {seq : Expr} {items : List Value}

/-- The value of a call on a sequence that has one. -/
theorem eval_call_of_eval {op : SequenceOp} {args : List Expr}
    (hseq : seq.eval scope = .ok (.list items)) :
    (Expr.call op seq args).eval scope = op.run items (Expr.operand scope args) := by
  rw [Expr.eval_call, hseq]
  rfl

theorem CompiledFilter.filterM_of_isNoop {f : CompiledFilter} (h : f.isNoop = true) :
    items.filterM (f.answer scope) = .ok items := by
  have hanswer : f.answer scope = fun _ => .ok true := by
    funext v
    unfold CompiledFilter.isNoop Expr.isTrue at h
    split at h
    · rename_i b t hbody
      subst h
      rw [CompiledFilter.answer, Lambda.apply, hbody]
      rfl
    · cases h
  rw [hanswer, filterM_true]

theorem Shaping.eval_filtered {p q : Parameter} {s : Shaping} (h : s.Over p q)
    (hseq : seq.eval scope = .ok (.list items)) :
    (s.filtered seq).eval scope =
      (items.filterM (s.filter.answer scope)).map Value.list := by
  obtain ⟨filter, sort, page⟩ := s
  unfold Shaping.filtered
  by_cases hnoop : filter.isNoop = true
  · rw [if_pos hnoop, CompiledFilter.filterM_of_isNoop hnoop, hseq, map_ok]
  · rw [if_neg hnoop, eval_call_of_eval hseq]
    cases h.filter with
    | mk issues hbody => exact run_filter _ _

theorem CompiledSort.eval_apply {q : Parameter} {s : CompiledSort} (h : s.Over q)
    (hseq : seq.eval scope = .ok (.list items)) :
    (s.apply seq).eval scope = (s.arrange scope items).map Value.list := by
  cases h with
  | unchanged => exact hseq
  | reversed => exact eval_call_of_eval hseq
  | @byKey body descending hbody =>
    rw [CompiledSort.apply, eval_call_of_eval hseq, CompiledSort.arrange]
    refine (run_orderBy descending _ _).trans ?_
    rw [map_eq_bind, map_bind]
    rfl

theorem eval_skipTo (n : Int64) (hseq : seq.eval scope = .ok (.list items)) :
    (skipTo n seq).eval scope = .ok (.list (items.drop n.toInt.toNat)) := by
  unfold skipTo
  by_cases hn : (n == 0) = true
  · rw [if_pos hn, eq_of_beq hn, hseq]
    rfl
  · rw [if_neg hn, eval_call_of_eval hseq]
    rfl

theorem eval_limitTo (n : Option Int64) (hseq : seq.eval scope = .ok (.list items)) :
    (limitTo n seq).eval scope =
      .ok (.list (match n with
        | some n => items.take n.toInt.toNat
        | none => items)) := by
  cases n with
  | none => exact hseq
  | some n => exact eval_call_of_eval hseq

theorem PageSpec.take_some (number : Option Int64) (size : Int64) :
    (PageSpec.mk number (some size)).take = if 0 < size.toInt then some size else none := by
  simp [PageSpec.take, Option.filter_some, Int64.lt_iff_toInt_lt]

theorem PageSpec.eval_apply_eq_limit (page : PageSpec)
    (hseq : seq.eval scope = .ok (.list items)) :
    (page.apply seq).eval scope = .ok (.list (page.limit (items.drop page.skip.toInt.toNat))) := by
  rw [PageSpec.apply, eval_limitTo _ (eval_skipTo _ hseq)]
  obtain ⟨number, size⟩ := page
  cases size with
  | none => rfl
  | some size =>
    rw [PageSpec.take_some, PageSpec.limit]
    dsimp only
    by_cases hsize : 0 < size.toInt
    · simp only [if_pos hsize]
    · simp only [if_neg hsize]

/-- The page of a sequence, if the number of items in front of it fits the range it is computed
in. -/
theorem PageSpec.eval_apply {page : PageSpec} (hskip : page.skip.toInt.toNat = page.offset)
    (hseq : seq.eval scope = .ok (.list items)) :
    (page.apply seq).eval scope = .ok (.list (page.cut items)) := by
  rw [page.eval_apply_eq_limit hseq, hskip, page.cut_eq_limit]

/-- A shaping does to a sequence what it is for. -/
theorem Shaping.eval_apply {p q : Parameter} {s : Shaping} (h : s.Over p q)
    (hskip : s.page.skip.toInt.toNat = s.page.offset)
    (hseq : seq.eval scope = .ok (.list items)) :
    (s.apply seq).eval scope = (s.run scope items).map Value.list := by
  have hwrapping : Wrapping [q.id] fun e => s.page.apply e := Wrapping.none.page s.page
  have hfiltered := s.eval_filtered h hseq
  rw [Shaping.apply, Shaping.run]
  cases hkept : items.filterM (s.filter.answer scope) with
  | error err =>
    rw [hkept, map_error] at hfiltered
    exact ((Wrapping.none.sort h.sort (List.mem_singleton_self _)).page s.page).eval_of_error
      hfiltered
  | ok kept =>
    rw [hkept, map_ok] at hfiltered
    have hsorted := CompiledSort.eval_apply h.sort hfiltered
    rw [ok_bind]
    cases harranged : s.sort.arrange scope kept with
    | error err =>
      rw [harranged, map_error] at hsorted
      exact hwrapping.eval_of_error hsorted
    | ok arranged =>
      rw [harranged, map_ok] at hsorted
      rw [ok_bind]
      exact PageSpec.eval_apply hskip hsorted

end Evaluation

/-! ## Scopes and parameters -/

section Independence

variable {p q p' q' : Parameter} {r : MemberResolver} {policy : ClausePolicy}
  {request : ShapingRequest} {s : Shaping}

/-- The order of a sort does not depend on the scope around it. -/
theorem CompiledSort.arrange_eq {s : CompiledSort} (h : s.Over q) (σ τ : Scope)
    (items : List Value) : s.arrange σ items = s.arrange τ items := by
  cases h with
  | unchanged | reversed => rfl
  | @byKey body descending hbody =>
    have hkey : Lambda.apply ⟨[q], body⟩ σ = Lambda.apply ⟨[q], body⟩ τ := by
      funext v
      exact hbody.eval_eq (v := v) Scope.get?_bind_self Scope.get?_bind_self
    rw [arrange, arrange, hkey]

/-- What a shaping does to a list does not depend on the scope around it. -/
theorem Shaping.run_eq (h : s.Over p q) (σ τ : Scope) (items : List Value) :
    s.run σ items = s.run τ items := by
  have hanswer : s.filter.answer σ = s.filter.answer τ :=
    funext (s.filter.answer_eq h.filter σ τ)
  rw [Shaping.run, Shaping.run, hanswer]
  congr 1
  funext kept
  rw [CompiledSort.arrange_eq h.sort σ τ]

/-- The sort with another parameter for the element. -/
def CompiledSort.rename (s : CompiledSort) (q q' : Parameter) : CompiledSort :=
  match s with
  | unchanged => .unchanged
  | reversed => .reversed
  | byKey key descending => .byKey ⟨[q'], key.body.replace q.id q'.expr⟩ descending

theorem compileSort_rename (hty : q'.ty = q.ty) (spec : Option SortSpec) :
    compileSort r q' spec = (compileSort r q spec).map (·.rename q q') := by
  unfold compileSort
  split
  · rfl
  · rfl
  · rfl
  · rw [resolvePath_rename hty]
    cases r.resolvePath q.expr _ <;> rfl

theorem CompiledSort.arrange_rename {s : CompiledSort} (h : s.Over q) (scope : Scope)
    (items : List Value) : (s.rename q q').arrange scope items = s.arrange scope items := by
  cases h with
  | unchanged | reversed => rfl
  | @byKey body descending hbody =>
    have hkey : Lambda.apply ⟨[q'], body.replace q.id q'.expr⟩ scope =
        Lambda.apply ⟨[q], body⟩ scope := by
      funext v
      exact hbody.eval_replace (v := v) Scope.get?_bind_self Scope.get?_bind_self
    rw [rename, arrange, arrange, hkey]

/-- The shaping with other parameters for the element. -/
def Shaping.rename (s : Shaping) (p q p' q' : Parameter) : Shaping :=
  ⟨s.filter.rename p p', s.sort.rename q q', s.page⟩

theorem compileShaping_rename (hp : p'.ty = p.ty) (hq : q'.ty = q.ty) :
    compileShaping r policy p' q' request =
      (compileShaping r policy p q request).map (·.rename p q p' q') := by
  rw [compileShaping_eq, compileShaping_eq, compileFilter_rename hp, compileSort_rename hq]
  cases compileFilter r policy p request.clauses with
  | error err => rfl
  | ok filter => cases compileSort r q request.sort <;> rfl

theorem Shaping.run_rename (h : s.Over p q) (scope : Scope) (items : List Value) :
    (s.rename p q p' q').run scope items = s.run scope items := by
  have hanswer : (s.filter.rename p p').answer scope = s.filter.answer scope :=
    funext (CompiledFilter.answer_rename h.filter scope)
  rw [Shaping.run, Shaping.run, Shaping.rename, hanswer]
  congr 1
  funext kept
  rw [CompiledSort.arrange_rename h.sort]

/-- A request compiles to the same with other parameters for the element. -/
theorem exists_compileShaping_of_ty_eq (h : compileShaping r policy p q request = .ok s)
    (hp : p'.ty = p.ty) (hq : q'.ty = q.ty) :
    ∃ s', compileShaping r policy p' q' request = .ok s' ∧
      ∀ scope items, s'.run scope items = s.run scope items := by
  refine ⟨s.rename p q p' q', ?_, Shaping.run_rename (compileShaping_over h)⟩
  rw [compileShaping_rename hp hq, h, map_ok]

end Independence

end TypedQuery
