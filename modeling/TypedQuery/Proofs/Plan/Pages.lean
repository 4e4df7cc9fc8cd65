import TypedQuery.Proofs.Plan.Arguments

/-!
# Pages of a list

The pages of one size, from the first one on, are the list cut up: `take_mul_eq_flatMap`.  A shaping
with a page does what the shaping without it does, and then cuts (`Shaping.run_page`).  Its sequence
may have a value of any kind that has items, so what it does is said of the items
(`Shaping.items_apply`), and a page that has a size gives a list of them.
-/

namespace TypedQuery

/-! ## Lists -/

/-- The first pages of a list, one after the other. -/
theorem take_mul_eq_flatMap {α : Type} (l : List α) (size count : Nat) :
    l.take (count * size) =
      (List.range' 1 count).flatMap fun k => (l.drop ((k - 1) * size)).take size := by
  induction count with
  | zero => simp
  | succ count ih =>
    have hlast : 1 + 1 * count - 1 = count := by omega
    rw [Nat.succ_mul, List.take_add, ih, List.range'_concat, List.flatMap_append,
      List.flatMap_singleton, hlast]

/-- Behind as many pages as a list needs there is nothing. -/
theorem take_drop_eq_nil {α : Type} {l : List α} {size count k : Nat}
    (hcount : l.length ≤ count * size) (hk : count < k) :
    (l.drop ((k - 1) * size)).take size = [] := by
  have hle : count * size ≤ (k - 1) * size := Nat.mul_le_mul_right _ (by omega)
  rw [List.drop_eq_nil_of_le (Nat.le_trans hcount hle), List.take_nil]

/-! ## Page requests -/

namespace PageSpec

/-- The page of a number and a size. -/
def ofNat (number size : Nat) : PageSpec := ⟨some (.ofNat number), some (.ofNat size)⟩

variable {number size : Nat}

theorem toInt_ofNat {n : Nat} (h : n < 2 ^ 31) : (Int64.ofNat n).toInt = n :=
  Int64.toInt_ofNat_of_lt (by omega)

theorem isNarrow_ofNat {n : Nat} (h : n < 2 ^ 31) : IsNarrow (some (.ofNat n)) := by
  intro m hm
  obtain rfl := Option.some.inj hm
  rw [toInt_ofNat h]
  omega

theorem toNat_skip_ofNat (hnumber : number < 2 ^ 31) (hsize : size < 2 ^ 31) :
    (ofNat number size).skip.toInt.toNat = (ofNat number size).offset :=
  toNat_skip (isNarrow_ofNat hnumber) (isNarrow_ofNat hsize)

theorem take_ofNat (hsize : 0 < size) (hbound : size < 2 ^ 31) :
    (ofNat number size).take = some (.ofNat size) := by
  rw [ofNat, take_some, toInt_ofNat hbound, if_pos (by omega)]

/-- In front of a page there are the pages before it. -/
theorem cut_ofNat (hnumber : number < 2 ^ 31) (hsize : 0 < size) (hbound : size < 2 ^ 31)
    (items : List Value) :
    (ofNat number size).cut items = (items.drop ((number - 1) * size)).take size := by
  have hoffset : (ofNat number size).offset = (number - 1) * size := by
    rw [offset, ofNat]
    dsimp only
    rw [toInt_ofNat hnumber, toInt_ofNat hbound, Nat.sub_one_mul, ← Int.toNat_sub, Int.natCast_mul]
  rw [cut, hoffset, ofNat]
  dsimp only
  rw [toInt_ofNat hbound, if_pos (by omega), Int.toNat_natCast]

end PageSpec

/-! ## Items -/

namespace Wrapping

variable {ids : List ParamId} {g : Expr → Expr} (h : Wrapping ids g) {e d : Expr} {scope : Scope}

include h

/-- Calls around a sequence look at its items only. -/
theorem items_congr (hitems : e.items scope = d.items scope) :
    (g e).items scope = (g d).items scope := by
  induction h with
  | none => exact hitems
  | bare _ _ ih | count _ _ _ _ ih | each _ _ _ _ ih =>
    rw [Expr.items_call, Expr.items_call, ih]

theorem items_of_error {err : EvalError} (hitems : e.items scope = .error err) :
    (g e).items scope = .error err := by
  induction h with
  | none => exact hitems
  | bare _ _ ih | count _ _ _ _ ih | each _ _ _ _ ih => rw [Expr.items_call, ih, error_bind]

end Wrapping

/-! ## Shapings -/

section Shapings

variable {p q : Parameter} {s : Shaping} {scope : Scope}

/-- A shaping does to the items of a sequence what it is for. -/
theorem Shaping.items_apply (h : s.Over p q) (hskip : s.page.skip.toInt.toNat = s.page.offset)
    (seq : Expr) : (s.apply seq).items scope = seq.items scope >>= s.run scope := by
  cases hitems : seq.items scope with
  | error err => exact h.wrapping.items_of_error hitems
  | ok items =>
    have hlist : (Expr.ofValue (.list items)).eval scope = .ok (.list items) := rfl
    rw [h.wrapping.items_congr (d := .ofValue (.list items)) hitems, Expr.items,
      Shaping.eval_apply h hskip hlist, ok_bind]
    cases s.run scope items <;> rfl

/-- A page of a size gives a list. -/
theorem Shaping.eval_apply_of_take {n : Int64} (htake : s.page.take = some n) (seq : Expr) :
    (s.apply seq).eval scope = ((s.apply seq).items scope).map Value.list := by
  have happly : s.apply seq = .call .take (skipTo s.page.skip (s.sort.apply (s.filtered seq)))
      [.ofValue (.int n)] := by
    rw [Shaping.apply, PageSpec.apply, htake, limitTo]
  rw [happly, Expr.items, Expr.eval_call_eq_bind]
  cases (skipTo s.page.skip (s.sort.apply (s.filtered seq))).items scope <;> rfl

/-- A page is cut from what the shaping gives without it. -/
theorem Shaping.run_page (hall : s.page = .all) (page : PageSpec) (items : List Value) :
    Shaping.run { s with page } scope items = (s.run scope items).map page.cut := by
  rw [Shaping.run, Shaping.run, hall]
  cases items.filterM (s.filter.answer scope) with
  | error err => rfl
  | ok kept =>
    rw [ok_bind, ok_bind]
    cases s.sort.arrange scope kept <;> rfl

theorem compileShaping_page (r : MemberResolver) (policy : ClausePolicy) (p q : Parameter)
    (request : ShapingRequest) (page : PageSpec) :
    compileShaping r policy p q { request with page } =
      (compileShaping r policy p q request).map fun s => { s with page } := by
  rw [compileShaping_eq, compileShaping_eq]
  cases compileFilter r policy p request.clauses with
  | error err => rfl
  | ok filter =>
    rw [ok_bind, ok_bind]
    cases compileSort r q request.sort <;> rfl

/-- Where a request for everything gives a list, one for a page gives the page of that list.  The
parameters for the element do not matter, nor do the scopes around the sequence. -/
theorem exists_compileShaping_page {r : MemberResolver} {policy : ClausePolicy}
    {request : ShapingRequest} (h : compileShaping r policy p q request = .ok s)
    (hall : request.page = .all) {p' q' : Parameter} (hp : p'.ty = p.ty) (hq : q'.ty = q.ty)
    {number size : Nat} (hnumber : number < 2 ^ 31) (hsize : 0 < size) (hbound : size < 2 ^ 31) :
    ∃ s', compileShaping r policy p' q' { request with page := .ofNat number size } = .ok s' ∧
      ∀ {seq : Expr} {σ τ : Scope} {L : List Value}, seq.eval τ = seq.eval σ →
        (s.apply seq).items σ = .ok L →
        (s'.apply seq).eval τ = .ok (.list ((L.drop ((number - 1) * size)).take size)) := by
  obtain ⟨t, ht, hrun⟩ := exists_compileShaping_of_ty_eq h hp hq
  have hs' := compileShaping_page r policy p' q' request (.ofNat number size)
  rw [ht, map_ok] at hs'
  have hover := compileShaping_over h
  refine ⟨_, hs', fun {seq σ τ L} hseq hL => ?_⟩
  have hpage : s.page = .all := (page_of_compileShaping h).trans hall
  have htpage : t.page = .all := (page_of_compileShaping ht).trans hall
  have hskip : s.page.skip.toInt.toNat = s.page.offset := by
    rw [hpage]
    rfl
  rw [Shaping.items_apply hover hskip] at hL
  obtain ⟨items, hitems, hL⟩ := bind_eq_ok_iff.1 hL
  have hitems' : seq.items τ = .ok items := by
    rw [Expr.items, hseq]
    exact hitems
  have hwhole : t.run τ items = .ok L := by
    rw [hrun, Shaping.run_eq hover τ σ, hL]
  rw [Shaping.eval_apply_of_take (PageSpec.take_ofNat hsize hbound),
    Shaping.items_apply (compileShaping_over hs') (PageSpec.toNat_skip_ofNat hnumber hbound),
    hitems', ok_bind, Shaping.run_page htpage, hwhole, map_ok, map_ok,
    PageSpec.cut_ofNat hnumber hsize hbound]

end Shapings

end TypedQuery
