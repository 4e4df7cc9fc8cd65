import Mathlib.Algebra.Group.Int.Defs
import Mathlib.Algebra.Group.Nat.Defs
import TypedQuery.Proofs.Plan.Shaping

/-!
# Pages of any number and size

The number of items in front of a page is computed in two steps, each of which stays in the 64-bit
range.  What comes out (`PageSpec.toNat_skip_eq`) is never too great, and it is too small where one
of the steps meets the upper end of the range (`PageSpec.isExactFor_iff`).  Such a page is cut where
it should be if the list ends before that, and from no longer list: `PageSpec.eval_apply_exact`.
Pages of one size that are cut where they should be have no item in common.

A page of the greatest size has no room for the page before it, so the second page begins where the
first one does: `PageSpec.eval_apply_greatestPage`.
-/

namespace TypedQuery

/-- Out of the 64-bit range an integer becomes the nearest end of the range. -/
theorem Number.toInt_saturate_eq (n : Int) :
    (saturate n).toInt = max (-2 ^ 63) (min n (2 ^ 63 - 1)) := by
  unfold saturate
  split
  · rw [Int64.toInt_minValue]
    omega
  · split
    · rw [Int64.toInt_maxValue]
      omega
    · rw [Int64.toInt_ofInt_of_le (by omega) (by omega)]
      omega

namespace PageSpec

/-! ## What stands in front of a page -/

/-- Neither step meets the lower end of the range while there is something to leave out. -/
theorem toNat_skip_eq (number size : Int64) :
    (PageSpec.mk (some number) (some size)).skip.toInt.toNat =
      (min (min (number.toInt * size.toInt) (2 ^ 63 - 1) - size.toInt) (2 ^ 63 - 1)).toNat := by
  have hlo := size.le_toInt
  have hhi := size.toInt_lt
  rw [skip]
  dsimp only
  rw [Number.toInt_saturate_eq, Number.toInt_saturate_eq]
  omega

/-- Whether the page of a list of some length begins where it should.  Either both steps that
compute its beginning stay below the upper end of the 64-bit range, or the list ends before the
page would begin in any case. -/
def IsExactFor (p : PageSpec) (length : Nat) : Prop :=
  ∀ number ∈ p.page, ∀ size ∈ p.size,
    (number.toInt * size.toInt < 2 ^ 63 ∧ number.toInt * size.toInt - size.toInt < 2 ^ 63) ∨
      length + max size.toInt 0 < 2 ^ 63

theorem isExactFor_iff (p : PageSpec) (length : Nat) :
    p.IsExactFor length ↔ p.skip.toInt.toNat = p.offset ∨ length ≤ p.skip.toInt.toNat := by
  obtain ⟨page, size⟩ := p
  cases page with
  | none => exact ⟨fun _ => Or.inl rfl, fun _ => nofun⟩
  | some number =>
    cases size with
    | none => exact ⟨fun _ => Or.inl rfl, fun _ _ _ => nofun⟩
    | some size =>
      have hlo := size.le_toInt
      have hhi := size.toInt_lt
      simp only [IsExactFor, Option.mem_some_iff, forall_eq']
      rw [toNat_skip_eq, offset]
      dsimp only
      omega

theorem toNat_skip_le_offset (p : PageSpec) : p.skip.toInt.toNat ≤ p.offset := by
  obtain ⟨page, size⟩ := p
  cases page with
  | none => exact Nat.le_refl 0
  | some number =>
    cases size with
    | none => exact Nat.le_refl 0
    | some size =>
      rw [toNat_skip_eq, offset]
      dsimp only
      omega

/-! ## The window of a page -/

/-- A page that has room has it for the first item. -/
theorem mem_limit_cons (p : PageSpec) (v : Value) (items : List Value) :
    v ∈ p.limit (v :: items) := by
  obtain ⟨number, size⟩ := p
  cases size with
  | none => exact List.mem_cons_self ..
  | some size =>
    rw [limit]
    dsimp only
    split
    · obtain ⟨k, hk⟩ : ∃ k, size.toInt.toNat = k + 1 := ⟨size.toInt.toNat - 1, by omega⟩
      rw [hk, List.take_succ_cons]
      exact List.mem_cons_self ..
    · exact List.mem_cons_self ..

theorem limit_subset (p : PageSpec) (items : List Value) : p.limit items ⊆ items := by
  obtain ⟨number, size⟩ := p
  cases size with
  | none => exact List.Subset.refl _
  | some size =>
    rw [limit]
    dsimp only
    split
    · exact List.take_subset _ _
    · exact List.Subset.refl _

section Evaluation

variable {p : PageSpec} {scope : Scope} {seq : Expr} {items : List Value}

/-- A page that is exact for a list is the part of it that was asked for. -/
theorem eval_apply_of_isExactFor (h : p.IsExactFor items.length)
    (hseq : seq.eval scope = .ok (.list items)) :
    (p.apply seq).eval scope = .ok (.list (p.cut items)) := by
  rw [p.eval_apply_eq_limit hseq, cut_eq_limit]
  rcases (p.isExactFor_iff items.length).1 h with hskip | hskip
  · rw [hskip]
  · rw [List.drop_eq_nil_of_le hskip,
      List.drop_eq_nil_of_le (Nat.le_trans hskip p.toNat_skip_le_offset)]

end Evaluation

/-- Of the lists of one length that a page is not exact for, there is one that shows it: the item at
which the page begins too early differs from all others. -/
theorem exists_eval_apply_ne_cut {p : PageSpec} {length : Nat} (h : ¬ p.IsExactFor length) :
    ∃ items : List Value, items.length = length ∧
      (p.apply (.ofValue (.list items))).eval [] ≠ .ok (.list (p.cut items)) := by
  rw [isExactFor_iff, not_or, Nat.not_le] at h
  obtain ⟨hne, hlength⟩ := h
  have hlt : p.skip.toInt.toNat < p.offset := Nat.lt_of_le_of_ne p.toNat_skip_le_offset hne
  generalize hskip : p.skip.toInt.toNat = early at hlength hlt
  let items : List Value := List.replicate early .null ++
    .boolean true :: List.replicate (length - early - 1) .null
  have hearly : items.drop early = .boolean true :: List.replicate (length - early - 1) .null := by
    rw [List.drop_left' List.length_replicate]
  have hlate : ∀ v ∈ items.drop p.offset, v = .null := by
    have hdrop : items.drop p.offset = (items.drop early).drop (p.offset - early) := by
      rw [List.drop_drop]
      congr 1
      omega
    obtain ⟨k, hk⟩ : ∃ k, p.offset - early = k + 1 := ⟨p.offset - early - 1, by omega⟩
    rw [hdrop, hearly, hk, List.drop_succ_cons, List.drop_replicate]
    exact fun v hv => List.eq_of_mem_replicate hv
  refine ⟨items, ?_, fun heval => ?_⟩
  · simp only [items, List.length_append, List.length_cons, List.length_replicate]
    omega
  · have hseq : (Expr.ofValue (.list items)).eval [] = .ok (.list items) := rfl
    rw [p.eval_apply_eq_limit hseq, hskip, hearly] at heval
    have hcut := Value.list.inj (Except.ok.inj heval)
    have hmem := p.mem_limit_cons (.boolean true) (List.replicate (length - early - 1) .null)
    rw [hcut, cut_eq_limit] at hmem
    exact absurd (hlate _ (p.limit_subset _ hmem)) nofun

/-! ## Pages of one size -/

section Disjoint

variable {number number' size : Int64} (hlt : number.toInt < number'.toInt)
  (hsize : 0 < size.toInt)

include hlt hsize

/-- Between the beginnings of two pages there is room for the first of them. -/
theorem offset_add_le (hnumber : 0 < number.toInt) :
    (PageSpec.mk (some number) (some size)).offset + size.toInt.toNat ≤
      (PageSpec.mk (some number') (some size)).offset := by
  have hnext : (number.toInt + 1) * size.toInt ≤ number'.toInt * size.toInt :=
    Int.mul_le_mul_of_nonneg_right (by omega) (Int.le_of_lt hsize)
  have hfirst : 1 * size.toInt ≤ number.toInt * size.toInt :=
    Int.mul_le_mul_of_nonneg_right (by omega) (Int.le_of_lt hsize)
  rw [Int.add_mul] at hnext
  rw [offset, offset]
  dsimp only
  omega

/-- If a page is cut where it should be, the pages before it are. -/
theorem IsExactFor.of_lt {length : Nat}
    (h : (PageSpec.mk (some number') (some size)).IsExactFor length) :
    (PageSpec.mk (some number) (some size)).IsExactFor length := by
  have hproduct : number.toInt * size.toInt ≤ number'.toInt * size.toInt :=
    Int.mul_le_mul_of_nonneg_right (Int.le_of_lt hlt) (Int.le_of_lt hsize)
  simp only [IsExactFor, Option.mem_some_iff, forall_eq'] at h ⊢
  omega

end Disjoint

theorem cut_of_pos (number : Option Int64) {size : Int64} (hsize : 0 < size.toInt)
    (items : List Value) :
    (PageSpec.mk number (some size)).cut items =
      (items.drop (PageSpec.mk number (some size)).offset).take size.toInt.toNat := by
  rw [cut]
  exact if_pos hsize

/-- What lies in front of a place in a list and what begins there do not overlap. -/
theorem sublist_append_of_le {α : Type} (l : List α) {first second size : Nat}
    (h : first + size ≤ second) :
    ((l.drop first).take size ++ (l.drop second).take size).Sublist l := by
  have hfirst : ((l.drop first).take size).Sublist (l.take second) := by
    rw [List.take_drop]
    exact (List.drop_sublist ..).trans (List.take_sublist_take_left h)
  have hsecond : ((l.drop second).take size).Sublist (l.drop second) := List.take_sublist ..
  have happend := hfirst.append hsecond
  rwa [List.take_append_drop] at happend

/-- The lists of some length that are cut to the page asked for, by an offset without bounds, are
all or not all: all if the page is exact for the length.  Where that is so, an earlier page of the
same size and this one are parts of the list one behind the other. -/
theorem eval_apply_exact (p : PageSpec) (length : Nat) :
    ((∀ scope seq items, items.length = length → seq.eval scope = .ok (.list items) →
      (p.apply seq).eval scope = .ok (.list (p.cut items))) ↔ p.IsExactFor length) ∧
    ∀ number number' size : Int64, p = ⟨some number', some size⟩ → 0 < number.toInt →
      number.toInt < number'.toInt → 0 < size.toInt → p.IsExactFor length →
        ∀ scope seq items, items.length = length → seq.eval scope = .ok (.list items) →
          ∃ page page',
            ((PageSpec.mk (some number) (some size)).apply seq).eval scope = .ok (.list page) ∧
            (p.apply seq).eval scope = .ok (.list page') ∧ (page ++ page').Sublist items := by
  refine ⟨⟨fun h => ?_, ?_⟩, ?_⟩
  · by_contra hexact
    obtain ⟨items, hlength, hne⟩ := exists_eval_apply_ne_cut hexact
    exact hne (h [] _ items hlength rfl)
  · rintro h scope seq items rfl hseq
    exact eval_apply_of_isExactFor h hseq
  · rintro number number' size rfl hnumber hlt hsize hexact scope seq items rfl hseq
    refine ⟨_, _, eval_apply_of_isExactFor (hexact.of_lt hlt hsize) hseq,
      eval_apply_of_isExactFor hexact hseq, ?_⟩
    rw [cut_of_pos _ hsize, cut_of_pos _ hsize]
    exact sublist_append_of_le items (offset_add_le hlt hsize hnumber)

end PageSpec

namespace Sample

/-- Two items. -/
def twoItems : Expr := .ofValue (.list [.boolean false, .boolean true])

/-- A page of the greatest size there is. -/
def greatestPage (number : Int64) : PageSpec := ⟨some number, some Int64.maxValue⟩

end Sample

open Sample in
/-- On pages of one item there is one item each, and far behind the list there is none. -/
theorem PageSpec.eval_apply_twoItems :
    PageSpec.IsExactFor ⟨some Int64.maxValue, some 2⟩ 2 ∧
    ((PageSpec.mk (some Int64.maxValue) (some 2)).apply twoItems).eval [] = .ok (.list []) ∧
    PageSpec.IsExactFor ⟨some 2, some 1⟩ 2 ∧
    ∃ page page', ((PageSpec.mk (some 1) (some 1)).apply twoItems).eval [] = .ok (.list page) ∧
      ((PageSpec.mk (some 2) (some 1)).apply twoItems).eval [] = .ok (.list page') ∧
      (page ++ page').Sublist [.boolean false, .boolean true] := by
  have hfar : PageSpec.IsExactFor ⟨some Int64.maxValue, some 2⟩ 2 := by
    simp only [IsExactFor, Option.mem_some_iff, forall_eq']
    decide
  have hsecond : PageSpec.IsExactFor ⟨some 2, some 1⟩ 2 := by
    simp only [IsExactFor, Option.mem_some_iff, forall_eq']
    decide
  obtain ⟨hexact, -⟩ := eval_apply_exact ⟨some Int64.maxValue, some 2⟩ 2
  obtain ⟨-, hpages⟩ := eval_apply_exact ⟨some 2, some 1⟩ 2
  exact ⟨hfar, hexact.2 hfar [] twoItems _ rfl rfl, hsecond,
    hpages 1 2 1 rfl (by decide) (by decide) (by decide) hsecond [] twoItems _ rfl rfl⟩

open Sample in
/-- The second page of the greatest size is the first one again: all that there is, where nothing
should be. -/
theorem PageSpec.eval_apply_greatestPage :
    ((greatestPage 1).apply twoItems).eval [] = .ok (.list [.boolean false, .boolean true]) ∧
    ((greatestPage 2).apply twoItems).eval [] = .ok (.list [.boolean false, .boolean true]) ∧
    (greatestPage 2).cut [.boolean false, .boolean true] = [] :=
  ⟨rfl, rfl, rfl⟩

end TypedQuery
