import TypedQuery.Proofs.Eval.Locality
import TypedQuery.Proofs.Eval.Sequence
import TypedQuery.Proofs.Value.Order

/-!
# Sorting by a key

A sequence is sorted by a key that is computed for each item.  Where any two of the keys have an
order, and none is a floating-point number, the sort is a stable one in both directions:
`eval_orderBy_isStableSort`.  The order is not transitive on all values, since values without an
order pass for equal.  It is on the keys at hand (`inOrder_iff_mayPrecede`), and the lemmas on lists
ask for no more than that.
-/

namespace TypedQuery

/-! ## Lists -/

section Lists

variable {α : Type} {le : α → α → Bool} {l : List α}

/-- A list is sorted as the list of its members is, so an order has to be one on the members only. -/
theorem mergeSort_eq_map_attach (l : List α) (le : α → α → Bool) :
    l.mergeSort le = (l.attach.mergeSort fun a b => le a b).map Subtype.val := by
  rw [List.map_mergeSort (s := le) fun _ _ _ _ => rfl, List.attach_map_subtype_val]

/-- A stable sort leaves members alone that may stand in any order. -/
theorem filter_mergeSort (htrans : ∀ a b c, le a b = true → le b c = true → le a c = true)
    (htotal : ∀ a b, (le a b || le b a) = true) {p : α → Bool}
    (hp : ∀ a b, p a = true → p b = true → le a b = true) (l : List α) :
    (l.mergeSort le).filter p = l.filter p := by
  have hpairwise : (l.filter p).Pairwise fun a b => le a b = true := by
    rw [List.pairwise_filter]
    exact List.pairwise_of_forall fun a b => hp a b
  have hsublist : (l.filter p).Sublist (l.mergeSort le) :=
    List.sublist_mergeSort htrans htotal hpairwise List.filter_sublist
  have hfiltered : (l.filter p).Sublist ((l.mergeSort le).filter p) := by
    have hkept := hsublist.filter p
    rwa [List.filter_filter, List.filter_congr fun a _ => Bool.and_self (p a)] at hkept
  have hlength : ((l.mergeSort le).filter p).length = (l.filter p).length :=
    ((List.mergeSort_perm l le).filter p).length_eq
  exact (hfiltered.eq_of_length hlength.symm).symm

section Members

variable (htrans : ∀ a ∈ l, ∀ b ∈ l, ∀ c ∈ l, le a b = true → le b c = true → le a c = true)
  (htotal : ∀ a ∈ l, ∀ b ∈ l, (le a b || le b a) = true)

include htrans htotal

theorem pairwise_mergeSort_of_mem : (l.mergeSort le).Pairwise fun a b => le a b = true := by
  rw [mergeSort_eq_map_attach, List.pairwise_map]
  apply List.pairwise_mergeSort
  · rintro ⟨a, ha⟩ ⟨b, hb⟩ ⟨c, hc⟩
    exact htrans a ha b hb c hc
  · rintro ⟨a, ha⟩ ⟨b, hb⟩
    exact htotal a ha b hb

theorem filter_mergeSort_of_mem {p : α → Bool}
    (hp : ∀ a ∈ l, ∀ b ∈ l, p a = true → p b = true → le a b = true) :
    (l.mergeSort le).filter p = l.filter p := by
  have hattach : (l.attach.mergeSort fun a b => le a b).filter (p ∘ Subtype.val) =
      l.attach.filter (p ∘ Subtype.val) := by
    apply filter_mergeSort
    · rintro ⟨a, ha⟩ ⟨b, hb⟩ ⟨c, hc⟩
      exact htrans a ha b hb c hc
    · rintro ⟨a, ha⟩ ⟨b, hb⟩
      exact htotal a ha b hb
    · rintro ⟨a, ha⟩ ⟨b, hb⟩
      exact hp a ha b hb
  rw [mergeSort_eq_map_attach, List.filter_map, hattach, ← List.filter_map,
    List.attach_map_subtype_val]

end Members

end Lists

/-! ## Keys -/

namespace Value

/-- Whether a key may stand in front of another in a sorted list. -/
def MayPrecede (descending : Bool) (v w : Value) : Prop :=
  if descending then w.AtMost v else v.AtMost w

section Keys

variable {u v w : Value} {descending : Bool} (hu : u.isFloat = false) (hv : v.isFloat = false)
  (hw : w.isFloat = false)

include hv in
theorem inOrder_self (x y : Value) : inOrder descending (v, x) (v, y) = true := by
  have hswap := cmp?_swap hv hv
  unfold inOrder
  cases hcmp : v.cmp? v with
  | none => cases descending <;> rfl
  | some o =>
    rw [hcmp] at hswap
    cases o with
    | eq => cases descending <;> rfl
    | lt | gt => cases hswap

include hv hw

theorem mayPrecede_of_cmp?_eq_eq (h : v.cmp? w = some .eq) : v.MayPrecede descending w := by
  obtain ⟨hle, hge⟩ := atMost_of_cmp?_eq_eq hv hw h
  cases descending with
  | false => exact hle
  | true => exact hge

/-- Where two keys have an order, sorting goes by it. -/
theorem inOrder_iff_mayPrecede (h : (v.cmp? w).isSome = true) (x y : Value) :
    inOrder descending (v, x) (w, y) = true ↔ v.MayPrecede descending w := by
  obtain ⟨o, ho⟩ := Option.isSome_iff_exists.1 h
  have hswap : w.cmp? v = some o.swap := by rw [cmp?_swap hv hw, ho, Option.map_some]
  unfold inOrder MayPrecede AtMost
  simp only [ho, hswap, Option.getD_some, Option.some.injEq, exists_eq_left']
  cases descending <;> cases o <;> simp

theorem mayPrecede_total (h : (v.cmp? w).isSome = true) :
    v.MayPrecede descending w ∨ w.MayPrecede descending v := by
  obtain ⟨o, ho⟩ := Option.isSome_iff_exists.1 h
  have hswap : w.cmp? v = some o.swap := by rw [cmp?_swap hv hw, ho, Option.map_some]
  have htotal : v.AtMost w ∨ w.AtMost v := by
    cases o with
    | lt | eq => exact Or.inl ⟨_, ho, rfl⟩
    | gt => exact Or.inr ⟨_, hswap, rfl⟩
  cases descending with
  | false => exact htotal
  | true => exact htotal.symm

include hu

theorem MayPrecede.trans (huv : u.MayPrecede descending v) (hvw : v.MayPrecede descending w) :
    u.MayPrecede descending w := by
  cases descending with
  | false => exact AtMost.trans hu hv hw huv hvw
  | true => exact AtMost.trans hw hv hu hvw huv

end Keys

end Value

/-! ## Sorted items -/

/-- What a stable sort of items by their keys gives: the same items, with keys that rise or fall, and
those with one key in the order in which they were. -/
structure IsStableSort (descending : Bool) (key : Value → Value) (items sorted : List Value) :
    Prop where
  perm : sorted.Perm items
  ordered : sorted.Pairwise fun v w => (key v).MayPrecede descending (key w)
  stable : ∀ w ∈ items, sorted.filter (fun v => (key v).cmp? (key w) == some .eq) =
    items.filter fun v => (key v).cmp? (key w) == some .eq

section Sorting

variable {key : Value → Value} {items : List Value} {descending : Bool}

/-- The items are what is sorted, if they are taken with their keys. -/
theorem map_mergeSort_zip (descending : Bool) (key : Value → Value) (items : List Value) :
    (((items.map key).zip items).mergeSort (inOrder descending)).map Prod.snd =
      items.mergeSort fun v w => inOrder descending (key v, v) (key w, w) := by
  have hzip : (items.map key).zip items = items.map fun v => (key v, v) := by
    rw [← List.zip_map', List.map_id']
  have hmap := List.map_mergeSort (r := fun v w => inOrder descending (key v, v) (key w, w))
    (s := inOrder descending) (f := fun v => (key v, v)) (l := items) fun _ _ _ _ => rfl
  rw [hzip, ← hmap, List.map_map]
  exact List.map_id _

variable (hfloat : ∀ v ∈ items, (key v).isFloat = false)
  (hordered : items.Pairwise fun v w => ((key v).cmp? (key w)).isSome = true)

include hfloat hordered

theorem pairwise_isSome_cmp?_flip :
    items.Pairwise fun v w => ((key w).cmp? (key v)).isSome = true := by
  refine hordered.imp_of_mem ?_
  intro v w hv hw h
  rw [Value.cmp?_swap (hfloat v hv) (hfloat w hw), Option.isSome_map, h]

/-- Any two items have keys with an order, whichever comes first, unless they are one item. -/
theorem eq_or_isSome_cmp? {v w : Value} (hv : v ∈ items) (hw : w ∈ items) :
    v = w ∨ ((key v).cmp? (key w)).isSome = true := by
  have hflip := pairwise_isSome_cmp?_flip hfloat hordered
  exact List.Pairwise.forall_of_forall_of_flip
    (R := fun v w => v = w ∨ ((key v).cmp? (key w)).isSome = true) (fun _ _ => Or.inl rfl)
    (hordered.imp Or.inr) (hflip.imp Or.inr) hv hw

theorem inOrder_trans {u v w : Value} (hu : u ∈ items) (hv : v ∈ items) (hw : w ∈ items)
    (huv : inOrder descending (key u, u) (key v, v) = true)
    (hvw : inOrder descending (key v, v) (key w, w) = true) :
    inOrder descending (key u, u) (key w, w) = true := by
  have hfu := hfloat u hu
  have hfv := hfloat v hv
  have hfw := hfloat w hw
  rcases eq_or_isSome_cmp? hfloat hordered hu hv with rfl | hou
  · exact hvw
  rcases eq_or_isSome_cmp? hfloat hordered hv hw with rfl | hov
  · exact huv
  rcases eq_or_isSome_cmp? hfloat hordered hu hw with rfl | how
  · exact Value.inOrder_self hfu u u
  rw [Value.inOrder_iff_mayPrecede hfu hfv hou] at huv
  rw [Value.inOrder_iff_mayPrecede hfv hfw hov] at hvw
  rw [Value.inOrder_iff_mayPrecede hfu hfw how]
  exact Value.MayPrecede.trans hfu hfv hfw huv hvw

theorem inOrder_total {v w : Value} (hv : v ∈ items) (hw : w ∈ items) :
    (inOrder descending (key v, v) (key w, w) || inOrder descending (key w, w) (key v, v)) =
      true := by
  have hfv := hfloat v hv
  have hfw := hfloat w hw
  rw [Bool.or_eq_true]
  rcases eq_or_isSome_cmp? hfloat hordered hv hw with rfl | hvw
  · exact Or.inl (Value.inOrder_self hfv v v)
  rcases eq_or_isSome_cmp? hfloat hordered hw hv with rfl | hwv
  · exact Or.inl (Value.inOrder_self hfw w w)
  rw [Value.inOrder_iff_mayPrecede hfv hfw hvw, Value.inOrder_iff_mayPrecede hfw hfv hwv]
  exact Value.mayPrecede_total hfv hfw hvw

/-- Items whose keys are equal to one key may stand in any order. -/
theorem inOrder_of_cmp?_eq_eq {u v w : Value} (hu : u ∈ items) (hv : v ∈ items) (hw : w ∈ items)
    (huw : (key u).cmp? (key w) = some .eq) (hvw : (key v).cmp? (key w) = some .eq) :
    inOrder descending (key u, u) (key v, v) = true := by
  have hfu := hfloat u hu
  have hfv := hfloat v hv
  have hfw := hfloat w hw
  have hwv : (key w).cmp? (key v) = some .eq := by
    rw [Value.cmp?_swap hfv hfw, hvw]
    rfl
  rcases eq_or_isSome_cmp? hfloat hordered hu hv with rfl | huv
  · exact Value.inOrder_self hfu u u
  rw [Value.inOrder_iff_mayPrecede hfu hfv huv]
  exact Value.MayPrecede.trans hfu hfw hfv (Value.mayPrecede_of_cmp?_eq_eq hfu hfw huw)
    (Value.mayPrecede_of_cmp?_eq_eq hfw hfv hwv)

/-- Sorting by keys that have an order among themselves is a stable sort. -/
theorem isStableSort_mergeSort (descending : Bool) : IsStableSort descending key items
    (items.mergeSort fun v w => inOrder descending (key v, v) (key w, w)) := by
  have htrans : ∀ u ∈ items, ∀ v ∈ items, ∀ w ∈ items, _ → _ →
      inOrder descending (key u, u) (key w, w) = true :=
    fun u hu v hv w hw => inOrder_trans hfloat hordered hu hv hw
  have htotal : ∀ v ∈ items, ∀ w ∈ items,
      (inOrder descending (key v, v) (key w, w) || inOrder descending (key w, w) (key v, v)) = true :=
    fun v hv w hw => inOrder_total hfloat hordered hv hw
  have hperm := List.mergeSort_perm items
    fun v w => inOrder descending (key v, v) (key w, w)
  refine ⟨hperm, ?_, ?_⟩
  · have hflip := pairwise_isSome_cmp?_flip hfloat hordered
    have hsome := hperm.symm.pairwise (hordered.and hflip) fun h => ⟨h.2, h.1⟩
    have hsorted := pairwise_mergeSort_of_mem htrans htotal
    refine (hsorted.and hsome).imp_of_mem ?_
    rintro v w hv hw ⟨hinOrder, hvw, -⟩
    have hfv := hfloat v (hperm.mem_iff.1 hv)
    have hfw := hfloat w (hperm.mem_iff.1 hw)
    exact (Value.inOrder_iff_mayPrecede hfv hfw hvw v w).1 hinOrder
  · intro w hw
    refine filter_mergeSort_of_mem htrans htotal ?_
    intro u hu v hv huw hvw
    exact inOrder_of_cmp?_eq_eq hfloat hordered hu hv hw (beq_iff_eq.1 huw) (beq_iff_eq.1 hvw)

end Sorting

/-! ## Sorting sequences -/

section Evaluation

variable {source : Expr} {scope : Scope} {items : List Value}
  (hitems : source.items scope = .ok items) (p : Parameter) (body : Expr) (descending : Bool)

include hitems

/-- A sequence is sorted once the keys of all its items are there. -/
theorem eval_orderBy :
    (Expr.call (if descending then .orderByDescending else .orderBy) source
        [.lambda [p] body]).eval scope =
      (items.mapM fun v => body.eval (scope.bind p v)).map fun keys =>
        .list (((keys.zip items).mergeSort (inOrder descending)).map Prod.snd) := by
  rw [Expr.eval_call_eq_bind, hitems, ok_bind]
  exact run_orderBy descending (fun v => body.eval (scope.bind p v)) _

/-- Where each item has a key, none of them a floating-point number, and any two keys have an order,
both operators that sort give a stable sort of the items.  Where an item has no key, they fail as the
first such item does. -/
theorem eval_orderBy_isStableSort :
    (∀ key : Value → Value, (∀ v ∈ items, body.eval (scope.bind p v) = .ok (key v)) →
      (∀ v ∈ items, (key v).isFloat = false) →
      (items.Pairwise fun v w => ((key v).cmp? (key w)).isSome = true) →
      ∃ sorted, (Expr.call (if descending then .orderByDescending else .orderBy) source
          [.lambda [p] body]).eval scope = .ok (.list sorted) ∧
        IsStableSort descending key items sorted) ∧
    ∀ before v after e, items = before ++ v :: after →
      (∀ u ∈ before, ∃ k, body.eval (scope.bind p u) = .ok k) →
      body.eval (scope.bind p v) = .error e →
      (Expr.call (if descending then .orderByDescending else .orderBy) source
        [.lambda [p] body]).eval scope = .error e := by
  rw [eval_orderBy hitems p body descending]
  constructor
  · intro key hkey hfloat hordered
    refine ⟨_, ?_, isStableSort_mergeSort hfloat hordered descending⟩
    rw [mapM_eq_ok_map hkey, map_ok, map_mergeSort_zip]
  · rintro before v after e rfl hbefore hv
    rw [mapM_eq_error hbefore hv, map_error]

end Evaluation

namespace Sample

/-- Numbers of three kinds, two of them equal, and null. -/
def mixedNumbers : List Value := [.uint 2, .int 1, .null, .decimal ⟨20, 1⟩]

/-- An item to sort by. -/
def item : Parameter := ⟨⟨0⟩, "x", .scalar .json⟩

end Sample

open Sample in
/-- The numbers are sorted both ways; where one stands that has no member of the name that is sorted
by, the sort fails as the access to that member does. -/
theorem eval_orderBy_mixedNumbers :
    (∀ v ∈ mixedNumbers, v.isFloat = false) ∧
    (mixedNumbers.Pairwise fun v w => (v.cmp? w).isSome = true) ∧
    (∀ descending, ∃ sorted,
      (Expr.call (if descending then .orderByDescending else .orderBy)
        (.ofValue (.list mixedNumbers)) [.lambda [item] item.expr]).eval [] =
          .ok (.list sorted) ∧ IsStableSort descending id mixedNumbers sorted) ∧
    (Expr.call .orderByDescending (.ofValue (.list (.null :: mixedNumbers)))
      [.lambda [item] (.member item.expr "size" (.scalar .int))]).eval [] =
        .error (.typeMismatch "record with member 'size'" "UInt") := by
  have hitems : (Expr.ofValue (.list mixedNumbers)).items [] = .ok mixedNumbers := rfl
  have hmore : (Expr.ofValue (.list (.null :: mixedNumbers))).items [] =
      .ok (.null :: mixedNumbers) := rfl
  have hfloat : ∀ v ∈ mixedNumbers, v.isFloat = false := by
    simp [mixedNumbers, Value.isFloat]
  have hordered : mixedNumbers.Pairwise fun v w => (v.cmp? w).isSome = true := by
    simp [mixedNumbers, Value.cmp?]
  refine ⟨hfloat, hordered, ?_, ?_⟩
  · intro descending
    exact (eval_orderBy_isStableSort hitems item item.expr descending).1 id (fun _ _ => rfl) hfloat
      hordered
  · refine (eval_orderBy_isStableSort hmore item _ true).2 [.null] (.uint 2) _ _ rfl ?_ rfl
    intro u hu
    obtain rfl := List.mem_singleton.1 hu
    exact ⟨.null, rfl⟩

end TypedQuery
