import Mathlib.Data.List.Induction
import TypedQuery.Proofs.Expr.Replacement

/-!
# Free parameters after a replacement

Where no lambda is in the way, the free parameters after a replacement are those before it with the
new expression's in the place of the replaced one, less the later repeats of an identity:
`Expr.freeParameters_replace`.  `Expr.occurrences_replace` says this of the occurrences, where all
repeats still stand.  What remains is that it does not matter whether repeats are left out before the
occurrences are expanded or after it (`foldl_addParameter_flatMap`).
-/

namespace TypedQuery

/-! ## Leaving out repeats -/

/-- To collect parameters is to leave out the later repeats of an identity. -/
theorem foldl_addParameter_eq (ps found : List Parameter) :
    ps.foldl addParameter found =
      found ++ (ps.filter fun p => !found.any (·.id == p.id)).eraseDupsBy fun p q => p.id == q.id := by
  induction ps generalizing found with
  | nil => simp
  | cons p ps ih =>
    rw [List.foldl_cons, ih, addParameter, List.filter_cons]
    split
    · rename_i hfound
      rw [hfound]
      rfl
    · rename_i hfound
      rw [Bool.not_eq_true] at hfound
      rw [hfound, Bool.not_false, if_pos rfl, List.eraseDupsBy_cons, List.filter_filter,
        List.append_assoc, List.singleton_append]
      congr 3
      refine List.filter_congr fun q _ => ?_
      rw [List.any_append, List.any_cons, List.any_nil, Bool.or_false, Bool.not_or, Bool.and_comm,
        Bool.beq_comm (a := q.id)]
      cases p.id == q.id <;> rfl

/-- What has been found is not added again. -/
theorem foldl_addParameter_of_subset {ps found : List Parameter}
    (h : ps.map Parameter.id ⊆ found.map Parameter.id) : ps.foldl addParameter found = found := by
  induction ps with
  | nil => rfl
  | cons p ps ih =>
    rw [List.map_cons, List.cons_subset] at h
    have hp : found.any (·.id == p.id) = true := by simpa using h.1
    rw [List.foldl_cons, addParameter, if_pos hp, ih h.2]

/-- Repeats may be left out before parameters are added to others. -/
theorem foldl_addParameter_foldl (ps found : List Parameter) :
    (ps.foldl addParameter []).foldl addParameter found = ps.foldl addParameter found := by
  induction ps using List.reverseRecOn with
  | nil => rfl
  | append_singleton ps p ih =>
    rw [foldl_addParameter_concat, List.foldl_append]
    rcases addParameter_cases (ps.foldl addParameter []) p with ⟨hmem, hadd⟩ | ⟨-, hadd⟩
    · have hp : [p].map Parameter.id ⊆ (ps.foldl addParameter found).map Parameter.id := by
        rw [mem_map_id_foldl_addParameter] at hmem
        exact List.cons_subset.2
          ⟨(mem_map_id_foldl_addParameter ps found).2 (Or.inr (hmem.resolve_left nofun)),
            List.nil_subset _⟩
      rw [hadd, ih, foldl_addParameter_of_subset hp]
    · rw [hadd, List.foldl_append, ih]

/-- Repeats may be left out before each parameter is expanded and of what it is expanded to, where
parameters of one identity are expanded to the same identities. -/
theorem foldl_addParameter_flatMap {g : Parameter → List Parameter}
    (hids : ∀ p q : Parameter, p.id = q.id → (g p).map Parameter.id = (g q).map Parameter.id)
    (ps : List Parameter) :
    ((ps.foldl addParameter []).flatMap fun p => (g p).foldl addParameter []).foldl addParameter [] =
      (ps.flatMap g).foldl addParameter [] := by
  induction ps using List.reverseRecOn with
  | nil => rfl
  | append_singleton ps p ih =>
    rw [foldl_addParameter_concat, List.flatMap_append, List.flatMap_singleton, List.foldl_append]
    rcases addParameter_cases (ps.foldl addParameter []) p with ⟨hmem, hadd⟩ | ⟨-, hadd⟩
    · -- What a repeat is expanded to has been found with the first of its identity.
      have hrepeat : (g p).map Parameter.id ⊆
          ((ps.flatMap g).foldl addParameter []).map Parameter.id := by
        intro y hy
        rw [mem_map_id_foldl_addParameter] at hmem ⊢
        obtain ⟨q, hq, hqp⟩ := List.mem_map.1 (hmem.resolve_left nofun)
        rw [← hids q p hqp] at hy
        rw [List.map_flatMap]
        exact Or.inr (List.mem_flatMap.2 ⟨q, hq, hy⟩)
      rw [hadd, ih, foldl_addParameter_of_subset hrepeat]
    · rw [hadd, List.flatMap_append, List.flatMap_singleton, List.foldl_append, ih,
        foldl_addParameter_foldl]

namespace Expr

/-! ## Replacing -/

/-- Where lambdas declare neither the replaced parameter nor a free one of the new expression, the
free parameters are those before with the new expression's in the place of the replaced one, less the
later repeats of an identity.  Without the parameter the expression stays as it is. -/
theorem freeParameters_replace (e r : Expr) (x : ParamId) :
    (e.declares x = false → (∀ p ∈ r.freeParameters, e.declares p.id = false) →
      (e.replace x r).freeParameters =
        (e.freeParameters.flatMap fun p => if p.id = x then r.freeParameters else [p]).eraseDupsBy
          fun p q => p.id == q.id) ∧
    (e.mentions x = false → e.replace x r = e) := by
  refine ⟨fun hx hcapture => ?_, replace_eq_self r⟩
  have hcapture : ∀ id ∈ r.freeIds, e.declares id = false := by
    intro id hid
    obtain ⟨p, hp, rfl⟩ := exists_mem_freeParameters hid
    exact hcapture p hp
  let expand (p : Parameter) : List Parameter := if p.id = x then r.occurrences else [p]
  have hids : ∀ p q : Parameter, p.id = q.id →
      (expand p).map Parameter.id = (expand q).map Parameter.id := by
    intro p q hpq
    by_cases hp : p.id = x
    · simp only [expand, if_pos hp, if_pos (hpq ▸ hp : q.id = x)]
    · simp only [expand, if_neg hp, if_neg (hpq ▸ hp : q.id ≠ x), List.map_cons, List.map_nil, hpq]
  have hexpand : (fun p : Parameter => if p.id = x then r.freeParameters else [p]) =
      fun p => (expand p).foldl addParameter [] := by
    funext p
    by_cases hp : p.id = x
    · simp only [expand, if_pos hp, freeParameters_eq]
    · simp only [expand, if_neg hp]
      rfl
  calc (e.replace x r).freeParameters
      = (e.occurrences.flatMap expand).foldl addParameter [] := by
        rw [freeParameters_eq, occurrences_replace hx hcapture]
    _ = (e.freeParameters.flatMap fun p => (expand p).foldl addParameter []).foldl
          addParameter [] := by
        rw [freeParameters_eq, foldl_addParameter_flatMap hids]
    _ = (e.freeParameters.flatMap fun p => (expand p).foldl addParameter []).eraseDupsBy
          fun p q => p.id == q.id := by
        rw [foldl_addParameter_eq]
        simp
    _ = _ := by rw [hexpand]

end Expr

namespace Sample

/-- The parameter for a cart. -/
def cartParam : Parameter := ⟨⟨0⟩, "cart", .object "Cart"⟩

/-- The parameter for a price. -/
def priceParam : Parameter := ⟨⟨1⟩, "price", .scalar .int⟩

/-- The parameter for a shop. -/
def shopParam : Parameter := ⟨⟨2⟩, "shop", .object "Shop"⟩

/-- The parameter for each item or cart below. -/
def entryParam : Parameter := ⟨⟨3⟩, "x", .record []⟩

/-- The items of a cart above a price. -/
def dearItems : Expr :=
  .call .filter (.member cartParam.expr "items" (.sequence (.object "Item")))
    [.lambda [entryParam]
      (.binary .greaterThan (.member entryParam.expr "price" (.scalar .int)) priceParam.expr)]

/-- The first cart of a shop above the same price. -/
def firstCart : Expr :=
  .call .first (.member shopParam.expr "carts" (.sequence (.object "Cart")))
    [.lambda [entryParam]
      (.binary .greaterThan (.member entryParam.expr "total" (.scalar .int)) priceParam.expr)]

end Sample

open Sample in
/-- With the shop's cart for the cart, the shop is free in its place, and the price once. -/
theorem Expr.freeParameters_replace_firstCart :
    dearItems.freeParameters = [cartParam, priceParam] ∧
    firstCart.freeParameters = [shopParam, priceParam] ∧
    dearItems.declares cartParam.id = false ∧
    (∀ p ∈ firstCart.freeParameters, dearItems.declares p.id = false) ∧
    (dearItems.replace cartParam.id firstCart).freeParameters = [shopParam, priceParam] ∧
    firstCart.mentions cartParam.id = false ∧
    firstCart.replace cartParam.id dearItems = firstCart := by
  have hcapture : ∀ p ∈ firstCart.freeParameters, dearItems.declares p.id = false := by
    intro p hp
    rcases List.mem_cons.1 hp with rfl | hp
    · rfl
    · obtain rfl : p = priceParam := List.mem_singleton.1 hp
      rfl
  exact ⟨rfl, rfl, rfl, hcapture,
    (Expr.freeParameters_replace dearItems firstCart cartParam.id).1 rfl hcapture, rfl,
    (Expr.freeParameters_replace firstCart dearItems cartParam.id).2 rfl⟩

end TypedQuery
