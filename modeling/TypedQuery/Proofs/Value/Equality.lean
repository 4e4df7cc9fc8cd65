import TypedQuery.Proofs.Json.Equality
import TypedQuery.Proofs.Value.Order

/-!
# Comparison and equality as relations

Leaving out floating-point numbers, the order of values is a total preorder among the values that
have an order with one another, and the equality of queries is an equivalence relation:
`Value.isOrdering_of_isFloatFree`.  Equality is that of the order
(`Value.equal_eq_cmp?_of_not_arePaired`) but for two lists, two records or two arrays of texts, which
have no order.  Lists are compared item by item again, and records part by part by the finer equality
within a variant, so there is one induction for each of the two equalities.

That a value is equal to itself, and that values that are equal to one are equal to each other, is
all that an equivalence needs.
-/

namespace TypedQuery

/-! ## Order -/

namespace Rank

/-- All but the values apart have an order with themselves. -/
theorem cmp?_self {a : Rank} (h : a ≠ .apart) : a.cmp? a = some .eq := by
  cases a with
  | first => rfl
  | apart => exact absurd rfl h
  | among k x =>
    rw [cmp?_among]
    exact congrArg some (inferInstance : Std.ReflCmp k.cmp).compare_self

end Rank

namespace Value

section Order

variable {u v w : Value} {o p : Ordering} (hu : u.isFloat = false) (hv : v.isFloat = false)
  (hw : w.isFloat = false)

include hu hv hw

/-- Along a chain nothing falls, and it rises where one of the steps does. -/
theorem cmp?_trans (huv : u.cmp? v = some o) (hvw : v.cmp? w = some p) (ho : o.isLE = true)
    (hp : p.isLE = true) :
    ∃ q, u.cmp? w = some q ∧ q.isLE = true ∧ (o = .lt ∨ p = .lt → q = .lt) := by
  obtain ⟨q, huw, hq⟩ := AtMost.trans hu hv hw ⟨o, huv, ho⟩ ⟨p, hvw, hp⟩
  refine ⟨q, huw, hq, fun hlt => ?_⟩
  cases q with
  | lt => rfl
  | gt => cases hq
  | eq =>
    -- The ends are alike, so each step could be gone back over the rest of the circle.
    have hwu : w.AtMost u := (atMost_of_cmp?_eq_eq hu hw huw).2
    rcases hlt with rfl | rfl
    · obtain ⟨r, hvu, hr⟩ := AtMost.trans hv hw hu ⟨p, hvw, hp⟩ hwu
      rw [cmp?_swap hu hv, huv] at hvu
      obtain rfl := Option.some.inj hvu
      cases hr
    · obtain ⟨r, hwv, hr⟩ := AtMost.trans hw hu hv hwu ⟨o, huv, ho⟩
      rw [cmp?_swap hv hw, hvw] at hwv
      obtain rfl := Option.some.inj hwv
      cases hr

/-- Values that are alike to one are alike to each other. -/
theorem cmp?_eq_eq_of_cmp? (huw : u.cmp? w = some .eq) (hvw : v.cmp? w = some .eq) :
    u.cmp? v = some .eq := by
  have hwv : w.cmp? v = some .eq := by rw [cmp?_swap hv hw, hvw]; rfl
  have hwu : w.cmp? u = some .eq := by rw [cmp?_swap hu hw, huw]; rfl
  obtain ⟨q, hq, hle, -⟩ := cmp?_trans hu hw hv huw hwv rfl rfl
  obtain ⟨r, hr, hge, -⟩ := cmp?_trans hv hw hu hvw hwu rfl rfl
  rw [cmp?_swap hu hv, hq] at hr
  obtain rfl := Option.some.inj hr
  rw [hq]
  cases q with
  | eq => rfl
  | lt => cases hge
  | gt => cases hle

end Order

/-! ## Values without floating-point numbers -/

mutual

/-- Whether no part of the value is a floating-point value.  What stands in a document is no value. -/
def isFloatFree : Value → Bool
  | .float _ => false
  | .list items => isFloatFreeItems items
  | .record fields => isFloatFreeFields fields
  | _ => true

/-- Whether that is so of all items. -/
def isFloatFreeItems : List Value → Bool
  | [] => true
  | v :: rest => v.isFloatFree && isFloatFreeItems rest

/-- Whether that is so of the contents of all fields. -/
def isFloatFreeFields : List (String × Value) → Bool
  | [] => true
  | (_, v) :: rest => v.isFloatFree && isFloatFreeFields rest

end

theorem isFloatFreeItems_iff {items : List Value} :
    isFloatFreeItems items = true ↔ ∀ v ∈ items, v.isFloatFree = true := by
  induction items with
  | nil => exact ⟨fun _ => nofun, fun _ => rfl⟩
  | cons v rest ih => rw [isFloatFreeItems, Bool.and_eq_true, ih, List.forall_mem_cons]

theorem isFloatFreeFields_iff {fields : List (String × Value)} :
    isFloatFreeFields fields = true ↔ ∀ f ∈ fields, f.2.isFloatFree = true := by
  induction fields with
  | nil => exact ⟨fun _ => nofun, fun _ => rfl⟩
  | cons f rest ih => rw [isFloatFreeFields, Bool.and_eq_true, ih, List.forall_mem_cons]

theorem isFloat_of_isFloatFree {v : Value} (h : v.isFloatFree = true) : v.isFloat = false := by
  cases v with
  | float => cases h
  | _ => rfl

/-- Whether the value is neither a list nor a record. -/
def isLeaf : Value → Bool
  | .list _ | .record _ => false
  | _ => true

/-- Induction on values: from the items to a list, and from the contents of the fields to a
record. -/
@[elab_as_elim]
theorem induct {motive : Value → Prop} (leaf : ∀ v, v.isLeaf = true → motive v)
    (list : ∀ items, (∀ v ∈ items, motive v) → motive (.list items))
    (record : ∀ fields, (∀ f ∈ fields, motive f.2) → motive (.record fields)) (v : Value) :
    motive v :=
  @Value.rec motive (fun items => ∀ v ∈ items, motive v) (fun fields => ∀ f ∈ fields, motive f.2)
    (fun f => motive f.2) (fun _ => leaf _ rfl) (fun _ => leaf _ rfl) (fun _ => leaf _ rfl)
    (fun _ => leaf _ rfl) (fun _ => leaf _ rfl) (fun _ => leaf _ rfl) (fun _ => leaf _ rfl)
    (fun _ => leaf _ rfl) (fun _ => leaf _ rfl) (fun _ => leaf _ rfl) (fun _ _ => leaf _ rfl)
    (fun _ => leaf _ rfl) list record (leaf _ rfl) nofun
    (fun _ _ hv hitems => List.forall_mem_cons.2 ⟨hv, hitems⟩) nofun
    (fun _ _ hf hfields => List.forall_mem_cons.2 ⟨hf, hfields⟩) (fun _ _ hv => hv) v

/-! ## Equality within a variant -/

theorem sameItems_iff {as bs : List Value} :
    sameItems as bs = true ↔ List.Forall₂ (fun a b => a.same b = true) as bs := by
  induction as generalizing bs with
  | nil => cases bs <;> simp [sameItems]
  | cons a as ih => cases bs <;> simp [sameItems, ih]

theorem sameFields_iff {as bs : List (String × Value)} :
    sameFields as bs = true ↔
      List.Forall₂ (fun a b => a.1 = b.1 ∧ a.2.same b.2 = true) as bs := by
  induction as generalizing bs with
  | nil => cases bs <;> simp [sameFields]
  | cons a as ih => cases bs <;> simp [sameFields, ih]

theorem sameNumber_iff {a b : Decimal} : a.sameNumber b = true ↔ a.toRat = b.toRat := by
  rw [Decimal.sameNumber, Decimal.cmp_eq_compare_toRat, beq_iff_eq, Std.compare_eq_iff_eq]

/-- Whether values of the variant are the same only if there is no difference between them. -/
def isPlain : Value → Bool
  | .float _ | .decimal _ | .json _ | .list _ | .record _ => false
  | _ => true

theorem same_iff_eq {v w : Value} (h : w.isPlain = true) : v.same w = true ↔ v = w := by
  cases w with
  | float | decimal | json | list | record => cases h
  | _ => cases v <;> simp [same]

/-- A value without floating-point numbers is the same as itself. -/
theorem same_self {v : Value} (h : v.isFloatFree = true) : v.same v = true := by
  induction v using Value.induct with
  | leaf v hleaf =>
    cases v with
    | float => cases h
    | list | record => cases hleaf
    | decimal d => exact sameNumber_iff.2 rfl
    | json j => exact j.same_self
    | _ => exact (same_iff_eq rfl).2 rfl
  | list items ih =>
    have hitems := isFloatFreeItems_iff.1 h
    exact sameItems_iff.2 (List.forall₂_same.2 fun v hv => ih v hv (hitems v hv))
  | record fields ih =>
    have hfields := isFloatFreeFields_iff.1 h
    exact sameFields_iff.2 (List.forall₂_same.2 fun f hf => ⟨rfl, ih f hf (hfields f hf)⟩)

/-- Values that are the same as one are the same as each other. -/
theorem same_of_same {u v w : Value} (hu : u.same w = true) (hv : v.same w = true) :
    u.same v = true := by
  induction w using Value.induct generalizing u v with
  | leaf w hleaf =>
    cases hplain : w.isPlain with
    | true =>
      obtain rfl := (same_iff_eq hplain).1 hu
      obtain rfl := (same_iff_eq hplain).1 hv
      exact hu
    | false =>
      cases w with
      | list | record => cases hleaf
      | float c =>
        cases u with
        | float a =>
          cases v with
          | float b => exact Json.float_beq_of_beq hu hv
          | _ => cases hv
        | _ => cases hu
      | decimal c =>
        cases u with
        | decimal a =>
          cases v with
          | decimal b =>
            exact sameNumber_iff.2 ((sameNumber_iff.1 hu).trans (sameNumber_iff.1 hv).symm)
          | _ => cases hv
        | _ => cases hu
      | json c =>
        cases u with
        | json a =>
          cases v with
          | json b => exact Json.same_of_same hu hv
          | _ => cases hv
        | _ => cases hu
      | _ => cases hplain
  | list cs ih =>
    cases u with
    | list as =>
      cases v with
      | list bs =>
        exact sameItems_iff.2 (forall₂_of_forall₂ (fun c hc _ _ => ih c hc)
          (sameItems_iff.1 hu) (sameItems_iff.1 hv))
      | _ => cases hv
    | _ => cases hu
  | record cs ih =>
    cases u with
    | record as =>
      cases v with
      | record bs =>
        refine sameFields_iff.2 (forall₂_of_forall₂ (fun c hc a b ha hb => ?_)
          (sameFields_iff.1 hu) (sameFields_iff.1 hv))
        exact ⟨ha.1.trans hb.1.symm, ih c hc ha.2 hb.2⟩
      | _ => cases hv
    | _ => cases hu

/-! ## Equality of queries -/

/-- Whether equality goes by the parts of the values: of two lists, two records or two arrays of
texts. -/
def arePaired : Value → Value → Bool
  | .list _, .list _ | .record _, .record _ | .stringArray _, .stringArray _ => true
  | _, _ => false

section Equality

variable {u v w : Value}

theorem equalItems_iff {as bs : List Value} :
    equalItems as bs = true ↔ List.Forall₂ (fun a b => a.equal b = true) as bs := by
  induction as generalizing bs with
  | nil => cases bs <;> simp [equalItems]
  | cons a as ih => cases bs <;> simp [equalItems, ih]

/-- What has no parts to compare is equal by the order. -/
theorem equal_eq_cmp?_of_not_arePaired (h : v.arePaired w = false) :
    v.equal w = (v.cmp? w == some .eq) := by
  unfold equal
  split
  case h_4 => rfl
  all_goals cases h

/-- What has parts to compare has no order. -/
theorem cmp?_of_arePaired (h : v.arePaired w = true) : v.cmp? w = none := by
  unfold arePaired at h
  split at h
  case h_4 => cases h
  all_goals rfl

/-- A value without floating-point numbers is equal to itself. -/
theorem equal_self (h : v.isFloatFree = true) : v.equal v = true := by
  induction v using Value.induct with
  | leaf v hleaf =>
    have hfloat := isFloat_of_isFloatFree h
    cases v with
    | list | record => cases hleaf
    | float => cases h
    | stringArray items => exact beq_self_eq_true items
    | _ =>
      refine (equal_eq_cmp?_of_not_arePaired rfl).trans (beq_iff_eq.2 ?_)
      rw [cmp?_eq_rank hfloat hfloat]
      exact Rank.cmp?_self nofun
  | list items ih =>
    have hitems := isFloatFreeItems_iff.1 h
    exact equalItems_iff.2 (List.forall₂_same.2 fun v hv => ih v hv (hitems v hv))
  | record fields ih => exact same_self h

/-- What the order finds equal to something has no parts to compare. -/
theorem arePaired_eq_false_of_cmp? (h : u.cmp? w = some .eq) : u.arePaired v = false := by
  cases u with
  | stringArray | list | record => cases w <;> cases h
  | _ => rfl

/-- Values that are equal to one are equal to each other. -/
theorem equal_of_equal (hu : u.isFloatFree = true) (hv : v.isFloatFree = true)
    (hw : w.isFloatFree = true) (huw : u.equal w = true) (hvw : v.equal w = true) :
    u.equal v = true := by
  induction w using Value.induct generalizing u v with
  | leaf w hleaf =>
    by_cases htexts : ∃ cs, w = .stringArray cs
    · obtain ⟨cs, rfl⟩ := htexts
      cases u with
      | stringArray as =>
        cases v with
        | stringArray bs => exact beq_iff_eq.2 ((beq_iff_eq.1 huw).trans (beq_iff_eq.1 hvw).symm)
        | _ => cases hvw
      | _ => cases huw
    · have hpaired (v : Value) : v.arePaired w = false := by
        cases w with
        | list | record => cases hleaf
        | stringArray cs => exact absurd ⟨cs, rfl⟩ htexts
        | _ => cases v <;> rfl
      rw [equal_eq_cmp?_of_not_arePaired (hpaired _), beq_iff_eq] at huw hvw
      rw [equal_eq_cmp?_of_not_arePaired (arePaired_eq_false_of_cmp? huw), beq_iff_eq]
      exact cmp?_eq_eq_of_cmp? (isFloat_of_isFloatFree hu) (isFloat_of_isFloatFree hv)
        (isFloat_of_isFloatFree hw) huw hvw
  | list cs ih =>
    cases u with
    | list as =>
      cases v with
      | list bs =>
        have has := (List.forall₂_and_left _ _).2 ⟨isFloatFreeItems_iff.1 hu, equalItems_iff.1 huw⟩
        have hbs := (List.forall₂_and_left _ _).2 ⟨isFloatFreeItems_iff.1 hv, equalItems_iff.1 hvw⟩
        have hcs := isFloatFreeItems_iff.1 hw
        exact equalItems_iff.2 (forall₂_of_forall₂
          (fun c hc _ _ ha hb => ih c hc ha.1 hb.1 (hcs c hc) ha.2 hb.2) has hbs)
      | _ => cases hvw
    | _ => cases huw
  | record cs ih =>
    cases u with
    | record as =>
      cases v with
      | record bs =>
        exact same_of_same (show (record as).same (record cs) = true from huw) hvw
      | _ => cases hvw
    | _ => cases huw

end Equality

/-! ## The laws -/

/-- The order of the values in a set is a total preorder among those that have an order with one
another, and their equality is an equivalence relation that goes by it. -/
structure IsOrdering (P : Value → Prop) : Prop where
  /-- The values exchanged, the order is the opposite, or there is none either way. -/
  swap : ∀ v w, P v → P w → w.cmp? v = (v.cmp? w).map Ordering.swap
  /-- Along a chain nothing falls, and it rises where one of the steps does. -/
  trans : ∀ u v w o p, P u → P v → P w → u.cmp? v = some o → v.cmp? w = some p → o ≠ .gt →
    p ≠ .gt → ∃ q, u.cmp? w = some q ∧ q ≠ .gt ∧ (o = .lt ∨ p = .lt → q = .lt)
  /-- Null comes before everything else. -/
  null_first : ∀ w, w ≠ .null → cmp? .null w = some .lt
  equivalence : Equivalence fun v w : { v // P v } => v.1.equal w.1 = true
  /-- Two lists, two records and two arrays of texts have no order, and all other values are equal
  by it. -/
  equal_iff : ∀ v w, P v → P w →
    if v.arePaired w = true then v.cmp? w = none else v.equal w = true ↔ v.cmp? w = some .eq

/-- Values without floating-point numbers are ordered among their kinds, and their equality is an
equivalence relation. -/
theorem isOrdering_of_isFloatFree : IsOrdering fun v => v.isFloatFree = true where
  swap v w hv hw := cmp?_swap (isFloat_of_isFloatFree hv) (isFloat_of_isFloatFree hw)
  trans u v w o p hu hv hw huv hvw ho hp := by
    obtain ⟨q, hq, hle, hlt⟩ := cmp?_trans (isFloat_of_isFloatFree hu) (isFloat_of_isFloatFree hv)
      (isFloat_of_isFloatFree hw) huv hvw (Ordering.ne_gt_iff_isLE.1 ho)
      (Ordering.ne_gt_iff_isLE.1 hp)
    exact ⟨q, hq, Ordering.ne_gt_iff_isLE.2 hle, hlt⟩
  null_first w hnull := by
    cases w with
    | null => exact absurd rfl hnull
    | _ => rfl
  equivalence := by
    have hself (v : { v : Value // v.isFloatFree = true }) : v.1.equal v.1 = true := equal_self v.2
    have hswap {v w : { v : Value // v.isFloatFree = true }} (h : v.1.equal w.1 = true) :
        w.1.equal v.1 = true := equal_of_equal w.2 v.2 w.2 (hself w) h
    exact ⟨hself, hswap, fun {u v w} huv hvw => equal_of_equal u.2 w.2 v.2 huv (hswap hvw)⟩
  equal_iff v w _ _ := by
    split
    · rename_i hpaired
      exact cmp?_of_arePaired hpaired
    · rename_i hpaired
      rw [equal_eq_cmp?_of_not_arePaired (Bool.not_eq_true _ ▸ hpaired), beq_iff_eq]

end Value

end TypedQuery
