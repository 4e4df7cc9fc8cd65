import TypedQuery.Proofs.Number.Shortest
import TypedQuery.Proofs.Value.Congruence

/-!
# Fingerprints of values that are the same

A value is the same as itself unless one of its floating-point numbers is not a number
(`Value.same_self_iff`); for the rest sameness is an equivalence.  Values that are the same have
fingerprints of one length, and these agree but for the zeros: a hash takes in the bits of a
floating-point number and the text of a document, and both tell minus zero from zero, which are the
same number.  So the fingerprints agree exactly if the zeros have the same signs
(`Value.hashContract`).

Decimals do keep to the rule: two that are the same number have one form without zeros at the end
(`Decimal.decimalDigits_eq`).

A fingerprint is a row of pieces whose lengths sameness keeps, and so are the signs of the zeros.
`EqualTogether` is what the induction carries from the pieces to the row.
-/

namespace TypedQuery

open Number Number.Binary

/-! ## Decimals -/

/-- All zeros are dropped if there are steps for as many as the digits can have. -/
theorem Number.Binary.mod_ten_dropZeros {steps d : Nat} (g : Int) (hd : d ≠ 0)
    (hsteps : d < 10 ^ steps) : (dropZeros steps d g).1 % 10 ≠ 0 := by
  induction steps generalizing d g with
  | zero => omega
  | succ steps ih =>
    rw [dropZeros]
    by_cases hzero : d % 10 = 0
    · have hcond : (decide (d % 10 = 0) && d != 0) = true := by simp [hzero, hd]
      rw [if_pos hcond]
      rw [Nat.pow_succ] at hsteps
      exact ih (g + 1) (by omega) (by omega)
    · have hcond : ¬ (decide (d % 10 = 0) && d != 0) = true := by simp [hzero]
      rw [if_neg hcond]
      exact hzero

/-- Without zeros at the end the digits of a number are told by the number. -/
theorem Number.Binary.eq_of_scaled_eq {m n : Nat} {e f : Int} (hm : m % 10 ≠ 0)
    (hn : n % 10 ≠ 0) (h : scaled (m, e) = scaled (n, f)) : m = n ∧ e = f := by
  have haux : ∀ {m n : Nat} {e f : Int}, m % 10 ≠ 0 → e ≤ f → scaled (m, e) = scaled (n, f) →
      m = n ∧ e = f := by
    intro m n e f hm hle h
    obtain ⟨k, rfl⟩ := Int.le.dest hle
    have hdigits : m = n * 10 ^ k := by
      have hunit : (10 : ℚ) ^ e ≠ 0 := zpow_ne_zero e (by norm_num)
      rw [scaled, scaled, zpow_add₀ (by norm_num), zpow_natCast, ← mul_assoc,
        mul_right_comm] at h
      exact_mod_cast mul_right_cancel₀ hunit h
    cases k with
    | zero => exact ⟨by simpa using hdigits, by simp⟩
    | succ k =>
      rw [Nat.pow_succ, ← Nat.mul_assoc] at hdigits
      omega
  rcases Int.le_total e f with hle | hle
  · exact haux hm hle h
  · obtain ⟨hdigits, hexponent⟩ := haux hn hle h.symm
    exact ⟨hdigits.symm, hexponent.symm⟩

namespace Decimal

theorem scaled_natAbs (d : Decimal) : scaled (d.digits.natAbs, -d.scale) = |d.toRat| := by
  have hunit : (0 : ℚ) ≤ 10 ^ (-d.scale) := zpow_nonneg (by norm_num) _
  rw [toRat, abs_mul, abs_of_nonneg hunit, scaled]
  congr 1
  rw [← Int.cast_abs, Int.abs_eq_natAbs]
  rfl

theorem toRat_neg_iff (d : Decimal) : d.toRat < 0 ↔ d.digits < 0 := by
  have hunit : (0 : ℚ) < 10 ^ (-d.scale) := zpow_pos (by norm_num) _
  rw [toRat, mul_neg_iff]
  simp only [hunit, hunit.not_gt, and_true, and_false, false_or, Int.cast_lt_zero]

theorem toRat_eq_zero_iff (d : Decimal) : d.toRat = 0 ↔ d.digits = 0 := by
  have hunit : (10 : ℚ) ^ (-d.scale) ≠ 0 := zpow_ne_zero _ (by norm_num)
  rw [toRat, mul_eq_zero, or_iff_left hunit]
  exact Int.cast_eq_zero

/-- Decimals that are the same number enter a hash alike. -/
theorem decimalDigits_eq {a b : Decimal} (h : a.toRat = b.toRat) :
    Value.decimalDigits a = Value.decimalDigits b := by
  have hzero : a.digits.natAbs = 0 ↔ b.digits.natAbs = 0 := by
    rw [Int.natAbs_eq_zero, Int.natAbs_eq_zero, ← toRat_eq_zero_iff, ← toRat_eq_zero_iff, h]
  have hsign : a.digits < 0 ↔ b.digits < 0 := by
    rw [← toRat_neg_iff, ← toRat_neg_iff, h]
  unfold Value.decimalDigits
  by_cases ha : a.digits.natAbs = 0
  · simp only [ha, hzero.1 ha, if_true]
  · have hb : b.digits.natAbs ≠ 0 := mt hzero.2 ha
    have hfits (n : Nat) : n < 10 ^ (n.log2 + 1) := by
      have htwo : n < 2 ^ (n.log2 + 1) := Nat.lt_log2_self
      have hten : 2 ^ (n.log2 + 1) ≤ 10 ^ (n.log2 + 1) := Nat.pow_le_pow_left (by decide) _
      omega
    have hscaled : scaled (dropZeros (a.digits.natAbs.log2 + 1) a.digits.natAbs (-a.scale)) =
        scaled (dropZeros (b.digits.natAbs.log2 + 1) b.digits.natAbs (-b.scale)) := by
      rw [scaled_dropZeros, scaled_dropZeros, scaled_natAbs, scaled_natAbs, h]
    have hdropped : dropZeros (a.digits.natAbs.log2 + 1) a.digits.natAbs (-a.scale) =
        dropZeros (b.digits.natAbs.log2 + 1) b.digits.natAbs (-b.scale) :=
      Prod.ext_iff.2 (eq_of_scaled_eq (mod_ten_dropZeros _ ha (hfits _))
        (mod_ten_dropZeros _ hb (hfits _)) hscaled)
    simp only [ha, hb, hsign, hdropped, if_false]

end Decimal

/-! ## Rows of pieces -/

/-- Two lists that are equal exactly if two others are; the lists of each pair are as long as each
other. -/
structure EqualTogether {α β : Type} (x y : List α) (p q : List β) : Prop where
  length : x.length = y.length
  length' : p.length = q.length
  iff : x = y ↔ p = q

namespace EqualTogether

variable {α β γ : Type} {x y x' y' : List α} {p q p' q' : List β}

theorem refl (x : List α) (p : List β) : EqualTogether x x p p := ⟨rfl, rfl, iff_of_true rfl rfl⟩

theorem append (h : EqualTogether x y p q) (h' : EqualTogether x' y' p' q') :
    EqualTogether (x ++ x') (y ++ y') (p ++ p') (q ++ q') := by
  refine ⟨?_, ?_, ?_⟩
  · rw [List.length_append, List.length_append, h.length, h'.length]
  · rw [List.length_append, List.length_append, h.length', h'.length']
  · constructor
    · intro heq
      obtain ⟨hfirst, hrest⟩ := List.append_inj heq h.length
      rw [h.iff.1 hfirst, h'.iff.1 hrest]
    · intro heq
      obtain ⟨hfirst, hrest⟩ := List.append_inj heq h.length'
      rw [h.iff.2 hfirst, h'.iff.2 hrest]

/-- What stands in front of both lists does not tell them apart. -/
theorem append_left (h : EqualTogether x y p q) (front : List α) :
    EqualTogether (front ++ x) (front ++ y) p q := (refl front []).append h

theorem flatMap {f : γ → List α} {g : γ → List β} {as bs : List γ}
    (h : List.Forall₂ (fun a b => EqualTogether (f a) (f b) (g a) (g b)) as bs) :
    EqualTogether (as.flatMap f) (bs.flatMap f) (as.flatMap g) (bs.flatMap g) := by
  induction h with
  | nil => exact refl [] []
  | cons hab _ ih =>
    simp only [List.flatMap_cons]
    exact hab.append ih

/-- A list is the row of its members. -/
theorem of_singletons {g : γ → List β} {as bs : List γ}
    (h : List.Forall₂ (fun a b => EqualTogether [a] [b] (g a) (g b)) as bs) :
    EqualTogether as bs (as.flatMap g) (bs.flatMap g) := by
  have hrow := flatMap (f := fun a => [a]) h
  rwa [List.flatMap_singleton', List.flatMap_singleton'] at hrow

end EqualTogether

/-! ## The signs of zeros -/

/-- The sign of the number, if it is a zero: whether it is minus zero. -/
def zeroSign (x : Float) : List Bool := if x = 0 then [false] else if x = -0 then [true] else []

/-- The bits of numbers that are the same differ only for zeros of different signs. -/
theorem equalTogether_zeroSign {x y : Float} (h : (x == y) = true) :
    EqualTogether [x] [y] (zeroSign x) (zeroSign y) := by
  have hsigns : (0 : Float) ≠ -0 := by decide
  obtain ⟨-, -, rfl | ⟨rfl, rfl⟩ | ⟨rfl, rfl⟩⟩ := Float.beq_iff_ne_nan_and_eq.1 h
  · exact EqualTogether.refl _ _
  · exact ⟨rfl, by decide, iff_of_false (by simpa using hsigns) (by decide)⟩
  · exact ⟨rfl, by decide, iff_of_false (by simpa using hsigns.symm) (by decide)⟩

namespace Json

mutual

/-- The signs of the zeros among the floating-point numbers of the document, in order. -/
def zeroSigns : Json → List Bool
  | .number (.float x _) => zeroSign x
  | .array items => zeroSignsItems items
  | .object fields => zeroSignsFields fields
  | _ => []

/-- The signs of the zeros in the items. -/
def zeroSignsItems : List Json → List Bool
  | [] => []
  | j :: rest => j.zeroSigns ++ zeroSignsItems rest

/-- The signs of the zeros in the contents of the fields. -/
def zeroSignsFields : List (String × Json) → List Bool
  | [] => []
  | (_, j) :: rest => j.zeroSigns ++ zeroSignsFields rest

end

theorem zeroSignsItems_eq_flatMap (items : List Json) :
    zeroSignsItems items = items.flatMap zeroSigns := by
  induction items with
  | nil => rfl
  | cons j rest ih => rw [zeroSignsItems, List.flatMap_cons, ih]

theorem zeroSignsFields_eq_flatMap (fields : List (String × Json)) :
    zeroSignsFields fields = fields.flatMap fun f => f.2.zeroSigns := by
  induction fields with
  | nil => rfl
  | cons f rest ih => rw [zeroSignsFields, List.flatMap_cons, ih]

/-- Documents that are the same differ only in the signs of their zeros. -/
theorem equalTogether_zeroSigns {j k : Json} (h : j.same k = true) :
    EqualTogether [j] [k] j.zeroSigns k.zeroSigns := by
  induction j using Json.induct generalizing k with
  | null =>
    cases k with
    | null => exact EqualTogether.refl _ _
    | _ => cases h
  | bool a =>
    cases k with
    | bool b =>
      obtain rfl : a = b := beq_iff_eq.1 h
      exact EqualTogether.refl _ _
    | _ => cases h
  | string a =>
    cases k with
    | string b =>
      obtain rfl : a = b := beq_iff_eq.1 h
      exact EqualTogether.refl _ _
    | _ => cases h
  | number m =>
    cases k with
    | number n =>
      cases m with
      | integer a _ =>
        cases n with
        | integer b _ =>
          obtain rfl : a = b := beq_iff_eq.1 h
          exact EqualTogether.refl _ _
        | float => cases h
      | float x _ =>
        cases n with
        | integer => cases h
        | float y _ =>
          have hzeros : EqualTogether [x] [y] (zeroSign x) (zeroSign y) := equalTogether_zeroSign h
          refine ⟨rfl, hzeros.length', ?_⟩
          show _ ↔ zeroSign x = zeroSign y
          rw [← hzeros.iff]
          simp
    | _ => cases h
  | array as ih =>
    cases k with
    | array bs =>
      have hitems : EqualTogether as bs (as.flatMap zeroSigns) (bs.flatMap zeroSigns) := by
        refine EqualTogether.of_singletons (forall₂_imp_of_mem (sameItems_iff.1 h) ?_)
        intro a ha b _ hab
        exact ih a ha hab
      rw [zeroSigns, zeroSigns, zeroSignsItems_eq_flatMap, zeroSignsItems_eq_flatMap]
      refine ⟨rfl, hitems.length', ?_⟩
      rw [← hitems.iff]
      simp
    | _ => cases h
  | object as ih =>
    cases k with
    | object bs =>
      have hfields : EqualTogether as bs (as.flatMap fun f => f.2.zeroSigns)
          (bs.flatMap fun f => f.2.zeroSigns) := by
        refine EqualTogether.of_singletons (forall₂_imp_of_mem (sameFields_iff.1 h) ?_)
        rintro ⟨name, a⟩ ha ⟨name', b⟩ _ ⟨hname, hab⟩
        obtain rfl : name = name' := hname
        have hcontent := ih _ ha hab
        refine ⟨rfl, hcontent.length', ?_⟩
        rw [← hcontent.iff]
        simp
      rw [zeroSigns, zeroSigns, zeroSignsFields_eq_flatMap, zeroSignsFields_eq_flatMap]
      refine ⟨rfl, hfields.length', ?_⟩
      rw [← hfields.iff]
      simp
    | _ => cases h

end Json

namespace Value

mutual

/-- The signs of the zeros among the floating-point numbers in the value and in its documents, in
order. -/
def zeroSigns : Value → List Bool
  | .float x => zeroSign x
  | .json j => j.zeroSigns
  | .list items => zeroSignsItems items
  | .record fields => zeroSignsFields fields
  | _ => []

/-- The signs of the zeros in the items. -/
def zeroSignsItems : List Value → List Bool
  | [] => []
  | v :: rest => v.zeroSigns ++ zeroSignsItems rest

/-- The signs of the zeros in the contents of the fields. -/
def zeroSignsFields : List (String × Value) → List Bool
  | [] => []
  | (_, v) :: rest => v.zeroSigns ++ zeroSignsFields rest

end

theorem zeroSignsItems_eq_flatMap (items : List Value) :
    zeroSignsItems items = items.flatMap zeroSigns := by
  induction items with
  | nil => rfl
  | cons v rest ih => rw [zeroSignsItems, List.flatMap_cons, ih]

theorem zeroSignsFields_eq_flatMap (fields : List (String × Value)) :
    zeroSignsFields fields = fields.flatMap fun f => f.2.zeroSigns := by
  induction fields with
  | nil => rfl
  | cons f rest ih => rw [zeroSignsFields, List.flatMap_cons, ih]

theorem fingerprintItems_eq_flatMap (items : List Value) :
    fingerprintItems items = items.flatMap fingerprint := by
  induction items with
  | nil => rfl
  | cons v rest ih => rw [fingerprintItems, List.flatMap_cons, ih]

theorem fingerprintFields_eq_flatMap (fields : List (String × Value)) :
    fingerprintFields fields = fields.flatMap fun f => [.text f.1] ++ f.2.fingerprint := by
  induction fields with
  | nil => rfl
  | cons f rest ih => rw [fingerprintFields, List.flatMap_cons, ih]; rfl

/-! ## Values that are the same -/

/-- The fingerprints of values that are the same differ only for zeros of different signs. -/
theorem equalTogether_fingerprint {v w : Value} (h : v.same w = true) :
    EqualTogether v.fingerprint w.fingerprint v.zeroSigns w.zeroSigns := by
  induction v using Value.induct generalizing w with
  | leaf v hleaf =>
    cases hplain : w.isPlain with
    | true =>
      obtain rfl := (same_iff_eq hplain).1 h
      exact EqualTogether.refl _ _
    | false =>
      cases w with
      | float y =>
        cases v with
        | float x =>
          have hzeros : EqualTogether [x] [y] (zeroSign x) (zeroSign y) := equalTogether_zeroSign h
          refine ⟨rfl, hzeros.length', ?_⟩
          show _ ↔ zeroSign x = zeroSign y
          rw [← hzeros.iff]
          simp [fingerprint, Float.toBits_inj]
        | _ => cases h
      | decimal b =>
        cases v with
        | decimal a =>
          have hdigits := Decimal.decimalDigits_eq (sameNumber_iff.1 h)
          have hmarks : (Value.decimal a).fingerprint = (Value.decimal b).fingerprint := by
            simp only [fingerprint, hdigits]
          rw [hmarks]
          exact EqualTogether.refl _ _
        | _ => cases h
      | json k =>
        cases v with
        | json j =>
          have hdocuments : EqualTogether [j] [k] j.zeroSigns k.zeroSigns :=
            Json.equalTogether_zeroSigns h
          have htext : j.text = k.text ↔ j = k := by
            constructor
            · intro heq
              exact Json.text_injective heq
            · intro heq
              rw [heq]
          refine ⟨rfl, hdocuments.length', ?_⟩
          show _ ↔ j.zeroSigns = k.zeroSigns
          rw [← hdocuments.iff]
          simp [fingerprint, htext]
        | _ => cases h
      | list | record =>
        cases v with
        | list | record => cases hleaf
        | _ => cases h
      | _ => cases hplain
  | list as ih =>
    cases w with
    | list bs =>
      have hitems := sameItems_iff.1 h
      rw [fingerprint, fingerprint, zeroSigns, zeroSigns, fingerprintItems_eq_flatMap,
        fingerprintItems_eq_flatMap, zeroSignsItems_eq_flatMap, zeroSignsItems_eq_flatMap,
        hitems.length_eq]
      refine EqualTogether.append_left (EqualTogether.flatMap (forall₂_imp_of_mem hitems ?_)) _
      intro a ha b _ hab
      exact ih a ha hab
    | _ => cases h
  | record as ih =>
    cases w with
    | record bs =>
      have hfields := sameFields_iff.1 h
      rw [fingerprint, fingerprint, zeroSigns, zeroSigns, fingerprintFields_eq_flatMap,
        fingerprintFields_eq_flatMap, zeroSignsFields_eq_flatMap, zeroSignsFields_eq_flatMap,
        hfields.length_eq]
      refine EqualTogether.append_left (EqualTogether.flatMap (forall₂_imp_of_mem hfields ?_)) _
      rintro ⟨name, a⟩ ha ⟨name', b⟩ _ ⟨hname, hab⟩
      obtain rfl : name = name' := hname
      exact (ih _ ha hab).append_left _
    | _ => cases h

mutual

/-- Whether each floating-point value in the value is a number. -/
def isNanFree : Value → Bool
  | .float x => decide (x ≠ Float.nan)
  | .list items => isNanFreeItems items
  | .record fields => isNanFreeFields fields
  | _ => true

/-- Whether that is so of all items. -/
def isNanFreeItems : List Value → Bool
  | [] => true
  | v :: rest => v.isNanFree && isNanFreeItems rest

/-- Whether that is so of the contents of all fields. -/
def isNanFreeFields : List (String × Value) → Bool
  | [] => true
  | (_, v) :: rest => v.isNanFree && isNanFreeFields rest

end

theorem isNanFreeItems_iff {items : List Value} :
    isNanFreeItems items = true ↔ ∀ v ∈ items, v.isNanFree = true := by
  induction items with
  | nil => exact ⟨fun _ => nofun, fun _ => rfl⟩
  | cons v rest ih => rw [isNanFreeItems, Bool.and_eq_true, ih, List.forall_mem_cons]

theorem isNanFreeFields_iff {fields : List (String × Value)} :
    isNanFreeFields fields = true ↔ ∀ f ∈ fields, f.2.isNanFree = true := by
  induction fields with
  | nil => exact ⟨fun _ => nofun, fun _ => rfl⟩
  | cons f rest ih => rw [isNanFreeFields, Bool.and_eq_true, ih, List.forall_mem_cons]

/-- A value is the same as itself if each floating-point value in it is a number, and only then. -/
theorem same_self_iff (v : Value) : v.same v = true ↔ v.isNanFree = true := by
  induction v using Value.induct with
  | leaf v hleaf =>
    cases v with
    | list | record => cases hleaf
    | float x => exact Float.beq_self_iff.trans decide_eq_true_iff.symm
    | _ => exact iff_of_true (same_self rfl) rfl
  | list items ih =>
    show sameItems items items = true ↔ isNanFreeItems items = true
    rw [sameItems_iff, List.forall₂_same, isNanFreeItems_iff]
    exact forall₂_congr ih
  | record fields ih =>
    show sameFields fields fields = true ↔ isNanFreeFields fields = true
    rw [sameFields_iff, List.forall₂_same, isNanFreeFields_iff]
    simp only [true_and]
    exact forall₂_congr ih

/-- Sameness goes both ways. -/
theorem same_symm {v w : Value} (h : v.same w = true) : w.same v = true := by
  induction w using Value.induct generalizing v with
  | leaf w hleaf =>
    cases hplain : w.isPlain with
    | true =>
      obtain rfl := (same_iff_eq hplain).1 h
      exact h
    | false =>
      cases w with
      | list | record => cases hleaf
      | float b =>
        cases v with
        | float a =>
          obtain ⟨-, hb, -⟩ := Float.beq_iff_ne_nan_and_eq.1 h
          exact Json.float_beq_of_beq (Float.beq_self_iff.2 hb) h
        | _ => cases h
      | decimal b =>
        cases v with
        | decimal a => exact sameNumber_iff.2 (sameNumber_iff.1 h).symm
        | _ => cases h
      | json b =>
        cases v with
        | json a => exact Json.same_of_same b.same_self h
        | _ => cases h
      | _ => cases hplain
  | list bs ih =>
    cases v with
    | list as =>
      refine sameItems_iff.2 (List.Forall₂.flip (forall₂_imp_of_mem (sameItems_iff.1 h) ?_))
      intro a _ b hb hab
      exact ih b hb hab
    | _ => cases h
  | record bs ih =>
    cases v with
    | record as =>
      refine sameFields_iff.2 (List.Forall₂.flip (forall₂_imp_of_mem (sameFields_iff.1 h) ?_))
      rintro a _ b hb ⟨hname, hab⟩
      exact ⟨hname.symm, ih b hb hab⟩
    | _ => cases h

/-- What sameness and hashes have to do with each other.  A value is the same as itself exactly if
each floating-point value in it is a number; for the rest sameness is an equivalence.  The
fingerprints of values that are the same agree exactly if their zeros have the same signs. -/
theorem hashContract (u v w : Value) :
    (v.same v = true ↔ v.isNanFree = true) ∧
    (v.same w = true → w.same v = true) ∧
    (u.same v = true → v.same w = true → u.same w = true) ∧
    (v.same w = true → (v.fingerprint = w.fingerprint ↔ v.zeroSigns = w.zeroSigns)) := by
  refine ⟨same_self_iff v, same_symm, ?_, ?_⟩
  · intro huv hvw
    exact same_of_same huv (same_symm hvw)
  · intro h
    exact (equalTogether_fingerprint h).iff

end Value

namespace Sample

/-- A price with places, next to no discount. -/
def price : Value := .record [("discount", .float 0), ("price", .decimal ⟨150, 2⟩)]

/-- The price with fewer places. -/
def shortPrice : Value := .record [("discount", .float 0), ("price", .decimal ⟨15, 1⟩)]

/-- The price next to a discount of minus zero. -/
def oddPrice : Value := .record [("discount", .float (-0)), ("price", .decimal ⟨15, 1⟩)]

end Sample

open Sample in
/-- The three prices are the same; the third has another fingerprint. -/
theorem Value.hashContract_prices :
    price.same price = true ∧ shortPrice.same price = true ∧ price.same oddPrice = true ∧
      price.fingerprint = shortPrice.fingerprint ∧ price.fingerprint ≠ oddPrice.fingerprint := by
  have hshort : price.same shortPrice = true := by decide
  have hodd : shortPrice.same oddPrice = true := by decide
  obtain ⟨hself, hsymm, -, hagree⟩ := hashContract price price shortPrice
  obtain ⟨-, -, htrans, -⟩ := hashContract price shortPrice oddPrice
  obtain ⟨-, -, -, hdiffer⟩ := hashContract price price oddPrice
  have hlast := htrans hshort hodd
  exact ⟨hself.2 (by decide), hsymm hshort, hlast, (hagree hshort).2 (by decide),
    mt (hdiffer hlast).1 (by decide)⟩

/-- A value that is not a number is not the same as itself, and the two zeros are the same with
different fingerprints, as values and in documents. -/
theorem Value.not_hashContract_zeros :
    (Value.float Float.nan).same (.float Float.nan) = false ∧
      (Value.float 0).same (.float (-0)) = true ∧
      (Value.float 0).fingerprint ≠ (Value.float (-0)).fingerprint ∧
      (Value.json (Json.ofFloat 0)).same (.json (Json.ofFloat (-0))) = true ∧
      (Value.json (Json.ofFloat 0)).fingerprint ≠
        (Value.json (Json.ofFloat (-0))).fingerprint := by
  refine ⟨by decide, by decide, by decide, by decide, ?_⟩
  intro h
  have hzeros := (equalTogether_fingerprint (v := .json (Json.ofFloat 0))
    (w := .json (Json.ofFloat (-0))) (by decide)).iff.1 h
  exact absurd hzeros (by decide)

end TypedQuery
