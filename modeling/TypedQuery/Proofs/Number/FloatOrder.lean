import Mathlib
import TypedQuery.Proofs.Value.Order

/-!
# The order of floating-point numbers

A number has a rank: its sign, with the infinities outside, then its exponent and then its mantissa,
both turned round below zero.  Two numbers are compared by their ranks (`compareFloat_eq`), and ranks
are compared by a lawful order, so the order of numbers that are equal to one is that of the one:
`compareFloat_of_eq_right`.  The undefined number has no rank and no order.
-/

namespace TypedQuery.Number

open Float.Model

/-! ## Ranks -/

/-- The place of a number among all others, by its parts. -/
structure FloatRank where
  sign : Int
  exponent : Int
  mantissa : Int

namespace FloatRank

/-- The order of ranks: by the first part in which they differ. -/
def cmp : FloatRank → FloatRank → Ordering :=
  compareLex (compareOn sign) (compareLex (compareOn exponent) (compareOn mantissa))

instance : Std.TransCmp cmp :=
  inferInstanceAs (Std.TransCmp
    (compareLex (compareOn sign) (compareLex (compareOn exponent) (compareOn mantissa))))

end FloatRank

/-- The rank of a number that is taken apart. -/
def unpackedRank? : UnpackedFloat → Option FloatRank
  | .notANumber => none
  | .infinity .positive => some ⟨2, 0, 0⟩
  | .infinity .negative => some ⟨-2, 0, 0⟩
  | .zero _ => some ⟨0, 0, 0⟩
  | .finite .positive m e _ => some ⟨1, e, m⟩
  | .finite .negative m e _ => some ⟨-1, -e, -m⟩

/-- The rank of a number; the undefined number has none. -/
def floatRank? (x : Float) : Option FloatRank := unpackedRank? x.toModel.unpack

/-- The order of two ranks, where there are two. -/
def cmpRank? (a b : Option FloatRank) : Option Ordering :=
  a.bind fun a => b.map fun b => a.cmp b

/-- A change of sign turns the order round. -/
theorem compare_neg_neg {α : Type} [AddCommGroup α] [LinearOrder α] [IsOrderedAddMonoid α]
    (a b : α) : compare (-a) (-b) = (compare a b).swap := by
  have hneg : StrictAnti fun c : α => -c := fun _ _ h => neg_lt_neg h
  rw [← cmp_eq_compare, ← cmp_eq_compare, cmp_swap]
  exact hneg.cmp_map_eq a b

theorem compare_unpacked (u v : UnpackedFloat) :
    u.compare v = cmpRank? (unpackedRank? u) (unpackedRank? v) := by
  have hswap (e e' : Int) (m m' : Nat) :
      ((compare e e').then (compare m m')).swap =
        (compare (-e) (-e')).then (compare (-(m : Int)) (-(m' : Int))) := by
    rw [compare_neg_neg, compare_neg_neg, compare_natCast, Ordering.swap_then]
  have hkeep (e e' : Int) (m m' : Nat) :
      (compare e e').then (compare m m') =
        (compare e e').then (compare (m : Int) (m' : Int)) := by
    rw [compare_natCast]
  cases u with
  | notANumber => rfl
  | infinity s =>
    cases s <;> cases v with
    | notANumber | zero => rfl
    | infinity t | finite t => cases t <;> rfl
  | zero s =>
    cases v with
    | notANumber | zero => rfl
    | infinity t | finite t => cases t <;> rfl
  | finite s m e hm =>
    cases v with
    | notANumber | zero => cases s <;> rfl
    | infinity t => cases s <;> cases t <;> rfl
    | finite t m' e' hm' =>
      cases s with
      | positive =>
        cases t with
        | positive => exact congrArg some (hkeep e e' m m')
        | negative => rfl
      | negative =>
        cases t with
        | positive => rfl
        | negative => exact congrArg some (hswap e e' m m')

/-! ## The order -/

section Order

variable {x y z : Float}

theorem lt_iff_cmpRank? : x < y ↔ cmpRank? (floatRank? x) (floatRank? y) = some .lt := by
  rw [floatRank?, floatRank?, ← compare_unpacked]
  exact decide_eq_true_iff.trans (beq_iff_eq (α := Option Ordering))

theorem beq_iff_cmpRank? :
    (x == y) = true ↔ cmpRank? (floatRank? x) (floatRank? y) = some .eq := by
  rw [floatRank?, floatRank?, ← compare_unpacked]
  exact beq_iff_eq (α := Option Ordering)

theorem cmpRank?_eq_some_iff {a b : Option FloatRank} {o : Ordering} :
    cmpRank? a b = some o ↔ ∃ x y, a = some x ∧ b = some y ∧ x.cmp y = o := by
  simp only [cmpRank?, Option.bind_eq_some_iff, Option.map_eq_some_iff]
  grind

theorem cmpRank?_swap (a b : Option FloatRank) :
    cmpRank? b a = (cmpRank? a b).map Ordering.swap := by
  cases a with
  | none => cases b <;> rfl
  | some a =>
    cases b with
    | none => rfl
    | some b => exact congrArg some Std.OrientedCmp.eq_swap

/-- Numbers are compared by their ranks. -/
theorem compareFloat_eq (x y : Float) :
    compareFloat x y = cmpRank? (floatRank? x) (floatRank? y) := by
  rw [compareFloat]
  simp only [lt_iff_cmpRank?, beq_iff_cmpRank?, cmpRank?_swap (floatRank? x) (floatRank? y)]
  cases cmpRank? (floatRank? x) (floatRank? y) with
  | none => rfl
  | some o => cases o <;> rfl

theorem compareFloat_swap (x y : Float) :
    compareFloat y x = (compareFloat x y).map Ordering.swap := by
  rw [compareFloat_eq, compareFloat_eq, cmpRank?_swap]

theorem exists_floatRank? (hx : x ≠ Float.nan) : ∃ a, floatRank? x = some a := by
  have hself := beq_iff_cmpRank?.1 (Float.beq_self_iff.2 hx)
  obtain ⟨a, -, ha, -⟩ := cmpRank?_eq_some_iff.1 hself
  exact ⟨a, ha⟩

theorem compareFloat_self (hx : x ≠ Float.nan) : compareFloat x x = some .eq := by
  rw [compareFloat_eq]
  exact beq_iff_cmpRank?.1 (Float.beq_self_iff.2 hx)

/-- A number has the same order with numbers that are equal. -/
theorem compareFloat_of_eq_right {o : Ordering} (hxy : compareFloat x y = some o)
    (hyz : compareFloat y z = some .eq) : compareFloat x z = some o := by
  rw [compareFloat_eq, cmpRank?_eq_some_iff] at *
  obtain ⟨a, b, hx, hy, hab⟩ := hxy
  obtain ⟨b', c, hy', hz, hbc⟩ := hyz
  obtain rfl : b = b' := Option.some.inj (hy.symm.trans hy')
  exact ⟨a, c, hx, hz, (Std.TransCmp.congr_right hbc).symm.trans hab⟩

end Order

end TypedQuery.Number
