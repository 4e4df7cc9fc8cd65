import Mathlib.Algebra.Order.Field.Power
import Mathlib.Algebra.Order.Field.Rat
import Mathlib.Algebra.Order.Ring.Cast
import TypedQuery.Value.Order

/-!
# The order of values

What the order looks at in a value is its rank (`Value.rank`).  Numbers of all kinds are ranked as
rational numbers, texts and names of enumerations as texts, dates as their first moments.  Leaving
out floating-point numbers, the order of two values is that of their ranks
(`Value.cmp?_eq_rank`), and ranks of one kind are compared by a lawful order.  So values that have an
order can be put in a row: `Value.cmp?_swap` and `Value.AtMost.trans`.

Floating-point numbers stay out of it.  One that is not a number has no order with itself, and a
great integer beside one is rounded before the two are compared.
-/

namespace TypedQuery

/-! ## Numbers -/

/-- What rises strictly keeps the order. -/
theorem compare_of_strictMono {α β : Type} [LinearOrder α] [LinearOrder β] {f : α → β}
    (hf : StrictMono f) (a b : α) : compare (f a) (f b) = compare a b := by
  rw [← cmp_eq_compare, ← cmp_eq_compare, hf.cmp_map_eq]

theorem compare_intCast (a b : Int) : compare (a : ℚ) b = compare a b :=
  compare_of_strictMono Int.cast_strictMono a b

theorem compare_natCast {α : Type} [Semiring α] [LinearOrder α] [IsStrictOrderedRing α] (a b : Nat) :
    compare (a : α) b = compare a b :=
  compare_of_strictMono Nat.strictMono_cast a b

theorem compare_mul_of_pos {c : ℚ} (hc : 0 < c) (a b : ℚ) :
    compare (a * c) (b * c) = compare a b := by
  refine compare_of_strictMono (f := fun q => q * c) ?_ a b
  intro p q h
  exact mul_lt_mul_of_pos_right h hc

namespace Decimal

/-- The number that a decimal stands for. -/
def toRat (a : Decimal) : ℚ := a.digits * 10 ^ (-a.scale)

@[simp] theorem toRat_ofInt (n : Int) : (ofInt n).toRat = n := by
  simp [toRat, ofInt]

theorem cast_digitsBeside (a b : Decimal) :
    (a.digitsBeside b : ℚ) = a.toRat * 10 ^ max a.scale b.scale := by
  have hplaces : ((b.scale - a.scale).toNat : Int) = -a.scale + max a.scale b.scale := by omega
  have hcast : (a.digitsBeside b : ℚ) = a.digits * 10 ^ (b.scale - a.scale).toNat := by
    change ((a.digits * 10 ^ (b.scale - a.scale).toNat : Int) : ℚ) = _
    push_cast
    rfl
  rw [hcast, toRat, mul_assoc, ← zpow_add₀ (by norm_num), ← hplaces, zpow_natCast]

/-- Decimals are ordered as the numbers that they stand for. -/
theorem cmp_eq_compare_toRat (a b : Decimal) : a.cmp b = compare a.toRat b.toRat := by
  have hunit : (0 : ℚ) < 10 ^ max a.scale b.scale := zpow_pos (by norm_num) _
  calc a.cmp b = compare (a.digitsBeside b) (b.digitsBeside a) := cmp_eq_compare a b
    _ = compare (a.digitsBeside b : ℚ) (b.digitsBeside a) := (compare_intCast _ _).symm
    _ = compare a.toRat b.toRat := by
      rw [cast_digitsBeside, cast_digitsBeside, max_comm b.scale, compare_mul_of_pos hunit]

end Decimal

/-! ## Days and moments -/

instance : Std.TransCmp Date.cmp :=
  inferInstanceAs (Std.TransCmp (compareLex (compareOn Date.year)
    (compareLex (compareOn Date.month) (compareOn Date.day))))

namespace Timestamp

instance : Std.TransCmp fun a b : Timestamp => a.date.cmp b.date where
  eq_swap := (inferInstance : Std.TransCmp Date.cmp).eq_swap
  isLE_trans := (inferInstance : Std.TransCmp Date.cmp).isLE_trans

instance : Std.TransCmp cmp :=
  inferInstanceAs (Std.TransCmp (compareLex (fun a b : Timestamp => a.date.cmp b.date)
    (compareLex (compareOn second) (compareOn nanos))))

/-- Days are ordered as their first moments. -/
theorem cmp_ofDate (a b : Date) : (ofDate a).cmp (ofDate b) = a.cmp b := by
  change (a.cmp b).then .eq = a.cmp b
  cases a.cmp b <;> rfl

end Timestamp

/-! ## Ranks -/

/-- The kinds of values that have an order among themselves. -/
inductive RankKind where
  | number
  | text
  | truth
  | uuid
  | moment
  | document
deriving DecidableEq

namespace RankKind

/-- What the values of a kind are ordered by. -/
def Key : RankKind → Type
  | number => ℚ
  | text | document => String
  | truth => Bool
  | uuid => Uuid
  | moment => Timestamp

/-- The order of a kind. -/
def cmp : (k : RankKind) → k.Key → k.Key → Ordering
  | number => compare (α := ℚ)
  | text | document => Value.cmpText
  | truth => Value.cmpBool
  | uuid => Uuid.cmp
  | moment => Timestamp.cmp

instance : (k : RankKind) → Std.TransCmp k.cmp
  | number => inferInstanceAs (Std.TransOrd ℚ)
  | text | document => inferInstanceAs (Std.TransOrd String)
  | truth => inferInstanceAs (Std.TransCmp (compareOn Bool.toNat))
  | uuid => inferInstanceAs (Std.TransCmp (compareOn fun u : Uuid => u.bits.toNat))
  | moment => inferInstanceAs (Std.TransCmp Timestamp.cmp)

end RankKind

/-- The place of a value in the order. -/
inductive Rank where
  /-- In front of everything. -/
  | first
  /-- Among the values of a kind. -/
  | among (kind : RankKind) (key : kind.Key)
  /-- In no order but with what is in front of everything. -/
  | apart

namespace Rank

/-- The order of two ranks, where there is one. -/
def cmp? : Rank → Rank → Option Ordering
  | first, first => some .eq
  | first, _ => some .lt
  | _, first => some .gt
  | among k x, among l y => if h : l = k then some (k.cmp x (h ▸ y)) else none
  | _, _ => none

theorem cmp?_among (k : RankKind) (x y : k.Key) :
    cmp? (among k x) (among k y) = some (k.cmp x y) := dif_pos rfl

theorem cmp?_number (p q : ℚ) :
    cmp? (among .number p) (among .number q) = some (compare p q) := rfl

theorem cmp?_moment (t u : Timestamp) :
    cmp? (among .moment t) (among .moment u) = some (t.cmp u) := rfl

/-- What has an order with a rank among a kind, and is not in front of everything, is of that
kind. -/
theorem exists_eq_among_of_cmp? {k l : RankKind} {x : k.Key} {y : l.Key} {o : Ordering}
    (h : cmp? (among k x) (among l y) = some o) :
    ∃ z : k.Key, among l y = among k z ∧ k.cmp x z = o := by
  rw [cmp?] at h
  split at h
  · rename_i hkind
    subst hkind
    exact ⟨y, rfl, Option.some.inj h⟩
  · cases h

theorem cmp?_swap (a b : Rank) : b.cmp? a = (a.cmp? b).map Ordering.swap := by
  cases a with
  | first | apart => cases b <;> rfl
  | among k x =>
    cases b with
    | first | apart => rfl
    | among l y =>
      by_cases hkind : l = k
      · subst hkind
        rw [cmp?_among, cmp?_among, Option.map_some]
        exact congrArg some (inferInstance : Std.TransCmp l.cmp).eq_swap
      · rw [cmp?, cmp?, dif_neg hkind, dif_neg (Ne.symm hkind)]
        rfl

/-- Whether a rank has an order with another and does not come after it. -/
def AtMost (a b : Rank) : Prop := ∃ o, a.cmp? b = some o ∧ o.isLE = true

theorem AtMost.trans {a b c : Rank} (hab : a.AtMost b) (hbc : b.AtMost c) : a.AtMost c := by
  obtain ⟨o, hab, ho⟩ := hab
  obtain ⟨p, hbc, hp⟩ := hbc
  cases a with
  | first => cases c <;> exact ⟨_, rfl, rfl⟩
  | apart =>
    cases b <;> cases hab
    cases ho
  | among k x =>
    cases b with
    | apart => cases hab
    | first =>
      obtain rfl := Option.some.inj hab
      cases ho
    | among l y =>
      -- All three are of the kind of the first, whose order is transitive.
      obtain ⟨y, hy, rfl⟩ := exists_eq_among_of_cmp? hab
      rw [hy] at hbc
      cases c with
      | apart => cases hbc
      | first =>
        obtain rfl := Option.some.inj hbc
        cases hp
      | among m z =>
        obtain ⟨z, hz, rfl⟩ := exists_eq_among_of_cmp? hbc
        rw [hz]
        exact ⟨_, cmp?_among k x z, Std.TransCmp.isLE_trans ho hp⟩

end Rank

/-! ## The order of values -/

namespace Value

/-- The place of a value in the order. -/
def rank : Value → Rank
  | .null => .first
  | .int n => .among .number (n.toInt : ℚ)
  | .uint n => .among .number ((n.toNat : Int) : ℚ)
  | .decimal d => .among .number d.toRat
  | .string s | .enum _ s => .among .text s
  | .boolean b => .among .truth b
  | .uuid u => .among .uuid u
  | .date d => .among .moment (.ofDate d)
  | .timestamp t => .among .moment t
  | .json j => .among .document j.text
  | .float _ | .stringArray _ | .list _ | .record _ => .apart

/-- Whether the value is a floating-point number. -/
def isFloat : Value → Bool
  | .float _ => true
  | _ => false

/-- Whether a value has an order with another and does not come after it. -/
def AtMost (v w : Value) : Prop := ∃ o, v.cmp? w = some o ∧ o.isLE = true

section Ranked

variable {u v w : Value} (hu : u.isFloat = false) (hv : v.isFloat = false)
  (hw : w.isFloat = false)

include hv hw

/-- The order of values is that of their ranks. -/
theorem cmp?_eq_rank : v.cmp? w = v.rank.cmp? w.rank := by
  cases v with
  | float => cases hv
  | int | uint | decimal =>
    cases w with
    | float => cases hw
    | int | uint | decimal =>
      simp only [cmp?, cmpInt, rank, Rank.cmp?_number, compare_intCast,
        Decimal.cmp_eq_compare_toRat, Decimal.toRat_ofInt]
    | _ => rfl
  | date | timestamp =>
    cases w with
    | float => cases hw
    | date | timestamp => simp only [cmp?, rank, Rank.cmp?_moment, Timestamp.cmp_ofDate]
    | _ => rfl
  | _ =>
    cases w with
    | float => cases hw
    | _ => rfl

/-- The values exchanged, the order is the opposite. -/
theorem cmp?_swap : w.cmp? v = (v.cmp? w).map Ordering.swap := by
  rw [cmp?_eq_rank hw hv, cmp?_eq_rank hv hw, Rank.cmp?_swap]

theorem atMost_of_cmp?_eq_eq (h : v.cmp? w = some .eq) : v.AtMost w ∧ w.AtMost v := by
  have hswap := cmp?_swap hv hw
  rw [h] at hswap
  exact ⟨⟨.eq, h, rfl⟩, ⟨.eq, hswap, rfl⟩⟩

include hu

theorem AtMost.trans (huv : u.AtMost v) (hvw : v.AtMost w) : u.AtMost w := by
  unfold AtMost at *
  rw [cmp?_eq_rank hu hv] at huv
  rw [cmp?_eq_rank hv hw] at hvw
  rw [cmp?_eq_rank hu hw]
  exact Rank.AtMost.trans huv hvw

end Ranked

end Value

end TypedQuery
