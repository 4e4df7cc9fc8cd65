import TypedQuery.Proofs.Number.DecimalFloat
import TypedQuery.Proofs.Value.Equality

/-!
# Exact numbers beside floating-point numbers

Integers and decimals are compared exactly with each other, and with a floating-point number by what
they are rounded to.  Among the exact ones, and among those that are rounded, what is equal to a
number has the same order with everything else (`Value.CarriesOver`).  For all together this is so
where rounding keeps the order of the exact ones (`Value.KeepsOrder`), and if it does not keep the
order of two of them, what one of the two is rounded to shows it
(`Value.keepsOrder_iff_carriesOver`).

For two integers the order is kept unless they are rounded to one number
(`Value.keepsOrder_iff_of_integer?`), as are the least integer of fifty-four digits and the next one.
-/

namespace TypedQuery

open Number

namespace Value

/-! ## Numbers -/

/-- Whether the value is an integer or a decimal. -/
def isExact : Value → Bool
  | .int _ | .uint _ | .decimal _ => true
  | _ => false

/-- Whether the value is a number: an exact one, or a floating-point number that is not undefined. -/
def isNumber : Value → Bool
  | .float x => decide (x ≠ Float.nan)
  | v => v.isExact

/-- The floating-point number that stands for a number beside others. -/
def rounded (v : Value) : Float := v.asFloat?.getD Float.nan

/-- The integer of a value of one of the two integer kinds. -/
def integer? : Value → Option Int
  | .int n => some n.toInt
  | .uint n => some n.toNat
  | _ => none

/-- Whether the value is an integer of at most fifty-three digits, or the least one of fifty-four, or
a floating-point number that is not undefined. -/
def isShort : Value → Bool
  | .int n => decide (n.toInt.natAbs ≤ 2 ^ 53)
  | .uint n => decide (n.toNat ≤ 2 ^ 53)
  | .float x => decide (x ≠ Float.nan)
  | _ => false

/-- Two values have the order of the floating-point numbers that stand for them. -/
def KeepsOrder (v w : Value) : Prop := v.cmp? w = compareFloat v.rounded w.rounded

/-- What is equal or less than the second value is so beside the third one, if the two are equal. -/
structure CarriesOver (u v w : Value) : Prop where
  equal : u.equal v = true → v.equal w = true → u.equal w = true
  less : u.cmp? v = some .lt → v.equal w = true → u.cmp? w = some .lt

section Numbers

variable {u v w : Value}

theorem isNumber_of_isExact (hv : v.isExact = true) : v.isNumber = true := by
  cases v with
  | int | uint | decimal => rfl
  | _ => cases hv

theorem isFloat_of_isExact (hv : v.isExact = true) : v.isFloat = false := by
  cases v with
  | int | uint | decimal => rfl
  | _ => cases hv

theorem isNumber_of_isShort (hv : v.isShort = true) : v.isNumber = true := by
  cases v with
  | int | uint => rfl
  | float => exact hv
  | _ => cases hv

/-- Numbers are equal by the order. -/
theorem equal_iff_cmp? (hv : v.isNumber = true) : v.equal w = true ↔ v.cmp? w = some .eq := by
  have hpaired : v.arePaired w = false := by
    cases v with
    | int | uint | decimal | float => rfl
    | _ => cases hv
  rw [equal_eq_cmp?_of_not_arePaired hpaired, beq_iff_eq]

theorem exists_cmp?_of_isExact (hv : v.isExact = true) (hw : w.isExact = true) :
    ∃ o, v.cmp? w = some o := by
  cases v with
  | int | uint | decimal =>
    cases w with
    | int | uint | decimal => exact ⟨_, rfl⟩
    | _ => cases hw
  | _ => cases hv

theorem log2_natAbs_lt {n : Int} (hn : n.natAbs < 2 ^ 64) : n.natAbs.log2 < 1022 := by
  by_cases hzero : n.natAbs = 0
  · rw [hzero]
    decide
  · have hlog := (Nat.log2_lt hzero).2 hn
    omega

theorem natAbs_lt_of_integer? {n : Int} (hv : v.integer? = some n) : n.natAbs < 2 ^ 64 := by
  cases v with
  | int i =>
    obtain rfl := Option.some.inj hv
    have hle := i.le_toInt
    have hlt := i.toInt_lt
    omega
  | uint i =>
    obtain rfl := Option.some.inj hv
    have hlt := i.toNat_lt
    omega
  | _ => cases hv

theorem rounded_of_integer? {n : Int} (hv : v.integer? = some n) : v.rounded = Float.ofInt n := by
  cases v with
  | int | uint =>
    obtain rfl := Option.some.inj hv
    rfl
  | _ => cases hv

/-- Something that is a number stands for every number. -/
theorem rounded_ne_nan (hv : v.isNumber = true) : v.rounded ≠ Float.nan := by
  have hinteger {n : Int} (hn : v.integer? = some n) : v.rounded ≠ Float.nan := by
    rw [rounded_of_integer? hn]
    exact ofInt_ne_nan (log2_natAbs_lt (natAbs_lt_of_integer? hn))
  cases v with
  | int | uint => exact hinteger rfl
  | decimal d => exact d.toFloat_ne_nan
  | float x => exact of_decide_eq_true hv
  | _ => cases hv

/-! ## Rounding that keeps the order -/

/-- A floating-point number is compared with what stands for the other number. -/
theorem keepsOrder_float_left (x : Float) (hw : w.isNumber = true) :
    (Value.float x).KeepsOrder w := by
  cases w with
  | int | uint | decimal | float => rfl
  | _ => cases hw

theorem keepsOrder_float_right (x : Float) (hv : v.isNumber = true) :
    v.KeepsOrder (.float x) := by
  cases v with
  | int | uint | decimal | float => rfl
  | _ => cases hv

/-- Where rounding keeps the order of three numbers, equality carries over as it does among
floating-point numbers. -/
theorem carriesOver_of_keepsOrder (hu : u.isNumber = true) (hv : v.isNumber = true)
    (huv : u.KeepsOrder v) (hvw : v.KeepsOrder w) (huw : u.KeepsOrder w) : CarriesOver u v w := by
  unfold KeepsOrder at huv hvw huw
  constructor
  · rw [equal_iff_cmp? hu, equal_iff_cmp? hv, equal_iff_cmp? hu, huv, hvw, huw]
    intro hfirst hsecond
    exact compareFloat_of_eq_right hfirst hsecond
  · rw [equal_iff_cmp? hv, huv, hvw, huw]
    intro hfirst hsecond
    exact compareFloat_of_eq_right hfirst hsecond

/-- Among exact numbers equality carries over. -/
theorem carriesOver_of_isExact (hu : u.isExact = true) (hv : v.isExact = true)
    (hw : w.isExact = true) : CarriesOver u v w := by
  have hchain {o : Ordering} (ho : o.isLE = true) (huv : u.cmp? v = some o)
      (hvw : v.cmp? w = some .eq) : u.cmp? w = some o := by
    obtain ⟨q, hq, -, hrise⟩ := cmp?_trans (isFloat_of_isExact hu) (isFloat_of_isExact hv)
      (isFloat_of_isExact hw) huv hvw ho rfl
    cases o with
    | lt => rw [hq, hrise (Or.inl rfl)]
    | eq =>
      have hwv : w.cmp? v = some .eq := by
        rw [cmp?_swap (isFloat_of_isExact hv) (isFloat_of_isExact hw), hvw]
        rfl
      exact cmp?_eq_eq_of_cmp? (isFloat_of_isExact hu) (isFloat_of_isExact hw)
        (isFloat_of_isExact hv) huv hwv
    | gt => cases ho
  have hunumber := isNumber_of_isExact hu
  have hvnumber := isNumber_of_isExact hv
  constructor
  · rw [equal_iff_cmp? hunumber, equal_iff_cmp? hvnumber, equal_iff_cmp? hunumber]
    exact hchain rfl
  · rw [equal_iff_cmp? hvnumber]
    exact hchain rfl

/-- A number that is not exact has the order of what stands for the other one. -/
theorem keepsOrder_of_not_isExact (hv : v.isNumber = true) (hw : w.isNumber = true)
    (h : v.isExact = false ∨ w.isExact = false) : v.KeepsOrder w := by
  cases v with
  | float x => exact keepsOrder_float_left x hw
  | int | uint | decimal =>
    cases w with
    | float x => exact keepsOrder_float_right x hv
    | int | uint | decimal => rcases h with h | h <;> cases h
    | _ => cases hw
  | _ => cases hv

theorem keepsOrder_symm (hv : v.isExact = true) (hw : w.isExact = true) (h : v.KeepsOrder w) :
    w.KeepsOrder v := by
  unfold KeepsOrder at *
  rw [cmp?_swap (isFloat_of_isExact hv) (isFloat_of_isExact hw), h,
    ← compareFloat_swap v.rounded w.rounded]

/-- Rounding keeps the order of two exact numbers exactly if equality carries over from each of them
through the other one to what this is rounded to. -/
theorem keepsOrder_iff_carriesOver (hv : v.isExact = true) (hw : w.isExact = true) :
    v.KeepsOrder w ↔
      CarriesOver v w (.float w.rounded) ∧ CarriesOver w v (.float v.rounded) := by
  have hvnumber := isNumber_of_isExact hv
  have hwnumber := isNumber_of_isExact hw
  have hbeside {u u' : Value} (hu : u.isNumber = true) :
      u.cmp? (.float u'.rounded) = compareFloat u.rounded u'.rounded :=
    keepsOrder_float_right _ hu
  have hself {u : Value} (hu : u.isNumber = true) : u.equal (.float u.rounded) = true := by
    rw [equal_iff_cmp? hu, hbeside hu]
    exact compareFloat_self (rounded_ne_nan hu)
  constructor
  · intro h
    constructor
    · exact carriesOver_of_keepsOrder hvnumber hwnumber h
        (keepsOrder_float_right _ hwnumber) (keepsOrder_float_right _ hvnumber)
    · exact carriesOver_of_keepsOrder hwnumber hvnumber (keepsOrder_symm hv hw h)
        (keepsOrder_float_right _ hvnumber) (keepsOrder_float_right _ hwnumber)
  · rintro ⟨hvw, hwv⟩
    obtain ⟨o, ho⟩ := exists_cmp?_of_isExact hv hw
    unfold KeepsOrder
    rw [ho]
    cases o with
    | eq =>
      have hequal := hvw.equal ((equal_iff_cmp? hvnumber).2 ho) (hself hwnumber)
      rw [equal_iff_cmp? hvnumber, hbeside hvnumber] at hequal
      exact hequal.symm
    | lt =>
      have hless := hvw.less ho (hself hwnumber)
      rw [hbeside hvnumber] at hless
      exact hless.symm
    | gt =>
      have hturned : w.cmp? v = some .lt := by
        rw [cmp?_swap (isFloat_of_isExact hv) (isFloat_of_isExact hw), ho]
        rfl
      have hless := hwv.less hturned (hself hvnumber)
      rw [hbeside hwnumber] at hless
      rw [compareFloat_swap w.rounded, hless]
      rfl

/-! ## Integers -/

theorem cmp?_of_integer? {m n : Int} (hv : v.integer? = some m) (hw : w.integer? = some n) :
    v.cmp? w = some (compare m n) := by
  cases v with
  | int | uint =>
    cases w with
    | int | uint =>
      obtain rfl := Option.some.inj hv
      obtain rfl := Option.some.inj hw
      rfl
    | _ => cases hw
  | _ => cases hv

theorem compareFloat_rounded_of_integer? {m n : Int} (hv : v.integer? = some m)
    (hw : w.integer? = some n) :
    compareFloat v.rounded w.rounded = some (compare (roundInt m) (roundInt n)) := by
  rw [rounded_of_integer? hv, rounded_of_integer? hw]
  exact compareFloat_ofInt (log2_natAbs_lt (natAbs_lt_of_integer? hv))
    (log2_natAbs_lt (natAbs_lt_of_integer? hw))

/-- Rounding keeps the order of two integers unless it makes them equal. -/
theorem keepsOrder_iff_of_integer? {m n : Int} (hv : v.integer? = some m)
    (hw : w.integer? = some n) : v.KeepsOrder w ↔ (roundInt m = roundInt n → m = n) := by
  rw [KeepsOrder, cmp?_of_integer? hv hw, compareFloat_rounded_of_integer? hv hw,
    Option.some.injEq]
  rcases Int.lt_trichotomy m n with h | rfl | h
  · have hle := roundInt_mono (Int.le_of_lt h)
    rw [Int.compare_eq_lt.2 h, eq_comm, Int.compare_eq_lt]
    omega
  · simp
  · have hle := roundInt_mono (Int.le_of_lt h)
    rw [Std.compare_eq_gt.2 h, eq_comm, Std.compare_eq_gt]
    omega

/-- Integers are rounded to equal numbers exactly if they are rounded to one integer. -/
theorem rounded_beq_iff {m n : Int} (hv : v.integer? = some m) (hw : w.integer? = some n) :
    (v.rounded == w.rounded) = true ↔ roundInt m = roundInt n := by
  rw [beq_iff_cmpRank?, ← compareFloat_eq, compareFloat_rounded_of_integer? hv hw,
    Option.some.injEq, Std.compare_eq_iff_eq]

/-- Rounding keeps the order of short integers. -/
theorem keepsOrder_of_isShort (hv : v.isShort = true) (hw : w.isShort = true) :
    v.KeepsOrder w := by
  have hvnumber := isNumber_of_isShort hv
  have hwnumber := isNumber_of_isShort hw
  have hinteger {u : Value} (hu : u.isShort = true) :
      (∃ x, u = .float x) ∨ ∃ n, u.integer? = some n ∧ n.natAbs ≤ 2 ^ 53 := by
    cases u with
    | int n => exact Or.inr ⟨_, rfl, of_decide_eq_true hu⟩
    | uint n => exact Or.inr ⟨_, rfl, of_decide_eq_true hu⟩
    | float x => exact Or.inl ⟨x, rfl⟩
    | _ => cases hu
  rcases hinteger hv with ⟨x, rfl⟩ | ⟨m, hm, hmle⟩
  · exact keepsOrder_float_left x hwnumber
  · rcases hinteger hw with ⟨x, rfl⟩ | ⟨n, hn, hnle⟩
    · exact keepsOrder_float_right x hvnumber
    · rw [keepsOrder_iff_of_integer? hm hn, roundInt_of_le hmle, roundInt_of_le hnle]
      exact id

end Numbers

/-! ## All numbers -/

/-- Equality carries over among exact numbers.  Among all numbers it does so where rounding keeps
the order, which can only fail for two exact ones, and then equality does not carry over to what one
of them is rounded to.  For two integers it fails exactly if they are different and rounded to equal
numbers, so it does not for those of up to fifty-three digits. -/
theorem mixedOrder (u v w : Value) (hu : u.isNumber = true) (hv : v.isNumber = true)
    (hw : w.isNumber = true) :
    (u.isExact = true → v.isExact = true → w.isExact = true → CarriesOver u v w) ∧
    (u.KeepsOrder v → v.KeepsOrder w → u.KeepsOrder w → CarriesOver u v w) ∧
    (v.isExact = false ∨ w.isExact = false → v.KeepsOrder w) ∧
    (v.isExact = true → w.isExact = true → (v.KeepsOrder w ↔
      CarriesOver v w (.float w.rounded) ∧ CarriesOver w v (.float v.rounded))) ∧
    (∀ m n, v.integer? = some m → w.integer? = some n →
      (v.KeepsOrder w ↔ ((v.rounded == w.rounded) = true → m = n))) ∧
    (u.isShort = true → v.isShort = true → w.isShort = true → CarriesOver u v w) := by
  refine ⟨carriesOver_of_isExact, carriesOver_of_keepsOrder hu hv,
    keepsOrder_of_not_isExact hv hw, keepsOrder_iff_carriesOver, ?_, ?_⟩
  · intro m n hm hn
    rw [keepsOrder_iff_of_integer? hm hn, rounded_beq_iff hm hn]
  · intro hushort hvshort hwshort
    exact carriesOver_of_keepsOrder hu hv (keepsOrder_of_isShort hushort hvshort)
      (keepsOrder_of_isShort hvshort hwshort) (keepsOrder_of_isShort hushort hwshort)

/-- Three is carried over between the kinds of numbers, and the order of a decimal between the
integers around it; the last two integers that are not rounded keep their order, and so does the
next one after them beside a floating-point number. -/
theorem mixedOrder_three :
    CarriesOver (.int 3) (.float 3) (.uint 3) ∧
      CarriesOver (.int 2) (.decimal ⟨30, 1⟩) (.uint 3) ∧
      (Value.int (2 ^ 53 - 1)).KeepsOrder (.uint (2 ^ 53)) ∧
      CarriesOver (.int (2 ^ 53 - 1)) (.uint (2 ^ 53)) (.float (Value.uint (2 ^ 53)).rounded) ∧
      (Value.int (2 ^ 53 + 1)).KeepsOrder (.float 3) ∧
      CarriesOver (.float 3) (.int (2 ^ 53 + 1)) (.float 3) := by
  obtain ⟨-, -, -, -, -, hshort⟩ :=
    mixedOrder (.int 3) (.float 3) (.uint 3) (by decide) (by decide) (by decide)
  obtain ⟨hexact, -⟩ :=
    mixedOrder (.int 2) (.decimal ⟨30, 1⟩) (.uint 3) (by decide) (by decide) (by decide)
  obtain ⟨-, -, -, hmarks, hinteger, -⟩ :=
    mixedOrder (.int 3) (.int (2 ^ 53 - 1)) (.uint (2 ^ 53)) (by decide) (by decide) (by decide)
  obtain ⟨-, hkept, hfloat, -⟩ :=
    mixedOrder (.float 3) (.int (2 ^ 53 + 1)) (.float 3) (by decide) (by decide) (by decide)
  have hlast := (hinteger _ _ rfl rfl).2 (by decide +kernel)
  have hnext := hfloat (Or.inr rfl)
  exact ⟨hshort (by decide) (by decide) (by decide), hexact (by decide) (by decide) (by decide),
    hlast, ((hmarks (by decide) (by decide)).1 hlast).1, hnext, hkept rfl hnext rfl⟩

/-- The first integer that is rounded is equal to the floating-point number that its predecessor is
equal to, and greater than the predecessor, so neither equality nor the order carries over. -/
theorem not_mixedOrder_firstRounded :
    (Value.int (2 ^ 53)).equal (.float 9007199254740992) = true ∧
      (Value.float 9007199254740992).equal (.int (2 ^ 53 + 1)) = true ∧
      (Value.int (2 ^ 53)).equal (.int (2 ^ 53 + 1)) = false ∧
      (Value.int (2 ^ 53)).cmp? (.int (2 ^ 53 + 1)) = some .lt ∧
      (Value.int (2 ^ 53 + 1)).equal (.float 9007199254740992) = true ∧
      (Value.int (2 ^ 53)).cmp? (.float 9007199254740992) = some .eq := by
  decide +kernel

end Value

end TypedQuery
