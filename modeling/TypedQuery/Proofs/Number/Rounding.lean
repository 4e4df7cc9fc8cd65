import TypedQuery.Proofs.Number.FloatOrder
import TypedQuery.Proofs.Value.Order

/-!
# Integers rounded to floating-point numbers

A floating-point number keeps the leading fifty-three binary digits of an integer.  The digits after
them are dropped one by one, with two marks for what was dropped, and the marks decide whether the
rest is counted up: `roundedMantissa_shifted` says that this is `roundShift`, the quotient rounded to
the nearest integer and halfway to the even one.

So an integer is compared as the integer that it is rounded to: `compareFloat_ofInt`.  Rounding keeps
integers of up to fifty-three digits (`roundInt_of_le`) and never turns the order of two integers
round (`roundInt_mono`), but it may make them equal.
-/

namespace TypedQuery.Number

open Float.Model Float.Model.UnpackedFloat

/-! ## Rounding a quotient -/

/-- `m / 2 ^ k` rounded to the nearest integer, and halfway to the even one. -/
def roundShift (m k : Nat) : Nat :=
  if 2 * (m % 2 ^ k) < 2 ^ k then m / 2 ^ k
  else if 2 * (m % 2 ^ k) = 2 ^ k then m / 2 ^ k + m / 2 ^ k % 2
  else m / 2 ^ k + 1

theorem roundShift_zero (m : Nat) : roundShift m 0 = m := by
  simp [roundShift, Nat.mod_one]

theorem roundShift_bounds (m k : Nat) :
    m / 2 ^ k ≤ roundShift m k ∧ roundShift m k ≤ m / 2 ^ k + 1 := by
  unfold roundShift
  split
  · omega
  · split <;> omega

theorem roundShift_mono {m n : Nat} (k : Nat) (h : m ≤ n) : roundShift m k ≤ roundShift n k := by
  have hquotient : m / 2 ^ k ≤ n / 2 ^ k := Nat.div_le_div_right h
  by_cases hlt : m / 2 ^ k < n / 2 ^ k
  · have hm := (roundShift_bounds m k).2
    have hn := (roundShift_bounds n k).1
    omega
  · have hsame : m / 2 ^ k = n / 2 ^ k := by omega
    have hrest : m % 2 ^ k ≤ n % 2 ^ k := by
      have hdivm := Nat.div_add_mod m (2 ^ k)
      have hdivn := Nat.div_add_mod n (2 ^ k)
      rw [hsame] at hdivm
      omega
    unfold roundShift
    rw [hsame]
    split_ifs <;> omega

/-- Zeros at the end go without rounding. -/
theorem roundShift_mul_pow (m j k : Nat) : roundShift (m * 2 ^ j) (k + j) = roundShift m k := by
  have hpos : 0 < 2 ^ j := Nat.two_pow_pos j
  have hquotient : m * 2 ^ j / 2 ^ (k + j) = m / 2 ^ k := by
    rw [Nat.pow_add, Nat.mul_div_mul_right _ _ hpos]
  have hrest : m * 2 ^ j % 2 ^ (k + j) = m % 2 ^ k * 2 ^ j := by
    rw [Nat.pow_add, Nat.mul_mod_mul_right]
  have hlt : 2 * (m % 2 ^ k * 2 ^ j) < 2 ^ (k + j) ↔ 2 * (m % 2 ^ k) < 2 ^ k := by
    rw [Nat.pow_add, ← Nat.mul_assoc, Nat.mul_lt_mul_right hpos]
  have heq : 2 * (m % 2 ^ k * 2 ^ j) = 2 ^ (k + j) ↔ 2 * (m % 2 ^ k) = 2 ^ k := by
    rw [Nat.pow_add, ← Nat.mul_assoc, Nat.mul_left_inj (by omega)]
  simp only [roundShift, hquotient, hrest, hlt, heq]

/-! ## Dropping digits -/

/-- A mantissa without its last `k` digits, with the marks for them: whether the first of them is set,
and whether any other is. -/
def shifted (m k : Nat) : ExtendedMantissa :=
  ⟨m / 2 ^ k, decide (2 ^ k ≤ 2 * (m % 2 ^ k)), decide (2 * (m % 2 ^ k) % 2 ^ k ≠ 0)⟩

/-- One more digit is dropped. -/
theorem shiftRightOne_shifted (m k : Nat) : (shifted m k).shiftRightOne = shifted m (k + 1) := by
  have hpos : 0 < 2 ^ k := Nat.two_pow_pos k
  have hrest : m % 2 ^ k < 2 ^ k := Nat.mod_lt _ hpos
  have hmod : m % 2 ^ (k + 1) = m % 2 ^ k + 2 ^ k * (m / 2 ^ k % 2) := by
    rw [Nat.pow_succ, Nat.mod_mul]
  have hdouble : 2 ^ (k + 1) = 2 * 2 ^ k := by rw [Nat.pow_succ, Nat.mul_comm]
  have hsticky : 2 * (m % 2 ^ (k + 1)) % 2 ^ (k + 1) = 2 * (m % 2 ^ k) := by
    rw [hmod, Nat.mul_add, ← Nat.mul_assoc, ← hdouble, Nat.add_mul_mod_self_left,
      Nat.mod_eq_of_lt (by omega)]
  unfold shifted ExtendedMantissa.shiftRightOne
  refine congr (congr (congrArg ExtendedMantissa.mk ?_) ?_) ?_
  · show m / 2 ^ k / 2 = m / 2 ^ (k + 1)
    rw [Nat.div_div_eq_div_mul, ← Nat.pow_succ]
  · show (m / 2 ^ k % 2 != 0) = decide (2 ^ (k + 1) ≤ 2 * (m % 2 ^ (k + 1)))
    rw [Bool.eq_iff_iff, bne_iff_ne, decide_eq_true_iff, hmod, hdouble]
    rcases Nat.mod_two_eq_zero_or_one (m / 2 ^ k) with hdigit | hdigit
    · rw [hdigit]
      omega
    · rw [hdigit]
      omega
  · show (decide (2 ^ k ≤ 2 * (m % 2 ^ k)) || decide (2 * (m % 2 ^ k) % 2 ^ k ≠ 0)) =
      decide (2 * (m % 2 ^ (k + 1)) % 2 ^ (k + 1) ≠ 0)
    rw [hsticky, Bool.eq_iff_iff, Bool.or_eq_true, decide_eq_true_iff, decide_eq_true_iff,
      decide_eq_true_iff]
    by_cases hlarge : 2 ^ k ≤ 2 * (m % 2 ^ k)
    · exact iff_of_true (Or.inl hlarge) (by omega)
    · rw [Nat.mod_eq_of_lt (Nat.not_le.1 hlarge), or_iff_right hlarge]

/-- All digits are dropped one by one. -/
theorem repeat_shiftRightOne (m k : Nat) :
    Nat.repeat ExtendedMantissa.shiftRightOne k ⟨m, false, false⟩ = shifted m k := by
  induction k with
  | zero => simp [shifted, Nat.repeat, Nat.mod_one]
  | succ k ih => rw [Nat.repeat, ih, shiftRightOne_shifted]

/-- The marks are enough to round. -/
theorem roundedMantissa_shifted (m k : Nat) : (shifted m k).roundedMantissa = roundShift m k := by
  have hpos : 0 < 2 ^ k := Nat.two_pow_pos k
  have hrest : m % 2 ^ k < 2 ^ k := Nat.mod_lt _ hpos
  unfold roundShift shifted ExtendedMantissa.roundedMantissa
  by_cases hsmall : 2 * (m % 2 ^ k) < 2 ^ k
  · have hround : ¬ 2 ^ k ≤ 2 * (m % 2 ^ k) := by omega
    rw [if_pos hsmall, decide_eq_false hround]
    cases decide (2 * (m % 2 ^ k) % 2 ^ k ≠ 0) <;> rfl
  · have hround : 2 ^ k ≤ 2 * (m % 2 ^ k) := by omega
    have hmod : 2 * (m % 2 ^ k) % 2 ^ k = 2 * (m % 2 ^ k) - 2 ^ k := by
      rw [Nat.mod_eq_sub_mod hround, Nat.mod_eq_of_lt (by omega)]
    rw [if_neg hsmall, decide_eq_true hround, hmod]
    by_cases hhalf : 2 * (m % 2 ^ k) = 2 ^ k
    · have hsticky : ¬ 2 * (m % 2 ^ k) - 2 ^ k ≠ 0 := by omega
      rw [if_pos hhalf, decide_eq_false hsticky]
      rfl
    · have hsticky : 2 * (m % 2 ^ k) - 2 ^ k ≠ 0 := by omega
      rw [if_neg hhalf, decide_eq_true hsticky]
      rfl

/-! ## The format -/

theorem minExponent_binary64 : Format.binary64.minExponent = -1074 := by decide

theorem mantissaBits_binary64 : Format.binary64.mantissaBits = 53 := rfl

theorem exponentBias_binary64 : Format.binary64.exponentBias = 1023 := rfl

theorem mantissaBitsWithoutImplicit_binary64 :
    Format.binary64.mantissaBitsWithoutImplicit = 52 := rfl

theorem exponentBits_binary64 : Format.binary64.exponentBits = 11 := rfl

/-! ## Rounding to fifty-three digits -/

/-- A mantissa of fifty-three digits. -/
structure IsNormal (m : Nat) : Prop where
  lower : 2 ^ 52 ≤ m
  upper : m < 2 ^ 53

theorem IsNormal.log2_eq {m : Nat} (h : IsNormal m) : m.log2 = 52 :=
  (Nat.log2_eq_iff (by have := h.lower; omega)).2 ⟨h.lower, h.upper⟩

/-- What is left of a mantissa with its digits beyond fifty-three dropped. -/
theorem isNormal_div {m : Nat} (hm : 2 ^ 52 ≤ m) : IsNormal (m / 2 ^ (m.log2 - 52)) := by
  have hlog : 52 ≤ m.log2 := (Nat.le_log2 (by omega)).2 hm
  have hpos : 0 < 2 ^ (m.log2 - 52) := Nat.two_pow_pos _
  refine ⟨?_, ?_⟩
  · rw [Nat.le_div_iff_mul_le hpos, ← Nat.pow_add, Nat.add_sub_cancel' hlog]
    exact Nat.log2_self_le (by omega)
  · have hsum : 53 + (m.log2 - 52) = m.log2 + 1 := by omega
    rw [Nat.div_lt_iff_lt_mul hpos, ← Nat.pow_add, hsum]
    exact Nat.lt_log2_self

/-- Digits beyond fifty-three are dropped, unless the exponent is at its lower end. -/
theorem shiftToTargetExponent_eq {m : Nat} {e : Int} (hm : 2 ^ 52 ≤ m)
    (he : -1074 ≤ e + (m.log2 - 52 : Nat)) :
    shiftToTargetExponent .binary64 m e .exact =
      (shifted m (m.log2 - 52), e + (m.log2 - 52 : Nat)) := by
  have hlog : 52 ≤ m.log2 := (Nat.le_log2 (by omega)).2 hm
  have hamount : (Format.binary64.targetExponent (totalExponent m e) - e).toNat =
      m.log2 - 52 := by
    rw [Format.targetExponent, totalExponent, minExponent_binary64, mantissaBits_binary64]
    omega
  simp only [shiftToTargetExponent, shiftToExponent, hamount]
  rw [← repeat_shiftRightOne]
  rfl

/-- A mantissa that rounding has carried into a fifty-fourth digit ends in a zero, which is dropped. -/
theorem exists_shiftToTargetExponent {q : Nat} {f : Int} (hlower : 2 ^ 52 ≤ q)
    (hupper : q ≤ 2 ^ 53) (hf : -1074 ≤ f) :
    ∃ n g, (shiftToTargetExponent .binary64 q f .exact).1.mantissa = n ∧
      (shiftToTargetExponent .binary64 q f .exact).2 = g ∧ IsNormal n ∧ f ≤ g ∧ g ≤ f + 1 ∧
      (n : ℚ) * 2 ^ g = q * 2 ^ f := by
  rw [shiftToTargetExponent_eq hlower (by omega)]
  by_cases hcarry : q < 2 ^ 53
  · have hnormal : IsNormal q := ⟨hlower, hcarry⟩
    refine ⟨q, f, ?_, ?_, hnormal, by omega, by omega, rfl⟩
    · simp [hnormal.log2_eq, shifted]
    · simp [hnormal.log2_eq]
  · obtain rfl : q = 2 ^ 53 := by omega
    have hlog : Nat.log2 (2 ^ 53) = 53 := Nat.log2_two_pow
    refine ⟨2 ^ 52, f + 1, ?_, ?_, ⟨by decide, by decide⟩, by omega, by omega, ?_⟩
    · rw [hlog]
      rfl
    · rw [hlog]
      rfl
    · rw [zpow_add_one₀ (by norm_num)]
      push_cast
      ring

/-- A positive number of at least fifty-three digits is rounded to one of fifty-three digits. -/
theorem exists_roundWithAccuracy {m : Nat} {e : Int} (s : Sign) (hm : 2 ^ 52 ≤ m)
    (he : -1074 ≤ e + (m.log2 - 52 : Nat)) :
    ∃ n f hn, roundWithAccuracy .binary64 s m e .exact = .finite s n f hn ∧ IsNormal n ∧
      e + (m.log2 - 52 : Nat) ≤ f ∧ f ≤ e + (m.log2 - 52 : Nat) + 1 ∧
      (n : ℚ) * 2 ^ f = roundShift m (m.log2 - 52) * 2 ^ (e + (m.log2 - 52 : Nat)) := by
  have hquotient := isNormal_div hm
  have hlower := hquotient.lower
  have hupper := hquotient.upper
  obtain ⟨hfloor, hceil⟩ := roundShift_bounds m (m.log2 - 52)
  obtain ⟨n, f, hmantissa, hexponent, hnormal, hf, hf', hvalue⟩ :=
    exists_shiftToTargetExponent (q := roundShift m (m.log2 - 52)) (by omega) (by omega) he
  have hpos : 0 < n := by
    have := hnormal.lower
    omega
  refine ⟨n, f, hpos, ?_, hnormal, hf, hf', hvalue⟩
  unfold roundWithAccuracy
  simp only [shiftToTargetExponent_eq hm he, roundedMantissa_shifted, hmantissa, hexponent]
  rw [dif_neg (by omega)]

/-! ## Packing -/

/-- A number of fifty-three digits is kept in its sixty-four bits. -/
theorem unpack_pack_of_isNormal (s : Sign) {m : Nat} {e : Int} (hpos : 0 < m) (hm : IsNormal m)
    (he : -1074 ≤ e) (he' : e ≤ 971) :
    unpack .binary64 (UnpackedFloat.pack .binary64 (.finite s m e hpos)) =
      .finite s m e hpos := by
  have hlower := hm.lower
  have hupper := hm.upper
  have hexponent : (BitVec.ofNat 11 (e + 1023 + 52).toNat).toNat = (e + 1023 + 52).toNat := by
    rw [BitVec.toNat_ofNat, Nat.mod_eq_of_lt (by omega)]
  have hmantissa : (1#1 ++ BitVec.ofNat 52 m).toNat = m := by
    rw [BitVec.toNat_append, ← Nat.shiftLeft_add_eq_or_of_lt (BitVec.ofNat 52 m).isLt,
      BitVec.toNat_ofNat, Nat.shiftLeft_eq]
    simp only [BitVec.toNat_ofNat]
    omega
  have hreserved {b : BitVec 11} (hb : b.toNat ≠ (e + 1023 + 52).toNat) :
      BitVec.ofNat 11 (e + 1023 + 52).toNat ≠ b := by
    rintro rfl
    exact hb hexponent
  have hgreatest : (-1#11).toNat = 2047 := by decide
  have hleast : (0#11).toNat = 0 := by decide
  rw [UnpackedFloat.pack]
  simp only [hm.log2_eq, exponentBias_binary64, mantissaBitsWithoutImplicit_binary64,
    Nat.cast_ofNat]
  rw [if_neg (by omega), if_pos (by decide), UnpackedFloat.unpack]
  simp only [unpackMantissa_packComponents, unpackExponent_packComponents,
    unpackSign_packComponents, Sign.ofBitVec_toBitVec]
  rw [if_neg (hreserved (by omega)), if_neg (hreserved (by omega))]
  simp only [hmantissa, hexponent, exponentBias_binary64, Nat.cast_ofNat]
  congr 1
  omega

/-- A rounded number that is kept in sixty-four bits. -/
theorem exists_unpack_round {m : Nat} {e : Int} (hm : 2 ^ 52 ≤ m)
    (he : -1074 ≤ e + (m.log2 - 52 : Nat)) (he' : e + (m.log2 - 52 : Nat) ≤ 970) :
    ∃ n f hn, (Float.Model.pack (roundWithAccuracy .binary64 .positive m e .exact)).unpack =
        .finite .positive n f hn ∧ IsNormal n ∧
      e + (m.log2 - 52 : Nat) ≤ f ∧ f ≤ e + (m.log2 - 52 : Nat) + 1 ∧
      (n : ℚ) * 2 ^ f = roundShift m (m.log2 - 52) * 2 ^ (e + (m.log2 - 52 : Nat)) := by
  obtain ⟨n, f, hn, hround, hnormal, hf, hf', hvalue⟩ :=
    exists_roundWithAccuracy .positive hm he
  refine ⟨n, f, hn, ?_, hnormal, hf, hf', hvalue⟩
  rw [hround]
  exact unpack_pack_of_isNormal .positive hn hnormal (by omega) (by omega)

/-! ## Natural numbers -/

/-- The natural number that a natural number is rounded to. -/
def roundNat (n : Nat) : Nat := roundShift n (n.log2 - 52) * 2 ^ (n.log2 - 52)

theorem log2_mul_pow {n : Nat} (hn : n ≠ 0) (k : Nat) : (n * 2 ^ k).log2 = n.log2 + k := by
  have hpos : 0 < 2 ^ k := Nat.two_pow_pos k
  obtain ⟨hlower, hupper⟩ := (Nat.log2_eq_iff hn).1 rfl
  rw [Nat.log2_eq_iff (by positivity)]
  constructor
  · rw [Nat.pow_add]
    exact Nat.mul_le_mul_right _ hlower
  · rw [Nat.add_right_comm, Nat.pow_add]
    exact Nat.mul_lt_mul_of_pos_right hupper hpos

/-- A number of at most fifty-three digits is filled up with zeros. -/
theorem exists_unpack_toFloat {n : Nat} (hpos : 0 < n) (hn : n < 2 ^ 53) :
    ∃ m e hm, n.toUInt64.toFloat.toModel.unpack = .finite .positive m e hm ∧ IsNormal m ∧
      -52 ≤ e ∧ e ≤ 1 ∧ (m : ℚ) * 2 ^ e = n := by
  have hlog : n.log2 ≤ 52 := by
    have := (Nat.log2_lt (by omega)).2 hn
    omega
  have hamount : (0 - Format.binary64.targetExponent (totalExponent n 0)).toNat =
      52 - n.log2 := by
    rw [Format.targetExponent, totalExponent, minExponent_binary64, mantissaBits_binary64]
    omega
  have hfilled : (n * 2 ^ (52 - n.log2)).log2 = 52 := by
    rw [log2_mul_pow (by omega)]
    omega
  have hlower : 2 ^ 52 ≤ n * 2 ^ (52 - n.log2) := by
    have hself := Nat.log2_self_le (n := n * 2 ^ (52 - n.log2)) (by positivity)
    rwa [hfilled] at hself
  have hfloat : n.toUInt64.toFloat.toModel = Float.Model.pack (roundWithAccuracy .binary64
      .positive (n * 2 ^ (52 - n.log2)) (0 - (52 - n.log2 : Nat)) .exact) := by
    have hsize : n.toUInt64.toNat = n := UInt64.toNat_ofNat_of_lt' (by rw [UInt64.size]; omega)
    have hsign : compare (n : Int) 0 = .gt := Std.compare_eq_gt.2 (by omega)
    show Float.Model.pack
      (UnpackedFloat.normalize .binary64 (n.toUInt64.toNat : Int) 0 .positive) = _
    rw [hsize, UnpackedFloat.normalize, hsign]
    simp only [UnpackedFloat.round, decreaseExponent, Int.toNat_natCast, hamount, Nat.shiftLeft_eq]
  obtain ⟨m, e, hm, hunpack, hnormal, he, he', hvalue⟩ :=
    exists_unpack_round (e := 0 - (52 - n.log2 : Nat)) hlower (by omega) (by omega)
  rw [hfilled] at he he' hvalue
  refine ⟨m, e, hm, by rw [hfloat, hunpack], hnormal, by omega, by omega, ?_⟩
  rw [hvalue, roundShift_zero, Nat.sub_self, Nat.cast_zero, add_zero, zero_sub, zpow_neg,
    zpow_natCast]
  push_cast
  field_simp

/-- A number of at most fifty-three digits is multiplied with one. -/
theorem ofNat_eq_mul_one {n : Nat} (hn : n < 2 ^ 53) :
    Float.ofNat n = n.toUInt64.toFloat * Float.ofBits 0x3FF0000000000000 := by
  show Float.ofScientific n false 0 = _
  rw [Float.ofScientific, dif_pos ⟨hn, by decide⟩]
  rfl

theorem unpack_one : (Float.ofBits 0x3FF0000000000000).toModel.unpack =
    .finite .positive (2 ^ 52) (-52) (by decide) := rfl

/-- A greater number is rounded with fifty-three more digits. -/
theorem toModel_ofNat {n : Nat} (hn : 2 ^ 53 ≤ n) :
    (Float.ofNat n).toModel =
      Float.Model.pack (roundWithAccuracy .binary64 .positive (n * 2 ^ 53) (-53) .exact) := by
  have hscientific : Float.ofNat n = Float.ofModel (Float.Model.ofScientific n 0) := by
    show Float.ofScientific n false 0 = _
    rw [Float.ofScientific, dif_neg fun h => Nat.not_lt.2 hn h.1]
    rfl
  rw [hscientific]
  show Float.Model.pack (UnpackedFloat.ofScientific .binary64 n 0) = _
  rw [UnpackedFloat.ofScientific, dif_neg (by omega), if_neg (by decide), exponentBits_binary64,
    if_neg (by omega), if_pos (Int.le_refl 0)]
  show Float.Model.pack (roundWithAccuracy .binary64 .positive
    (n <<< 53 * 10 ^ Int.toNat 0) (-53) .exact) = _
  rw [Nat.shiftLeft_eq, Int.toNat_zero, Nat.pow_zero, Nat.mul_one]

/-- The product with one is the number again. -/
theorem exists_unpack_mul_one {x : Float} {m : Nat} {e : Int} (hpos : 0 < m)
    (hx : x.toModel.unpack = .finite .positive m e hpos) (hm : IsNormal m) (he : -1074 ≤ e)
    (he' : e ≤ 970) :
    ∃ n f hn, (x * Float.ofBits 0x3FF0000000000000).toModel.unpack = .finite .positive n f hn ∧
      IsNormal n ∧ e ≤ f ∧ f ≤ e + 1 ∧ (n : ℚ) * 2 ^ f = m * 2 ^ e := by
  have hproduct : (x * Float.ofBits 0x3FF0000000000000).toModel = Float.Model.pack
      (roundWithAccuracy .binary64 .positive (m * 2 ^ 52) (e + -52) .exact) := by
    show Float.Model.pack (mul .binary64 x.toModel.unpack
      (Float.ofBits 0x3FF0000000000000).toModel.unpack) = _
    rw [hx, unpack_one]
    rfl
  have hlog : (m * 2 ^ 52).log2 = 52 + 52 := by
    rw [log2_mul_pow (by omega), hm.log2_eq]
  have hlower : 2 ^ 52 ≤ m * 2 ^ 52 := Nat.le_mul_of_pos_left _ hpos
  obtain ⟨n, f, hn, hunpack, hnormal, hf, hf', hvalue⟩ :=
    exists_unpack_round (e := e + -52) hlower (by omega) (by omega)
  rw [hlog] at hf hf' hvalue
  refine ⟨n, f, hn, by rw [hproduct, hunpack], hnormal, by omega, by omega, ?_⟩
  have hexact : roundShift (m * 2 ^ 52) (52 + 52 - 52) = m := by
    have hzeros := roundShift_mul_pow m 52 0
    rwa [roundShift_zero] at hzeros
  have hexponent : e + -52 + ((52 + 52 - 52 : Nat) : Int) = e := by omega
  rw [hvalue, hexact, hexponent]

/-- Numbers of at most fifty-three digits are not rounded, nor is the next one. -/
theorem roundNat_of_le {n : Nat} (hn : n ≤ 2 ^ 53) : roundNat n = n := by
  by_cases hlast : n = 2 ^ 53
  · subst hlast
    decide
  · have hnone : n.log2 - 52 = 0 := by
      by_cases hzero : n = 0
      · simp [hzero]
      · have hlog := (Nat.log2_lt hzero).2 (by omega : n < 2 ^ 53)
        omega
    rw [roundNat, hnone, roundShift_zero, Nat.pow_zero, Nat.mul_one]

/-- A natural number is kept as the number that it is rounded to. -/
theorem exists_unpack_ofNat {n : Nat} (hpos : 0 < n) (hlog : n.log2 < 1022) :
    ∃ m e hm, (Float.ofNat n).toModel.unpack = .finite .positive m e hm ∧ IsNormal m ∧
      -1074 ≤ e ∧ e ≤ 971 ∧ (m : ℚ) * 2 ^ e = roundNat n := by
  by_cases hsmall : n < 2 ^ 53
  · obtain ⟨m, e, hm, hunpack, hnormal, he, he', hvalue⟩ := exists_unpack_toFloat hpos hsmall
    obtain ⟨m', e', hm', hunpack', hnormal', hf, hf', hvalue'⟩ :=
      exists_unpack_mul_one hm hunpack hnormal (by omega) (by omega)
    refine ⟨m', e', hm', by rw [ofNat_eq_mul_one hsmall, hunpack'], hnormal', by omega,
      by omega, ?_⟩
    rw [hvalue', hvalue, roundNat_of_le (by omega)]
  · have hproductLog : (n * 2 ^ 53).log2 = n.log2 + 53 := log2_mul_pow (by omega) 53
    have hlower : 2 ^ 52 ≤ n * 2 ^ 53 := by omega
    obtain ⟨m, e, hm, hunpack, hnormal, he, he', hvalue⟩ :=
      exists_unpack_round (e := -53) hlower (by omega) (by omega)
    rw [hproductLog] at he he' hvalue
    refine ⟨m, e, hm, by rw [toModel_ofNat (by omega), hunpack], hnormal, by omega, by omega, ?_⟩
    have hdropped : n.log2 + 53 - 52 = n.log2 - 52 + 53 := by
      have hlarge : 53 ≤ n.log2 := (Nat.le_log2 (by omega)).2 (by omega)
      omega
    have hexponent : -53 + ((n.log2 - 52 + 53 : Nat) : Int) = (n.log2 - 52 : Nat) := by omega
    rw [hvalue, hdropped, roundShift_mul_pow, hexponent, zpow_natCast, roundNat]
    push_cast
    rfl

/-- Greater numbers are rounded between two powers of two that are one apart. -/
theorem roundNat_bounds {n : Nat} (hn : 52 ≤ n.log2) :
    2 ^ n.log2 ≤ roundNat n ∧ roundNat n ≤ 2 ^ (n.log2 + 1) := by
  have hlower : 2 ^ 52 ≤ n := by
    by_cases hzero : n = 0
    · simp [hzero] at hn
    · exact (Nat.le_log2 hzero).1 hn
  have hquotient := isNormal_div hlower
  obtain ⟨hfloor, hceil⟩ := roundShift_bounds n (n.log2 - 52)
  have hnormal : 2 ^ 52 ≤ roundShift n (n.log2 - 52) ∧ roundShift n (n.log2 - 52) ≤ 2 ^ 53 := by
    have hfirst := hquotient.lower
    have hlast := hquotient.upper
    omega
  have hbelow : n.log2 = 52 + (n.log2 - 52) := by omega
  have habove : n.log2 + 1 = 53 + (n.log2 - 52) := by omega
  constructor
  · calc 2 ^ n.log2 = 2 ^ 52 * 2 ^ (n.log2 - 52) := by rw [← Nat.pow_add, ← hbelow]
      _ ≤ roundNat n := Nat.mul_le_mul_right _ hnormal.1
  · calc roundNat n ≤ 2 ^ 53 * 2 ^ (n.log2 - 52) := Nat.mul_le_mul_right _ hnormal.2
      _ = 2 ^ (n.log2 + 1) := by rw [← Nat.pow_add, ← habove]

/-- Rounding does not turn the order round. -/
theorem roundNat_mono {m n : Nat} (h : m ≤ n) : roundNat m ≤ roundNat n := by
  by_cases hzero : m = 0
  · subst hzero
    rw [roundNat_of_le (by decide)]
    exact Nat.zero_le _
  · have hlog : m.log2 ≤ n.log2 :=
      (Nat.le_log2 (by omega)).2 (Nat.le_trans (Nat.log2_self_le hzero) h)
    by_cases hshift : m.log2 - 52 = n.log2 - 52
    · rw [roundNat, roundNat, hshift]
      exact Nat.mul_le_mul_right _ (roundShift_mono _ h)
    · -- The greater number has more digits, so there is a power of two between the two.
      have hbetween : roundNat m ≤ 2 ^ n.log2 := by
        by_cases hsmall : 52 ≤ m.log2
        · exact Nat.le_trans (roundNat_bounds hsmall).2
            (Nat.pow_le_pow_right (by decide) (by omega))
        · have hself : m < 2 ^ (m.log2 + 1) := Nat.lt_log2_self
          have hpow : 2 ^ (m.log2 + 1) ≤ 2 ^ n.log2 := Nat.pow_le_pow_right (by decide) (by omega)
          have hfew : 2 ^ (m.log2 + 1) ≤ 2 ^ 53 := Nat.pow_le_pow_right (by decide) (by omega)
          rw [roundNat_of_le (by omega)]
          omega
      exact Nat.le_trans hbetween (roundNat_bounds (by omega)).1

/-! ## Integers -/

/-- The integer that an integer is rounded to. -/
def roundInt : Int → Int
  | .ofNat n => roundNat n
  | .negSucc n => -roundNat (n + 1)

theorem roundInt_natCast (n : Nat) : roundInt n = roundNat n := rfl

theorem roundInt_neg_natCast (n : Nat) : roundInt (-n) = -roundNat n := by
  cases n with
  | zero =>
    rw [Nat.cast_zero, neg_zero]
    decide
  | succ n => rfl

theorem roundInt_of_le {n : Int} (hn : n.natAbs ≤ 2 ^ 53) : roundInt n = n := by
  obtain ⟨m, rfl | rfl⟩ := n.eq_nat_or_neg
  · rw [roundInt_natCast, roundNat_of_le (by omega)]
  · rw [roundInt_neg_natCast, roundNat_of_le (by omega)]

theorem roundInt_mono {m n : Int} (h : m ≤ n) : roundInt m ≤ roundInt n := by
  obtain ⟨a, rfl | rfl⟩ := m.eq_nat_or_neg
  · obtain ⟨b, rfl | rfl⟩ := n.eq_nat_or_neg
    · have := roundNat_mono (m := a) (n := b) (by omega)
      rw [roundInt_natCast, roundInt_natCast]
      omega
    · obtain rfl : a = 0 := by omega
      obtain rfl : b = 0 := by omega
      exact Int.le_refl _
  · obtain ⟨b, rfl | rfl⟩ := n.eq_nat_or_neg
    · rw [roundInt_neg_natCast, roundInt_natCast]
      omega
    · have := roundNat_mono (m := b) (n := a) (by omega)
      rw [roundInt_neg_natCast, roundInt_neg_natCast]
      omega

/-! ## The order of rounded integers -/

/-- The rank of zero and of the numbers of fifty-three digits, beside what they are. -/
inductive IsRankOf : FloatRank → ℚ → Prop where
  | zero : IsRankOf ⟨0, 0, 0⟩ 0
  | positive {m : Nat} (e : Int) (hm : IsNormal m) : IsRankOf ⟨1, e, m⟩ (m * 2 ^ e)
  | negative {m : Nat} (e : Int) (hm : IsNormal m) : IsRankOf ⟨-1, -e, -m⟩ (-(m * 2 ^ e))

theorem IsNormal.pos {m : Nat} (h : IsNormal m) (e : Int) : (0 : ℚ) < m * 2 ^ e := by
  have hm : 0 < m := by
    have := h.lower
    omega
  positivity

/-- A greater exponent makes a greater number. -/
theorem IsNormal.lt_of_lt {m n : Nat} {e f : Int} (hm : IsNormal m) (hn : IsNormal n) (h : e < f) :
    (m : ℚ) * 2 ^ e < n * 2 ^ f := by
  have hmantissa : (m : ℚ) < 2 ^ 53 := by exact_mod_cast hm.upper
  have hmantissa' : (2 : ℚ) ^ 52 ≤ n := by exact_mod_cast hn.lower
  have hexponent : (2 : ℚ) ^ (e + 1) ≤ 2 ^ f := zpow_le_zpow_right₀ (by norm_num) (by omega)
  calc (m : ℚ) * 2 ^ e < 2 ^ 53 * 2 ^ e := mul_lt_mul_of_pos_right hmantissa (by positivity)
    _ = 2 ^ 52 * 2 ^ (e + 1) := by
      rw [zpow_add_one₀ (by norm_num)]
      ring
    _ ≤ n * 2 ^ f := mul_le_mul hmantissa' hexponent (by positivity) (by positivity)

theorem IsNormal.compare_eq {m n : Nat} (e f : Int) (hm : IsNormal m) (hn : IsNormal n) :
    (compare e f).then (compare (m : Int) n) = compare ((m : ℚ) * 2 ^ e) (n * 2 ^ f) := by
  rcases Int.lt_trichotomy e f with h | rfl | h
  · rw [Int.compare_eq_lt.2 h, compare_lt_iff_lt.2 (hm.lt_of_lt hn h)]
    rfl
  · rw [Std.compare_self, compare_mul_of_pos (by positivity), ← compare_intCast]
    push_cast
    rfl
  · rw [Std.compare_eq_gt.2 h, compare_gt_iff_gt.2 (hn.lt_of_lt hm h)]
    rfl

theorem IsRankOf.cmp_eq {a b : FloatRank} {p q : ℚ} (ha : IsRankOf a p) (hb : IsRankOf b q) :
    a.cmp b = compare p q := by
  cases ha with
  | zero =>
    cases hb with
    | zero => rfl
    | positive e hm => exact (compare_lt_iff_lt.2 (hm.pos e)).symm
    | negative e hm => exact (compare_gt_iff_gt.2 (neg_lt_zero.2 (hm.pos e))).symm
  | positive e hm =>
    cases hb with
    | zero => exact (compare_gt_iff_gt.2 (hm.pos e)).symm
    | positive f hn => exact hm.compare_eq e f hn
    | negative f hn =>
      exact (compare_gt_iff_gt.2 ((neg_lt_zero.2 (hn.pos f)).trans (hm.pos e))).symm
  | negative e hm =>
    cases hb with
    | zero => exact (compare_lt_iff_lt.2 (neg_lt_zero.2 (hm.pos e))).symm
    | positive f hn =>
      exact (compare_lt_iff_lt.2 ((neg_lt_zero.2 (hm.pos e)).trans (hn.pos f))).symm
    | negative f hn =>
      show ((compare (-e) (-f)).then (compare (-(_ : Int)) (-_))) = compare (-_) (-_)
      rw [compare_neg_neg, compare_neg_neg, compare_neg_neg, ← Ordering.swap_then,
        hm.compare_eq e f hn]

/-- The rank of an integer is that of the integer that it is rounded to. -/
theorem exists_floatRank?_ofInt {n : Int} (hlog : n.natAbs.log2 < 1022) :
    ∃ a, floatRank? (Float.ofInt n) = some a ∧ IsRankOf a (roundInt n) := by
  cases n with
  | ofNat k =>
    by_cases hzero : k = 0
    · subst hzero
      exact ⟨⟨0, 0, 0⟩, rfl, IsRankOf.zero⟩
    · obtain ⟨m, e, hm, hunpack, hnormal, -, -, hvalue⟩ :=
        exists_unpack_ofNat (n := k) (by omega) hlog
      refine ⟨⟨1, e, m⟩, ?_, ?_⟩
      · show unpackedRank? (Float.ofNat k).toModel.unpack = _
        rw [hunpack]
        rfl
      · show IsRankOf _ ((roundNat k : Int) : ℚ)
        rw [Int.cast_natCast, ← hvalue]
        exact IsRankOf.positive e hnormal
  | negSucc k =>
    obtain ⟨m, e, hm, hunpack, hnormal, he, he', hvalue⟩ :=
      exists_unpack_ofNat (n := k + 1) (by omega) hlog
    refine ⟨⟨-1, -e, -m⟩, ?_, ?_⟩
    · show unpackedRank? (Float.Model.pack (Float.ofNat (k + 1)).toModel.unpack.neg).unpack = _
      rw [hunpack]
      show unpackedRank? (UnpackedFloat.unpack .binary64
        (UnpackedFloat.pack .binary64 (.finite .negative m e hm))) = _
      rw [unpack_pack_of_isNormal .negative hm hnormal he he']
      rfl
    · show IsRankOf _ ((-roundNat (k + 1) : Int) : ℚ)
      rw [Int.cast_neg, Int.cast_natCast, ← hvalue]
      exact IsRankOf.negative e hnormal

/-- Integers are compared as what they are rounded to. -/
theorem compareFloat_ofInt {m n : Int} (hm : m.natAbs.log2 < 1022) (hn : n.natAbs.log2 < 1022) :
    compareFloat (Float.ofInt m) (Float.ofInt n) = some (compare (roundInt m) (roundInt n)) := by
  obtain ⟨a, ha, hrank⟩ := exists_floatRank?_ofInt hm
  obtain ⟨b, hb, hrank'⟩ := exists_floatRank?_ofInt hn
  rw [compareFloat_eq, ha, hb, ← compare_intCast]
  exact congrArg some (hrank.cmp_eq hrank')

theorem ofInt_ne_nan {n : Int} (hlog : n.natAbs.log2 < 1022) : Float.ofInt n ≠ Float.nan := by
  obtain ⟨a, ha, -⟩ := exists_floatRank?_ofInt hlog
  intro h
  have hnone : floatRank? Float.nan = none := by decide
  rw [h, hnone] at ha
  cases ha

end TypedQuery.Number
