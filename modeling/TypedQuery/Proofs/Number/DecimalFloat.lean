import TypedQuery.Number.Decimal
import TypedQuery.Proofs.Number.Rounding

/-!
# Decimals as floating-point numbers

Whatever a decimal is rounded to, it is a number: `Decimal.toFloat_ne_nan`.  Rounding never gives the
undefined number (`roundWithAccuracy_ne_notANumber`), so it could only come from an infinity that is
multiplied with a zero, where the digits of a decimal are multiplied with a power of ten.  But both
factors are at least one, which products keep: `IsLarge.mul`.
-/

namespace TypedQuery.Number

open Float.Model Float.Model.UnpackedFloat

/-! ## What is not undefined -/

theorem ne_nan_of_unpack {x : Float} (h : x.toModel.unpack ≠ .notANumber) : x ≠ Float.nan := by
  rintro rfl
  exact h rfl

theorem unpack_of_ne_nan {x : Float} (h : x ≠ Float.nan) : x.toModel.unpack ≠ .notANumber := by
  obtain ⟨a, ha⟩ := exists_floatRank? h
  intro hx
  rw [floatRank?, hx] at ha
  cases ha

/-- What is packed as a number is read back as one. -/
theorem unpack_pack_ne_notANumber {u : UnpackedFloat} (hu : u ≠ .notANumber) :
    (Float.Model.pack u).unpack ≠ .notANumber := by
  have hinfinity (s : Sign) :
      UnpackedFloat.unpack .binary64 (packedInfinity .binary64 s) = .infinity s := by
    cases s <;> rfl
  have hregular {s : Sign} {f : BitVec 11} {m : BitVec 52} (hf : f ≠ -1#11) :
      UnpackedFloat.unpack .binary64 (packComponents .binary64 s f m) ≠ .notANumber := by
    unfold UnpackedFloat.unpack
    simp only [unpackExponent_packComponents]
    rw [if_neg hf]
    split
    · split <;> nofun
    · nofun
  show UnpackedFloat.unpack .binary64 (UnpackedFloat.pack .binary64 u) ≠ .notANumber
  cases u with
  | notANumber => exact absurd rfl hu
  | infinity s =>
    rw [UnpackedFloat.pack, hinfinity]
    nofun
  | zero s => exact hregular (by decide)
  | finite s m e hm =>
    rw [UnpackedFloat.pack]
    dsimp only
    split
    · rw [hinfinity]
      nofun
    · rename_i hsmall
      split
      · refine hregular ?_
        intro h
        have htop := congrArg BitVec.toNat h
        rw [BitVec.toNat_ofNat, Nat.mod_eq_of_lt (by omega)] at htop
        simp at htop
        omega
      · exact hregular (by decide)

theorem roundWithAccuracy_ne_notANumber (s : Sign) (m : Nat) (e : Int) (a : Accuracy) :
    roundWithAccuracy .binary64 s m e a ≠ .notANumber := by
  unfold roundWithAccuracy
  dsimp only
  split <;> nofun

/-! ## Numbers from one on -/

/-- A positive number of fifty-three digits that is at least one, or the positive infinity. -/
inductive IsLarge : UnpackedFloat → Prop where
  | infinity : IsLarge (.infinity .positive)
  | finite {m : Nat} {e : Int} (hpos : 0 < m) (hm : IsNormal m) (he : -52 ≤ e) :
    IsLarge (.finite .positive m e hpos)

theorem IsLarge.ne_notANumber {u : UnpackedFloat} (hu : IsLarge u) : u ≠ .notANumber := by
  cases hu <;> nofun

/-- A great exponent makes an infinity. -/
theorem isLarge_unpack_pack {m : Nat} {e : Int} (hpos : 0 < m) (hm : IsNormal m) (he : -52 ≤ e) :
    IsLarge (Float.Model.pack (.finite .positive m e hpos)).unpack := by
  show IsLarge (UnpackedFloat.unpack .binary64 (UnpackedFloat.pack .binary64 _))
  by_cases hsmall : e ≤ 971
  · rw [unpack_pack_of_isNormal .positive hpos hm (by omega) hsmall]
    exact IsLarge.finite hpos hm he
  · have htop : 2 ^ Format.binary64.exponentBits ≤ (e + Format.binary64.exponentBias +
        Format.binary64.mantissaBitsWithoutImplicit).toNat + 1 := by
      rw [exponentBits_binary64, exponentBias_binary64, mantissaBitsWithoutImplicit_binary64]
      omega
    rw [UnpackedFloat.pack, if_pos htop]
    exact IsLarge.infinity

theorem isLarge_round {m : Nat} {e : Int} (hm : 2 ^ 52 ≤ m)
    (he : -52 ≤ e + (m.log2 - 52 : Nat)) :
    IsLarge (Float.Model.pack (roundWithAccuracy .binary64 .positive m e .exact)).unpack := by
  obtain ⟨n, f, hn, hround, hnormal, hf, -, -⟩ :=
    exists_roundWithAccuracy (e := e) .positive hm (by omega)
  rw [hround]
  exact isLarge_unpack_pack hn hnormal (by omega)

/-- The product of numbers from one on is one of them. -/
theorem IsLarge.mul {x y : Float} (hx : IsLarge x.toModel.unpack) (hy : IsLarge y.toModel.unpack) :
    IsLarge (x * y).toModel.unpack := by
  have hinfinity : IsLarge (Float.Model.pack (.infinity .positive)).unpack := IsLarge.infinity
  show IsLarge (Float.Model.pack
    (UnpackedFloat.mul .binary64 x.toModel.unpack y.toModel.unpack)).unpack
  generalize x.toModel.unpack = u at hx
  generalize y.toModel.unpack = v at hy
  cases hx with
  | infinity => cases hy <;> exact hinfinity
  | @finite m e hpos hm he =>
    cases hy with
    | infinity => exact hinfinity
    | @finite n f hpos' hn hf =>
      have hlower := Nat.mul_le_mul hm.lower hn.lower
      have hlog : 104 ≤ (m * n).log2 := by
        refine (Nat.le_log2 (by omega)).2 ?_
        rwa [← Nat.pow_add] at hlower
      exact isLarge_round (by omega) (by omega)

/-- The powers of ten that a table holds are such numbers. -/
theorem isLarge_powerOfTen (i : Fin 23) :
    IsLarge (Float.exactlyRepresentablePowersOfTen[i]).toModel.unpack := by
  have hall : ∀ i : Fin 23, (match
      (Float.exactlyRepresentablePowersOfTen[i]).toModel.unpack with
      | .finite .positive m e _ => decide (2 ^ 52 ≤ m ∧ m < 2 ^ 53 ∧ -52 ≤ e)
      | _ => false) = true := by decide
  have h := hall i
  split at h
  · obtain ⟨hlower, hupper, he⟩ := of_decide_eq_true h
    rename_i hunpack
    rw [hunpack]
    exact IsLarge.finite _ ⟨hlower, hupper⟩ he
  · cases h

theorem isLarge_toFloat {n : Nat} (hpos : 0 < n) (hn : n < 2 ^ 53) :
    IsLarge n.toUInt64.toFloat.toModel.unpack := by
  obtain ⟨m, e, hm, hunpack, hnormal, he, -⟩ := exists_unpack_toFloat hpos hn
  rw [hunpack]
  exact IsLarge.finite hm hnormal he

/-- A positive integer with zeros after it is such a number. -/
theorem isLarge_ofScientific {n : Nat} (hpos : 0 < n) (e : Nat) :
    IsLarge (Float.ofScientific n false e).toModel.unpack := by
  rw [Float.ofScientific]
  split
  · rename_i hsmall
    exact (isLarge_toFloat hpos hsmall.1).mul (isLarge_powerOfTen ⟨e, by omega⟩)
  · show IsLarge (Float.Model.pack (UnpackedFloat.ofScientific .binary64 n (e : Int))).unpack
    rw [UnpackedFloat.ofScientific, dif_neg (by omega), exponentBits_binary64]
    split
    · exact IsLarge.infinity
    · rw [if_neg (by omega), if_pos (by omega)]
      have hlower : 2 ^ 53 ≤ n <<< 53 * 10 ^ (e : Int).toNat := by
        have hzeros : 0 < 10 ^ (e : Int).toNat := Nat.pow_pos (by decide)
        have hdigits := Nat.le_mul_of_pos_right (n <<< 53) hzeros
        rw [Nat.shiftLeft_eq] at hdigits ⊢
        omega
      have hlog : 53 ≤ (n <<< 53 * 10 ^ (e : Int).toNat).log2 :=
        (Nat.le_log2 (by omega)).2 hlower
      have hround := isLarge_round (e := -53) (m := n <<< 53 * 10 ^ (e : Int).toNat)
        (by omega) (by omega)
      exact hround

theorem isLarge_ofNat {n : Nat} (hpos : 0 < n) : IsLarge (Float.ofNat n).toModel.unpack :=
  isLarge_ofScientific hpos 0

/-- Powers are made of products. -/
theorem isLarge_timesPower {r a : Float} (n : Nat) (hr : IsLarge r.toModel.unpack)
    (ha : IsLarge a.toModel.unpack) : IsLarge (timesPower r a n).toModel.unpack := by
  induction n using Nat.strong_induction_on generalizing r a with
  | _ n ih =>
    have hproduct : IsLarge (if n % 2 = 1 then r * a else r).toModel.unpack := by
      split
      · exact hr.mul ha
      · exact hr
    rw [timesPower]
    by_cases hlast : n < 2
    · rw [if_pos hlast]
      exact hproduct
    · rw [if_neg hlast]
      exact ih (n / 2) (by omega) hproduct (ha.mul ha)

theorem isLarge_power_ten (n : Nat) : IsLarge (power 10 n).toModel.unpack :=
  isLarge_timesPower n (isLarge_ofNat Nat.one_pos) (isLarge_ofNat (by decide : 0 < 10))

/-! ## The nearest number -/

/-- A finite number divided by one from one on is a number. -/
theorem div_ne_nan {x y : Float} {m : Nat} {e : Int} {hm : 0 < m}
    (hx : x.toModel.unpack = .finite .positive m e hm) (hy : IsLarge y.toModel.unpack) :
    x / y ≠ Float.nan := by
  refine ne_nan_of_unpack ?_
  show (Float.Model.pack (UnpackedFloat.div .binary64 x.toModel.unpack
    y.toModel.unpack)).unpack ≠ .notANumber
  refine unpack_pack_ne_notANumber ?_
  rw [hx]
  generalize y.toModel.unpack = v at hy
  cases hy with
  | infinity => nofun
  | finite => exact roundWithAccuracy_ne_notANumber _ _ _ _

theorem model_ofScientific_ne_notANumber (m : Nat) (e : Int) :
    (Float.Model.ofScientific m e).unpack ≠ .notANumber := by
  refine unpack_pack_ne_notANumber ?_
  unfold UnpackedFloat.ofScientific
  split
  · nofun
  · split
    · nofun
    · split
      · nofun
      · split <;> exact roundWithAccuracy_ne_notANumber _ _ _ _

/-- Quotients with a power of ten are numbers. -/
theorem ofScientific_true_ne_nan {m : Nat} (hm : m ≠ 0) (e : Nat) :
    Float.ofScientific m true e ≠ Float.nan := by
  rw [Float.ofScientific]
  split
  · rename_i hsmall
    obtain ⟨n, f, hn, hunpack, -⟩ := exists_unpack_toFloat (n := m) (by omega) hsmall.1
    exact div_ne_nan hunpack (isLarge_powerOfTen ⟨e, by omega⟩)
  · exact ne_nan_of_unpack (model_ofScientific_ne_notANumber _ _)

/-- An integer is rounded to a number from one on. -/
theorem isLarge_nearest {n : Nat} (hn : n ≠ 0) : IsLarge (nearest n 0).toModel.unpack := by
  unfold nearest
  rw [if_neg hn]
  dsimp only
  split
  · exact isLarge_ofScientific Nat.one_pos 400
  · rw [if_neg (by omega)]
    exact isLarge_ofNat (Nat.pos_of_ne_zero hn)

theorem nearest_ne_nan {n : Nat} {e : Int} (he : e < 0) : nearest n e ≠ Float.nan := by
  unfold nearest
  by_cases hn : n = 0
  · rw [if_pos hn]
    decide
  · rw [if_neg hn]
    dsimp only
    split
    · exact ne_nan_of_unpack (isLarge_ofScientific Nat.one_pos 400).ne_notANumber
    · split
      · decide
      · rw [decide_eq_true he]
        exact ofScientific_true_ne_nan hn _

end TypedQuery.Number

/-! ## Decimals -/

namespace TypedQuery.Decimal

open Number

theorem magnitude_ne_nan (a : Decimal) : a.magnitude ≠ Float.nan := by
  unfold magnitude
  dsimp only
  by_cases hzero : a.digits.natAbs = 0
  · rw [if_pos hzero]
    decide
  · rw [if_neg hzero]
    split
    · decide
    · split
      · have hproduct := (isLarge_nearest hzero).mul (isLarge_power_ten a.scale.natAbs)
        exact ne_nan_of_unpack hproduct.ne_notANumber
      · exact nearest_ne_nan (by omega)

/-- A decimal is rounded to a number. -/
theorem toFloat_ne_nan (a : Decimal) : a.toFloat ≠ Float.nan := by
  have hneg {x : Float} (hx : x ≠ Float.nan) : -x ≠ Float.nan := by
    refine ne_nan_of_unpack (unpack_pack_ne_notANumber ?_)
    have hunpack := unpack_of_ne_nan hx
    revert hunpack
    cases x.toModel.unpack with
    | notANumber => exact fun h => absurd rfl h
    | _ => exact fun _ => nofun
  unfold toFloat
  split
  · exact hneg (magnitude_ne_nan _)
  · exact magnitude_ne_nan _

end TypedQuery.Decimal
