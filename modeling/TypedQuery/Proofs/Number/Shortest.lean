import Mathlib
import TypedQuery.Number.Shortest
import TypedQuery.Proofs.Value.Order

/-!
# What the shortest digits stand for

A reader that rounds takes every decimal for the number that it lies closest to.  `Binary.Takes` says
which decimals these are for a number: those between the middles to its two neighbours, and the
middles themselves where the mantissa is even.  The digits that `Binary.shortest` finds are among them
(`Binary.takes_shortest`), also those of the fallback, so it does not matter here how many digits
suffice.

No decimal is taken for two numbers: where one number lies below another, the upper end of its interval
is at most the lower end of the other's, and where the two ends meet one of the mantissas is odd
(`Binary.Normal.upperEnd_le_lowerEnd`).  So a floating-point number, without its sign, is determined
by any decimal that is taken for it (`Binary.Normal.eq_of_takes`).
-/

namespace TypedQuery.Number

/-! ## Comparing in exact arithmetic -/

theorem zpow_mul_pow_toNat {b : ℚ} (hb : b ≠ 0) (e : Int) : b ^ e * b ^ (-e).toNat = b ^ e.toNat := by
  have hparts : e + ((-e).toNat : Int) = (e.toNat : Int) := by omega
  rw [← zpow_natCast b (-e).toNat, ← zpow_natCast b e.toNat, ← zpow_add₀ hb, hparts]

theorem compareScaled_eq_compare (a : Nat) (p : Int) (b : Nat) (g : Int) :
    compareScaled a p b g = compare ((a : ℚ) * 2 ^ p) ((b : ℚ) * 10 ^ g) := by
  have hunit : (0 : ℚ) < 2 ^ (-p).toNat * 10 ^ (-g).toNat := by positivity
  have hleft : ((a * Nat.pow 2 p.toNat * Nat.pow 10 (-g).toNat : Nat) : ℚ) =
      a * 2 ^ p * (2 ^ (-p).toNat * 10 ^ (-g).toNat) := by
    change ((a * 2 ^ p.toNat * 10 ^ (-g).toNat : Nat) : ℚ) = _
    push_cast
    rw [← zpow_mul_pow_toNat (by norm_num : (2 : ℚ) ≠ 0) p]
    ring
  have hright : ((b * Nat.pow 10 g.toNat * Nat.pow 2 (-p).toNat : Nat) : ℚ) =
      b * 10 ^ g * (2 ^ (-p).toNat * 10 ^ (-g).toNat) := by
    change ((b * 10 ^ g.toNat * 2 ^ (-p).toNat : Nat) : ℚ) = _
    push_cast
    rw [← zpow_mul_pow_toNat (by norm_num : (10 : ℚ) ≠ 0) g]
    ring
  rw [compareScaled, ← compare_natCast (α := ℚ), hleft, hright, compare_mul_of_pos hunit]

theorem Tie.choose_cases (tie : Tie) (d : Nat) :
    tie.choose d = d ∨ tie.choose d = d + 1 := by
  cases tie with
  | toEven =>
    change d + d % 2 = d ∨ d + d % 2 = d + 1
    omega
  | awayFromZero => exact Or.inr rfl

/-- What a digit string and a power of ten stand for. -/
def scaled (dg : Nat × Int) : ℚ := dg.1 * 10 ^ dg.2

namespace Binary

variable {x y : Binary} {q : ℚ}

/-! ## Intervals of rounding -/

/-- Four times the mantissa, lowered to the middle between the number and the one below it. -/
def lowerEnd (x : Binary) : Nat := 4 * x.mantissa - (if x.narrowBelow then 1 else 2)

/-- Four times the mantissa, raised to the middle between the number and the one above it. -/
def upperEnd (x : Binary) : Nat := 4 * x.mantissa + 2

/-- Whether a reader that rounds takes a decimal for the number. -/
def Takes (x : Binary) (q : ℚ) : Prop :=
  if x.mantissa % 2 = 0 then
    x.lowerEnd * 2 ^ (x.exponent - 2) ≤ q ∧ q ≤ x.upperEnd * 2 ^ (x.exponent - 2)
  else x.lowerEnd * 2 ^ (x.exponent - 2) < q ∧ q < x.upperEnd * 2 ^ (x.exponent - 2)

theorem lowerEnd_le (x : Binary) : x.lowerEnd ≤ 4 * x.mantissa := Nat.sub_le ..

theorem lowerEnd_lt (h : x.mantissa ≠ 0) : x.lowerEnd < 4 * x.mantissa := by
  unfold lowerEnd
  split <;> omega

theorem readsBack_iff_takes {d : Nat} {g : Int} :
    x.readsBack d g = true ↔ x.Takes (scaled (d, g)) := by
  change (if x.mantissa % 2 = 0 then
      compareScaled x.lowerEnd (x.exponent - 2) d g != .gt &&
        compareScaled x.upperEnd (x.exponent - 2) d g != .lt
    else compareScaled x.lowerEnd (x.exponent - 2) d g == .lt &&
      compareScaled x.upperEnd (x.exponent - 2) d g == .gt) = true ↔ _
  rw [compareScaled_eq_compare, compareScaled_eq_compare]
  unfold Takes scaled
  split
  · rw [Bool.and_eq_true, bne_iff_ne, bne_iff_ne, compare_le_iff_le, compare_ge_iff_ge]
  · rw [Bool.and_eq_true, beq_iff_eq, beq_iff_eq, compare_lt_iff_lt, compare_gt_iff_gt]

/-- The number itself is among them. -/
theorem takes_self (x : Binary) : x.Takes (x.mantissa * 2 ^ x.exponent) := by
  have hunit : (0 : ℚ) < 2 ^ (x.exponent - 2) := by positivity
  have hself : (x.mantissa : ℚ) * 2 ^ x.exponent = (4 * x.mantissa : Nat) * 2 ^ (x.exponent - 2) := by
    have hsplit : (2 : ℚ) ^ x.exponent = 4 * 2 ^ (x.exponent - 2) := by
      rw [zpow_sub₀ (by norm_num)]
      norm_num
      ring
    rw [hsplit]
    push_cast
    ring
  have hupper : 4 * x.mantissa < x.upperEnd := by
    unfold upperEnd
    omega
  rw [hself]
  unfold Takes
  split
  · exact ⟨by gcongr; exact x.lowerEnd_le, by gcongr⟩
  · exact ⟨by gcongr; exact lowerEnd_lt (by omega), by gcongr⟩

/-! ## The search -/

/-- Both neighbours of the number on a grid are tried, and one is given that is read back. -/
theorem takes_of_onGrid? {tie : Tie} {g : Int} {d : Nat} (h : x.onGrid? tie g = some d) :
    x.Takes (scaled (d, g)) := by
  rw [← readsBack_iff_takes]
  unfold onGrid? at h
  generalize x.floorAt g = n at h
  have hbelow (hd : d = n) (h : (n != 0 && x.readsBack n g) = true) : x.readsBack d g = true :=
    hd ▸ (Bool.and_eq_true_iff.1 h).2
  have habove (hd : d = n + 1) (h : x.readsBack (n + 1) g = true) : x.readsBack d g = true := hd ▸ h
  dsimp only at h
  split at h
  · rename_i hboth
    obtain ⟨hlow, hhigh⟩ := Bool.and_eq_true_iff.1 hboth
    split at h
    · exact hbelow (Option.some.inj h).symm hlow
    · rcases tie.choose_cases n with hchoose | hchoose
      · exact hbelow ((Option.some.inj h).symm.trans hchoose) hlow
      · exact habove ((Option.some.inj h).symm.trans hchoose) hhigh
    · exact habove (Option.some.inj h).symm hhigh
  split at h
  · exact hbelow (Option.some.inj h).symm ‹_›
  split at h
  · exact habove (Option.some.inj h).symm ‹_›
  · cases h

theorem takes_of_search {tie : Tie} {k : Int} {digits tries : Nat} {dg : Nat × Int}
    (h : x.search tie k digits tries = some dg) : x.Takes (scaled dg) := by
  induction tries generalizing digits with
  | zero => cases h
  | succ tries ih =>
    rw [search] at h
    split at h
    · rename_i d hd
      obtain rfl := Option.some.inj h
      exact takes_of_onGrid? hd
    · exact ih h

/-- Zeros at the end are dropped with the power of ten raised. -/
theorem scaled_dropZeros (steps d : Nat) (g : Int) : scaled (dropZeros steps d g) = scaled (d, g) := by
  induction steps generalizing d g with
  | zero => rfl
  | succ steps ih =>
    rw [dropZeros]
    split
    · rename_i h
      rw [Bool.and_eq_true, decide_eq_true_eq] at h
      have hd : (d : ℚ) = (d / 10 : Nat) * 10 := by
        have hmul : d = d / 10 * 10 := by omega
        exact_mod_cast hmul
      rw [ih, scaled, scaled, hd, zpow_add_one₀ (by norm_num)]
      ring
    · rfl

/-- The number itself in decimal digits. -/
theorem scaled_exactDigits (m : Nat) (e : Int) :
    scaled (m * Nat.pow 5 (-e).toNat * Nat.pow 2 e.toNat, min e 0) = m * 2 ^ e := by
  change ((m * 5 ^ (-e).toNat * 2 ^ e.toNat : Nat) : ℚ) * 10 ^ min e 0 = _
  push_cast
  rw [← zpow_mul_pow_toNat (by norm_num : (2 : ℚ) ≠ 0) e]
  have hten : (5 : ℚ) ^ (-e).toNat * 2 ^ (-e).toNat * 10 ^ min e 0 = 1 := by
    have hexponent : ((-e).toNat : Int) + min e 0 = 0 := by omega
    rw [← mul_pow, ← zpow_natCast, show (5 * 2 : ℚ) = 10 by norm_num,
      ← zpow_add₀ (by norm_num), hexponent, zpow_zero]
  linear_combination (m * 2 ^ e : ℚ) * hten

/-- Without a hit the digits are those of the number itself. -/
theorem takes_shortest (x : Binary) (tie : Tie) : x.Takes (scaled (x.shortest tie)) := by
  unfold shortest
  split
  · rename_i hzero
    have hself := x.takes_self
    rw [hzero] at hself
    simpa [scaled] using hself
  split
  · rename_i d g hsearch
    rw [scaled_dropZeros]
    exact takes_of_search hsearch
  · rw [scaled_exactDigits]
    exact x.takes_self

/-! ## One number for each decimal -/

/-- What holds of the parts of every floating-point number: the mantissa has 53 binary digits, or the
exponent is the least; and the number below is nearer than the one above exactly at a power of two. -/
structure Normal (x : Binary) : Prop where
  mantissa_lt : x.mantissa < 2 ^ 53
  le_exponent : -1074 ≤ x.exponent
  le_mantissa : -1074 < x.exponent → 2 ^ 52 ≤ x.mantissa
  narrowBelow_iff : x.narrowBelow = true ↔ x.mantissa = 2 ^ 52 ∧ -1074 < x.exponent

/-- Whether one number lies below another, by their parts. -/
def Below (x y : Binary) : Prop :=
  x.exponent < y.exponent ∨ x.exponent = y.exponent ∧ x.mantissa < y.mantissa

namespace Normal

/-- Between two numbers of one exponent the middle is taken by the one with the even mantissa. -/
theorem upperEnd_le_lowerEnd_of_eq (hy : y.Normal) (hx : x.Normal)
    (hexponent : x.exponent = y.exponent) (h : x.mantissa < y.mantissa) :
    x.upperEnd ≤ y.lowerEnd ∧ (x.upperEnd = y.lowerEnd → x.mantissa % 2 ≠ y.mantissa % 2) := by
  have hnarrow : y.narrowBelow = false := by
    by_contra hnarrow
    obtain ⟨hmantissa, hleast⟩ := hy.narrowBelow_iff.1 (Bool.of_not_eq_false hnarrow)
    have := hx.le_mantissa (hexponent ▸ hleast)
    omega
  unfold upperEnd lowerEnd
  rw [hnarrow, if_neg Bool.false_ne_true]
  omega

/-- The middle between the last number of an exponent and the first one of the next is taken by the
latter. -/
theorem upperEnd_le_lowerEnd_of_lt (hx : x.Normal) (hy : y.Normal) {k : Nat} (hk : 0 < k)
    (hexponent : x.exponent + k = y.exponent) :
    x.upperEnd ≤ y.lowerEnd * 2 ^ k ∧
      (x.upperEnd = y.lowerEnd * 2 ^ k → x.mantissa % 2 ≠ y.mantissa % 2) := by
  have hbound := hx.mantissa_lt
  have hleast : -1074 < y.exponent := by
    have := hx.le_exponent
    omega
  have hfull := hy.le_mantissa hleast
  have hnarrow := hy.narrowBelow_iff
  have hlower : 2 ^ 54 - 1 ≤ y.lowerEnd ∧ (y.lowerEnd < 2 ^ 54 → y.mantissa = 2 ^ 52) := by
    unfold lowerEnd
    split
    · omega
    · have : y.mantissa ≠ 2 ^ 52 := fun h => ‹¬ _› (hnarrow.2 ⟨h, hleast⟩)
      omega
  unfold upperEnd
  rcases Nat.lt_or_ge k 2 with hnext | hfar
  · obtain rfl : k = 1 := by omega
    omega
  · have hfour : y.lowerEnd * 2 ^ 2 ≤ y.lowerEnd * 2 ^ k :=
      Nat.mul_le_mul_left _ (Nat.pow_le_pow_right (by decide) hfar)
    omega

/-- Where one number lies below another, its interval ends where the other begins, or before; and the
point where they meet belongs to one of them. -/
theorem upperEnd_le_lowerEnd (hx : x.Normal) (hy : y.Normal) (h : x.Below y) :
    ((x.upperEnd : ℚ) * 2 ^ (x.exponent - 2) ≤ y.lowerEnd * 2 ^ (y.exponent - 2)) ∧
      ((x.upperEnd : ℚ) * 2 ^ (x.exponent - 2) = y.lowerEnd * 2 ^ (y.exponent - 2) →
        x.mantissa % 2 ≠ y.mantissa % 2) := by
  obtain ⟨k, hexponent⟩ : ∃ k : Nat, x.exponent + k = y.exponent :=
    ⟨(y.exponent - x.exponent).toNat, by unfold Below at h; omega⟩
  have hends : x.upperEnd ≤ y.lowerEnd * 2 ^ k ∧
      (x.upperEnd = y.lowerEnd * 2 ^ k → x.mantissa % 2 ≠ y.mantissa % 2) := by
    rcases h with h | ⟨h, hmantissa⟩
    · exact hx.upperEnd_le_lowerEnd_of_lt hy (by omega) hexponent
    · obtain rfl : k = 0 := by omega
      simpa using hy.upperEnd_le_lowerEnd_of_eq hx h hmantissa
  have hunit : (0 : ℚ) < 2 ^ (x.exponent - 2) := by positivity
  have hscale : (y.lowerEnd : ℚ) * 2 ^ (y.exponent - 2) =
      (y.lowerEnd * 2 ^ k : Nat) * 2 ^ (x.exponent - 2) := by
    have hsum : y.exponent - 2 = k + (x.exponent - 2) := by omega
    rw [hsum, zpow_add₀ (by norm_num), zpow_natCast]
    push_cast
    ring
  rw [hscale]
  refine ⟨by gcongr; exact hends.1, fun heq => hends.2 ?_⟩
  exact_mod_cast mul_right_cancel₀ hunit.ne' heq

/-- What is taken for a number is not taken for one below it. -/
theorem not_takes_of_below (hx : x.Normal) (hy : y.Normal) (h : x.Below y) (hxq : x.Takes q) :
    ¬ y.Takes q := by
  obtain ⟨hle, hparity⟩ := hx.upperEnd_le_lowerEnd hy h
  intro hyq
  unfold Takes at hxq hyq
  split at hxq <;> split at hyq
  · exact hparity (le_antisymm hle (hyq.1.trans hxq.2)) (by omega)
  · exact absurd (hle.trans_lt (hyq.1.trans_le hxq.2)) (lt_irrefl _)
  · exact absurd (hle.trans_lt (hyq.1.trans_lt hxq.2)) (lt_irrefl _)
  · exact absurd (hle.trans_lt (hyq.1.trans hxq.2)) (lt_irrefl _)

/-- No decimal is taken for two numbers. -/
theorem eq_of_takes (hx : x.Normal) (hy : y.Normal) (hxq : x.Takes q) (hyq : y.Takes q) :
    x.exponent = y.exponent ∧ x.mantissa = y.mantissa := by
  have hxy : ¬ x.Below y := fun h => hx.not_takes_of_below hy h hxq hyq
  have hyx : ¬ y.Below x := fun h => hy.not_takes_of_below hx h hyq hxq
  unfold Below at hxy hyx
  omega

end Normal

/-! ## The parts of a floating-point number -/

/-- The bits that a number is made from. -/
def bits (x : Binary) : Nat :=
  (if x.negative then 2 ^ 63 else 0) +
    if x.mantissa < 2 ^ 52 then x.mantissa
    else (x.exponent + 1075).toNat * 2 ^ 52 + (x.mantissa - 2 ^ 52)

/-- The parts that bits are made of: a sign, an exponent and a fraction. -/
def ofBits? (n : Nat) : Option Binary :=
  if n / 2 ^ 52 % 2 ^ 11 = 2047 then none
  else if n / 2 ^ 52 % 2 ^ 11 = 0 then some ⟨n / 2 ^ 63 == 1, n % 2 ^ 52, -1074, false⟩
  else
    some ⟨n / 2 ^ 63 == 1, 2 ^ 52 + n % 2 ^ 52, (n / 2 ^ 52 % 2 ^ 11 : Nat) - 1075,
      n % 2 ^ 52 == 0 && n / 2 ^ 52 % 2 ^ 11 != 1⟩

end Binary

theorem binary?_eq_ofBits? (x : Float) : binary? x = Binary.ofBits? x.toBits.toNat := rfl

/-- The parts are those of a floating-point number, and its bits are made from them. -/
theorem binary?_eq_some {x : Float} {b : Binary} (h : binary? x = some b) :
    b.Normal ∧ b.bits = x.toBits.toNat := by
  have hbits : x.toBits.toNat < 2 ^ 64 := x.toBits.toNat_lt
  rw [binary?_eq_ofBits?] at h
  generalize x.toBits.toNat = n at *
  unfold Binary.ofBits? at h
  have hsign : (if (n / 2 ^ 63 == 1) = true then 2 ^ 63 else 0) = n / 2 ^ 63 * 2 ^ 63 := by
    simp only [beq_iff_eq]
    split <;> omega
  split at h
  · cases h
  split at h
  · obtain rfl := Option.some.inj h
    refine ⟨⟨?_, le_rfl, ?_, ?_⟩, ?_⟩
    · dsimp only; omega
    · dsimp only; omega
    · simp
    · unfold Binary.bits
      dsimp only
      rw [hsign, if_pos (by omega)]
      omega
  · obtain rfl := Option.some.inj h
    refine ⟨⟨?_, ?_, ?_, ?_⟩, ?_⟩
    · dsimp only; omega
    · dsimp only; omega
    · dsimp only; omega
    · simp; omega
    · unfold Binary.bits
      dsimp only
      rw [hsign, if_neg (by omega)]
      omega

/-- A floating-point number is determined by its sign and any decimal that is taken for it. -/
theorem float_eq_of_takes {x y : Float} {a b : Binary} {q : ℚ} (hx : binary? x = some a)
    (hy : binary? y = some b) (hsign : a.negative = b.negative) (ha : a.Takes q) (hb : b.Takes q) :
    x = y := by
  obtain ⟨hna, hbitsa⟩ := binary?_eq_some hx
  obtain ⟨hnb, hbitsb⟩ := binary?_eq_some hy
  obtain ⟨hexponent, hmantissa⟩ := hna.eq_of_takes hnb ha hb
  have hbits : a.bits = b.bits := by
    unfold Binary.bits
    rw [hsign, hexponent, hmantissa]
  exact Float.toBits_inj.1 (UInt64.toNat_inj.1 (by rw [← hbitsa, ← hbitsb, hbits]))

/-- The exponent of an infinity, or of what is not a number, has all bits set. -/
theorem exponent_ne_of_isFinite {x : Float} (h : x.isFinite = true) :
    x.toBits.toNat / 2 ^ 52 % 2 ^ 11 ≠ 2047 := by
  intro hall
  have hexponent :
      @Float.Model.UnpackedFloat.unpackExponent .binary64 x.toBits.toBitVec = -1#11 := by
    rw [Float.Model.UnpackedFloat.unpackExponent_def]
    apply BitVec.eq_of_toNat_eq
    rw [BitVec.extractLsb'_toNat, Nat.shiftRight_eq_div_pow]
    exact hall
  have hnot : (Float.Model.UnpackedFloat.unpack .binary64 x.toBits.toBitVec).isFinite = false := by
    unfold Float.Model.UnpackedFloat.unpack
    dsimp only
    rw [if_pos hexponent]
    split <;> rfl
  exact Bool.false_ne_true (hnot.symm.trans h)

/-- A finite number has parts. -/
theorem exists_binary? {x : Float} (h : x.isFinite = true) : ∃ b, binary? x = some b := by
  rw [binary?_eq_ofBits?, Binary.ofBits?, if_neg (exponent_ne_of_isFinite h)]
  split
  · exact ⟨_, rfl⟩
  · exact ⟨_, rfl⟩

end TypedQuery.Number
