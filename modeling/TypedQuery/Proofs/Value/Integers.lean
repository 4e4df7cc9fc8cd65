import TypedQuery.Proofs.Value.Order
import TypedQuery.Proofs.Value.Text

/-!
# Integers as values of other types

One integer comes as a signed or an unsigned value, as a number or a text in a document, as a decimal
and as digits (`Value.Represents`).  A conversion to an integer type asks for the integer alone: the
value has it exactly where it is in the type's range, `DataType.integer?`, and there is none where it
is not.

Numbers are read as a signed integer first (`Value.asInt?_of_represents`), and
`Number.map_int_toInt64?` says that the signed types lose nothing by that.  The unsigned type does:
what only an unsigned integer can be has no signed one to be read as.  An unsigned value is of that
type already and texts have a reader of their own, but numbers in documents and decimals are lost, as
`Value.coerceTo?_of_represents` says.
-/

namespace TypedQuery

open Number Text

/-! ## Ranges -/

namespace DataType

/-- The integers of a type: from the first on, below the second. -/
def range? : DataType → Option (Int × Int)
  | short => some (-0x8000, 0x8000)
  | int => some (-0x80000000, 0x80000000)
  | long => some (-0x8000000000000000, 0x8000000000000000)
  | unsigned => some (0, 0x10000000000000000)
  | _ => none

/-- The value with which a type carries an integer. -/
def carrier (type : DataType) (n : Int) : Value :=
  match type with
  | unsigned => .uint (UInt64.ofNat n.toNat)
  | _ => .int (Int64.ofInt n)

/-- An integer as a value of a type, if it is in the range. -/
def integer? (type : DataType) (n : Int) : Option Value :=
  type.range? >>= fun (least, bound) => if least ≤ n ∧ n < bound then some (type.carrier n) else none

end DataType

namespace Number

/-- A signed type takes the integers of its own range out of the signed ones. -/
theorem map_int_toInt64? {type : DataType} (htype : type.isCompatible .long = true) (n : Int) :
    (toInt64? n).map Value.int >>= Value.ifFits type = type.integer? n := by
  by_cases h : -0x8000000000000000 ≤ n ∧ n < 0x8000000000000000
  · have hexact : (Int64.ofInt n).toInt = n := Int64.toInt_ofInt_of_le h.1 h.2
    rw [toInt64?, if_pos h]
    cases type with
    | short | int =>
      simp [Value.ifFits, Value.fits, hexact, DataType.integer?, DataType.range?, DataType.carrier]
    | long => simp [Value.ifFits, Value.fits, DataType.integer?, DataType.range?, h, DataType.carrier]
    | _ => cases htype
  · rw [toInt64?, if_neg h]
    cases type with
    | short | int | long => exact (if_neg (by omega)).symm
    | _ => cases htype

theorem map_uint_toUInt64? (n : Int) :
    (toUInt64? n).map Value.uint = DataType.unsigned.integer? n := by
  by_cases h : 0 ≤ n ∧ n < 0x10000000000000000
  · rw [toUInt64?, if_pos h]
    exact (if_pos h).symm
  · rw [toUInt64?, if_neg h]
    exact (if_neg h).symm

/-- Read as a signed integer, an unsigned one is there as far as the signed range goes. -/
theorem toInt64?_bind_toUInt64? (n : Int) :
    (toInt64? n >>= fun i => toUInt64? i.toInt) =
      if 0x8000000000000000 ≤ n then none else toUInt64? n := by
  unfold toInt64?
  split
  · rename_i h
    rw [if_neg (by omega), Option.bind_eq_bind, Option.bind_some, Int64.toInt_ofInt_of_le h.1 h.2]
  · rename_i h
    split
    · rfl
    · exact (if_neg (by omega)).symm

/-! ## Digits -/

theorem readUInt64?_toList_intText (n : Int) :
    readUInt64? (trimmed (intText n).toList) = toUInt64? n := by
  rw [trimmed_eq_self fun c hc => not_blank_of_mem_intText hc, toList_intText]
  split
  · -- The minus sign is no digit.
    rw [toUInt64?, if_neg (by omega)]
    rfl
  · rw [readUInt64?_toDigits, Int.natAbs_of_nonneg (by omega)]

end Number

/-! ## Decimals -/

/-- A decimal that stands for an integer is found to be one. -/
theorem Decimal.toInt?_of_toRat {d : Decimal} {n : Int} (h : d.toRat = n) : d.toInt? = some n := by
  have hscaled : d.digits * 10 ^ (-d.scale).toNat = n * 10 ^ d.scale.toNat := by
    have hplaces : -d.scale + (d.scale.toNat : Int) = (-d.scale).toNat := by omega
    have hcast : (d.digits : ℚ) * 10 ^ (-d.scale).toNat = n * 10 ^ d.scale.toNat := by
      rw [← h, toRat, mul_assoc, ← zpow_natCast, ← zpow_natCast, ← zpow_add₀ (by norm_num), hplaces]
    exact_mod_cast hcast
  have hunit : (10 : Int) ^ d.scale.toNat ≠ 0 := pow_ne_zero _ (by decide)
  unfold toInt?
  change (if d.digits = 0 then some 0 else if d.digits % 10 ^ d.scale.toNat = 0 then
    some (d.digits / 10 ^ d.scale.toNat * 10 ^ (-d.scale).toNat) else none) = some n
  split
  · rename_i hzero
    rw [hzero, Int.zero_mul, eq_comm, Int.mul_eq_zero] at hscaled
    rw [hscaled.resolve_right hunit]
  · rcases Int.le_total 0 d.scale with hpos | hneg
    · -- All places are behind the point, so the digits are a multiple of the unit.
      have hnone : (-d.scale).toNat = 0 := by omega
      rw [hnone, Int.pow_zero, Int.mul_one] at hscaled
      rw [hnone, Int.pow_zero, Int.mul_one, hscaled, Int.mul_emod_left, if_pos rfl,
        Int.mul_ediv_cancel _ hunit]
    · have hnone : d.scale.toNat = 0 := by omega
      rw [hnone, Int.pow_zero, Int.mul_one] at hscaled
      rw [hnone, Int.pow_zero, Int.emod_one, if_pos rfl, Int.ediv_one, hscaled]

/-! ## Representations -/

namespace Value

/-- An integer in one of its forms. -/
inductive Represents : Value → Int → Prop
  | int (i : Int64) : Represents (.int i) i.toInt
  | uint (u : UInt64) : Represents (.uint u) u.toNat
  | number (n : Int) (fits : -0x8000000000000000 ≤ n ∧ n < 0x10000000000000000) :
    Represents (.json (.number (.integer n fits))) n
  | decimal {d : Decimal} {n : Int} (h : d.toRat = n) : Represents (.decimal d) n
  | digits (n : Int) : Represents (.string (intText n)) n
  | document (n : Int) : Represents (.json (.string (intText n))) n

/-- Whether the value becomes unsigned by way of a signed integer. -/
def isReadSigned : Value → Bool
  | .json (.number _) | .decimal _ => true
  | _ => false

variable {v : Value} {n : Int} {type : DataType}

/-- What carries an integer represents it. -/
theorem represents_of_integer? {w : Value} (h : type.integer? n = some w) : w.Represents n := by
  have hsigned (hlo : -0x8000000000000000 ≤ n) (hhi : n < 0x8000000000000000) :
      (Value.int (Int64.ofInt n)).Represents n := by
    have hexact : (Int64.ofInt n).toInt = n := Int64.toInt_ofInt_of_le hlo hhi
    have hcarried := Represents.int (Int64.ofInt n)
    rw [hexact] at hcarried
    exact hcarried
  unfold DataType.integer? at h
  cases type with
  | short | int | long =>
    obtain ⟨hrange, hw⟩ := Option.ite_none_right_eq_some.1 h
    obtain rfl := Option.some.inj hw
    exact hsigned (by omega) (by omega)
  | unsigned =>
    obtain ⟨hrange, hw⟩ := Option.ite_none_right_eq_some.1 h
    obtain rfl := Option.some.inj hw
    have hexact : ((UInt64.ofNat n.toNat).toNat : Int) = n := by
      rw [UInt64.toNat_ofNat_of_lt' (by rw [UInt64.size]; omega), Int.toNat_of_nonneg hrange.1]
    have hcarried := Represents.uint (UInt64.ofNat n.toNat)
    rw [hexact] at hcarried
    exact hcarried
  | _ => cases h

theorem parseAs?_intText (htype : type.isInteger = true) :
    parseAs? (intText n) type = type.integer? n := by
  cases type with
  | short | int | long =>
    rw [← map_int_toInt64? rfl n, ← readInt64?_toList_intText]
    rfl
  | unsigned =>
    rw [← map_uint_toUInt64? n, ← readUInt64?_toList_intText]
    rfl
  | _ => cases htype

/-- Numbers are read as the signed integer that they represent. -/
theorem asInt?_of_represents (h : v.Represents n) (hv : v.isReadSigned = true) :
    v.asInt? = toInt64? n := by
  cases h with
  | number => rfl
  | decimal h => rw [asInt?, Decimal.toInt?_of_toRat h, Option.bind_eq_bind, Option.bind_some]
  | _ => cases hv

theorem coerceTo?_of_isReadSigned (h : v.Represents n) (hv : v.isReadSigned = true)
    (htype : type.isInteger = true) :
    v.coerceTo? type = if 0x8000000000000000 ≤ n then none else type.integer? n := by
  have hread := asInt?_of_represents h hv
  have hsigned {t : DataType} (ht : t.isCompatible .long = true) :
      v.coerceTo? t = v.asInt?.map Value.int >>= ifFits t := by
    cases t with
    | short | int | long =>
      cases h with
      | number | decimal => rfl
      | _ => cases hv
    | _ => cases ht
  have hunsigned : v.coerceTo? .unsigned =
      (v.asInt? >>= fun i => toUInt64? i.toInt).map Value.uint := by
    cases h with
    | number | decimal => rfl
    | _ => cases hv
  cases type with
  | short | int | long =>
    rw [hsigned rfl, hread, map_int_toInt64? rfl]
    split
    · exact if_neg (by omega)
    · rfl
  | unsigned =>
    rw [hunsigned, hread, toInt64?_bind_toUInt64?, ← map_uint_toUInt64?]
    by_cases hgreat : 0x8000000000000000 ≤ n
    · rw [if_pos hgreat, if_pos hgreat]
      rfl
    · rw [if_neg hgreat, if_neg hgreat]
  | _ => cases htype

theorem coerceTo?_int (i : Int64) (htype : type.isInteger = true) :
    (Value.int i).coerceTo? type = type.integer? i.toInt := by
  cases type with
  | short | int | long =>
    rw [← map_int_toInt64? rfl, toInt64?_toInt]
    rfl
  | unsigned => exact map_uint_toUInt64? i.toInt
  | _ => cases htype

theorem coerceTo?_uint (u : UInt64) (htype : type.isInteger = true) :
    (Value.uint u).coerceTo? type = type.integer? u.toNat := by
  cases type with
  | short | int | long => exact map_int_toInt64? rfl u.toNat
  | unsigned =>
    rw [← map_uint_toUInt64?, toUInt64?_toNat]
    rfl
  | _ => cases htype

/-- Which value represents an integer plays no part, but for those that are read as signed: they are
lost above the signed range, for the unsigned type too.  What a conversion gives is the integer. -/
theorem coerceTo?_of_represents (h : v.Represents n) (htype : type.isInteger = true) :
    v.coerceTo? type =
        (if v.isReadSigned = true ∧ 0x8000000000000000 ≤ n then none else type.integer? n) ∧
      ∀ w, type.integer? n = some w → w.Represents n := by
  refine ⟨?_, fun w => represents_of_integer?⟩
  cases hv : v.isReadSigned with
  | true => simpa using coerceTo?_of_isReadSigned h hv htype
  | false =>
    rw [if_neg (by simp)]
    cases h with
    | int i => exact coerceTo?_int i htype
    | uint u => exact coerceTo?_uint u htype
    | digits n | document n =>
      rw [← parseAs?_intText htype]
      cases type with
      | short | int | long | unsigned => rfl
      | _ => cases htype
    | number | decimal => cases hv

/-- The greatest integer of a type, as a decimal with places and as a text in a document. -/
theorem coerceTo?_greatest :
    (Value.decimal ⟨3276700, 2⟩).Represents 32767 ∧
    (Value.decimal ⟨3276700, 2⟩).coerceTo? .short = some (.int 32767) ∧
    (Value.json (.string "18446744073709551615")).Represents 18446744073709551615 ∧
    (Value.json (.string "18446744073709551615")).coerceTo? .unsigned =
      some (.uint 18446744073709551615) := by
  have hplaces : (Value.decimal ⟨3276700, 2⟩).Represents 32767 :=
    .decimal (by decide +kernel)
  have htext : (Value.json (.string "18446744073709551615")).Represents 18446744073709551615 :=
    .document 18446744073709551615
  exact ⟨hplaces, (coerceTo?_of_represents hplaces rfl).1.trans rfl, htext,
    (coerceTo?_of_represents htext rfl).1.trans rfl⟩

/-- The first integer above the signed range is in the unsigned one.  It is found in a text and lost in
a number of a document and in a decimal. -/
theorem coerceTo?_firstUnsigned :
    DataType.unsigned.integer? 9223372036854775808 = some (.uint 9223372036854775808) ∧
    (Value.json (.string "9223372036854775808")).coerceTo? .unsigned =
      some (.uint 9223372036854775808) ∧
    (Value.json (.number (.integer 9223372036854775808 (by decide)))).coerceTo? .unsigned = none ∧
    (Value.decimal (.ofInt 9223372036854775808)).coerceTo? .unsigned = none :=
  ⟨rfl, rfl, rfl, rfl⟩

end Value

end TypedQuery
