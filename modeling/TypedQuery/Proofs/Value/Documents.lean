import TypedQuery.Value.Coercion

/-!
# Documents and the values they stand for

A document comes as a value of its own, `Value.json`, or as the value it stands for, `Value.ofJson`.
The value has the document back: `Value.toJson_ofJson`.  Conversions treat the two alike only where
the declared type takes the document (`DataType.TakesDocument`): a null in a document is none of
them, and a number or a truth value is one for some types and not for others
(`Value.coerceTo?_json_bool_iff`, `Value.coerceTo?_json_integer_iff`).
-/

namespace TypedQuery

open Number

/-- A floating-point number, and not one inside an array or object. -/
def Json.IsFractional (j : Json) : Prop := ∃ x h, j = .number (.float x h)

/-- A document that is converted to the type as the value that it stands for. -/
def DataType.TakesDocument (type : DataType) : Json → Prop
  | .null => False
  | .bool _ => type ≠ .float ∧ type ≠ .double
  | .number (.integer n _) =>
    type ≠ .boolean ∧ type ≠ .decimal ∧ (type = .unsigned → n < 0x8000000000000000)
  | .number (.float _ _) => type = .float ∨ type = .double
  | .string _ | .array _ | .object _ => True

/-! ## Numbers -/

theorem Number.intText_natCast (n : Nat) : intText n = natText n := by
  unfold intText
  rw [if_neg (by omega), Int.natAbs_natCast]

namespace Value

/-- An integer in a document is that of a signed value, or above their range and that of an unsigned
one. -/
theorem ofNumber_integer_cases (n : Int)
    (fits : -0x8000000000000000 ≤ n ∧ n < 0x10000000000000000) :
    (∃ i : Int64, n = i.toInt ∧ n < 0x8000000000000000 ∧ toInt64? n = some i ∧
      ofNumber (.integer n fits) = .int i) ∨
    ∃ u : UInt64, n = u.toNat ∧ ¬ n < 0x8000000000000000 ∧ toInt64? n = none ∧
      ofNumber (.integer n fits) = .uint u := by
  by_cases hsmall : n < 0x8000000000000000
  · have hread : toInt64? n = some (Int64.ofInt n) := if_pos ⟨fits.1, hsmall⟩
    refine Or.inl ⟨_, ?_, hsmall, hread, ?_⟩
    · exact (Int64.toInt_ofInt_of_le fits.1 hsmall).symm
    · simp only [ofNumber, Json.Number.toInt64?, hread]
  · have hread : toInt64? n = none := if_neg fun h => hsmall h.2
    have hunsigned : toUInt64? n = some (UInt64.ofNat n.toNat) := if_pos ⟨by omega, fits.2⟩
    refine Or.inr ⟨UInt64.ofNat n.toNat, ?_, hsmall, hread, ?_⟩
    · rw [UInt64.toNat_ofNat_of_lt' (by rw [UInt64.size]; omega)]
      omega
    · simp only [ofNumber, Json.Number.toInt64?, Json.Number.toUInt64?, hread, hunsigned]

theorem toJson_ofNumber (n : Json.Number) : (ofNumber n).toJson = .number n := by
  cases n with
  | float x finite => exact dif_pos finite
  | integer n fits =>
    rcases ofNumber_integer_cases n fits with ⟨i, rfl, -, -, hvalue⟩ | ⟨u, rfl, -, -, hvalue⟩
    · rw [hvalue]
      rfl
    · rw [hvalue]
      rfl

/-! ## Whole documents -/

mutual

/-- The value of a document has that document. -/
theorem toJson_ofJson (j : Json) : (ofJson j).toJson = j := by
  cases j with
  | null | bool | string => rfl
  | number n => exact toJson_ofNumber n
  | array items => rw [ofJson, toJson, toJsonItems_ofJsonItems items]
  | object fields => rw [ofJson, toJson, toJsonFields_ofJsonFields fields]

theorem toJsonItems_ofJsonItems (items : List Json) : toJsonItems (ofJsonItems items) = items := by
  cases items with
  | nil => rfl
  | cons j rest => rw [ofJsonItems, toJsonItems, toJson_ofJson j, toJsonItems_ofJsonItems rest]

theorem toJsonFields_ofJsonFields (fields : List (String × Json)) :
    toJsonFields (ofJsonFields fields) = fields := by
  cases fields with
  | nil => rfl
  | cons field rest =>
    rw [ofJsonFields, toJsonFields, toJson_ofJson field.2, toJsonFields_ofJsonFields rest]

end

/-- A document that is neither null nor a floating-point number reads as its value does. -/
theorem text_json {j : Json} (hnull : j ≠ .null) (hj : ¬ j.IsFractional) :
    (Value.json j).text = (ofJson j).text := by
  cases j with
  | null => exact absurd rfl hnull
  | bool | string => rfl
  | array | object => exact congrArg Json.text (toJson_ofJson _).symm
  | number n =>
    cases n with
    | float x finite => exact absurd ⟨x, finite, rfl⟩ hj
    | integer n fits =>
      rcases ofNumber_integer_cases n fits with ⟨i, rfl, -, -, hvalue⟩ | ⟨u, rfl, -, -, hvalue⟩
      · rw [ofJson, hvalue]
        rfl
      · rw [ofJson, hvalue]
        exact intText_natCast _

/-! ## Conversions -/

section Conversion

variable {type : DataType}

theorem coerceTo?_json_bool_iff (b : Bool) (htype : type ≠ .json) :
    (Value.json (.bool b)).coerceTo? type = (Value.boolean b).coerceTo? type ↔
      type ≠ .float ∧ type ≠ .double := by
  cases type with
  | json => exact absurd rfl htype
  | float | double => exact iff_of_false nofun fun h => by simp at h
  | _ => exact iff_of_true rfl ⟨nofun, nofun⟩

theorem coerceTo?_json_integer_iff {n : Int}
    (fits : -0x8000000000000000 ≤ n ∧ n < 0x10000000000000000) (htype : type ≠ .json) :
    (Value.json (.number (.integer n fits))).coerceTo? type =
        (ofNumber (.integer n fits)).coerceTo? type ↔
      type ≠ .boolean ∧ type ≠ .decimal ∧ (type = .unsigned → n < 0x8000000000000000) := by
  rcases ofNumber_integer_cases n fits with ⟨i, rfl, hsmall, hread, hvalue⟩ |
    ⟨u, rfl, hlarge, hread, hvalue⟩
  · rw [hvalue]
    have hfits : ∀ target, (toInt64? i.toInt).map Value.int >>= ifFits target =
        ifFits target (.int i) := by
      intro target
      rw [hread]
      rfl
    cases type with
    | json => exact absurd rfl htype
    | boolean => exact iff_of_false nofun fun h => h.1 rfl
    | decimal => exact iff_of_false nofun fun h => h.2.1 rfl
    | short => exact iff_of_true (hfits .short) ⟨nofun, nofun, nofun⟩
    | int => exact iff_of_true (hfits .int) ⟨nofun, nofun, nofun⟩
    | long => exact iff_of_true (hfits .long) ⟨nofun, nofun, nofun⟩
    | unsigned =>
      refine iff_of_true ?_ ⟨nofun, nofun, fun _ => hsmall⟩
      change (toInt64? i.toInt >>= fun n => toUInt64? n.toInt).map Value.uint = _
      rw [hread]
      rfl
    | _ => exact iff_of_true rfl ⟨nofun, nofun, nofun⟩
  · rw [hvalue]
    cases type with
    | json => exact absurd rfl htype
    | boolean => exact iff_of_false nofun fun h => h.1 rfl
    | decimal => exact iff_of_false nofun fun h => h.2.1 rfl
    | short | int | long => exact iff_of_true rfl ⟨nofun, nofun, nofun⟩
    | unsigned =>
      refine iff_of_false ?_ fun h => hlarge (h.2.2 rfl)
      change (toInt64? u.toNat >>= fun n => toUInt64? n.toInt).map Value.uint ≠ _
      rw [hread]
      nofun
    | string | char | enum | custom =>
      refine iff_of_true ?_ ⟨nofun, nofun, nofun⟩
      exact congrArg (fun s => some (Value.string s)) (intText_natCast _)
    | _ => exact iff_of_true rfl ⟨nofun, nofun, nofun⟩

/-- A document is converted as its value is if the type takes it. -/
theorem coerceTo?_json_eq {j : Json} (htype : type ≠ .json) (h : type.TakesDocument j) :
    (Value.json j).coerceTo? type = (ofJson j).coerceTo? type := by
  cases j with
  | null => exact absurd h id
  | bool b => exact (coerceTo?_json_bool_iff b htype).2 h
  | string s =>
    cases type with
    | json => exact absurd rfl htype
    | _ => rfl
  | array | object =>
    cases type with
    | json => exact absurd rfl htype
    | string | char | enum | custom =>
      exact congrArg (fun j : Json => some (Value.string j.text)) (toJson_ofJson _).symm
    | _ => rfl
  | number n =>
    cases n with
    | integer n fits => exact (coerceTo?_json_integer_iff fits htype).2 h
    | float x finite => rcases h with rfl | rfl <;> rfl

end Conversion

end Value

end TypedQuery
