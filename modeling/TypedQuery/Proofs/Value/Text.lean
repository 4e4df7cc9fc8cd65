import TypedQuery.Proofs.FieldPath
import TypedQuery.Proofs.Value.Coercion

/-!
# The text of a value, read back

Truth values, integers and texts are written without loss: `Value.exists_parseAs?_text` reads the text
of such a value as its type, and gets a value with that text.  For integers this is a round trip
through digits (`Number.readInt?_toList_intText`), in which nothing falls away as blank.  A text is
read as itself, also where the value was the name of an enumeration.

So the values of such a type are told apart by their texts: `Value.equal_iff_text_eq`.
-/

namespace TypedQuery

open Number Text

/-! ## Digits -/

theorem not_blank_of_isDigit {c : Char} (h : c.isDigit = true) : isBlank c = false := by
  simp only [Char.isDigit, Bool.and_eq_true, decide_eq_true_eq] at h
  have hlo : 48 ≤ c.toNat := UInt32.le_iff_toNat_le.1 h.1
  have hhi : c.toNat ≤ 57 := UInt32.le_iff_toNat_le.1 h.2
  simp only [isBlank, Bool.or_eq_false_iff, Bool.and_eq_false_iff, decide_eq_false_iff_not,
    beq_eq_false_iff_ne]
  omega

/-- A text without blanks is left as it is. -/
theorem trimmed_eq_self {cs : List Char} (h : ∀ c ∈ cs, isBlank c = false) : trimmed cs = cs := by
  have hfirst : cs.dropWhile isBlank = cs := by
    rw [List.dropWhile_eq_self_iff]
    intro hpos
    simp [h _ (List.getElem_mem hpos)]
  rw [trimmed_eq_rdropWhile, hfirst, List.rdropWhile_eq_self_iff]
  intro hne
  simp [h _ (List.getLast_mem hne)]

namespace Number

theorem isDigit_of_mem_toDigits {n : Nat} {c : Char} (h : c ∈ Nat.toDigits 10 n) :
    c.isDigit = true :=
  Nat.isDigit_of_mem_toDigits (by decide) (by decide) h

theorem readNat?_toDigits (n : Nat) : readNat? (Nat.toDigits 10 n) = some n := by
  have hne : (Nat.toDigits 10 n).isEmpty = false :=
    List.isEmpty_eq_false_iff.2 Nat.toDigits_ne_nil
  have hdigits : (Nat.toDigits 10 n).all Char.isDigit = true :=
    List.all_eq_true.2 fun c hc => isDigit_of_mem_toDigits hc
  rw [readNat?, hne, hdigits]
  exact congrArg some Nat.ofDigitChars_ten_toDigits

/-- Digits begin with no sign. -/
theorem readInt?_toDigits (n : Nat) : readInt? (Nat.toDigits 10 n) = some (n : Int) := by
  have hsign : ∀ c cs, Nat.toDigits 10 n = c :: cs → c.isDigit = true :=
    fun c cs h => isDigit_of_mem_toDigits (h ▸ List.mem_cons_self)
  unfold readInt?
  split
  · rename_i cs hcs
    exact absurd (hsign _ _ hcs) (by decide)
  · rename_i cs hcs
    exact absurd (hsign _ _ hcs) (by decide)
  · rw [readNat?_toDigits]
    rfl

theorem toList_intText (n : Int) :
    (intText n).toList =
      if n < 0 then '-' :: Nat.toDigits 10 n.natAbs else Nat.toDigits 10 n.natAbs := by
  unfold intText natText
  split
  · simp
  · simp

theorem not_blank_of_mem_intText {n : Int} {c : Char} (h : c ∈ (intText n).toList) :
    isBlank c = false := by
  rw [toList_intText] at h
  split at h
  · rcases List.mem_cons.1 h with rfl | h
    · rfl
    · exact not_blank_of_isDigit (isDigit_of_mem_toDigits h)
  · exact not_blank_of_isDigit (isDigit_of_mem_toDigits h)

theorem readInt?_toList_intText (n : Int) : readInt? (intText n).toList = some n := by
  rw [toList_intText]
  split
  · have hneg : -(n.natAbs : Int) = n := by omega
    rw [readInt?, readNat?_toDigits]
    exact congrArg some hneg
  · rw [readInt?_toDigits, Int.natAbs_of_nonneg (by omega)]

theorem toInt64?_toInt (n : Int64) : toInt64? n.toInt = some n :=
  (if_pos ⟨n.le_toInt, n.toInt_lt⟩).trans (congrArg some n.ofInt_toInt)

theorem toUInt64?_toNat (n : UInt64) : toUInt64? (n.toNat : Int) = some n := by
  have hhi := n.toNat_lt
  rw [toUInt64?, if_pos ⟨by omega, by omega⟩, Int.toNat_natCast, UInt64.ofNat_toNat]

theorem readInt64?_toList_intText (n : Int) :
    readInt64? (trimmed (intText n).toList) = toInt64? n := by
  rw [trimmed_eq_self fun c hc => not_blank_of_mem_intText hc, readInt64?, readInt?_toList_intText]
  rfl

theorem readInt64?_intText (n : Int64) :
    readInt64? (trimmed (intText n.toInt).toList) = some n := by
  rw [readInt64?_toList_intText, toInt64?_toInt]

theorem readUInt64?_toDigits (n : Nat) : readUInt64? (Nat.toDigits 10 n) = toUInt64? n := by
  unfold readUInt64?
  split
  · rename_i cs hcs
    exact absurd (isDigit_of_mem_toDigits (hcs ▸ List.mem_cons_self)) (by decide)
  · rw [readNat?_toDigits, Option.bind_eq_bind, Option.bind_some]

theorem readUInt64?_natText (n : UInt64) :
    readUInt64? (trimmed (natText n.toNat).toList) = some n := by
  have hblank : ∀ c ∈ Nat.toDigits 10 n.toNat, isBlank c = false :=
    fun c hc => not_blank_of_isDigit (isDigit_of_mem_toDigits hc)
  rw [natText, String.toList_ofList, trimmed_eq_self hblank, readUInt64?_toDigits, toUInt64?_toNat]

theorem natText_injective {m n : Nat} (h : natText m = natText n) : m = n := by
  have hread := readNat?_toDigits m
  rw [String.ofList_injective h, readNat?_toDigits] at hread
  exact (Option.some.inj hread).symm

theorem intText_injective {m n : Int} (h : intText m = intText n) : m = n := by
  have hread := readInt?_toList_intText m
  rw [h, readInt?_toList_intText] at hread
  exact (Option.some.inj hread).symm

end Number

/-! ## Values -/

/-- Whether the values of the type are written in a way that tells which value it is. -/
def DataType.isLossless : DataType → Bool
  | boolean | short | int | long | unsigned => true
  | type => type.isTextual

namespace Value

theorem cmpText_eq_eq_iff {a b : String} : cmpText a b = .eq ↔ a = b := by
  change compare a b = .eq ↔ a = b
  exact Std.compare_eq_iff_eq

theorem equal_int_iff {m n : Int64} : (Value.int m).equal (.int n) = true ↔ m.toInt = n.toInt :=
  beq_iff_eq.trans (Option.some_inj.trans Std.compare_eq_iff_eq)

theorem equal_uint_iff {m n : UInt64} : (Value.uint m).equal (.uint n) = true ↔ m.toNat = n.toNat :=
  beq_iff_eq.trans (Option.some_inj.trans (Std.compare_eq_iff_eq.trans Int.natCast_inj))

section Lossless

variable {type : DataType} {v w : Value} (htype : type.isLossless = true)

include htype

/-- The text of a value reads as a value with the same text: the value itself, or its text. -/
theorem exists_parseAs?_text (hw : type.isCompatible w.dataType = true) (hfits : w.fits type = true) :
    ∃ u, parseAs? w.text type = some u ∧ type.isCompatible u.dataType = true ∧ u.text = w.text := by
  cases type with
  | boolean =>
    cases w with
    | boolean b =>
      refine ⟨.boolean b, ?_, rfl, rfl⟩
      cases b <;> rfl
    | _ => cases hw
  | short | int | long =>
    cases w with
    | int n =>
      refine ⟨.int n, ?_, rfl, rfl⟩
      change (readInt64? (trimmed (intText n.toInt).toList)).map Value.int >>= ifFits _ = _
      rw [readInt64?_intText]
      exact (if_pos hfits : ifFits _ (Value.int n) = some (.int n))
    | _ => cases hw
  | unsigned =>
    cases w with
    | uint n =>
      refine ⟨.uint n, ?_, rfl, rfl⟩
      change (readUInt64? (trimmed (natText n.toNat).toList)).map Value.uint = _
      rw [readUInt64?_natText]
      rfl
    | _ => cases hw
  | string | char | enum | custom => exact ⟨.string w.text, rfl, rfl, rfl⟩
  | _ => cases htype

/-- Two values are equal if they have one text. -/
theorem equal_iff_text_eq (hv : type.isCompatible v.dataType = true)
    (hw : type.isCompatible w.dataType = true) : v.equal w = true ↔ v.text = w.text := by
  cases type with
  | boolean =>
    cases v with
    | boolean a =>
      cases w with
      | boolean b => cases a <;> cases b <;> decide
      | _ => cases hw
    | _ => cases hv
  | short | int | long =>
    cases v with
    | int m =>
      cases w with
      | int n => exact equal_int_iff.trans ⟨congrArg intText, intText_injective⟩
      | _ => cases hw
    | _ => cases hv
  | unsigned =>
    cases v with
    | uint m =>
      cases w with
      | uint n => exact equal_uint_iff.trans ⟨congrArg natText, natText_injective⟩
      | _ => cases hw
    | _ => cases hv
  | string | char | enum | custom =>
    cases v with
    | string | enum =>
      cases w with
      | string | enum => exact beq_iff_eq.trans (Option.some_inj.trans cmpText_eq_eq_iff)
      | _ => cases hw
    | _ => cases hv
  | _ => cases htype

end Lossless

end Value

end TypedQuery
