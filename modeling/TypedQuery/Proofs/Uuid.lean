import TypedQuery.Proofs.Number.Digits
import TypedQuery.Uuid

/-!
# The written form of identifiers

An identifier is written as 32 digits in five groups, and reads as itself: `Uuid.read?_text`.
-/

namespace TypedQuery.Uuid

open Number

/-- The digits of an identifier, without the hyphens. -/
def digits (u : Uuid) : List Char := zeroPadded 32 (Text.hexDigits u.bits.toNat)

theorem length_digits (u : Uuid) : u.digits.length = 32 := by
  have hbits : u.bits.toNat < 16 ^ 32 := u.bits.isLt
  exact length_zeroPadded ((Nat.length_toDigits_le_iff (by decide) (by decide)).2 hbits)

theorem ofDigits?_digits (u : Uuid) : ofDigits? u.digits = some u := by
  obtain ⟨ds, hds, hvalue⟩ := exists_hexValues_padded 32 u.bits.toNat
  have hbits : BitVec.ofNat 128 (ds.foldl (fun n d => 16 * n + d) 0) = u.bits := by
    rw [← hexValue, hvalue, BitVec.ofNat_toNat, BitVec.setWidth_eq]
  rw [ofDigits?, if_pos u.length_digits, digits, hds, Option.map_some, hbits]

/-- Five groups of digits with hyphens between them. -/
def grouped (a b c d e : List Char) : List Char :=
  a ++ ['-'] ++ b ++ ['-'] ++ c ++ ['-'] ++ d ++ ['-'] ++ e

section Groups

variable {a b c d e : List Char} (ha : a.length = 8) (hb : b.length = 4) (hc : c.length = 4)
  (hd : d.length = 4) (he : e.length = 12)

include ha hb hc hd he

theorem ofGroups?_grouped : ofGroups? (grouped a b c d e) = ofDigits? (a ++ b ++ c ++ d ++ e) := by
  unfold ofGroups? grouped
  simp [List.getElem?_append, List.drop_append, List.drop_eq_nil_of_le, ha, hb, hc, hd, he]

/-- Digits in five groups are read neither in braces nor as a name nor without groups. -/
theorem read?_grouped : read? (grouped a b c d e) = ofDigits? (a ++ b ++ c ++ d ++ e) := by
  have hlength : (grouped a b c d e).length = 36 := by simp [grouped, ha, hb, hc, hd, he]
  have hungrouped : ofDigits? (grouped a b c d e) = none := by
    rw [ofDigits?, if_neg (by rw [hlength]; decide)]
  rw [← ofGroups?_grouped ha hb hc hd he]
  simp [read?, hlength, hungrouped]

end Groups

/-- An identifier reads as it is written. -/
theorem read?_text (u : Uuid) : read? u.text.toList = some u := by
  have hlength := u.length_digits
  have htext : u.text.toList = grouped (u.digits.take 8) ((u.digits.drop 8).take 4)
      ((u.digits.drop 12).take 4) ((u.digits.drop 16).take 4) (u.digits.drop 20) :=
    String.toList_ofList
  have hall : u.digits.take 8 ++ (u.digits.drop 8).take 4 ++ (u.digits.drop 12).take 4 ++
      (u.digits.drop 16).take 4 ++ u.digits.drop 20 = u.digits := by
    rw [← List.take_add, ← List.take_add, ← List.take_add, List.take_append_drop]
  rw [htext, read?_grouped, hall, ofDigits?_digits] <;> simp [hlength]

theorem not_blank_of_mem_text {u : Uuid} {c : Char} (h : c ∈ u.text.toList) :
    Text.isBlank c = false := by
  have hdigit {c : Char} (h : c ∈ u.digits) : Text.isBlank c = false := by
    rcases mem_zeroPadded h with rfl | h
    · rfl
    · exact not_blank_of_mem_hexDigits h
  rw [text, String.toList_ofList] at h
  simp only [List.mem_append, List.mem_singleton] at h
  rcases h with (((((((h | rfl) | h) | rfl) | h) | rfl) | h) | rfl) | h
  · exact hdigit (List.mem_of_mem_take h)
  · rfl
  · exact hdigit (List.mem_of_mem_drop (List.mem_of_mem_take h))
  · rfl
  · exact hdigit (List.mem_of_mem_drop (List.mem_of_mem_take h))
  · rfl
  · exact hdigit (List.mem_of_mem_drop (List.mem_of_mem_take h))
  · rfl
  · exact hdigit (List.mem_of_mem_drop h)

end TypedQuery.Uuid
