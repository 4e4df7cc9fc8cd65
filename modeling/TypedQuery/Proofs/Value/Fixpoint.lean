import TypedQuery.Proofs.Value.Coercion

/-!
# Values that a conversion leaves alone

`Value.IsSettledAs` says of a value that it stands for a declared type as it is.  These are the
values that a conversion to the type leaves alone (`Value.coerceTo?_eq_self_iff`), and what is
converted to the type or read as it is one of them (`Value.isSettledAs_of_coerceTo?`,
`Value.isSettledAs_of_parseAs?`).  Types do not stand in for each other both ways, so it is the
type of the result that matters, and not that of the value it was made from.
-/

namespace TypedQuery.Value

/-- A value that stands for a declared type as it is: null, or one whose type stands in for the
declared one and that is in range. -/
def IsSettledAs (v : Value) (type : DataType) : Prop :=
  v = .null ∨ type.isCompatible v.dataType = true ∧ v.fits type = true

section Settled

variable {s : String} {type : DataType} {v w : Value}

/-- What a text is read as stands for the type. -/
theorem isSettledAs_of_parseAs? (h : parseAs? s type = some w) : w.IsSettledAs type :=
  Or.inr (isCompatible_and_fits_of_parseAs? h)

/-- What a value is converted to stands for the type. -/
theorem isSettledAs_of_coerceTo? (h : v.coerceTo? type = some w) : w.IsSettledAs type :=
  eq_null_or_isCompatible_and_fits_of_coerceTo? h

/-- A conversion leaves alone what stands for the type, and nothing else. -/
theorem coerceTo?_eq_self_iff : v.coerceTo? type = some v ↔ v.IsSettledAs type := by
  refine ⟨isSettledAs_of_coerceTo?, ?_⟩
  rintro (rfl | ⟨hcompatible, hfits⟩)
  · rfl
  · cases v with
    | null => rfl
    | _ => exact (if_pos hcompatible).trans (if_pos hfits)

end Settled

/-- A conversion leaves alone what a conversion to the same type gives, and what a text is read as of
that type; and what it leaves alone is what stands for the type as it is. -/
theorem coerceTo?_idempotent (type : DataType) (w : Value) :
    (∀ v : Value, v.coerceTo? type = some w → w.coerceTo? type = some w) ∧
    (∀ s : String, parseAs? s type = some w → w.coerceTo? type = some w) ∧
    (w.coerceTo? type = some w ↔ w.IsSettledAs type) :=
  ⟨fun _ h => coerceTo?_eq_self_iff.2 (isSettledAs_of_coerceTo? h),
    fun _ h => coerceTo?_eq_self_iff.2 (isSettledAs_of_parseAs? h), coerceTo?_eq_self_iff⟩

/-- The name of an enumeration's value stays as it is for a type of texts, which the value itself does
not stand in for, and so does the least integer of sixteen bits, read from a text with blanks. -/
theorem coerceTo?_idempotent_red :
    (Value.enum "Colour" "red").coerceTo? (.custom "Shade") = some (.string "red") ∧
    (Value.string "red").coerceTo? (.custom "Shade") = some (.string "red") ∧
    parseAs? " -32768 " .short = some (.int (-32768)) ∧
    (Value.int (-32768)).coerceTo? .short = some (.int (-32768)) := by
  have hred : (Value.enum "Colour" "red").coerceTo? (.custom "Shade") = some (.string "red") := rfl
  have hleast : parseAs? " -32768 " .short = some (.int (-32768)) := rfl
  exact ⟨hred, (coerceTo?_idempotent (.custom "Shade") (.string "red")).1 _ hred, hleast,
    (coerceTo?_idempotent .short (.int (-32768))).2.1 _ hleast⟩

end TypedQuery.Value
