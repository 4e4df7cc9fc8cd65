import TypedQuery.Value.Coercion
import TypedQuery.Value.Order

/-!
# What conversions give, and what it compares with

A text that is read as a scalar type, and a value that is converted to one, has a type that stands
in for it and is in range: `Value.isCompatible_and_fits_of_parseAs?` and
`Value.eq_null_or_isCompatible_and_fits_of_coerceTo?`.  Apart from documents and floating-point
numbers, the values of all types that stand in for one are of one kind (`Value.kind?`), and values of
one kind have an order: `Value.isSome_cmp?_of_isCompatible`.
-/

namespace TypedQuery

/-- Kinds of values that have an order among themselves. -/
inductive OrderKind where
  | boolean
  | integer
  | unsigned
  | decimal
  | text
  | uuid
  | date
  | timestamp
  | null
deriving DecidableEq

/-- The kind of the values of a type.  Floating-point numbers have none, since not all of them have
an order, and documents have none, since what stands for one is not always one. -/
def DataType.kind? : DataType → Option OrderKind
  | boolean => some .boolean
  | short | int | long => some .integer
  | unsigned => some .unsigned
  | decimal => some .decimal
  | string | char | enum | custom _ => some .text
  | uuid => some .uuid
  | date => some .date
  | timestamp => some .timestamp
  | null => some .null
  | float | double | json => none

namespace Value

/-- The kind of a value, by which it has an order. -/
def kind? (v : Value) : Option OrderKind := v.dataType.kind?

/-! ## Reading and converting -/

section Conversion

variable {s : String} {type : DataType} {v w : Value}

theorem eq_of_ifFits (h : ifFits type v = some w) : w = v := by
  unfold ifFits at h
  split at h
  · exact (Option.some.inj h).symm
  · cases h

theorem fits_of_ifFits (h : ifFits type v = some w) : w.fits type = true := by
  unfold ifFits at h
  split at h
  · rename_i hfits
    exact Option.some.inj h ▸ hfits
  · cases h

/-- The integers of all widths are values of one type. -/
theorem isCompatible_and_fits_of_ifFits_int {x : Option Int64}
    (htype : type.isCompatible .long = true) (h : (x.map Value.int >>= ifFits type) = some w) :
    type.isCompatible w.dataType = true ∧ w.fits type = true := by
  obtain ⟨u, hu, h⟩ := Option.bind_eq_some_iff.1 h
  obtain ⟨n, -, rfl⟩ := Option.map_eq_some_iff.1 hu
  refine ⟨?_, fits_of_ifFits h⟩
  rw [eq_of_ifFits h]
  exact htype

/-- What a text is read as has a type that stands in for the other one, and of the texts that are
integers only those in range are read. -/
theorem isCompatible_and_fits_of_parseAs? (h : parseAs? s type = some v) :
    type.isCompatible v.dataType = true ∧ v.fits type = true := by
  unfold parseAs? at h
  cases type with
  | null => cases h
  | string | char | enum | custom =>
    obtain rfl := Option.some.inj h
    exact ⟨rfl, rfl⟩
  | short | int | long => exact isCompatible_and_fits_of_ifFits_int rfl h
  | _ =>
    obtain ⟨a, -, rfl⟩ := Option.map_eq_some_iff.1 h
    exact ⟨rfl, rfl⟩

/-- The cases of a conversion: a text is read, integers are checked for their range, and whatever else
comes out is a value of the type itself. -/
theorem isCompatible_and_fits_of_convert? (h : v.convert? type = some w) :
    type.isCompatible w.dataType = true ∧ w.fits type = true := by
  unfold convert? at h
  split at h
  case h_1 | h_2 => exact isCompatible_and_fits_of_parseAs? h
  case h_3 | h_4 | h_5 | h_6 | h_13 | h_14 | h_16 | h_17 | h_19 =>
    obtain rfl := Option.some.inj h
    exact ⟨rfl, rfl⟩
  case h_7 | h_8 | h_9 => exact isCompatible_and_fits_of_ifFits_int rfl h
  case h_10 | h_11 | h_12 | h_15 | h_18 =>
    obtain ⟨a, -, rfl⟩ := Option.map_eq_some_iff.1 h
    exact ⟨rfl, rfl⟩
  case h_20 => cases h

/-- What is converted to a type is null, or its own type stands in for that one and it is in range. -/
theorem eq_null_or_isCompatible_and_fits_of_coerceTo? (h : v.coerceTo? type = some w) :
    w = .null ∨ type.isCompatible w.dataType = true ∧ w.fits type = true := by
  unfold coerceTo? at h
  split at h
  · exact Or.inl (Option.some.inj h).symm
  · split at h
    · rename_i hcompatible
      obtain rfl := eq_of_ifFits h
      exact Or.inr ⟨hcompatible, fits_of_ifFits h⟩
    · exact Or.inr (isCompatible_and_fits_of_convert? h)

theorem eq_null_or_isCompatible_of_coerceTo? (h : v.coerceTo? type = some w) :
    w = .null ∨ type.isCompatible w.dataType = true :=
  (eq_null_or_isCompatible_and_fits_of_coerceTo? h).imp_right And.left

theorem isCompatible_and_fits_of_coerceTo? (hnull : w ≠ .null) (h : v.coerceTo? type = some w) :
    type.isCompatible w.dataType = true ∧ w.fits type = true :=
  (eq_null_or_isCompatible_and_fits_of_coerceTo? h).resolve_left hnull

end Conversion

/-! ## Comparing -/

section Comparison

variable {type : DataType} {kind : OrderKind} {v w : Value}

/-- Types that stand in for one have values of its kind. -/
theorem kind?_eq_of_isCompatible (htype : type.kind? = some kind)
    (h : type.isCompatible v.dataType = true) : v.kind? = some kind := by
  rw [← htype]
  cases type <;> cases htype <;> cases v <;> first | rfl | cases h

/-- Values of one kind have an order. -/
theorem isSome_cmp?_of_kind? (hv : v.kind? = some kind) (hw : w.kind? = some kind) :
    (v.cmp? w).isSome = true := by
  cases v <;> cases hv <;> cases w <;> cases hw <;> rfl

/-- Null comes before everything. -/
theorem isSome_cmp?_null (w : Value) : (cmp? .null w).isSome = true := by
  cases w <;> rfl

/-- Values whose types stand in for one type have an order, if that type has a kind. -/
theorem isSome_cmp?_of_isCompatible (htype : type.kind?.isSome = true)
    (hv : type.isCompatible v.dataType = true) (hw : type.isCompatible w.dataType = true) :
    (v.cmp? w).isSome = true := by
  obtain ⟨kind, hkind⟩ := Option.isSome_iff_exists.1 htype
  exact isSome_cmp?_of_kind? (kind?_eq_of_isCompatible hkind hv) (kind?_eq_of_isCompatible hkind hw)

end Comparison

end Value

end TypedQuery
