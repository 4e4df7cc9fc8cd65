import TypedQuery.Plan.Arguments
import TypedQuery.Proofs.Plan.Windows

/-!
# What arguments are bound to

A page and a page size are converted to 32-bit integers, so `PageSpec.skip` counts the items in
front of a page that arguments ask for without leaving the 64-bit range.  A field without arguments
that shape the query asks for nothing.
-/

namespace TypedQuery

/-! ## Pages -/

/-- A number of 32 bits, if there is one. -/
def IsNarrow (n : Option Int64) : Prop := ∀ m ∈ n, -2 ^ 31 ≤ m.toInt ∧ m.toInt < 2 ^ 31

theorem isNarrow_none : IsNarrow none := nofun

/-- In front of a page with a narrow number and size the items are counted exactly. -/
theorem PageSpec.toNat_skip {p : PageSpec} (hpage : IsNarrow p.page) (hsize : IsNarrow p.size) :
    p.skip.toInt.toNat = p.offset := by
  obtain ⟨page, size⟩ := p
  cases page with
  | none => rfl
  | some page =>
    cases size with
    | none => rfl
    | some size =>
      obtain ⟨hplo, hphi⟩ := hpage page rfl
      obtain ⟨hslo, hshi⟩ := hsize size rfl
      have hbound : page.toInt.natAbs * size.toInt.natAbs ≤ 2 ^ 31 * 2 ^ 31 :=
        Nat.mul_le_mul (by omega) (by omega)
      rw [← Int.natAbs_mul] at hbound
      rw [PageSpec.toNat_skip_eq, PageSpec.offset]
      dsimp only
      omega

/-! ## Conversions -/

theorem isNarrow_of_ifFits {x : Option Int64} {v : Value}
    (h : (x.map Value.int >>= Value.ifFits .int) = some v) : IsNarrow v.asInt? := by
  cases x with
  | none => cases h
  | some n =>
    change Value.ifFits .int (.int n) = some v at h
    unfold Value.ifFits at h
    split at h
    · rename_i hfits
      obtain rfl := Option.some.inj h
      intro m hm
      obtain rfl := Option.some.inj hm
      simpa [Value.fits] using hfits
    · cases h

theorem coerceTo_int (v : Value) :
    v.coerceTo? .int = some .null ∨
      ∃ x : Option Int64, v.coerceTo? .int = x.map Value.int >>= Value.ifFits .int := by
  cases v with
  | null => exact Or.inl rfl
  | int n => exact Or.inr ⟨some n, rfl⟩
  | string s => exact Or.inr ⟨Number.readInt64? (Text.trimmed s.toList), rfl⟩
  | json j =>
    cases j with
    | string s => exact Or.inr ⟨Number.readInt64? (Text.trimmed s.toList), rfl⟩
    | _ => exact Or.inr ⟨Value.asInt? (.json _), rfl⟩
  | _ => exact Or.inr ⟨Value.asInt? _, rfl⟩

/-- A value converted to an integer is a narrow one, or none. -/
theorem isNarrow_of_convertArgument {name : String} {v w : Value}
    (h : convertArgument name v .int = .ok w) : IsNarrow w.asInt? := by
  unfold convertArgument at h
  split at h
  · rename_i u hu
    obtain rfl := Except.ok.inj h
    rcases coerceTo_int v with hnull | ⟨x, hx⟩
    · obtain rfl := Option.some.inj (hnull.symm.trans hu)
      exact isNarrow_none
    · exact isNarrow_of_ifFits (hx.symm.trans hu)
  · cases h

/-! ## Bindings -/

/-- What the arguments of a field are bound to: narrow page numbers, and nothing for the query where
no argument shapes it. -/
structure BoundArguments.WellBound (f : SchemaField) (b : BoundArguments) : Prop where
  page : IsNarrow b.page
  pageSize : IsNarrow b.pageSize
  unshaped : f.isShaped = false → b.shaping = ⟨[], none, .all⟩

namespace BoundArguments

variable {f : SchemaField} {b b' : BoundArguments}

theorem WellBound.withSlot (h : b.WellBound f) (name : String) (v : Value) :
    (b.withSlot name v).WellBound f :=
  ⟨h.page, h.pageSize, h.unshaped⟩

theorem not_isShaped {a : ArgumentDescriptor} (ha : a ∈ f.arguments) {kind : ArgumentKind}
    (hkind : a.kind = kind) (hshaping : kind.isShaping = true) : f.isShaped ≠ false := by
  intro h
  have hnone := List.any_eq_false.1 h a ha
  rw [hkind, hshaping] at hnone
  exact hnone rfl

theorem WellBound.bindSupplied (h : b.WellBound f) {a : ArgumentDescriptor} (ha : a ∈ f.arguments)
    {e : Expr} (hb : bindSupplied b a e = .ok b') : b'.WellBound f := by
  unfold TypedQuery.bindSupplied at hb
  obtain ⟨v, -, hb⟩ := bind_eq_ok_iff.1 hb
  cases hkind : a.kind with
  | value type =>
    simp only [hkind] at hb
    obtain ⟨w, -, hb⟩ := bind_eq_ok_iff.1 hb
    rw [← Except.ok.inj hb]
    exact h.withSlot _ _
  | filterQuery =>
    simp only [hkind] at hb
    obtain ⟨clauses, -, hb⟩ := bind_eq_ok_iff.1 hb
    rw [← Except.ok.inj hb]
    exact ⟨h.page, h.pageSize, fun hunshaped => absurd hunshaped (not_isShaped ha hkind rfl)⟩
  | sort =>
    simp only [hkind] at hb
    obtain ⟨spec, -, hb⟩ := bind_eq_ok_iff.1 hb
    rw [← Except.ok.inj hb]
    exact ⟨h.page, h.pageSize, fun hunshaped => absurd hunshaped (not_isShaped ha hkind rfl)⟩
  | page =>
    simp only [hkind] at hb
    obtain ⟨w, hw, hb⟩ := bind_eq_ok_iff.1 hb
    rw [← Except.ok.inj hb]
    exact ⟨isNarrow_of_convertArgument hw, h.pageSize,
      fun hunshaped => absurd hunshaped (not_isShaped ha hkind rfl)⟩
  | pageSize =>
    simp only [hkind] at hb
    obtain ⟨w, hw, hb⟩ := bind_eq_ok_iff.1 hb
    rw [← Except.ok.inj hb]
    exact ⟨h.page, isNarrow_of_convertArgument hw,
      fun hunshaped => absurd hunshaped (not_isShaped ha hkind rfl)⟩

theorem WellBound.bindArgument {lookup : MemberLookup} {supplied : Dict Expr} (h : b.WellBound f)
    {a : ArgumentDescriptor} (ha : a ∈ f.arguments)
    (hb : bindArgument f lookup supplied b a = .ok b') : b'.WellBound f := by
  unfold TypedQuery.bindArgument at hb
  split at hb
  · exact h.bindSupplied ha hb
  · split at hb
    · cases hb
    · rw [← Except.ok.inj hb]
      exact h.withSlot _ _

/-- The page that arguments ask for is counted exactly. -/
theorem WellBound.toNat_skip (h : b.WellBound f) :
    b.shaping.page.skip.toInt.toNat = b.shaping.page.offset :=
  PageSpec.toNat_skip h.page h.pageSize

end BoundArguments

end TypedQuery
