import TypedQuery.Proofs.Schema.Entries

/-!
# Types and their enumerations

Whatever the calls of a builder, its types are in the order of their names, each under its own
(`SchemaBuilder.IsIndexed`).  So a type has one entry, and the enumeration that the built schema has
under a name is that of the type it has there: `SchemaBuilder.filterFields?_eq_some_iff`.
-/

namespace TypedQuery.SchemaBuilder

/-- Types in the order of their names, each under its own. -/
structure IsIndexed (b : SchemaBuilder) : Prop where
  sorted : b.types.IsSorted
  named : ∀ entry ∈ b.types, entry.2.name = entry.1

section Calls

variable {b b' : SchemaBuilder}

/-- An entry is a type under its name or leaves the types as they are. -/
theorem types_of_enter {entry : SchemaEntry} (h : b.enter entry = .ok b') :
    b'.types = b.types ∨ ∃ t, b'.types = b.types.insert t.name t := by
  cases entry with
  | type t =>
    rw [addType_eq_ok h]
    exact Or.inr ⟨t, rfl⟩
  | field typeName f =>
    rw [(addField_eq_ok h).2.2]
    exact Or.inl rfl
  | mutation f =>
    rw [(addMutation_eq_ok h).2]
    exact Or.inl rfl

theorem isIndexed_start (queryType : String) (supply : Supply) :
    (start queryType supply).IsIndexed where
  sorted := List.pairwise_singleton _ _
  named entry hentry := by
    obtain rfl := List.mem_singleton.1 hentry
    rfl

theorem IsIndexed.enter (h : b.IsIndexed) {entry : SchemaEntry} (henter : b.enter entry = .ok b') :
    b'.IsIndexed := by
  rcases types_of_enter henter with htypes | ⟨t, htypes⟩
  · exact ⟨htypes ▸ h.sorted, htypes ▸ h.named⟩
  · refine ⟨htypes ▸ h.sorted.insert t.name t, fun entry hentry => ?_⟩
    rw [htypes] at hentry
    rcases Dict.eq_or_mem_of_mem_insert hentry with rfl | hentry
    · rfl
    · exact h.named entry hentry

theorem IsIndexed.performAll (h : b.IsIndexed) (calls : List SchemaCall) :
    (b.performAll calls).IsIndexed :=
  performAll_invariant (fun _ _ _ h henter => h.enter henter) h calls

end Calls

/-! ## Enumerations -/

section Built

variable {b : SchemaBuilder} {schema : Schema} {name : String} {e : FilterFieldEnum}

theorem IsIndexed.mem_enumerations (h : b.IsIndexed) :
    (name, e) ∈ b.enumerations ↔
      ∃ t, (name, t) ∈ b.types ∧ name ≠ b.queryType ∧ t.scalarMembers ≠ [] ∧
        t.filterFields = e := by
  unfold enumerations
  simp only [List.mem_map, List.mem_filter, Dict.values, Prod.mk.injEq, Bool.and_eq_true,
    bne_iff_ne, Bool.not_eq_true', List.isEmpty_eq_false_iff]
  constructor
  · rintro ⟨t, ⟨⟨entry, hentry, rfl⟩, hquery, hscalar⟩, rfl, rfl⟩
    refine ⟨entry.2, ?_, hquery, hscalar, rfl⟩
    rwa [h.named entry hentry]
  · rintro ⟨t, ht, hquery, hscalar, rfl⟩
    have hname : t.name = name := h.named _ ht
    exact ⟨t, ⟨⟨(name, t), ht, rfl⟩, hname ▸ hquery, hscalar⟩, hname, rfl⟩

theorem IsIndexed.isSorted_enumerations (h : b.IsIndexed) : b.enumerations.IsSorted := by
  have htypes : b.types.values.Pairwise fun t t' => t.name < t'.name := by
    refine List.pairwise_map.2 (h.sorted.imp_of_mem ?_)
    intro entry entry' hentry hentry' hlt
    rwa [h.named entry hentry, h.named entry' hentry']
  exact List.pairwise_map.2 (htypes.filter _)

theorem build_eq_ok (h : b.build = .ok schema) :
    schema = ⟨b.queryType, b.types, b.fields, b.mutations, b.enumerations⟩ := by
  unfold build at h
  split at h
  · cases h
  · exact (Except.ok.inj h).symm

/-- The enumerations of a built schema are those of its types with scalar members, but for the query
type. -/
theorem IsIndexed.filterFields?_eq_some_iff (h : b.IsIndexed) (hbuild : b.build = .ok schema) :
    schema.filterFields? name = some e ↔
      ∃ t, schema.type? name = some t ∧ name ≠ schema.queryType ∧ t.scalarMembers ≠ [] ∧
        t.filterFields = e := by
  rw [build_eq_ok hbuild]
  unfold Schema.filterFields? Schema.type?
  rw [h.isSorted_enumerations.get?_eq_some_iff, h.mem_enumerations]
  simp only [h.sorted.get?_eq_some_iff]

/-- A registered type has its filter fields for an enumeration, if it has any. -/
theorem IsIndexed.filterFields?_eq_some_iff_of_type? (h : b.IsIndexed)
    (hbuild : b.build = .ok schema) {t : TypeDescriptor} (htype : schema.type? name = some t)
    (hquery : name ≠ schema.queryType) :
    schema.filterFields? name = some e ↔ t.scalarMembers ≠ [] ∧ t.filterFields = e := by
  rw [h.filterFields?_eq_some_iff hbuild]
  constructor
  · rintro ⟨t', htype', -, hscalar, rfl⟩
    obtain rfl := Option.some.inj (htype.symm.trans htype')
    exact ⟨hscalar, rfl⟩
  · rintro ⟨hscalar, rfl⟩
    exact ⟨t, htype, hquery, hscalar, rfl⟩

end Built

end TypedQuery.SchemaBuilder
