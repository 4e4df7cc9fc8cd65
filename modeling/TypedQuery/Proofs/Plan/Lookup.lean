import TypedQuery.Plan.Path
import TypedQuery.Proofs.Except

/-!
# Looking names up

A look-up takes the entry that has the name asked for, and only where there is none the first one
whose name matches.  So an entry that was found is found again under its own name, by any look-up
(`MemberResolver.pick?_fst_of_pick?`), and what a look-up of exact names finds every other one finds
too (`MemberResolver.pick?_of_exact`).  The members of a type are looked up in one list of entries,
`Schema.entries?`.
-/

namespace TypedQuery

/-! ## Matches -/

/-- Names that match one name match each other. -/
theorem MemberLookup.pairs_of_pairs (lookup : MemberLookup) {a b name : String}
    (ha : lookup.pairs a name = true) (hb : lookup.pairs b name = true) :
    lookup.pairs a b = true := by
  cases lookup with
  | exact =>
    rw [pairs, beq_iff_eq] at ha hb ⊢
    rw [ha, hb]
  | ignoreCase =>
    rw [pairs, Text.eqIgnoringCase_iff] at ha hb ⊢
    rw [ha, hb]

theorem MemberLookup.pairs_of_exact (lookup : MemberLookup) {a b : String}
    (h : MemberLookup.exact.pairs a b = true) : lookup.pairs a b = true := by
  rw [beq_iff_eq.1 h, pairs_refl]

theorem MemberLookup.eqIgnoringCase_of_pairs {lookup : MemberLookup} {a b : String}
    (h : lookup.pairs a b = true) : Text.eqIgnoringCase a b = true := by
  cases lookup with
  | exact => exact MemberLookup.ignoreCase.pairs_of_exact h
  | ignoreCase => exact h

namespace MemberResolver

/-! ## Entries -/

section Entries

variable {α : Type} {r : MemberResolver} {entries : List (String × α)} {name : String}
  {e : String × α}

theorem mem_of_pick? (h : r.pick? entries name = some e) : e ∈ entries := by
  unfold pick? at h
  rcases Option.or_eq_some_iff.1 h with h | ⟨-, h⟩
  · exact List.mem_of_find?_eq_some h
  · exact List.mem_of_find?_eq_some h

theorem pairs_of_pick? (h : r.pick? entries name = some e) : r.lookup.pairs e.1 name = true := by
  unfold pick? at h
  rcases Option.or_eq_some_iff.1 h with h | ⟨-, h⟩
  · have heq : e.1 = name := by simpa using List.find?_some h
    rw [heq, MemberLookup.pairs_refl]
  · have hpairs := List.find?_some h
    exact hpairs

theorem pick?_of_find? (h : entries.find? (·.1 == name) = some e) :
    r.pick? entries name = some e := by
  rw [pick?, h, Option.some_or]

theorem find?_of_pick?_exact {s : Schema}
    (h : (MemberResolver.mk s .exact).pick? entries name = some e) :
    entries.find? (·.1 == name) = some e := by
  rcases Option.or_eq_some_iff.1 h with h | ⟨-, h⟩
  · exact h
  · exact h

/-- An entry of the very name is found whatever else matches. -/
theorem pick?_of_exact {s : Schema} (h : (MemberResolver.mk s .exact).pick? entries name = some e) :
    r.pick? entries name = some e :=
  pick?_of_find? (find?_of_pick?_exact h)

/-- The first entry whose name passes a test is the first one of that name. -/
theorem find?_fst_of_find? (test : String → Bool)
    (h : entries.find? (fun entry => test entry.1) = some e) :
    entries.find? (·.1 == e.1) = some e := by
  obtain ⟨htest, before, after, rfl, hbefore⟩ := List.find?_eq_some_iff_append.1 h
  refine List.find?_eq_some_iff_append.2 ⟨beq_self_eq_true e.1, before, after, rfl, ?_⟩
  intro entry hentry
  have hfails := hbefore entry hentry
  rw [Bool.not_eq_true'] at hfails ⊢
  refine beq_eq_false_iff_ne.2 fun heq => ?_
  rw [heq, htest] at hfails
  cases hfails

/-- What is found under some name is found under its own, by any look-up. -/
theorem pick?_fst_of_pick? {r' : MemberResolver} (h : r.pick? entries name = some e) :
    r'.pick? entries e.1 = some e := by
  refine pick?_of_find? ?_
  rcases Option.or_eq_some_iff.1 h with h | ⟨-, h⟩
  · exact find?_fst_of_find? (· == name) h
  · exact find?_fst_of_find? (r.lookup.pairs · name) h

end Entries

end MemberResolver

/-! ## Members -/

/-- The names to be found in a type, with their types: the members of an object type, the fields of
a record. -/
def Schema.entries? (s : Schema) : ExprType → Option (List (String × ExprType))
  | .object name => (s.type? name).map fun t => t.members.map fun m => (m.name, m.ty)
  | .record fields => some fields
  | _ => none

namespace MemberResolver

variable {r : MemberResolver} {owner : ExprType} {entries : List (String × ExprType)}
  {name : String}

theorem member_of_entries? (h : r.schema.entries? owner = some entries) :
    r.member owner name =
      match r.pick? entries name with
      | some m => .ok m
      | none => .error (.unknownField name owner.display) := by
  cases owner with
  | object typeName =>
    obtain ⟨t, ht, rfl⟩ := Option.map_eq_some_iff.1 h
    cases hpick : r.pick? (t.members.map fun m => (m.name, m.ty)) name with
    | none => simp only [member, ht, hpick]
    | some m => simp only [member, ht, hpick]
  | record fields =>
    obtain rfl := Option.some.inj h
    rfl
  | _ => cases h

/-- In a type without entries nothing is found. -/
theorem member_of_entries?_eq_none (h : r.schema.entries? owner = none) :
    r.member owner name =
      match owner with
      | .object typeName => .error (.unknownType typeName)
      | _ => .error (.unknownField name owner.display) := by
  cases owner with
  | object typeName =>
    have htype : r.schema.type? typeName = none := Option.map_eq_none_iff.1 h
    simp only [member, htype]
  | record fields => cases h
  | _ => rfl

theorem member_eq_ok_iff {m : String × ExprType} :
    r.member owner name = .ok m ↔
      ∃ entries, r.schema.entries? owner = some entries ∧ r.pick? entries name = some m := by
  cases hentries : r.schema.entries? owner with
  | none =>
    rw [member_of_entries?_eq_none hentries]
    cases owner <;> simp
  | some entries =>
    rw [member_of_entries? hentries]
    cases hpick : r.pick? entries name <;> simp [hpick]

end MemberResolver

end TypedQuery
