import TypedQuery.Proofs.Plan.Documents
import TypedQuery.Proofs.Value.Coercion

/-!
# What the slots of arguments show

The slot of an argument and what the argument asks the query for come from one supplied value, each
in its own way.  The slot shows what is asked for (`BoundArguments.Shows`): read again, the query in
the slot of a filter gives the clauses, the slot of a sort the sort, and the slots of a page and a
page size their numbers.  One step of the binding establishes this for its own argument
(`shows_of_bindValue`), and the later steps leave it alone if their arguments have other names and
ask for something else (`DiffersAt`, `Shows.of_differsAt`).

Of two filters the second one would replace the clauses of the first, and of two arguments of one
name the slot, which `bindArguments_slots` therefore excludes.
-/

namespace TypedQuery

/-! ## Reading slots -/

section Reading

variable {v w : Value} {j : Json} {spec : Option SortSpec}

/-- The filter in a slot has the document of the one that was supplied. -/
theorem exists_query_filterSlot (v : Value) :
    ∃ raw, (filterSlot v).get? "query" = some raw ∧ raw.toJson = v.toJson := by
  unfold filterSlot
  split
  · exact ⟨.null, rfl, rfl⟩
  · exact ⟨v, rfl, rfl⟩

/-- A slot says that there is a filter unless null was supplied, as a value or as a document. -/
theorem exists_hasValue_filterSlot (v : Value) :
    ∃ present, (filterSlot v).get? "hasValue" = some (.boolean present) ∧
      (present = true ↔ v ≠ .null ∧ v ≠ .json .null) := by
  unfold filterSlot
  split
  · exact ⟨false, rfl, nofun, fun h => absurd rfl h.2⟩
  · rename_i hdocument
    refine ⟨!v.isNull, rfl, ?_⟩
    cases v with
    | null => exact ⟨nofun, fun h => absurd rfl h.1⟩
    | json j => exact ⟨fun _ => ⟨nofun, hdocument⟩, fun _ => rfl⟩
    | _ => exact ⟨fun _ => ⟨nofun, nofun⟩, fun _ => rfl⟩

/-- A sort that was read has no blank field. -/
theorem not_blank_of_decodeSort {s : SortSpec} {p : FieldPath} (h : decodeSort j = .ok (some s))
    (hp : s.field = some p) : (Text.trimmed p.raw.toList).isEmpty = false := by
  have hspec : ∃ input : SortInput, s = input.spec := by
    unfold decodeSort at h
    split at h
    · cases h
    · obtain ⟨input, -, hinput⟩ := map_eq_ok_iff.1 h
      exact ⟨input, (Option.some.inj hinput).symm⟩
  obtain ⟨input, rfl⟩ := hspec
  obtain ⟨text, htext, rfl⟩ := Option.map_eq_some_iff.1 hp
  simpa using (Option.filter_eq_some_iff.1 htext).2

/-- A sort reads from its slot as it was read before. -/
theorem decodeSort_sortSlot (h : decodeSort j = .ok spec) :
    decodeSort (sortSlot spec).toJson = .ok spec := by
  cases spec with
  | none => rfl
  | some s =>
    have hblank := fun p => not_blank_of_decodeSort (p := p) h
    obtain ⟨field, direction⟩ := s
    cases field with
    | none => cases direction <;> rfl
    | some p =>
      have hkept : (SortInput.mk (some p.raw) direction).spec = ⟨some p, direction⟩ := by
        rw [SortInput.spec, Option.filter_some, if_pos (by rw [hblank p rfl]; rfl)]
        rfl
      have hread : SortInput.decode (sortSlot (some ⟨some p, direction⟩)).toJson =
          .ok ⟨some p.raw, direction⟩ := by
        cases direction <;> rfl
      change ((SortInput.decode _).mapError _).map _ = _
      rw [hread]
      exact congrArg (fun s => Except.ok (some s)) hkept

/-- A value that was converted to an integer is one, or null. -/
theorem eq_null_or_int_of_convertArgument {name : String} (h : convertArgument name v .int = .ok w) :
    w = .null ∨ ∃ n, w = .int n := by
  unfold convertArgument at h
  split at h
  · rename_i u hu
    obtain rfl := Except.ok.inj h
    refine (Value.eq_null_or_isCompatible_of_coerceTo? hu).imp_right fun hcompatible => ?_
    cases u with
    | int n => exact ⟨n, rfl⟩
    | _ => cases hcompatible
  · cases h

end Reading

/-! ## What a slot shows -/

namespace BoundArguments

/-- Whether the slot of an argument that was supplied as `v` shows what the argument asks for. -/
def Shows (b : BoundArguments) (a : ArgumentDescriptor) (v : Value) : Prop :=
  ∃ slot, b.holder.get? a.name = some slot ∧
    match a.kind with
    | .value type => v.coerceTo? type = some slot
    | .filterQuery =>
      (∃ raw inputs, slot.get? "query" = some raw ∧ clausesOfValue raw = .ok inputs ∧
        inputs.map FilterInput.clause = b.clauses) ∧
      ∃ present, slot.get? "hasValue" = some (.boolean present) ∧
        (present = true ↔ v ≠ .null ∧ v ≠ .json .null)
    | .sort => decodeSort slot.toJson = .ok b.sort
    | .page => (slot = .null ∨ ∃ n, slot = .int n) ∧ slot.asInt? = b.page
    | .pageSize => (slot = .null ∨ ∃ n, slot = .int n) ∧ slot.asInt? = b.pageSize

/-- Bindings of which the second differs in the slot of an argument and in what such arguments ask
for. -/
structure DiffersAt (a : ArgumentDescriptor) (b b' : BoundArguments) : Prop where
  slots : ∀ name, a.name ≠ name → b'.holder.get? name = b.holder.get? name
  clauses : a.kind ≠ .filterQuery → b'.clauses = b.clauses
  sort : a.kind ≠ .sort → b'.sort = b.sort
  page : a.kind ≠ .page → b'.page = b.page
  pageSize : a.kind ≠ .pageSize → b'.pageSize = b.pageSize

variable {b b' : BoundArguments} {a c : ArgumentDescriptor} {v : Value}

theorem get?_withSlot_self (b : BoundArguments) (name : String) (v : Value) :
    (b.withSlot name v).holder.get? name = some v := Dict.get?_insert_self ..

theorem differsAt_withSlot (b : BoundArguments) (a : ArgumentDescriptor) (v : Value) :
    DiffersAt a b (b.withSlot a.name v) where
  slots _ hname := Dict.get?_insert_of_ne _ hname _
  clauses _ := rfl
  sort _ := rfl
  page _ := rfl
  pageSize _ := rfl

theorem differsAt_of_bindValue (hb : bindValue b a v = .ok b') : DiffersAt a b b' := by
  unfold bindValue at hb
  cases hkind : a.kind with
  | value type =>
    simp only [hkind] at hb
    obtain ⟨w, -, hb⟩ := bind_eq_ok_iff.1 hb
    rw [← Except.ok.inj hb]
    exact differsAt_withSlot b a w
  | filterQuery =>
    simp only [hkind] at hb
    obtain ⟨w, -, hb⟩ := bind_eq_ok_iff.1 hb
    rw [← Except.ok.inj hb]
    exact ⟨fun _ hname => Dict.get?_insert_of_ne _ hname _, fun hne => absurd hkind hne, fun _ => rfl,
      fun _ => rfl, fun _ => rfl⟩
  | sort =>
    simp only [hkind] at hb
    obtain ⟨w, -, hb⟩ := bind_eq_ok_iff.1 hb
    rw [← Except.ok.inj hb]
    exact ⟨fun _ hname => Dict.get?_insert_of_ne _ hname _, fun _ => rfl, fun hne => absurd hkind hne,
      fun _ => rfl, fun _ => rfl⟩
  | page =>
    simp only [hkind] at hb
    obtain ⟨w, -, hb⟩ := bind_eq_ok_iff.1 hb
    rw [← Except.ok.inj hb]
    exact ⟨fun _ hname => Dict.get?_insert_of_ne _ hname _, fun _ => rfl, fun _ => rfl,
      fun hne => absurd hkind hne, fun _ => rfl⟩
  | pageSize =>
    simp only [hkind] at hb
    obtain ⟨w, -, hb⟩ := bind_eq_ok_iff.1 hb
    rw [← Except.ok.inj hb]
    exact ⟨fun _ hname => Dict.get?_insert_of_ne _ hname _, fun _ => rfl, fun _ => rfl,
      fun _ => rfl, fun hne => absurd hkind hne⟩

/-- A step of the binding changes what belongs to its argument. -/
theorem differsAt_of_bindArgument {f : SchemaField} {lookup : MemberLookup} {supplied : Dict Expr}
    (hb : bindArgument f lookup supplied b a = .ok b') : DiffersAt a b b' := by
  unfold bindArgument at hb
  split at hb
  · rw [bindSupplied_eq_bind] at hb
    obtain ⟨v, -, hb⟩ := bind_eq_ok_iff.1 hb
    exact differsAt_of_bindValue hb
  · split at hb
    · cases hb
    · rw [← Except.ok.inj hb]
      exact differsAt_withSlot b a _

/-- A step shows what it binds. -/
theorem shows_of_bindValue (hb : bindValue b a v = .ok b') : b'.Shows a v := by
  unfold bindValue at hb
  unfold Shows
  cases hkind : a.kind with
  | value type =>
    simp only [hkind] at hb ⊢
    obtain ⟨w, hw, hb⟩ := bind_eq_ok_iff.1 hb
    rw [← Except.ok.inj hb]
    refine ⟨w, get?_withSlot_self .., ?_⟩
    unfold convertArgument at hw
    split at hw
    · rename_i u hu
      rw [hu, Except.ok.inj hw]
    · cases hw
  | filterQuery =>
    simp only [hkind] at hb ⊢
    obtain ⟨inputs, hinputs, hb⟩ := bind_eq_ok_iff.1 hb
    rw [← Except.ok.inj hb]
    obtain ⟨raw, hraw, hdocument⟩ := exists_query_filterSlot v
    refine ⟨filterSlot v, get?_withSlot_self .., ⟨raw, inputs, hraw, ?_, rfl⟩,
      exists_hasValue_filterSlot v⟩
    rw [clausesOfValue, hdocument]
    exact mapError_eq_ok_iff.1 hinputs
  | sort =>
    simp only [hkind] at hb ⊢
    obtain ⟨spec, hspec, hb⟩ := bind_eq_ok_iff.1 hb
    rw [← Except.ok.inj hb]
    exact ⟨sortSlot spec, get?_withSlot_self .., decodeSort_sortSlot (mapError_eq_ok_iff.1 hspec)⟩
  | page | pageSize =>
    simp only [hkind] at hb ⊢
    obtain ⟨w, hw, hb⟩ := bind_eq_ok_iff.1 hb
    rw [← Except.ok.inj hb]
    exact ⟨w, get?_withSlot_self .., eq_null_or_int_of_convertArgument hw, rfl⟩

/-- A slot goes on showing what its argument asks for while others are bound. -/
theorem Shows.of_differsAt (h : b.Shows a v) (hname : c.name ≠ a.name)
    (hkind : a.kind.isShaping = true → a.kind ≠ c.kind) (hb : DiffersAt c b b') :
    b'.Shows a v := by
  obtain ⟨slot, hslot, h⟩ := h
  refine ⟨slot, (hb.slots a.name hname).trans hslot, ?_⟩
  cases ha : a.kind with
  | value type => simpa only [ha] using h
  | filterQuery =>
    rw [ha] at hkind
    simpa only [ha, hb.clauses (Ne.symm (hkind rfl))] using h
  | sort =>
    rw [ha] at hkind
    simpa only [ha, hb.sort (Ne.symm (hkind rfl))] using h
  | page =>
    rw [ha] at hkind
    simpa only [ha, hb.page (Ne.symm (hkind rfl))] using h
  | pageSize =>
    rw [ha] at hkind
    simpa only [ha, hb.pageSize (Ne.symm (hkind rfl))] using h

theorem Shows.of_foldlM {f : SchemaField} {lookup : MemberLookup} {supplied : Dict Expr}
    {arguments : List ArgumentDescriptor} (h : b.Shows a v)
    (hnames : ∀ c ∈ arguments, c.name ≠ a.name)
    (hkinds : ∀ c ∈ arguments, a.kind.isShaping = true → a.kind ≠ c.kind)
    (hb : arguments.foldlM (bindArgument f lookup supplied) b = .ok b') : b'.Shows a v :=
  foldlM_invariant (P := fun b => b.Shows a v) (fun _ c hc _ h hstep =>
    h.of_differsAt (hnames c hc) (hkinds c hc) (differsAt_of_bindArgument hstep)) h hb

end BoundArguments

/-! ## All arguments -/

/-- Where all arguments have different names and no two of them shape the query in the same way, the
slot of each argument that is supplied shows what it asks for. -/
theorem bindArguments_slots {f : SchemaField} {lookup : MemberLookup} {supplied : Dict Expr}
    {b : BoundArguments} (hnames : f.arguments.Pairwise fun a c => a.name ≠ c.name)
    (hkinds : f.arguments.Pairwise fun a c => a.kind.isShaping = true → a.kind ≠ c.kind)
    (hb : bindArguments f lookup supplied = .ok b) {a : ArgumentDescriptor} (ha : a ∈ f.arguments)
    {e : Expr} (he : supplied? lookup supplied a.name = some e) :
    ∃ v, e.evalClosed = .ok v ∧ b.Shows a v := by
  obtain ⟨before, after, harguments⟩ := List.append_of_mem ha
  rw [harguments, List.pairwise_append, List.pairwise_cons] at hnames hkinds
  rw [bindArguments, harguments, List.foldlM_append] at hb
  obtain ⟨first, -, hb⟩ := bind_eq_ok_iff.1 hb
  rw [List.foldlM_cons] at hb
  obtain ⟨second, hstep, hb⟩ := bind_eq_ok_iff.1 hb
  have hbind : bindSupplied first a e = .ok second := by rwa [bindArgument, he] at hstep
  rw [bindSupplied_eq_bind] at hbind
  obtain ⟨v, hv, hbind⟩ := bind_eq_ok_iff.1 hbind
  have hothers : ∀ c ∈ after, c.name ≠ a.name := fun c hc => Ne.symm (hnames.2.1.1 c hc)
  exact ⟨v, mapError_eq_ok_iff.1 hv,
    (BoundArguments.shows_of_bindValue hbind).of_foldlM hothers hkinds.2.1.1 hb⟩

namespace Sample

/-- A filter for those under thirty. -/
def underThirty : Value :=
  .json (.array [.object [("field", .string "age"), ("lessThan", .string "30")]])

/-- A sort by a blank field, from greatest to least. -/
def byBlank : Value :=
  .json (.object [("direction", .string "desc"), ("field", .string " ")])

/-- A search for those under thirty, in the opposite order and five on a page. -/
def searchArguments : Dict Expr :=
  Dict.ofList [("filter", .ofValue underThirty), ("sort", .ofValue byBlank),
    ("pageSize", .ofValue (.string "5"))]

end Sample

open Sample in
/-- The slots of a search show its clause, a reversed order and a page size of five. -/
theorem bindArguments_slots_search :
    (searchPeople.arguments.Pairwise fun a c => a.name ≠ c.name) ∧
    (searchPeople.arguments.Pairwise fun a c => a.kind.isShaping = true → a.kind ≠ c.kind) ∧
    ∃ b, bindArguments searchPeople .exact searchArguments = .ok b ∧
      b.sort = some .reversed ∧ b.pageSize = some 5 ∧
      b.Shows (.ofKind "filter" .filterQuery) underThirty ∧
      b.Shows (.ofKind "sort" .sort) byBlank ∧
      b.Shows (.ofKind "pageSize" .pageSize) (.string "5") := by
  have hnames : searchPeople.arguments.Pairwise fun a c => a.name ≠ c.name := by decide
  have hkinds : searchPeople.arguments.Pairwise
      fun a c => a.kind.isShaping = true → a.kind ≠ c.kind := by decide
  obtain ⟨b, hb⟩ : ∃ b, bindArguments searchPeople .exact searchArguments = .ok b := ⟨_, rfl⟩
  have hshows {name : String} {kind : ArgumentKind} {v : Value}
      (ha : .ofKind name kind ∈ searchPeople.arguments)
      (he : supplied? .exact searchArguments name = some (.ofValue v)) :
      b.Shows (.ofKind name kind) v := by
    obtain ⟨w, hw, hshows⟩ := bindArguments_slots hnames hkinds hb ha he
    obtain rfl : v = w := Except.ok.inj hw
    exact hshows
  refine ⟨hnames, hkinds, b, hb, ?_, ?_, hshows (by simp [searchPeople]) rfl,
    hshows (by simp [searchPeople]) rfl, hshows (by simp [searchPeople]) rfl⟩
  · cases hb
    rfl
  · cases hb
    rfl

end TypedQuery
