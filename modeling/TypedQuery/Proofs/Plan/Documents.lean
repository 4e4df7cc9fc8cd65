import TypedQuery.Proofs.Plan.Defaults
import TypedQuery.Proofs.Value.Documents

/-!
# Arguments that come as documents

An argument may be supplied as a document or as the value that the document stands for.  Filters and
sorts are read from documents in either case, and the others are converted, so the two come to the
same where the argument takes the document (`ArgumentKind.TakesDocument`):
`bindArguments_insert_document`.  What is bound differs in the slot of a filter only, which keeps
the filter as it was supplied.

A null in a document is taken for none of the arguments that are converted:
`bindArguments_null_document`.
-/

namespace TypedQuery

/-- A document that comes to the same as its value for an argument.  One that is declared as a
document is not converted, and stands in its slot as it is supplied. -/
def ArgumentKind.TakesDocument (j : Json) : ArgumentKind → Prop
  | .value type => type ≠ .json ∧ type.TakesDocument j
  | .filterQuery | .sort => True
  | .page | .pageSize => DataType.int.TakesDocument j

/-! ## Values that bind alike -/

/-- The arguments with a value bound. -/
def bindValue (b : BoundArguments) (a : ArgumentDescriptor) (v : Value) :
    Except CompileError BoundArguments := do
  match a.kind with
  | .value type => return b.withSlot a.name (← convertArgument a.name v type)
  | .filterQuery =>
    let clauses ← decoded (clausesOfValue v)
    return { b with clauses := clauses.map FilterInput.clause }.withSlot a.name (filterSlot v)
  | .sort =>
    let spec ← decoded (decodeSort v.toJson)
    return { b with sort := spec }.withSlot a.name (sortSlot spec)
  | .page =>
    let v ← convertArgument a.name v .int
    return { b with page := v.asInt? }.withSlot a.name v
  | .pageSize =>
    let v ← convertArgument a.name v .int
    return { b with pageSize := v.asInt? }.withSlot a.name v

theorem bindSupplied_eq_bind (b : BoundArguments) (a : ArgumentDescriptor) (e : Expr) :
    bindSupplied b a e = evaluated e.evalClosed >>= bindValue b a := rfl

/-- Values that an argument is bound to alike: converted alike, or of one document. -/
def ArgumentDescriptor.BindsAlike (a : ArgumentDescriptor) (v w : Value) : Prop :=
  match a.kind with
  | .value type => convertArgument a.name v type = convertArgument a.name w type
  | .page | .pageSize => convertArgument a.name v .int = convertArgument a.name w .int
  | .filterQuery | .sort => v.toJson = w.toJson

theorem ArgumentDescriptor.bindsAlike_refl (a : ArgumentDescriptor) (v : Value) :
    a.BindsAlike v v := by
  unfold BindsAlike
  split <;> rfl

/-- What a type takes is converted as the value is, with the same complaint if it cannot be. -/
theorem convertArgument_json_eq {type : DataType} {j : Json} (name : String) (htype : type ≠ .json)
    (h : type.TakesDocument j) :
    convertArgument name (.json j) type = convertArgument name (.ofJson j) type := by
  have hcoerce := Value.coerceTo?_json_eq htype h
  unfold convertArgument
  rw [hcoerce]
  cases hvalue : (Value.ofJson j).coerceTo? type with
  | some v => rfl
  | none =>
    have hnull : j ≠ .null := by
      rintro rfl
      exact h
    have hj : ¬ j.IsFractional := by
      rintro ⟨x, finite, rfl⟩
      rcases h with rfl | rfl <;> cases hvalue
    dsimp only
    rw [Value.text_json hnull hj]

theorem ArgumentDescriptor.bindsAlike_document {a : ArgumentDescriptor} {j : Json}
    (h : a.kind.TakesDocument j) : a.BindsAlike (.json j) (.ofJson j) := by
  unfold BindsAlike
  cases hkind : a.kind with
  | value type =>
    rw [hkind] at h
    exact convertArgument_json_eq a.name h.1 h.2
  | filterQuery | sort => exact (Value.toJson_ofJson j).symm
  | page | pageSize =>
    rw [hkind] at h
    exact convertArgument_json_eq a.name DataType.noConfusion h

/-! ## Bindings that differ in filter slots only -/

/-- Arguments that ask for the same and stand in the same slots, but for the slots of some names. -/
structure BoundArguments.SameBut (hidden : String → Prop) (b b' : BoundArguments) : Prop where
  clauses : b.clauses = b'.clauses
  sort : b.sort = b'.sort
  page : b.page = b'.page
  pageSize : b.pageSize = b'.pageSize
  slots : ∀ name, ¬ hidden name → b.holder.get? name = b'.holder.get? name

/-- The names of the arguments that filter. -/
def SchemaField.IsFilterName (f : SchemaField) (name : String) : Prop :=
  ∃ a ∈ f.arguments, a.name = name ∧ a.kind = .filterQuery

namespace BoundArguments

variable {hidden : String → Prop} {b b' : BoundArguments} {a : ArgumentDescriptor} {v w : Value}

theorem sameBut_refl (b : BoundArguments) : b.SameBut hidden b :=
  ⟨rfl, rfl, rfl, rfl, fun _ _ => rfl⟩

theorem SameBut.withSlot (h : b.SameBut hidden b') (name : String)
    (hv : ¬ hidden name → v = w) : (b.withSlot name v).SameBut hidden (b'.withSlot name w) := by
  refine ⟨h.clauses, h.sort, h.page, h.pageSize, fun other hother => ?_⟩
  unfold BoundArguments.withSlot
  by_cases hname : name = other
  · subst hname
    rw [Dict.get?_insert_self, Dict.get?_insert_self, hv hother]
  · rw [Dict.get?_insert_of_ne _ hname, Dict.get?_insert_of_ne _ hname, h.slots other hother]

theorem SameBut.bindValue (h : b.SameBut hidden b')
    (hfilter : a.kind = .filterQuery → hidden a.name) (hv : a.BindsAlike v w) :
    Alike (SameBut hidden) (bindValue b a v) (bindValue b' a w) := by
  unfold TypedQuery.bindValue
  unfold ArgumentDescriptor.BindsAlike at hv
  cases hkind : a.kind with
  | value type =>
    simp only [hkind] at hv ⊢
    rw [hv]
    cases convertArgument a.name w type with
    | error e => exact .error e
    | ok u => exact .ok (h.withSlot a.name fun _ => rfl)
  | filterQuery =>
    simp only [hkind] at hv ⊢
    unfold clausesOfValue
    rw [hv]
    cases decoded (decodeFilter w.toJson) with
    | error e => exact .error e
    | ok clauses =>
      refine .ok (SameBut.withSlot ?_ a.name fun hvisible => absurd (hfilter hkind) hvisible)
      exact ⟨rfl, h.sort, h.page, h.pageSize, h.slots⟩
  | sort =>
    simp only [hkind] at hv ⊢
    rw [hv]
    cases decoded (decodeSort w.toJson) with
    | error e => exact .error e
    | ok spec =>
      refine .ok (SameBut.withSlot ?_ a.name fun _ => rfl)
      exact ⟨h.clauses, rfl, h.page, h.pageSize, h.slots⟩
  | page =>
    simp only [hkind] at hv ⊢
    rw [hv]
    cases convertArgument a.name w .int with
    | error e => exact .error e
    | ok u =>
      refine .ok (SameBut.withSlot ?_ a.name fun _ => rfl)
      exact ⟨h.clauses, h.sort, rfl, h.pageSize, h.slots⟩
  | pageSize =>
    simp only [hkind] at hv ⊢
    rw [hv]
    cases convertArgument a.name w .int with
    | error e => exact .error e
    | ok u =>
      refine .ok (SameBut.withSlot ?_ a.name fun _ => rfl)
      exact ⟨h.clauses, h.sort, h.page, rfl, h.slots⟩

end BoundArguments

/-! ## All arguments -/

/-- What is supplied for an argument in two ways: the same, or a document that it takes and the
value of that document. -/
inductive SuppliedAlike (kind : ArgumentKind) : Option Expr → Option Expr → Prop where
  | same (e : Option Expr) : SuppliedAlike kind e e
  | document (j : Json) (h : kind.TakesDocument j) :
    SuppliedAlike kind (some (.ofValue (.json j))) (some (.ofValue (.ofJson j)))

section Supplied

variable {f : SchemaField} {lookup : MemberLookup} {supplied supplied' : Dict Expr}

theorem bindArgument_alike {a : ArgumentDescriptor} (ha : a ∈ f.arguments) {b b' : BoundArguments}
    (hb : b.SameBut f.IsFilterName b')
    (h : SuppliedAlike a.kind (supplied? lookup supplied a.name)
      (supplied? lookup supplied' a.name)) :
    Alike (BoundArguments.SameBut f.IsFilterName) (bindArgument f lookup supplied b a)
      (bindArgument f lookup supplied' b' a) := by
  have hfilter : a.kind = .filterQuery → f.IsFilterName a.name := fun hkind => ⟨a, ha, rfl, hkind⟩
  unfold bindArgument
  generalize supplied? lookup supplied a.name = e at h
  generalize supplied? lookup supplied' a.name = e' at h
  cases h with
  | same e =>
    cases e with
    | none =>
      dsimp only
      split
      · exact .error _
      · exact .ok (hb.withSlot a.name fun _ => rfl)
    | some e =>
      dsimp only
      rw [bindSupplied_eq_bind, bindSupplied_eq_bind]
      cases evaluated e.evalClosed with
      | error e => exact .error e
      | ok v => exact hb.bindValue hfilter (a.bindsAlike_refl v)
  | document j hj =>
    dsimp only
    rw [bindSupplied_eq_bind, bindSupplied_eq_bind]
    exact hb.bindValue hfilter (ArgumentDescriptor.bindsAlike_document hj)

/-- Arguments that are supplied alike are bound alike. -/
theorem bindArguments_alike
    (h : ∀ a ∈ f.arguments, SuppliedAlike a.kind (supplied? lookup supplied a.name)
      (supplied? lookup supplied' a.name)) :
    Alike (BoundArguments.SameBut f.IsFilterName) (bindArguments f lookup supplied)
      (bindArguments f lookup supplied') :=
  foldlM_alike (BoundArguments.sameBut_refl _) fun a ha _ _ hb => bindArgument_alike ha hb (h a ha)

/-- Under one key, a document and its value are supplied to the same arguments. -/
theorem supplied?_insert_cases (key name : String) (e e' : Expr) :
    supplied? lookup (supplied.insert key e) name =
        supplied? lookup (supplied.insert key e') name ∨
    Text.eqIgnoringCase key name = true ∧
      supplied? lookup (supplied.insert key e) name = some e ∧
      supplied? lookup (supplied.insert key e') name = some e' := by
  cases hname : Text.eqIgnoringCase key name with
  | false => exact Or.inl (by rw [supplied?_insert_of_ne hname, supplied?_insert_of_ne hname])
  | true =>
    by_cases hkey : key = name
    · subst hkey
      exact Or.inr ⟨rfl, supplied?_insert_self, supplied?_insert_self⟩
    · unfold supplied?
      rw [Dict.get?_insert_of_ne _ hkey, Dict.get?_insert_of_ne _ hkey]
      cases supplied.get? name with
      | some e => exact Or.inl rfl
      | none =>
        rcases Dict.find?_insert_cases supplied key e e' fun k => lookup.pairs k name with
          hsame | ⟨hfirst, hsecond⟩
        · exact Or.inl (congrArg (Option.map Prod.snd) hsame)
        · exact Or.inr ⟨rfl, congrArg (Option.map Prod.snd) hfirst,
            congrArg (Option.map Prod.snd) hsecond⟩

/-- A document and its value come to the same, with one failure or with all that shapes the query
and every slot that is not a filter's. -/
theorem bindArguments_insert_document (lookup : MemberLookup) (supplied : Dict Expr) {key : String}
    {j : Json}
    (h : ∀ a ∈ f.arguments, Text.eqIgnoringCase key a.name = true → a.kind.TakesDocument j) :
    (∃ e, bindArguments f lookup (supplied.insert key (.ofValue (.json j))) = .error e ∧
      bindArguments f lookup (supplied.insert key (.ofValue (.ofJson j))) = .error e) ∨
    ∃ b b', bindArguments f lookup (supplied.insert key (.ofValue (.json j))) = .ok b ∧
      bindArguments f lookup (supplied.insert key (.ofValue (.ofJson j))) = .ok b' ∧
      b.clauses = b'.clauses ∧ b.sort = b'.sort ∧ b.page = b'.page ∧ b.pageSize = b'.pageSize ∧
      ∀ name, ¬ f.IsFilterName name → b.holder.get? name = b'.holder.get? name := by
  have halike : Alike (BoundArguments.SameBut f.IsFilterName)
      (bindArguments f lookup (supplied.insert key (.ofValue (.json j))))
      (bindArguments f lookup (supplied.insert key (.ofValue (.ofJson j)))) := by
    refine bindArguments_alike fun a ha => ?_
    rcases supplied?_insert_cases key a.name (.ofValue (.json j)) (.ofValue (.ofJson j)) with
      hsame | ⟨hname, hdocument, hvalue⟩
    · rw [hsame]
      exact .same _
    · rw [hdocument, hvalue]
      exact .document j (h a ha hname)
  generalize bindArguments f lookup (supplied.insert key (.ofValue (.json j))) = x at halike
  generalize bindArguments f lookup (supplied.insert key (.ofValue (.ofJson j))) = y at halike
  cases halike with
  | error e => exact Or.inl ⟨e, rfl, rfl⟩
  | ok hsame =>
    exact Or.inr ⟨_, _, rfl, rfl, hsame.clauses, hsame.sort, hsame.page, hsame.pageSize,
      hsame.slots⟩

end Supplied

/-! ## A field with arguments of all kinds -/

namespace Sample

/-- A list of people that takes an argument of each kind. -/
def searchPeople : SchemaField where
  name := "searchPeople"
  description := none
  template := ⟨[contextParam], .member contextParam.expr "people" (.sequence personRecord)⟩
  arguments := [.ofType "minAge" .int false, .ofType "nickname" .string false,
    .ofType "active" .boolean false, .ofKind "filter" .filterQuery, .ofKind "sort" .sort,
    .ofKind "page" .page, .ofKind "pageSize" .pageSize]
  returns := ⟨"Person", true⟩

/-- What the arguments are bound to if one of them is supplied. -/
def bindOne (key : String) (v : Value) : Except CompileError BoundArguments :=
  bindArguments searchPeople .exact (Dict.insert [] key (.ofValue v))

/-- A small number in a document. -/
def documentOf (n : Fin 100) : Json := .number (.integer n (by omega))

end Sample

open Sample in
/-- A page number is taken from a document. -/
theorem bindArguments_secondPage :
    (∀ a ∈ searchPeople.arguments, Text.eqIgnoringCase "page" a.name = true →
      a.kind.TakesDocument (documentOf 2)) ∧
    ∃ b b', bindOne "page" (.json (documentOf 2)) = .ok b ∧
      bindOne "page" (.ofJson (documentOf 2)) = .ok b' ∧
      b.page = some 2 ∧ b'.page = some 2 ∧ b.holder.get? "page" = b'.holder.get? "page" := by
  have htakes : ∀ a ∈ searchPeople.arguments, Text.eqIgnoringCase "page" a.name = true →
      a.kind.TakesDocument (documentOf 2) := by
    simp only [searchPeople, List.forall_mem_cons]
    exact ⟨nofun, nofun, nofun, nofun, nofun, fun _ => ⟨nofun, nofun, nofun⟩, nofun, nofun⟩
  refine ⟨htakes, ?_⟩
  rcases bindArguments_insert_document .exact [] htakes with
    ⟨e, he, -⟩ | ⟨b, b', hb, hb', -, -, hpage, -, hslots⟩
  · cases he
  · have hsecond : b.page = some 2 := by
      cases hb
      rfl
    have hslot : b.holder.get? "page" = b'.holder.get? "page" := by
      refine hslots "page" ?_
      simp [SchemaField.IsFilterName, searchPeople, ArgumentDescriptor.ofType,
        ArgumentDescriptor.ofKind]
    exact ⟨b, b', hb, hb', hsecond, hpage ▸ hsecond, hslot⟩

open Sample in
/-- A null in a document is refused as an age and as a page, and is the text of a null as a
nickname, and a number is refused as a truth value.  The values that they stand for are bound. -/
theorem bindArguments_null_document :
    ((∃ e, bindOne "minAge" (.json .null) = .error e) ∧
      ∃ b, bindOne "minAge" (.ofJson .null) = .ok b ∧ b.holder.get? "minAge" = some .null) ∧
    ((∃ e, bindOne "page" (.json .null) = .error e) ∧
      ∃ b, bindOne "page" (.ofJson .null) = .ok b ∧ b.page = none) ∧
    (∃ b b', bindOne "nickname" (.json .null) = .ok b ∧
      bindOne "nickname" (.ofJson .null) = .ok b' ∧
      b.holder.get? "nickname" = some (.string "null") ∧
      b'.holder.get? "nickname" = some .null) ∧
    (∃ e, bindOne "active" (.json (documentOf 1)) = .error e) ∧
    ∃ b, bindOne "active" (.ofJson (documentOf 1)) = .ok b ∧
      b.holder.get? "active" = some (.boolean true) :=
  ⟨⟨⟨_, rfl⟩, _, rfl, rfl⟩, ⟨⟨_, rfl⟩, _, rfl, rfl⟩, ⟨_, _, rfl, rfl, rfl, rfl⟩, ⟨_, rfl⟩, _, rfl,
    rfl⟩

end TypedQuery
