import TypedQuery.Proofs.Dict
import TypedQuery.Proofs.Except
import TypedQuery.Schema.Builder

/-!
# Calls of a schema builder

A schema is built by calls, and one that fails leaves the builder as it was.  A call that succeeds
registers a type or adds one field to those that the builder holds (`SchemaBuilder.Adds`); the field
is handed to it or derived from a list field.  Whatever the calls, the builder's supply is above the
parameters of all templates it holds: `SchemaBuilder.IsFresh.performAll`.
-/

namespace TypedQuery

/-- A call of a schema builder. -/
inductive SchemaCall where
  | type (t : TypeDescriptor)
  | field (typeName : String) (f : SchemaField)
  | queryField (f : SchemaField)
  | mutation (f : SchemaField)
  | idLookup (list name : String)
  | filterQuery (list : String)

/-- The field that is handed to the builder. -/
def SchemaCall.handed? : SchemaCall → Option SchemaField
  | field _ f | queryField f | mutation f => some f
  | type _ | idLookup _ _ | filterQuery _ => none

/-- The name of the list field that a field is derived from. -/
def SchemaCall.list? : SchemaCall → Option String
  | idLookup list _ | filterQuery list => some list
  | type _ | field _ _ | queryField _ | mutation _ => none

namespace SchemaBuilder

/-- The outcome of a call. -/
def call (b : SchemaBuilder) : SchemaCall → Except SchemaError SchemaBuilder
  | .type t => b.addType t
  | .field typeName f => b.addField typeName f
  | .queryField f => b.addQueryField f
  | .mutation f => b.addMutation f
  | .idLookup list name => b.addIdLookupField list name
  | .filterQuery list => b.addFilterQueryField list

/-- The builder after a call. -/
def perform (b : SchemaBuilder) (c : SchemaCall) : SchemaBuilder :=
  match b.call c with
  | .ok b' => b'
  | .error _ => b

/-- The builder after calls, one after the other. -/
def performAll (b : SchemaBuilder) (calls : List SchemaCall) : SchemaBuilder :=
  calls.foldl perform b

theorem perform_of_ok {b b' : SchemaBuilder} {c : SchemaCall} (h : b.call c = .ok b') :
    b.perform c = b' := by
  rw [perform, h]

theorem perform_of_error {b : SchemaBuilder} {c : SchemaCall} {e : SchemaError}
    (h : b.call c = .error e) : b.perform c = b := by
  rw [perform, h]

/-! ## Registering -/

section Register

variable {b b' : SchemaBuilder} {typeName : String} {f : SchemaField}

theorem addType_eq_ok {t : TypeDescriptor} (h : b.addType t = .ok b') :
    b' = { b with types := b.types.insert t.name t } := by
  unfold addType at h
  split at h
  · cases h
  · exact (Except.ok.inj h).symm

theorem addField_eq_ok (h : b.addField typeName f = .ok b') :
    b.types.contains typeName ∧ (b.fieldsOf typeName).contains f.name = false ∧
      b' = { b with
        fields := b.fields.insert typeName ((b.fieldsOf typeName).insert f.name f)
        supply := b.supply.avoiding f.template.expr } := by
  unfold addField at h
  split at h
  · cases h
  · rename_i hknown
    split at h
    · cases h
    · rename_i hnew
      simp only [Bool.not_eq_true', Bool.not_eq_false] at hknown hnew
      exact ⟨hknown, by simpa using hnew, (Except.ok.inj h).symm⟩

theorem addMutation_eq_ok (h : b.addMutation f = .ok b') :
    b.mutations.contains f.name = false ∧
      b' = { b with
        mutations := b.mutations.insert f.name f
        supply := b.supply.avoiding f.template.expr } := by
  unfold addMutation at h
  split at h
  · cases h
  · rename_i hnew
    exact ⟨by simpa using hnew, (Except.ok.inj h).symm⟩

end Register

/-! ## The fields that are held -/

/-- A field of the query type. -/
def queryField? (b : SchemaBuilder) (name : String) : Option SchemaField :=
  (b.fieldsOf b.queryType).get? name

/-- One field more is held, and the supply goes on above its template. -/
structure Adds (b : SchemaBuilder) (g : SchemaField) (b' : SchemaBuilder) : Prop where
  held : ∀ f, f ∈ b'.allFields ↔ f = g ∨ f ∈ b.allFields
  next_le : b.supply.next ≤ b'.supply.next
  idBound_le : g.template.expr.idBound ≤ b'.supply.next

theorem mem_allFields {b : SchemaBuilder} {f : SchemaField} :
    f ∈ b.allFields ↔
      (∃ typeName fields name, (typeName, fields) ∈ b.fields ∧ (name, f) ∈ fields) ∨
      ∃ name, (name, f) ∈ b.mutations := by
  have hvalues : ∀ {d : Dict SchemaField}, f ∈ d.values ↔ ∃ name, (name, f) ∈ d := by
    intro d
    simp [Dict.values]
  rw [allFields, List.mem_append, List.mem_flatMap, hvalues]
  refine or_congr_left ?_
  constructor
  · rintro ⟨fields, hfields, hf⟩
    obtain ⟨⟨typeName, _⟩, hmem, rfl⟩ := List.mem_map.1 hfields
    obtain ⟨name, hf⟩ := hvalues.1 hf
    exact ⟨typeName, _, name, hmem, hf⟩
  · rintro ⟨typeName, fields, name, hfields, hf⟩
    exact ⟨fields, List.mem_map_of_mem hfields, hvalues.2 ⟨name, hf⟩⟩

section Add

variable {b b' : SchemaBuilder} {f : SchemaField} {typeName : String}

/-- What the fields of a type are, they are held. -/
theorem mem_fields_of_mem_fieldsOf {name : String} (h : (name, f) ∈ b.fieldsOf typeName) :
    ∃ fields, (typeName, fields) ∈ b.fields ∧ (name, f) ∈ fields := by
  unfold fieldsOf at h
  cases hget : b.fields.get? typeName with
  | none =>
    rw [hget] at h
    cases h
  | some fields =>
    rw [hget] at h
    exact ⟨fields, Dict.mem_of_get?_eq_some hget, h⟩

theorem adds_of_addField (h : b.addField typeName f = .ok b') : b.Adds f b' := by
  obtain ⟨-, hnew, rfl⟩ := addField_eq_ok h
  refine ⟨fun g => ?_, Nat.le_max_left _ _, Nat.le_max_right _ _⟩
  rw [mem_allFields, mem_allFields, ← or_assoc]
  refine or_congr_left ?_
  constructor
  · rintro ⟨k, fields, name, hfields, hg⟩
    rcases Dict.eq_or_mem_of_mem_insert hfields with heq | hfields
    · obtain ⟨rfl, rfl⟩ := Prod.mk.inj heq
      rcases (Dict.mem_insert_iff hnew).1 hg with heq | hg
      · exact Or.inl (Prod.mk.inj heq).2
      · obtain ⟨fields, hfields, hg⟩ := mem_fields_of_mem_fieldsOf hg
        exact Or.inr ⟨_, fields, name, hfields, hg⟩
    · exact Or.inr ⟨k, fields, name, hfields, hg⟩
  · rintro (rfl | ⟨k, fields, name, hfields, hg⟩)
    · exact ⟨typeName, _, g.name, Dict.mem_insert_self, Dict.mem_insert_self⟩
    · rcases Dict.mem_insert_or_get?_eq typeName ((b.fieldsOf typeName).insert f.name f)
        hfields with hfields | ⟨-, hget⟩
      · exact ⟨k, fields, name, hfields, hg⟩
      -- The fields of the type itself are among those that take their place.
      · refine ⟨typeName, _, name, Dict.mem_insert_self,
          (Dict.mem_insert_iff hnew).2 (Or.inr ?_)⟩
        rw [fieldsOf, hget]
        exact hg

theorem queryField?_of_addQueryField (h : b.addQueryField f = .ok b') :
    b'.queryField? f.name = some f := by
  obtain ⟨-, -, rfl⟩ := addField_eq_ok h
  rw [queryField?, fieldsOf, Dict.get?_insert_self]
  exact Dict.get?_insert_self ..

theorem adds_of_addMutation (h : b.addMutation f = .ok b') : b.Adds f b' := by
  obtain ⟨hnew, rfl⟩ := addMutation_eq_ok h
  refine ⟨fun g => ?_, Nat.le_max_left _ _, Nat.le_max_right _ _⟩
  rw [mem_allFields, mem_allFields, or_left_comm]
  refine or_congr_right ?_
  simp only [Dict.mem_insert_iff hnew, Prod.mk.injEq]
  constructor
  · rintro ⟨name, ⟨-, rfl⟩ | hg⟩
    · exact Or.inl rfl
    · exact Or.inr ⟨name, hg⟩
  · rintro (rfl | ⟨name, hg⟩)
    · exact ⟨g.name, Or.inl ⟨rfl, rfl⟩⟩
    · exact ⟨name, Or.inr hg⟩

theorem Adds.of_supply {supply : Supply} (h : Adds { b with supply } f b')
    (hnext : b.supply.next ≤ supply.next) : b.Adds f b' :=
  ⟨h.held, Nat.le_trans hnext h.next_le, h.idBound_le⟩

end Add

end SchemaBuilder

/-! ## Deriving a field -/

/-- The body of a template over another context. -/
def SchemaField.bodyOver (f : SchemaField) (context : Expr) : Expr :=
  match f.contextParam? with
  | some old => f.body.replace old.id context
  | none => f.body

/-- The field that filters, sorts and pages a list field. -/
def SchemaField.filterQuery (f : SchemaField) (list : String) (ctx args : Parameter) :
    SchemaField where
  name := list ++ "FilterQuery"
  description := some ("Return a " ++ f.returns.typeName ++ " after filtering it")
  template := ⟨[ctx, args], f.bodyOver ctx.expr⟩
  arguments := SchemaBuilder.filterQueryArguments
  returns := ⟨f.returns.typeName, true⟩

/-- The fields that are derived from a list field, with the identities from `next` on for their new
parameters. -/
inductive SchemaField.Derives (f : SchemaField) (next : Nat) : SchemaField → Prop where
  | idLookup (name : String) (id : MemberDescriptor) (type : DataType) {ctx args item : Parameter}
      (hctx : ctx.id.index = next) (hargs : args.id.index = next + 1)
      (hitem : item.id.index = next + 2) :
      Derives f next (SchemaBuilder.idLookupField name f.returns.typeName id type ctx args item
        (f.bodyOver ctx.expr))
  | filterQuery (list : String) {ctx args : Parameter} (hctx : ctx.id.index = next)
      (hargs : args.id.index = next + 1) : Derives f next (f.filterQuery list ctx args)

namespace SchemaBuilder

variable {b b' : SchemaBuilder} {list name : String} {f : SchemaField}

theorem mem_allFields_of_listField (h : b.listField list = .ok f) : f ∈ b.allFields := by
  unfold listField at h
  split at h
  · cases h
  · rename_i g hget
    split at h
    · obtain rfl := Except.ok.inj h
      obtain ⟨fields, hfields, hg⟩ := mem_fields_of_mem_fieldsOf (Dict.mem_of_get?_eq_some hget)
      exact mem_allFields.2 (Or.inl ⟨_, fields, list, hfields, hg⟩)
    · cases h

/-- The field that finds an element by its id is made of the list field and of the id of its
elements. -/
theorem addIdLookupField_eq_ok (h : b.addIdLookupField list name = .ok b') :
    ∃ source id type ctx args item, b.listField list = .ok source ∧
      b.idMember list source.returns.typeName = .ok (id, type) ∧
      source.contextParam?.isSome = true ∧ ctx.id.index = b.supply.next ∧
      args.id.index = b.supply.next + 1 ∧ item.id.index = b.supply.next + 2 ∧
      b.Adds (idLookupField name source.returns.typeName id type ctx args item
        (source.bodyOver ctx.expr)) b' ∧
      b'.queryField? name = some (idLookupField name source.returns.typeName id type ctx args item
        (source.bodyOver ctx.expr)) := by
  obtain ⟨source, hsource, h⟩ := bind_eq_ok_iff.1 h
  obtain ⟨⟨id, type⟩, hid, h⟩ := bind_eq_ok_iff.1 h
  dsimp only at h
  split at h
  · cases h
  · rename_i old hold
    have hadds := (adds_of_addField h).of_supply (Nat.le_add_right _ 3)
    have hfield := queryField?_of_addQueryField h
    have hbody : ∀ context, source.body.replace old.id context = source.bodyOver context := by
      intro context
      rw [SchemaField.bodyOver, hold]
    rw [hbody] at hadds hfield
    exact ⟨source, id, type, _, _, _, hsource, hid, by rw [hold]; rfl, rfl, rfl, rfl, hadds, hfield⟩

theorem exists_of_addIdLookupField (h : b.addIdLookupField list name = .ok b') :
    ∃ source g, b.listField list = .ok source ∧ source.Derives b.supply.next g ∧ b.Adds g b' := by
  obtain ⟨source, id, type, ctx, args, item, hsource, -, -, hctx, hargs, hitem, hadds, -⟩ :=
    addIdLookupField_eq_ok h
  exact ⟨source, _, hsource, .idLookup name id type hctx hargs hitem, hadds⟩

theorem exists_of_addFilterQueryField (h : b.addFilterQueryField list = .ok b') :
    ∃ source ctx args, b.listField list = .ok source ∧
      b.Adds (source.filterQuery list ctx args) b' ∧
      b'.queryField? (list ++ "FilterQuery") = some (source.filterQuery list ctx args) ∧
      ctx.id.index = b.supply.next ∧ args.id.index = b.supply.next + 1 := by
  obtain ⟨source, hsource, h⟩ := bind_eq_ok_iff.1 h
  have hadds := (adds_of_addField h).of_supply (Nat.le_add_right _ 2)
  exact ⟨source, (b.supply.draw "ctx" (.object b.queryType)).1, _, hsource, hadds,
    queryField?_of_addQueryField h, rfl, rfl⟩

/-! ## What every call does -/

/-- A call that succeeds registers a type, or adds the field that is handed to it or one that it
derives. -/
theorem call_cases {c : SchemaCall} (h : b.call c = .ok b') :
    (c.handed? = none ∧ c.list? = none ∧ b'.allFields = b.allFields ∧ b'.supply = b.supply) ∨
    (∃ g, c.handed? = some g ∧ c.list? = none ∧ b.Adds g b') ∨
    ∃ list source g, c.handed? = none ∧ c.list? = some list ∧ b.listField list = .ok source ∧
      source.Derives b.supply.next g ∧ b.Adds g b' := by
  cases c with
  | type t =>
    obtain rfl := addType_eq_ok h
    exact Or.inl ⟨rfl, rfl, rfl, rfl⟩
  | field typeName f => exact Or.inr (Or.inl ⟨f, rfl, rfl, adds_of_addField h⟩)
  | queryField f => exact Or.inr (Or.inl ⟨f, rfl, rfl, adds_of_addField h⟩)
  | mutation f => exact Or.inr (Or.inl ⟨f, rfl, rfl, adds_of_addMutation h⟩)
  | idLookup list name =>
    obtain ⟨source, g, hsource, hg, hadds⟩ := exists_of_addIdLookupField h
    exact Or.inr (Or.inr ⟨list, source, g, rfl, rfl, hsource, hg, hadds⟩)
  | filterQuery list =>
    obtain ⟨source, ctx, args, hsource, hadds, -, hctx, hargs⟩ := exists_of_addFilterQueryField h
    exact Or.inr (Or.inr ⟨list, source, _, rfl, rfl, hsource, .filterQuery list hctx hargs, hadds⟩)

/-! ## The supply -/

/-- The supply is above the parameters of all templates that are held. -/
def IsFresh (b : SchemaBuilder) : Prop :=
  ∀ f ∈ b.allFields, f.template.expr.idBound ≤ b.supply.next

theorem isFresh_start (queryType : String) (supply : Supply) : (start queryType supply).IsFresh :=
  nofun

theorem IsFresh.adds (h : b.IsFresh) (hadds : b.Adds f b') : b'.IsFresh := by
  intro g hg
  rcases (hadds.held g).1 hg with rfl | hg
  · exact hadds.idBound_le
  · exact Nat.le_trans (h g hg) hadds.next_le

theorem IsFresh.perform (h : b.IsFresh) (c : SchemaCall) : (b.perform c).IsFresh := by
  cases hcall : b.call c with
  | error e => rwa [perform_of_error hcall]
  | ok b' =>
    rw [perform_of_ok hcall]
    rcases call_cases hcall with ⟨-, -, hheld, hsupply⟩ | ⟨g, -, -, hadds⟩ |
      ⟨_, _, g, -, -, -, -, hadds⟩
    · unfold IsFresh
      rwa [hheld, hsupply]
    · exact h.adds hadds
    · exact h.adds hadds

theorem IsFresh.performAll (h : b.IsFresh) (calls : List SchemaCall) :
    (b.performAll calls).IsFresh := by
  induction calls generalizing b with
  | nil => exact h
  | cons c calls ih => exact ih (h.perform c)

end SchemaBuilder

end TypedQuery
