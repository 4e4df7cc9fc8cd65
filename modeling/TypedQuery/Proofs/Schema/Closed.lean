import TypedQuery.Proofs.Expr.Replacement
import TypedQuery.Proofs.Schema.Calls
import TypedQuery.Sample

/-!
# Closed templates

A derived field stands on the body of a list field, where the list field's context is replaced by
its own.  Its template is closed exactly if that body reads nothing else
(`SchemaField.Derives.isClosed_iff`).  So whatever the calls of a builder, templates that are closed
when they are handed to it leave it with closed templates as long as no field is derived from a list
field that reads its arguments: `SchemaBuilder.isClosed_performAll_iff`.
-/

namespace TypedQuery

namespace SchemaField

/-- Whether a field's template has no free parameters beyond its own. -/
def IsClosed (f : SchemaField) : Prop := f.template.freeParameters = []

/-- Whether nothing but the context's parameter is free in the body. -/
def ReadsContextOnly (f : SchemaField) : Prop :=
  ∀ id ∈ f.body.freeIds, f.contextParam?.map Parameter.id = some id

theorem isClosed_iff {f : SchemaField} :
    f.IsClosed ↔ ∀ id ∈ f.body.freeIds, id ∈ f.template.params.map Parameter.id := by
  unfold IsClosed Lambda.freeParameters Lambda.expr
  rw [Expr.freeParameters_eq_nil_iff]
  refine forall_congr' fun id => ?_
  rw [Expr.mem_freeIds_lambda, not_and, not_not]
  rfl

/-! ## Derived fields -/

section Derived

variable {f g : SchemaField} {ctx : Parameter} {next : Nat}

theorem idBound_body_le_template (f : SchemaField) : f.body.idBound ≤ f.template.expr.idBound :=
  Nat.le_max_right _ _

/-- What is free in a body over another context: that context's parameter, and what was free
besides the old one. -/
theorem mem_freeIds_bodyOver {y : ParamId} (hy : y ∈ (f.bodyOver ctx.expr).freeIds) :
    y = ctx.id ∨ y ∈ f.body.freeIds ∧ f.contextParam?.map Parameter.id ≠ some y := by
  unfold bodyOver at hy
  cases hold : f.contextParam? with
  | none =>
    rw [hold] at hy
    exact Or.inr ⟨hy, nofun⟩
  | some old =>
    rw [hold] at hy
    rcases Expr.mem_freeIds_of_mem_replace hy with ⟨hy, hne⟩ | hy
    · exact Or.inr ⟨hy, fun heq => hne (Option.some.inj heq).symm⟩
    · exact Or.inl (Expr.mem_freeIds_param.1 hy)

theorem mem_freeIds_bodyOver_of_ne {y : ParamId} (hy : y ∈ f.body.freeIds)
    (hne : f.contextParam?.map Parameter.id ≠ some y) : y ∈ (f.bodyOver ctx.expr).freeIds := by
  unfold bodyOver
  cases hold : f.contextParam? with
  | none => exact hy
  | some old =>
    refine Expr.mem_freeIds_replace_of_ne _ hy ?_
    rintro rfl
    exact hne (by rw [hold, Option.map_some])

/-- Among new parameters, with that of the new context, a body is closed if it was closed but for
the old context. -/
theorem readsContextOnly_iff_bodyOver {own : List ParamId} (hctx : ctx.id ∈ own)
    (hnew : ∀ id ∈ own, f.body.idBound ≤ id.index) :
    (∀ y ∈ (f.bodyOver ctx.expr).freeIds, y ∈ own) ↔ f.ReadsContextOnly := by
  constructor
  · intro h y hy
    by_contra hne
    have hle := hnew y (h y (mem_freeIds_bodyOver_of_ne hy hne))
    have hlt := Expr.index_lt_idBound (Or.inl (Expr.mentions_of_mem_freeIds hy))
    omega
  · intro h y hy
    rcases mem_freeIds_bodyOver hy with rfl | ⟨hy, hne⟩
    · exact hctx
    · exact absurd (h y hy) hne

/-- A derived field's template is closed exactly if the list field reads its context only. -/
theorem Derives.isClosed_iff (h : f.Derives next g) (hnext : f.template.expr.idBound ≤ next) :
    g.IsClosed ↔ f.ReadsContextOnly := by
  have hbody : f.body.idBound ≤ next := Nat.le_trans f.idBound_body_le_template hnext
  cases h with
  | @filterQuery list ctx args hctx hargs =>
    rw [SchemaField.isClosed_iff]
    refine readsContextOnly_iff_bodyOver (List.mem_cons_self ..) ?_
    intro id hid
    rcases List.mem_cons.1 hid with rfl | hid
    · omega
    · rw [List.mem_singleton.1 hid]
      omega
  | @idLookup name id type ctx args item hctx hargs hitem =>
    have hnew : ∀ y ∈ [ctx.id, args.id], f.body.idBound ≤ y.index := by
      intro y hy
      rcases List.mem_cons.1 hy with rfl | hy
      · omega
      · rw [List.mem_singleton.1 hy]
        omega
    -- The test of the look-up reads the element that it declares and the arguments.
    have htest : ∀ y, y ∈ (Expr.lambda [item] (.binary .equal (.member item.expr id.name id.ty)
        (.member args.expr id.name id.ty))).freeIds → y = args.id := by
      intro y hy
      obtain ⟨hy, hne⟩ := Expr.mem_freeIds_lambda.1 hy
      rcases Expr.mem_freeIds_binary.1 hy with hy | hy
      · exact absurd (List.mem_singleton.2 (Expr.mem_freeIds_param.1 hy)) hne
      · exact Expr.mem_freeIds_param.1 hy
    rw [SchemaField.isClosed_iff, ← readsContextOnly_iff_bodyOver (List.mem_cons_self ..) hnew]
    constructor
    · intro h y hy
      exact h y (Expr.mem_freeIds_call.2 (Or.inl (Expr.mem_freeIds_call.2 (Or.inl hy))))
    · intro h y hy
      rcases Expr.mem_freeIds_call.1 hy with hy | ⟨_, hmem, -⟩
      · rcases Expr.mem_freeIds_call.1 hy with hy | ⟨e, hmem, hy⟩
        · exact h y hy
        · rw [List.mem_singleton.1 hmem] at hy
          rw [htest y hy]
          exact List.mem_cons_of_mem _ (List.mem_singleton_self _)
      · cases hmem

end Derived

end SchemaField

/-! ## Calls -/

namespace SchemaBuilder

/-- The list field that a call derives a field from, if it does. -/
def source? (b : SchemaBuilder) (c : SchemaCall) : Option SchemaField :=
  match b.call c, c.list? with
  | .ok _, some list => (b.listField list).toOption
  | _, _ => none

/-- Whether the templates of all fields that are held are closed. -/
def IsClosed (b : SchemaBuilder) : Prop := ∀ f ∈ b.allFields, f.IsClosed

variable {b b' : SchemaBuilder} {c : SchemaCall}

theorem Adds.isClosed_iff {g : SchemaField} (h : b.Adds g b') :
    b'.IsClosed ↔ b.IsClosed ∧ g.IsClosed := by
  unfold IsClosed
  constructor
  · intro hclosed
    exact ⟨fun f hf => hclosed f ((h.held f).2 (Or.inr hf)), hclosed g ((h.held g).2 (Or.inl rfl))⟩
  · rintro ⟨hclosed, hg⟩ f hf
    rcases (h.held f).1 hf with rfl | hf
    · exact hg
    · exact hclosed f hf

/-- A call keeps templates closed exactly if the list field that it derives a field from, if any,
reads its context only. -/
theorem IsFresh.isClosed_perform_iff (h : b.IsFresh) (hhanded : ∀ g ∈ c.handed?, g.IsClosed) :
    (b.perform c).IsClosed ↔ b.IsClosed ∧ ∀ source ∈ b.source? c, source.ReadsContextOnly := by
  unfold source?
  cases hcall : b.call c with
  | error e =>
    rw [perform_of_error hcall]
    exact ⟨fun hclosed => ⟨hclosed, nofun⟩, And.left⟩
  | ok b' =>
    rw [perform_of_ok hcall]
    rcases call_cases hcall with ⟨-, hlist, hheld, -⟩ | ⟨g, hg, hlist, hadds⟩ |
      ⟨list, source, g, -, hlist, hsource, hg, hadds⟩
    · rw [hlist, IsClosed, hheld]
      exact ⟨fun hclosed => ⟨hclosed, nofun⟩, And.left⟩
    · rw [hlist, hadds.isClosed_iff]
      exact ⟨fun hclosed => ⟨hclosed.1, nofun⟩, fun hclosed => ⟨hclosed.1, hhanded g hg⟩⟩
    · have hsources : (∀ f ∈ (b.listField list).toOption, f.ReadsContextOnly) ↔
          source.ReadsContextOnly := by
        rw [hsource]
        exact ⟨fun h => h source rfl, fun h f hf => Option.some.inj hf ▸ h⟩
      simp only [hlist]
      rw [hsources, hadds.isClosed_iff,
        hg.isClosed_iff (h source (mem_allFields_of_listField hsource))]

theorem IsFresh.isClosed_of_calls_iff {calls : List SchemaCall} (h : b.IsFresh)
    (hhanded : ∀ c ∈ calls, ∀ g ∈ c.handed?, g.IsClosed) :
    (b.performAll calls).IsClosed ↔ b.IsClosed ∧
      ∀ before c after, calls = before ++ c :: after →
        ∀ source ∈ (b.performAll before).source? c, source.ReadsContextOnly := by
  induction calls generalizing b with
  | nil =>
    refine ⟨fun hclosed => ⟨hclosed, ?_⟩, And.left⟩
    intro before c after hsplit
    exact absurd hsplit (by simp)
  | cons c calls ih =>
    rw [List.forall_mem_cons] at hhanded
    have hrest := ih (h.perform c) hhanded.2
    rw [h.isClosed_perform_iff hhanded.1] at hrest
    refine hrest.trans ?_
    rw [and_assoc]
    refine and_congr_right fun _ => ?_
    constructor
    · rintro ⟨hfirst, hlater⟩ before d after hsplit
      rcases List.cons_eq_append_iff.1 hsplit with ⟨rfl, heq⟩ | ⟨before, rfl, heq⟩
      · obtain ⟨rfl, -⟩ := List.cons.inj heq
        exact hfirst
      · exact hlater before d after heq
    · intro hall
      refine ⟨hall [] c calls rfl, fun before d after hsplit => ?_⟩
      exact hall (c :: before) d after (by rw [hsplit, List.cons_append])

/-- A builder that is handed closed templates holds closed templates exactly if it derives fields
from list fields that read their context only. -/
theorem isClosed_performAll_iff (queryType : String) (supply : Supply) {calls : List SchemaCall}
    (hhanded : ∀ c ∈ calls, ∀ g ∈ c.handed?, g.IsClosed) :
    ((start queryType supply).performAll calls).IsClosed ↔
      ∀ before c after, calls = before ++ c :: after →
        ∀ source ∈ ((start queryType supply).performAll before).source? c,
          source.ReadsContextOnly := by
  rw [(isFresh_start queryType supply).isClosed_of_calls_iff hhanded]
  exact and_iff_right nofun

end SchemaBuilder

namespace Sample

/-- The parameter for the context of the list fields below. -/
def listContext : Parameter := ⟨⟨0⟩, "ctx", .object "Query"⟩

/-- The parameter for the arguments of the list field below. -/
def listArgs : Parameter := ⟨⟨1⟩, "args", .record [("limit", .scalar .int)]⟩

/-- The first people of a directory, as many as are asked for. -/
def firstPeople : SchemaField where
  name := "firstPeople"
  description := none
  template := ⟨[listContext, listArgs], .call .take (.member listContext.expr "people" peopleType)
    [.member listArgs.expr "limit" (.scalar .int)]⟩
  arguments := [.ofType "limit" .int true]
  returns := ⟨"Person", true⟩

/-- The calls that register a list field and derive both fields from it. -/
def derivingCalls (f : SchemaField) : List SchemaCall :=
  [.type ⟨"Person", none, [⟨"id", .scalar .int⟩]⟩, .queryField f, .idLookup f.name "person",
    .filterQuery f.name]

/-- The builder after these calls. -/
def derivingBuilder (f : SchemaField) : SchemaBuilder :=
  (SchemaBuilder.start "Query" ⟨2⟩).performAll (derivingCalls f)

theorem handed_derivingCalls {f : SchemaField} (h : f.IsClosed) :
    ∀ c ∈ derivingCalls f, ∀ g ∈ c.handed?, g.IsClosed := by
  unfold derivingCalls
  simp only [List.forall_mem_cons]
  refine ⟨nofun, ?_, nofun, nofun, nofun⟩
  intro g hg
  rwa [← Option.some.inj hg]

end Sample

open Sample in
/-- The fields derived from the list of all people are closed, so that list reads its context
only. -/
theorem readsContextOnly_peopleField :
    (∀ c ∈ derivingCalls (peopleField listContext), ∀ g ∈ c.handed?, g.IsClosed) ∧
    (derivingBuilder (peopleField listContext)).IsClosed ∧
    (peopleField listContext).ReadsContextOnly := by
  have hhanded : ∀ c ∈ derivingCalls (peopleField listContext), ∀ g ∈ c.handed?, g.IsClosed :=
    handed_derivingCalls rfl
  have hclosed : (derivingBuilder (peopleField listContext)).IsClosed :=
    List.forall_mem_cons.2 ⟨rfl, List.forall_mem_cons.2 ⟨rfl, List.forall_mem_cons.2 ⟨rfl, nofun⟩⟩⟩
  have hsources := (SchemaBuilder.isClosed_performAll_iff "Query" ⟨2⟩ hhanded).1 hclosed
  exact ⟨hhanded, hclosed, hsources [_, _] (.idLookup _ _) [_] rfl _ rfl⟩

open Sample in
/-- A list field that reads its arguments is handed with a closed template, and in both of the
fields derived from it the parameter for those arguments is free. -/
theorem not_isClosed_firstPeople :
    (∀ c ∈ derivingCalls firstPeople, ∀ g ∈ c.handed?, g.IsClosed) ∧
    ((derivingBuilder firstPeople).allFields.map fun f =>
      (f.name, f.template.freeParameters.map Parameter.id)) =
        [("firstPeople", []), ("firstPeopleFilterQuery", [listArgs.id]),
          ("person", [listArgs.id])] ∧
    ¬ (derivingBuilder firstPeople).IsClosed := by
  refine ⟨handed_derivingCalls rfl, rfl, ?_⟩
  intro hclosed
  have hderived := (List.forall_mem_cons.1 (List.forall_mem_cons.1 hclosed).2).1
  exact List.cons_ne_nil _ _ hderived

end TypedQuery
