import TypedQuery.Proofs.Plan.Field
import TypedQuery.Proofs.Plan.Mutation

/-!
# What stays open

The argument holder is closed over as a constant and the parameters of filters and sorts are
declared where they occur, so a resolved field is open in the parameters of its context only, and so
is a selection on a mutation's result: `unboundParameters_of_context`.  The holder takes its place
before the context does: a template whose two parameters are one asks for the holder.
-/

namespace TypedQuery

section Field

variable {r : MemberResolver} {policy : ClausePolicy} {f : SchemaField} {arguments : BoundArguments}
  {supplied : Dict Expr} {context body body' : Expr} {s supply supply' : Supply} {b : BoundExpr}
  {holder : Value}

/-- The arguments put calls with new parameters around the template's sequence, if any. -/
theorem exists_wrapping_of_shapeBody
    (h : shapeBody r policy f arguments body supply = .ok (body', supply')) :
    ∃ ids g, Wrapping ids g ∧ (∀ id ∈ ids, supply.next ≤ id.index) ∧ body' = g body := by
  rcases shapeBody_cases h with ⟨_, p, q, shaping, -, -, -, -, hp, hq, hshaping, rfl⟩ | ⟨-, rfl⟩
  · refine ⟨[p.id, q.id], shaping.apply, (compileShaping_over hshaping).wrapping, ?_, rfl⟩
    exact List.forall_mem_cons.2 ⟨hp, List.forall_mem_cons.2 ⟨hq, nofun⟩⟩
  · exact ⟨[], fun e => e, .none, nofun, rfl⟩

/-- The body with the new parameter for the holder asks for the other parameters of the template as
the template does. -/
theorem SchemaField.mentions_freshBody (hs : f.template.expr.idBound ≤ s.next) {c : Parameter}
    (hc : c ∈ f.template.params) :
    (f.freshBody s).body.mentions c.id = true ↔
      f.body.mentions c.id = true ∧ f.argsParam?.map Parameter.id ≠ some c.id := by
  cases hargs : f.argsParam? with
  | none =>
    rw [freshBody_of_none hargs]
    simp
  | some args =>
    have hfresh : (s.draw args.name f.holderType).1.id ≠ c.id := by
      refine holder_ne_of_mem_params hs ?_ hc
      rw [freshBody_of_some hargs]
      rfl
    rw [freshBody_of_some hargs, Expr.mentions_replace]
    simp only [Parameter.expr, Expr.mentions_param, beq_eq_false_iff_ne.2 hfresh, Option.map_some,
      ne_eq, Option.some.injEq, eq_comm (a := args.id)]
    simp

/-- The holder's parameter is a constant of the template's instance, and the only one. -/
theorem Instance.mem_map_id_constants {i : Instance} {y : ParamId} :
    y ∈ (i.constants holder).map (·.1.id) ↔ ∃ p, i.holder = some p ∧ y = p.id := by
  unfold constants
  cases i.holder with
  | none => simp
  | some p => simp

/-- A resolved field is open in the context's parameters where the template asks for the context. -/
theorem mem_unboundParameters_resolveField
    (h : resolveField r policy f supplied context supply = .ok (b, supply'))
    (hclosed : f.template.freeParameters = []) (harity : f.template.params.length ≤ 2)
    (hcapture : ∀ y ∈ context.freeIds, f.body.declares y = false) (y : ParamId) :
    y ∈ b.unboundParameters.map Parameter.id ↔
      (∃ c, f.contextParam? = some c ∧ f.body.mentions c.id = true ∧
        f.argsParam?.map Parameter.id ≠ some c.id) ∧ y ∈ context.freeIds := by
  obtain ⟨arguments, s, _, rest, -, hs, hsc, hbody, hb⟩ := resolveField_cases h
  obtain ⟨ids, g, hg, hids, rfl⟩ := exists_wrapping_of_shapeBody hbody
  have hnew : ∀ y ∈ ids, s.next ≤ y.index := fun y hy =>
    Nat.le_trans SchemaField.next_le_next_freshBody (hids y hy)
  have hexpression : b.expression =
      g (f.resolved s arguments.holderValue context id).expression := by
    rw [hb]
    exact f.expression_resolved _ context hs hg hnew
  have hconstants : b.constants = (f.freshBody s).constants arguments.holderValue := by
    rw [hb]
    rfl
  rw [BoundExpr.mem_map_id_unboundParameters, hexpression, hg.mem_freeIds, hconstants,
    Instance.mem_map_id_constants, SchemaField.mem_freeIds_resolved hclosed harity hs hcapture]
  constructor
  · rintro ⟨⟨_, p, -, hp, rfl, -⟩ | ⟨c, hc, hmentions, hy⟩, hconstant⟩
    · exact absurd ⟨p, hp, rfl⟩ hconstant
    · rw [SchemaField.mentions_freshBody hs (SchemaField.mem_params_of_contextParam? hc)]
        at hmentions
      exact ⟨⟨c, hc, hmentions⟩, hy⟩
  · rintro ⟨⟨c, hc, hmentions⟩, hy⟩
    rw [← SchemaField.mentions_freshBody hs (SchemaField.mem_params_of_contextParam? hc)]
      at hmentions
    refine ⟨Or.inr ⟨c, hc, hmentions, hy⟩, ?_⟩
    rintro ⟨p, hp, rfl⟩
    exact SchemaField.holder_not_mem_freeIds hsc hp hy

end Field

/-! ## Mutations -/

/-- A mutation's result over nothing but the first parameter of its query. -/
def MutationResult.IsClosed (result : MutationResult) : Prop :=
  match result with
  | .query f => ∀ p ∈ f.body.freeParameters, f.params[0]?.map Parameter.id = some p.id
  | .value _ => True

/-- A selection over nothing but its parameter and its constants. -/
def Selection.IsClosed (s : Selection) : Prop :=
  ∀ p ∈ s.body.freeParameters, p.id = s.param.id ∨ p.id ∈ s.constants.map (·.1.id)

section Mutation

variable {s : Selection} {context : Option Parameter} {y : ParamId}

theorem Selection.IsClosed.mem_constants (h : s.IsClosed) (hy : y ∈ s.lambda.expr.freeIds) :
    y ∈ s.constants.map (·.1.id) := by
  obtain ⟨hbody, hparam⟩ := Expr.mem_freeIds_lambda.1 hy
  obtain ⟨p, hp, rfl⟩ := Expr.exists_mem_freeParameters hbody
  refine (h p hp).resolve_left fun heq => hparam ?_
  rw [heq]
  exact List.mem_cons_self ..

/-- A selection on a value is closed: on a list, and on what is no list. -/
theorem Selection.IsClosed.rewriteValue (h : s.IsClosed) (v : Value) :
    (rewriteValue v s).IsClosed := by
  unfold TypedQuery.rewriteValue
  split
  · intro y hy
    rcases Selection.mem_freeIds_onEach hy with hy | hy
    · exact absurd hy Expr.mem_freeIds_const
    · exact h.mem_constants hy
  · exact isClosed_onValue (fun y hy => List.mem_append_right _ (h.mem_constants hy)) v

/-- A selection on a mutation's result is closed. -/
theorem isClosed_of_rewriteMutation {result : MutationResult} {b : BoundExpr}
    (hresult : result.IsClosed) (hselection : s.IsClosed)
    (h : rewriteMutation result s = .ok b) : b.IsClosed := by
  cases result with
  | value v =>
    rw [← Except.ok.inj h]
    exact hselection.rewriteValue v
  | query f =>
    refine isClosed_of_rewriteQuery (fun y hy => ?_) (fun y hy => ?_) h
    · obtain ⟨p, hp, rfl⟩ := Expr.exists_mem_freeParameters hy
      obtain ⟨c, hc, heq⟩ := Option.map_eq_some_iff.1 (hresult p hp)
      refine List.mem_append_left _ ?_
      rw [hc, ← heq]
      exact List.mem_cons_self ..
    · exact List.mem_append_right _ (hselection.mem_constants hy)

end Mutation

/-! ## The result -/

/-- A resolved field is open in the parameters of its context and in no others, and in those only if
its template asks for the context by a parameter that is not the argument holder's too.  A selection
on a mutation's result is open in parameters of its context only. -/
theorem unboundParameters_of_context :
    (∀ {r : MemberResolver} {policy : ClausePolicy} {f : SchemaField} {supplied : Dict Expr}
        {context : Expr} {supply supply' : Supply} {b : BoundExpr},
      resolveField r policy f supplied context supply = .ok (b, supply') →
      f.template.freeParameters = [] → f.template.params.length ≤ 2 →
      (∀ p ∈ context.freeParameters, f.body.declares p.id = false) →
      ∀ id, id ∈ b.unboundParameters.map Parameter.id ↔
        (∃ c, f.contextParam? = some c ∧ f.body.mentions c.id = true ∧
          f.argsParam?.map Parameter.id ≠ some c.id) ∧
        id ∈ context.freeParameters.map Parameter.id) ∧
    (∀ {result : MutationResult} {s : Selection} {context : Expr} {b : BoundExpr},
      rewriteMutationOnto result s context = .ok b → result.IsClosed → s.IsClosed →
      ∀ p ∈ b.unboundParameters, p ∈ context.freeParameters) := by
  constructor
  · intro r policy f supplied context supply supply' b h hclosed harity hcapture id
    rw [Expr.mem_map_id_freeParameters]
    refine mem_unboundParameters_resolveField h hclosed harity (fun y hy => ?_) id
    obtain ⟨p, hp, rfl⟩ := List.mem_map.1 (Expr.mem_map_id_freeParameters.2 hy)
    exact hcapture p hp
  · intro result s context b h hresult hselection p hp
    obtain ⟨b', hb', rfl⟩ := map_eq_ok_iff.1 h
    exact (isClosed_of_rewriteMutation hresult hselection
      hb').mem_freeParameters_of_mem_unboundParameters hp

namespace Sample

/-- A field that gives its context, with one parameter for the context and for the arguments. -/
def sameQuery : SchemaField where
  name := "same"
  description := none
  template := ⟨[contextParam, contextParam], contextParam.expr⟩
  arguments := []
  returns := ⟨"Query", false⟩

end Sample

open Sample in
/-- The people of a directory are open in the directory, and so is the first one under age. -/
theorem unboundParameters_peopleQuery :
    (∃ b s, resolveField compiler.resolver .drop peopleQuery lastAdult directoryParam.expr ⟨3⟩ =
        .ok (b, s) ∧ directoryParam.id ∈ b.unboundParameters.map Parameter.id) ∧
    (∃ b, rewriteMutationOnto (.query firstUnderAge) nameOnly directoryParam.expr = .ok b ∧
      ∀ p ∈ b.unboundParameters, p ∈ directoryParam.expr.freeParameters) := by
  obtain ⟨hfield, hmutation⟩ := unboundParameters_of_context
  obtain ⟨b, s, hresolve⟩ : ∃ b s, resolveField compiler.resolver .drop peopleQuery lastAdult
      directoryParam.expr ⟨3⟩ = .ok (b, s) := ⟨_, _, rfl⟩
  have hresult : (MutationResult.query firstUnderAge).IsClosed := by
    intro p hp
    obtain rfl : p = pairParam := List.mem_singleton.1 hp
    rfl
  have hselection : nameOnly.IsClosed := by
    intro p hp
    obtain rfl : p = nameOnly.param := List.mem_singleton.1 hp
    exact Or.inl rfl
  refine ⟨⟨b, s, hresolve, ?_⟩, _, rfl, hmutation rfl hresult hselection⟩
  exact (hfield hresolve rfl (by decide) (fun _ _ => rfl) _).2
    ⟨⟨contextParam, rfl, rfl, by decide⟩, List.mem_cons_self ..⟩

open Sample in
/-- Where one parameter stands for the context and the arguments, the holder takes its place: the
body asks for the context, and nothing is open. -/
theorem unboundParameters_sameQuery :
    ∃ b s, resolveField compiler.resolver .drop sameQuery [] directoryParam.expr ⟨3⟩ = .ok (b, s) ∧
      sameQuery.template.freeParameters = [] ∧ sameQuery.template.params.length = 2 ∧
      (∀ p ∈ directoryParam.expr.freeParameters, sameQuery.template.expr.declares p.id = false) ∧
      (∃ c, sameQuery.contextParam? = some c ∧ sameQuery.body.mentions c.id = true) ∧
      directoryParam.expr.freeParameters = [directoryParam] ∧ b.unboundParameters = [] := by
  refine ⟨_, _, rfl, rfl, rfl, ?_, ⟨contextParam, rfl, rfl⟩, rfl, rfl⟩
  intro p hp
  obtain rfl : p = directoryParam := List.mem_singleton.1 hp
  rfl

end TypedQuery
