import TypedQuery.Proofs.Plan.Field

/-!
# The element type of a resolved field

The filter and the sort of a field are compiled for the element type that its template's body has
before the context takes the place of the template's own.  A context of the declared type leaves the
type of the body as it is (`Expr.ty_replace`), and so do the calls that shape the sequence, so the
resolved field still has elements of that type: `ty_kept_by_substitution`.
-/

namespace TypedQuery

/-! ## Shaping -/

theorem CompiledSort.ty_apply (s : CompiledSort) (e : Expr) : (s.apply e).ty = e.ty := by
  cases s with
  | unchanged | reversed => rfl
  | byKey key descending => cases descending <;> rfl

theorem PageSpec.ty_apply (p : PageSpec) (e : Expr) : (p.apply e).ty = e.ty := by
  have hskip : (skipTo p.skip e).ty = e.ty := by
    unfold skipTo
    split <;> rfl
  rw [PageSpec.apply, ← hskip]
  unfold limitTo
  split <;> rfl

/-- A shaped sequence has the type of the sequence. -/
theorem Shaping.ty_apply (s : Shaping) (e : Expr) : (s.apply e).ty = e.ty := by
  have hfiltered : (s.filtered e).ty = e.ty := by
    unfold filtered
    split <;> rfl
  rw [apply, PageSpec.ty_apply, CompiledSort.ty_apply, hfiltered]

section Field

variable {r : MemberResolver} {policy : ClausePolicy} {f : SchemaField} {arguments : BoundArguments}
  {supplied : Dict Expr} {context body body' : Expr} {s supply supply' : Supply} {b : BoundExpr}
  {constants : List (Parameter × Value)} {t elementType : ExprType}

/-- A sequence of a field with arguments for it is shaped by what is compiled for its elements. -/
theorem exists_drawShaping_of_shapeBody
    (h : shapeBody r policy f arguments body supply = .ok (body', supply'))
    (hshaped : f.isShaped = true) (helement : body.ty.element? = some elementType) :
    ∃ shaping, drawShaping r policy elementType arguments.shaping supply = .ok (shaping, supply') ∧
      body' = shaping.apply body := by
  rw [shapeBody, hshaped, helement] at h
  obtain ⟨⟨shaping, rest⟩, hdraw, h⟩ := bind_eq_ok_iff.1 h
  obtain ⟨rfl, rfl⟩ := Prod.mk.inj (Except.ok.inj h)
  exact ⟨shaping, hdraw, rfl⟩

/-! ## The context -/

/-- The new parameter for the holder is none of the context's occurrences. -/
theorem SchemaField.ty_of_mem_nodes_freshBody (hs : f.template.expr.idBound ≤ s.next) {c : Parameter}
    (hc : c ∈ f.template.params) (hty : ∀ p, .param p ∈ f.body.nodes → p.id = c.id → p.ty = t)
    {p : Parameter} (hp : .param p ∈ (f.freshBody s).body.nodes) (hid : p.id = c.id) : p.ty = t := by
  cases hargs : f.argsParam? with
  | none =>
    rw [freshBody_of_none hargs] at hp
    exact hty p hp hid
  | some args =>
    have hholder : (s.draw args.name f.holderType).1 ∈ (f.freshBody s).holder := by
      rw [freshBody_of_some hargs]
      rfl
    rw [freshBody_of_some hargs] at hp
    rcases Expr.mem_nodes_replace_param hp with ⟨hp, -⟩ | hp
    · exact hty p hp hid
    · obtain rfl := Expr.param.inj (List.mem_singleton.1 hp)
      exact absurd hid (holder_ne_of_mem_params hs hholder hc)

/-- A context of the declared type leaves the type as it is. -/
theorem BoundExpr.ty_expression_substituteContext {c? : Option Parameter}
    (hcontext : context.isLambda = false)
    (hty : ∀ c ∈ c?, ∀ p, .param p ∈ body.nodes → p.id = c.id → p.ty = context.ty) :
    (BoundExpr.substituteContext ⟨c?, body, constants⟩ context).expression.ty = body.ty := by
  cases c? with
  | none => rfl
  | some c => exact Expr.ty_replace hcontext (hty c rfl)

/-- A field that is resolved in a context of the declared type has the type of its template's
body. -/
theorem ty_resolveField (h : resolveField r policy f supplied context supply = .ok (b, supply'))
    (hcontext : context.isLambda = false)
    (hty : ∀ c ∈ f.contextParam?, ∀ p, .param p ∈ f.body.nodes → p.id = c.id → p.ty = context.ty) :
    b.expression.ty = (f.instanceIn context supply).body.ty := by
  obtain ⟨arguments, s, body, rest, -, hs, -, hbody, hb⟩ := resolveField_cases h
  have hparam : ∀ c ∈ f.contextParam?, c ∈ f.template.params :=
    fun c hc => SchemaField.mem_params_of_contextParam? hc
  have hfresh : ∀ constants, (BoundExpr.substituteContext ⟨f.contextParam?, (f.freshBody s).body,
      constants⟩ context).expression.ty = (f.freshBody s).body.ty := fun constants =>
    BoundExpr.ty_expression_substituteContext hcontext fun c hc p hp hid =>
      SchemaField.ty_of_mem_nodes_freshBody hs (hparam c hc) (hty c hc) hp hid
  rw [SchemaField.instanceIn, SchemaField.ty_freshBody s, ← hfresh, hb]
  rcases shapeBody_cases hbody with
    ⟨_, p, q, shaping, -, -, -, -, hp, hq, hshaping, rfl⟩ | ⟨-, rfl⟩
  · -- The parameters of the filter and of the sort are new, so the context goes below the calls.
    have hids : ∀ c ∈ f.contextParam?, c.id ∉ [p.id, q.id] := by
      intro c hc hmem
      have hlt := SchemaField.index_lt_of_mem_params hs (hparam c hc)
      have hnext := SchemaField.next_le_next_freshBody (f := f) (s := s)
      simp only [List.mem_cons, List.not_mem_nil, or_false] at hmem
      rcases hmem with heq | heq <;> rw [heq] at hlt <;> omega
    rw [(compileShaping_over hshaping).wrapping.expression_substituteContext hids,
      Shaping.ty_apply]
  · rfl

end Field

/-! ## Substitution -/

/-- An expression that takes the place of a parameter leaves the type as it is, if it has the type of
the parameter wherever that occurs, and that is no function type.  So the elements of a field that is
resolved in a context of the declared type are of the type for which its filter and sort have been
compiled. -/
theorem ty_kept_by_substitution :
    (∀ (e d : Expr) (x : ParamId), (∀ params output, d.ty ≠ .function params output) →
      (∀ p, .param p ∈ e.nodes → p.id = x → p.ty = d.ty) → (e.replace x d).ty = e.ty) ∧
    ∀ (r : MemberResolver) (policy : ClausePolicy) (f : SchemaField) (supplied : Dict Expr)
      (context : Expr) (supply supply' : Supply) (b : BoundExpr),
      resolveField r policy f supplied context supply = .ok (b, supply') →
      (∀ params output, context.ty ≠ .function params output) →
      (∀ c ∈ f.contextParam?, ∀ p, .param p ∈ f.body.nodes → p.id = c.id → p.ty = context.ty) →
      b.expression.ty = (f.instanceIn context supply).body.ty ∧
      ∀ elementType, f.isShaped = true →
        (f.instanceIn context supply).body.ty.element? = some elementType →
        b.expression.ty.element? = some elementType ∧
        ∃ arguments shaping, bindArguments f r.lookup supplied = .ok arguments ∧
          drawShaping r policy elementType arguments.shaping (f.instanceIn context supply).supply =
            .ok (shaping, supply') ∧
          b = BoundExpr.substituteContext ⟨f.contextParam?,
            shaping.apply (f.instanceIn context supply).body,
            (f.instanceIn context supply).constants arguments.holderValue⟩ context := by
  refine ⟨fun e d x hd hty => Expr.ty_replace (Expr.isLambda_eq_false_of_ty hd) hty, ?_⟩
  intro r policy f supplied context supply supply' b h hcontext hty
  have htype := ty_resolveField h (Expr.isLambda_eq_false_of_ty hcontext) hty
  refine ⟨htype, fun elementType hshaped helement => ⟨htype ▸ helement, ?_⟩⟩
  obtain ⟨arguments, body, harguments, hbody, hb⟩ := resolveField_instance h
  obtain ⟨shaping, hshaping, rfl⟩ := exists_drawShaping_of_shapeBody hbody hshaped helement
  exact ⟨arguments, shaping, harguments, hshaping, hb⟩

namespace Sample

/-- A directory that a root holds. -/
def heldDirectory : Expr :=
  .member (.param ⟨⟨4⟩, "root", .record [("data", .object "Query")]⟩) "data" (.object "Query")

/-- The name of the first one of the people of a directory. -/
def firstName : Expr :=
  .call .first (.call .select (.member contextParam.expr "people" (.sequence personRecord))
    [.lambda [⟨⟨5⟩, "x", personRecord⟩]
      (.member (.param ⟨⟨5⟩, "x", personRecord⟩) "name" (.scalar .string))]) []

end Sample

open Sample in
/-- A directory that a root holds has the declared type of a directory: the first name is a text over
it, and the people with the arguments applied are people. -/
theorem ty_kept_by_heldDirectory :
    (∀ params output, heldDirectory.ty ≠ .function params output) ∧
    (∀ p, .param p ∈ firstName.nodes → p.id = contextParam.id → p.ty = heldDirectory.ty) ∧
    (firstName.replace contextParam.id heldDirectory).ty = firstName.ty ∧
    ∃ b s, resolveField compiler.resolver .drop peopleQuery lastAdult heldDirectory ⟨3⟩ =
        .ok (b, s) ∧
      (∀ c ∈ peopleQuery.contextParam?, ∀ p, .param p ∈ peopleQuery.body.nodes → p.id = c.id →
        p.ty = heldDirectory.ty) ∧
      peopleQuery.isShaped = true ∧
      (peopleQuery.instanceIn heldDirectory ⟨3⟩).body.ty.element? = some personRecord ∧
      b.expression.ty.element? = some personRecord := by
  have hfunction : ∀ params output, heldDirectory.ty ≠ .function params output := nofun
  have hname : ∀ p, .param p ∈ firstName.nodes → p.id = contextParam.id →
      p.ty = heldDirectory.ty := by
    intro p hp hid
    obtain rfl | rfl : p = contextParam ∨ p = ⟨⟨5⟩, "x", personRecord⟩ := by
      simpa [firstName, Parameter.expr, Expr.nodes, Expr.nodesOfItems] using hp
    · rfl
    · exact absurd hid (by decide)
  have hbody : ∀ c ∈ peopleQuery.contextParam?, ∀ p, .param p ∈ peopleQuery.body.nodes →
      p.id = c.id → p.ty = heldDirectory.ty := by
    intro c _ p hp _
    obtain rfl : p = contextParam := by
      simpa [peopleQuery, SchemaField.body, Parameter.expr, Expr.nodes] using hp
    rfl
  obtain ⟨b, s, hresolve⟩ : ∃ b s, resolveField compiler.resolver .drop peopleQuery lastAdult
      heldDirectory ⟨3⟩ = .ok (b, s) := ⟨_, _, rfl⟩
  obtain ⟨-, hshaped⟩ := ty_kept_by_substitution.2 _ _ _ _ _ _ _ b hresolve hfunction hbody
  exact ⟨hfunction, hname,
    ty_kept_by_substitution.1 firstName heldDirectory contextParam.id hfunction hname,
    b, s, hresolve, hbody, rfl, rfl, (hshaped personRecord rfl rfl).1⟩

end TypedQuery
