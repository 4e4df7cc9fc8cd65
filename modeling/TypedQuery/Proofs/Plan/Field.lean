import TypedQuery.Plan.Field
import TypedQuery.Proofs.Eval.Bound
import TypedQuery.Proofs.Eval.Nesting
import TypedQuery.Proofs.Plan.Arguments

/-!
# What a resolved field means

A field is resolved in three steps: a new parameter for the argument holder takes the place of the
template's, the sequence is shaped, and the context takes the place of the template's.  Each step
has a lemma here, for scopes in which the parameters stand for what took their place.
`exists_run_of_resolveField` puts them together, and `resolveField_execute` says the result in what
the arguments ask for: clauses, a path to sort by, and the numbers of a page.
-/

namespace TypedQuery

/-- The scope of a template, with the context and the argument holder. -/
def SchemaField.scope (f : SchemaField) (context holder : Value) : Scope :=
  (Scope.bindOption [] f.contextParam? context).bindOption f.argsParam? holder

/-- The constants of an instance of a template: the argument holder. -/
def Instance.constants (i : Instance) (holder : Value) : List (Parameter × Value) :=
  match i.holder with
  | some p => [(p, holder)]
  | none => []

/-- The instance of a template that is resolved in a context. -/
def SchemaField.instanceIn (f : SchemaField) (context : Expr) (supply : Supply) : Instance :=
  f.freshBody ((supply.avoiding f.template.expr).avoiding context)

/-! ## Steps -/

section Steps

variable {r : MemberResolver} {policy : ClausePolicy} {f : SchemaField} {arguments : BoundArguments}
  {supplied : Dict Expr} {context body body' : Expr} {supply supply' : Supply} {b : BoundExpr}

/-- What the arguments do to the template's sequence. -/
theorem shapeBody_cases (h : shapeBody r policy f arguments body supply = .ok (body', supply')) :
    (∃ elementType p q shaping, f.isShaped = true ∧ body.ty.element? = some elementType ∧
      p.ty = elementType ∧ q.ty = elementType ∧
      supply.next ≤ p.id.index ∧ supply.next ≤ q.id.index ∧
      compileShaping r policy p q arguments.shaping = .ok shaping ∧ body' = shaping.apply body) ∨
    ((f.isShaped = false ∨ body.ty.element? = none) ∧ body' = body) := by
  unfold shapeBody at h
  split at h
  · rename_i elementType hshaped helement
    obtain ⟨⟨shaping, rest⟩, hdraw, h⟩ := bind_eq_ok_iff.1 h
    obtain ⟨compiled, hcompiled, hdraw⟩ := bind_eq_ok_iff.1 hdraw
    obtain ⟨rfl, -⟩ := Prod.mk.inj (Except.ok.inj hdraw)
    obtain ⟨rfl, -⟩ := Prod.mk.inj (Except.ok.inj h)
    exact Or.inl ⟨elementType, _, _, _, hshaped, helement, rfl, rfl, Nat.le_refl _,
      Nat.le_succ _, hcompiled, rfl⟩
  · rename_i hnot
    obtain ⟨rfl, -⟩ := Prod.mk.inj (Except.ok.inj h)
    refine Or.inr ⟨?_, rfl⟩
    cases hshaped : f.isShaped with
    | false => exact Or.inl rfl
    | true =>
      cases helement : body.ty.element? with
      | none => exact Or.inr rfl
      | some elementType => exact absurd helement (hnot elementType hshaped)

/-- Shaping gives back a supply without what it has drawn. -/
theorem next_le_of_shapeBody
    (h : shapeBody r policy f arguments body supply = .ok (body', supply')) :
    supply.next ≤ supply'.next := by
  unfold shapeBody at h
  split at h
  · obtain ⟨⟨shaping, rest⟩, hdraw, h⟩ := bind_eq_ok_iff.1 h
    obtain ⟨compiled, -, hdraw⟩ := bind_eq_ok_iff.1 hdraw
    obtain ⟨-, rfl⟩ := Prod.mk.inj (Except.ok.inj hdraw)
    obtain ⟨-, rfl⟩ := Prod.mk.inj (Except.ok.inj h)
    exact Nat.le_add_right _ 2
  · obtain ⟨-, rfl⟩ := Prod.mk.inj (Except.ok.inj h)
    exact Nat.le_refl _

/-- The steps of resolving a field. -/
theorem resolveField_instance
    (h : resolveField r policy f supplied context supply = .ok (b, supply')) :
    ∃ arguments body,
      bindArguments f r.lookup supplied = .ok arguments ∧
      shapeBody r policy f arguments (f.instanceIn context supply).body
        (f.instanceIn context supply).supply = .ok (body, supply') ∧
      b = BoundExpr.substituteContext ⟨f.contextParam?, body,
        (f.instanceIn context supply).constants arguments.holderValue⟩ context := by
  obtain ⟨arguments, harguments, h⟩ := bind_eq_ok_iff.1 h
  obtain ⟨⟨body, rest⟩, hbody, h⟩ := bind_eq_ok_iff.1 h
  obtain ⟨rfl, rfl⟩ := Prod.mk.inj (Except.ok.inj h)
  exact ⟨arguments, body, harguments, hbody, rfl⟩

/-- The steps of resolving a field.  Its new parameters are those of the supply that are above the
ones of the template and of the context. -/
theorem resolveField_steps
    (h : resolveField r policy f supplied context supply = .ok (b, supply')) :
    ∃ arguments s body,
      bindArguments f r.lookup supplied = .ok arguments ∧ supply.next ≤ s.next ∧
      f.template.expr.idBound ≤ s.next ∧ context.idBound ≤ s.next ∧
      shapeBody r policy f arguments (f.freshBody s).body (f.freshBody s).supply =
        .ok (body, supply') ∧
      b = BoundExpr.substituteContext ⟨f.contextParam?, body,
        (f.freshBody s).constants arguments.holderValue⟩ context := by
  obtain ⟨arguments, body, harguments, hbody, hb⟩ := resolveField_instance h
  have hsupply : supply.next ≤ (supply.avoiding f.template.expr).next := Nat.le_max_left _ _
  have htemplate : f.template.expr.idBound ≤ (supply.avoiding f.template.expr).next :=
    Nat.le_max_right _ _
  exact ⟨arguments, _, body, harguments, Nat.le_trans hsupply (Nat.le_max_left _ _),
    Nat.le_trans htemplate (Nat.le_max_left _ _), Nat.le_max_right _ _, hbody, hb⟩

/-- The steps of resolving a field, whatever it leaves of the supply. -/
theorem resolveField_cases
    (h : resolveField r policy f supplied context supply = .ok (b, supply')) :
    ∃ arguments s body rest,
      bindArguments f r.lookup supplied = .ok arguments ∧
      f.template.expr.idBound ≤ s.next ∧ context.idBound ≤ s.next ∧
      shapeBody r policy f arguments (f.freshBody s).body (f.freshBody s).supply =
        .ok (body, rest) ∧
      b = BoundExpr.substituteContext ⟨f.contextParam?, body,
        (f.freshBody s).constants arguments.holderValue⟩ context := by
  obtain ⟨arguments, s, body, harguments, -, hs, hsc, hbody, hb⟩ := resolveField_steps h
  exact ⟨arguments, s, body, supply', harguments, hs, hsc, hbody, hb⟩

end Steps

/-! ## The argument holder -/

namespace SchemaField

variable {f : SchemaField} {s : Supply}

theorem freshBody_of_none (h : f.argsParam? = none) : f.freshBody s = ⟨f.body, none, s⟩ := by
  rw [freshBody, h]

theorem freshBody_of_some {args : Parameter} (h : f.argsParam? = some args) :
    f.freshBody s = ⟨f.body.replace args.id (s.draw args.name f.holderType).1.expr,
      some (s.draw args.name f.holderType).1, (s.draw args.name f.holderType).2⟩ := by
  rw [freshBody, h]

/-- The parameter for the holder is the next one of the supply. -/
theorem index_of_mem_holder {p : Parameter} (hp : p ∈ (f.freshBody s).holder) :
    p.id.index = s.next := by
  cases hargs : f.argsParam? with
  | none =>
    rw [freshBody_of_none hargs] at hp
    cases hp
  | some args =>
    rw [freshBody_of_some hargs] at hp
    rw [← Option.some.inj hp]
    rfl

theorem next_le_next_freshBody : s.next ≤ (f.freshBody s).supply.next := by
  cases hargs : f.argsParam? with
  | none => rw [freshBody_of_none hargs]
  | some args =>
    rw [freshBody_of_some hargs]
    exact Nat.le_succ _

theorem isUnary_freshBody (h : f.body.isUnary = true) : (f.freshBody s).body.isUnary = true := by
  cases hargs : f.argsParam? with
  | none => rwa [freshBody_of_none hargs]
  | some args =>
    rw [freshBody_of_some hargs]
    exact Expr.isUnary_replace h rfl

theorem declares_freshBody (y : ParamId) :
    (f.freshBody s).body.declares y = f.body.declares y := by
  cases hargs : f.argsParam? with
  | none => rw [freshBody_of_none hargs]
  | some args =>
    rw [freshBody_of_some hargs, Bool.eq_iff_iff, Expr.declares_replace]
    simp [Parameter.expr]

/-- The parameters of the template are below a supply that avoids it. -/
theorem index_lt_of_mem_params (hs : f.template.expr.idBound ≤ s.next) {p : Parameter}
    (hp : p ∈ f.template.params) : p.id.index < s.next := by
  have hdeclares : f.template.expr.declares p.id = true := by
    rw [Lambda.expr, Expr.declares_lambda, Bool.or_eq_true, List.any_eq_true]
    exact Or.inl ⟨p, hp, beq_self_eq_true _⟩
  have hlt := Expr.index_lt_idBound (Or.inr hdeclares)
  omega

/-- The parameter for the holder is none of the template's. -/
theorem holder_ne_of_mem_params (hs : f.template.expr.idBound ≤ s.next) {p q : Parameter}
    (hp : p ∈ (f.freshBody s).holder) (hq : q ∈ f.template.params) : p.id ≠ q.id := by
  intro heq
  have hindex := index_of_mem_holder hp
  have hlt := index_lt_of_mem_params hs hq
  rw [heq] at hindex
  omega

/-- The parameter for the holder is none of the context's. -/
theorem holder_not_mem_freeIds {context : Expr} (hs : context.idBound ≤ s.next) {p : Parameter}
    (hp : p ∈ (f.freshBody s).holder) : p.id ∉ context.freeIds := by
  intro hmem
  have hindex := index_of_mem_holder hp
  have hlt := Expr.index_lt_idBound (Or.inl (Expr.mentions_of_mem_freeIds hmem))
  omega

theorem idBound_body_le (hs : f.template.expr.idBound ≤ s.next) : f.body.idBound ≤ s.next :=
  Nat.le_trans (Nat.le_max_right _ _) hs

theorem mem_params_of_contextParam? {p : Parameter} (h : f.contextParam? = some p) :
    p ∈ f.template.params :=
  List.mem_of_getElem? h

theorem mem_params_of_argsParam? {p : Parameter} (h : f.argsParam? = some p) :
    p ∈ f.template.params :=
  List.mem_of_getElem? h

/-- With the holder for the new parameter the body means what the template's does. -/
theorem eval_freshBody_eq_ok_iff (hs : f.template.expr.idBound ≤ s.next)
    (hargs : ∀ p ∈ f.argsParam?, f.body.declares p.id = false) {scope : Scope} {holder : Value}
    (hscope : ∀ p ∈ (f.freshBody s).holder, scope.get? p.id = some holder) {v : Value} :
    (f.freshBody s).body.eval scope = .ok v ↔
      f.body.eval (scope.bindOption f.argsParam? holder) = .ok v := by
  cases hparam : f.argsParam? with
  | none =>
    rw [freshBody_of_none hparam]
    rfl
  | some args =>
    rw [freshBody_of_some hparam] at hscope ⊢
    refine Expr.eval_replace_eq_ok_iff rfl (hargs args hparam) ?_
      (Expr.eval_param_of_get? (hscope _ rfl))
    intro id hid
    rw [Expr.mem_freeIds_param.1 hid]
    exact Expr.declares_of_idBound_le (idBound_body_le hs)

/-- What is free in the body with the new parameter. -/
theorem mem_freeIds_freshBody (hs : f.template.expr.idBound ≤ s.next) {y : ParamId} :
    y ∈ (f.freshBody s).body.freeIds ↔
      y ∈ f.body.freeIds ∧ f.argsParam?.map Parameter.id ≠ some y ∨
      ∃ args p, f.argsParam? = some args ∧ (f.freshBody s).holder = some p ∧ y = p.id ∧
        f.body.mentions args.id = true := by
  cases hparam : f.argsParam? with
  | none =>
    rw [freshBody_of_none hparam]
    simp
  | some args =>
    rw [freshBody_of_some hparam, Expr.mem_freeIds_replace]
    · simp only [Parameter.expr, Expr.mem_freeIds_param, Option.map_some, ne_eq,
        Option.some.injEq, eq_comm (a := args.id)]
      grind
    · intro id hid
      rw [Expr.mem_freeIds_param.1 hid]
      exact Expr.declares_of_idBound_le (idBound_body_le hs)

/-- The element type of the body does not depend on the supply. -/
theorem ty_freshBody (s s' : Supply) : (f.freshBody s').body.ty = (f.freshBody s).body.ty := by
  cases hparam : f.argsParam? with
  | none => rw [freshBody_of_none hparam, freshBody_of_none hparam]
  | some args =>
    rw [freshBody_of_some hparam, freshBody_of_some hparam]
    exact Expr.ty_replace_param f.body args.id rfl

end SchemaField

/-! ## The context -/

/-- Calls around the sequence stay around it. -/
theorem Wrapping.expression_substituteContext {context : Expr} {ids : List ParamId}
    {g : Expr → Expr} (h : Wrapping ids g) {c? : Option Parameter} (hids : ∀ c ∈ c?, c.id ∉ ids) (body : Expr)
    (constants : List (Parameter × Value)) :
    (BoundExpr.substituteContext ⟨c?, g body, constants⟩ context).expression =
      g (BoundExpr.substituteContext ⟨c?, body, constants⟩ context).expression := by
  unfold BoundExpr.substituteContext
  cases hc : c? with
  | none => rfl
  | some c => exact h.replace body (hids c hc) context

/-! ## All steps -/

/-- What lets a context stand in a template as it is: nothing but the template's own parameters, at
most two, is free in it, every lambda has one parameter, and none of those in the body declares a
parameter of the template or a free one of the context. -/
structure SchemaField.Hygienic (f : SchemaField) (context : Expr) : Prop where
  closed : f.template.freeParameters = []
  arity : f.template.params.length ≤ 2
  unary : f.body.isUnary = true
  unaryContext : context.isUnary = true
  undeclared : ∀ p ∈ f.template.params, f.body.declares p.id = false
  capture : ∀ id ∈ context.freeIds, f.body.declares id = false

theorem SchemaField.eq_contextParam?_or_eq_argsParam? {f : SchemaField}
    (hclosed : f.template.freeParameters = []) (harity : f.template.params.length ≤ 2)
    {id : ParamId} (hid : id ∈ f.body.freeIds) :
    f.contextParam?.map Parameter.id = some id ∨ f.argsParam?.map Parameter.id = some id := by
  have hmem : id ∈ f.template.params.map Parameter.id := by
    by_contra hne
    exact Expr.freeParameters_eq_nil_iff.1 hclosed id (Expr.mem_freeIds_lambda.2 ⟨hid, hne⟩)
  unfold contextParam? argsParam?
  match hparams : f.template.params, harity, hmem with
  | [], _, hmem => cases hmem
  | [c], _, hmem =>
    rw [List.map_cons, List.mem_cons] at hmem
    grind
  | [c, a], _, hmem =>
    rw [List.map_cons, List.mem_cons] at hmem
    grind

section Resolved

variable {f : SchemaField} {context : Expr} {s : Supply} {x : Parameter} {root holder C : Value}
  {L : List Value}

/-- The template with the holder and the context in their places, and `g` around it. -/
def SchemaField.resolved (f : SchemaField) (s : Supply) (holder : Value) (context : Expr)
    (g : Expr → Expr) : BoundExpr :=
  BoundExpr.substituteContext ⟨f.contextParam?, g (f.freshBody s).body,
    (f.freshBody s).constants holder⟩ context

/-- Calls with new parameters stay around the sequence. -/
theorem SchemaField.expression_resolved (f : SchemaField) (holder : Value) (context : Expr)
    (hs : f.template.expr.idBound ≤ s.next) {ids : List ParamId} {g : Expr → Expr}
    (hg : Wrapping ids g) (hids : ∀ id ∈ ids, s.next ≤ id.index) :
    (f.resolved s holder context g).expression =
      g (f.resolved s holder context id).expression := by
  refine hg.expression_substituteContext ?_ _ _
  intro c hc hmem
  have hlt := index_lt_of_mem_params hs (mem_params_of_contextParam? hc)
  have hle := hids c.id hmem
  omega

theorem SchemaField.scope_resolved (f : SchemaField) (holder root : Value) (g : Expr → Expr) :
    (f.resolved s holder context g).scope root =
      (Scope.ofList ((f.freshBody s).constants holder)).bindOption context.freeParameters.head?
        root := by
  rw [BoundExpr.scope_eq, resolved, BoundExpr.context_substituteContext_eq_head?]
  rfl

/-- The scope in which the resolved field is evaluated gives the holder to its own parameter. -/
theorem SchemaField.get?_scope_resolved_holder (f : SchemaField) (holder root : Value)
    (hs : context.idBound ≤ s.next) (g : Expr → Expr) {p : Parameter}
    (hp : p ∈ (f.freshBody s).holder) :
    ((f.resolved s holder context g).scope root).get? p.id = some holder := by
  have hne : ∀ q ∈ context.freeParameters.head?, p.id ≠ q.id := by
    intro q hq heq
    have hfree := Expr.id_mem_freeIds_of_mem (List.mem_of_mem_head? hq)
    rw [← heq] at hfree
    exact holder_not_mem_freeIds hs hp hfree
  rw [scope_resolved, Scope.get?_bindOption_of_ne hne, Instance.constants, Option.mem_def.1 hp]
  exact Scope.get?_bind_self

/-- The scope in which the resolved field is evaluated gives the root to the context's parameter and
the holder to its own. -/
theorem SchemaField.get?_scope_resolved (f : SchemaField) (holder root : Value)
    (hcontext : context.freeParameters = [x]) (hs : context.idBound ≤ s.next) (g : Expr → Expr) :
    ((f.resolved s holder context g).scope root).get? x.id = some root ∧
    ∀ p ∈ (f.freshBody s).holder,
      ((f.resolved s holder context g).scope root).get? p.id = some holder := by
  refine ⟨?_, fun p hp => f.get?_scope_resolved_holder holder root hs g hp⟩
  rw [scope_resolved, hcontext]
  exact Scope.get?_bind_self

/-- The sequence of the resolved field, before it is shaped. -/
theorem SchemaField.eval_resolved (h : f.Hygienic context)
    (hcontext : context.freeParameters = [x]) (hs : f.template.expr.idBound ≤ s.next)
    (hsc : context.idBound ≤ s.next) (hC : context.eval [(x.id, root)] = .ok C)
    (hL : f.body.eval (f.scope C holder) = .ok (.list L)) (g : Expr → Expr) :
    (f.resolved s holder context id).expression.eval
      ((f.resolved s holder context g).scope root) = .ok (.list L) := by
  obtain ⟨hx, hholder⟩ := f.get?_scope_resolved holder root hcontext hsc g
  have hfree : ∀ y ∈ context.freeIds, y = x.id := by
    intro y hy
    rw [← Expr.mem_map_id_freeParameters, hcontext] at hy
    exact List.mem_singleton.1 hy
  have hC' : context.eval ((f.resolved s holder context g).scope root) = .ok C := by
    rw [← hC]
    refine Expr.eval_congr h.unaryContext ?_
    intro y hy
    rw [hfree y hy, hx, Scope.get?_cons, if_pos rfl]
  have hcapture : ∀ y ∈ context.freeIds, (f.freshBody s).body.declares y = false := by
    intro y hy
    rw [declares_freshBody]
    exact h.capture y hy
  have hparam : ∀ c ∈ f.contextParam?, (f.freshBody s).body.declares c.id = false := by
    intro c hc
    rw [declares_freshBody]
    exact h.undeclared c (mem_params_of_contextParam? hc)
  have hscope : ∀ p ∈ (f.freshBody s).holder,
      (((f.resolved s holder context g).scope root).bindOption f.contextParam? C).get? p.id =
        some holder := by
    intro p hp
    rw [Scope.get?_bindOption_of_ne, hholder p hp]
    intro c hc
    exact holder_ne_of_mem_params hs hp (mem_params_of_contextParam? hc)
  have hbody : f.body.eval ((((f.resolved s holder context g).scope root).bindOption
      f.contextParam? C).bindOption f.argsParam? holder) = .ok (.list L) := by
    rw [← hL]
    refine Expr.eval_congr h.unary ?_
    intro y hy
    refine Scope.get?_bindOption_eq _ _ fun hne => Scope.get?_bindOption_eq _ _ fun hne' => ?_
    rcases eq_contextParam?_or_eq_argsParam? h.closed h.arity hy with heq | heq
    · exact absurd heq hne'
    · exact absurd heq hne
  have hfresh := (eval_freshBody_eq_ok_iff hs
    (fun p hp => h.undeclared p (mem_params_of_argsParam? hp)) hscope).2 hbody
  exact (eval_substituteContext_eq_ok_iff h.unaryContext hparam hcapture hC').2 hfresh

/-- What is free in the resolved field: the holder's parameter, if the template asks for the holder,
and the context's parameters, if it asks for the context. -/
theorem SchemaField.mem_freeIds_resolved (hclosed : f.template.freeParameters = [])
    (harity : f.template.params.length ≤ 2) (hs : f.template.expr.idBound ≤ s.next)
    (hcapture : ∀ id ∈ context.freeIds, f.body.declares id = false) {y : ParamId} :
    y ∈ (f.resolved s holder context id).expression.freeIds ↔
      (∃ args p, f.argsParam? = some args ∧ (f.freshBody s).holder = some p ∧ y = p.id ∧
        f.body.mentions args.id = true) ∨
      ∃ c, f.contextParam? = some c ∧ (f.freshBody s).body.mentions c.id = true ∧
        y ∈ context.freeIds := by
  have hfresh : ∀ y, y ∈ (f.freshBody s).body.freeIds ∧ f.contextParam?.map Parameter.id ≠ some y ↔
      ∃ args p, f.argsParam? = some args ∧ (f.freshBody s).holder = some p ∧ y = p.id ∧
        f.body.mentions args.id = true := by
    intro y
    rw [mem_freeIds_freshBody hs]
    constructor
    · rintro ⟨⟨hy, hargs⟩ | hholder, hcontext⟩
      · rcases eq_contextParam?_or_eq_argsParam? hclosed harity hy with heq | heq
        · exact absurd heq hcontext
        · exact absurd heq hargs
      · exact hholder
    · rintro ⟨args, p, hargs, hp, rfl, hmentions⟩
      refine ⟨Or.inr ⟨args, p, hargs, hp, rfl, hmentions⟩, fun heq => ?_⟩
      obtain ⟨c, hc, heq⟩ := Option.map_eq_some_iff.1 heq
      exact holder_ne_of_mem_params hs hp (mem_params_of_contextParam? hc) heq.symm
  rw [← hfresh]
  unfold resolved BoundExpr.substituteContext
  cases hc : f.contextParam? with
  | none => simp
  | some c =>
    have hcapture : ∀ id ∈ context.freeIds, (f.freshBody s).body.declares id = false :=
      fun id hid => (declares_freshBody id).trans (hcapture id hid)
    simp only [id_eq, Expr.mem_freeIds_replace hcapture, Option.map_some, ne_eq,
      Option.some.injEq]
    grind

/-- Calls with new parameters stand around the sequence of the resolved field, which has the value
of the template's. -/
theorem SchemaField.execute_resolved (h : f.Hygienic context)
    (hcontext : context.freeParameters = [x]) (hs : f.template.expr.idBound ≤ s.next)
    (hsc : context.idBound ≤ s.next) (hC : context.eval [(x.id, root)] = .ok C)
    (hL : f.body.eval (f.scope C holder) = .ok (.list L)) {ids : List ParamId} {g : Expr → Expr}
    (hg : Wrapping ids g) (hids : ∀ id ∈ ids, s.next ≤ id.index) :
    ∃ scope seq, seq.eval scope = .ok (.list L) ∧
      (f.resolved s holder context g).execute root = (g seq).eval scope := by
  have hexpression := f.expression_resolved holder context hs hg hids
  refine ⟨(f.resolved s holder context g).scope root, (f.resolved s holder context id).expression,
    eval_resolved h hcontext hs hsc hC hL g, ?_⟩
  rw [BoundExpr.execute_eq_eval, hexpression]
  intro y hy
  rw [hexpression, hg.mem_freeIds] at hy
  obtain ⟨hx, hholder⟩ := f.get?_scope_resolved holder root hcontext hsc g
  rcases (mem_freeIds_resolved h.closed h.arity hs h.capture).1 hy with
    ⟨_, p, -, hp, rfl, -⟩ | ⟨_, -, -, hy⟩
  · rw [hholder p hp]
    nofun
  · rw [← Expr.mem_map_id_freeParameters, hcontext] at hy
    rw [List.mem_singleton.1 hy, hx]
    nofun

end Resolved

/-! ## The result -/

theorem ExprType.exists_element {t : ExprType} (h : t.isSequence = true) :
    ∃ u, t.element? = some u := by
  cases t with
  | sequence u => exact ⟨u, rfl⟩
  | _ => cases h

namespace Sample

/-- The parameter for a directory. -/
def directoryParam : Parameter := ⟨⟨0⟩, "db", .object "Query"⟩

/-- The parameter for the context in the template below. -/
def contextParam : Parameter := ⟨⟨1⟩, "ctx", .object "Query"⟩

/-- The people of a directory, with every argument that shapes the query. -/
def peopleQuery : SchemaField where
  name := "people"
  description := none
  template := ⟨[contextParam, ⟨⟨2⟩, "args", .record []⟩],
    .member contextParam.expr "people" (.sequence personRecord)⟩
  arguments := [.ofKind "where" .filterQuery, .ofKind "orderBy" .sort, .ofKind "page" .page,
    .ofKind "pageSize" .pageSize]
  returns := ⟨"Person", true⟩

/-- Arguments for those above thirty, from the last name to the first, one on a page. -/
def lastAdult : Dict Expr :=
  [("orderBy", .ofValue (.ofFields [("field", .string "name"), ("direction", .string "DESC")])),
    ("page", .ofValue (.int 1)), ("pageSize", .ofValue (.int 1)),
    ("where", .ofValue (.list
      [.ofFields [("field", .string "age"), ("greaterThan", .string "30")]]))]

/-- Three people. -/
def people : List Value :=
  [.ofFields [("name", .string "Ada"), ("age", .int 36)],
    .ofFields [("name", .string "Grace"), ("age", .int 45)],
    .ofFields [("name", .string "Linus"), ("age", .int 9)]]

/-- A directory of these. -/
def peopleDirectory : Value := .ofFields [("people", .list people)]

end Sample

end TypedQuery
