import TypedQuery.Proofs.Plan.UnreadArguments
import TypedQuery.Sample

/-!
# Finding an element by its id

The field that is derived from a list field to find an element by its id asks the list, over the
context that it is itself resolved in, for the first element with the id in its argument holder
(`IdLookup.exists_expression_resolved`).  `Expr.eval_firstWithId` says what that gives where all
elements have ids.  In one context the two fields have the same items, so the derived field searches
what the list field gives: `resolveField_idLookup`.

This asks of the list field that its template does not read its arguments.  Their parameter may not
even occur in it as that of a function of its own: when the list field is resolved the holder takes
its place there too, and in the derived field nothing does (`resolveField_shadowedAge`).
-/

namespace TypedQuery

/-! ## Elements and ids -/

namespace Value

/-- A record with a field of a name. -/
def IsRecordWith (name : String) (v : Value) : Prop :=
  ∃ fields u, v = .record fields ∧ field? fields name = some u

/-- Whether a member of an element equals a value, where null equals nothing but null. -/
def memberEquals (name : String) (w item : Value) : Bool :=
  match item.member name with
  | .ok u => u.equalOrNull w
  | .error _ => false

/-- The first element whose member equals a value; without one the sequence is empty. -/
def firstWith (name : String) (w : Value) (items : List Value) : Except EvalError Value :=
  match items.find? (memberEquals name w) with
  | some item => .ok item
  | none => .error (.emptySequence .first)

theorem IsRecordWith.exists_member {name : String} {v : Value} (h : v.IsRecordWith name) :
    ∃ u, v.member name = .ok u := by
  obtain ⟨fields, u, rfl, hu⟩ := h
  refine ⟨u, ?_⟩
  rw [member, hu]

end Value

namespace Expr

/-- The first element of a list whose id is the one in a holder. -/
def firstWithId (list : Expr) (id : MemberDescriptor) (item holder : Parameter) : Expr :=
  .call .first (.call .filter list [.lambda [item]
    (.binary .equal (.member item.expr id.name id.ty) (.member holder.expr id.name id.ty))]) []

variable {list : Expr} {id : MemberDescriptor} {item holder : Parameter} {x : ParamId}

theorem replace_firstWithId_of_ne (d : Expr) (hitem : item.id ≠ x) (hholder : holder.id ≠ x) :
    (list.firstWithId id item holder).replace x d = (list.replace x d).firstWithId id item holder := by
  simp [firstWithId, Parameter.expr, replace_param, hitem, hholder]

theorem replace_firstWithId_holder (p : Parameter) (hitem : item.id ≠ holder.id) :
    (list.firstWithId id item holder).replace holder.id p.expr =
      (list.replace holder.id p.expr).firstWithId id item p := by
  simp [firstWithId, Parameter.expr, replace_param, hitem]

theorem mem_freeIds_firstWithId {y : ParamId} (hy : y ∈ (list.firstWithId id item holder).freeIds) :
    y ∈ list.freeIds ∨ y = holder.id := by
  unfold firstWithId Parameter.expr at hy
  simp at hy
  grind

/-- The first element with the id is found where all elements have ids. -/
theorem eval_firstWithId {scope : Scope} {items : List Value} {v w : Value}
    (hlist : list.items scope = .ok items) (hv : scope.get? holder.id = some v)
    (hw : v.member id.name = .ok w) (hne : holder.id ≠ item.id)
    (hitems : ∀ u ∈ items, u.IsRecordWith id.name) :
    (list.firstWithId id item holder).eval scope = Value.firstWith id.name w items := by
  have htest : ∀ u ∈ items, (Expr.binary .equal (.member item.expr id.name id.ty)
      (.member holder.expr id.name id.ty)).eval (scope.enter [item] u) =
        .ok (.boolean (Value.memberEquals id.name w u)) := by
    intro u hu
    obtain ⟨i, hi⟩ := (hitems u hu).exists_member
    have hitem : (Expr.param item).eval (scope.bind item u) = .ok u :=
      eval_param_of_get? Scope.get?_bind_self
    have hholder : (Expr.param holder).eval (scope.bind item u) = .ok v :=
      eval_param_of_get? ((Scope.get?_bind_of_ne hne).trans hv)
    rw [Scope.enter_singleton, eval_binary_of_not_logical (by decide), Parameter.expr,
      Parameter.expr, eval_member, eval_member, hitem, hholder, ok_bind, ok_bind, hi, hw, ok_bind,
      ok_bind, Value.memberEquals, hi]
    rfl
  have hkept := keepItems_eq_filter htest
  rw [firstWithId, eval_call_eq_bind, items_call, hlist, ok_bind, operand_lambda,
    List.length_singleton, run_filter, ← keepItems_eq_filterM, hkept, map_ok, ok_bind,
    Value.firstWith, ← List.head?_filter]
  exact run_first_missing

end Expr

/-! ## The derived field -/

/-- A body over one context and then over another is the body over the other. -/
theorem SchemaField.replace_bodyOver {f : SchemaField} {ctx : Parameter} {context : Expr}
    (hcontext : f.contextParam?.isSome = true) (hctx : f.body.mentions ctx.id = false) :
    (f.bodyOver ctx.expr).replace ctx.id context = f.bodyOver context := by
  obtain ⟨old, hold⟩ := Option.isSome_iff_exists.1 hcontext
  unfold bodyOver
  rw [hold]
  dsimp only
  rw [Expr.replace_replace_of_mentions _ _ hctx, Parameter.expr, Expr.replace_param_self]

/-- What is derived from a list field to find an element by its id, with the identities from `next` on
for the new parameters. -/
structure IdLookup where
  source : SchemaField
  name : String
  id : MemberDescriptor
  type : DataType
  next : Nat
  ctx : Parameter
  args : Parameter
  item : Parameter
  idBound_le : source.template.expr.idBound ≤ next
  hasContext : source.contextParam?.isSome = true
  index_ctx : ctx.id.index = next
  index_args : args.id.index = next + 1
  index_item : item.id.index = next + 2

namespace IdLookup

/-- The derived field. -/
def field (l : IdLookup) : SchemaField :=
  SchemaBuilder.idLookupField l.name l.source.returns.typeName l.id l.type l.ctx l.args l.item
    (l.source.bodyOver l.ctx.expr)

variable {l : IdLookup}

theorem item_ne_ctx : l.item.id ≠ l.ctx.id := by
  intro heq
  have hitem := l.index_item
  rw [heq, l.index_ctx] at hitem
  omega

theorem item_ne_args : l.item.id ≠ l.args.id := by
  intro heq
  have hitem := l.index_item
  rw [heq, l.index_args] at hitem
  omega

/-- Neither the new context nor the new holder is in what the list field's template brings. -/
theorem mentions_ctx : l.source.body.mentions l.ctx.id = false :=
  SchemaField.mentions_body_eq_false l.idBound_le (Nat.le_of_eq l.index_ctx.symm)

theorem mentions_args : (l.source.bodyOver l.ctx.expr).mentions l.args.id = false := by
  have hctx : l.ctx.expr.idBound ≤ l.next + 1 := Nat.succ_le_succ (Nat.le_of_eq l.index_ctx)
  exact SchemaField.mentions_bodyOver_eq_false (Nat.le_succ_of_le l.idBound_le) hctx
    (Nat.le_of_eq l.index_args.symm)

theorem holder_ne_item {s : Supply} (hs : l.field.template.expr.idBound ≤ s.next) {p : Parameter}
    (hp : p ∈ (l.field.freshBody s).holder) : p.id ≠ l.item.id := by
  intro heq
  have hdeclares : l.field.body.declares l.item.id = true := by
    change ((l.source.bodyOver l.ctx.expr).firstWithId l.id l.item l.args).declares l.item.id = true
    simp [Expr.firstWithId]
  have hlt := Expr.index_lt_idBound (Or.inr hdeclares)
  have hbound := SchemaField.idBound_body_le hs
  have hindex := SchemaField.index_of_mem_holder hp
  rw [heq] at hindex
  omega

/-- Resolved, the derived field asks the list field's sequence over the context for the first element
with the id in the holder. -/
theorem exists_expression_resolved {s : Supply} (hs : l.field.template.expr.idBound ≤ s.next)
    (holder : Value) (context : Expr) :
    ∃ p ∈ (l.field.freshBody s).holder, p.id ≠ l.item.id ∧
      (l.field.resolved s holder context fun e => e).expression =
        (l.source.bodyOver context).firstWithId l.id l.item p := by
  have hargs : l.field.argsParam? = some l.args := rfl
  have hfresh := SchemaField.freshBody_of_some (s := s) hargs
  have hmem : (s.draw l.args.name l.field.holderType).1 ∈ (l.field.freshBody s).holder := by
    rw [hfresh]
    rfl
  have hctx : (s.draw l.args.name l.field.holderType).1.id ≠ l.ctx.id :=
    SchemaField.holder_ne_of_mem_params hs hmem (List.mem_cons_self ..)
  refine ⟨_, hmem, holder_ne_item hs hmem, ?_⟩
  rw [SchemaField.resolved, hfresh]
  change ((((l.source.bodyOver l.ctx.expr).firstWithId l.id l.item l.args).replace l.args.id
    (s.draw l.args.name l.field.holderType).1.expr).replace l.ctx.id context) = _
  rw [Expr.replace_firstWithId_holder _ item_ne_args, Expr.replace_eq_self _ mentions_args,
    Expr.replace_firstWithId_of_ne _ item_ne_ctx hctx,
    SchemaField.replace_bodyOver l.hasContext mentions_ctx]

/-! ## The argument -/

section Argument

variable {lookup : MemberLookup} {supplied : Dict Expr} {e : Expr} {v w : Value}

theorem bindArguments_field (lookup : MemberLookup) (supplied : Dict Expr) :
    bindArguments l.field lookup supplied =
      bindArgument l.field lookup supplied .empty (.ofType l.id.name l.type true) := by
  rw [bindArguments, field, SchemaBuilder.idLookupField, List.foldlM_cons]
  simp only [List.foldlM_nil, bind_pure]

theorem bindArguments_of_absent (h : supplied? lookup supplied l.id.name = none) :
    bindArguments l.field lookup supplied = .error (.missingRequiredArgument l.name l.id.name) := by
  rw [bindArguments_field]
  unfold bindArgument ArgumentDescriptor.ofType
  simp only [h]
  rfl

theorem bindArguments_of_supplied (h : supplied? lookup supplied l.id.name = some e)
    (hv : e.evalClosed = .ok v) :
    bindArguments l.field lookup supplied =
      (convertArgument l.id.name v l.type).map (BoundArguments.empty.withSlot l.id.name) := by
  rw [bindArguments_field]
  unfold bindArgument bindSupplied ArgumentDescriptor.ofType
  simp only [h]
  rw [evaluated_of_ok hv, ok_bind, map_eq_bind]

theorem member_holderValue (name : String) (w : Value) :
    (BoundArguments.empty.withSlot name w).holderValue.member name = .ok w := by
  rw [BoundArguments.holderValue, BoundArguments.withSlot, Value.member, Value.field?,
    Dict.get?_insert_self]

end Argument

/-! ## The search -/

/-- The resolved field searches the items that the list field has in the same context. -/
theorem execute_resolved {s s₀ : Supply} {context : Expr} {holder holder₀ root R w : Value}
    {items : List Value} (hs : l.field.template.expr.idBound ≤ s.next)
    (hsc : context.idBound ≤ s.next) (hs₀ : l.source.template.expr.idBound ≤ s₀.next)
    (hsc₀ : context.idBound ≤ s₀.next)
    (hunread : ∀ args ∈ l.source.argsParam?, l.source.body.mentions args.id = false)
    (hexecute : (l.source.resolved s₀ holder₀ context fun e => e).execute root = .ok R)
    (hlist : R.asList? = some items) (hitems : ∀ item ∈ items, item.IsRecordWith l.id.name)
    (hw : holder.member l.id.name = .ok w) :
    (l.field.resolved s holder context fun e => e).execute root =
      Value.firstWith l.id.name w items := by
  obtain ⟨p, hp, hne, hexpression⟩ := exists_expression_resolved hs holder context
  have hsource : l.source.template.expr.idBound ≤ s.next := by
    have hctx := SchemaField.index_lt_of_mem_params hs (p := l.ctx) (List.mem_cons_self ..)
    have hindex := l.index_ctx
    have hbound := l.idBound_le
    omega
  have hscope : ∀ id, (l.source.bodyOver context).mentions id = true →
      ((l.field.resolved s holder context fun e => e).scope root).get? id =
        ((l.source.resolved s₀ holder₀ context fun e => e).scope root).get? id := by
    intro id hid
    exact SchemaField.get?_scope_resolved_eq
      (SchemaField.index_lt_of_mentions_bodyOver hsource hsc hid)
      (SchemaField.index_lt_of_mentions_bodyOver hs₀ hsc₀ hid) _ _
  have hholder := l.field.get?_scope_resolved_holder holder root hsc (fun e => e) hp
  have hnothing : Wrapping [] fun e => e := .none
  rw [BoundExpr.execute_eq_ok_iff, SchemaField.expression_resolved_of_unread hunread hs₀ hnothing
    (List.forall_mem_nil _)] at hexecute
  obtain ⟨hfree, hvalue⟩ := hexecute
  rw [BoundExpr.execute_eq_eval, hexpression]
  · refine Expr.eval_firstWithId ?_ hholder hw hne hitems
    rw [Expr.items, Expr.eval_eq_of_mentions hscope, hvalue, ok_bind, Value.sequence_eq_ok_iff]
    exact hlist
  · intro id hid
    rw [hexpression] at hid
    rcases Expr.mem_freeIds_firstWithId hid with hid | rfl
    · rw [hscope id (Expr.mentions_of_mem_freeIds hid)]
      exact hfree id hid
    · rw [hholder]
      exact Option.some_ne_none holder

end IdLookup

/-- The field that a builder derives from a list field. -/
theorem SchemaBuilder.exists_idLookup {b b' : SchemaBuilder} {list name : String}
    {source : SchemaField} {id : MemberDescriptor} {type : DataType} (hfresh : b.IsFresh)
    (h : b.addIdLookupField list name = .ok b') (hsource : b.listField list = .ok source)
    (hid : b.idMember list source.returns.typeName = .ok (id, type)) :
    ∃ l : IdLookup, l.source = source ∧ l.name = name ∧ l.id = id ∧ l.type = type ∧
      b'.queryField? name = some l.field := by
  obtain ⟨source', id', type', ctx, args, item, hsource', hid', hcontext, hctx, hargs, hitem, -,
    hfield⟩ := addIdLookupField_eq_ok h
  obtain rfl := Except.ok.inj (hsource'.symm.trans hsource)
  obtain ⟨rfl, rfl⟩ := Prod.mk.inj (Except.ok.inj (hid'.symm.trans hid))
  have hbound := hfresh source' (mem_allFields_of_listField hsource)
  exact ⟨⟨source', name, id', type', b.supply.next, ctx, args, item, hbound, hcontext, hctx, hargs,
    hitem⟩, rfl, rfl, rfl, rfl, hfield⟩

/-- The field that is derived from a list field gives the first element with the id that is supplied.
The list field is resolved in the same context, by whatever arguments, and does not read them. -/
theorem resolveField_idLookup {queryType list name : String} {supply₀ : Supply}
    {calls : List SchemaCall} {builder builder' : SchemaBuilder} {source f : SchemaField}
    {id : MemberDescriptor} {type : DataType}
    (hbuilder : (SchemaBuilder.start queryType supply₀).performAll calls = builder)
    (hderive : builder.addIdLookupField list name = .ok builder')
    (hsource : builder.listField list = .ok source)
    (hid : builder.idMember list source.returns.typeName = .ok (id, type))
    (hf : builder'.queryField? name = some f)
    (hunread : ∀ args ∈ source.argsParam?, source.body.mentions args.id = false)
    {r₀ : MemberResolver} {policy₀ : ClausePolicy} {supplied₀ : Dict Expr} {context : Expr}
    {supply₁ supply₂ : Supply} {b₀ : BoundExpr}
    (hplain : ∀ a ∈ source.arguments, a.kind.isShaping = true →
      supplied? r₀.lookup supplied₀ a.name = none)
    (hresolve : resolveField r₀ policy₀ source supplied₀ context supply₁ = .ok (b₀, supply₂))
    {root R : Value} {items : List Value} (hexecute : b₀.execute root = .ok R)
    (hlist : R.asList? = some items) (hitems : ∀ item ∈ items, item.IsRecordWith id.name)
    (r : MemberResolver) (policy : ClausePolicy) (supplied : Dict Expr) (supply : Supply) :
    (supplied? r.lookup supplied id.name = none →
      resolveField r policy f supplied context supply =
        .error (.missingRequiredArgument name id.name)) ∧
    ∀ e v, supplied? r.lookup supplied id.name = some e → e.evalClosed = .ok v →
      (v.coerceTo? type = none → resolveField r policy f supplied context supply =
        .error (.typeCoercion id.name v.text type.scalarName)) ∧
      ∀ w, v.coerceTo? type = some w →
        ∃ b supply', resolveField r policy f supplied context supply = .ok (b, supply') ∧
          b.execute root = Value.firstWith id.name w items := by
  have hfresh : builder.IsFresh :=
    hbuilder ▸ (SchemaBuilder.isFresh_start queryType supply₀).performAll calls
  obtain ⟨l, rfl, rfl, rfl, rfl, hfield⟩ := SchemaBuilder.exists_idLookup hfresh hderive hsource hid
  obtain rfl := Option.some.inj (hf.symm.trans hfield)
  obtain ⟨s₀, holder₀, hs₀, hsc₀, rfl⟩ := SchemaField.exists_resolved_of_plain hplain hresolve
  obtain ⟨s, hs, hsc, hresolved⟩ :=
    resolveField_of_unshaped (f := l.field) rfl r policy supplied context supply
  refine ⟨fun habsent => ?_, fun e v hsupplied hv => ⟨fun hnone => ?_, fun w hw => ?_⟩⟩
  · rw [hresolved, IdLookup.bindArguments_of_absent habsent]
    rfl
  · rw [hresolved, IdLookup.bindArguments_of_supplied hsupplied hv, convertArgument, hnone]
    rfl
  · have hmember := IdLookup.member_holderValue l.id.name w
    have hfound := IdLookup.execute_resolved hs hsc hs₀ hsc₀ hunread hexecute hlist hitems hmember
    refine ⟨_, (l.field.freshBody s).supply, ?_, hfound⟩
    rw [hresolved, IdLookup.bindArguments_of_supplied hsupplied hv, convertArgument, hw]
    rfl

namespace Sample

/-- The type of people who have an id. -/
def numberedPerson : TypeDescriptor :=
  ⟨"Person", none, [⟨"id", .scalar .int⟩, ⟨"age", .scalar .int⟩]⟩

/-- A young person and a grown one. -/
def numberedPeople : List Value :=
  [.ofFields [("id", .int 1), ("age", .int 9)], .ofFields [("id", .int 2), ("age", .int 36)]]

/-- A directory of these. -/
def numberedDirectory : Value := .ofFields [("people", .list numberedPeople)]

theorem isRecordWith_of_mem_numberedPeople :
    ∀ item ∈ numberedPeople, item.IsRecordWith "id" := by
  intro item hitem
  rcases List.mem_pair.1 hitem with rfl | rfl
  · exact ⟨_, _, rfl, rfl⟩
  · exact ⟨_, _, rfl, rfl⟩

/-- The parameter for the arguments of the field below, and for a person in its template. -/
def shadowedParam : Parameter := ⟨⟨2⟩, "args", .record [("age", .scalar .int)]⟩

/-- The grown people of a directory. -/
def grownOnly : SchemaField where
  name := "people"
  description := none
  template := ⟨[contextParam, shadowedParam],
    .call .filter (.member contextParam.expr "people" peopleType)
      [.lambda [shadowedParam] (.binary .greaterOrEqual (.member shadowedParam.expr "age" (.scalar .int))
        (.ofValue (.int 18)))]⟩
  arguments := [⟨"age", .value .int, false, some (.int 18)⟩]
  returns := ⟨"Person", true⟩

/-- A builder with a field that lists people. -/
def numberedBuilder (f : SchemaField) : SchemaBuilder :=
  (SchemaBuilder.start "Query" ⟨3⟩).performAll [.type numberedPerson, .queryField f]

end Sample

open Sample in
/-- The second person is found by a text, and without an id nobody is looked for. -/
theorem resolveField_secondPerson :
    ∃ builder f, (numberedBuilder (peopleField contextParam)).addIdLookupField "people" "person" =
        .ok builder ∧
      builder.queryField? "person" = some f ∧
      (∃ b s, resolveField compiler.resolver .drop f [("id", .ofValue (.string "2"))]
          directoryParam.expr ⟨0⟩ = .ok (b, s) ∧
        b.execute numberedDirectory = .ok (.ofFields [("id", .int 2), ("age", .int 36)])) ∧
      resolveField compiler.resolver .drop f [] directoryParam.expr ⟨0⟩ =
        .error (.missingRequiredArgument "person" "id") := by
  obtain ⟨builder, f, hderive, hf, hsource, hid, b₀, s₀, hresolve, hexecute⟩ : ∃ builder f,
      (numberedBuilder (peopleField contextParam)).addIdLookupField "people" "person" =
        .ok builder ∧
      builder.queryField? "person" = some f ∧
      (numberedBuilder (peopleField contextParam)).listField "people" =
        .ok (peopleField contextParam) ∧
      (numberedBuilder (peopleField contextParam)).idMember "people" "Person" =
        .ok (⟨"id", .scalar .int⟩, .int) ∧
      ∃ b s, resolveField compiler.resolver .drop (peopleField contextParam) []
          directoryParam.expr ⟨0⟩ = .ok (b, s) ∧
        b.execute numberedDirectory = .ok (.list numberedPeople) :=
    ⟨_, _, rfl, rfl, rfl, rfl, _, _, rfl, rfl⟩
  have hlookup (supplied : Dict Expr) := resolveField_idLookup rfl hderive hsource hid hf nofun nofun
    hresolve hexecute rfl isRecordWith_of_mem_numberedPeople compiler.resolver .drop supplied ⟨0⟩
  obtain ⟨b, s, hsecond, hfound⟩ :=
    ((hlookup [("id", .ofValue (.string "2"))]).2 _ _ rfl rfl).2 (.int 2) rfl
  exact ⟨builder, f, hderive, hf, ⟨b, s, hsecond, hfound.trans rfl⟩, (hlookup []).1 rfl⟩

open Sample in
/-- A function in the list field's template declares the parameter for the arguments again.  Resolved,
the list field has the holder in the place of each person there and gives both; the derived field has
the function as it was, and the first person is not found. -/
theorem resolveField_shadowedAge :
    grownOnly.template.freeParameters = [] ∧ grownOnly.body.freeParameters = [contextParam] ∧
    ∃ builder f, (numberedBuilder grownOnly).addIdLookupField "people" "person" = .ok builder ∧
      (numberedBuilder grownOnly).listField "people" = .ok grownOnly ∧
      (numberedBuilder grownOnly).idMember "people" "Person" =
        .ok (⟨"id", .scalar .int⟩, .int) ∧
      builder.queryField? "person" = some f ∧
      (∃ b s, resolveField compiler.resolver .drop grownOnly [] directoryParam.expr ⟨0⟩ =
          .ok (b, s) ∧
        b.execute numberedDirectory = .ok (.list numberedPeople)) ∧
      (∀ item ∈ numberedPeople, item.IsRecordWith "id") ∧
      Value.firstWith "id" (.int 1) numberedPeople =
        .ok (.ofFields [("id", .int 1), ("age", .int 9)]) ∧
      ∃ b s, resolveField compiler.resolver .drop f [("id", .ofValue (.int 1))]
          directoryParam.expr ⟨0⟩ = .ok (b, s) ∧
        b.execute numberedDirectory = .error (.emptySequence .first) :=
  ⟨rfl, rfl, _, _, rfl, rfl, rfl, rfl, ⟨_, _, rfl, rfl⟩, isRecordWith_of_mem_numberedPeople, rfl,
    _, _, rfl, rfl⟩

end TypedQuery
