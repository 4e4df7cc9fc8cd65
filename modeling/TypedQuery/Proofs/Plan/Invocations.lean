import TypedQuery.Proofs.Eval.Inlining
import TypedQuery.Proofs.Plan.Defaults
import TypedQuery.Proofs.Plan.Openness

/-!
# Fields side by side

A field that is resolved twice, or two fields, over one context give expressions that share the
parameters of their templates.  Each has a holder of its own, drawn from the supply, and asks for
nothing but the context and that holder, so the two can stand in one record with the constants of
both: `resolveField_beside`.  That two bound expressions do not disturb each other is said of any
two whose constants are apart (`BoundExpr.execute_beside`); what resolving leaves for it to be used
is in `exists_holder_of_resolveField`.
-/

namespace TypedQuery

/-! ## Bound expressions side by side -/

namespace BoundExpr

/-- A record of two bound expressions over the context of the first, with the constants of both. -/
def beside (b b' : BoundExpr) (type : Option String) (name name' : String) : BoundExpr where
  context := b.context
  expression := .new type [(name, b.expression), (name', b'.expression)]
  constants := b.constants ++ b'.constants

variable {b b' : BoundExpr} {root v v' : Value} {id : ParamId}

/-- What has a value in the scope of an execution, and is not the context, is a constant. -/
theorem mem_constants_of_mem_closedIds (h : id ∈ b.closedIds)
    (hcontext : b.context.map Parameter.id ≠ some id) : id ∈ b.constants.map (·.1.id) := by
  refine (List.mem_append.1 h).resolve_left fun hmem => hcontext ?_
  obtain ⟨c, hc, rfl⟩ := List.mem_map.1 hmem
  exact Option.map_eq_some_iff.2 ⟨c, Option.mem_toList.1 hc, rfl⟩

theorem mem_closedIds_of_mem_constants {k : Parameter × Value} (hk : k ∈ b.constants) :
    k.1.id ∈ b.closedIds :=
  List.mem_append_right _ (List.mem_map_of_mem hk)

/-- Constants of one value have it when the expression is run. -/
theorem get?_scope_of_mem_constants {k : Parameter × Value} (hk : k ∈ b.constants)
    (hvalue : ∀ k ∈ b.constants, k.2 = v) (hcontext : ∀ c ∈ b.context, k.1.id ≠ c.id) :
    (b.scope root).get? k.1.id = some v := by
  rw [scope_eq, Scope.get?_bindOption_of_ne hcontext, Scope.ofList_eq_bindAll]
  exact Scope.get?_bindAll_eq_some (List.mem_map_of_mem hk) hvalue

section Beside

variable {type : Option String} {name name' : String}

/-- The first of two bound expressions finds its own values, if the other has no constants for
them. -/
theorem get?_scope_beside_left (hapart : ∀ id ∈ b.constants.map (·.1.id),
      id ∉ b'.constants.map (·.1.id)) (hid : id ∈ b.closedIds) :
    ((b.beside b' type name name').scope root).get? id = (b.scope root).get? id := by
  rw [scope_eq, scope_eq]
  refine Scope.get?_bindOption_eq _ _ fun hcontext => ?_
  have hconstant := mem_constants_of_mem_closedIds hid hcontext
  rw [beside, Scope.ofList_eq_bindAll, Scope.ofList_eq_bindAll, Scope.bindAll_append,
    Scope.get?_bindAll_of_notMem (hapart id hconstant)]

/-- The second of two bound expressions finds its own values: its constants are bound last. -/
theorem get?_scope_beside_right (hcontext : b'.context = b.context) (hid : id ∈ b'.closedIds) :
    ((b.beside b' type name name').scope root).get? id = (b'.scope root).get? id := by
  rw [scope_eq, scope_eq, hcontext]
  refine Scope.get?_bindOption_eq _ _ fun hne => ?_
  have hconstant := mem_constants_of_mem_closedIds hid (hcontext ▸ hne)
  rw [beside, Scope.ofList_eq_bindAll, Scope.ofList_eq_bindAll, Scope.bindAll_append]
  exact Scope.get?_bindAll_congr fun hnot => absurd hconstant hnot

/-- Two bound expressions over one context whose constants are apart run side by side to the record
of what they run to alone. -/
theorem execute_beside (hcontext : b'.context = b.context)
    (hapart : ∀ id ∈ b.constants.map (·.1.id), id ∉ b'.constants.map (·.1.id))
    (hunary : b.expression.isUnary = true) (hunary' : b'.expression.isUnary = true)
    (hv : b.execute root = .ok v) (hv' : b'.execute root = .ok v') :
    (b.beside b' type name name').execute root = .ok (.ofFields [(name, v), (name', v')]) := by
  have hclosed := isClosed_of_execute hv
  have hclosed' := isClosed_of_execute hv'
  obtain ⟨hbound, hv⟩ := execute_eq_ok_iff.1 hv
  obtain ⟨hbound', hv'⟩ := execute_eq_ok_iff.1 hv'
  have hleft : ∀ id ∈ b.expression.freeIds,
      ((b.beside b' type name name').scope root).get? id = (b.scope root).get? id :=
    fun id hid => get?_scope_beside_left hapart (hclosed id hid)
  have hright : ∀ id ∈ b'.expression.freeIds,
      ((b.beside b' type name name').scope root).get? id = (b'.scope root).get? id :=
    fun id hid => get?_scope_beside_right hcontext (hclosed' id hid)
  refine execute_eq_ok_iff.2 ⟨?_, ?_⟩
  · intro id hid
    obtain ⟨part, hpart, hid⟩ := Expr.mem_freeIds_new.1 hid
    simp only [List.mem_cons, List.not_mem_nil, or_false] at hpart
    rcases hpart with rfl | rfl
    · rw [hleft id hid]
      exact hbound id hid
    · rw [hright id hid]
      exact hbound' id hid
  · rw [beside, Expr.eval_new, Expr.evalFields_cons, Expr.evalFields_cons]
    rw [beside] at hleft hright
    rw [Expr.eval_congr hunary hleft, hv, Expr.eval_congr hunary' hright, hv']
    rfl

end Beside

end BoundExpr

/-! ## Resolved fields -/

section Resolved

variable {r : MemberResolver} {policy : ClausePolicy} {f : SchemaField} {supplied : Dict Expr}
  {context : Expr} {supply supply' s : Supply} {b : BoundExpr}

/-- The parameter for the holder is taken from the supply. -/
theorem SchemaField.next_lt_next_freshBody {p : Parameter} (hp : p ∈ (f.freshBody s).holder) :
    s.next < (f.freshBody s).supply.next := by
  cases hargs : f.argsParam? with
  | none =>
    rw [freshBody_of_none hargs] at hp
    cases hp
  | some args =>
    rw [freshBody_of_some hargs]
    exact Nat.lt_succ_self _

/-- The holder is the only constant of an instance of a template. -/
theorem Instance.mem_constants {i : Instance} {holder : Value} {k : Parameter × Value} :
    k ∈ i.constants holder ↔ k.1 ∈ i.holder ∧ k.2 = holder := by
  obtain ⟨p, v⟩ := k
  unfold constants
  cases i.holder with
  | none => simp
  | some q => simp [eq_comm]

/-- A new context brings no lambdas of several parameters into an expression without any. -/
theorem BoundExpr.isUnary_substituteContext (hb : b.expression.isUnary = true)
    (hcontext : context.isUnary = true) :
    (b.substituteContext context).expression.isUnary = true := by
  unfold substituteContext
  cases b.context with
  | none => exact hb
  | some c => exact Expr.isUnary_replace hb hcontext

/-- A field resolved on a parameter has the parameter for its context.  Its only constant is the
holder of its arguments, under another parameter, which is taken from the supply. -/
theorem exists_holder_of_resolveField {c : Parameter}
    (h : resolveField r policy f supplied c.expr supply = .ok (b, supply'))
    (hunary : f.body.isUnary = true) :
    b.context = some c ∧ b.expression.isUnary = true ∧
    ∃ arguments, bindArguments f r.lookup supplied = .ok arguments ∧
      ∀ k ∈ b.constants, k.2 = arguments.holderValue ∧ k.1.id ≠ c.id ∧
        supply.next ≤ k.1.id.index ∧ k.1.id.index < supply'.next := by
  obtain ⟨arguments, s, _, harguments, hle, -, hsc, hbody, rfl⟩ := resolveField_steps h
  have hrest := next_le_of_shapeBody hbody
  obtain ⟨ids, g, hg, -, rfl⟩ := exists_wrapping_of_shapeBody hbody
  refine ⟨context_substituteContext rfl, ?_, arguments, harguments, fun k hk => ?_⟩
  · refine BoundExpr.isUnary_substituteContext ?_ rfl
    rw [hg.isUnary]
    exact SchemaField.isUnary_freshBody hunary
  · obtain ⟨hholder, hvalue⟩ := Instance.mem_constants.1 hk
    have hindex := SchemaField.index_of_mem_holder hholder
    have hlt := SchemaField.next_lt_next_freshBody hholder
    have hfree := SchemaField.holder_not_mem_freeIds hsc hholder
    exact ⟨hvalue, fun heq => hfree (Expr.mem_freeIds_param.2 heq), by omega, by omega⟩

end Resolved

/-! ## The result -/

/-- Two fields that are resolved on one parameter, one of them after the other, run side by side to
the record of what they run to alone, and each finds the holder of its own arguments. -/
theorem resolveField_beside {r r' : MemberResolver} {policy policy' : ClausePolicy}
    {f f' : SchemaField} {supplied supplied' : Dict Expr} {c : Parameter} {s₀ s₁ s₂ s₃ : Supply}
    {b b' : BoundExpr} {root v v' : Value}
    (h : resolveField r policy f supplied c.expr s₀ = .ok (b, s₁))
    (h' : resolveField r' policy' f' supplied' c.expr s₂ = .ok (b', s₃))
    (hsupply : s₁.next ≤ s₂.next ∨ s₃.next ≤ s₀.next)
    (hunary : f.body.isUnary = true) (hunary' : f'.body.isUnary = true)
    (hv : b.execute root = .ok v) (hv' : b'.execute root = .ok v')
    (type : Option String) (name name' : String) :
    (b.beside b' type name name').execute root = .ok (.ofFields [(name, v), (name', v')]) ∧
    (∃ arguments, bindArguments f r.lookup supplied = .ok arguments ∧ ∀ k ∈ b.constants,
      ((b.beside b' type name name').scope root).get? k.1.id = some arguments.holderValue) ∧
    ∃ arguments, bindArguments f' r'.lookup supplied' = .ok arguments ∧ ∀ k ∈ b'.constants,
      ((b.beside b' type name name').scope root).get? k.1.id = some arguments.holderValue := by
  obtain ⟨hcontext, hb, arguments, harguments, hholder⟩ := exists_holder_of_resolveField h hunary
  obtain ⟨hcontext', hb', arguments', harguments', hholder'⟩ :=
    exists_holder_of_resolveField h' hunary'
  -- The constants of the one are drawn before those of the other.
  have hapart : ∀ id ∈ b.constants.map (·.1.id), id ∉ b'.constants.map (·.1.id) := by
    intro id hid hid'
    obtain ⟨k, hk, rfl⟩ := List.mem_map.1 hid
    obtain ⟨k', hk', heq⟩ := List.mem_map.1 hid'
    obtain ⟨-, -, hge, hlt⟩ := hholder k hk
    obtain ⟨-, -, hge', hlt'⟩ := hholder' k' hk'
    rw [heq] at hge' hlt'
    omega
  refine ⟨BoundExpr.execute_beside (hcontext'.trans hcontext.symm) hapart hb hb' hv hv',
    ⟨arguments, harguments, fun k hk => ?_⟩, ⟨arguments', harguments', fun k hk => ?_⟩⟩
  · rw [BoundExpr.get?_scope_beside_left hapart (BoundExpr.mem_closedIds_of_mem_constants hk)]
    refine BoundExpr.get?_scope_of_mem_constants hk (fun k hk => (hholder k hk).1) ?_
    rw [hcontext]
    rintro _ ⟨⟩
    exact (hholder k hk).2.1
  · rw [BoundExpr.get?_scope_beside_right (hcontext'.trans hcontext.symm)
      (BoundExpr.mem_closedIds_of_mem_constants hk)]
    refine BoundExpr.get?_scope_of_mem_constants hk (fun k hk => (hholder' k hk).1) ?_
    rw [hcontext']
    rintro _ ⟨⟩
    exact (hholder' k hk).2.1

open Sample in
/-- The same field twice, from the age of forty and from its default on: each reads its own age. -/
theorem resolveField_beside_grownPeople :
    ∃ b b' s, resolveField compiler.resolver .drop grownPeople [("minAge", .ofValue (.int 40))]
        directoryParam.expr ⟨4⟩ = .ok (b, ⟨7⟩) ∧
      resolveField compiler.resolver .drop grownPeople [] directoryParam.expr ⟨7⟩ = .ok (b', s) ∧
      grownPeople.body.isUnary = true ∧
      b.execute peopleDirectory = .ok (.list ((people.drop 1).take 1)) ∧
      b'.execute peopleDirectory = .ok (.list (people.take 2)) ∧
      (b.beside b' none "old" "grown").execute peopleDirectory = .ok (.ofFields
        [("old", .list ((people.drop 1).take 1)), ("grown", .list (people.take 2))]) := by
  obtain ⟨b, h, hv⟩ : ∃ b, resolveField compiler.resolver .drop grownPeople
      [("minAge", .ofValue (.int 40))] directoryParam.expr ⟨4⟩ = .ok (b, ⟨7⟩) ∧
      b.execute peopleDirectory = .ok (.list ((people.drop 1).take 1)) := ⟨_, rfl, rfl⟩
  obtain ⟨b', s, h', hv'⟩ : ∃ b' s, resolveField compiler.resolver .drop grownPeople []
      directoryParam.expr ⟨7⟩ = .ok (b', s) ∧
      b'.execute peopleDirectory = .ok (.list (people.take 2)) := ⟨_, _, rfl, rfl⟩
  exact ⟨b, b', s, h, h', rfl, hv, hv', (resolveField_beside h h' (.inl (Nat.le_refl _))
    rfl rfl hv hv' none "old" "grown").1⟩

end TypedQuery
