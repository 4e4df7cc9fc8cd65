import TypedQuery.Proofs.Plan.Defaults
import TypedQuery.Proofs.Schema.Calls

/-!
# Templates that do not read their arguments

Where the parameter for the argument holder does not occur in a template, the resolved field is the
template over the context with calls around it, whatever the arguments are
(`SchemaField.expression_resolved_of_unread`).  A field that is derived from it has the same sequence
over the same context, and there its parameters have the same values
(`SchemaField.get?_scope_resolved_eq`), although the two are resolved with parameters of their own.
Without an argument that shapes the query there are no calls around it either:
`SchemaField.exists_resolved_of_plain`.
-/

namespace TypedQuery

namespace SchemaField

variable {f f' : SchemaField} {context : Expr} {s s' : Supply} {holder holder' root : Value}

/-! ## The sequence -/

theorem mentions_body_eq_false {n : Nat} (hs : f.template.expr.idBound ≤ n) {id : ParamId}
    (hid : n ≤ id.index) : f.body.mentions id = false :=
  Expr.mentions_of_idBound_le (Nat.le_trans (Nat.le_trans (Nat.le_max_right _ _) hs) hid)

/-- What is no parameter of the template or of the context does not occur in the body over the
context. -/
theorem mentions_bodyOver_eq_false {n : Nat} (hs : f.template.expr.idBound ≤ n)
    (hsc : context.idBound ≤ n) {id : ParamId} (hid : n ≤ id.index) :
    (f.bodyOver context).mentions id = false := by
  have hbody := mentions_body_eq_false hs hid
  have hcontext := Expr.mentions_of_idBound_le (Nat.le_trans hsc hid)
  unfold bodyOver
  split
  · rw [← Bool.not_eq_true, Expr.mentions_replace]
    simp [hbody, hcontext]
  · exact hbody

/-- What occurs in a body over a context occurs in the template or in the context. -/
theorem index_lt_of_mentions_bodyOver {n : Nat} (hs : f.template.expr.idBound ≤ n)
    (hsc : context.idBound ≤ n) {id : ParamId} (hid : (f.bodyOver context).mentions id = true) :
    id.index < n := by
  by_contra hge
  rw [mentions_bodyOver_eq_false hs hsc (Nat.le_of_not_lt hge)] at hid
  cases hid

section Unread

variable (h : ∀ args ∈ f.argsParam?, f.body.mentions args.id = false)

include h

theorem body_freshBody_of_unread : (f.freshBody s).body = f.body := by
  cases hargs : f.argsParam? with
  | none => rw [freshBody_of_none hargs]
  | some args =>
    rw [freshBody_of_some hargs]
    exact Expr.replace_eq_self _ (h args hargs)

/-- Calls with new parameters stand around the template's sequence over the context. -/
theorem expression_resolved_of_unread (hs : f.template.expr.idBound ≤ s.next) {ids : List ParamId}
    {g : Expr → Expr} (hg : Wrapping ids g) (hids : ∀ id ∈ ids, s.next ≤ id.index) :
    (f.resolved s holder context g).expression = g (f.bodyOver context) := by
  rw [f.expression_resolved holder context hs hg hids]
  unfold resolved bodyOver BoundExpr.substituteContext
  rw [body_freshBody_of_unread h]
  cases f.contextParam? <;> rfl

end Unread

/-! ## The scope -/

/-- Whatever the fields and the holders, parameters below these have the same values. -/
theorem get?_scope_resolved_eq {id : ParamId} (hid : id.index < s.next) (hid' : id.index < s'.next)
    (g g' : Expr → Expr) :
    ((f.resolved s holder context g).scope root).get? id =
      ((f'.resolved s' holder' context g').scope root).get? id := by
  have hconstants : ∀ {f : SchemaField} {s : Supply} (holder : Value), id.index < s.next →
      (Scope.ofList ((f.freshBody s).constants holder)).get? id = none := by
    intro f s holder hid
    unfold Instance.constants
    cases hp : (f.freshBody s).holder with
    | none => rfl
    | some p =>
      have hindex := index_of_mem_holder hp
      refine Scope.get?_bind_of_ne ?_
      rintro rfl
      omega
  rw [scope_resolved, scope_resolved]
  refine Scope.get?_bindOption_eq _ root fun _ => ?_
  exact (hconstants holder hid).trans (hconstants holder' hid').symm

end SchemaField

/-! ## Nothing around the sequence -/

/-- A shaping that nothing is asked of leaves the sequence as it is. -/
theorem Shaping.apply_of_nothing {r : MemberResolver} {policy : ClausePolicy} {p q : Parameter}
    {shaping : Shaping} (h : compileShaping r policy p q ⟨[], none, .all⟩ = .ok shaping) (e : Expr) :
    shaping.apply e = e := by
  obtain rfl := Except.ok.inj h
  rfl

section Plain

variable {r : MemberResolver} {policy : ClausePolicy} {f : SchemaField} {supplied : Dict Expr}
  {context : Expr} {supply supply' : Supply} {b : BoundExpr}

/-- An argument that is not supplied asks for nothing, and one that shapes nothing does not either. -/
theorem BoundArguments.IsIdle.bindArgument_of_plain {b b' : BoundArguments} {kind : ArgumentKind}
    (h : b.IsIdle kind) {lookup : MemberLookup} {a : ArgumentDescriptor}
    (hplain : a.kind.isShaping = true → supplied? lookup supplied a.name = none)
    (hb : TypedQuery.bindArgument f lookup supplied b a = .ok b') : b'.IsIdle kind := by
  by_cases hkind : a.kind = kind
  · cases kind with
    | value type => trivial
    | filterQuery | sort | page | pageSize =>
      unfold TypedQuery.bindArgument at hb
      rw [hplain (by rw [hkind]; rfl)] at hb
      dsimp only at hb
      split at hb
      · cases hb
      · rw [← Except.ok.inj hb]
        exact h.withSlot _ _
  · exact h.bindArgument hkind hb

/-- Where no argument that shapes the query is supplied, nothing is asked of it. -/
theorem shaping_of_plain {lookup : MemberLookup} {arguments : BoundArguments}
    (hplain : ∀ a ∈ f.arguments, a.kind.isShaping = true → supplied? lookup supplied a.name = none)
    (h : bindArguments f lookup supplied = .ok arguments) :
    arguments.shaping = ⟨[], none, .all⟩ := by
  have hidle (kind : ArgumentKind) : arguments.IsIdle kind :=
    foldlM_invariant (P := (BoundArguments.IsIdle · kind))
      (fun _ a ha _ hidle hb => hidle.bindArgument_of_plain (hplain a ha) hb)
      (BoundArguments.isIdle_empty kind) h
  have hclauses : arguments.clauses = [] := hidle .filterQuery
  have hsort : arguments.sort = none := hidle .sort
  have hpage : arguments.page = none := hidle .page
  have hpageSize : arguments.pageSize = none := hidle .pageSize
  rw [BoundArguments.shaping, BoundArguments.pagination, hclauses, hsort, hpage, hpageSize]
  rfl

/-- Where no argument that shapes the query is supplied, the field is its template with the holder and
the context in their places. -/
theorem SchemaField.exists_resolved_of_plain
    (hplain : ∀ a ∈ f.arguments, a.kind.isShaping = true →
      supplied? r.lookup supplied a.name = none)
    (h : resolveField r policy f supplied context supply = .ok (b, supply')) :
    ∃ s holder, f.template.expr.idBound ≤ s.next ∧ context.idBound ≤ s.next ∧
      b = f.resolved s holder context fun e => e := by
  obtain ⟨arguments, s, body, rest, harguments, hs, hsc, hbody, rfl⟩ := resolveField_cases h
  have hnothing := shaping_of_plain hplain harguments
  refine ⟨s, arguments.holderValue, hs, hsc, ?_⟩
  rcases shapeBody_cases hbody with ⟨_, p, q, shaping, -, -, -, -, -, -, hshaping, rfl⟩ | ⟨-, rfl⟩
  · rw [hnothing] at hshaping
    rw [Shaping.apply_of_nothing hshaping]
    rfl
  · rfl

/-- A field without arguments that shape the query is resolved to its template with the holder and
the context in their places. -/
theorem resolveField_of_unshaped (hf : f.isShaped = false) (r : MemberResolver)
    (policy : ClausePolicy) (supplied : Dict Expr) (context : Expr) (supply : Supply) :
    ∃ s, f.template.expr.idBound ≤ s.next ∧ context.idBound ≤ s.next ∧
      resolveField r policy f supplied context supply =
        (bindArguments f r.lookup supplied).map fun arguments =>
          (f.resolved s arguments.holderValue context fun e => e, (f.freshBody s).supply) := by
  refine ⟨(supply.avoiding f.template.expr).avoiding context,
    Nat.le_trans (Nat.le_max_right _ _) (Nat.le_max_left _ _), Nat.le_max_right _ _, ?_⟩
  rw [resolveField, map_eq_bind]
  congr 1
  funext arguments
  unfold shapeBody
  simp only [hf]
  rfl

end Plain

end TypedQuery
