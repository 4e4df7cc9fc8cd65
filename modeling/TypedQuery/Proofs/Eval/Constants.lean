import TypedQuery.Proofs.Eval.Inlining

/-!
# Parameters bound more than once

A bound expression keeps its constants in a list, and nothing keeps a parameter from being bound
again.  The list is read in three ways.  Asked for a parameter, it gives the first constant
(`BoundExpr.value?`).  Put in their places one after the other, the first constant of a parameter
leaves nothing for the later ones to replace (`Expr.inline_eq_of_find?`).  Bound in a scope one after
the other, the last constant hides the earlier ones (`Scope.get?_bindAll`).
`BoundExpr.readings_of_constant` puts the three side by side.
-/

namespace TypedQuery

variable {bindings : List (Parameter × Value)} {id : ParamId}

theorem exists_find?_of_mem (h : id ∈ bindings.map (·.1.id)) :
    ∃ c, bindings.find? (·.1.id == id) = some c := by
  obtain ⟨c, hc, rfl⟩ := List.mem_map.1 h
  exact Option.isSome_iff_exists.1 (List.find?_isSome.2 ⟨c, hc, beq_self_eq_true _⟩)

/-! ## The last constant -/

/-- Bindings are looked up from the last one back, and only then what was there before. -/
theorem Scope.get?_bindAll (scope : Scope) (bindings : List (Parameter × Value)) (id : ParamId) :
    (scope.bindAll bindings).get? id =
      ((bindings.reverse.find? (·.1.id == id)).map Prod.snd).or (scope.get? id) := by
  induction bindings generalizing scope with
  | nil => rfl
  | cons c bindings ih =>
    rw [bindAll_cons, ih, List.reverse_cons, List.find?_append, get?_bind]
    cases bindings.reverse.find? (·.1.id == id) with
    | some d => rfl
    | none =>
      by_cases hid : id = c.1.id
      · simp [hid]
      · simp [hid, Ne.symm hid]

/-! ## The first constant -/

namespace Expr

variable {x : ParamId} {v w : Value} {t u : ExprType} {c : Parameter × Value}

/-- What a constant has replaced is replaced once and for all. -/
theorem replace_const_replace_const (e : Expr) :
    (e.replace x (.const v t)).replace x (.const w u) = e.replace x (.const v t) := by
  refine replace_eq_self _ ?_
  rw [← Bool.not_eq_true, mentions_replace]
  simp

/-- The first constant of a parameter is the one that comes into its place. -/
theorem inline_eq_of_find? {e : Expr} (h : bindings.find? (·.1.id == x) = some c) :
    e.inline bindings = (e.replace x (.const c.2 c.1.ty)).inline bindings := by
  induction bindings generalizing e with
  | nil => cases h
  | cons d bindings ih =>
    rw [inline_cons, inline_cons]
    by_cases hd : d.1.id = x
    · have hcons : (d :: bindings).find? (·.1.id == x) = some d :=
        List.find?_cons_of_pos (beq_iff_eq.2 hd)
      obtain rfl : d = c := Option.some.inj (hcons.symm.trans h)
      rw [hd, replace_const_replace_const]
    · have hcons : (d :: bindings).find? (·.1.id == x) = bindings.find? (·.1.id == x) :=
        List.find?_cons_of_neg (by simpa using hd)
      rw [ih (hcons.symm.trans h), replace_replace hd mentions_const, replace_const]

end Expr

/-! ## Executions -/

namespace BoundExpr

variable {b b' : BoundExpr} {root : Value} {x : ParamId}

/-- Constants that are bound one by one stand in the list in that order. -/
theorem foldl_withConstant (b : BoundExpr) (constants : List (Parameter × Value)) :
    constants.foldl (fun b c => b.withConstant c.1 c.2) b = b.withConstants constants := by
  induction constants generalizing b with
  | nil => exact congrArg (mk b.context b.expression) (List.append_nil _).symm
  | cons c constants ih =>
    rw [List.foldl_cons, ih]
    exact congrArg (mk b.context b.expression) (List.append_assoc ..)

/-- Executions come out alike if they lack values for the same parameters and the expressions come
out alike where none is lacking. -/
theorem outcome_execute_congr
    (hopen : ∀ id, id ∈ b.expression.freeIds ∧ (b.scope root).get? id = none ↔
      id ∈ b'.expression.freeIds ∧ (b'.scope root).get? id = none)
    (heval : outcome (b.expression.eval (b.scope root)) =
      outcome (b'.expression.eval (b'.scope root))) :
    outcome (b.execute root) = outcome (b'.execute root) := by
  by_cases h : ∃ id, id ∈ b.expression.freeIds ∧ (b.scope root).get? id = none
  · obtain ⟨id, hid⟩ := h
    have hid' := (hopen id).1 hid
    rw [outcome_execute_of_unbound hid.1 hid.2, outcome_execute_of_unbound hid'.1 hid'.2]
  · have hbound : ∀ id ∈ b.expression.freeIds, (b.scope root).get? id ≠ none :=
      fun id hid hnone => h ⟨id, hid, hnone⟩
    have hbound' : ∀ id ∈ b'.expression.freeIds, (b'.scope root).get? id ≠ none :=
      fun id hid hnone => h ⟨id, (hopen id).2 ⟨hid, hnone⟩⟩
    rw [execute_eq_eval hbound, execute_eq_eval hbound', heval]

/-- An execution cannot tell a parameter from the constant that is its value. -/
theorem outcome_execute_replace {v : Value} (hvalue : (b.scope root).get? x = some v)
    (hdeclares : b.expression.declares x = false) (t : ExprType) :
    outcome (b.execute root) =
      outcome ({ b with expression := b.expression.replace x (.const v t) }.execute root) := by
  refine outcome_execute_congr (fun id => ?_) ?_
  · show _ ↔ id ∈ (b.expression.replace x (.const v t)).freeIds ∧ (b.scope root).get? id = none
    rw [Expr.mem_freeIds_replace fun id hid => absurd hid Expr.mem_freeIds_const]
    refine and_congr_left fun hnone => ?_
    have hne : id ≠ x := by
      rintro rfl
      rw [hvalue] at hnone
      cases hnone
    simp [hne]
  · show _ = outcome ((b.expression.replace x (.const v t)).eval (b.scope root))
    rw [Expr.outcome_eval_replace (v := v) rfl hdeclares
      (fun id hid => absurd hid Expr.mem_freeIds_const) rfl]
    refine congrArg outcome (Expr.eval_eq_of_mentions fun id _ => ?_)
    rw [Scope.get?_cons]
    split
    · rename_i heq
      rw [heq, hvalue]
    · rfl

/-- What constants are bound to a parameter, in any number of calls, and what is then made of them.
The value that is reported and the constant that comes into the place of the parameter are those of
the first call, the value in an execution is that of the last.  So the three are the same exactly if
these two calls bind the same value. -/
theorem readings_of_constant {context : Option Parameter} {e : Expr}
    {calls : List (Parameter × Value)} {b : BoundExpr} {p : Parameter}
    (hb : calls.foldl (fun b c => b.withConstant c.1 c.2) ⟨context, e, []⟩ = b)
    (hbound : p.id ∈ calls.map (·.1.id)) (hcontext : ∀ c ∈ context, p.id ≠ c.id)
    (hdeclares : e.declares p.id = false) :
    ∃ first last, calls.find? (·.1.id == p.id) = some first ∧
      calls.reverse.find? (·.1.id == p.id) = some last ∧
      b.value? p.id = some first.2 ∧
      b.inlineConstants =
        { b with expression := e.replace p.id (.const first.2 first.1.ty) }.inlineConstants ∧
      (∀ root, (b.scope root).get? p.id = some last.2 ∧ outcome (b.execute root) = outcome
        ({ b with expression := e.replace p.id (.const last.2 last.1.ty) }.execute root)) ∧
      (first.2 = last.2 ↔ ∀ root, b.value? p.id = (b.scope root).get? p.id) := by
  obtain ⟨first, hfirst⟩ := exists_find?_of_mem hbound
  obtain ⟨last, hlast⟩ : ∃ last, calls.reverse.find? (·.1.id == p.id) = some last :=
    exists_find?_of_mem (by simpa using hbound)
  rw [foldl_withConstant] at hb
  subst hb
  have hvalue : ((⟨context, e, calls⟩ : BoundExpr).value? p.id) = some first.2 :=
    congrArg (Option.map Prod.snd) hfirst
  have hscope : ∀ root, ((⟨context, e, calls⟩ : BoundExpr).scope root).get? p.id =
      some last.2 := by
    intro root
    rw [scope_eq, Scope.get?_bindOption_of_ne hcontext, Scope.ofList_eq_bindAll,
      Scope.get?_bindAll, hlast]
    rfl
  refine ⟨first, last, hfirst, hlast, hvalue, Expr.inline_eq_of_find? hfirst,
    fun root => ⟨hscope root, outcome_execute_replace (hscope root) hdeclares _⟩, ?_⟩
  show _ ↔ ∀ root, (⟨context, e, calls⟩ : BoundExpr).value? p.id = _
  rw [hvalue]
  constructor
  · intro h root
    rw [h]
    exact (hscope root).symm
  · intro h
    exact Option.some.inj ((h .null).trans (hscope .null))

end BoundExpr

namespace Sample

/-- The limit is bound to the age of adults, and then again to forty. -/
def limitTwice : List (Parameter × Value) := [(limitParam, .int 18), (limitParam, .int 40)]

/-- The ages in a club, the youngest of whom are adults. -/
def adultAges : Value := .ofFields [("ages", .list [.int 36, .int 9, .int 45])]

end Sample

open Sample in
/-- Of a limit that is bound again the first binding is reported, and the second one selects. -/
theorem readings_of_limitTwice :
    limitParam.id ∈ limitTwice.map (·.1.id) ∧ (∀ c ∈ some clubParam, limitParam.id ≠ c.id) ∧
    adultsOfClub.expression.declares limitParam.id = false ∧
    ∃ b : BoundExpr, limitTwice.foldl (fun b c => b.withConstant c.1 c.2)
        ⟨some clubParam, adultsOfClub.expression, []⟩ = b ∧
      b.value? limitParam.id = some (.int 18) ∧
      (b.scope adultAges).get? limitParam.id = some (.int 40) ∧
      outcome (b.execute adultAges) = .ok (.list [.int 45]) ∧
      outcome (b.inlined.execute adultAges) = .ok (.list [.int 36, .int 45]) := by
  have hbound : limitParam.id ∈ limitTwice.map (·.1.id) := List.mem_cons_self ..
  have hcontext : ∀ c ∈ some clubParam, limitParam.id ≠ c.id := by
    rintro _ ⟨⟩
    decide
  refine ⟨hbound, hcontext, rfl, _, rfl, ?_⟩
  obtain ⟨first, last, hfirst, hlast, hvalue, -, hexecute, -⟩ :=
    BoundExpr.readings_of_constant (e := adultsOfClub.expression) rfl hbound hcontext rfl
  obtain rfl : (limitParam, .int 18) = first := Option.some.inj hfirst
  obtain rfl : (limitParam, .int 40) = last := Option.some.inj hlast
  exact ⟨hvalue, (hexecute adultAges).1, (hexecute adultAges).2.trans rfl, rfl⟩

open Sample in
/-- A parameter that is bound to eighteen and then to forty is reported and written as eighteen, and
runs to forty. -/
theorem execute_limitTwice :
    let b := ((⟨none, limitParam.expr, []⟩ : BoundExpr).withConstant limitParam
      (.int 18)).withConstant limitParam (.int 40)
    b.expression.declares limitParam.id = false ∧ b.value? limitParam.id = some (.int 18) ∧
      b.inlineConstants = .const (.int 18) (.scalar .int) ∧ b.execute .null = .ok (.int 40) :=
  ⟨rfl, rfl, rfl, rfl⟩

end TypedQuery
