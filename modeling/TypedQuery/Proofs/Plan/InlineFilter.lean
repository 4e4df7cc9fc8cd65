import TypedQuery.Proofs.Eval.Outcome
import TypedQuery.Proofs.Plan.Mutation

/-!
# Filters in the call and filters in front of it

An operator that picks an element may bring its filter along.  A selection on a mutation's result
takes the filter out of the call and puts it in front as an operator of its own, so the two have to
do the same.  Both keep the same elements, and of them the same one is picked: for functions of one
parameter the calls are equal, down to the words of a failure.  But in the call a function may have
any number of parameters, and in front of it only one (`items_filteredSource_of_length_ne_one`).
`eval_inlineFilter` says when the two come out alike all the same.
-/

namespace TypedQuery

theorem outcome_eq_unsupported_iff {α : Type} {x : Except EvalError α} :
    outcome x = .error .unsupported ↔ ∃ text, x = .error (.unsupported text) := by
  cases x with
  | ok a => simp
  | error err => cases err <;> simp [EvalError.kind]

section Calls

variable {op : SequenceOp} {f : Lambda} {filter : Option Lambda}

/-- A filter of no parameter or of several is refused in front of a call, whatever the items are. -/
theorem items_filteredSource_of_length_ne_one (h : f.params.length ≠ 1) (source : Expr)
    (scope : Scope) :
    (filteredSource source (some f)).items scope = source.items scope >>= fun _ =>
      .error (.unsupported "Where expects a single-parameter lambda") := by
  obtain ⟨params, body⟩ := f
  rw [filteredSource, Expr.items, Expr.eval_call_eq_bind, bind_assoc]
  congr 1
  funext items
  cases params with
  | nil => rfl
  | cons p params =>
    cases params with
    | nil => exact absurd rfl h
    | cons q params => rfl

/-- A filter of one parameter may stand in the call or in front of it. -/
theorem eval_call_filteredSource (hop : op.isTerminal = true)
    (harity : ∀ p ∈ filter, p.params.length = 1) (source : Expr) (scope : Scope) :
    (Expr.call op source (filter.toList.map Lambda.expr)).eval scope =
      (Expr.call op (filteredSource source filter) []).eval scope := by
  rw [eval_call_of_isTerminal hop, Expr.eval_call_eq_bind, items_filteredSource harity, bind_assoc]
  rfl

end Calls

/-- A pick with an inline filter and the pick of what a filter in front of it leaves are equal if
the function has one parameter.  In general they come out alike exactly in three cases: the function
has one parameter, or there is nothing to pick from, or the inline filter fails just as the other
one does. -/
theorem eval_inlineFilter {e source : Expr} {op : SequenceOp} {f : Lambda}
    (hshape : MutationShape.classify e = .terminal op source (some f)) (scope : Scope) :
    (f.params.length = 1 →
      e.eval scope = (Expr.call op (.call .filter source [f.expr]) []).eval scope) ∧
    (outcome (e.eval scope) =
        outcome ((Expr.call op (.call .filter source [f.expr]) []).eval scope) ↔
      f.params.length = 1 ∨ (∃ err, source.items scope = .error err) ∨
        ∃ text, e.eval scope = .error (.unsupported text)) := by
  obtain ⟨hop, rfl⟩ := MutationShape.classify_eq_terminal hshape
  have hequal : f.params.length = 1 → (Expr.call op source [f.expr]).eval scope =
      (Expr.call op (.call .filter source [f.expr]) []).eval scope := by
    intro h
    have harity : ∀ p ∈ some f, p.params.length = 1 := by
      rintro _ ⟨⟩
      exact h
    exact eval_call_filteredSource hop harity source scope
  refine ⟨hequal, ?_⟩
  by_cases hlength : f.params.length = 1
  · exact iff_of_true (congrArg outcome (hequal hlength)) (Or.inl hlength)
  · have hfront : (Expr.call op (.call .filter source [f.expr]) []).eval scope =
        source.items scope >>= fun _ =>
          .error (.unsupported "Where expects a single-parameter lambda") := by
      show (Expr.call op (filteredSource source (some f)) []).eval scope = _
      rw [Expr.eval_call_eq_bind, items_filteredSource_of_length_ne_one hlength, bind_assoc]
      rfl
    rw [hfront]
    cases hsource : source.items scope with
    | error err =>
      have hcall : (Expr.call op source [f.expr]).eval scope = .error err := by
        rw [Expr.eval_call_eq_bind, hsource]
        rfl
      exact iff_of_true (congrArg outcome hcall) (Or.inr (Or.inl ⟨err, rfl⟩))
    | ok items =>
      have hnone : ¬ ∃ err, (Except.ok items : Except EvalError (List Value)) = .error err := nofun
      simp only [hlength, hnone, false_or]
      exact outcome_eq_unsupported_iff

namespace Sample

/-- The ages of two people. -/
def twoAges : Expr := .ofValue (.list [.int 36, .int 9])

/-- The test of being under age, as a function of an age and of a limit that it does not use. -/
def underAgeOfLimit : Lambda :=
  ⟨[ageParam, limitParam], .binary .lessThan ageParam.expr (.ofValue (.int 18))⟩

end Sample

open Sample in
/-- The first person under age is the same one if the filter comes first. -/
theorem eval_inlineFilter_firstUnderAge :
    ∃ source, MutationShape.classify firstUnderAge.body = .terminal .first source (some underAge) ∧
      underAge.params.length = 1 ∧
      firstUnderAge.body.eval pairScope =
        (Expr.call .first (.call .filter source [underAge.expr]) []).eval pairScope ∧
      firstUnderAge.body.eval pairScope =
        .ok (.ofFields [("name", .string "Linus"), ("age", .int 9)]) :=
  ⟨_, rfl, rfl, (eval_inlineFilter rfl pairScope).1 rfl, rfl⟩

open Sample in
/-- A filter of two parameters finds the age of nine in the call, and is refused in front of it. -/
theorem eval_underAgeOfLimit :
    MutationShape.classify (.call .first twoAges [underAgeOfLimit.expr]) =
      .terminal .first twoAges (some underAgeOfLimit) ∧
    (Expr.call .first twoAges [underAgeOfLimit.expr]).eval [] = .ok (.int 9) ∧
    (Expr.call .first (.call .filter twoAges [underAgeOfLimit.expr]) []).eval [] =
      .error (.unsupported "Where expects a single-parameter lambda") :=
  ⟨rfl, rfl, rfl⟩

end TypedQuery
