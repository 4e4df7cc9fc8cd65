import Mathlib.Data.List.SplitBy
import TypedQuery.Proofs.Plan.Condition

/-!
# Groups of clauses

`filterAnswer` says what a list of clauses means without an expression: the clauses that are not
valid are left out, each clause joined by `or` begins a group, a group asks its clauses from left to
right until one says no, and the filter asks its groups until one says yes.  The running group of
the compiler gives the same groups, and conjunctions and disjunctions of conditions ask in the same
order.
-/

namespace TypedQuery

/-- The clauses of a filter that count, in groups.  How the first one is joined does not matter. -/
def clauseGroups (clauses : List FilterClause) : List (List FilterClause) :=
  (clauses.filter FilterClause.isValid).splitBy fun _ c => c.conjunction == .and

/-- What a filter says of an element, by what each clause alone says of it. -/
def filterAnswer (answer : FilterClause → Except EvalError Bool) (clauses : List FilterClause) :
    Except EvalError Bool :=
  match clauseGroups clauses with
  | [] => .ok true
  | groups => groups.anyM fun group => group.allM answer

/-! ## Questions to the members of a list -/

section Lists

variable {ε α β : Type}

theorem anyM_map (f : α → β) (p : β → Except ε Bool) (l : List α) :
    (l.map f).anyM p = l.anyM fun a => p (f a) := by
  induction l with
  | nil => rfl
  | cons a l ih => rw [List.map_cons, List.anyM_cons, List.anyM_cons, ih]

theorem allM_map (f : α → β) (p : β → Except ε Bool) (l : List α) :
    (l.map f).allM p = l.allM fun a => p (f a) := by
  induction l with
  | nil => rfl
  | cons a l ih => rw [List.map_cons, List.allM_cons, List.allM_cons, ih]

theorem anyM_congr {p q : α → Except ε Bool} {l : List α} (h : ∀ a ∈ l, p a = q a) :
    l.anyM p = l.anyM q := by
  induction l with
  | nil => rfl
  | cons a l ih =>
    rw [List.anyM_cons, List.anyM_cons, h a (List.mem_cons_self ..),
      ih fun b hb => h b (List.mem_cons_of_mem _ hb)]

end Lists

/-! ## Conjunctions and disjunctions -/

namespace Expr

/-- The conjunction of expressions; of none it is true. -/
def conjunction : List Expr → Expr
  | [] => .ofBool true
  | e :: rest => rest.foldl (.binary .and) e

theorem conjunction_append_singleton {es : List Expr} (hes : es ≠ []) (e : Expr) :
    conjunction (es ++ [e]) = .binary .and (conjunction es) e := by
  cases es with
  | nil => exact absurd rfl hes
  | cons d es => exact List.foldl_append

section Junctions

variable {scope : Scope}

theorem test_and (l r : Expr) :
    (Expr.binary .and l r).test scope =
      l.test scope >>= fun b => if b then r.test scope else .ok false := by
  rw [test, eval_binary_logical rfl, test, test, bind_assoc, bind_assoc]
  congr 1
  funext v
  rcases v.truth with err | (_ | _)
  · rfl
  · rfl
  · cases r.eval scope with
    | error err => rfl
    | ok w => simp only [ok_bind]; cases w.truth <;> rfl

theorem test_or (l r : Expr) :
    (Expr.binary .or l r).test scope =
      l.test scope >>= fun b => if b then .ok true else r.test scope := by
  rw [test, eval_binary_logical rfl, test, test, bind_assoc, bind_assoc]
  congr 1
  funext v
  rcases v.truth with err | (_ | _)
  · rfl
  · cases r.eval scope with
    | error err => rfl
    | ok w => simp only [ok_bind]; cases w.truth <;> rfl
  · rfl

theorem test_foldl_and (e : Expr) (es : List Expr) :
    (es.foldl (.binary .and) e).test scope = (e :: es).allM (test scope) := by
  induction es generalizing e with
  | nil =>
    rw [List.foldl_nil, List.allM_cons]
    rcases e.test scope with err | (_ | _) <;> rfl
  | cons d es ih =>
    rw [List.foldl_cons, ih, List.allM_cons, List.allM_cons, List.allM_cons, test_and]
    rcases e.test scope with err | (_ | _) <;> rfl

theorem test_foldl_or (e : Expr) (es : List Expr) :
    (es.foldl (.binary .or) e).test scope = (e :: es).anyM (test scope) := by
  induction es generalizing e with
  | nil =>
    rw [List.foldl_nil, List.anyM_cons]
    rcases e.test scope with err | (_ | _) <;> rfl
  | cons d es ih =>
    rw [List.foldl_cons, ih, List.anyM_cons, List.anyM_cons, List.anyM_cons, test_or]
    rcases e.test scope with err | (_ | _) <;> rfl

/-- A conjunction asks until something is false. -/
theorem test_conjunction (es : List Expr) :
    (conjunction es).test scope = es.allM (test scope) := by
  cases es with
  | nil => rfl
  | cons e es => exact test_foldl_and e es

/-- A disjunction asks until something is true. -/
theorem test_disjunction {es : List Expr} (hes : es ≠ []) :
    (disjunction es).test scope = es.anyM (test scope) := by
  cases es with
  | nil => exact absurd rfl hes
  | cons e es => exact test_foldl_or e es

end Junctions

theorem isTest_foldl_binary {e : Expr} (he : e.IsTest) (op : BinaryOp) (es : List Expr) :
    (es.foldl (.binary op) e).IsTest := by
  induction es generalizing e with
  | nil => exact he
  | cons d es ih => exact ih (isTest_binary op e d)

theorem isTest_conjunction {es : List Expr} (h : ∀ e ∈ es, e.IsTest) : (conjunction es).IsTest := by
  cases es with
  | nil => exact isTest_ofBool true
  | cons e es => exact isTest_foldl_binary (h e (List.mem_cons_self ..)) .and es

theorem isTest_disjunction {es : List Expr} (h : ∀ e ∈ es, e.IsTest) : (disjunction es).IsTest := by
  cases es with
  | nil => exact isTest_ofBool true
  | cons e es => exact isTest_foldl_binary (h e (List.mem_cons_self ..)) .or es

end Expr

theorem Expr.OverElement.foldl_binary {id : ParamId} (op : BinaryOp) {e : Expr} {es : List Expr}
    (he : e.OverElement id) (hes : ∀ d ∈ es, d.OverElement id) :
    (es.foldl (.binary op) e).OverElement id := by
  induction es generalizing e with
  | nil => exact he
  | cons d es ih =>
    exact ih (.binary op he (hes d (List.mem_cons_self ..)))
      fun c hc => hes c (List.mem_cons_of_mem _ hc)

theorem Expr.OverElement.conjunction {id : ParamId} {es : List Expr}
    (h : ∀ e ∈ es, e.OverElement id) : (Expr.conjunction es).OverElement id := by
  cases es with
  | nil => exact .const _ _
  | cons e es =>
    exact .foldl_binary .and (h e (List.mem_cons_self ..))
      fun d hd => h d (List.mem_cons_of_mem _ hd)

theorem Expr.OverElement.disjunction {id : ParamId} {es : List Expr}
    (h : ∀ e ∈ es, e.OverElement id) : (TypedQuery.disjunction es).OverElement id := by
  cases es with
  | nil => exact .const _ _
  | cons e es =>
    exact .foldl_binary .or (h e (List.mem_cons_self ..))
      fun d hd => h d (List.mem_cons_of_mem _ hd)

/-! ## Groups -/

section Groups

variable (condition : FilterClause → Expr)

/-- The groups of conditions are those of the clauses.  `group` is what has been read of the group
that is not finished, and `done` the groups before it, both backwards. -/
theorem map_conjunction_splitByLoop (last : FilterClause) (group : List FilterClause)
    (done : List (List FilterClause)) (clauses : List FilterClause) :
    (List.splitBy.loop (fun _ c => c.conjunction == .and) clauses last group done).map
        (fun g => Expr.conjunction (g.map condition)) =
      done.reverse.map (fun g => Expr.conjunction (g.map condition)) ++
        groupsFrom (Expr.conjunction ((last :: group).reverse.map condition))
          (clauses.map fun c => (c.conjunction, condition c)) := by
  induction clauses generalizing last group done with
  | nil => simp [List.splitBy.loop, groupsFrom]
  | cons c clauses ih =>
    rw [List.splitBy.loop, List.map_cons]
    cases hjoined : c.conjunction with
    | and =>
      have hgroup : Expr.conjunction ((c :: last :: group).reverse.map condition) =
          .binary .and (Expr.conjunction ((last :: group).reverse.map condition))
            (condition c) := by
        rw [List.reverse_cons, List.map_append]
        exact Expr.conjunction_append_singleton (by simp) (condition c)
      rw [groupsFrom, ← hgroup]
      exact ih c (last :: group) done
    | or =>
      rw [groupsFrom]
      refine (ih c [] ((last :: group).reverse :: done)).trans ?_
      simp [Expr.conjunction]

theorem groups_map (clauses : List FilterClause) :
    groups (clauses.map fun c => (c.conjunction, condition c)) =
      (clauses.splitBy fun _ c => c.conjunction == .and).map
        fun g => Expr.conjunction (g.map condition) := by
  cases clauses with
  | nil => rfl
  | cons c clauses => exact (map_conjunction_splitByLoop condition c [] [] clauses).symm

/-- The disjunction of the groups asks as the reference does. -/
theorem test_disjunction_groups (scope : Scope) (clauses : List FilterClause) :
    (disjunction (groups ((clauses.filter FilterClause.isValid).map
        fun c => (c.conjunction, condition c)))).test scope =
      filterAnswer (fun c => (condition c).test scope) clauses := by
  rw [groups_map, filterAnswer]
  show (disjunction ((clauseGroups clauses).map _)).test scope = _
  split
  · rename_i hgroups
    rw [hgroups]
    rfl
  · rename_i hgroups
    rw [Expr.test_disjunction (by simpa using hgroups), anyM_map]
    refine anyM_congr ?_
    intro group _
    rw [Expr.test_conjunction, allM_map]

end Groups

theorem mem_of_mem_clauseGroups {clauses group : List FilterClause} {c : FilterClause}
    (hgroup : group ∈ clauseGroups clauses) (hc : c ∈ group) :
    c ∈ clauses ∧ c.isValid = true := by
  have hmem : c ∈ (clauseGroups clauses).flatten := List.mem_flatten_of_mem hgroup hc
  rwa [clauseGroups, List.flatten_splitBy, List.mem_filter] at hmem

/-- A filter has an answer where its clauses have. -/
theorem exists_filterAnswer_eq_ok {answer : FilterClause → Except EvalError Bool}
    {clauses : List FilterClause}
    (h : ∀ c ∈ clauses, c.isValid = true → ∃ b, answer c = .ok b) :
    ∃ b, filterAnswer answer clauses = .ok b := by
  unfold filterAnswer
  split
  · exact ⟨true, rfl⟩
  · refine exists_anyM_eq_ok fun group hgroup => exists_allM_eq_ok fun c hc => ?_
    obtain ⟨hmem, hvalid⟩ := mem_of_mem_clauseGroups hgroup hc
    exact h c hmem hvalid

/-! ## Conditions on another parameter -/

section Rename

variable (x : ParamId) (d : Expr)

/-- The conditions with something else in the place of a parameter. -/
def replaceConditions (conditions : List (Conjunction × Expr)) : List (Conjunction × Expr) :=
  conditions.map fun c => (c.1, c.2.replace x d)

theorem groupsFrom_replace (running : Expr) (conditions : List (Conjunction × Expr)) :
    groupsFrom (running.replace x d) (replaceConditions x d conditions) =
      (groupsFrom running conditions).map (·.replace x d) := by
  induction conditions generalizing running with
  | nil => rfl
  | cons c conditions ih =>
    obtain ⟨joined, e⟩ := c
    cases joined with
    | and => exact ih (.binary .and running e)
    | or =>
      rw [groupsFrom, List.map_cons, ← ih e]
      rfl

theorem groups_replace (conditions : List (Conjunction × Expr)) :
    groups (replaceConditions x d conditions) = (groups conditions).map (·.replace x d) := by
  cases conditions with
  | nil => rfl
  | cons c conditions => exact groupsFrom_replace x d c.2 conditions

theorem foldl_binary_replace (op : BinaryOp) (e : Expr) (es : List Expr) :
    (es.foldl (.binary op) e).replace x d =
      (es.map (·.replace x d)).foldl (.binary op) (e.replace x d) := by
  induction es generalizing e with
  | nil => rfl
  | cons c es ih => exact ih (.binary op e c)

theorem disjunction_replace (es : List Expr) :
    (disjunction es).replace x d = disjunction (es.map (·.replace x d)) := by
  cases es with
  | nil => rfl
  | cons e es => exact foldl_binary_replace x d .or e es

end Rename

end TypedQuery
