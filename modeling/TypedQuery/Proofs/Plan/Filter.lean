import TypedQuery.Plan.Compiler
import TypedQuery.Proofs.Plan.Groups

/-!
# What a compiled filter means

A filter is compiled clause by clause, so its predicate asks what the clauses alone would ask, in
groups, and its issues are the defects of the clauses that are left out:
`compileFilter_refines_filterAnswer`.  The predicate looks at nothing but the element
(`CompiledFilter.Over`), under whatever parameter that stands.
-/

namespace TypedQuery

/-- What the predicate of a filter says of an element. -/
def CompiledFilter.answer (f : CompiledFilter) (scope : Scope) (v : Value) :
    Except EvalError Bool :=
  f.predicate.apply scope v >>= Value.truth

/-! ## Clauses -/

/-- The condition of a clause on the element; one without a field has none to put. -/
def FilterClause.condition (r : MemberResolver) (element : Parameter) (c : FilterClause) :
    Except CompileError Expr :=
  match c.field with
  | some path => clauseCondition r element path c
  | none => .ok (.ofBool true)

/-- The conditions of the clauses that count, each with how it is joined. -/
def validConditions (r : MemberResolver) (element : Parameter) (clauses : List FilterClause) :
    Except CompileError (List (Conjunction × Expr)) :=
  (clauses.filter FilterClause.isValid).mapM fun c =>
    (c.condition r element).map fun e => (c.conjunction, e)

/-- The issues of the clauses that are left out, where the first clause has position `index`. -/
def droppedIssues (index : Nat) (clauses : List FilterClause) : List ClauseIssue :=
  (clauses.zipIdx index).filterMap fun (c, i) => ClauseIssue.inspect i c .warning

theorem droppedIssues_cons_of_some {index : Nat} {c : FilterClause} {clauses : List FilterClause}
    {defect : ClauseDefect} (h : c.defect? = some defect) :
    droppedIssues index (c :: clauses) =
      ⟨index, .warning, defect⟩ :: droppedIssues (index + 1) clauses := by
  simp [droppedIssues, ClauseIssue.inspect, h]

theorem droppedIssues_cons_of_none {index : Nat} {c : FilterClause} {clauses : List FilterClause}
    (h : c.defect? = none) :
    droppedIssues index (c :: clauses) = droppedIssues (index + 1) clauses := by
  simp [droppedIssues, ClauseIssue.inspect, h]

theorem FilterClause.exists_field_of_isValid {c : FilterClause} (h : c.isValid = true) :
    ∃ path, c.field = some path := by
  unfold isValid path? at h
  cases hfield : c.field with
  | some path => exact ⟨path, rfl⟩
  | none => simp [hfield] at h

/-- The clauses that are not valid leave an issue behind, the others a condition. -/
theorem clauseConditions_drop (r : MemberResolver) (element : Parameter) (index : Nat)
    (clauses : List FilterClause) :
    clauseConditions r .drop element index clauses =
      (validConditions r element clauses).map
        fun conditions => (conditions, droppedIssues index clauses) := by
  induction clauses generalizing index with
  | nil => rfl
  | cons c clauses ih =>
    cases hdefect : c.defect? with
    | some defect =>
      have hvalid : ¬ c.isValid = true := by
        rw [← c.defect?_eq_none_iff, hdefect]
        nofun
      have hconditions : validConditions r element (c :: clauses) =
          validConditions r element clauses := by
        rw [validConditions, List.filter_cons_of_neg hvalid, validConditions]
      rw [clauseConditions, hdefect, ih, hconditions, droppedIssues_cons_of_some hdefect]
      cases validConditions r element clauses <;> rfl
    | none =>
      have hvalid : c.isValid = true := c.defect?_eq_none_iff.1 hdefect
      obtain ⟨path, hpath⟩ := c.exists_field_of_isValid hvalid
      have hconditions : validConditions r element (c :: clauses) =
          clauseCondition r element path c >>= fun e =>
            (validConditions r element clauses).map ((c.conjunction, e) :: ·) := by
        rw [validConditions, List.filter_cons_of_pos hvalid, List.mapM_cons,
          FilterClause.condition, hpath, bind_map, validConditions]
        rfl
      rw [clauseConditions, hdefect, hpath, ih, hconditions, droppedIssues_cons_of_none hdefect]
      dsimp only
      cases clauseCondition r element path c with
      | error err => rfl
      | ok e => cases validConditions r element clauses <;> rfl

theorem compileFilter_drop (r : MemberResolver) (element : Parameter)
    (clauses : List FilterClause) :
    compileFilter r .drop element clauses =
      (validConditions r element clauses).map fun conditions =>
        ⟨⟨[element], disjunction (groups conditions)⟩, droppedIssues 0 clauses⟩ := by
  rw [compileFilter, clauseConditions_drop]
  cases validConditions r element clauses <;> rfl

section Conditions

variable {r : MemberResolver} {p : Parameter} {c : FilterClause} {e : Expr}

theorem FilterClause.overElement_of_condition (h : c.condition r p = .ok e) :
    e.OverElement p.id := by
  unfold condition at h
  split at h
  · exact overElement_of_clauseCondition h
  · rw [← Except.ok.inj h]
    exact .const _ _

theorem FilterClause.isTest_of_condition (h : c.condition r p = .ok e) : e.IsTest := by
  unfold condition at h
  split at h
  · exact isTest_of_clauseCondition h
  · rw [← Except.ok.inj h]
    exact Expr.isTest_ofBool true

end Conditions

/-! ## The predicate of a filter -/

/-- A filter with the given parameter for the element, and nothing else in its predicate. -/
inductive CompiledFilter.Over (p : Parameter) : CompiledFilter → Prop where
  | mk {body : Expr} (issues : List ClauseIssue) (h : body.OverElement p.id) :
      Over p ⟨⟨[p], body⟩, issues⟩

theorem CompiledFilter.Over.params_eq {p : Parameter} {f : CompiledFilter} (h : f.Over p) :
    f.predicate.params = [p] := by
  cases h
  rfl

/-- What compiles where clauses are rejected compiles to the same where they are dropped. -/
theorem clauseConditions_drop_of_ok {r : MemberResolver} {policy : ClausePolicy} {p : Parameter}
    {index : Nat} {clauses : List FilterClause}
    {result : List (Conjunction × Expr) × List ClauseIssue}
    (h : clauseConditions r policy p index clauses = .ok result) :
    clauseConditions r .drop p index clauses = .ok result := by
  cases policy with
  | drop => exact h
  | reject =>
    induction clauses generalizing index result with
    | nil => exact h
    | cons c clauses ih =>
      unfold clauseConditions at h ⊢
      split at h
      · cases h
      · exact ih h
      · obtain ⟨e, he, h⟩ := bind_eq_ok_iff.1 h
        obtain ⟨rest, hrest, h⟩ := bind_eq_ok_iff.1 h
        rw [he, ok_bind, ih hrest, ok_bind]
        exact h

theorem compileFilter_drop_of_ok {r : MemberResolver} {policy : ClausePolicy} {p : Parameter}
    {clauses : List FilterClause} {f : CompiledFilter}
    (h : compileFilter r policy p clauses = .ok f) : compileFilter r .drop p clauses = .ok f := by
  obtain ⟨result, hresult, h⟩ := bind_eq_ok_iff.1 h
  rw [compileFilter, clauseConditions_drop_of_ok hresult]
  exact h

/-! ## Another parameter for the element -/

theorem clauseConditions_rename {p q : Parameter} (hty : q.ty = p.ty) (r : MemberResolver)
    (policy : ClausePolicy) (index : Nat) (clauses : List FilterClause) :
    clauseConditions r policy q index clauses =
      (clauseConditions r policy p index clauses).map fun result =>
        (replaceConditions p.id q.expr result.1, result.2) := by
  induction clauses generalizing index with
  | nil => rfl
  | cons c clauses ih =>
    unfold clauseConditions
    split
    · cases policy with
      | reject => rfl
      | drop =>
        dsimp only
        rw [ih]
        cases clauseConditions r .drop p (index + 1) clauses <;> rfl
    · exact ih (index + 1)
    · rw [clauseCondition_rename hty, ih]
      cases clauseCondition r p _ c with
      | error err => rfl
      | ok e => cases clauseConditions r policy p (index + 1) clauses <;> rfl

/-- The filter with another parameter for the element. -/
def CompiledFilter.rename (f : CompiledFilter) (p q : Parameter) : CompiledFilter :=
  ⟨⟨[q], f.predicate.body.replace p.id q.expr⟩, f.issues⟩

/-- Filters for two parameters of one type differ in the parameter only. -/
theorem compileFilter_rename {p q : Parameter} (hty : q.ty = p.ty) (r : MemberResolver)
    (policy : ClausePolicy) (clauses : List FilterClause) :
    compileFilter r policy q clauses =
      (compileFilter r policy p clauses).map (·.rename p q) := by
  rw [compileFilter, compileFilter, clauseConditions_rename hty]
  cases clauseConditions r policy p 0 clauses with
  | error err => rfl
  | ok result =>
    simp only [map_ok, ok_bind, groups_replace, ← disjunction_replace]
    rfl

theorem CompiledFilter.answer_rename {p q : Parameter} {f : CompiledFilter} (h : f.Over p)
    (scope : Scope) (v : Value) : (f.rename p q).answer scope v = f.answer scope v := by
  cases h with
  | mk issues h =>
    have hp : (scope.bind p v).get? p.id = some v := Scope.get?_bind_self
    have hq : (scope.bind q v).get? q.id = some v := Scope.get?_bind_self
    exact congrArg (· >>= Value.truth) (h.eval_replace hp hq)

/-- What a filter says of an element does not depend on the scope around it. -/
theorem CompiledFilter.answer_eq {p : Parameter} {f : CompiledFilter} (h : f.Over p)
    (σ τ : Scope) (v : Value) : f.answer σ v = f.answer τ v := by
  cases h with
  | mk issues h =>
    exact congrArg (· >>= Value.truth)
      (h.eval_eq (v := v) Scope.get?_bind_self Scope.get?_bind_self)

/-! ## Filters -/

section Filters

variable {r : MemberResolver} {p : Parameter} {clauses : List FilterClause} {f : CompiledFilter}

/-- A compiled filter has a condition for each clause that counts, and asks them as the reference
does. -/
theorem exists_conditions_of_compileFilter (h : compileFilter r .drop p clauses = .ok f) :
    ∃ condition : FilterClause → Expr,
      (∀ c ∈ clauses, c.isValid = true → c.condition r p = .ok (condition c)) ∧
      f.predicate.body.IsTest ∧ f.Over p ∧ f.issues = droppedIssues 0 clauses ∧
      ∀ scope, f.predicate.body.test scope =
        filterAnswer (fun c => (condition c).test scope) clauses := by
  rw [compileFilter_drop, map_eq_ok_iff] at h
  obtain ⟨conditions, hconditions, rfl⟩ := h
  obtain ⟨pair, hpair, rfl⟩ := exists_map_of_mapM hconditions
  have hcondition : ∀ c ∈ clauses, c.isValid = true →
      c.condition r p = .ok (pair c).2 ∧ (pair c).1 = c.conjunction := by
    intro c hc hvalid
    have hc := hpair c (List.mem_filter.2 ⟨hc, hvalid⟩)
    obtain ⟨e, he, heq⟩ := map_eq_ok_iff.1 hc
    rw [← heq]
    exact ⟨he, rfl⟩
  have hpairs : (clauses.filter FilterClause.isValid).map pair =
      (clauses.filter FilterClause.isValid).map fun c => (c.conjunction, (pair c).2) := by
    refine List.map_congr_left ?_
    intro c hc
    obtain ⟨hmem, hvalid⟩ := List.mem_filter.1 hc
    exact Prod.ext (hcondition c hmem hvalid).2 rfl
  have hgroup : ∀ group ∈ clauseGroups clauses, ∀ e ∈ group.map fun c => (pair c).2,
      e.IsTest ∧ e.OverElement p.id := by
    intro group hgroup e he
    obtain ⟨c, hc, rfl⟩ := List.mem_map.1 he
    obtain ⟨hmem, hvalid⟩ := mem_of_mem_clauseGroups hgroup hc
    have hc := (hcondition c hmem hvalid).1
    exact ⟨FilterClause.isTest_of_condition hc, FilterClause.overElement_of_condition hc⟩
  refine ⟨fun c => (pair c).2, fun c hc hvalid => (hcondition c hc hvalid).1, ?_, ?_, rfl, ?_⟩
  · rw [hpairs, groups_map (fun c => (pair c).2)]
    refine Expr.isTest_disjunction ?_
    intro e he
    obtain ⟨group, hmem, rfl⟩ := List.mem_map.1 he
    exact Expr.isTest_conjunction fun e he => (hgroup group hmem e he).1
  · rw [hpairs, groups_map (fun c => (pair c).2)]
    refine .mk _ (.disjunction fun e he => ?_)
    obtain ⟨group, hmem, rfl⟩ := List.mem_map.1 he
    exact .conjunction fun e he => (hgroup group hmem e he).2
  · intro scope
    rw [hpairs]
    exact test_disjunction_groups (fun c => (pair c).2) scope clauses

theorem Compiler.compileFilter_eq (c : Compiler) (clauses : List FilterClause)
    (elementType : ExprType) (supply : Supply) :
    c.compileFilter clauses elementType supply =
      (TypedQuery.compileFilter c.resolver c.settings.policy (supply.draw "p" elementType).1
        clauses).map fun f => (f, (supply.draw "p" elementType).2) := by
  unfold Compiler.compileFilter
  exact (map_eq_bind _ _).symm

end Filters

namespace Sample

/-- The type of people as records. -/
def personRecord : ExprType := .record [("name", .scalar .string), ("age", .scalar .int)]

/-- The compiler of a schema without types, with the standard settings. -/
def compiler : Compiler := ⟨default, .standard⟩

/-- A clause on the age, an alternative without a field, and one on the name. -/
def personClauses : List FilterClause :=
  [.ofText ⟨"age"⟩ .greaterThan "30", ⟨none, some .equals, .text "x", .or, []⟩,
    (FilterClause.ofText ⟨"name"⟩ .equals "Linus").or]

end Sample

end TypedQuery
