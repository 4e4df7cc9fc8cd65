import TypedQuery.Proofs.Plan.Filter
import TypedQuery.Proofs.Plan.Lookup

/-!
# Rejecting and dropping clauses

Both policies compile the clauses from left to right and part at the first clause with a defect:
one fails there, the other goes on without it.  So a filter that rejects is one that drops as long
as all clauses are valid (`clauseConditions_reject_of_valid`), and else what is in front of the
first other clause, cut off there (`clauseConditions_reject_of_defect`).  The conditions of clauses
fail in ways of their own (`kind_of_clauseCondition`), so the two kinds of failure can be told
apart: `compileFilter_policies`.
-/

namespace TypedQuery

/-! ## How conditions fail -/

section Failures

variable {r : MemberResolver} {e : CompileError}

theorem kind_of_member {owner : ExprType} {name : String} (h : r.member owner name = .error e) :
    e.kind = .unknownField ∨ e.kind = .unknownType := by
  cases hentries : r.schema.entries? owner with
  | none =>
    rw [MemberResolver.member_of_entries?_eq_none hentries] at h
    split at h
    · obtain rfl := Except.error.inj h
      exact Or.inr rfl
    · obtain rfl := Except.error.inj h
      exact Or.inl rfl
  | some entries =>
    rw [MemberResolver.member_of_entries? hentries] at h
    split at h
    · cases h
    · obtain rfl := Except.error.inj h
      exact Or.inl rfl

theorem kind_of_follow {root : Expr} {ty : ExprType} {names : List String}
    (h : r.follow root ty names = .error e) : e.kind = .unknownField ∨ e.kind = .unknownType := by
  induction names generalizing root ty with
  | nil => cases h
  | cons name names ih =>
    rw [follow_cons, bind_eq_error_iff] at h
    rcases h with h | ⟨m, -, h⟩
    · exact kind_of_member h
    · exact ih h

theorem kind_of_resolvePath {root : Expr} {path : FieldPath}
    (h : r.resolvePath root path = .error e) :
    e.kind = .unknownField ∨ e.kind = .unknownType := by
  rw [resolvePath_eq] at h
  split at h
  · obtain rfl := Except.error.inj h
    exact Or.inl rfl
  · exact kind_of_follow (map_eq_error_iff.1 h)

theorem kind_of_checkFilterable {owner : ExprType} {path : FieldPath}
    (h : r.checkFilterable owner path = .error e) : e.kind = .unknownField := by
  unfold MemberResolver.checkFilterable at h
  split at h
  · split at h
    · cases h
    · obtain rfl := Except.error.inj h
      rfl
  · cases h

theorem kind_of_literalConstant {f : FieldRef} {s : String} (h : literalConstant f s = .error e) :
    e.kind = .typeCoercion := by
  unfold literalConstant at h
  split at h
  · obtain rfl := Except.error.inj h
    rfl
  · dsimp only at h
    split at h
    · cases h
    · obtain rfl := Except.error.inj h
      rfl

theorem kind_of_translate {f : FieldRef} {op : Option ComparisonOp} {literal : Literal}
    (h : translate f op literal = .error e) :
    e.kind = .typeCoercion ∨ e.kind = .unsupportedOperator := by
  obtain ⟨form, hform⟩ := exists_form_of_translate op literal
  rw [hform] at h
  cases form with
  | relation test s =>
    rw [ConditionForm.on, relation_eq, map_eq_error_iff] at h
    exact Or.inl (kind_of_literalConstant h)
  | order test s =>
    rw [ConditionForm.on, orderRelation_eq, map_eq_error_iff] at h
    exact Or.inl (kind_of_literalConstant h)
  | among | notAmong | textRelation => cases h
  | unsupported =>
    obtain rfl := Except.error.inj h
    exact Or.inr rfl
  | unsuited =>
    obtain rfl := Except.error.inj h
    exact Or.inl rfl

/-- A clause fails because of its path, or because of its comparison and literal. -/
theorem kind_of_clauseCondition {p : Parameter} {path : FieldPath} {c : FilterClause}
    (h : clauseCondition r p path c = .error e) :
    (e.kind = .unknownField ∨ e.kind = .unknownType) ∨
      e.kind = .typeCoercion ∨ e.kind = .unsupportedOperator := by
  rw [clauseCondition_eq, bind_eq_error_iff] at h
  rcases h with h | ⟨_, -, h⟩
  · exact Or.inl (Or.inl (kind_of_checkFilterable h))
  · rcases bind_eq_error_iff.1 h with h | ⟨f, -, h⟩
    · exact Or.inl (kind_of_resolvePath h)
    · exact Or.inr (kind_of_translate h)

end Failures

/-! ## The two policies -/

section Policies

variable {r : MemberResolver} {p : Parameter} {index : Nat}
  {clauses before rest : List FilterClause} {c : FilterClause} {defect : ClauseDefect}

theorem droppedIssues_eq_nil_iff :
    droppedIssues index clauses = [] ↔ ∀ c ∈ clauses, c.isValid = true := by
  induction clauses generalizing index with
  | nil => exact ⟨fun _ => nofun, fun _ => rfl⟩
  | cons c clauses ih =>
    rw [List.forall_mem_cons, ← c.defect?_eq_none_iff]
    cases hdefect : c.defect? with
    | none => rw [droppedIssues_cons_of_none hdefect, ih, and_iff_right rfl]
    | some defect =>
      rw [droppedIssues_cons_of_some hdefect]
      exact ⟨nofun, fun h => nomatch h.1⟩

/-- Under either policy a valid clause leaves its condition in front of the others. -/
theorem clauseConditions_cons_of_valid (policy : ClausePolicy) (hvalid : c.isValid = true)
    {path : FieldPath} (hpath : c.field = some path) :
    clauseConditions r policy p index (c :: clauses) =
      clauseCondition r p path c >>= fun e =>
        (clauseConditions r policy p (index + 1) clauses).map fun result =>
          ((c.conjunction, e) :: result.1, result.2) := by
  rw [clauseConditions, c.defect?_eq_none_iff.2 hvalid, hpath]
  exact bind_congr fun e => (map_eq_bind _ _).symm

theorem clauseConditions_reject_cons_of_defect (hdefect : c.defect? = some defect) :
    clauseConditions r .reject p index (c :: clauses) =
      .error (.ambiguousFilterClause index defect) := by
  rw [clauseConditions, hdefect]

/-- Clauses that are all valid are compiled alike. -/
theorem clauseConditions_reject_of_valid (h : ∀ c ∈ clauses, c.isValid = true) :
    clauseConditions r .reject p index clauses = clauseConditions r .drop p index clauses := by
  induction clauses generalizing index with
  | nil => rfl
  | cons c clauses ih =>
    obtain ⟨hc, hclauses⟩ := List.forall_mem_cons.1 h
    obtain ⟨path, hpath⟩ := c.exists_field_of_isValid hc
    rw [clauseConditions_cons_of_valid .reject hc hpath,
      clauseConditions_cons_of_valid .drop hc hpath, ih hclauses]

/-- A clause with a defect is rejected, unless one of the valid clauses in front of it fails. -/
theorem clauseConditions_reject_of_defect (hbefore : ∀ c ∈ before, c.isValid = true)
    (hdefect : c.defect? = some defect) :
    clauseConditions r .reject p index (before ++ c :: rest) =
      clauseConditions r .drop p index before >>= fun _ =>
        .error (.ambiguousFilterClause (index + before.length) defect) := by
  induction before generalizing index with
  | nil => exact clauseConditions_reject_cons_of_defect hdefect
  | cons b before ih =>
    obtain ⟨hb, hbefore⟩ := List.forall_mem_cons.1 hbefore
    obtain ⟨path, hpath⟩ := b.exists_field_of_isValid hb
    have hposition : index + 1 + before.length = index + (before.length + 1) := by omega
    rw [List.cons_append, clauseConditions_cons_of_valid .reject hb hpath,
      clauseConditions_cons_of_valid .drop hb hpath, ih hbefore, hposition, List.length_cons]
    cases clauseCondition r p path b with
    | error e => rfl
    | ok e => cases clauseConditions r .drop p (index + 1) before <;> rfl

/-- Clauses are all valid, or there is a first one that is not. -/
theorem valid_or_exists_defect (clauses : List FilterClause) :
    (∀ c ∈ clauses, c.isValid = true) ∨
      ∃ before c rest defect, clauses = before ++ c :: rest ∧
        (∀ c ∈ before, c.isValid = true) ∧ c.defect? = some defect := by
  induction clauses with
  | nil => exact Or.inl nofun
  | cons c clauses ih =>
    cases hdefect : c.defect? with
    | some defect => exact Or.inr ⟨[], c, clauses, defect, rfl, nofun, hdefect⟩
    | none =>
      have hc := c.defect?_eq_none_iff.1 hdefect
      rcases ih with hclauses | ⟨before, b, rest, defect, rfl, hbefore, hb⟩
      · exact Or.inl (List.forall_mem_cons.2 ⟨hc, hclauses⟩)
      · exact Or.inr ⟨c :: before, b, rest, defect, rfl, List.forall_mem_cons.2 ⟨hc, hbefore⟩, hb⟩

/-! ## Filters -/

theorem compileFilter_reject_of_valid (h : ∀ c ∈ clauses, c.isValid = true) :
    compileFilter r .reject p clauses = compileFilter r .drop p clauses := by
  rw [compileFilter, clauseConditions_reject_of_valid h, compileFilter]

theorem compileFilter_reject_of_defect (hbefore : ∀ c ∈ before, c.isValid = true)
    (hdefect : c.defect? = some defect) :
    compileFilter r .reject p (before ++ c :: rest) =
      compileFilter r .drop p before >>= fun _ =>
        .error (.ambiguousFilterClause before.length defect) := by
  rw [compileFilter, clauseConditions_reject_of_defect hbefore hdefect, Nat.zero_add, compileFilter]
  cases clauseConditions r .drop p 0 before <;> rfl

/-- Where clauses are dropped, a filter fails as its valid clauses do. -/
theorem compileFilter_drop_append_of_error {e : CompileError}
    (h : compileFilter r .drop p before = .error e) (rest : List FilterClause) :
    compileFilter r .drop p (before ++ rest) = .error e := by
  rw [compileFilter_drop, map_eq_error_iff] at h ⊢
  rw [validConditions] at h ⊢
  rw [List.filter_append, List.mapM_append, h, error_bind]

theorem kind_of_compileFilter_drop {e : CompileError}
    (h : compileFilter r .drop p clauses = .error e) : e.kind ≠ .ambiguousFilterClause := by
  rw [compileFilter_drop, map_eq_error_iff] at h
  obtain ⟨c, -, h⟩ := exists_of_mapM_eq_error h
  rw [map_eq_error_iff, FilterClause.condition] at h
  split at h
  · rcases kind_of_clauseCondition h with (h | h) | h | h <;> simp [h]
  · cases h

theorem issues_of_compileFilter_drop {f : CompiledFilter}
    (h : compileFilter r .drop p clauses = .ok f) :
    f.issues = [] ↔ ∀ c ∈ clauses, c.isValid = true := by
  rw [compileFilter_drop, map_eq_ok_iff] at h
  obtain ⟨conditions, -, rfl⟩ := h
  exact droppedIssues_eq_nil_iff

/-- A filter that rejects succeeds where one that drops has nothing to drop. -/
theorem compileFilter_reject_eq_ok_iff {f : CompiledFilter} :
    compileFilter r .reject p clauses = .ok f ↔
      compileFilter r .drop p clauses = .ok f ∧ f.issues = [] := by
  rcases valid_or_exists_defect clauses with hvalid | ⟨before, c, rest, defect, rfl, hbefore, hc⟩
  · rw [compileFilter_reject_of_valid hvalid]
    exact ⟨fun h => ⟨h, (issues_of_compileFilter_drop h).2 hvalid⟩, And.left⟩
  · rw [compileFilter_reject_of_defect hbefore hc]
    constructor
    · intro h
      obtain ⟨_, -, h⟩ := bind_eq_ok_iff.1 h
      cases h
    · rintro ⟨h, hissues⟩
      have hvalid := (issues_of_compileFilter_drop h).1 hissues c
        (List.mem_append_right _ (List.mem_cons_self ..))
      rw [c.defect?_eq_none_iff.2 hvalid] at hc
      cases hc

/-- What is rejected is the first clause that is not valid, if the clauses before it compile. -/
theorem compileFilter_reject_eq_ambiguous_iff :
    compileFilter r .reject p clauses = .error (.ambiguousFilterClause index defect) ↔
      (∃ c, clauses[index]? = some c ∧ c.defect? = some defect) ∧
      (∀ c ∈ clauses.take index, c.isValid = true) ∧
      ∃ f, compileFilter r .drop p (clauses.take index) = .ok f ∧ f.issues = [] := by
  constructor
  · intro h
    rcases valid_or_exists_defect clauses with hvalid | ⟨before, c, rest, found, rfl, hbefore, hc⟩
    · rw [compileFilter_reject_of_valid hvalid] at h
      exact absurd rfl (kind_of_compileFilter_drop h)
    · rw [compileFilter_reject_of_defect hbefore hc, bind_eq_error_iff] at h
      rcases h with h | ⟨f, hf, h⟩
      · exact absurd rfl (kind_of_compileFilter_drop h)
      · obtain ⟨rfl, rfl⟩ := CompileError.ambiguousFilterClause.inj (Except.error.inj h)
        rw [List.take_left]
        exact ⟨⟨c, by simp, hc⟩, hbefore, f, hf, (issues_of_compileFilter_drop hf).2 hbefore⟩
  · rintro ⟨⟨c, hget, hc⟩, hbefore, f, hf, -⟩
    obtain ⟨hlt, rfl⟩ := List.getElem?_eq_some_iff.1 hget
    have hsplit : clauses.take index ++ clauses[index] :: clauses.drop (index + 1) = clauses := by
      rw [← List.drop_eq_getElem_cons hlt, List.take_append_drop]
    rw [← hsplit, compileFilter_reject_of_defect hbefore hc, hf, ok_bind,
      List.length_take_of_le (Nat.le_of_lt hlt)]

/-- In any other way a filter that rejects fails as the one that drops. -/
theorem compileFilter_drop_of_reject_error {e : CompileError}
    (hkind : e.kind ≠ .ambiguousFilterClause)
    (h : compileFilter r .reject p clauses = .error e) :
    compileFilter r .drop p clauses = .error e := by
  rcases valid_or_exists_defect clauses with hvalid | ⟨before, c, rest, defect, rfl, hbefore, hc⟩
  · rwa [compileFilter_reject_of_valid hvalid] at h
  · rw [compileFilter_reject_of_defect hbefore hc, bind_eq_error_iff] at h
    rcases h with h | ⟨f, -, h⟩
    · exact compileFilter_drop_append_of_error h _
    · obtain rfl := Except.error.inj h
      exact absurd rfl hkind

/-- The policies agree on filters without defects: one that rejects succeeds where one that drops
has no issue, with the same predicate on its own parameter.  It rejects the first clause that is
not valid if the clauses in front of that one compile, and fails in any other way only as the
filter that drops does. -/
theorem compileFilter_policies {q : Parameter} (hty : q.ty = p.ty) (r : MemberResolver)
    (clauses : List FilterClause) :
    (∀ g, compileFilter r .reject q clauses = .ok g ↔
      ∃ f, compileFilter r .drop p clauses = .ok f ∧ f.issues = [] ∧ f.rename p q = g) ∧
    (∀ index defect,
      compileFilter r .reject q clauses = .error (.ambiguousFilterClause index defect) ↔
        (∃ c, clauses[index]? = some c ∧ c.defect? = some defect) ∧
        (∀ c ∈ clauses.take index, c.isValid = true) ∧
        ∃ f, compileFilter r .drop p (clauses.take index) = .ok f ∧ f.issues = []) ∧
    ∀ e, e.kind ≠ .ambiguousFilterClause → compileFilter r .reject q clauses = .error e →
      compileFilter r .drop p clauses = .error e := by
  rw [compileFilter_rename hty]
  refine ⟨fun g => ?_, fun index defect => ?_, fun e hkind h => ?_⟩
  · simp only [map_eq_ok_iff, compileFilter_reject_eq_ok_iff, and_assoc]
  · rw [map_eq_error_iff, compileFilter_reject_eq_ambiguous_iff]
  · exact compileFilter_drop_of_reject_error hkind (map_eq_error_iff.1 h)

end Policies

namespace Sample

/-- A parameter for a person. -/
def personElement (index : Nat) : Parameter := ⟨⟨index⟩, "p", personRecord⟩

/-- The filter on people, by a policy. -/
def filterBy (policy : ClausePolicy) (element : Parameter) (clauses : List FilterClause) :
    Except CompileError CompiledFilter :=
  compileFilter compiler.resolver policy element clauses

/-- A clause on a member that people do not have. -/
def heightClause : FilterClause := .ofText ⟨"height"⟩ .equals "1"

end Sample

open Sample in
/-- Of the clauses on people the first compiles alike, the second is rejected for its missing field,
and a clause on their height fails alike. -/
theorem compileFilter_policies_person :
    (personElement 1).ty = (personElement 0).ty ∧
    (∃ f, filterBy .drop (personElement 0) (personClauses.take 1) = .ok f ∧ f.issues = [] ∧
      filterBy .reject (personElement 1) (personClauses.take 1) =
        .ok (f.rename (personElement 0) (personElement 1))) ∧
    filterBy .reject (personElement 1) personClauses =
      .error (.ambiguousFilterClause 1 .missingField) ∧
    ∃ e, e.kind ≠ .ambiguousFilterClause ∧
      filterBy .reject (personElement 1) [heightClause] = .error e ∧
      filterBy .drop (personElement 0) [heightClause] = .error e := by
  have hty : (personElement 1).ty = (personElement 0).ty := rfl
  obtain ⟨hok, -, -⟩ := compileFilter_policies hty compiler.resolver (personClauses.take 1)
  obtain ⟨-, hambiguous, -⟩ := compileFilter_policies hty compiler.resolver personClauses
  obtain ⟨-, -, hother⟩ := compileFilter_policies hty compiler.resolver [heightClause]
  have hvalid : ∀ c ∈ personClauses.take 1, c.isValid = true := by decide
  refine ⟨hty, ⟨_, rfl, rfl, (hok _).2 ⟨_, rfl, rfl, rfl⟩⟩, ?_, _, ?_, rfl, ?_⟩
  · exact (hambiguous 1 .missingField).2 ⟨⟨_, rfl, rfl⟩, hvalid, _, rfl, rfl⟩
  · exact nofun
  · exact hother _ nofun rfl

end TypedQuery
