import TypedQuery.Proofs.Plan.SequenceResults

/-!
# Values, constants and members of constants

A mutation may give its value as it is, or as a query that is a constant, or as one that follows
the members of a constant.  A selection is put on the three by different ways: by the type that the
value shows, by the type of the constant, and by the type that is declared for the last member,
upon which the members are followed at once or when the selection is run.  All of them come to the
same expression, up to its context, which a value does not have
(`rewriteQuery_ofValue`, `rewriteQuery_of_isRootedAtConstant`).  A context that a closed selection
does not read makes no difference; `rewriteMutation_materialized` puts this together.
-/

namespace TypedQuery

theorem ExprType.isSequence_ofValue_iff {v : Value} :
    (ofValue v).isSequence = true ↔ (∃ items, v = .list items) ∨ ∃ texts, v = .stringArray texts := by
  cases v with
  | list items => cases items <;> simp [ofValue, isSequence]
  | _ => simp [ofValue, isSequence]

/-! ## Closed expressions -/

namespace Expr

variable {e : Expr} {v : Value}

/-- A closed expression has its value in every scope. -/
theorem eval_of_evalClosed (h : e.evalClosed = .ok v) (scope : Scope) : e.eval scope = .ok v := by
  unfold evalClosed at h
  split at h
  · cases h
  · exact eval_extends (Scope.nil_le scope) v h

theorem not_mem_freeIds_of_evalClosed (h : e.evalClosed = .ok v) (id : ParamId) :
    id ∉ e.freeIds := by
  unfold evalClosed at h
  split at h
  · cases h
  · rename_i hfree
    exact freeParameters_eq_nil_iff.1 hfree id

end Expr

/-! ## A context that is not asked for -/

namespace BoundExpr

variable {b : BoundExpr} {c : Parameter} {root : Value}

theorem IsClosed.over (h : b.IsClosed) (hcontext : b.context = none) (c : Parameter) :
    ({ b with context := some c } : BoundExpr).IsClosed := by
  intro id hid
  have hclosed := h id hid
  rw [closedIds, hcontext] at hclosed
  exact List.mem_append_right _ (by simpa using hclosed)

/-- What is closed by its constants alone keeps its value over a context that is none of them. -/
theorem IsClosed.extends_execute_over (h : b.IsClosed) (hcontext : b.context = none)
    (hc : c.id ∉ b.constants.map (·.1.id)) (root : Value) :
    Extends (b.execute root) ({ b with context := some c }.execute root) := by
  rw [h.execute_eq_eval, (h.over hcontext c).execute_eq_eval, hcontext]
  have hnone : (Scope.ofList b.constants).get? c.id = none := by
    rw [Scope.ofList_eq_bindAll, Scope.get?_bindAll_of_notMem hc]
    rfl
  exact Expr.eval_extends (Scope.le_bind hnone root)

/-- It comes out the same, in value or in failure, if its lambdas have one parameter each or declare
others than the context. -/
theorem IsClosed.execute_over_eq (h : b.IsClosed) (hcontext : b.context = none)
    (hc : c.id ∉ b.constants.map (·.1.id))
    (hread : b.expression.isUnary = true ∨ b.expression.declares c.id = false) (root : Value) :
    b.execute root = { b with context := some c }.execute root := by
  have hne : ∀ id ∈ b.expression.freeIds, id ≠ c.id := by
    rintro _ hid rfl
    have hclosed := h _ hid
    rw [closedIds, hcontext] at hclosed
    exact hc (by simpa using hclosed)
  rw [h.execute_eq_eval, (h.over hcontext c).execute_eq_eval, hcontext]
  rcases hread with hunary | hdeclares
  · exact Expr.eval_congr hunary fun id hid => (Scope.get?_bind_of_ne (hne id hid)).symm
  · refine Expr.eval_eq_of_mentions fun id hid => (Scope.get?_bind_of_ne ?_).symm
    rintro rfl
    exact hne _ (Expr.mem_freeIds_of_mentions hid hdeclares) rfl

end BoundExpr

/-! ## Selections on values -/

section Rewritten

variable {s : Selection} {v : Value} {c : Parameter} {params : List Parameter}

theorem context_rewriteValue (v : Value) (s : Selection) : (rewriteValue v s).context = none := by
  unfold rewriteValue
  split <;> rfl

theorem not_mem_constants_rewriteValue (hparam : c.id ≠ s.param.id)
    (hconstants : c.id ∉ s.constants.map (·.1.id)) :
    c.id ∉ (rewriteValue v s).constants.map (·.1.id) := by
  unfold rewriteValue
  split
  · exact hconstants
  · simpa [Selection.onValue] using ⟨hparam, by simpa using hconstants⟩

theorem isUnary_rewriteValue (h : s.body.isUnary = true) :
    (rewriteValue v s).expression.isUnary = true := by
  unfold rewriteValue
  split
  · simpa [Selection.onEach, Expr.ofValue, Lambda.expr, Selection.lambda] using h
  · exact h

theorem declares_rewriteValue (hparam : c.id ≠ s.param.id) (h : s.body.declares c.id = false) :
    (rewriteValue v s).expression.declares c.id = false := by
  unfold rewriteValue
  split
  · simpa [Selection.onEach, Expr.ofValue, Lambda.expr, Selection.lambda, hparam.symm] using h
  · exact h

/-- A constant is selected from as its value is, over the context. -/
theorem rewriteQuery_ofValue (v : Value) (s : Selection) (c : Parameter) (params : List Parameter) :
    rewriteQuery ⟨c :: params, .ofValue v⟩ s = .ok { rewriteValue v s with context := some c } := by
  unfold rewriteValue
  split
  · rename_i hty
    exact rewriteQuery_of_sequence (MutationShape.classifyOther_of_isSequence hty)
  · rename_i hty
    have hshape : MutationShape.classify (.ofValue v) = .constant v := if_neg hty
    rw [rewriteQuery, hshape]
    rfl

/-- Where the members of a constant lead to a value, the selection is put on the members if their
type is one of sequences, and on the value if not. -/
theorem rewriteQuery_of_isRootedAtConstant {chain : Expr}
    (hchain : MutationShape.isRootedAtConstant chain = true) (hv : chain.evalClosed = .ok v) :
    rewriteQuery ⟨c :: params, chain⟩ s =
      .ok (if chain.ty.isSequence then ⟨some c, s.onEach chain, s.constants⟩
        else s.onValue (some c) v) := by
  have hpick : chain.isPick = false := by
    cases chain with
    | member target name t => rfl
    | const w t => rfl
    | _ => cases hchain
  have hclassify := MutationShape.classify_of_isPick_eq_false hpick
  cases hty : chain.ty.isSequence with
  | true =>
    have hshape : MutationShape.classify chain = .sequence :=
      hclassify.trans (MutationShape.classifyOther_of_isSequence hty)
    rw [if_pos rfl]
    exact rewriteQuery_of_sequence hshape
  | false =>
    cases chain with
    | member target name t =>
      have hshape : MutationShape.classify (.member target name t) = .memberOnConstant := by
        rw [hclassify, MutationShape.classifyOther, hty]
        exact if_pos hchain
      rw [rewriteQuery, hshape]
      show (evaluated (Expr.member target name t).evalClosed >>= fun w => .ok (s.onValue _ w)) = _
      rw [hv]
      rfl
    | const w t =>
      obtain rfl : w = v := Except.ok.inj hv
      have hshape : MutationShape.classify (.const w t) = .constant w := by
        rw [hclassify, MutationShape.classifyOther, hty]
        rfl
      rw [rewriteQuery, hshape]
      rfl
    | _ => cases hchain

/-- The items of a list are selected from in the same way where the list is still to be found. -/
theorem execute_onEach_of_evalClosed {chain : Expr} (hs : s.IsClosed)
    (hv : chain.evalClosed = .ok v) (context : Option Parameter) (root : Value) :
    (⟨context, s.onEach chain, s.constants⟩ : BoundExpr).execute root =
      (⟨context, s.onEach (.ofValue v), s.constants⟩ : BoundExpr).execute root := by
  have hclosed : ∀ source : Expr, (∀ id, id ∉ source.freeIds) →
      (⟨context, s.onEach source, s.constants⟩ : BoundExpr).IsClosed := by
    intro source hsource id hid
    refine (Selection.mem_freeIds_onEach hid).elim (absurd · (hsource id)) fun hid => ?_
    exact List.mem_append_right _ (hs.mem_constants hid)
  rw [(hclosed chain (Expr.not_mem_freeIds_of_evalClosed hv)).execute_eq_eval,
    (hclosed (.ofValue v) fun _ => Expr.mem_freeIds_const).execute_eq_eval]
  show (s.onEach chain).eval _ = (s.onEach (.ofValue v)).eval _
  rw [s.eval_onEach, s.eval_onEach, Expr.items, Expr.eval_of_evalClosed hv]
  rfl

end Rewritten

/-- A selection on a value, on a constant of it, and on members of a constant that lead to it: all
three succeed, and the last two run to the same outcome.  The first one, which has no context, gives
no other value than they do, and runs to the very same outcome if the lambdas of the selection have
one parameter each or declare others than the context. -/
theorem rewriteMutation_materialized {v : Value} {s : Selection} {c : Parameter}
    {params : List Parameter} {chain : Expr} (hs : s.IsClosed) (hparam : c.id ≠ s.param.id)
    (hconstants : c.id ∉ s.constants.map (·.1.id))
    (hchain : MutationShape.isRootedAtConstant chain = true) (hv : chain.evalClosed = .ok v)
    (hty : chain.ty.isSequence = true ↔
      (∃ items, v = .list items) ∨ ∃ texts, v = .stringArray texts) :
    ∃ b b₁ b₂, rewriteMutation (.value v) s = .ok b ∧
      rewriteMutation (.query ⟨c :: params, .ofValue v⟩) s = .ok b₁ ∧
      rewriteMutation (.query ⟨c :: params, chain⟩) s = .ok b₂ ∧
      ∀ root, b₁.execute root = b₂.execute root ∧ Extends (b.execute root) (b₁.execute root) ∧
        (s.body.isUnary = true ∨ s.body.declares c.id = false →
          b.execute root = b₁.execute root) := by
  have hclosed := hs.rewriteValue v
  have hcontext := context_rewriteValue v s
  have hc : c.id ∉ (rewriteValue v s).constants.map (·.1.id) :=
    not_mem_constants_rewriteValue hparam hconstants
  refine ⟨_, _, _, rfl, rewriteQuery_ofValue v s c params,
    rewriteQuery_of_isRootedAtConstant hchain hv, fun root => ⟨?_, ?_, fun hread => ?_⟩⟩
  · rw [← ExprType.isSequence_ofValue_iff] at hty
    cases hsequence : (ExprType.ofValue v).isSequence with
    | true =>
      rw [if_pos (hty.2 hsequence), rewriteValue, if_pos hsequence]
      exact (execute_onEach_of_evalClosed hs hv (some c) root).symm
    | false =>
      have hfalse : ¬ (ExprType.ofValue v).isSequence = true := Bool.eq_false_iff.1 hsequence
      rw [if_neg (mt hty.1 hfalse), rewriteValue, if_neg hfalse]
      rfl
  · exact hclosed.extends_execute_over hcontext hc root
  · refine hclosed.execute_over_eq hcontext hc ?_ root
    exact hread.imp isUnary_rewriteValue (declares_rewriteValue hparam)

namespace Sample

/-- The members of a team that is given as it is. -/
def membersOfTeam : Expr :=
  .member (.ofValue (.ofFields [("members", .list pair)])) "members" (.sequence (.object "Person"))

/-- The parameter for whether a club is open. -/
def openParam : Parameter := ⟨⟨3⟩, "open", .scalar .boolean⟩

/-- The selection of the first age for which the club is open, by a test of an age and of that. -/
def ageIfOpen : Selection :=
  ⟨⟨⟨4⟩, "id", .scalar .int⟩,
    .call .first (.ofValue (.list [.int 36])) [.lambda [ageParam, openParam] openParam.expr], []⟩

end Sample

open Sample in
/-- The names of two people are selected, whether the two are given, or constant, or members of a
constant team. -/
theorem rewriteMutation_membersOfTeam :
    oneName.IsClosed ∧ pairParam.id ≠ oneName.param.id ∧
    pairParam.id ∉ oneName.constants.map (·.1.id) ∧
    MutationShape.isRootedAtConstant membersOfTeam = true ∧
    membersOfTeam.evalClosed = .ok (.list pair) ∧
    (membersOfTeam.ty.isSequence = true ↔
      (∃ items, Value.list pair = .list items) ∨ ∃ texts, Value.list pair = .stringArray texts) ∧
    oneName.body.isUnary = true ∧
    ∃ b b₁ b₂, rewriteMutation (.value (.list pair)) oneName = .ok b ∧
      rewriteMutation (.query ⟨[pairParam], .ofValue (.list pair)⟩) oneName = .ok b₁ ∧
      rewriteMutation (.query ⟨[pairParam], membersOfTeam⟩) oneName = .ok b₂ ∧
      ∀ root, b.execute root = b₁.execute root ∧ b₁.execute root = b₂.execute root := by
  have hparam : pairParam.id ≠ oneName.param.id := by decide
  have hconstants : pairParam.id ∉ oneName.constants.map (·.1.id) := nofun
  have hmembers : membersOfTeam.evalClosed = .ok (.list pair) := rfl
  have hty : membersOfTeam.ty.isSequence = true ↔
      (∃ items, Value.list pair = .list items) ∨ ∃ texts, Value.list pair = .stringArray texts :=
    iff_of_true rfl (Or.inl ⟨pair, rfl⟩)
  obtain ⟨b, b₁, b₂, hb, hb₁, hb₂, hexecute⟩ :=
    @rewriteMutation_materialized _ _ _ [] _ isClosed_oneName hparam hconstants rfl hmembers hty
  refine ⟨isClosed_oneName, hparam, hconstants, rfl, hmembers, hty, rfl, b, b₁, b₂, hb, hb₁, hb₂,
    fun root => ?_⟩
  obtain ⟨hchain, -, hvalue⟩ := hexecute root
  exact ⟨hvalue (Or.inl rfl), hchain⟩

open Sample in
/-- A test of two parameters, the second of which is the context, finds the age over a context and
not on a value. -/
theorem execute_ageIfOpen :
    ageIfOpen.body.freeParameters = [] ∧ openParam.id ≠ ageIfOpen.param.id ∧
    ageIfOpen.constants = [] ∧
    ∃ b b₁ b₂, rewriteMutation (.value (.int 7)) ageIfOpen = .ok b ∧
      rewriteMutation (.query ⟨[openParam], .ofValue (.int 7)⟩) ageIfOpen = .ok b₁ ∧
      rewriteMutation (.query ⟨[openParam],
        .member (.ofValue (.ofFields [("id", .int 7)])) "id" (.scalar .int)⟩) ageIfOpen = .ok b₂ ∧
      outcome (b.execute (.boolean true)) = .error .unbound ∧
      b₁.execute (.boolean true) = .ok (.int 36) ∧ b₂.execute (.boolean true) = .ok (.int 36) :=
  ⟨rfl, by decide, rfl, _, _, _, rfl, rfl, rfl, rfl, rfl, rfl⟩

end TypedQuery
