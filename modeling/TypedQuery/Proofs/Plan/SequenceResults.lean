import TypedQuery.Proofs.Eval.Extension
import TypedQuery.Proofs.Eval.Inlining
import TypedQuery.Proofs.Plan.Mutation
import TypedQuery.Proofs.Plan.Openness

/-!
# Mutations with sequences for results

Where the query of a mutation has a sequence type and gives a list, a selection on it is made of
every element of that list.  The form of the query decides before its type does, and a query that
ends in picking an element is a pick even if what it picks is a sequence.  There the selection goes
in front of the operator as ever, and is made of each of the sequences that it picks from as a
whole.  `rewriteMutation_of_isSequence` has both.
-/

namespace TypedQuery

/-! ## Scopes of a query and of a selection on it -/

theorem Scope.Le.bindOption {σ τ : Scope} (h : σ.Le τ) (p : Option Parameter) (v : Value) :
    (σ.bindOption p v).Le (τ.bindOption p v) := by
  cases p with
  | none => exact h
  | some p => exact h.bind p v

section Alone

variable {context : Option Parameter} {e : Expr} {root v : Value}

/-- A query that runs alone gives the same value where the constants of a selection are bound. -/
theorem Selection.eval_scope_of_execute (s : Selection)
    (h : (⟨context, e, []⟩ : BoundExpr).execute root = .ok v) :
    e.eval (s.scope context root) = .ok v := by
  have hle : ((⟨context, e, []⟩ : BoundExpr).scope root).Le (s.scope context root) := by
    rw [BoundExpr.scope_eq]
    exact (Scope.nil_le _).bindOption context root
  exact Expr.eval_extends hle v (BoundExpr.execute_eq_ok_iff.1 h).2

/-- A query that runs alone is closed among the constants of a selection. -/
theorem Selection.mem_closedIds_of_execute (s : Selection)
    (h : (⟨context, e, []⟩ : BoundExpr).execute root = .ok v) {id : ParamId}
    (hid : id ∈ e.freeIds) : id ∈ s.closedIds context := by
  have hclosed := BoundExpr.isClosed_of_execute h id hid
  refine List.mem_append_left _ ?_
  simpa [BoundExpr.closedIds] using hclosed

end Alone

/-! ## Queries of a sequence type -/

/-- Whether the expression is a call that picks an element. -/
def Expr.isPick : Expr → Bool
  | .call op _ _ => op.isTerminal
  | _ => false

namespace MutationShape

variable {e : Expr}

theorem classifyOther_of_isSequence (h : e.ty.isSequence = true) :
    classifyOther e = .sequence := if_pos h

theorem classify_of_isPick_eq_false (h : e.isPick = false) : classify e = classifyOther e := by
  cases e with
  | call op source args => exact if_neg (Bool.eq_false_iff.1 h)
  | _ => rfl

/-- A query that picks an element is one of that form or of none. -/
theorem classify_of_isPick (h : e.isPick = true) (hshape : classify e ≠ .unsupported) :
    ∃ op source filter, classify e = .terminal op source filter := by
  cases e with
  | call op source args =>
    have hop : op.isTerminal = true := h
    match args with
    | [] => exact ⟨op, source, none, if_pos hop⟩
    | [e] =>
      cases e with
      | lambda params body => exact ⟨op, source, some ⟨params, body⟩, if_pos hop⟩
      | _ => exact absurd (if_pos hop) hshape
    | e :: _ :: _ => cases e <;> exact absurd (if_pos hop) hshape
  | _ => cases h

end MutationShape

/-! ## The result -/

/-- A selection on a query of a sequence type that gives a list is made of the elements of that list
one by one, unless the query ends in picking an element.  If it does, the selection is made of
everything that is picked from, and one of those selections is picked. -/
theorem rewriteMutation_of_isSequence {f : Lambda} {s : Selection} {root : Value} {scope : Scope}
    {items : List Value} (hscope : scope = s.scope f.params[0]? root)
    (hty : f.body.ty.isSequence = true) (hshape : MutationShape.classify f.body ≠ .unsupported)
    (hselection : s.IsClosed)
    (hbody : (⟨f.params[0]?, f.body, []⟩ : BoundExpr).execute root >>= Value.sequence = .ok items)
    (hselect : ∀ v ∈ items, ∃ w, s.lambda.apply scope v = .ok w) :
    ∃ b ws, rewriteMutation (.query f) s = .ok b ∧
      items.mapM (s.lambda.apply scope) = .ok ws ∧
      (f.body.isPick = false → b.execute root = .ok (.list ws)) ∧
      ∀ op source filter, MutationShape.classify f.body = .terminal op source filter →
        b.execute root = (filteredSource source filter).items scope >>= fun kept =>
          kept.mapM (s.lambda.apply scope) >>= fun selected => op.run selected .missing := by
  obtain ⟨v, hv, hitems⟩ := bind_eq_ok_iff.1 hbody
  subst hscope
  have hclosed : ∀ id ∈ f.body.freeIds, id ∈ s.closedIds f.params[0]? :=
    fun id hid => s.mem_closedIds_of_execute hv hid
  have hclosed' : ∀ id ∈ s.lambda.expr.freeIds, id ∈ s.closedIds f.params[0]? :=
    fun id hid => List.mem_append_right _ (hselection.mem_constants hid)
  have heval : f.body.items (s.scope f.params[0]? root) = .ok items := by
    rw [Expr.items, s.eval_scope_of_execute hv]
    exact hitems
  cases hpick : f.body.isPick with
  | false =>
    have hsequence : MutationShape.classify f.body = .sequence := by
      rw [MutationShape.classify_of_isPick_eq_false hpick,
        MutationShape.classifyOther_of_isSequence hty]
    obtain ⟨b, ws, hb, hws, hexecute⟩ :=
      rewriteMutation_of_sequence hclosed hclosed' hsequence heval hselect
    refine ⟨b, ws, hb, hws, fun _ => hexecute, ?_⟩
    intro op source filter hterminal
    rw [hsequence] at hterminal
    cases hterminal
  | true =>
    obtain ⟨op, source, filter, hterminal⟩ := MutationShape.classify_of_isPick hpick hshape
    obtain ⟨ws, hws⟩ := exists_mapM_eq_ok hselect
    have hrewrite := rewriteQuery_of_terminal (s := s) hterminal
    refine ⟨_, ws, hrewrite, hws, ?_, ?_⟩
    · intro hfalse
      cases hfalse
    · intro op' source' filter' hterminal'
      rw [hterminal] at hterminal'
      cases hterminal'
      rw [(isClosed_of_rewriteQuery hclosed hclosed' hrewrite).execute_eq_eval]
      show (Expr.call op (s.onEach (filteredSource source filter)) []).eval _ = _
      rw [Expr.eval_call_eq_bind, s.items_onEach, bind_assoc]
      rfl

namespace Sample

/-- The type of lists of teams, each of which is a list of people. -/
def teamsType : ExprType := .sequence (.sequence (.object "Person"))

/-- A directory with one team, of two people. -/
def teamDirectory : Value := .ofFields [("teams", .list [.list pair])]

/-- The first team. -/
def firstTeam : Lambda :=
  ⟨[pairParam], .call .first (.member pairParam.expr "teams" teamsType) []⟩

/-- The first two people of the first team. -/
def firstTwoOfTeam : Lambda := ⟨[pairParam], .call .take firstTeam.body [.ofValue (.int 2)]⟩

/-- The name of one person. -/
def oneName : Selection :=
  let person : Parameter := ⟨⟨2⟩, "p", .object "Person"⟩
  ⟨person, .member person.expr "name" (.scalar .string), []⟩

theorem isClosed_oneName : oneName.IsClosed := by
  intro p hp
  obtain rfl : p = oneName.param := List.mem_singleton.1 hp
  exact Or.inl rfl

end Sample

open Sample in
/-- The names of the people who are taken from the first team are selected one by one. -/
theorem rewriteMutation_firstTwoOfTeam :
    firstTwoOfTeam.body.ty.isSequence = true ∧
    MutationShape.classify firstTwoOfTeam.body ≠ .unsupported ∧ oneName.IsClosed ∧
    (⟨firstTwoOfTeam.params[0]?, firstTwoOfTeam.body, []⟩ : BoundExpr).execute teamDirectory >>=
      Value.sequence = .ok pair ∧
    ∃ b, rewriteMutation (.query firstTwoOfTeam) oneName = .ok b ∧
      b.execute teamDirectory = .ok (.list [.string "Ada", .string "Linus"]) := by
  have hshape : MutationShape.classify firstTwoOfTeam.body ≠ .unsupported := nofun
  have hbody : (⟨firstTwoOfTeam.params[0]?, firstTwoOfTeam.body, []⟩ : BoundExpr).execute
      teamDirectory >>= Value.sequence = .ok pair := rfl
  have hselect : ∀ v ∈ pair, ∃ w, oneName.lambda.apply
      (oneName.scope firstTwoOfTeam.params[0]? teamDirectory) v = .ok w :=
    List.forall_mem_cons.2 ⟨⟨_, rfl⟩, List.forall_mem_cons.2 ⟨⟨_, rfl⟩, nofun⟩⟩
  obtain ⟨b, ws, hb, hws, hexecute, -⟩ :=
    rewriteMutation_of_isSequence rfl rfl hshape isClosed_oneName hbody hselect
  refine ⟨rfl, hshape, isClosed_oneName, hbody, b, hb, ?_⟩
  rw [hexecute rfl, ← Except.ok.inj hws]
  rfl

open Sample in
/-- Of the first team as a whole no name can be selected, although each of its members has one. -/
theorem execute_firstTeam :
    firstTeam.body.ty.isSequence = true ∧
    MutationShape.classify firstTeam.body ≠ .unsupported ∧
    oneName.body.freeParameters = [oneName.param] ∧
    (⟨firstTeam.params[0]?, firstTeam.body, []⟩ : BoundExpr).execute teamDirectory =
      .ok (.list pair) ∧
    pair.mapM (oneName.lambda.apply (oneName.scope firstTeam.params[0]? teamDirectory)) =
      .ok [.string "Ada", .string "Linus"] ∧
    ∃ b, rewriteMutation (.query firstTeam) oneName = .ok b ∧
      outcome (b.execute teamDirectory) = .error .typeMismatch :=
  ⟨rfl, nofun, rfl, rfl, rfl, _, rfl, rfl⟩

end TypedQuery
