import TypedQuery.Plan.Mutation
import TypedQuery.Proofs.Eval.Bound
import TypedQuery.Proofs.Eval.Sequence

/-!
# What a selection on a mutation's result means

A selection is put on every element of a sequence, or in front of the operator that picks one, and
an inline filter of that operator becomes a filter of its own.  Picking does not look at the
elements, so it commutes with the selection (`SequenceOp.run_map_missing`):
`rewriteMutation_execute` says that the selection is made of exactly the elements that the mutation
gives.
-/

namespace TypedQuery

/-! ## Picking an element -/

namespace SequenceOp

variable {op : SequenceOp}

/-- What an operator that picks an element gives where there is none. -/
def emptyOutcome (op : SequenceOp) : Except EvalError Value :=
  match op with
  | firstOrDefault | lastOrDefault => .ok .null
  | op => .error (.emptySequence op)

/-- Picking with a filter is picking of what the filter leaves. -/
theorem run_of_isTerminal (h : op.isTerminal = true) (items : List Value) (arg : Operand) :
    op.run items arg = candidates op arg items >>= fun kept => op.run kept .missing := by
  cases op with
  | first | firstOrDefault | last | lastOrDefault =>
    unfold run
    cases candidates _ arg items <;> rfl
  | _ => cases h

theorem run_nil_missing (h : op.isTerminal = true) : op.run [] .missing = op.emptyOutcome := by
  cases op with
  | first | firstOrDefault | last | lastOrDefault => rfl
  | _ => cases h

/-- Of a list that is not empty one element is picked, whatever the elements are. -/
theorem run_map_missing (h : op.isTerminal = true) {items : List Value} (hitems : items ≠ []) :
    ∃ v ∈ items, op.run items .missing = .ok v ∧
      ∀ g : Value → Value, op.run (items.map g) .missing = .ok (g v) := by
  have hhead : items.head? = some (items.head hitems) := List.head?_eq_some_head hitems
  have hlast : items.getLast? = some (items.getLast hitems) := List.getLast?_eq_some_getLast hitems
  cases op with
  | first | firstOrDefault =>
    refine ⟨items.head hitems, List.head_mem hitems, ?_, fun g => ?_⟩
    · simp [run, candidates, hhead, pure, Except.pure]
    · simp [run, candidates, hhead, pure, Except.pure]
  | last | lastOrDefault =>
    refine ⟨items.getLast hitems, List.getLast_mem hitems, ?_, fun g => ?_⟩
    · simp [run, candidates, hlast, pure, Except.pure]
    · simp [run, candidates, hlast, pure, Except.pure]
  | _ => cases h

end SequenceOp

/-! ## Shapes -/

namespace MutationShape

theorem classifyOther_ne_terminal {e source : Expr} {op : SequenceOp} {filter : Option Lambda} :
    classifyOther e ≠ .terminal op source filter := by
  unfold classifyOther
  split
  · nofun
  · split
    · split <;> nofun
    · nofun
    · nofun

/-- A query that picks an element is a call of the operator. -/
theorem classify_eq_terminal {e source : Expr} {op : SequenceOp} {filter : Option Lambda}
    (h : classify e = .terminal op source filter) :
    op.isTerminal = true ∧ e = .call op source (filter.toList.map Lambda.expr) := by
  unfold classify at h
  split at h
  · split at h
    · rename_i hterminal
      split at h
      · cases h
        exact ⟨hterminal, rfl⟩
      · cases h
        exact ⟨hterminal, rfl⟩
      · cases h
    · exact absurd h classifyOther_ne_terminal
  · exact absurd h classifyOther_ne_terminal

end MutationShape

/-- Whether an inline filter keeps an element; without a filter all are kept. -/
def keeps (filter : Option Lambda) (scope : Scope) (v : Value) : Except EvalError Bool :=
  match filter with
  | some p => p.apply scope v >>= Value.truth
  | none => .ok true

section Kept

variable {test : Value → Except EvalError Bool} {items : List Value}

/-- A test that succeeds on every item keeps those of which it is true. -/
theorem exists_filterM_eq_ok (h : ∀ v ∈ items, ∃ t, test v = .ok t) :
    ∃ kept, items.filterM test = .ok kept ∧ ∀ v, v ∈ kept ↔ v ∈ items ∧ test v = .ok true := by
  induction items with
  | nil => exact ⟨[], rfl, by simp⟩
  | cons v items ih =>
    obtain ⟨t, ht⟩ := h v (List.mem_cons_self ..)
    obtain ⟨kept, hkept, hmem⟩ := ih fun w hw => h w (List.mem_cons_of_mem _ hw)
    refine ⟨if t then v :: kept else kept, ?_, fun w => ?_⟩
    · rw [filterM_cons, ht, ok_bind, hkept, map_ok]
    · cases t with
      | true => grind
      | false => grind

end Kept

/-! ## Selections -/

namespace Selection

variable {s : Selection} {context : Option Parameter} {root : Value}

/-- The scope of a mutation's query and of a selection on it. -/
def scope (s : Selection) (context : Option Parameter) (root : Value) : Scope :=
  (Scope.ofList s.constants).bindOption context root

/-- The identities that have a value in that scope. -/
def closedIds (s : Selection) (context : Option Parameter) : List ParamId :=
  context.toList.map Parameter.id ++ s.constants.map (·.1.id)

/-- A selection is made of every item. -/
theorem eval_onEach (s : Selection) (source : Expr) (scope : Scope) :
    (s.onEach source).eval scope = source.items scope >>= fun items =>
      (items.mapM (s.lambda.apply scope)).map Value.list := by
  rw [onEach, Expr.eval_call_eq_bind]
  congr 1
  funext items
  exact run_select _ _

theorem items_onEach (s : Selection) (source : Expr) (scope : Scope) :
    (s.onEach source).items scope =
      source.items scope >>= fun items => items.mapM (s.lambda.apply scope) := by
  rw [Expr.items, eval_onEach, bind_assoc]
  congr 1
  funext items
  cases items.mapM (s.lambda.apply scope) <;> rfl

theorem mem_freeIds_onEach {source : Expr} {id : ParamId}
    (h : id ∈ (s.onEach source).freeIds) : id ∈ source.freeIds ∨ id ∈ s.lambda.expr.freeIds := by
  rw [onEach, Expr.mem_freeIds_call] at h
  refine h.imp_right ?_
  rintro ⟨e, he, hid⟩
  rwa [List.mem_singleton.1 he] at hid

end Selection

/-! ## Filters in the call -/

section Filter

variable {op : SequenceOp} {source : Expr} {filter : Option Lambda}

/-- The source of a call with an inline filter put on it. -/
def filteredSource (source : Expr) (filter : Option Lambda) : Expr :=
  match filter with
  | some p => .call .filter source [p.expr]
  | none => source

theorem candidates_eq_filterM (op : SequenceOp) (filter : Option Lambda) (scope : Scope)
    (items : List Value) :
    candidates op (Expr.operand scope (filter.toList.map Lambda.expr)) items =
      items.filterM (keeps filter scope) := by
  cases filter with
  | none => exact (filterM_true items).symm
  | some p => exact keepItems_eq_filterM _ items

/-- A filter of its own keeps what the inline one does. -/
theorem items_filteredSource (harity : ∀ p ∈ filter, p.params.length = 1) (source : Expr)
    (scope : Scope) :
    (filteredSource source filter).items scope =
      source.items scope >>= fun items => items.filterM (keeps filter scope) := by
  cases filter with
  | none =>
    rw [filteredSource]
    cases source.items scope with
    | error err => rfl
    | ok items => exact (filterM_true items).symm
  | some p =>
    have hrun (items : List Value) : SequenceOp.filter.run items (Expr.operand scope [p.expr]) =
        (items.filterM (keeps (some p) scope)).map Value.list := by
      rw [Lambda.expr, Expr.operand_lambda, harity p rfl]
      exact run_filter _ _
    rw [filteredSource, Expr.items, Expr.eval_call_eq_bind, bind_assoc]
    congr 1
    funext items
    rw [hrun]
    cases items.filterM (keeps (some p) scope) <;> rfl

/-- The original query picks of what the filter keeps, whatever the parameters of the filter are. -/
theorem eval_call_of_isTerminal (hterminal : op.isTerminal = true) (filter : Option Lambda)
    (source : Expr) (scope : Scope) :
    (Expr.call op source (filter.toList.map Lambda.expr)).eval scope =
      source.items scope >>= fun items =>
        items.filterM (keeps filter scope) >>= fun kept => op.run kept .missing := by
  rw [Expr.eval_call_eq_bind]
  congr 1
  funext items
  rw [SequenceOp.run_of_isTerminal hterminal, candidates_eq_filterM]

theorem mem_freeIds_filteredSource {id : ParamId}
    (h : id ∈ (filteredSource source filter).freeIds) :
    id ∈ (Expr.call op source (filter.toList.map Lambda.expr)).freeIds := by
  rw [Expr.mem_freeIds_call]
  cases filter with
  | none => exact Or.inl h
  | some p => exact Expr.mem_freeIds_call.1 h

end Filter

/-! ## The result -/

theorem rewriteQuery_of_sequence {f : Lambda} {s : Selection}
    (h : MutationShape.classify f.body = .sequence) :
    rewriteQuery f s = .ok ⟨f.params[0]?, s.onEach f.body, s.constants⟩ := by
  rw [rewriteQuery, h]

theorem rewriteQuery_of_terminal {f : Lambda} {s : Selection} {op : SequenceOp} {source : Expr}
    {filter : Option Lambda} (h : MutationShape.classify f.body = .terminal op source filter) :
    rewriteQuery f s = .ok ⟨f.params[0]?, .call op (s.onEach (filteredSource source filter)) [],
      s.constants⟩ := by
  rw [rewriteQuery, h]
  cases filter <;> rfl

/-- A selection on one value is closed. -/
theorem isClosed_onValue {s : Selection} {context : Option Parameter}
    (hselection : ∀ id ∈ s.lambda.expr.freeIds, id ∈ s.closedIds context) (v : Value) :
    (s.onValue context v).IsClosed := by
  intro id hid
  by_cases hparam : id = s.param.id
  · subst hparam
    exact List.mem_append_right _ (List.mem_cons_self ..)
  · have hlambda : id ∉ [s.param].map Parameter.id := by simpa using hparam
    have hmem := hselection id (Expr.mem_freeIds_lambda.2 ⟨hid, hlambda⟩)
    exact (List.mem_append.1 hmem).elim (List.mem_append_left _)
      fun hmem => List.mem_append_right _ (List.mem_cons_of_mem _ hmem)

/-- A selection on a closed query is closed. -/
theorem isClosed_of_rewriteQuery {f : Lambda} {s : Selection} {b : BoundExpr}
    (hbody : ∀ id ∈ f.body.freeIds, id ∈ s.closedIds f.params[0]?)
    (hselection : ∀ id ∈ s.lambda.expr.freeIds, id ∈ s.closedIds f.params[0]?)
    (h : rewriteQuery f s = .ok b) : b.IsClosed := by
  unfold rewriteQuery at h
  cases hshape : MutationShape.classify f.body with
  | sequence =>
    rw [hshape] at h
    rw [← Except.ok.inj h]
    exact fun id hid => (Selection.mem_freeIds_onEach hid).elim (hbody id) (hselection id)
  | terminal op source filter =>
    have hb := (rewriteQuery_of_terminal hshape).symm.trans h
    obtain ⟨-, hcall⟩ := MutationShape.classify_eq_terminal hshape
    rw [← Except.ok.inj hb]
    intro id hid
    rcases Expr.mem_freeIds_call.1 hid with hid | ⟨e, he, -⟩
    · refine (Selection.mem_freeIds_onEach hid).elim (fun hid => hbody id ?_) (hselection id)
      rw [hcall]
      exact mem_freeIds_filteredSource hid
    · cases he
  | memberOnConstant =>
    rw [hshape] at h
    obtain ⟨v, -, h⟩ := bind_eq_ok_iff.1 h
    rw [← Except.ok.inj h]
    exact isClosed_onValue hselection v
  | constant v =>
    rw [hshape] at h
    rw [← Except.ok.inj h]
    exact isClosed_onValue hselection v
  | unsupported =>
    rw [hshape] at h
    cases h

section Rewritten

variable {f : Lambda} {s : Selection} {root : Value} {items : List Value}

/-- A sequence is selected from element by element. -/
theorem rewriteMutation_of_sequence (hbody : ∀ id ∈ f.body.freeIds, id ∈ s.closedIds f.params[0]?)
    (hselection : ∀ id ∈ s.lambda.expr.freeIds, id ∈ s.closedIds f.params[0]?)
    (hshape : MutationShape.classify f.body = .sequence)
    (hitems : f.body.items (s.scope f.params[0]? root) = .ok items)
    (hselect : ∀ v ∈ items, ∃ w, s.lambda.apply (s.scope f.params[0]? root) v = .ok w) :
    ∃ b ws, rewriteMutation (.query f) s = .ok b ∧
      items.mapM (s.lambda.apply (s.scope f.params[0]? root)) = .ok ws ∧
      b.execute root = .ok (.list ws) := by
  obtain ⟨ws, hws⟩ := exists_mapM_eq_ok hselect
  have hrewrite := rewriteQuery_of_sequence (s := s) hshape
  refine ⟨_, ws, hrewrite, hws, ?_⟩
  rw [(isClosed_of_rewriteQuery hbody hselection hrewrite).execute_eq_eval]
  show (s.onEach f.body).eval (s.scope f.params[0]? root) = _
  rw [Selection.eval_onEach, hitems, ok_bind, hws, map_ok]

/-- The mutation picks of the elements that its filter keeps, and the rewritten query of the
selections on them. -/
theorem rewriteMutation_of_terminal {op : SequenceOp} {source : Expr} {filter : Option Lambda}
    (hbody : ∀ id ∈ f.body.freeIds, id ∈ s.closedIds f.params[0]?)
    (hselection : ∀ id ∈ s.lambda.expr.freeIds, id ∈ s.closedIds f.params[0]?)
    (hshape : MutationShape.classify f.body = .terminal op source filter)
    (harity : ∀ p ∈ filter, p.params.length = 1)
    (hitems : source.items (s.scope f.params[0]? root) = .ok items)
    (htest : ∀ v ∈ items, ∃ t, keeps filter (s.scope f.params[0]? root) v = .ok t)
    (hselect : ∀ v ∈ items, keeps filter (s.scope f.params[0]? root) v = .ok true →
      ∃ w, s.lambda.apply (s.scope f.params[0]? root) v = .ok w) :
    ∃ (b : BoundExpr) (kept : List Value) (g : Value → Value),
      rewriteMutation (.query f) s = .ok b ∧
      (∀ v, v ∈ kept ↔ v ∈ items ∧ keeps filter (s.scope f.params[0]? root) v = .ok true) ∧
      (∀ v ∈ kept, s.lambda.apply (s.scope f.params[0]? root) v = .ok (g v)) ∧
      f.body.eval (s.scope f.params[0]? root) = op.run kept .missing ∧
      b.execute root = op.run (kept.map g) .missing := by
  obtain ⟨hterminal, hcall⟩ := MutationShape.classify_eq_terminal hshape
  obtain ⟨kept, hkept, hmem⟩ := exists_filterM_eq_ok htest
  obtain ⟨ws, hws⟩ := exists_mapM_eq_ok fun v hv =>
    hselect v ((hmem v).1 hv).1 ((hmem v).1 hv).2
  obtain ⟨g, hg, rfl⟩ := exists_map_of_mapM hws
  have hrewrite := rewriteQuery_of_terminal (s := s) hshape
  refine ⟨_, kept, g, hrewrite, hmem, hg, ?_, ?_⟩
  · rw [hcall, eval_call_of_isTerminal hterminal, hitems, ok_bind, hkept, ok_bind]
  · rw [(isClosed_of_rewriteQuery hbody hselection hrewrite).execute_eq_eval]
    show (Expr.call op (s.onEach (filteredSource source filter)) []).eval
      (s.scope f.params[0]? root) = _
    rw [Expr.eval_call_eq_bind, Selection.items_onEach, items_filteredSource harity, hitems,
      ok_bind, hkept, ok_bind, hws, ok_bind]
    rfl

end Rewritten

/-- The rewritten query selects from exactly what the mutation gives.  On a sequence that is every
element in order; where an element is picked it is that one, and where there is none to pick the
outcome is the mutation's own. -/
theorem rewriteMutation_execute {f : Lambda} {s : Selection} {root : Value} {scope : Scope}
    (hscope : scope = s.scope f.params[0]? root)
    (hbody : ∀ p ∈ f.body.freeParameters, p.id ∈ s.closedIds f.params[0]?)
    (hselection : ∀ p ∈ s.lambda.freeParameters, p.id ∈ s.closedIds f.params[0]?) :
    (MutationShape.classify f.body = .sequence →
      ∀ items, f.body.eval scope >>= Value.sequence = .ok items →
        (∀ v ∈ items, ∃ w, s.lambda.apply scope v = .ok w) →
        ∃ b ws, rewriteMutation (.query f) s = .ok b ∧
          items.mapM (s.lambda.apply scope) = .ok ws ∧ b.execute root = .ok (.list ws)) ∧
    (∀ op source filter, MutationShape.classify f.body = .terminal op source filter →
      (∀ p ∈ filter, p.params.length = 1) →
      ∀ items, source.eval scope >>= Value.sequence = .ok items →
        (∀ v ∈ items, ∃ t, keeps filter scope v = .ok t) →
        (∀ v ∈ items, keeps filter scope v = .ok true → ∃ w, s.lambda.apply scope v = .ok w) →
        ∃ b, rewriteMutation (.query f) s = .ok b ∧
          ((∃ v ∈ items, keeps filter scope v = .ok true) →
            ∃ v ∈ items, keeps filter scope v = .ok true ∧ f.body.eval scope = .ok v ∧
              b.execute root = s.lambda.apply scope v) ∧
          ((∀ v ∈ items, keeps filter scope v ≠ .ok true) →
            b.execute root = f.body.eval scope ∧ f.body.eval scope = op.emptyOutcome)) := by
  have hbody : ∀ id ∈ f.body.freeIds, id ∈ s.closedIds f.params[0]? := by
    intro id hid
    obtain ⟨p, hp, rfl⟩ := List.mem_map.1 (Expr.mem_map_id_freeParameters.2 hid)
    exact hbody p hp
  have hselection : ∀ id ∈ s.lambda.expr.freeIds, id ∈ s.closedIds f.params[0]? := by
    intro id hid
    obtain ⟨p, hp, rfl⟩ := List.mem_map.1 (Expr.mem_map_id_freeParameters.2 hid)
    exact hselection p hp
  subst hscope
  constructor
  · intro hshape items hitems hselect
    exact rewriteMutation_of_sequence hbody hselection hshape hitems hselect
  · intro op source filter hshape harity items hitems htest hselect
    obtain ⟨hterminal, -⟩ := MutationShape.classify_eq_terminal hshape
    obtain ⟨b, kept, g, hb, hmem, hg, horiginal, hrewritten⟩ :=
      rewriteMutation_of_terminal hbody hselection hshape harity hitems htest hselect
    refine ⟨b, hb, fun hsome => ?_, fun hnone => ?_⟩
    · obtain ⟨u, hu, hpass⟩ := hsome
      have hne : kept ≠ [] := List.ne_nil_of_mem ((hmem u).2 ⟨hu, hpass⟩)
      obtain ⟨v, hv, hpick, hmap⟩ := SequenceOp.run_map_missing hterminal hne
      obtain ⟨hitem, hkeeps⟩ := (hmem v).1 hv
      refine ⟨v, hitem, hkeeps, horiginal.trans hpick, ?_⟩
      rw [hrewritten, hmap g, hg v hv]
    · have hnil : kept = [] := by
        refine List.eq_nil_iff_forall_not_mem.2 ?_
        intro v hv
        obtain ⟨hitem, hkeeps⟩ := (hmem v).1 hv
        exact hnone v hitem hkeeps
      subst hnil
      rw [hrewritten, horiginal]
      exact ⟨rfl, SequenceOp.run_nil_missing hterminal⟩

namespace Sample

/-- The parameter for a directory of two people. -/
def pairParam : Parameter := ⟨⟨0⟩, "db", .object "Query"⟩

/-- Two people, the second under age. -/
def pair : List Value :=
  [.ofFields [("name", .string "Ada"), ("age", .int 36)],
    .ofFields [("name", .string "Linus"), ("age", .int 9)]]

/-- The test of being under age. -/
def underAge : Lambda :=
  let person : Parameter := ⟨⟨1⟩, "x", .object "Person"⟩
  ⟨[person], .binary .lessThan (.member person.expr "age" (.scalar .int)) (.ofValue (.int 18))⟩

/-- The first person under age. -/
def firstUnderAge : Lambda :=
  ⟨[pairParam], .call .first (.member pairParam.expr "people" (.sequence (.object "Person")))
    [underAge.expr]⟩

/-- The selection of the name alone. -/
def nameOnly : Selection := .ofMembers ⟨⟨2⟩, "p", .object "Person"⟩ [("name", .scalar .string)]

/-- The directory of the two. -/
def pairDirectory : Value := .ofFields [("people", .list pair)]

/-- The scope of that directory. -/
def pairScope : Scope := nameOnly.scope firstUnderAge.params[0]? pairDirectory

end Sample

open Sample in
/-- The name is selected of the one person that the query gives. -/
theorem rewriteMutation_firstUnderAge :
    ∃ b, rewriteMutation (.query firstUnderAge) nameOnly = .ok b ∧
      ∃ v ∈ pair, firstUnderAge.body.eval pairScope = .ok v ∧
        b.execute pairDirectory = nameOnly.lambda.apply pairScope v := by
  have hbody : ∀ p ∈ firstUnderAge.body.freeParameters,
      p.id ∈ nameOnly.closedIds firstUnderAge.params[0]? := by
    intro p hp
    obtain rfl : p = pairParam := List.mem_singleton.1 hp
    exact List.mem_cons_self ..
  have hselection : ∀ p ∈ nameOnly.lambda.freeParameters,
      p.id ∈ nameOnly.closedIds firstUnderAge.params[0]? := nofun
  have hscope : pairScope = nameOnly.scope firstUnderAge.params[0]? pairDirectory := rfl
  have htest : ∀ v ∈ pair, ∃ t, keeps (some underAge) pairScope v = .ok t :=
    List.forall_mem_cons.2 ⟨⟨false, rfl⟩, List.forall_mem_cons.2 ⟨⟨true, rfl⟩, nofun⟩⟩
  have hselect : ∀ v ∈ pair, keeps (some underAge) pairScope v = .ok true →
      ∃ w, nameOnly.lambda.apply pairScope v = .ok w :=
    List.forall_mem_cons.2 ⟨fun _ => ⟨_, rfl⟩, List.forall_mem_cons.2 ⟨fun _ => ⟨_, rfl⟩, nofun⟩⟩
  obtain ⟨-, hterminal⟩ := rewriteMutation_execute hscope hbody hselection
  obtain ⟨b, hb, hpicked, -⟩ := hterminal .first _ (some underAge) rfl (by rintro _ ⟨⟩; rfl) pair
    rfl htest hselect
  obtain ⟨v, hv, -, hmutation, hselected⟩ := hpicked ⟨_, List.mem_of_getElem? (i := 1) rfl, rfl⟩
  exact ⟨b, hb, v, hv, hmutation, hselected⟩

end TypedQuery
