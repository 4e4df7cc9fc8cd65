import TypedQuery.Expr.Parameters

/-!
# Induction on expressions

Expressions stand in lists of arguments and in fields of records, so the recursion that comes with
the type has a case for each kind of list.  `Expr.induct` has one case for each form of an
expression, with hypotheses for the members of the lists, and it is what `induction` uses from here
on.  The functions on expressions that recur through lists are put in the words of the list library,
so that no later proof opens them.
-/

namespace TypedQuery.Expr

/-- Induction on expressions.  At a call there is a hypothesis for the body of each argument that is
a lambda too: an operator evaluates such an argument by its body. -/
@[elab_as_elim, induction_eliminator]
theorem induct {motive : Expr → Prop}
    (param : ∀ p, motive (.param p))
    (const : ∀ v t, motive (.const v t))
    (member : ∀ e name t, motive e → motive (.member e name t))
    (binary : ∀ op l r, motive l → motive r → motive (.binary op l r))
    (not : ∀ e, motive e → motive (.not e))
    (compare : ∀ l r, motive l → motive r → motive (.compare l r))
    (text : ∀ e, motive e → motive (.text e))
    (contains : ∀ set e, motive e → motive (.contains set e))
    (call : ∀ op source args, motive source → (∀ e ∈ args, motive e) →
      (∀ params body, .lambda params body ∈ args → motive body) → motive (.call op source args))
    (lambda : ∀ params body, motive body → motive (.lambda params body))
    (new : ∀ type fields, (∀ f ∈ fields, motive f.2) → motive (.new type fields))
    (e : Expr) : motive e := by
  -- The body of a lambda is carried along, for the calls that the lambda may be an argument of.
  let strong (e : Expr) : Prop :=
    motive e ∧ ∀ params body, e = .lambda params body → motive body
  refine (@Expr.rec strong (fun es => ∀ e ∈ es, strong e)
    (fun fields => ∀ f ∈ fields, strong f.2) (fun f => strong f.2)
    ?_ ?_ ?_ ?_ ?_ ?_ ?_ ?_ ?_ ?_ ?_ ?_ ?_ ?_ ?_ ?_ e : strong e).1
  · exact fun p => ⟨param p, nofun⟩
  · exact fun v t => ⟨const v t, nofun⟩
  · exact fun e name t he => ⟨member e name t he.1, nofun⟩
  · exact fun op l r hl hr => ⟨binary op l r hl.1 hr.1, nofun⟩
  · exact fun e he => ⟨not e he.1, nofun⟩
  · exact fun l r hl hr => ⟨compare l r hl.1 hr.1, nofun⟩
  · exact fun e he => ⟨text e he.1, nofun⟩
  · exact fun set e he => ⟨contains set e he.1, nofun⟩
  · intro op source args hsource hargs
    exact ⟨call op source args hsource.1 (fun e he => (hargs e he).1)
      (fun params body hmem => (hargs _ hmem).2 params body rfl), nofun⟩
  · intro params body hbody
    refine ⟨lambda params body hbody.1, fun _ _ heq => ?_⟩
    obtain ⟨-, rfl⟩ := Expr.lambda.inj heq
    exact hbody.1
  · exact fun type fields hfields => ⟨new type fields fun f hf => (hfields f hf).1, nofun⟩
  · simp
  · exact fun e es he hes => List.forall_mem_cons.2 ⟨he, hes⟩
  · simp
  · exact fun f fields hf hfields => List.forall_mem_cons.2 ⟨hf, hfields⟩
  · exact fun _ _ he => he

/-! ## Recursion through lists -/

@[simp] theorem replaceItems_eq_map (es : List Expr) (id : ParamId) (r : Expr) :
    replaceItems es id r = es.map (·.replace id r) := by
  induction es with
  | nil => rfl
  | cons e es ih => rw [replaceItems, ih, List.map_cons]

@[simp] theorem replaceFields_eq_map (fields : List (String × Expr)) (id : ParamId) (r : Expr) :
    replaceFields fields id r = fields.map fun f => (f.1, f.2.replace id r) := by
  induction fields with
  | nil => rfl
  | cons f fields ih => rw [replaceFields, ih, List.map_cons]

@[simp] theorem nodesOfItems_eq_flatMap (es : List Expr) :
    nodesOfItems es = es.flatMap nodes := by
  induction es with
  | nil => rfl
  | cons e es ih => rw [nodesOfItems, ih, List.flatMap_cons]

@[simp] theorem nodesOfFields_eq_flatMap (fields : List (String × Expr)) :
    nodesOfFields fields = fields.flatMap fun f => f.2.nodes := by
  induction fields with
  | nil => rfl
  | cons f fields ih => rw [nodesOfFields, ih, List.flatMap_cons]

theorem collectFreeItems_eq_foldl (bound : List ParamId) (found : List Parameter)
    (es : List Expr) :
    collectFreeItems bound found es = es.foldl (collectFree bound) found := by
  induction es generalizing found with
  | nil => rfl
  | cons e es ih => rw [collectFreeItems, ih, List.foldl_cons]

theorem collectFreeFields_eq_foldl (bound : List ParamId) (found : List Parameter)
    (fields : List (String × Expr)) :
    collectFreeFields bound found fields =
      fields.foldl (fun found f => collectFree bound found f.2) found := by
  induction fields generalizing found with
  | nil => rfl
  | cons f fields ih => rw [collectFreeFields, ih, List.foldl_cons]

@[simp] theorem tyOfFields_eq_map (fields : List (String × Expr)) :
    tyOfFields fields = fields.map fun f => (f.1, f.2.ty) := by
  induction fields with
  | nil => rfl
  | cons f fields ih => rw [tyOfFields, ih, List.map_cons]

theorem nodes_param (p : Parameter) : (Expr.param p).nodes = [.param p] := rfl

theorem nodes_member (e : Expr) (name : String) (t : ExprType) :
    (Expr.member e name t).nodes = .member e name t :: e.nodes := rfl

theorem nodes_binary (op : BinaryOp) (l r : Expr) :
    (Expr.binary op l r).nodes = .binary op l r :: (l.nodes ++ r.nodes) := rfl

theorem nodes_not (e : Expr) : (Expr.not e).nodes = .not e :: e.nodes := rfl

theorem nodes_compare (l r : Expr) :
    (Expr.compare l r).nodes = .compare l r :: (l.nodes ++ r.nodes) := rfl

theorem nodes_text (e : Expr) : (Expr.text e).nodes = .text e :: e.nodes := rfl

theorem nodes_contains (set : List String) (e : Expr) :
    (Expr.contains set e).nodes = .contains set e :: e.nodes := rfl

theorem nodes_call (op : SequenceOp) (source : Expr) (args : List Expr) :
    (Expr.call op source args).nodes =
      .call op source args :: (source.nodes ++ args.flatMap nodes) := by
  rw [← nodesOfItems_eq_flatMap]
  rfl

theorem nodes_lambda (params : List Parameter) (body : Expr) :
    (Expr.lambda params body).nodes = .lambda params body :: body.nodes := rfl

theorem nodes_new (type : Option String) (fields : List (String × Expr)) :
    (Expr.new type fields).nodes = .new type fields :: fields.flatMap fun f => f.2.nodes := by
  rw [← nodesOfFields_eq_flatMap]
  rfl

theorem idBound_le_of_mem_items {es : List Expr} {e : Expr} (he : e ∈ es) :
    e.idBound ≤ idBoundOfItems es := by
  induction es with
  | nil => nomatch he
  | cons d es ih =>
    rw [idBoundOfItems]
    rcases List.mem_cons.1 he with rfl | he
    · exact Nat.le_max_left _ _
    · exact Nat.le_trans (ih he) (Nat.le_max_right _ _)

theorem idBound_le_of_mem_fields {fields : List (String × Expr)} {f : String × Expr}
    (hf : f ∈ fields) : f.2.idBound ≤ idBoundOfFields fields := by
  induction fields with
  | nil => nomatch hf
  | cons g fields ih =>
    rw [idBoundOfFields]
    rcases List.mem_cons.1 hf with rfl | hf
    · exact Nat.le_max_left _ _
    · exact Nat.le_trans (ih hf) (Nat.le_max_right _ _)

end TypedQuery.Expr
