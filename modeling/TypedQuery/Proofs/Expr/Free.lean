import Mathlib.Data.List.Basic
import TypedQuery.Proofs.Expr.Induction

/-!
# Free parameters

`Expr.freeParameters` threads what it has found through the whole expression.  Here it is split into
two steps.  `Expr.occurrences` lists the occurrences of parameters outside every lambda that
declares them, and `Expr.freeParameters_eq` says that the free parameters are those occurrences with
the later repeats of an identity left out.

`Expr.freeIds` are the identities of the occurrences.  Everything said of scopes and substitution is
said of them, and `Expr.mem_map_id_freeParameters` leads back to the free parameters.
-/

namespace TypedQuery

/-! ## Collecting parameters -/

/-- A parameter of an identity that is there leaves all as it is, and another one is put behind. -/
theorem addParameter_cases (found : List Parameter) (p : Parameter) :
    p.id ∈ found.map Parameter.id ∧ addParameter found p = found ∨
      p.id ∉ found.map Parameter.id ∧ addParameter found p = found ++ [p] := by
  have hmem : found.any (·.id == p.id) = true ↔ p.id ∈ found.map Parameter.id := by simp
  rw [addParameter, ← hmem]
  split
  · rename_i h
    exact Or.inl ⟨h, rfl⟩
  · rename_i h
    exact Or.inr ⟨h, rfl⟩

theorem foldl_addParameter_concat (ps found : List Parameter) (p : Parameter) :
    (ps ++ [p]).foldl addParameter found = addParameter (ps.foldl addParameter found) p := by
  rw [List.foldl_append]
  rfl

/-- The identities that are collected are those there were and those of the new parameters. -/
theorem mem_map_id_foldl_addParameter {id : ParamId} (ps found : List Parameter) :
    id ∈ (ps.foldl addParameter found).map Parameter.id ↔
      id ∈ found.map Parameter.id ∨ id ∈ ps.map Parameter.id := by
  induction ps generalizing found with
  | nil => simp
  | cons p ps ih =>
    rw [List.foldl_cons, ih]
    rcases addParameter_cases found p with ⟨hmem, hadd⟩ | ⟨-, hadd⟩
    · rw [hadd]
      constructor
      · rintro (h | h)
        · exact Or.inl h
        · exact Or.inr (List.mem_cons_of_mem _ h)
      · rintro (h | h)
        · exact Or.inl h
        · rcases List.mem_cons.1 h with rfl | h
          · exact Or.inl hmem
          · exact Or.inr h
    · rw [hadd]
      simp [or_assoc]

/-- Of the new parameters the first of each identity that is not there yet is collected. -/
theorem mem_foldl_addParameter {p : Parameter} (ps found : List Parameter) :
    p ∈ ps.foldl addParameter found ↔
      p ∈ found ∨ p.id ∉ found.map Parameter.id ∧ ps.find? (·.id == p.id) = some p := by
  induction ps generalizing found with
  | nil => simp
  | cons q ps ih =>
    rw [List.foldl_cons, ih, List.find?_cons]
    rcases addParameter_cases found q with ⟨hmem, hadd⟩ | ⟨hmem, hadd⟩
    · rw [hadd]
      refine or_congr_right (and_congr_right fun hp => ?_)
      have hne : (q.id == p.id) = false :=
        beq_eq_false_iff_ne.2 fun heq => hp (heq ▸ hmem)
      rw [hne]
    · rw [hadd]
      by_cases heq : q.id = p.id
      · rw [heq] at hmem
        simp only [heq, beq_self_eq_true, hmem, Option.some.injEq, List.map_append, List.map_cons,
          List.mem_append, List.mem_cons, true_or, or_true, not_true_eq_false, not_false_eq_true,
          false_and, true_and, or_false, List.not_mem_nil, eq_comm]
      · have hne : p ≠ q := fun h => heq (h ▸ rfl)
        simp [beq_eq_false_iff_ne.2 heq, hne, Ne.symm heq]

namespace Expr

/-! ## Occurrences -/

mutual

/-- The occurrences of parameters outside every lambda that declares them, from left to right. -/
def occurrences : Expr → List Parameter
  | .param p => [p]
  | .const _ _ => []
  | .member e _ _ => e.occurrences
  | .binary _ l r => l.occurrences ++ r.occurrences
  | .not e => e.occurrences
  | .compare l r => l.occurrences ++ r.occurrences
  | .text e => e.occurrences
  | .contains _ e => e.occurrences
  | .call _ source args => source.occurrences ++ occurrencesOfItems args
  | .lambda params body => body.occurrences.filter fun p => !(params.map Parameter.id).contains p.id
  | .new _ fields => occurrencesOfFields fields

/-- The occurrences in the expressions. -/
def occurrencesOfItems : List Expr → List Parameter
  | [] => []
  | e :: rest => e.occurrences ++ occurrencesOfItems rest

/-- The occurrences in the fields. -/
def occurrencesOfFields : List (String × Expr) → List Parameter
  | [] => []
  | (_, e) :: rest => e.occurrences ++ occurrencesOfFields rest

end

@[simp] theorem occurrencesOfItems_eq_flatMap (es : List Expr) :
    occurrencesOfItems es = es.flatMap occurrences := by
  induction es with
  | nil => rfl
  | cons e es ih => rw [occurrencesOfItems, ih, List.flatMap_cons]

@[simp] theorem occurrencesOfFields_eq_flatMap (fields : List (String × Expr)) :
    occurrencesOfFields fields = fields.flatMap fun f => f.2.occurrences := by
  induction fields with
  | nil => rfl
  | cons f fields ih => rw [occurrencesOfFields, ih, List.flatMap_cons]

theorem occurrences_param (p : Parameter) : (Expr.param p).occurrences = [p] := rfl

theorem occurrences_const (v : Value) (t : ExprType) : (Expr.const v t).occurrences = [] := rfl

theorem occurrences_binary (op : BinaryOp) (l r : Expr) :
    (Expr.binary op l r).occurrences = l.occurrences ++ r.occurrences := rfl

theorem occurrences_compare (l r : Expr) :
    (Expr.compare l r).occurrences = l.occurrences ++ r.occurrences := rfl

theorem occurrences_call (op : SequenceOp) (source : Expr) (args : List Expr) :
    (Expr.call op source args).occurrences = source.occurrences ++ args.flatMap occurrences := by
  rw [← occurrencesOfItems_eq_flatMap]
  rfl

theorem occurrences_lambda (params : List Parameter) (body : Expr) :
    (Expr.lambda params body).occurrences =
      body.occurrences.filter fun p => !(params.map Parameter.id).contains p.id := rfl

theorem occurrences_new (type : Option String) (fields : List (String × Expr)) :
    (Expr.new type fields).occurrences = fields.flatMap fun f => f.2.occurrences := by
  rw [← occurrencesOfFields_eq_flatMap]
  rfl

/-- The collector adds the occurrences that no lambda around the expression declares. -/
theorem collectFree_eq (e : Expr) (bound : List ParamId) (found : List Parameter) :
    collectFree bound found e =
      (e.occurrences.filter fun p => !bound.contains p.id).foldl addParameter found := by
  induction e generalizing bound found with
  | param p =>
    rw [collectFree, occurrences_param]
    by_cases h : p.id ∈ bound <;> simp [h]
  | const v t => rfl
  | member e name t ih => exact ih bound found
  | binary op l r hl hr =>
    rw [collectFree, hl, hr, occurrences_binary, List.filter_append, List.foldl_append]
  | compare l r hl hr =>
    rw [collectFree, hl, hr, occurrences_compare, List.filter_append, List.foldl_append]
  | not e ih | text e ih => exact ih bound found
  | contains set e ih => exact ih bound found
  | call op source args hsource hargs =>
    rw [collectFree, collectFreeItems_eq_foldl, hsource, occurrences_call, List.filter_append,
      List.foldl_append, List.filter_flatMap, List.foldl_flatMap]
    exact List.foldl_ext _ _ _ fun found e he => hargs e he bound found
  | lambda params body ih =>
    rw [collectFree, ih, occurrences_lambda, List.filter_filter]
    congr 2
    funext p
    simp [Bool.and_comm]
  | new type fields hfields =>
    rw [collectFree, collectFreeFields_eq_foldl, occurrences_new, List.filter_flatMap,
      List.foldl_flatMap]
    exact List.foldl_ext _ _ _ fun found f hf => hfields f hf bound found

/-- The free parameters are the occurrences without the later repeats of an identity. -/
theorem freeParameters_eq (e : Expr) : e.freeParameters = e.occurrences.foldl addParameter [] := by
  rw [freeParameters, collectFree_eq]
  simp

/-- A free parameter is the first occurrence of its identity. -/
theorem mem_freeParameters_iff {e : Expr} {p : Parameter} :
    p ∈ e.freeParameters ↔ e.occurrences.find? (·.id == p.id) = some p := by
  rw [freeParameters_eq, mem_foldl_addParameter]
  simp

/-! ## Identities -/

/-- The identities of the parameters that occur outside every lambda that declares them. -/
def freeIds (e : Expr) : List ParamId := e.occurrences.map Parameter.id

theorem mem_map_id_freeParameters {e : Expr} {id : ParamId} :
    id ∈ e.freeParameters.map Parameter.id ↔ id ∈ e.freeIds := by
  rw [freeParameters_eq, mem_map_id_foldl_addParameter, freeIds]
  simp

theorem id_mem_freeIds_of_mem {e : Expr} {p : Parameter} (h : p ∈ e.freeParameters) :
    p.id ∈ e.freeIds :=
  mem_map_id_freeParameters.1 (List.mem_map_of_mem h)

/-- What is free is the identity of a free parameter. -/
theorem exists_mem_freeParameters {e : Expr} {id : ParamId} (h : id ∈ e.freeIds) :
    ∃ p ∈ e.freeParameters, p.id = id :=
  List.mem_map.1 (mem_map_id_freeParameters.2 h)

theorem freeParameters_eq_nil_iff {e : Expr} : e.freeParameters = [] ↔ ∀ id, id ∉ e.freeIds := by
  rw [← List.map_eq_nil_iff (f := Parameter.id), List.eq_nil_iff_forall_not_mem]
  exact forall_congr' fun id => not_congr mem_map_id_freeParameters

section Forms

variable {id : ParamId}

@[simp] theorem mem_freeIds_param {p : Parameter} : id ∈ (Expr.param p).freeIds ↔ id = p.id := by
  simp [freeIds, occurrences_param]

@[simp] theorem mem_freeIds_const {v : Value} {t : ExprType} : id ∉ (Expr.const v t).freeIds := by
  simp [freeIds, occurrences_const]

@[simp] theorem freeIds_member {e : Expr} {name : String} {t : ExprType} :
    (Expr.member e name t).freeIds = e.freeIds := rfl

@[simp] theorem mem_freeIds_binary {op : BinaryOp} {l r : Expr} :
    id ∈ (Expr.binary op l r).freeIds ↔ id ∈ l.freeIds ∨ id ∈ r.freeIds := by
  simp [freeIds, occurrences_binary]

@[simp] theorem freeIds_not {e : Expr} : (Expr.not e).freeIds = e.freeIds := rfl

@[simp] theorem mem_freeIds_compare {l r : Expr} :
    id ∈ (Expr.compare l r).freeIds ↔ id ∈ l.freeIds ∨ id ∈ r.freeIds := by
  simp [freeIds, occurrences_compare]

@[simp] theorem freeIds_text {e : Expr} : (Expr.text e).freeIds = e.freeIds := rfl

@[simp] theorem freeIds_contains {set : List String} {e : Expr} :
    (Expr.contains set e).freeIds = e.freeIds := rfl

@[simp] theorem mem_freeIds_call {op : SequenceOp} {source : Expr} {args : List Expr} :
    id ∈ (Expr.call op source args).freeIds ↔
      id ∈ source.freeIds ∨ ∃ e ∈ args, id ∈ e.freeIds := by
  simp only [freeIds, occurrences_call, List.map_append, List.map_flatMap, List.mem_append,
    List.mem_flatMap]

@[simp] theorem mem_freeIds_lambda {params : List Parameter} {body : Expr} :
    id ∈ (Expr.lambda params body).freeIds ↔
      id ∈ body.freeIds ∧ id ∉ params.map Parameter.id := by
  simp only [freeIds, occurrences_lambda, List.mem_map, List.mem_filter, Bool.not_eq_true',
    List.contains_eq_mem, decide_eq_false_iff_not]
  constructor
  · rintro ⟨p, ⟨hp, hparams⟩, rfl⟩
    exact ⟨⟨p, hp, rfl⟩, hparams⟩
  · rintro ⟨⟨p, hp, rfl⟩, hparams⟩
    exact ⟨p, ⟨hp, hparams⟩, rfl⟩

@[simp] theorem mem_freeIds_new {type : Option String} {fields : List (String × Expr)} :
    id ∈ (Expr.new type fields).freeIds ↔ ∃ f ∈ fields, id ∈ f.2.freeIds := by
  simp only [freeIds, occurrences_new, List.map_flatMap, List.mem_flatMap]

end Forms

end Expr

end TypedQuery
