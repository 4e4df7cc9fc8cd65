import TypedQuery.Eval.Basic

/-!
# Outcomes

Some failures carry the written form of an expression, so expressions that mean the same may still
fail with different words.  `outcome` keeps of a failure only its kind.  It commutes with the
composition of evaluations, and the operators on sequences give equal outcomes on operands that are
alike, that is, have equal outcomes themselves.
-/

namespace TypedQuery

/-- The outcome of an evaluation: its value, or the kind of its failure. -/
def outcome {α : Type} (x : Except EvalError α) : Except EvalError.Kind α :=
  x.mapError EvalError.kind

section Basic

variable {α β : Type}

@[simp] theorem outcome_ok (a : α) : outcome (.ok a) = .ok a := rfl

@[simp] theorem outcome_error (e : EvalError) :
    outcome (.error e : Except EvalError α) = .error e.kind := rfl

theorem outcome_bind (x : Except EvalError α) (f : α → Except EvalError β) :
    outcome (x >>= f) = outcome x >>= fun a => outcome (f a) := by
  cases x <;> rfl

/-- An outcome that is a value is that of the value alone. -/
theorem outcome_eq_ok_iff {x : Except EvalError α} {a : α} : outcome x = .ok a ↔ x = .ok a := by
  cases x with
  | error e => simp
  | ok b => simp

/-- Outcomes are equal if the values are, or the kinds of the failures. -/
theorem outcome_eq_iff {x y : Except EvalError α} :
    outcome x = outcome y ↔ (∃ a, x = .ok a ∧ y = .ok a) ∨
      ∃ e e', x = .error e ∧ y = .error e' ∧ e.kind = e'.kind := by
  cases x with
  | error e => cases y <;> simp
  | ok a => cases y <;> simp [eq_comm]

theorem outcome_bind_congr {x y : Except EvalError α} {f g : α → Except EvalError β}
    (hxy : outcome x = outcome y) (hfg : ∀ a, outcome (f a) = outcome (g a)) :
    outcome (x >>= f) = outcome (y >>= g) := by
  rw [outcome_bind, outcome_bind, hxy]
  congr 1
  funext a
  exact hfg a

/-- Evaluations with equal outcomes stay so under what is done with their values. -/
theorem outcome_bind_left {x y : Except EvalError α} (hxy : outcome x = outcome y)
    (f : α → Except EvalError β) : outcome (x >>= f) = outcome (y >>= f) :=
  outcome_bind_congr hxy fun _ => rfl

end Basic

/-! ## Lists -/

section Lists

variable {f g : Value → Except EvalError Value} (h : ∀ v, outcome (f v) = outcome (g v))

include h

theorem outcome_keepItems (items : List Value) :
    outcome (keepItems f items) = outcome (keepItems g items) := by
  induction items with
  | nil => rfl
  | cons v items ih =>
    refine outcome_bind_congr (outcome_bind_left (h v) _) ?_
    intro passes
    exact outcome_bind_left ih _

theorem outcome_mapItems (items : List Value) :
    outcome (mapItems f items) = outcome (mapItems g items) := by
  induction items with
  | nil => rfl
  | cons v items ih =>
    refine outcome_bind_congr (h v) ?_
    intro w
    exact outcome_bind_left ih _

theorem outcome_sortItems (descending : Bool) (items : List Value) :
    outcome (sortItems descending f items) = outcome (sortItems descending g items) :=
  outcome_bind_left (outcome_mapItems h items) _

end Lists

/-! ## Operands -/

/-- Operands of one form with equal outcomes; what they are written as does not count. -/
inductive Operand.Alike : Operand → Operand → Prop where
  | missing : Alike .missing .missing
  | function {arity : Nat} {f g : Value → Except EvalError Value} {s t : String}
      (h : ∀ v, outcome (f v) = outcome (g v)) : Alike (.function arity f s) (.function arity g t)
  | plain {x y : Except EvalError Value} {s t : String} (h : outcome x = outcome y) :
      Alike (.plain x s) (.plain y t)

namespace Operand.Alike

variable {a b : Operand} (h : Alike a b)

include h

/-- What is done with the function that an operand gives. -/
theorem outcome_function?_bind {β : Type} (op : SequenceOp)
    {k : (Value → Except EvalError Value) → Except EvalError β}
    (hk : ∀ f g, (∀ v, outcome (f v) = outcome (g v)) → outcome (k f) = outcome (k g)) :
    outcome (a.function? op >>= k) = outcome (b.function? op >>= k) := by
  cases h with
  | missing => rfl
  | @function arity f g s t h =>
    match arity with
    | 1 => exact hk f g h
    | 0 | _ + 2 => rfl
  | plain h => rfl

theorem outcome_count (op : SequenceOp) : outcome (a.count op) = outcome (b.count op) := by
  cases h with
  | missing => rfl
  | function h => rfl
  | plain h => exact outcome_bind_left h _

theorem outcome_candidates (op : SequenceOp) (items : List Value) :
    outcome (candidates op a items) = outcome (candidates op b items) := by
  cases h with
  | missing => rfl
  | function h => exact outcome_keepItems h items
  | plain h => rfl

/-- Operators do the same with operands that are alike. -/
theorem outcome_run (op : SequenceOp) (items : List Value) :
    outcome (op.run items a) = outcome (op.run items b) := by
  cases op with
  | filter =>
    exact h.outcome_function?_bind _ fun f g hfg =>
      outcome_bind_left (outcome_keepItems hfg items) _
  | select =>
    exact h.outcome_function?_bind _ fun f g hfg =>
      outcome_bind_left (outcome_mapItems hfg items) _
  | orderBy =>
    exact h.outcome_function?_bind _ fun f g hfg =>
      outcome_bind_left (outcome_sortItems hfg false items) _
  | orderByDescending =>
    exact h.outcome_function?_bind _ fun f g hfg =>
      outcome_bind_left (outcome_sortItems hfg true items) _
  | reverse => rfl
  | skip | take => exact outcome_bind_left (h.outcome_count _) _
  | first | firstOrDefault | last | lastOrDefault =>
    exact outcome_bind_left (h.outcome_candidates _ items) _

end Operand.Alike

end TypedQuery
