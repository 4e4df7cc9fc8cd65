import TypedQuery.Proofs.Plan.Condition
import TypedQuery.Proofs.Value.Coercion

/-!
# Comparisons of a field with a literal

A condition on a field is computed in two ways.  Equality goes by the equality of queries, which has
rules of its own for null and for values with parts; the ordering comparisons relate the order of
the two operands, written as a number, to zero.  A literal is never null and has no parts
(`Value.isAtom_of_literalConstant`), and so both come to one: `ComparisonOp.outcome` says what a
comparison answers by the order of the two values, or that it fails, and
`exists_translate_text` that its condition evaluates to that.

From this the comparisons are coherent (`translate_coherent`).
-/

namespace TypedQuery

/-! ## Atoms -/

namespace Value

/-- Whether the value is neither null nor made of parts. -/
def isAtom : Value → Bool
  | .null | .stringArray _ | .list _ | .record _ => false
  | _ => true

section Atoms

variable {v w : Value} (hw : w.isAtom = true)

include hw

/-- Beside an atom equality is that of the order. -/
theorem equal_eq_cmp? : v.equal w = (v.cmp? w == some .eq) := by
  unfold equal
  split
  · cases hw
  · cases hw
  · cases hw
  · rfl

/-- Null comes in front of all atoms, so it is equal to none. -/
theorem equalOrNull_eq_cmp? : v.equalOrNull w = (v.cmp? w == some .eq) := by
  have hnull : w.isNull = false := by
    cases w with
    | null => cases hw
    | _ => rfl
  unfold equalOrNull
  rw [hnull, Bool.or_false, Bool.and_false, equal_eq_cmp? hw]
  split
  · rename_i hv
    cases v with
    | null =>
      cases w with
      | null => cases hw
      | _ => rfl
    | _ => cases hv
  · rfl

end Atoms

theorem isAtom_of_parseAs? {s : String} {type : DataType} {v : Value}
    (h : parseAs? s type = some v) : v.isAtom = true := by
  unfold parseAs? at h
  cases type with
  | null => cases h
  | string | char | enum | custom =>
    obtain rfl := Option.some.inj h
    rfl
  | short | int | long =>
    obtain ⟨u, hu, hfits⟩ := Option.bind_eq_some_iff.1 h
    obtain ⟨n, -, rfl⟩ := Option.map_eq_some_iff.1 hu
    rw [eq_of_ifFits hfits]
    rfl
  | _ =>
    obtain ⟨a, -, rfl⟩ := Option.map_eq_some_iff.1 h
    rfl

end Value

/-- The literal of a comparison is read as the declared type.  For documents and null it is the text
itself. -/
theorem literalConstant_cases {f : FieldRef} {text : String} {w : Value} {t : ExprType}
    (h : literalConstant f text = .ok (.const w t)) :
    ∃ type, f.ty = .scalar type ∧
      ((type = .null ∨ type = .json) ∧ w = .string text ∨ Value.parseAs? text type = some w) := by
  unfold literalConstant at h
  split at h
  · cases h
  · rename_i type hdeclared
    have hty : f.ty = .scalar type := by
      unfold FieldRef.declared? ExprType.scalar? at hdeclared
      split at hdeclared
      · rename_i hty
        rw [hty, Option.some.inj hdeclared]
      · cases hdeclared
    refine ⟨type, hty, ?_⟩
    dsimp only at h
    split at h
    · rename_i value hvalue
      obtain ⟨rfl, -⟩ := Expr.const.inj (Except.ok.inj h)
      split at hvalue
      · exact Or.inl ⟨Or.inl rfl, (Option.some.inj hvalue).symm⟩
      · exact Or.inl ⟨Or.inr rfl, (Option.some.inj hvalue).symm⟩
      · exact Or.inr hvalue
    · cases h

/-- A field is compared with atoms only. -/
theorem Value.isAtom_of_literalConstant {f : FieldRef} {s : String} {v : Value} {t : ExprType}
    (h : literalConstant f s = .ok (.const v t)) : v.isAtom = true := by
  obtain ⟨type, -, ⟨-, rfl⟩ | hread⟩ := literalConstant_cases h
  · rfl
  · exact isAtom_of_parseAs? hread

/-! ## Outcomes of comparisons -/

namespace ComparisonOp

/-- Whether the comparison takes a text. -/
def takesText : ComparisonOp → Bool
  | isIn | notIn | isNull => false
  | _ => true

/-- Whether the comparison holds between two values in a given order; comparisons that take no text
hold in none. -/
def holdsFor (op : ComparisonOp) (order : Ordering) : Bool :=
  match op with
  | equals => order == .eq
  | notEqualTo => order != .eq
  | greaterThan => order == .gt
  | greaterThanOrEqualTo => order != .lt
  | lessThan => order == .lt
  | lessThanOrEqualTo => order != .gt
  | isIn | notIn | isNull => false

/-- What a comparison of two values comes to.  Values without an order are not equal, and cannot be
ordered. -/
def outcome (op : ComparisonOp) (v w : Value) : Except EvalError Value :=
  match v.cmp? w with
  | some order => .ok (.boolean (op.holdsFor order))
  | none =>
    if op.isOrdering then .error (.typeMismatch v.dataType.scalarName w.dataType.scalarName)
    else .ok (.boolean (op == notEqualTo))

end ComparisonOp

/-- To be equal is to be equal by the equality of queries. -/
theorem ComparisonOp.outcome_equals {v w : Value} (hw : w.isAtom = true) :
    equals.outcome v w = .ok (.boolean (v.equal w)) := by
  rw [Value.equal_eq_cmp? hw, outcome]
  cases v.cmp? w <;> rfl

/-- The number that stands for an order is in that order with zero. -/
theorem cmp?_signOf (order : Ordering) :
    (Value.int (signOf order)).cmp? (.int 0) = some order := by
  cases order <;> rfl

section Outcomes

variable {scope : Scope} {field : Expr} {v w : Value} (t : ExprType)
  (hv : field.eval scope = .ok v)

include hv

theorem eval_equality (hw : w.isAtom = true) :
    (Expr.binary .equal field (.const w t)).eval scope = ComparisonOp.equals.outcome v w ∧
    (Expr.binary .notEqual field (.const w t)).eval scope =
      ComparisonOp.notEqualTo.outcome v w := by
  have hrun : ∀ op : BinaryOp, op.isLogical = false →
      (Expr.binary op field (.const w t)).eval scope = op.run v w := by
    intro op hop
    rw [Expr.eval_binary_of_not_logical (by simp [hop]), hv]
    rfl
  rw [hrun .equal rfl, hrun .notEqual rfl]
  simp only [BinaryOp.run, Value.equalOrNull_eq_cmp? hw, ComparisonOp.outcome]
  cases v.cmp? w with
  | none => exact ⟨rfl, rfl⟩
  | some order => exact ⟨rfl, rfl⟩

/-- The order of field and literal is related to zero as the field is to the literal. -/
theorem eval_ordering {op : ComparisonOp} {test : BinaryOp} (hop : op.isOrdering = true)
    (hlogical : test.isLogical = false)
    (hrun : ∀ a b order, a.cmp? b = some order →
      test.run a b = .ok (.boolean (op.holdsFor order))) :
    (Expr.binary test (.compare field (.const w t)) (.ofValue (.int 0))).eval scope =
      op.outcome v w := by
  have hcompare : (Expr.compare field (.const w t)).eval scope = v.compareTo w := by
    rw [Expr.eval_compare, hv]
    rfl
  rw [Expr.eval_binary_of_not_logical (by simp [hlogical]), hcompare, Value.compareTo,
    ComparisonOp.outcome]
  cases v.cmp? w with
  | none => exact (if_pos hop).symm
  | some order => exact hrun _ _ order (cmp?_signOf order)

end Outcomes

/-! ## Conditions -/

section Conditions

variable {f : FieldRef} {s : String} {op : ComparisonOp}

theorem translate_eq_error_of_literalConstant {err : CompileError}
    (h : literalConstant f s = .error err) (hop : op.takesText = true) :
    translate f (some op) (.text s) = .error err := by
  cases op with
  | equals | notEqualTo =>
    rw [translate, relation_eq, h]
    rfl
  | greaterThan | greaterThanOrEqualTo | lessThan | lessThanOrEqualTo =>
    rw [translate, orderRelation_eq, h]
    rfl
  | isIn | notIn | isNull => cases hop

/-- A literal that can be read makes a condition, which comes to the comparison of field and
literal. -/
theorem exists_translate_text {w : Value} {t : ExprType}
    (h : literalConstant f s = .ok (.const w t)) (hop : op.takesText = true) :
    ∃ e, translate f (some op) (.text s) = .ok e ∧
      ∀ scope v, f.expr.eval scope = .ok v → e.eval scope = op.outcome v w := by
  have hw := Value.isAtom_of_literalConstant h
  have hrelation : ∀ test, relation f test s =
      .ok (.binary test f.expr (.const w t)) := by
    intro test
    rw [relation_eq, h, map_ok]
  have horder : ∀ test, orderRelation f test s =
      .ok (.binary test (.compare f.expr (.const w t)) (.ofValue (.int 0))) := by
    intro test
    rw [orderRelation_eq, h, map_ok]
  cases op with
  | equals => exact ⟨_, hrelation _, fun _ _ hv => (eval_equality t hv hw).1⟩
  | notEqualTo => exact ⟨_, hrelation _, fun _ _ hv => (eval_equality t hv hw).2⟩
  | greaterThan | greaterThanOrEqualTo | lessThan | lessThanOrEqualTo =>
    refine ⟨_, horder _, fun _ _ hv => eval_ordering t hv rfl rfl ?_⟩
    intro a b order hcmp
    simp only [BinaryOp.run, hcmp]
    rfl
  | isIn | notIn | isNull => cases hop

/-- The condition of a comparison with a text comes to the comparison of the field and the literal. -/
theorem exists_literal_of_translate {e : Expr} (h : translate f (some op) (.text s) = .ok e)
    (hop : op.takesText = true) :
    ∃ w t, literalConstant f s = .ok (.const w t) ∧
      ∀ scope v, f.expr.eval scope = .ok v → e.eval scope = op.outcome v w := by
  cases hliteral : literalConstant f s with
  | error err =>
    rw [translate_eq_error_of_literalConstant hliteral hop] at h
    cases h
  | ok c =>
    obtain ⟨w, t, rfl⟩ := exists_const_of_literalConstant hliteral
    obtain ⟨e', he', heval⟩ := exists_translate_text hliteral hop
    rw [h] at he'
    obtain rfl := Except.ok.inj he'
    exact ⟨w, t, rfl, heval⟩

/-- A literal that can be read makes the conditions of all comparisons that take a text. -/
theorem exists_conditions {w : Value} {t : ExprType}
    (h : literalConstant f s = .ok (.const w t)) :
    ∃ condition : ComparisonOp → Expr, ∀ op, op.takesText = true →
      translate f (some op) (.text s) = .ok (condition op) ∧
      ∀ scope v, f.expr.eval scope = .ok v → (condition op).eval scope = op.outcome v w := by
  have heach : ∀ op : ComparisonOp, ∃ e, op.takesText = true →
      translate f (some op) (.text s) = .ok e ∧
      ∀ scope v, f.expr.eval scope = .ok v → e.eval scope = op.outcome v w := by
    intro op
    by_cases hop : op.takesText = true
    · obtain ⟨e, he⟩ := exists_translate_text h hop
      exact ⟨e, fun _ => he⟩
    · exact ⟨default, fun h => absurd h hop⟩
  exact Classical.skolem.1 heach

/-- The text of a field is in a set, or not. -/
theorem eval_textIn {scope : Scope} {v : Value} (hv : f.expr.eval scope = .ok v)
    (set : List String) : (textIn f set).eval scope = .ok (.boolean (set.contains v.text)) := by
  rw [textIn, Expr.eval_contains, Expr.eval_text, hv]
  rfl

end Conditions

/-! ## Coherence -/

/-- Outcomes that are opposite truth values. -/
def AreOpposite (x y : Except EvalError Value) : Prop :=
  ∃ b, x = .ok (.boolean b) ∧ y = .ok (.boolean !b)

/-- Outcomes that are opposite truth values, or both failures. -/
def AreOppositeOrFail (x y : Except EvalError Value) : Prop :=
  AreOpposite x y ∨ (∃ e, x = .error e) ∧ ∃ e, y = .error e

/-- What it is for the answers of the comparisons that take a text to agree with each other, and with
the order of the two operands where there is one. -/
structure AreCoherent (answer : ComparisonOp → Except EvalError Value) (order? : Option Ordering) :
    Prop where
  equality : AreOpposite (answer .equals) (answer .notEqualTo)
  greater : AreOppositeOrFail (answer .greaterThan) (answer .lessThanOrEqualTo)
  less : AreOppositeOrFail (answer .lessThan) (answer .greaterThanOrEqualTo)
  /-- Every answer is that of the order, and of less, equal and greater just one is yes. -/
  ordered : ∀ order, order? = some order →
    (∀ op, op.takesText = true → answer op = .ok (.boolean (op.holdsFor order))) ∧
      ∃! op, op ∈ [.lessThan, .equals, .greaterThan] ∧ answer op = .ok (.boolean true)
  unordered : order? = none →
    answer .equals = .ok (.boolean false) ∧ ∀ op, op.isOrdering = true → ∃ e, answer op = .error e

namespace ComparisonOp

variable (v w : Value)

/-- An ordering comparison and its contrary say the opposite of each other, unless the values have
no order. -/
theorem areOppositeOrFail {op contrary : ComparisonOp} (hop : op.isOrdering = true)
    (hcontrary : contrary.isOrdering = true)
    (hopposite : ∀ order, contrary.holdsFor order = !op.holdsFor order) :
    AreOppositeOrFail (op.outcome v w) (contrary.outcome v w) := by
  unfold outcome
  cases v.cmp? w with
  | none => exact Or.inr ⟨⟨_, if_pos hop⟩, ⟨_, if_pos hcontrary⟩⟩
  | some order =>
    refine Or.inl ⟨op.holdsFor order, rfl, ?_⟩
    dsimp only
    rw [hopposite order]

/-- Of less, equal and greater just one holds. -/
theorem existsUnique_holdsFor (order : Ordering) :
    ∃! op, op ∈ [lessThan, equals, greaterThan] ∧ op.holdsFor order = true := by
  have hunique : ∀ op ∈ [lessThan, equals, greaterThan], ∀ op' ∈ [lessThan, equals, greaterThan],
      op.holdsFor order = true → op'.holdsFor order = true → op' = op := by
    cases order <;> decide
  have hexists : ∃ op ∈ [lessThan, equals, greaterThan], op.holdsFor order = true := by
    cases order <;> decide
  obtain ⟨op, hmem, hop⟩ := hexists
  exact ⟨op, ⟨hmem, hop⟩, fun op' h => hunique op hmem op' h.1 hop h.2⟩

theorem areCoherent_outcome : AreCoherent (fun op => op.outcome v w) (v.cmp? w) where
  equality := by
    unfold outcome
    cases v.cmp? w with
    | none => exact ⟨false, rfl, rfl⟩
    | some order => exact ⟨order == .eq, rfl, rfl⟩
  greater := areOppositeOrFail v w rfl rfl fun order => by cases order <;> rfl
  less := areOppositeOrFail v w rfl rfl fun order => by cases order <;> rfl
  ordered := by
    intro order horder
    have houtcome : ∀ op : ComparisonOp, op.outcome v w = .ok (.boolean (op.holdsFor order)) := by
      intro op
      rw [outcome, horder]
    refine ⟨fun op _ => houtcome op, ?_⟩
    simp only [houtcome, Except.ok.injEq, Value.boolean.injEq]
    exact existsUnique_holdsFor order
  unordered := by
    intro hnone
    unfold outcome
    rw [hnone]
    exact ⟨rfl, fun op hop => ⟨_, if_pos hop⟩⟩

end ComparisonOp

theorem ComparisonOp.takesText_of_isOrdering {op : ComparisonOp} (h : op.isOrdering = true) :
    op.takesText = true := by
  cases op <;> first | rfl | cases h

/-- Coherence is about the comparisons that take a text. -/
theorem AreCoherent.congr {answer answer' : ComparisonOp → Except EvalError Value}
    {order? : Option Ordering} (h : AreCoherent answer order?)
    (heq : ∀ op, op.takesText = true → answer' op = answer op) : AreCoherent answer' order? where
  equality := by
    rw [heq .equals rfl, heq .notEqualTo rfl]
    exact h.equality
  greater := by
    rw [heq .greaterThan rfl, heq .lessThanOrEqualTo rfl]
    exact h.greater
  less := by
    rw [heq .lessThan rfl, heq .greaterThanOrEqualTo rfl]
    exact h.less
  ordered := by
    intro order horder
    obtain ⟨hall, hunique⟩ := h.ordered order horder
    have htext : ∀ op ∈ [ComparisonOp.lessThan, .equals, .greaterThan], op.takesText = true := by
      decide
    refine ⟨fun op hop => (heq op hop).trans (hall op hop), (existsUnique_congr ?_).2 hunique⟩
    intro op
    refine and_congr_right fun hmem => ?_
    rw [heq op (htext op hmem)]
  unordered := by
    intro hnone
    obtain ⟨hequals, hfail⟩ := h.unordered hnone
    refine ⟨(heq .equals rfl).trans hequals, fun op hop => ?_⟩
    rw [heq op (ComparisonOp.takesText_of_isOrdering hop)]
    exact hfail op hop

/-- The comparisons of a field that has a value.  Those that take a text make a condition of it all or
none, for one reason, and their conditions are coherent.  The two conditions on membership in a set
are opposite, and so are the two on null. -/
theorem translate_coherent (f : FieldRef) (s : String) (set : List String) {scope : Scope}
    {v : Value} (hv : f.expr.eval scope = .ok v) :
    ((∃ err, ∀ op, op.takesText = true → translate f (some op) (.text s) = .error err) ∨
      ∃ w t, ∃ condition : ComparisonOp → Expr, literalConstant f s = .ok (.const w t) ∧
        (∀ op, op.takesText = true → translate f (some op) (.text s) = .ok (condition op)) ∧
        AreCoherent (fun op => (condition op).eval scope) (v.cmp? w)) ∧
    (∃ e e', translate f (some .isIn) (.textSet set) = .ok e ∧
      translate f (some .notIn) (.textSet set) = .ok e' ∧
      AreOpposite (e.eval scope) (e'.eval scope)) ∧
    ∃ e e', translate f (some .isNull) (.flag true) = .ok e ∧
      translate f (some .isNull) (.flag false) = .ok e' ∧
      AreOpposite (e.eval scope) (e'.eval scope) := by
  refine ⟨?_, ?_, ?_⟩
  · cases hliteral : literalConstant f s with
    | error err =>
      exact Or.inl ⟨err, fun op hop => translate_eq_error_of_literalConstant hliteral hop⟩
    | ok c =>
      obtain ⟨w, t, rfl⟩ := exists_const_of_literalConstant hliteral
      obtain ⟨condition, hcondition⟩ := exists_conditions hliteral
      refine Or.inr ⟨w, t, condition, rfl, fun op hop => (hcondition op hop).1, ?_⟩
      exact (ComparisonOp.areCoherent_outcome v w).congr fun op hop => (hcondition op hop).2 scope v hv
  · have hin := eval_textIn hv set
    refine ⟨_, _, rfl, rfl, set.contains v.text, hin, ?_⟩
    rw [Expr.eval_not, hin]
    rfl
  · have htext : (Expr.text f.expr).eval scope = .ok (.string v.text) := by
      rw [Expr.eval_text, hv]
      rfl
    obtain ⟨hequal, hnotEqual⟩ := eval_equality (w := .string "") (.scalar .string) htext rfl
    have hopposite := (ComparisonOp.areCoherent_outcome (.string v.text) (.string "")).equality
    rw [← hequal, ← hnotEqual] at hopposite
    exact ⟨_, _, rfl, rfl, hopposite⟩

namespace Sample

/-- The element that a filter looks at. -/
def element : Parameter := ⟨⟨0⟩, "p", .object "Person"⟩

/-- A member of the element. -/
def member (name : String) (type : DataType) : FieldRef :=
  ⟨⟨name⟩, .member element.expr name (.scalar type), .scalar type⟩

/-- The scope in which the element has a value under a name. -/
def holding (name : String) (v : Value) : Scope := [(element.id, .record [(name, v)])]

end Sample

open Sample in
/-- At thirty-six, all comparisons with forty are coherent.  With a word there are none. -/
theorem translate_coherent_age :
    (member "age" .int).expr.eval (holding "age" (.int 36)) = .ok (.int 36) ∧
    (∃ condition : ComparisonOp → Expr,
      (∀ op, op.takesText = true →
        translate (member "age" .int) (some op) (.text "40") = .ok (condition op)) ∧
      AreCoherent (fun op => (condition op).eval (holding "age" (.int 36))) (some .lt)) ∧
    ∃ err, ∀ op, op.takesText = true →
      translate (member "age" .int) (some op) (.text "old") = .error err := by
  have hage : (member "age" .int).expr.eval (holding "age" (.int 36)) = .ok (.int 36) := rfl
  have hforty : literalConstant (member "age" .int) "40" =
      .ok (.const (.int 40) (.scalar .int)) := rfl
  have hword : translate (member "age" .int) (some .equals) (.text "old") =
      .error (.typeCoercion "age" "old" "Int") := rfl
  refine ⟨hage, ?_, ?_⟩
  · rcases (translate_coherent _ "40" [] hage).1 with ⟨err, herr⟩ | ⟨w, t, condition, hw, hall, h⟩
    · have hequals := herr .equals rfl
      cases hequals
    · rw [hforty] at hw
      obtain ⟨rfl, -⟩ := Expr.const.inj (Except.ok.inj hw)
      exact ⟨condition, hall, h⟩
  · rcases (translate_coherent _ "old" [] hage).1 with herr | ⟨w, t, condition, -, hall, -⟩
    · exact herr
    · have hequals := hall .equals rfl
      rw [hword] at hequals
      cases hequals

end TypedQuery
