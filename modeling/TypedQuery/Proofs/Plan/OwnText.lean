import TypedQuery.Proofs.Plan.Comparison
import TypedQuery.Proofs.Value.Text

/-!
# Filtering by the text of a value

A filter comes with texts, and the text of a value is what there is to look for it by.  Where texts
are lossless (`DataType.isLossless`) the value is found, and nothing else is: a condition reads its
text as the value it came from or as that text (`Value.exists_parseAs?_text`), and either is equal to
what has the same text.  Membership, which looks at texts alone, comes to the same:
`translate_ownText`.

Documents are not found in this way.  A text that is compared with a document is not read as one, and
has no order with it.  So a document is not equal to any text, not even its own, and the ordering
comparisons fail on it, while membership still goes by its text: `translate_document`.
-/

namespace TypedQuery

/-- The text of a field is in the set of one text if it is that text. -/
theorem eval_textIn_singleton {f : FieldRef} {scope : Scope} {v : Value}
    (hv : f.expr.eval scope = .ok v) (s : String) :
    (textIn f [s]).eval scope = .ok (.boolean (v.text == s)) := by
  rw [eval_textIn hv, List.contains_cons, List.contains_nil, Bool.or_false]

/-! ## Lossless types -/

section Lossless

variable {f : FieldRef} {type : DataType} {v w u : Value} {s : String}

theorem literalConstant_of_parseAs? (hty : f.ty = .scalar type) (htype : type.isLossless = true)
    (h : Value.parseAs? s type = some u) : literalConstant f s = .ok (.const u (.scalar type)) := by
  have hdeclared : f.declared? = some type := congrArg ExprType.scalar? hty
  unfold literalConstant
  rw [hdeclared]
  cases type with
  | float | double | decimal | uuid | date | timestamp | json | null => cases htype
  | _ => simp only [h]

/-- Filtering by the text of a value.  The condition that a field is equal to the text and the one
that its text is in the set of it exist, and hold for just the values that are equal to this one. -/
theorem translate_ownText (hty : f.ty = .scalar type) (htype : type.isLossless = true)
    (hnull : w ≠ .null) (hw : w.coerceTo? type = some w) :
    ∃ e e', translate f (some .equals) (.text w.text) = .ok e ∧
      translate f (some .isIn) (.textSet [w.text]) = .ok e' ∧
      ∀ scope v, f.expr.eval scope = .ok v → v ≠ .null → v.coerceTo? type = some v →
        e.eval scope = .ok (.boolean (v.equal w)) ∧ e'.eval scope = .ok (.boolean (v.equal w)) := by
  obtain ⟨hwtype, hwfits⟩ := Value.isCompatible_and_fits_of_coerceTo? hnull hw
  obtain ⟨u, hread, hutype, hutext⟩ := Value.exists_parseAs?_text htype hwtype hwfits
  have hliteral := literalConstant_of_parseAs? hty htype hread
  have hequals : ComparisonOp.equals.takesText = true := rfl
  obtain ⟨e, he, heval⟩ := exists_translate_text hliteral hequals
  refine ⟨e, _, he, rfl, fun scope v hv hvnull hvconforms => ?_⟩
  obtain ⟨hvtype, -⟩ := Value.isCompatible_and_fits_of_coerceTo? hvnull hvconforms
  have hequal : v.equal u = v.equal w := by
    rw [Bool.eq_iff_iff, Value.equal_iff_text_eq htype hvtype hutype,
      Value.equal_iff_text_eq htype hvtype hwtype, hutext]
  constructor
  · have hatom := Value.isAtom_of_literalConstant hliteral
    rw [heval scope v hv, ComparisonOp.outcome_equals hatom, hequal]
  · have hmember : (v.text == w.text) = v.equal w := by
      rw [Bool.eq_iff_iff, Value.equal_iff_text_eq htype hvtype hwtype, beq_iff_eq]
    rw [eval_textIn_singleton hv, hmember]

end Lossless

open Sample in
/-- The text of minus seven finds minus seven and not seven. -/
theorem translate_ownText_minusSeven :
    (member "age" .short).ty = .scalar .short ∧ DataType.short.isLossless = true ∧
    Value.int (-7) ≠ .null ∧ (Value.int (-7)).coerceTo? .short = some (.int (-7)) ∧
    ∃ e e', translate (member "age" .short) (some .equals) (.text "-7") = .ok e ∧
      translate (member "age" .short) (some .isIn) (.textSet ["-7"]) = .ok e' ∧
      e.eval (holding "age" (.int (-7))) = .ok (.boolean true) ∧
      e'.eval (holding "age" (.int (-7))) = .ok (.boolean true) ∧
      e.eval (holding "age" (.int 7)) = .ok (.boolean false) ∧
      e'.eval (holding "age" (.int 7)) = .ok (.boolean false) := by
  have hage : ∀ v, (member "age" .short).expr.eval (holding "age" v) = .ok v := fun _ => rfl
  have htext : (Value.int (-7)).text = "-7" := by decide +kernel
  have hminus : (Value.int (-7)).coerceTo? .short = some (.int (-7)) := rfl
  have hseven : (Value.int 7).coerceTo? .short = some (.int 7) := rfl
  refine ⟨rfl, rfl, nofun, hminus, ?_⟩
  obtain ⟨e, e', he, he', heval⟩ :=
    translate_ownText (f := member "age" .short) (w := .int (-7)) rfl rfl nofun hminus
  rw [htext] at he he'
  obtain ⟨hfound, hfound'⟩ := heval _ (.int (-7)) (hage _) nofun hminus
  obtain ⟨hother, hother'⟩ := heval _ (.int 7) (hage _) nofun hseven
  exact ⟨e, e', he, he', hfound, hfound', hother, hother'⟩

/-! ## Documents -/

section Documents

variable {f : FieldRef}

/-- A text that a document is compared with stays a text. -/
theorem literalConstant_of_document (hty : f.ty = .scalar .json) (s : String) :
    literalConstant f s = .ok (.const (.string s) (.scalar .json)) := by
  have hdeclared : f.declared? = some .json := congrArg ExprType.scalar? hty
  rw [literalConstant, hdeclared]

/-- Between a document and a text there is no order. -/
theorem outcome_document (op : ComparisonOp) (j : Json) (s : String) :
    op.outcome (.json j) (.string s) =
      if op.isOrdering then .error (.typeMismatch "JSON" "String")
      else .ok (.boolean (op == .notEqualTo)) := rfl

/-- Filtering documents by a text.  All comparisons make a condition of the text.  A field that holds
a document is not equal to it, whatever the document, and cannot be ordered beside it, although the
document is a member of the set of its own text.  A field that holds a text is compared as a text. -/
theorem translate_document (hty : f.ty = .scalar .json) (s : String) :
    ∃ condition : ComparisonOp → Expr, ∃ membership,
      (∀ op, op.takesText = true → translate f (some op) (.text s) = .ok (condition op)) ∧
      translate f (some .isIn) (.textSet [s]) = .ok membership ∧
      (∀ scope j, f.expr.eval scope = .ok (.json j) →
        (condition .equals).eval scope = .ok (.boolean false) ∧
        (condition .notEqualTo).eval scope = .ok (.boolean true) ∧
        (∀ op, op.isOrdering = true →
          (condition op).eval scope = .error (.typeMismatch "JSON" "String")) ∧
        membership.eval scope = .ok (.boolean ((Value.json j).text == s))) ∧
      ∀ scope t, f.expr.eval scope = .ok (.string t) → ∀ op, op.takesText = true →
        (condition op).eval scope = .ok (.boolean (op.holdsFor (Value.cmpText t s))) := by
  obtain ⟨condition, hcondition⟩ := exists_conditions (literalConstant_of_document hty s)
  refine ⟨condition, _, fun op hop => (hcondition op hop).1, rfl, ?_, ?_⟩
  · intro scope j hj
    have houtcome : ∀ op : ComparisonOp, op.takesText = true →
        (condition op).eval scope = op.outcome (.json j) (.string s) :=
      fun op hop => (hcondition op hop).2 scope _ hj
    refine ⟨houtcome .equals rfl, houtcome .notEqualTo rfl, fun op hop => ?_, ?_⟩
    · rw [houtcome op (ComparisonOp.takesText_of_isOrdering hop), outcome_document, if_pos hop]
    · exact eval_textIn_singleton hj s
  · intro scope t ht op hop
    exact (hcondition op hop).2 scope _ ht

end Documents

open Sample in
/-- A document that is a word, beside its own text and beside another. -/
theorem translate_document_red :
    (member "meta" .json).ty = .scalar .json ∧
    ∃ condition : ComparisonOp → Expr, ∃ membership,
      translate (member "meta" .json) (some .equals) (.text "red") = .ok (condition .equals) ∧
      translate (member "meta" .json) (some .isIn) (.textSet ["red"]) = .ok membership ∧
      (condition .equals).eval (holding "meta" (.json (.string "red"))) = .ok (.boolean false) ∧
      (condition .lessThan).eval (holding "meta" (.json (.string "red"))) =
        .error (.typeMismatch "JSON" "String") ∧
      membership.eval (holding "meta" (.json (.string "red"))) = .ok (.boolean true) ∧
      (condition .equals).eval (holding "meta" (.string "red")) = .ok (.boolean true) := by
  have hmeta : ∀ v, (member "meta" .json).expr.eval (holding "meta" v) = .ok v := fun _ => rfl
  obtain ⟨condition, membership, htranslate, hmembership, hdocument, htext⟩ :=
    translate_document (f := member "meta" .json) rfl "red"
  obtain ⟨hequals, -, hordering, hin⟩ := hdocument _ (.string "red") (hmeta _)
  refine ⟨rfl, condition, membership, htranslate .equals rfl, hmembership, hequals,
    hordering .lessThan rfl, hin, ?_⟩
  rw [htext _ "red" (hmeta _) .equals rfl, Value.cmpText_eq_eq_iff.2 rfl]
  rfl

open Sample in
/-- A document that is a word is not equal to its own text, and cannot be ordered beside another. -/
theorem eval_documentRed :
    (Value.json (.string "red")).text = "red" ∧
    (∃ e, translate (member "meta" .json) (some .equals) (.text "red") = .ok e ∧
      e.eval (holding "meta" (.json (.string "red"))) = .ok (.boolean false)) ∧
    ∃ e, translate (member "meta" .json) (some .greaterThan) (.text "blue") = .ok e ∧
      e.eval (holding "meta" (.json (.string "red"))) = .error (.typeMismatch "JSON" "String") :=
  ⟨rfl, ⟨_, rfl, rfl⟩, ⟨_, rfl, rfl⟩⟩

end TypedQuery
