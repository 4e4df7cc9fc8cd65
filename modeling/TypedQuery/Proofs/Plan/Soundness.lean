import TypedQuery.Proofs.Plan.Comparison
import TypedQuery.Proofs.Plan.Filter
import TypedQuery.Proofs.Plan.Lookup
import TypedQuery.Proofs.Value.Coercion
import TypedQuery.Sample

/-!
# Filters on data of their types

A filter is compiled against declared types, and data that has these types (`Schema.Conforms`) does
not make it fail: `compileFilter_eval_conforms`.  A path leads from a conforming value to a
conforming value, since a member of null is null.  There the literal of a comparison is of the
declared scalar type too, and the two have an order unless that type is one of documents or of
floating-point numbers.
-/

namespace TypedQuery

/-! ## Conforming values -/

/-- The values of a type of a schema.  Null is a value of every type, a scalar is one that its type
converts to itself, and a record has a value for each declared member.  Of other types, and of
objects that the schema does not know, nothing is asked. -/
inductive Schema.Conforms (s : Schema) : ExprType → Value → Prop where
  | null (ty : ExprType) : Conforms s ty .null
  | scalar {type : DataType} {v : Value} (h : v.coerceTo? type = some v) :
      Conforms s (.scalar type) v
  | object {name : String} {t : TypeDescriptor} {fields : Dict Value} (ht : s.type? name = some t)
      (hheld : ∀ m ∈ t.members, (fields.get? m.name).isSome = true)
      (hmembers : ∀ m ∈ t.members, ∀ v, fields.get? m.name = some v → Conforms s m.ty v) :
      Conforms s (.object name) (.record fields)
  | unknown {name : String} (h : s.type? name = none) (v : Value) : Conforms s (.object name) v
  | record {types : List (String × ExprType)} {fields : Dict Value}
      (hheld : ∀ m ∈ types, (fields.get? m.1).isSome = true)
      (hmembers : ∀ m ∈ types, ∀ v, fields.get? m.1 = some v → Conforms s m.2 v) :
      Conforms s (.record types) (.record fields)
  | sequence (element : ExprType) (v : Value) : Conforms s (.sequence element) v
  | function (params : List ExprType) (output : ExprType) (v : Value) :
      Conforms s (.function params output) v

theorem Value.member_of_get? {fields : Dict Value} {name : String} {v : Value}
    (h : fields.get? name = some v) : (Value.record fields).member name = .ok v := by
  simp only [member, field?, h]

namespace MemberResolver

variable {r : MemberResolver}

/-- A declared member of a conforming value is there, and conforms. -/
theorem exists_member_of_conforms {owner ty : ExprType} {name declared : String} {v : Value}
    (h : r.member owner name = .ok (declared, ty)) (hv : r.schema.Conforms owner v) :
    ∃ w, v.member declared = .ok w ∧ r.schema.Conforms ty w := by
  obtain ⟨entries, hentries, hpick⟩ := member_eq_ok_iff.1 h
  have hmem := mem_of_pick? hpick
  cases hv with
  | null => exact ⟨.null, rfl, .null ty⟩
  | scalar | sequence | function => cases hentries
  | unknown htype =>
    rw [Schema.entries?, htype] at hentries
    cases hentries
  | object htype hheld hmembers =>
    rw [Schema.entries?, htype] at hentries
    obtain rfl := Option.some.inj hentries
    obtain ⟨m, hm, heq⟩ := List.mem_map.1 hmem
    obtain ⟨rfl, rfl⟩ := Prod.mk.inj heq
    obtain ⟨w, hw⟩ := Option.isSome_iff_exists.1 (hheld m hm)
    exact ⟨w, Value.member_of_get? hw, hmembers m hm w hw⟩
  | record hheld hmembers =>
    obtain rfl := Option.some.inj hentries
    obtain ⟨w, hw⟩ := Option.isSome_iff_exists.1 (hheld _ hmem)
    exact ⟨w, Value.member_of_get? hw, hmembers _ hmem w hw⟩

/-! ## Paths -/

/-- The declared types of the members that a path passes through, and of the one it ends at. -/
def typesAlong (r : MemberResolver) (owner : ExprType) : List String → List ExprType
  | [] => []
  | name :: rest =>
    match r.member owner name with
    | .ok (_, ty) => ty :: r.typesAlong ty rest
    | .error _ => []

/-- Along a path conforming values lead to conforming values. -/
theorem exists_eval_of_follow {e e' : Expr} {ty ty' : ExprType} {names : List String}
    {scope : Scope} {v : Value} (h : r.follow e ty names = .ok (e', ty'))
    (he : e.eval scope = .ok v) (hv : r.schema.Conforms ty v) :
    ∃ w, e'.eval scope = .ok w ∧ r.schema.Conforms ty' w := by
  induction names generalizing e ty v with
  | nil =>
    obtain ⟨rfl, rfl⟩ := Prod.mk.inj (Except.ok.inj h)
    exact ⟨v, he, hv⟩
  | cons name names ih =>
    rw [follow_cons, bind_eq_ok_iff] at h
    obtain ⟨⟨declared, memberTy⟩, hmember, h⟩ := h
    obtain ⟨w, hw, hconforms⟩ := exists_member_of_conforms hmember hv
    refine ih h ?_ hconforms
    rw [Expr.eval_member, he, ok_bind, hw]

theorem mem_typesAlong_of_follow {e e' : Expr} {ty ty' : ExprType} {names : List String}
    (hnames : names ≠ []) (h : r.follow e ty names = .ok (e', ty')) :
    ty' ∈ r.typesAlong ty names := by
  induction names generalizing e ty with
  | nil => exact absurd rfl hnames
  | cons name names ih =>
    rw [follow_cons, bind_eq_ok_iff] at h
    obtain ⟨⟨declared, memberTy⟩, hmember, h⟩ := h
    rw [typesAlong, hmember]
    cases names with
    | nil =>
      obtain ⟨-, rfl⟩ := Prod.mk.inj (Except.ok.inj h)
      exact List.mem_cons_self ..
    | cons next names => exact List.mem_cons_of_mem _ (ih (List.cons_ne_nil _ _) h)

/-- A path from a conforming element has a value, which conforms to the type that the path ends
at. -/
theorem exists_eval_of_resolvePath {p : Parameter} {path : FieldPath} {f : FieldRef} {scope : Scope}
    {v : Value} (h : r.resolvePath p.expr path = .ok f) (hscope : scope.get? p.id = some v)
    (hv : r.schema.Conforms p.ty v) :
    f.ty ∈ r.typesAlong p.ty path.segments ∧
      ∃ w, f.expr.eval scope = .ok w ∧ r.schema.Conforms f.ty w := by
  rw [resolvePath_eq] at h
  split at h
  · cases h
  · rename_i hempty
    obtain ⟨⟨e, ty⟩, hfollow, rfl⟩ := map_eq_ok_iff.1 h
    have hsegments : path.segments ≠ [] := by
      intro hnil
      rw [FieldPath.isEmpty, hnil] at hempty
      exact hempty rfl
    exact ⟨mem_typesAlong_of_follow hsegments hfollow,
      exists_eval_of_follow hfollow (Expr.eval_param_of_get? hscope) hv⟩

end MemberResolver

/-! ## Conditions -/

section Conditions

variable {s : Schema} {f : FieldRef} {scope : Scope} {v w : Value} {t : ExprType} {text : String}
  {e : Expr}

/-- A conforming value and a literal that it is compared with have an order. -/
theorem isSome_cmp?_of_literalConstant (h : literalConstant f text = .ok (.const w t))
    (hv : s.Conforms f.ty v) (hkind : ∀ type, f.ty = .scalar type → type.kind?.isSome = true) :
    (v.cmp? w).isSome = true := by
  obtain ⟨type, hty, hread⟩ := literalConstant_cases h
  have hkind := hkind type hty
  rw [hty] at hv
  have hnull : v = .null ∨ type.isCompatible v.dataType = true := by
    cases hv with
    | null => exact Or.inl rfl
    | scalar hcoerce => exact Value.eq_null_or_isCompatible_of_coerceTo? hcoerce
  rcases hnull with rfl | hcompatible
  · exact Value.isSome_cmp?_null w
  rcases hread with ⟨rfl | rfl, -⟩ | hread
  · -- Nothing but null has the type of null.
    obtain rfl : v = .null := by
      cases v <;> first | rfl | cases hcompatible
    exact Value.isSome_cmp?_null w
  · cases hkind
  · exact Value.isSome_cmp?_of_isCompatible hkind hcompatible
      (Value.isCompatible_and_fits_of_parseAs? hread).1

/-- Two values with an order are compared without failure. -/
theorem exists_outcome_eq_ok {op : ComparisonOp} (h : (v.cmp? w).isSome = true) :
    ∃ b, op.outcome v w = .ok (.boolean b) := by
  obtain ⟨order, horder⟩ := Option.isSome_iff_exists.1 h
  rw [ComparisonOp.outcome, horder]
  exact ⟨_, rfl⟩

/-- A condition on a field with a conforming value is true or false. -/
theorem exists_eval_of_translate {op : Option ComparisonOp} {literal : Literal}
    (h : translate f op literal = .ok e) (hv : f.expr.eval scope = .ok v)
    (hconforms : s.Conforms f.ty v)
    (hkind : ∀ type, f.ty = .scalar type → type.kind?.isSome = true) :
    ∃ b, e.eval scope = .ok (.boolean b) := by
  cases op with
  | none => cases h
  | some op =>
    cases literal with
    | text s =>
      have hop : op.takesText = true := by
        cases op with
        | isIn | notIn | isNull => cases h
        | _ => rfl
      obtain ⟨w, t, hliteral, heval⟩ := exists_literal_of_translate h hop
      rw [heval scope v hv]
      exact exists_outcome_eq_ok (isSome_cmp?_of_literalConstant hliteral hconforms hkind)
    | textSet set =>
      cases op with
      | isIn =>
        obtain rfl := Except.ok.inj h
        exact ⟨_, eval_textIn hv set⟩
      | notIn =>
        obtain rfl := Except.ok.inj h
        rw [Expr.eval_not, eval_textIn hv set]
        exact ⟨_, rfl⟩
      | _ => cases h
    | flag b =>
      cases op with
      | isNull =>
        obtain rfl := Except.ok.inj h
        have htext : (Expr.text f.expr).eval scope = .ok (.string v.text) := by
          rw [Expr.eval_text, hv, ok_bind]
        obtain ⟨hequal, hnotEqual⟩ := eval_equality (w := .string "") (.scalar .string) htext rfl
        cases b with
        | false => exact hnotEqual ▸ exists_outcome_eq_ok rfl
        | true => exact hequal ▸ exists_outcome_eq_ok rfl
      | _ => cases h
    | absent => cases op <;> cases h

end Conditions

/-! ## Clauses and filters -/

/-- Whether the members along a path are declared with types whose values have an order. -/
def MemberResolver.IsOrderedAlong (r : MemberResolver) (owner : ExprType) (path : FieldPath) :
    Prop :=
  ∀ type, .scalar type ∈ r.typesAlong owner path.segments →
    type ≠ .json ∧ type ≠ .float ∧ type ≠ .double

theorem DataType.isSome_kind? {type : DataType}
    (h : type ≠ .json ∧ type ≠ .float ∧ type ≠ .double) : type.kind?.isSome = true := by
  obtain ⟨hjson, hfloat, hdouble⟩ := h
  cases type with
  | json => exact absurd rfl hjson
  | float => exact absurd rfl hfloat
  | double => exact absurd rfl hdouble
  | _ => rfl

theorem exists_eval_of_clauseCondition {r : MemberResolver} {p : Parameter} {path : FieldPath}
    {c : FilterClause} {e : Expr} (h : clauseCondition r p path c = .ok e)
    (hpath : r.IsOrderedAlong p.ty path) {scope : Scope} {v : Value}
    (hscope : scope.get? p.id = some v) (hv : r.schema.Conforms p.ty v) :
    ∃ b, e.eval scope = .ok (.boolean b) := by
  rw [clauseCondition_eq, bind_eq_ok_iff] at h
  obtain ⟨-, -, h⟩ := h
  obtain ⟨f, hf, h⟩ := bind_eq_ok_iff.1 h
  obtain ⟨hmem, w, hw, hconforms⟩ := MemberResolver.exists_eval_of_resolvePath hf hscope hv
  refine exists_eval_of_translate h hw hconforms ?_
  intro type hty
  rw [hty] at hmem
  exact DataType.isSome_kind? (hpath type hmem)

/-- A compiled filter says yes or no of every record that has the type of the elements, if no path
of a clause meets a member declared as a document or as a floating-point number. -/
theorem compileFilter_eval_conforms {c : Compiler} {clauses : List FilterClause} {name : String}
    {supply supply' : Supply} {f : CompiledFilter}
    (h : c.compileFilter clauses (.object name) supply = .ok (f, supply'))
    (hpaths : ∀ clause ∈ clauses, ∀ path ∈ clause.field,
      c.resolver.IsOrderedAlong (.object name) path)
    {fields : Dict Value} (hfields : c.schema.Conforms (.object name) (.record fields))
    (scope : Scope) : ∃ b, f.predicate.apply scope (.record fields) = .ok (.boolean b) := by
  rw [Compiler.compileFilter_eq, map_eq_ok_iff] at h
  obtain ⟨g, hg, heq⟩ := h
  obtain ⟨rfl, -⟩ := Prod.mk.inj heq
  obtain ⟨condition, hcondition, htest, hover, -, hanswer⟩ :=
    exists_conditions_of_compileFilter (compileFilter_drop_of_ok hg)
  have hscope : (scope.bind (supply.draw "p" (.object name)).1 (.record fields)).get?
      (supply.draw "p" (.object name)).1.id = some (.record fields) := Scope.get?_bind_self
  have hclauses : ∀ clause ∈ clauses, clause.isValid = true → ∃ b, (condition clause).test
      (scope.bind (supply.draw "p" (.object name)).1 (.record fields)) = .ok b := by
    intro clause hmem hvalid
    obtain ⟨path, hpath⟩ := clause.exists_field_of_isValid hvalid
    have hclause := hcondition clause hmem hvalid
    rw [FilterClause.condition, hpath] at hclause
    obtain ⟨b, hb⟩ := exists_eval_of_clauseCondition hclause (hpaths clause hmem path hpath) hscope
      hfields
    exact ⟨b, by rw [Expr.test, hb]; rfl⟩
  obtain ⟨b, hb⟩ := exists_filterAnswer_eq_ok hclauses
  refine ⟨b, ?_⟩
  rw [Lambda.apply, hover.params_eq, Scope.enter_singleton, htest, hanswer, hb, map_ok]

namespace Sample

/-- The compiler of the directory's schema, with the standard settings. -/
def directoryCompiler : Compiler :=
  match schema ⟨0⟩ with
  | .ok (s, _) => ⟨s, .standard⟩
  | .error _ => default

/-- Those over thirty whose owner is Byron. -/
def byronClauses : List FilterClause :=
  [.ofText ⟨"age"⟩ .greaterThan "30", .ofText ⟨"owner.name"⟩ .equals "Byron"]

/-- The record of a person without an email address. -/
def adaFields : Dict Value :=
  [("age", .int 36), ("born", .null), ("email", .null), ("id", .int 1), ("name", .string "Ada"),
    ("owner", .record [("name", .string "Byron")]), ("pets", .list [])]

theorem conforms_byron :
    directoryCompiler.schema.Conforms (.object "Owner") (.record [("name", .string "Byron")]) := by
  refine .object (t := ⟨"Owner", none, [⟨"name", .scalar .string⟩]⟩) rfl ?_ ?_
  · intro m hm
    obtain rfl := List.mem_singleton.1 hm
    rfl
  · intro m hm v hv
    obtain rfl := List.mem_singleton.1 hm
    obtain rfl := Option.some.inj hv
    exact .scalar rfl

theorem conforms_adaFields :
    directoryCompiler.schema.Conforms (.object "Person") (.record adaFields) := by
  refine .object (t := types[1]) rfl ?_ ?_
  · unfold types
    simp only [List.getElem_cons_succ, List.getElem_cons_zero, List.forall_mem_cons]
    exact ⟨rfl, rfl, rfl, rfl, rfl, rfl, rfl, nofun⟩
  · unfold types
    simp only [List.getElem_cons_succ, List.getElem_cons_zero, List.forall_mem_cons]
    refine ⟨?id, ?name, ?age, ?born, ?email, ?owner, ?pets, nofun⟩
    all_goals
      intro v hv
      obtain rfl := Option.some.inj hv
    case id | name | age => exact .scalar rfl
    case born | email => exact .null _
    case owner => exact conforms_byron
    case pets => exact .sequence _ _

theorem isOrderedAlong_byronClauses : ∀ clause ∈ byronClauses, ∀ path ∈ clause.field,
    directoryCompiler.resolver.IsOrderedAlong (.object "Person") path := by
  unfold byronClauses
  simp only [List.forall_mem_cons]
  refine ⟨?_, ?_, nofun⟩
  · intro path hpath type htype
    obtain rfl := Option.some.inj hpath
    have htype : .scalar type ∈ [ExprType.scalar .int] := htype
    obtain rfl : type = .int := by simpa using htype
    decide
  · intro path hpath type htype
    obtain rfl := Option.some.inj hpath
    have htype : .scalar type ∈ [.object "Owner", ExprType.scalar .string] := htype
    obtain rfl : type = .string := by simpa using htype
    decide

end Sample

open Sample in
/-- The filter on the people of the directory says yes or no of Ada. -/
theorem compileFilter_byronClauses :
    (∃ s, schema ⟨0⟩ = .ok (directoryCompiler.schema, s)) ∧
    (∀ clause ∈ byronClauses, ∀ path ∈ clause.field,
      directoryCompiler.resolver.IsOrderedAlong (.object "Person") path) ∧
    directoryCompiler.schema.Conforms (.object "Person") (.record adaFields) ∧
    ∃ f s, directoryCompiler.compileFilter byronClauses (.object "Person") ⟨0⟩ = .ok (f, s) ∧
      ∃ b, f.predicate.apply [] (.record adaFields) = .ok (.boolean b) := by
  obtain ⟨f, s, hf⟩ : ∃ f s, directoryCompiler.compileFilter byronClauses (.object "Person") ⟨0⟩ =
      .ok (f, s) := ⟨_, _, rfl⟩
  exact ⟨⟨_, rfl⟩, isOrderedAlong_byronClauses, conforms_adaFields, f, s, hf,
    compileFilter_eval_conforms hf isOrderedAlong_byronClauses conforms_adaFields []⟩

end TypedQuery
