import TypedQuery.Form.Part
import TypedQuery.Plan.Predicate
import TypedQuery.Proofs.FieldPath
import TypedQuery.Proofs.Wire.Attributes

/-!
# What a clause on the wire says

Reading a clause goes through its entries, and an entry changes the attribute that it names and no
other (`isSome_literal?_of_setField`, `field_of_setField`).  So what the clause that is meant lacks
can be told from the document: `decodeFilter_clause`.  A clause that lacks nothing has a literal of
the kind that its comparison takes, so on a scalar field its translation can fail in one way only,
that its text is none of the field's type: `translate_eq_error_iff`.
-/

namespace TypedQuery

open Json Text

/-! ## What the entries say -/

/-- The content of the last entry under a key. -/
def lastContent? : List (String × Json) → String → Option Json
  | [], _ => none
  | (key, content) :: rest, name =>
    (lastContent? rest name).or (if key = name then some content else none)

/-- Whether the attribute of a comparison is there and is not null. -/
def writesOperator (entries : List (String × Json)) (op : ComparisonOp) : Bool :=
  (lastContent? entries op.wireName).any fun content => !content.isNull

/-- The comparisons whose attributes are there and are not null, in canonical order. -/
def writtenOperators (entries : List (String × Json)) : List ComparisonOp :=
  ComparisonOp.all.filter (writesOperator entries)

/-- Whether the field is there and one of its parts between points is not blank. -/
def WritesField (entries : List (String × Json)) : Prop :=
  ∃ s, lastContent? entries "field" = some (.string s) ∧
    ∃ part ∈ FieldPath.splitAtPoints [] s.toList, ∃ c ∈ part, isBlank c = false

/-! ## Reading one entry -/

section Entries

variable {c c' : FilterInput} {j : Json} {entries : List (String × Json)}

theorem isSome_of_decodeOption {α : Type} {decode : Json → Except DecodeFault α} {x : Option α}
    (h : decodeOption decode j = .ok x) : x.isSome = !j.isNull := by
  unfold decodeOption at h
  split at h
  · obtain rfl := Except.ok.inj h
    rfl
  · rename_i hne
    obtain ⟨a, -, rfl⟩ := map_eq_ok_iff.1 h
    cases j with
    | null => exact absurd rfl hne
    | _ => rfl

theorem eq_string?_of_decodeOption {x : Option String}
    (h : decodeOption decodeString j = .ok x) : x = j.string? := by
  cases j <;> first | exact (Except.ok.inj h).symm | cases h

/-- An entry sets the field of the clause if that is its key. -/
theorem field_of_setField (a : ClauseAttribute)
    (h : setField FilterInput.attributes true c (a.name, j) = .ok c') :
    c'.field = if a = .field then j.string? else c.field := by
  cases a with
  | field =>
    obtain ⟨s, hs, h⟩ := bind_eq_ok_iff.1 h
    rw [← Except.ok.inj h, if_pos rfl]
    exact eq_string?_of_decodeOption hs
  | conjunction =>
    obtain ⟨x, -, h⟩ := bind_eq_ok_iff.1 h
    rw [← Except.ok.inj h]
    rfl
  | comparison op =>
    cases op <;>
    · obtain ⟨x, -, h⟩ := bind_eq_ok_iff.1 h
      rw [← Except.ok.inj h]
      rfl

/-- An entry sets the comparison that is its key, unless it is null. -/
theorem isSome_literal?_of_setField (a : ClauseAttribute)
    (h : setField FilterInput.attributes true c (a.name, j) = .ok c') (op : ComparisonOp) :
    (c'.literal? op).isSome =
      if a = .comparison op then !j.isNull else (c.literal? op).isSome := by
  cases a with
  | field | conjunction =>
    obtain ⟨x, -, h⟩ := bind_eq_ok_iff.1 h
    rw [← Except.ok.inj h]
    cases op <;> rfl
  | comparison key =>
    cases key <;>
    · obtain ⟨x, hx, h⟩ := bind_eq_ok_iff.1 h
      rw [← Except.ok.inj h, ← isSome_of_decodeOption hx]
      cases op <;> simp [FilterInput.literal?]

/-- The last entry of a comparison says whether it is set. -/
theorem isSome_literal?_of_foldlM
    (h : entries.foldlM (setField FilterInput.attributes true) c = .ok c') (op : ComparisonOp) :
    (c'.literal? op).isSome =
      ((lastContent? entries op.wireName).map fun content => !content.isNull).getD
        (c.literal? op).isSome := by
  induction entries generalizing c with
  | nil =>
    obtain rfl := Except.ok.inj h
    rfl
  | cons entry entries ih =>
    obtain ⟨key, content⟩ := entry
    rw [List.foldlM_cons, bind_eq_ok_iff] at h
    obtain ⟨d, hd, h⟩ := h
    obtain ⟨a, rfl, -⟩ := exists_setField_eq_ok_iff.1 ⟨d, hd⟩
    have hkey : a.name = op.wireName ↔ a = .comparison op :=
      ⟨fun heq => ClauseAttribute.eq_of_name_eq (b := .comparison op) heq, fun heq => heq ▸ rfl⟩
    rw [ih h, isSome_literal?_of_setField a hd, lastContent?]
    simp only [hkey]
    cases lastContent? entries op.wireName with
    | some last => rfl
    | none =>
      by_cases ha : a = .comparison op
      · simp [ha]
      · simp [ha]

/-- The last entry of the field says what it is. -/
theorem field_of_foldlM
    (h : entries.foldlM (setField FilterInput.attributes true) c = .ok c') :
    c'.field = ((lastContent? entries "field").map Json.string?).getD c.field := by
  induction entries generalizing c with
  | nil =>
    obtain rfl := Except.ok.inj h
    rfl
  | cons entry entries ih =>
    obtain ⟨key, content⟩ := entry
    rw [List.foldlM_cons, bind_eq_ok_iff] at h
    obtain ⟨d, hd, h⟩ := h
    obtain ⟨a, rfl, -⟩ := exists_setField_eq_ok_iff.1 ⟨d, hd⟩
    have hkey : a.name = "field" ↔ a = .field :=
      ⟨fun heq => ClauseAttribute.eq_of_name_eq (b := .field) heq, fun heq => heq ▸ rfl⟩
    rw [ih h, field_of_setField a hd, lastContent?]
    simp only [hkey]
    cases lastContent? entries "field" with
    | some last => rfl
    | none =>
      by_cases ha : a = .field
      · simp [ha]
      · simp [ha]

theorem operators_of_foldlM
    (h : entries.foldlM (setField FilterInput.attributes true) .empty = .ok c') :
    c'.operators = writtenOperators entries := by
  refine List.filter_congr ?_
  intro op _
  have hempty : (FilterInput.empty.literal? op).isSome = false := by cases op <;> rfl
  rw [isSome_literal?_of_foldlM h, hempty, writesOperator]
  cases lastContent? entries op.wireName <;> rfl

theorem isSome_path?_of_foldlM
    (h : entries.foldlM (setField FilterInput.attributes true) .empty = .ok c') :
    c'.clause.path?.isSome = true ↔ WritesField entries := by
  have hfield : c'.clause.field = c'.field.map FieldPath.mk := by
    unfold FilterInput.clause
    split <;> rfl
  have hwritten : ∀ s, c'.field = some s ↔ lastContent? entries "field" = some (.string s) := by
    intro s
    have hnone : FilterInput.empty.field = none := rfl
    rw [field_of_foldlM h, hnone]
    cases lastContent? entries "field" with
    | none => simp
    | some content => cases content <;> simp [Json.string?, decodeString, Except.toOption]
  rw [FilterClause.path?, hfield, Option.isSome_iff_exists]
  constructor
  · rintro ⟨p, hp⟩
    obtain ⟨hp, hnames⟩ := Option.filter_eq_some_iff.1 hp
    obtain ⟨s, hs, rfl⟩ := Option.map_eq_some_iff.1 hp
    exact ⟨s, (hwritten s).1 hs, FieldPath.isEmpty_eq_false_iff.1 (by simpa using hnames)⟩
  · rintro ⟨s, hs, hpart⟩
    have hnames : (⟨s⟩ : FieldPath).isEmpty = false := FieldPath.isEmpty_eq_false_iff.2 hpart
    refine ⟨⟨s⟩, Option.filter_eq_some_iff.2 ⟨?_, by simp [hnames]⟩⟩
    rw [(hwritten s).2 hs]
    rfl

end Entries

/-! ## Defects -/

/-- What keeps a clause from being compiled, by what is looked at first: its field, and then how many
comparisons it sets. -/
theorem defect?_clause (c : FilterInput) :
    c.clause.defect? =
      if c.clause.path?.isSome then
        match c.operators with
        | [] => some .noComparison
        | [_] => none
        | operators => some (.multipleComparisons operators)
      else some .missingField := by
  unfold FilterClause.defect?
  cases hpath : c.clause.path? with
  | none => rfl
  | some p =>
    unfold FilterInput.clause
    match c.operators with
    | [] => rfl
    | [op] => rfl
    | op :: op' :: rest => rfl

/-! ## Translation -/

section Translation

variable {f : FieldRef} {type : DataType} {s : String} {e : CompileError}

theorem literalConstant_eq_error_iff (htype : f.declared? = some type) :
    literalConstant f s = .error e ↔
      type ≠ .null ∧ type ≠ .json ∧ Value.parseAs? s type = none ∧
        e = .typeCoercion f.path.raw s type.scalarName := by
  unfold literalConstant
  rw [htype]
  by_cases hraw : type = .null ∨ type = .json
  · rcases hraw with rfl | rfl <;> simp
  · obtain ⟨hnull, hjson⟩ := not_or.1 hraw
    cases hparse : Value.parseAs? s type <;> simp [hnull, hjson, hparse, eq_comm]

/-- Where the literal is that of the comparison, a condition on a scalar fails in one way: the
literal is a text that cannot be read as the declared type. -/
theorem translate_eq_error_iff (htype : f.declared? = some type) {c : FilterInput}
    {op : ComparisonOp} {literal : Literal} (hliteral : c.literal? op = some literal) :
    translate f (some op) literal = .error e ↔
      ∃ s, literal = .text s ∧ type ≠ .null ∧ type ≠ .json ∧ Value.parseAs? s type = none ∧
        e = .typeCoercion f.path.raw s type.scalarName := by
  have hbind {g : Expr → Expr} {s : String} :
      (literalConstant f s >>= fun x => pure (g x)) = .error e ↔ literalConstant f s = .error e := by
    cases literalConstant f s <;> simp [pure, Except.pure]
  cases op with
  | isIn | notIn | isNull =>
    obtain ⟨x, -, rfl⟩ := Option.map_eq_some_iff.1 hliteral
    simp [translate]
  | _ =>
    obtain ⟨s, -, rfl⟩ := Option.map_eq_some_iff.1 hliteral
    simp only [translate, relation, orderRelation, hbind, literalConstant_eq_error_iff htype,
      Literal.text.injEq, exists_eq_left']

end Translation

/-! ## Clauses of a filter -/

/-- A clause that is read lacks what its document lacks: it has no defect exactly if the document
writes a field and one comparison, else a missing field comes before a missing comparison, and both
before several comparisons, which are named in canonical order.  On a scalar field a clause without
defects is translated unless its literal is a text that cannot be read as the field's type. -/
theorem decodeFilter_clause {j : Json} {inputs : List FilterInput}
    (h : decodeFilter j = .ok inputs) {i : Nat} {c : FilterInput} (hc : inputs[i]? = some c) :
    ∃ items item entries, j = .array items ∧ items[i]? = some item ∧
      clauseEntries? item = some entries ∧
      (c.clause.defect? = none ↔ WritesField entries ∧ ∃ op, writtenOperators entries = [op]) ∧
      (¬ WritesField entries → c.clause.defect? = some .missingField) ∧
      (WritesField entries → writtenOperators entries = [] →
        c.clause.defect? = some .noComparison) ∧
      (WritesField entries → 2 ≤ (writtenOperators entries).length →
        c.clause.defect? = some (.multipleComparisons (writtenOperators entries))) ∧
      (c.clause.defect? = none → ∀ f type, f.declared? = some type → ∀ e,
        translate f c.clause.comparison c.clause.literal = .error e ↔
          ∃ s, c.clause.literal = .text s ∧ type ≠ .null ∧ type ≠ .json ∧
            Value.parseAs? s type = none ∧ e = .typeCoercion f.path.raw s type.scalarName) := by
  cases j with
  | array items =>
    obtain ⟨read, hread, rfl⟩ := exists_map_of_mapM h
    rw [List.getElem?_map] at hc
    obtain ⟨item, hitem, rfl⟩ := Option.map_eq_some_iff.1 hc
    have hdecode : FilterInput.decode item = .ok (read item) :=
      decodeClause_eq_ok_iff.1 (hread item (List.mem_of_getElem? hitem))
    obtain ⟨entries, hentries, hfold⟩ := decode_eq_ok_iff.1 hdecode
    have hoperators : (read item).operators = writtenOperators entries := operators_of_foldlM hfold
    have hpath : (read item).clause.path?.isSome = true ↔ WritesField entries :=
      isSome_path?_of_foldlM hfold
    have hdefect := defect?_clause (read item)
    rw [hoperators] at hdefect
    have hmissing (hfield : ¬ WritesField entries) :
        (read item).clause.defect? = some .missingField := by
      rw [hdefect, if_neg (mt hpath.1 hfield)]
    have hcounted (hfield : WritesField entries) :
        (read item).clause.defect? =
          match writtenOperators entries with
          | [] => some .noComparison
          | [_] => none
          | operators => some (.multipleComparisons operators) := by
      rw [hdefect, if_pos (hpath.2 hfield)]
    refine ⟨items, item, entries, rfl, hitem, hentries, ?_, hmissing, ?_, ?_, ?_⟩
    · by_cases hfield : WritesField entries
      · rw [hcounted hfield]
        match writtenOperators entries with
        | [] => simp
        | [op] => simp [hfield]
        | op :: op' :: rest => simp
      · simp [hmissing hfield, hfield]
    · intro hfield hnone
      rw [hcounted hfield, hnone]
    · intro hfield hseveral
      rw [hcounted hfield]
      match hops : writtenOperators entries with
      | [] | [_] => simp [hops] at hseveral
      | op :: op' :: rest => rfl
    · intro hnone f type htype e
      obtain ⟨op, hop⟩ : ∃ op, (read item).operators = [op] := by
        rw [hnone, ← hoperators] at hdefect
        split at hdefect
        · split at hdefect
          · cases hdefect
          · rename_i op hop
            exact ⟨op, hop⟩
          · cases hdefect
        · cases hdefect
      have hset : op ∈ (read item).operators := by simp [hop]
      obtain ⟨literal, hliteral⟩ := Option.isSome_iff_exists.1 (List.mem_filter.1 hset).2
      have hclause : (read item).clause =
          ⟨(read item).field.map FieldPath.mk, some op, literal, (read item).conjunction, []⟩ := by
        simp only [FilterInput.clause, hop, hliteral, Option.getD_some]
      rw [hclause]
      exact translate_eq_error_iff htype hliteral
  | null =>
    obtain rfl := Except.ok.inj h
    cases hc
  | _ => cases h

namespace Sample

/-- A filter of a clause that compares the age with a word, and of one with two comparisons, of which
one is null. -/
def wordFilter : Json :=
  .array [.object [("field", .string "age"), ("greaterThan", .string "old")],
    .object [("equals", .null), ("field", .string "name"), ("in", .array []),
      ("isNull", .bool false)]]

/-- The age of a person. -/
def ageOf (person : Parameter) : FieldRef :=
  ⟨⟨"age"⟩, .member person.expr "age" (.scalar .int), .scalar .int⟩

end Sample

open Sample in
/-- The first clause has no defect and cannot be translated, since the word is no integer; the second
one has two comparisons. -/
theorem decodeFilter_clause_wordFilter :
    ∃ inputs c d, decodeFilter wordFilter = .ok inputs ∧ inputs[0]? = some c ∧
      inputs[1]? = some d ∧ c.clause.defect? = none ∧
      d.clause.defect? = some (.multipleComparisons [.isIn, .isNull]) ∧
      ∀ person, translate (ageOf person) c.clause.comparison c.clause.literal =
        .error (.typeCoercion "age" "old" "Int") := by
  obtain ⟨inputs, h⟩ : ∃ inputs, decodeFilter wordFilter = .ok inputs := ⟨_, rfl⟩
  have hinputs := h
  obtain rfl := Except.ok.inj hinputs
  obtain ⟨_, _, entries, hitems, hitem, hentries, hnone, -, -, -, htranslate⟩ :=
    decodeFilter_clause h (i := 0) rfl
  obtain ⟨_, _, entries', hitems', hitem', hentries', -, -, -, hseveral, -⟩ :=
    decodeFilter_clause h (i := 1) rfl
  obtain rfl := Json.array.inj hitems
  obtain rfl := Option.some.inj hitem
  obtain rfl := Option.some.inj hentries
  obtain rfl := Json.array.inj hitems'
  obtain rfl := Option.some.inj hitem'
  obtain rfl := Option.some.inj hentries'
  have hfirst := hnone.2 ⟨⟨"age", rfl, ['a', 'g', 'e'], by decide, 'a', by decide, by decide⟩,
    .greaterThan, rfl⟩
  refine ⟨_, _, _, h, rfl, rfl, hfirst, ?_, fun person => ?_⟩
  · exact hseveral ⟨"name", rfl, ['n', 'a', 'm', 'e'], by decide, 'n', by decide, by decide⟩
      (by decide)
  · exact (htranslate hfirst (ageOf person) .int rfl _).2 ⟨"old", rfl, nofun, nofun, rfl, rfl⟩

end TypedQuery
