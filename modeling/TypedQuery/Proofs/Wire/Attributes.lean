import TypedQuery.Proofs.Except
import TypedQuery.Wire.Request

/-!
# The filters that can be read

A clause is written as an object whose keys are attributes of clauses, or as the list of their
contents in the order in which a clause declares them (`clauseEntries?`).  Whether an attribute can
be read does not depend on what was read before it, so a clause can be read exactly if each of its
attributes has a content that the attribute allows: `decodeFilter_eq_ok_iff`.  The format as it is
documented (`IsDocumentedFilter`) knows neither the lists nor the second way to write a conjunction:
`decodeFilter_undocumented`.
-/

namespace TypedQuery

open Json

/-! ## The format -/

/-- Whether a document is a text, a number or a truth value. -/
def Json.IsScalar (j : Json) : Prop :=
  (∃ s, j = .string s) ∨ (∃ n, j = .number n) ∨ ∃ b, j = .bool b

/-- An attribute of a clause. -/
inductive ClauseAttribute where
  | field
  | conjunction
  | comparison (op : ComparisonOp)
deriving DecidableEq

namespace ClauseAttribute

/-- The name of the attribute on the wire. -/
def name : ClauseAttribute → String
  | field => "field"
  | conjunction => "conjunction"
  | comparison op => op.wireName

/-- The attributes in the order in which a clause declares them. -/
def all : List ClauseAttribute := field :: conjunction :: ComparisonOp.all.map comparison

/-- The contents that an attribute is documented with. -/
def Documents : ClauseAttribute → Json → Prop
  | field, j => j = .null ∨ ∃ s, j = .string s
  | conjunction, j => j = .string "AND" ∨ j = .string "OR"
  | comparison .isIn, j | comparison .notIn, j =>
    j = .null ∨ ∃ items, j = .array items ∧ ∀ item ∈ items, item.IsScalar
  | comparison .isNull, j => j = .null ∨ ∃ b, j = .bool b
  | comparison _, j => j = .null ∨ j.IsScalar

/-- The contents that can be read: those documented, and a conjunction as the one key of an object
whose content is null. -/
def Allows (a : ClauseAttribute) (j : Json) : Prop :=
  a.Documents j ∨
    a = conjunction ∧ (j = .object [("AND", .null)] ∨ j = .object [("OR", .null)])

theorem mem_all (a : ClauseAttribute) : a ∈ all := by
  cases a with
  | field => exact List.mem_cons_self ..
  | conjunction => exact .tail _ (.head _)
  | comparison op => exact .tail _ (.tail _ (List.mem_map_of_mem op.mem_all))

/-- Attributes of one name are one attribute. -/
theorem eq_of_name_eq {a b : ClauseAttribute} (h : a.name = b.name) : a = b := by
  have hall : ∀ a ∈ all, ∀ b ∈ all, a.name = b.name → a = b := by decide
  exact hall a a.mem_all b b.mem_all h

end ClauseAttribute

/-- Whether every entry is an attribute of clauses with a content that it allows. -/
def AreAttributes (entries : List (String × Json)) : Prop :=
  ∀ entry ∈ entries, ∃ a : ClauseAttribute, a.name = entry.1 ∧ a.Allows entry.2

/-- The attributes that a document for a clause writes: those of an object, or those that the
contents of a list stand for, if it is no longer than a clause has attributes. -/
def clauseEntries? : Json → Option (List (String × Json))
  | .object entries => some entries
  | .array contents =>
    if contents.length ≤ ClauseAttribute.all.length then
      some ((ClauseAttribute.all.map ClauseAttribute.name).zip contents)
    else none
  | _ => none

/-- Whether a document is a filter as the format is documented. -/
def IsDocumentedFilter (j : Json) : Prop :=
  j = .null ∨ ∃ items, j = .array items ∧ ∀ item ∈ items, ∃ entries, item = .object entries ∧
    ∀ entry ∈ entries, ∃ a : ClauseAttribute, a.name = entry.1 ∧ a.Documents entry.2

/-! ## Contents -/

section Contents

variable {α : Type} {j : Json}

theorem exists_decodeOption_eq_ok_iff {decode : Json → Except DecodeFault α} :
    (∃ x, decodeOption decode j = .ok x) ↔ j = .null ∨ ∃ a, decode j = .ok a := by
  by_cases hnull : j = .null
  · subst hnull
    exact ⟨fun _ => Or.inl rfl, fun _ => ⟨none, rfl⟩⟩
  · have hdecode : decodeOption decode j = (decode j).map some := by
      cases j with
      | null => exact absurd rfl hnull
      | _ => rfl
    rw [hdecode, or_iff_right hnull]
    cases decode j <;> simp

theorem exists_decodeString_eq_ok_iff : (∃ s, decodeString j = .ok s) ↔ ∃ s, j = .string s := by
  cases j <;> simp [decodeString]

theorem exists_decodeBool_eq_ok_iff : (∃ b, decodeBool j = .ok b) ↔ ∃ b, j = .bool b := by
  cases j <;> simp [decodeBool]

theorem isSome_scalarText?_iff : (scalarText? j).isSome = true ↔ j.IsScalar := by
  cases j <;> simp [scalarText?, Json.IsScalar]

theorem exists_decodeTextLiteral_eq_ok_iff : (∃ s, decodeTextLiteral j = .ok s) ↔ j.IsScalar := by
  rw [← isSome_scalarText?_iff, decodeTextLiteral]
  cases scalarText? j <;> simp

theorem exists_decodeSetMember_eq_ok_iff : (∃ s, decodeSetMember j = .ok s) ↔ j.IsScalar := by
  rw [← isSome_scalarText?_iff, decodeSetMember]
  cases scalarText? j <;> simp

theorem exists_decodeTextSet_eq_ok_iff :
    (∃ set, decodeTextSet j = .ok set) ↔
      ∃ items, j = .array items ∧ ∀ item ∈ items, item.IsScalar := by
  cases j with
  | array items =>
    have hitems : (∃ set, items.mapM decodeSetMember = .ok set) ↔
        ∀ item ∈ items, item.IsScalar := by
      simp only [exists_mapM_eq_ok_iff, exists_decodeSetMember_eq_ok_iff]
    simpa [decodeTextSet] using hitems
  | _ => simp [decodeTextSet]

/-- A name is read as a text, or as the one key of an object whose content is null. -/
theorem exists_decodeName_eq_ok_iff {known : List (String × α)} :
    (∃ a, decodeName known j = .ok a) ↔
      ∃ name, (∃ a, known.lookup name = some a) ∧
        (j = .string name ∨ j = .object [(name, .null)]) := by
  constructor
  · rintro ⟨a, h⟩
    unfold decodeName at h
    split at h
    · rename_i name
      refine ⟨name, ?_, Or.inl rfl⟩
      cases hfind : known.lookup name with
      | none => simp [hfind] at h
      | some b => exact ⟨b, rfl⟩
    · rename_i name content
      cases hfind : known.lookup name with
      | none => simp [hfind] at h
      | some b =>
        cases content with
        | null => exact ⟨name, ⟨b, hfind⟩, Or.inr rfl⟩
        | _ => simp [hfind] at h
    · cases h
    · cases h
  · rintro ⟨name, ⟨a, hfind⟩, rfl | rfl⟩
    · exact ⟨a, by simp [decodeName, hfind]⟩
    · exact ⟨a, by simp only [decodeName, hfind]; rfl⟩

end Contents

/-! ## Attributes -/

section Attributes

variable {c : FilterInput} {j : Json}

theorem exists_decodeConjunction_eq_ok_iff :
    (∃ x, decodeName Conjunction.names j = .ok x) ↔ ClauseAttribute.conjunction.Allows j := by
  have hknown : ∀ name, (∃ x, Conjunction.names.lookup name = some x) ↔
      name = "AND" ∨ name = "OR" := by
    intro name
    by_cases hand : name = "AND"
    · subst hand
      exact ⟨fun _ => Or.inl rfl, fun _ => ⟨.and, rfl⟩⟩
    · by_cases hor : name = "OR"
      · subst hor
        exact ⟨fun _ => Or.inr rfl, fun _ => ⟨.or, rfl⟩⟩
      · have hnone : Conjunction.names.lookup name = none := by
          simp only [Conjunction.names, List.lookup_cons, List.lookup_nil,
            beq_eq_false_iff_ne.2 hand, beq_eq_false_iff_ne.2 hor]
        simp only [hnone, hand, hor, reduceCtorEq, exists_false, or_self]
  rw [exists_decodeName_eq_ok_iff, ClauseAttribute.Allows, ClauseAttribute.Documents]
  simp only [hknown]
  constructor
  · rintro ⟨name, rfl | rfl, rfl | rfl⟩ <;> simp
  · rintro ((rfl | rfl) | ⟨-, rfl | rfl⟩)
    · exact ⟨"AND", Or.inl rfl, Or.inl rfl⟩
    · exact ⟨"OR", Or.inr rfl, Or.inl rfl⟩
    · exact ⟨"AND", Or.inl rfl, Or.inr rfl⟩
    · exact ⟨"OR", Or.inr rfl, Or.inr rfl⟩

/-- Whether an attribute can be read depends on its content alone. -/
theorem exists_setField_eq_ok_iff_allows (a : ClauseAttribute) :
    (∃ c', setField FilterInput.attributes true c (a.name, j) = .ok c') ↔ a.Allows j := by
  have hstep {α : Type} {x : Except DecodeFault α} {g : α → FilterInput} :
      (∃ c', (x >>= fun y => pure (g y)) = .ok c') ↔ ∃ y, x = .ok y := by
    cases x <;> simp [pure, Except.pure]
  cases a with
  | field =>
    refine hstep.trans ?_
    rw [exists_decodeOption_eq_ok_iff, exists_decodeString_eq_ok_iff]
    simp [ClauseAttribute.Allows, ClauseAttribute.Documents]
  | conjunction => exact hstep.trans exists_decodeConjunction_eq_ok_iff
  | comparison op =>
    have hplain : (ClauseAttribute.comparison op).Allows j ↔
        (ClauseAttribute.comparison op).Documents j := by
      simp [ClauseAttribute.Allows]
    rw [hplain]
    cases op with
    | isIn | notIn =>
      refine hstep.trans ?_
      rw [exists_decodeOption_eq_ok_iff, exists_decodeTextSet_eq_ok_iff]
      rfl
    | isNull =>
      refine hstep.trans ?_
      rw [exists_decodeOption_eq_ok_iff, exists_decodeBool_eq_ok_iff]
      rfl
    | _ =>
      refine hstep.trans ?_
      rw [exists_decodeOption_eq_ok_iff, exists_decodeTextLiteral_eq_ok_iff]
      rfl

theorem exists_setField_eq_ok_iff {entry : String × Json} :
    (∃ c', setField FilterInput.attributes true c entry = .ok c') ↔
      ∃ a : ClauseAttribute, a.name = entry.1 ∧ a.Allows entry.2 := by
  obtain ⟨name, j⟩ := entry
  by_cases hname : ∃ a : ClauseAttribute, a.name = name
  · obtain ⟨a, rfl⟩ := hname
    rw [exists_setField_eq_ok_iff_allows]
    constructor
    · intro h
      exact ⟨a, rfl, h⟩
    · rintro ⟨b, hb, h⟩
      rwa [← ClauseAttribute.eq_of_name_eq hb]
  · have hnames : FilterInput.attributes.map Prod.fst =
        ClauseAttribute.all.map ClauseAttribute.name := rfl
    have hnone : FilterInput.attributes.lookup name = none := by
      rw [List.lookup_eq_none_iff]
      intro known hknown
      have hmem : known.1 ∈ ClauseAttribute.all.map ClauseAttribute.name :=
        hnames ▸ List.mem_map_of_mem hknown
      obtain ⟨a, -, ha⟩ := List.mem_map.1 hmem
      refine bne_iff_ne.2 ?_
      rintro rfl
      exact hname ⟨a, ha⟩
    have hrefused : ∀ c', setField FilterInput.attributes true c (name, j) ≠ .ok c' := by
      intro c'
      simp [setField, hnone]
    constructor
    · rintro ⟨c', h⟩
      exact absurd h (hrefused c')
    · rintro ⟨a, ha, -⟩
      exact absurd ⟨a, ha⟩ hname

/-- The attributes of a clause can be read in every order. -/
theorem exists_foldlM_setField_eq_ok_iff {entries : List (String × Json)} :
    (∃ c', entries.foldlM (setField FilterInput.attributes true) c = .ok c') ↔
      AreAttributes entries := by
  have hstep : ∀ (c : FilterInput) (entry : String × Json),
      (∃ c', setField FilterInput.attributes true c entry = .ok c') ↔
        ∃ a : ClauseAttribute, a.name = entry.1 ∧ a.Allows entry.2 := by
    intro c entry
    exact exists_setField_eq_ok_iff
  exact exists_foldlM_eq_ok_iff hstep c

end Attributes

/-! ## Clauses -/

section Clauses

variable {α : Type} {fields : List (RecordField α)}

/-- The contents of a list are read like the fields of an object that they stand for. -/
theorem foldlM_zip_eq_foldlM_setField (closed : Bool)
    (hfields : ∀ field ∈ fields, fields.lookup field.1 = some field.2)
    (contents : List Json) (record : α) :
    (fields.zip contents).foldlM (fun record (field, content) => field.2 record content) record =
      ((fields.map Prod.fst).zip contents).foldlM (setField fields closed) record := by
  have hzip : (fields.map Prod.fst).zip contents =
      (fields.zip contents).map fun (field, content) => (field.1, content) := by
    simp [List.zip_map_left, Prod.map]
  have hmem : ∀ pair ∈ fields.zip contents, pair.1 ∈ fields := fun pair hpair =>
    (List.of_mem_zip hpair).1
  rw [hzip]
  generalize fields.zip contents = pairs at hmem
  induction pairs generalizing record with
  | nil => rfl
  | cons pair pairs ih =>
    obtain ⟨field, content⟩ := pair
    obtain ⟨hfirst, hrest⟩ := List.forall_mem_cons.1 hmem
    have hstep : setField fields closed record (field.1, content) = field.2 record content := by
      simp only [setField, hfields field hfirst]
    rw [List.foldlM_cons, List.map_cons, List.foldlM_cons]
    dsimp only
    rw [hstep]
    cases field.2 record content with
    | error e => rfl
    | ok record => exact ih record hrest

/-- A document is read as a clause by its attributes, one after the other. -/
theorem decode_eq_ok_iff {item : Json} {c : FilterInput} :
    FilterInput.decode item = .ok c ↔ ∃ entries, clauseEntries? item = some entries ∧
      entries.foldlM (setField FilterInput.attributes true) .empty = .ok c := by
  cases item with
  | object entries => simp [FilterInput.decode, decodeRecord, clauseEntries?]
  | array contents =>
    have hfields : ∀ field ∈ FilterInput.attributes,
        FilterInput.attributes.lookup field.1 = some field.2 := by
      simp [FilterInput.attributes, List.lookup_cons]
    have hnames : FilterInput.attributes.map Prod.fst =
        ClauseAttribute.all.map ClauseAttribute.name := rfl
    have hlength : FilterInput.attributes.length = ClauseAttribute.all.length := rfl
    rw [FilterInput.decode, decodeRecord, clauseEntries?,
      foldlM_zip_eq_foldlM_setField true hfields, hnames, hlength]
    by_cases hfits : contents.length ≤ ClauseAttribute.all.length
    · simp [hfits]
    · simp [hfits, bind_eq_ok_iff]
  | _ => simp [FilterInput.decode, decodeRecord, clauseEntries?]

theorem exists_decode_eq_ok_iff {item : Json} :
    (∃ c, FilterInput.decode item = .ok c) ↔
      ∃ entries, clauseEntries? item = some entries ∧ AreAttributes entries := by
  simp only [decode_eq_ok_iff]
  constructor
  · rintro ⟨c, entries, hentries, h⟩
    exact ⟨entries, hentries, exists_foldlM_setField_eq_ok_iff.1 ⟨c, h⟩⟩
  · rintro ⟨entries, hentries, h⟩
    obtain ⟨c, hc⟩ := exists_foldlM_setField_eq_ok_iff (c := .empty).2 h
    exact ⟨c, entries, hentries, hc⟩

theorem decodeClause_eq_ok_iff {item : Json} {c : FilterInput} :
    decodeClause item = .ok c ↔ FilterInput.decode item = .ok c := by
  rw [decodeClause]
  cases FilterInput.decode item with
  | error e => exact iff_of_false nofun nofun
  | ok d =>
    have hok {ε ε' : Type} (h : (Except.ok d : Except ε FilterInput) = .ok c) :
        (Except.ok d : Except ε' FilterInput) = .ok c := congrArg Except.ok (Except.ok.inj h)
    exact ⟨hok, hok⟩

end Clauses

/-! ## Filters -/

/-- A filter can be read if it is null or a list of clauses, each with attributes of clauses only and
with contents that these allow. -/
theorem decodeFilter_eq_ok_iff (j : Json) :
    (∃ inputs, decodeFilter j = .ok inputs) ↔
      j = .null ∨ ∃ items, j = .array items ∧ ∀ item ∈ items,
        ∃ entries, clauseEntries? item = some entries ∧ AreAttributes entries := by
  cases j with
  | null => simp [decodeFilter]
  | array items =>
    have hitems : (∃ inputs, items.mapM decodeClause = .ok inputs) ↔ ∀ item ∈ items,
        ∃ entries, clauseEntries? item = some entries ∧ AreAttributes entries := by
      simp only [exists_mapM_eq_ok_iff, decodeClause_eq_ok_iff, exists_decode_eq_ok_iff]
    simpa [decodeFilter] using hitems
  | _ => simp [decodeFilter]

namespace Sample

/-- The clause that the age is five, as the list of its contents. -/
def listedClause : Json := .array [.string "age", .string "AND", .string "5"]

/-- The clause that the age is null, with a conjunction that is the key of a null. -/
def keyedClause : Json :=
  .object [("field", .string "age"), ("conjunction", .object [("OR", .null)]), ("isNull", .bool true)]

end Sample

open Sample in
/-- Clauses that the format does not document and that are read all the same. -/
theorem decodeFilter_undocumented :
    ((∃ inputs, decodeFilter (.array [listedClause]) = .ok inputs) ∧
      ¬ IsDocumentedFilter (.array [listedClause])) ∧
    (∃ inputs, decodeFilter (.array [keyedClause]) = .ok inputs) ∧
      ¬ IsDocumentedFilter (.array [keyedClause]) := by
  refine ⟨⟨⟨_, rfl⟩, ?_⟩, ⟨_, rfl⟩, ?_⟩
  · rintro (h | ⟨items, h, hitems⟩)
    · cases h
    · obtain rfl := Json.array.inj h
      obtain ⟨entries, hobject, -⟩ := hitems _ (List.mem_singleton_self _)
      cases hobject
  · rintro (h | ⟨items, h, hitems⟩)
    · cases h
    · obtain rfl := Json.array.inj h
      obtain ⟨entries, hobject, hentries⟩ := hitems _ (List.mem_singleton_self _)
      obtain rfl := Json.object.inj hobject
      obtain ⟨a, ha, hdocuments⟩ := hentries _ (.tail _ (.head _))
      obtain rfl : a = .conjunction := ClauseAttribute.eq_of_name_eq ha
      rcases hdocuments with h | h <;> cases h

end TypedQuery
