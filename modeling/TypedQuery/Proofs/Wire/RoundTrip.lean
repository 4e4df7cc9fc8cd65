import TypedQuery.Proofs.Value.Documents
import TypedQuery.Proofs.Wire.Clause
import TypedQuery.Wire.Request

/-!
# What survives the wire

A clause is told apart by the contents of its attributes, as it writes them (`FilterInput.content`).
Reading an entry brings its content to the normal form of the attribute and leaves the other
attributes as they are (`content_of_setField`), so what a document is read as can be told from the
last content that it writes for each attribute: `decode_eq_ok_iff_content`.

The contents that a clause writes are in normal form.  So a clause is read back as it was, in
whatever order its attributes come and with or without those that set nothing
(`FilterInput.decode_written`), and to read and write is to normalise: `FilterInput.survivesWire`.

A filter or a sort that is supplied as the value of a document is the one that the document stands
for: `Value.ofJson_reads_alike`.
-/

namespace TypedQuery

open Json

/-! ## Contents in normal form -/

/-- The document as a text, if it is a text, a number or a truth value. -/
def Json.asText (j : Json) : Json := ((scalarText? j).map Json.string).getD j

/-- The content that an attribute is written with once it has been read: numbers and truth values
have become texts, and a conjunction is its name. -/
def ClauseAttribute.normal : ClauseAttribute → Json → Json
  | conjunction, .object [(name, .null)] => .string name
  | comparison .isIn, .array items | comparison .notIn, .array items =>
    .array (items.map Json.asText)
  | comparison .isNull, j => j
  | comparison _, j => j.asText
  | _, j => j

namespace FilterInput

/-- The content that the clause writes for an attribute. -/
def content (c : FilterInput) : ClauseAttribute → Json
  | .field => textDocument c.field
  | .conjunction => .string c.conjunction.wireName
  | .comparison .equals => textDocument c.equals
  | .comparison .notEqualTo => textDocument c.notEqualTo
  | .comparison .greaterThan => textDocument c.greaterThan
  | .comparison .greaterThanOrEqualTo => textDocument c.greaterThanOrEqualTo
  | .comparison .lessThan => textDocument c.lessThan
  | .comparison .lessThanOrEqualTo => textDocument c.lessThanOrEqualTo
  | .comparison .isIn => textsDocument c.isIn
  | .comparison .notIn => textsDocument c.notIn
  | .comparison .isNull => (c.isNull.map Json.bool).getD .null

/-- The document that writes some of the attributes of the clause, in the order of the list. -/
def written (c : FilterInput) (keys : List ClauseAttribute) : Json :=
  .object (keys.map fun a => (a.name, c.content a))

theorem toJson_eq_written (c : FilterInput) : c.toJson = c.written ClauseAttribute.all := rfl

theorem textDocument_inj {s s' : Option String} (h : textDocument s = textDocument s') : s = s' := by
  cases s <;> cases s' <;> simp_all [textDocument]

theorem textsDocument_inj {l l' : Option (List String)} (h : textsDocument l = textsDocument l') :
    l = l' := by
  have hstring : Function.Injective Json.string := fun _ _ => Json.string.inj
  cases l with
  | none => cases l' <;> simp_all [textsDocument]
  | some items =>
    cases l' with
    | none => simp [textsDocument] at h
    | some items' =>
      simp only [textsDocument, Option.map_some, Option.getD_some, Json.array.injEq] at h
      rw [List.map_injective_iff.2 hstring h]

/-- Clauses that write the same are the same. -/
theorem ext_content {c d : FilterInput} (h : ∀ a, c.content a = d.content a) : c = d := by
  have hconjunction : c.conjunction = d.conjunction := by
    have hname := Json.string.inj (h .conjunction)
    revert hname
    cases c.conjunction <;> cases d.conjunction <;> simp [Conjunction.wireName]
  have hisNull : c.isNull = d.isNull := by
    have hflag := h (.comparison .isNull)
    simp only [content] at hflag
    cases hc : c.isNull <;> cases hd : d.isNull <;> simp_all
  have hfield := textDocument_inj (h .field)
  have hequals := textDocument_inj (h (.comparison .equals))
  have hnotEqualTo := textDocument_inj (h (.comparison .notEqualTo))
  have hgreaterThan := textDocument_inj (h (.comparison .greaterThan))
  have hgreaterThanOrEqualTo := textDocument_inj (h (.comparison .greaterThanOrEqualTo))
  have hlessThan := textDocument_inj (h (.comparison .lessThan))
  have hlessThanOrEqualTo := textDocument_inj (h (.comparison .lessThanOrEqualTo))
  have hisIn := textsDocument_inj (h (.comparison .isIn))
  have hnotIn := textsDocument_inj (h (.comparison .notIn))
  cases c
  cases d
  simp_all

/-- An attribute allows what a clause writes for it. -/
theorem allows_content (c : FilterInput) (a : ClauseAttribute) : a.Allows (c.content a) := by
  have htext (s : Option String) : textDocument s = .null ∨ (textDocument s).IsScalar := by
    cases s with
    | none => exact Or.inl rfl
    | some s => exact Or.inr (Or.inl ⟨s, rfl⟩)
  have htexts (l : Option (List String)) : textsDocument l = .null ∨
      ∃ items, textsDocument l = .array items ∧ ∀ item ∈ items, item.IsScalar := by
    cases l with
    | none => exact Or.inl rfl
    | some texts =>
      refine Or.inr ⟨texts.map Json.string, rfl, ?_⟩
      intro item hitem
      obtain ⟨s, -, rfl⟩ := List.mem_map.1 hitem
      exact Or.inl ⟨s, rfl⟩
  refine Or.inl ?_
  cases a with
  | field =>
    show textDocument c.field = .null ∨ ∃ s, textDocument c.field = .string s
    cases c.field with
    | none => exact Or.inl rfl
    | some s => exact Or.inr ⟨s, rfl⟩
  | conjunction =>
    show Json.string c.conjunction.wireName = .string "AND" ∨
      Json.string c.conjunction.wireName = .string "OR"
    cases c.conjunction with
    | and => exact Or.inl rfl
    | or => exact Or.inr rfl
  | comparison op =>
    cases op with
    | isIn => exact htexts c.isIn
    | notIn => exact htexts c.notIn
    | isNull =>
      show (c.isNull.map Json.bool).getD .null = .null ∨
        ∃ b, (c.isNull.map Json.bool).getD .null = .bool b
      cases c.isNull with
      | none => exact Or.inl rfl
      | some b => exact Or.inr ⟨b, rfl⟩
    | _ => exact htext _

/-- What a clause writes for an attribute is in normal form. -/
theorem normal_content (c : FilterInput) (a : ClauseAttribute) :
    a.normal (c.content a) = c.content a := by
  have htext (s : Option String) : (textDocument s).asText = textDocument s := by
    cases s <;> rfl
  have htexts (l : Option (List String)) (op : ComparisonOp) (hop : op = .isIn ∨ op = .notIn) :
      (ClauseAttribute.comparison op).normal (textsDocument l) = textsDocument l := by
    cases l with
    | none => rcases hop with rfl | rfl <;> rfl
    | some texts =>
      have hitems : (texts.map Json.string).map Json.asText = texts.map Json.string := by
        rw [List.map_map]
        rfl
      rcases hop with rfl | rfl <;> exact congrArg Json.array hitems
  cases a with
  | field | conjunction => rfl
  | comparison op =>
    cases op with
    | isIn => exact htexts c.isIn .isIn (Or.inl rfl)
    | notIn => exact htexts c.notIn .notIn (Or.inr rfl)
    | isNull => rfl
    | _ => exact htext _

end FilterInput

/-! ## Reading -/

section Reading

variable {c c' : FilterInput} {j : Json} {entries : List (String × Json)}

theorem textDocument_of_decodeString {x : Option String}
    (h : decodeOption decodeString j = .ok x) : FilterInput.textDocument x = j := by
  cases j with
  | null | string =>
    rw [← Except.ok.inj h]
    rfl
  | _ => cases h

theorem textDocument_of_decodeTextLiteral {x : Option String}
    (h : decodeOption decodeTextLiteral j = .ok x) : FilterInput.textDocument x = j.asText := by
  cases j with
  | null | bool | number | string =>
    rw [← Except.ok.inj h]
    rfl
  | _ => cases h

theorem string_of_decodeSetMember {s : String} (h : decodeSetMember j = .ok s) :
    Json.string s = j.asText := by
  cases j with
  | bool | number | string =>
    rw [← Except.ok.inj h]
    rfl
  | _ => cases h

theorem textsDocument_of_decodeTextSet {x : Option (List String)}
    (h : decodeOption decodeTextSet j = .ok x) {op : ComparisonOp} (hop : op = .isIn ∨ op = .notIn) :
    FilterInput.textsDocument x = (ClauseAttribute.comparison op).normal j := by
  cases j with
  | null =>
    rw [← Except.ok.inj h]
    rcases hop with rfl | rfl <;> rfl
  | array items =>
    obtain ⟨texts, htexts, rfl⟩ := map_eq_ok_iff.1 h
    obtain ⟨read, hread, rfl⟩ := exists_map_of_mapM htexts
    have hitems : (items.map read).map Json.string = items.map Json.asText := by
      rw [List.map_map]
      exact List.map_congr_left fun item hitem => string_of_decodeSetMember (hread item hitem)
    rcases hop with rfl | rfl <;> exact congrArg Json.array hitems
  | _ => cases h

theorem flag_of_decodeBool {x : Option Bool} (h : decodeOption decodeBool j = .ok x) :
    (x.map Json.bool).getD .null = j := by
  cases j with
  | null | bool =>
    rw [← Except.ok.inj h]
    rfl
  | _ => cases h

theorem wireName_of_lookup {name : String} {x : Conjunction}
    (h : Conjunction.names.lookup name = some x) : x.wireName = name := by
  by_cases hand : name = "AND"
  · subst hand
    rw [← Option.some.inj h]
    rfl
  · by_cases hor : name = "OR"
    · subst hor
      rw [← Option.some.inj h]
      rfl
    · simp [Conjunction.names, List.lookup_cons, beq_eq_false_iff_ne.2 hand,
        beq_eq_false_iff_ne.2 hor] at h

theorem wireName_of_decodeName {x : Conjunction} (h : decodeName Conjunction.names j = .ok x) :
    Json.string x.wireName = ClauseAttribute.conjunction.normal j := by
  unfold decodeName at h
  split at h
  · rename_i name
    cases hfind : Conjunction.names.lookup name with
    | none => simp [hfind] at h
    | some y =>
      simp only [hfind] at h
      rw [← Except.ok.inj h, wireName_of_lookup hfind]
      rfl
  · rename_i name found
    cases hfind : Conjunction.names.lookup name with
    | none => simp [hfind] at h
    | some y =>
      cases found with
      | null =>
        simp only [hfind] at h
        rw [← Except.ok.inj h, wireName_of_lookup hfind]
        rfl
      | _ => simp [hfind] at h
  · cases h
  · cases h

/-- An entry brings its content to normal form and leaves the other attributes as they are. -/
theorem content_of_setField (a : ClauseAttribute)
    (h : setField FilterInput.attributes true c (a.name, j) = .ok c') (b : ClauseAttribute) :
    c'.content b = if a = b then a.normal j else c.content b := by
  by_cases hb : a = b
  · subst hb
    rw [if_pos rfl]
    cases a with
    | field =>
      obtain ⟨x, hx, h⟩ := bind_eq_ok_iff.1 h
      rw [← Except.ok.inj h]
      exact textDocument_of_decodeString hx
    | conjunction =>
      obtain ⟨x, hx, h⟩ := bind_eq_ok_iff.1 h
      rw [← Except.ok.inj h]
      exact wireName_of_decodeName hx
    | comparison op =>
      cases op with
      | isIn =>
        obtain ⟨x, hx, h⟩ := bind_eq_ok_iff.1 h
        rw [← Except.ok.inj h]
        exact textsDocument_of_decodeTextSet hx (Or.inl rfl)
      | notIn =>
        obtain ⟨x, hx, h⟩ := bind_eq_ok_iff.1 h
        rw [← Except.ok.inj h]
        exact textsDocument_of_decodeTextSet hx (Or.inr rfl)
      | isNull =>
        obtain ⟨x, hx, h⟩ := bind_eq_ok_iff.1 h
        rw [← Except.ok.inj h]
        exact flag_of_decodeBool hx
      | _ =>
        obtain ⟨x, hx, h⟩ := bind_eq_ok_iff.1 h
        rw [← Except.ok.inj h]
        exact textDocument_of_decodeTextLiteral hx
  · rw [if_neg hb]
    cases a with
    | field =>
      obtain ⟨x, -, h⟩ := bind_eq_ok_iff.1 h
      rw [← Except.ok.inj h]
      cases b with
      | field => exact absurd rfl hb
      | conjunction => rfl
      | comparison op => cases op <;> rfl
    | conjunction =>
      obtain ⟨x, -, h⟩ := bind_eq_ok_iff.1 h
      rw [← Except.ok.inj h]
      cases b with
      | field => rfl
      | conjunction => exact absurd rfl hb
      | comparison op => cases op <;> rfl
    | comparison key =>
      cases key <;>
      · obtain ⟨x, -, h⟩ := bind_eq_ok_iff.1 h
        rw [← Except.ok.inj h]
        cases b with
        | comparison op => cases op <;> first | rfl | exact absurd rfl hb
        | _ => rfl

/-- The last content of an attribute says what it is. -/
theorem content_of_foldlM
    (h : entries.foldlM (setField FilterInput.attributes true) c = .ok c') (a : ClauseAttribute) :
    c'.content a = ((lastContent? entries a.name).map a.normal).getD (c.content a) := by
  induction entries generalizing c with
  | nil =>
    obtain rfl := Except.ok.inj h
    rfl
  | cons entry entries ih =>
    obtain ⟨key, found⟩ := entry
    rw [List.foldlM_cons, bind_eq_ok_iff] at h
    obtain ⟨d, hd, h⟩ := h
    obtain ⟨b, rfl, -⟩ := exists_setField_eq_ok_iff.1 ⟨d, hd⟩
    have hkey : b.name = a.name ↔ b = a := by
      constructor
      · intro hname
        exact ClauseAttribute.eq_of_name_eq hname
      · intro heq
        rw [heq]
    rw [ih h, content_of_setField b hd, lastContent?]
    simp only [hkey]
    cases lastContent? entries a.name with
    | some last => rfl
    | none =>
      by_cases hb : b = a
      · simp [hb]
      · simp [hb]

/-- A document is read as the clause that writes the normal forms of what it writes last for each
attribute. -/
theorem decode_eq_ok_iff_content :
    FilterInput.decode j = .ok c ↔ ∃ entries, clauseEntries? j = some entries ∧
      AreAttributes entries ∧ ∀ a, c.content a =
        ((lastContent? entries a.name).map a.normal).getD (FilterInput.empty.content a) := by
  rw [decode_eq_ok_iff]
  constructor
  · rintro ⟨entries, hentries, h⟩
    exact ⟨entries, hentries, exists_foldlM_setField_eq_ok_iff.1 ⟨c, h⟩, content_of_foldlM h⟩
  · rintro ⟨entries, hentries, hallowed, hcontent⟩
    obtain ⟨d, hd⟩ := exists_foldlM_setField_eq_ok_iff (c := .empty).2 hallowed
    have hsame : c = d := by
      refine FilterInput.ext_content ?_
      intro a
      rw [hcontent a, content_of_foldlM hd a]
    exact ⟨entries, hentries, hsame ▸ hd⟩

end Reading

/-! ## Reading what is written -/

namespace FilterInput

/-- The last content that a list of attributes writes for one of them. -/
theorem lastContent?_written (c : FilterInput) (keys : List ClauseAttribute) (a : ClauseAttribute) :
    lastContent? (keys.map fun key => (key.name, c.content key)) a.name =
      if a ∈ keys then some (c.content a) else none := by
  induction keys with
  | nil => rfl
  | cons key keys ih =>
    have hkey : key.name = a.name ↔ a = key := by
      constructor
      · intro hname
        exact (ClauseAttribute.eq_of_name_eq hname).symm
      · intro heq
        rw [heq]
    simp only [List.map_cons, lastContent?, ih, hkey, List.mem_cons]
    by_cases hmem : a ∈ keys
    · simp [hmem]
    · by_cases ha : a = key
      · subst ha
        simp [hmem]
      · simp [hmem, ha]

/-- A clause is read back from its attributes in any order.  Those that set nothing may be left out,
and those that are repeated are read again. -/
theorem decode_written (c : FilterInput) {keys : List ClauseAttribute}
    (hkeys : ∀ a, a ∉ keys → c.content a = empty.content a) :
    decode (c.written keys) = .ok c := by
  refine decode_eq_ok_iff_content.2 ⟨_, rfl, ?_, ?_⟩
  · intro entry hentry
    obtain ⟨a, -, rfl⟩ := List.mem_map.1 hentry
    exact ⟨a, rfl, c.allows_content a⟩
  · intro a
    rw [lastContent?_written]
    by_cases ha : a ∈ keys
    · rw [if_pos ha]
      exact (c.normal_content a).symm
    · rw [if_neg ha]
      exact hkeys a ha

theorem decode_toJson (c : FilterInput) : decode c.toJson = .ok c := by
  rw [toJson_eq_written]
  refine c.decode_written ?_
  intro a ha
  exact absurd a.mem_all ha

/-- A filter is read back from the documents of its clauses. -/
theorem decodeFilter_toJson (cs : List FilterInput) :
    decodeFilter (.array (cs.map toJson)) = .ok cs := by
  have hclause : ∀ c ∈ cs, decodeClause c.toJson = .ok c := by
    intro c _
    exact decodeClause_eq_ok_iff.2 c.decode_toJson
  have hread := mapM_eq_ok_map (g := id) hclause
  rw [List.map_id] at hread
  show (cs.map toJson).mapM decodeClause = .ok cs
  rw [List.mapM_map]
  exact hread

/-- Clauses survive the wire: every clause is read back from what it writes, in any order of its
attributes and without those that set nothing, and so is a filter of clauses.  A document that can be
read as a clause is brought to the normal form in which that clause is written. -/
theorem survivesWire :
    (∀ c : FilterInput, decode c.toJson = .ok c ∧
      ∀ keys, (∀ a, a ∉ keys → c.content a = empty.content a) →
        decode (c.written keys) = .ok c) ∧
    (∀ j c, decode j = .ok c → decode c.toJson = .ok c ∧
      ∃ entries, clauseEntries? j = some entries ∧ ∀ a, c.content a =
        ((lastContent? entries a.name).map a.normal).getD (empty.content a)) ∧
    ∀ cs : List FilterInput, decodeFilter (.array (cs.map toJson)) = .ok cs ∧
      decodeClauses (.array (cs.map toJson)) = .ok (cs.map clause) := by
  refine ⟨?_, ?_, ?_⟩
  · intro c
    refine ⟨c.decode_toJson, ?_⟩
    intro keys hkeys
    exact c.decode_written hkeys
  · intro j c h
    obtain ⟨entries, hentries, -, hcontent⟩ := decode_eq_ok_iff_content.1 h
    exact ⟨c.decode_toJson, entries, hentries, hcontent⟩
  · intro cs
    have hfilter := decodeFilter_toJson cs
    refine ⟨hfilter, ?_⟩
    rw [decodeClauses, hfilter]
    rfl

end FilterInput

namespace Sample

/-- A clause whose literal is a number, between attributes that set nothing, with a second field. -/
def numberedClause : Json :=
  .object [("field", .string "name"), ("equals", .null), ("greaterThan", .ofInt64 5),
    ("field", .string "age")]

/-- The clause that is meant. -/
def olderThanFive : FilterInput := { FilterInput.empty with field := "age", greaterThan := "5" }

end Sample

open Sample in
/-- The clause is read with its number as a text, and comes back from two of its attributes. -/
theorem FilterInput.survivesWire_numberedClause :
    decode numberedClause = .ok olderThanFive ∧
      decode (olderThanFive.written [.comparison .greaterThan, .field]) = .ok olderThanFive ∧
      decode olderThanFive.toJson = .ok olderThanFive := by
  have hread : decode numberedClause = .ok olderThanFive := rfl
  have hrest : ∀ a, a ∉ [ClauseAttribute.comparison .greaterThan, .field] →
      olderThanFive.content a = empty.content a := by
    intro a
    cases a with
    | field | conjunction => simp [olderThanFive, content]
    | comparison op => cases op <;> simp [olderThanFive, content]
  obtain ⟨hclause, hdocument, -⟩ := survivesWire
  exact ⟨hread, (hclause olderThanFive).2 _ hrest, (hdocument numberedClause _ hread).1⟩

/-! ## Documents as values -/

/-- To read a document into a value loses nothing: the value has the document back, so that a filter
or a sort that is supplied as the value is read like the document itself. -/
theorem Value.ofJson_reads_alike (j : Json) :
    (Value.ofJson j).toJson = j ∧
      clausesOfValue (.ofJson j) = clausesOfValue (.json j) ∧
      decodeSort (Value.ofJson j).toJson = decodeSort (Value.json j).toJson := by
  have hdocument : (Value.ofJson j).toJson = j := Value.toJson_ofJson j
  have hsame : (Value.ofJson j).toJson = (Value.json j).toJson := hdocument
  refine ⟨hdocument, ?_, ?_⟩
  · rw [clausesOfValue, clausesOfValue, hsame]
  · rw [hsame]

end TypedQuery
