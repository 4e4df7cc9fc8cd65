import Mathlib.Data.List.Nodup
import TypedQuery.Proofs.Dict
import TypedQuery.Proofs.FieldPath
import TypedQuery.Proofs.Plan.Arguments
import TypedQuery.Proofs.Plan.Lookup

/-!
# Letter case of names

A look-up that ignores letter case still takes an exact name first, and of several entries that
match the first one, so what it finds may depend on the case of what is asked for.  It does not
where the entries differ in more than letter case (`DistinctNames`): there at most one of them
matches, and it is the one that is found (`MemberResolver.pick?_ignoreCase_eq_some_iff`).  The same
look-up finds the members on a path and the arguments that are supplied (`supplied?_eq`).

Two runs on requests that differ in letter case alone are compared step by step.  They go on with
references to the same member, under different paths, and the paths come up again in what failures
say: `SameOutcome` compares failures by their kind.
-/

namespace TypedQuery

open Text

/-! ## Names that differ in more than letter case -/

/-- Names no two of which are equal up to letter case. -/
def DistinctNames (names : List String) : Prop :=
  names.Pairwise fun a b => eqIgnoringCase a b = false

instance (names : List String) : Decidable (DistinctNames names) :=
  inferInstanceAs (Decidable (names.Pairwise _))

theorem distinctNames_iff {names : List String} :
    DistinctNames names ↔ (names.map fun name => name.toList.map Char.toLower).Nodup := by
  rw [DistinctNames, List.Nodup, List.pairwise_map]
  simp [← Bool.not_eq_true, eqIgnoringCase_iff]

/-- Types in whose records no two fields have names that are equal up to letter case.  Objects are
left to the schema, and of sequences and functions nothing is asked, since no path leads through
them. -/
inductive ExprType.HasDistinctNames : ExprType → Prop where
  | scalar (type : DataType) : HasDistinctNames (.scalar type)
  | object (name : String) : HasDistinctNames (.object name)
  | record {fields : List (String × ExprType)} (hnames : DistinctNames (fields.map Prod.fst))
      (htypes : ∀ f ∈ fields, HasDistinctNames f.2) : HasDistinctNames (.record fields)
  | sequence (element : ExprType) : HasDistinctNames (.sequence element)
  | function (params : List ExprType) (output : ExprType) :
      HasDistinctNames (.function params output)

/-- A schema in whose types no two members have names that are equal up to letter case. -/
def Schema.HasDistinctNames (s : Schema) : Prop :=
  ∀ name t, s.type? name = some t →
    DistinctNames (t.members.map MemberDescriptor.name) ∧ ∀ m ∈ t.members, m.ty.HasDistinctNames

theorem Schema.HasDistinctNames.entries? {s : Schema} (hs : s.HasDistinctNames) {ty : ExprType}
    (hty : ty.HasDistinctNames) {entries : List (String × ExprType)}
    (h : s.entries? ty = some entries) :
    DistinctNames (entries.map Prod.fst) ∧ ∀ e ∈ entries, e.2.HasDistinctNames := by
  cases hty with
  | scalar | sequence | function => cases h
  | object name =>
    obtain ⟨t, ht, rfl⟩ := Option.map_eq_some_iff.1 h
    obtain ⟨hnames, htypes⟩ := hs name t ht
    rw [List.map_map]
    exact ⟨hnames, List.forall_mem_map.2 htypes⟩
  | record hnames htypes =>
    obtain rfl := Option.some.inj h
    exact ⟨hnames, htypes⟩

/-! ## Looking up -/

section Entries

variable {α : Type} {entries : List (String × α)} {e e' : String × α} {name name' : String}

theorem DistinctNames.eq_of_eqIgnoringCase (h : DistinctNames (entries.map Prod.fst))
    (he : e ∈ entries) (he' : e' ∈ entries) (heq : eqIgnoringCase e.1 e'.1 = true) : e = e' := by
  rw [distinctNames_iff, List.map_map] at h
  exact List.inj_on_of_nodup_map h he he' (eqIgnoringCase_iff.1 heq)

/-- Among distinct names the entry that matches is found, whatever its letter case. -/
theorem MemberResolver.pick?_ignoreCase_eq_some_iff {s : Schema}
    (h : DistinctNames (entries.map Prod.fst)) :
    (mk s .ignoreCase).pick? entries name = some e ↔
      e ∈ entries ∧ eqIgnoringCase e.1 name = true := by
  constructor
  · intro hpick
    exact ⟨mem_of_pick? hpick, pairs_of_pick? hpick⟩
  · rintro ⟨hmem, hname⟩
    cases hpick : (mk s .ignoreCase).pick? entries name with
    | some found =>
      have hpairs : eqIgnoringCase found.1 name = true := pairs_of_pick? hpick
      have heq := MemberLookup.ignoreCase.pairs_of_pairs hpairs hname
      rw [h.eq_of_eqIgnoringCase (mem_of_pick? hpick) hmem heq]
    | none =>
      have hnone := List.find?_eq_none.1 (Option.or_eq_none_iff.1 hpick).2 e hmem
      exact absurd hname hnone

theorem MemberResolver.pick?_congr {s : Schema} (h : DistinctNames (entries.map Prod.fst))
    (hname : eqIgnoringCase name name' = true) :
    (mk s .ignoreCase).pick? entries name' = (mk s .ignoreCase).pick? entries name := by
  refine Option.ext fun e => ?_
  rw [pick?_ignoreCase_eq_some_iff h, pick?_ignoreCase_eq_some_iff h, eqIgnoringCase_iff,
    eqIgnoringCase_iff, eqIgnoringCase_iff.1 hname]

end Entries

/-! ## Two runs -/

/-- Outcomes of two compilations: failures of one kind, or results that are related. -/
inductive SameOutcome {α β : Type} (R : α → β → Prop) :
    Except CompileError α → Except CompileError β → Prop where
  | error {e e' : CompileError} (h : e.kind = e'.kind) : SameOutcome R (.error e) (.error e')
  | ok {a : α} {b : β} (h : R a b) : SameOutcome R (.ok a) (.ok b)

namespace SameOutcome

variable {α β γ δ : Type} {x : Except CompileError α} {y : Except CompileError β}

theorem refl (x : Except CompileError α) : SameOutcome Eq x x := by
  cases x with
  | error e => exact .error rfl
  | ok a => exact .ok rfl

theorem bind {R : α → β → Prop} {S : γ → δ → Prop} {f : α → Except CompileError γ}
    {g : β → Except CompileError δ} (h : SameOutcome R x y)
    (hf : ∀ a b, x = .ok a → R a b → SameOutcome S (f a) (g b)) :
    SameOutcome S (x >>= f) (y >>= g) := by
  cases h with
  | error h => exact .error h
  | ok h => exact hf _ _ rfl h

/-- Runs with the same results that go on alike. -/
theorem bind_left {x y : Except CompileError α} (h : SameOutcome Eq x y)
    (f : α → Except CompileError β) : SameOutcome Eq (x >>= f) (y >>= f) := by
  refine h.bind ?_
  rintro a _ - rfl
  exact .refl _

theorem map_left {x y : Except CompileError α} (h : SameOutcome Eq x y) (f : α → β) :
    SameOutcome Eq (x.map f) (y.map f) := by
  rw [map_eq_bind, map_eq_bind]
  exact h.bind_left _

/-- Two runs with the same results, of which the second one goes on with a function of it. -/
theorem map_right {y : Except CompileError α} (h : SameOutcome Eq x y) (f : α → β) :
    SameOutcome (fun a b => b = f a) x (y.map f) := by
  cases h with
  | error h => exact .error h
  | ok h => exact .ok (congrArg f h.symm)

theorem exists_of_ok {R : α → β → Prop} {a : α} (h : SameOutcome R x y) (hx : x = .ok a) :
    ∃ b, y = .ok b ∧ R a b := by
  cases h with
  | error => cases hx
  | ok h =>
    obtain rfl := Except.ok.inj hx
    exact ⟨_, rfl, h⟩

end SameOutcome

/-- References to one member, by whatever paths. -/
structure FieldRef.SameMember (f f' : FieldRef) : Prop where
  expr : f.expr = f'.expr
  ty : f.ty = f'.ty

/-- Paths that are equal up to letter case. -/
def FieldPath.EqIgnoringCase (p q : FieldPath) : Prop := eqIgnoringCase p.raw q.raw = true

/-- Clauses that differ in the letter case of their fields alone. -/
structure FilterClause.EqIgnoringCase (c c' : FilterClause) : Prop where
  field : Option.Rel FieldPath.EqIgnoringCase c.field c'.field
  comparison : c.comparison = c'.comparison
  literal : c.literal = c'.literal
  conjunction : c.conjunction = c'.conjunction
  conflicting : c.conflicting = c'.conflicting

/-- Sorts that differ in the letter case of their fields alone. -/
structure SortSpec.EqIgnoringCase (s s' : SortSpec) : Prop where
  field : Option.Rel FieldPath.EqIgnoringCase s.field s'.field
  direction : s.direction = s'.direction

theorem FieldPath.EqIgnoringCase.isEmpty_eq {p q : FieldPath} (h : p.EqIgnoringCase q) :
    p.isEmpty = q.isEmpty :=
  isEmpty_eq_of_forall₂ (segments_eqIgnoringCase h)

/-! ## Paths -/

section Paths

variable {s : Schema} (hs : s.HasDistinctNames)

include hs

theorem sameOutcome_member {ty : ExprType} (hty : ty.HasDistinctNames) {name name' : String}
    (hname : eqIgnoringCase name name' = true) :
    SameOutcome Eq ((MemberResolver.mk s .ignoreCase).member ty name)
      ((MemberResolver.mk s .ignoreCase).member ty name') := by
  cases hentries : s.entries? ty with
  | none =>
    rw [MemberResolver.member_of_entries?_eq_none hentries,
      MemberResolver.member_of_entries?_eq_none hentries]
    cases ty <;> exact .error rfl
  | some entries =>
    rw [MemberResolver.member_of_entries? hentries, MemberResolver.member_of_entries? hentries,
      MemberResolver.pick?_congr (hs.entries? hty hentries).1 hname]
    cases (MemberResolver.mk s .ignoreCase).pick? entries name with
    | none => exact .error rfl
    | some m => exact .ok rfl

theorem hasDistinctNames_of_member {ty : ExprType} (hty : ty.HasDistinctNames) {name : String}
    {m : String × ExprType} (h : (MemberResolver.mk s .ignoreCase).member ty name = .ok m) :
    m.2.HasDistinctNames := by
  obtain ⟨entries, hentries, hpick⟩ := MemberResolver.member_eq_ok_iff.1 h
  exact (hs.entries? hty hentries).2 m (MemberResolver.mem_of_pick? hpick)

theorem sameOutcome_follow (e : Expr) {ty : ExprType} (hty : ty.HasDistinctNames)
    {names names' : List String}
    (hnames : List.Forall₂ (fun a b => eqIgnoringCase a b = true) names names') :
    SameOutcome Eq ((MemberResolver.mk s .ignoreCase).follow e ty names)
      ((MemberResolver.mk s .ignoreCase).follow e ty names') := by
  induction hnames generalizing e ty with
  | nil => exact .refl _
  | cons hname _ ih =>
    rw [follow_cons, follow_cons]
    refine (sameOutcome_member hs hty hname).bind ?_
    rintro m _ hm rfl
    exact ih _ (hasDistinctNames_of_member hs hty hm)

theorem sameOutcome_resolvePath (root : Expr) (hroot : root.ty.HasDistinctNames)
    {path path' : FieldPath} (hpath : path.EqIgnoringCase path') :
    SameOutcome FieldRef.SameMember ((MemberResolver.mk s .ignoreCase).resolvePath root path)
      ((MemberResolver.mk s .ignoreCase).resolvePath root path') := by
  unfold MemberResolver.resolvePath
  rw [hpath.isEmpty_eq]
  split
  · exact .error rfl
  · refine (sameOutcome_follow hs root hroot (FieldPath.segments_eqIgnoringCase hpath)).bind ?_
    rintro found _ - rfl
    exact .ok ⟨rfl, rfl⟩

end Paths

theorem sameOutcome_checkFilterable {s : Schema} (owner : ExprType) {path path' : FieldPath}
    (hpath : path.EqIgnoringCase path') :
    SameOutcome Eq ((MemberResolver.mk s .ignoreCase).checkFilterable owner path)
      ((MemberResolver.mk s .ignoreCase).checkFilterable owner path') := by
  have hnames := FieldPath.segments_eqIgnoringCase hpath
  unfold MemberResolver.checkFilterable
  generalize path.segments = names at hnames
  generalize path'.segments = names' at hnames
  cases owner.objectName?.bind s.filterFields? with
  | none => exact .refl _
  | some fields =>
    -- Nothing but a single name is checked.
    cases hnames with
    | nil => exact .refl _
    | @cons name name' _ _ hname hnames =>
      cases hnames with
      | nil =>
        have hmatch : (fields.fields.any fun field => eqIgnoringCase field name') =
            fields.fields.any fun field => eqIgnoringCase field name := by
          simp only [eqIgnoringCase, eqIgnoringCase_iff.1 hname]
        change SameOutcome Eq
          (if (fields.fields.any fun field => eqIgnoringCase field name) = true then .ok () else _)
          (if (fields.fields.any fun field => eqIgnoringCase field name') = true then .ok () else _)
        rw [hmatch]
        cases fields.fields.any fun field => eqIgnoringCase field name with
        | true => exact .ok rfl
        | false => exact .error rfl
      | cons => exact .refl _

/-! ## Clauses and sorts -/

section Conditions

variable {f f' : FieldRef} (h : f.SameMember f')

include h

theorem sameOutcome_literalConstant (text : String) :
    SameOutcome Eq (literalConstant f text) (literalConstant f' text) := by
  have hdeclared : f.declared? = f'.declared? := congrArg ExprType.scalar? h.ty
  unfold literalConstant
  rw [hdeclared]
  cases f'.declared? with
  | none => exact .error rfl
  | some type =>
    dsimp only
    split
    · exact .refl _
    · exact .error rfl

/-- The path of a reference has a part in nothing but what a failure says. -/
theorem sameOutcome_translate (op : Option ComparisonOp) (literal : Literal) :
    SameOutcome Eq (translate f op literal) (translate f' op literal) := by
  have hconstant := sameOutcome_literalConstant h
  obtain ⟨form, hform⟩ := exists_form_of_translate op literal
  rw [hform, hform]
  cases form with
  | relation test s =>
    rw [ConditionForm.on, ConditionForm.on, relation_eq, relation_eq, h.expr]
    exact (hconstant s).map_left _
  | order test s =>
    rw [ConditionForm.on, ConditionForm.on, orderRelation_eq, orderRelation_eq, h.expr]
    exact (hconstant s).map_left _
  | among | notAmong | textRelation =>
    simp only [ConditionForm.on, textIn, h.expr]
    exact .refl _
  | unsupported | unsuited => exact .error rfl

end Conditions

theorem FilterClause.EqIgnoringCase.defect?_eq {c c' : FilterClause} (h : c.EqIgnoringCase c') :
    c.defect? = c'.defect? := by
  have hpath : c.path?.isNone = c'.path?.isNone := by
    have hfield := h.field
    unfold path?
    generalize c.field = field at hfield
    generalize c'.field = field' at hfield
    cases hfield with
    | none => rfl
    | some hpath => simp [Option.filter_some, hpath.isEmpty_eq, apply_ite Option.isNone]
  rw [defect?, defect?, hpath, h.comparison, h.conflicting]

section Requests

variable {s : Schema} (hs : s.HasDistinctNames) {p : Parameter} (hp : p.ty.HasDistinctNames)

include hs hp

theorem sameOutcome_clauseCondition {path path' : FieldPath} (hpath : path.EqIgnoringCase path')
    {c c' : FilterClause} (hc : c.EqIgnoringCase c') :
    SameOutcome Eq (clauseCondition ⟨s, .ignoreCase⟩ p path c)
      (clauseCondition ⟨s, .ignoreCase⟩ p path' c') := by
  rw [clauseCondition_eq, clauseCondition_eq, ← hc.comparison, ← hc.literal]
  refine (sameOutcome_checkFilterable p.ty hpath).bind fun _ _ _ _ => ?_
  exact (sameOutcome_resolvePath hs p.expr hp hpath).bind fun f f' _ hf =>
    sameOutcome_translate hf c.comparison c.literal

theorem sameOutcome_clauseConditions (policy : ClausePolicy) (index : Nat)
    {clauses clauses' : List FilterClause}
    (hclauses : List.Forall₂ FilterClause.EqIgnoringCase clauses clauses') :
    SameOutcome Eq (clauseConditions ⟨s, .ignoreCase⟩ policy p index clauses)
      (clauseConditions ⟨s, .ignoreCase⟩ policy p index clauses') := by
  induction hclauses generalizing index with
  | nil => exact .refl _
  | @cons c c' clauses clauses' hc _ ih =>
    have hfield := hc.field
    rw [clauseConditions, clauseConditions, ← hc.defect?_eq, ← hc.conjunction]
    -- Both runs find the same defect, so they part nowhere but in the path that is followed.
    cases c.defect? with
    | some defect =>
      cases policy with
      | reject => exact .refl _
      | drop => exact (ih (index + 1)).bind_left _
    | none =>
      generalize hpath : c.field = field at hfield
      generalize hpath' : c'.field = field' at hfield
      cases hfield with
      | none => exact ih (index + 1)
      | some hpaths =>
        refine (sameOutcome_clauseCondition hs hp hpaths hc).bind ?_
        rintro e _ - rfl
        exact (ih (index + 1)).bind_left _

theorem sameOutcome_compileFilter (policy : ClausePolicy) {clauses clauses' : List FilterClause}
    (hclauses : List.Forall₂ FilterClause.EqIgnoringCase clauses clauses') :
    SameOutcome Eq (compileFilter ⟨s, .ignoreCase⟩ policy p clauses)
      (compileFilter ⟨s, .ignoreCase⟩ policy p clauses') :=
  (sameOutcome_clauseConditions hs hp policy 0 hclauses).bind_left _

theorem sameOutcome_compileSort {spec spec' : Option SortSpec}
    (hspec : Option.Rel SortSpec.EqIgnoringCase spec spec') :
    SameOutcome Eq (compileSort ⟨s, .ignoreCase⟩ p spec)
      (compileSort ⟨s, .ignoreCase⟩ p spec') := by
  cases hspec with
  | none => exact .refl _
  | @some spec spec' h =>
    obtain ⟨field, direction⟩ := spec
    obtain ⟨field', direction'⟩ := spec'
    obtain ⟨hfield, hdirection⟩ := h
    obtain rfl : direction = direction' := hdirection
    cases hfield with
    | none => cases direction <;> exact .refl _
    | some hpath =>
      refine (sameOutcome_resolvePath hs p.expr hp hpath).bind ?_
      rintro f f' - hf
      rw [hf.expr]
      exact .refl _

end Requests

/-! ## Supplied arguments -/

section Arguments

variable {d d' : Dict Expr} {name : String} {e : Expr}

/-- The entries of a dictionary, with their keys in lower case. -/
def Dict.lowered {α : Type} (d : Dict α) : List (List Char × α) :=
  d.map fun entry => (entry.1.toList.map Char.toLower, entry.2)

/-- Dictionaries that differ in the letter case of their keys alone, and so perhaps in the order of
their entries. -/
def Dict.EqIgnoringCase {α : Type} (d d' : Dict α) : Prop := d.lowered.Perm d'.lowered

/-- An argument is looked up as a member is. -/
theorem supplied?_eq (s : Schema) (lookup : MemberLookup) (d : Dict Expr) (name : String) :
    supplied? lookup d name = ((MemberResolver.mk s lookup).pick? d name).map Prod.snd := by
  unfold supplied? MemberResolver.pick?
  rw [Dict.get?_eq_find?]
  cases d.find? (·.1 == name) <;> rfl

theorem Dict.distinctNames_iff {α : Type} {d : Dict α} :
    DistinctNames d.keys ↔ (d.lowered.map Prod.fst).Nodup := by
  rw [TypedQuery.distinctNames_iff, Dict.keys, Dict.lowered, List.map_map, List.map_map]
  rfl

theorem supplied?_ignoreCase_eq_some_iff (h : DistinctNames d.keys) :
    supplied? .ignoreCase d name = some e ↔
      (name.toList.map Char.toLower, e) ∈ d.lowered := by
  rw [supplied?_eq default, Option.map_eq_some_iff, Dict.lowered, List.mem_map]
  constructor
  · rintro ⟨entry, hpick, rfl⟩
    obtain ⟨hmem, hname⟩ := (MemberResolver.pick?_ignoreCase_eq_some_iff h).1 hpick
    exact ⟨entry, hmem, Prod.ext (eqIgnoringCase_iff.1 hname) rfl⟩
  · rintro ⟨entry, hmem, heq⟩
    obtain ⟨hname, hvalue⟩ := Prod.mk.inj heq
    exact ⟨entry, (MemberResolver.pick?_ignoreCase_eq_some_iff h).2
      ⟨hmem, eqIgnoringCase_iff.2 hname⟩, hvalue⟩

/-- Supplied arguments are found whatever the letter case of their keys. -/
theorem supplied?_congr (hkeys : DistinctNames d.keys) (h : d.EqIgnoringCase d') (name : String) :
    supplied? .ignoreCase d' name = supplied? .ignoreCase d name := by
  have hkeys' : DistinctNames d'.keys :=
    Dict.distinctNames_iff.2 ((h.map Prod.fst).nodup_iff.1 (Dict.distinctNames_iff.1 hkeys))
  refine Option.ext fun e => ?_
  rw [supplied?_ignoreCase_eq_some_iff hkeys', supplied?_ignoreCase_eq_some_iff hkeys, h.mem_iff]

theorem bindArguments_congr (f : SchemaField) (hkeys : DistinctNames d.keys)
    (h : d.EqIgnoringCase d') :
    bindArguments f .ignoreCase d' = bindArguments f .ignoreCase d := by
  have hstep : bindArgument f .ignoreCase d' = bindArgument f .ignoreCase d := by
    funext b a
    rw [bindArgument, bindArgument, supplied?_congr hkeys h]
  rw [bindArguments, bindArguments, hstep]

end Arguments

/-- Where no two names of a type are equal up to letter case, a look-up that ignores case does not
depend on the case of what is asked for: filters, sorts and arguments that differ in nothing else
fail in one way, or come out the same with the parameters they were given. -/
theorem sameOutcome_of_eqIgnoringCase {s : Schema} (hs : s.HasDistinctNames)
    {p p' q q' : Parameter} (hp : p.ty.HasDistinctNames) (hp' : p'.ty = p.ty)
    (hq : q.ty.HasDistinctNames) (hq' : q'.ty = q.ty) (policy : ClausePolicy)
    {clauses clauses' : List FilterClause}
    (hclauses : List.Forall₂ FilterClause.EqIgnoringCase clauses clauses')
    {spec spec' : Option SortSpec} (hspec : Option.Rel SortSpec.EqIgnoringCase spec spec')
    (f : SchemaField) {supplied supplied' : Dict Expr} (hkeys : DistinctNames supplied.keys)
    (hsupplied : supplied.EqIgnoringCase supplied') :
    SameOutcome (fun g g' => g' = g.rename p p')
      (compileFilter ⟨s, .ignoreCase⟩ policy p clauses)
      (compileFilter ⟨s, .ignoreCase⟩ policy p' clauses') ∧
    SameOutcome (fun t t' => t' = t.rename q q')
      (compileSort ⟨s, .ignoreCase⟩ q spec) (compileSort ⟨s, .ignoreCase⟩ q' spec') ∧
    bindArguments f .ignoreCase supplied' = bindArguments f .ignoreCase supplied := by
  refine ⟨?_, ?_, bindArguments_congr f hkeys hsupplied⟩
  · rw [compileFilter_rename hp']
    exact (sameOutcome_compileFilter hs hp policy hclauses).map_right _
  · rw [compileSort_rename hq']
    exact (sameOutcome_compileSort hs hq hspec).map_right _

namespace Sample

/-- A schema of clubs, each with a name and a leader. -/
def clubSchema : Schema where
  queryType := "Query"
  types := [("Club", ⟨"Club", none,
    [⟨"Name", .scalar .string⟩, ⟨"leader", .record [("Age", .scalar .int)]⟩]⟩)]
  fields := []
  mutations := []
  filterFields := [("Club", ⟨"ClubFilterEnum", "Club", "", ["Name"]⟩)]

/-- A parameter for a club. -/
def clubElement (index : Nat) : Parameter := ⟨⟨index⟩, "p", .object "Club"⟩

/-- The clubs of a name whose leaders are above thirty. -/
def clubClauses (name age : String) : List FilterClause :=
  [.ofText ⟨name⟩ .equals "Chess", .ofText ⟨age⟩ .greaterThan "30"]

/-- A field with pages of some size. -/
def clubPages : SchemaField where
  name := "clubs"
  description := none
  template := ⟨[], .ofValue (.list [])⟩
  arguments := [.ofKind "page" .page, .ofKind "Size" .pageSize]
  returns := ⟨"Club", true⟩

/-- The second page of five, in the order of its keys. -/
def secondOfFive : Dict Expr := [("PAGE", .ofValue (.int 2)), ("size", .ofValue (.int 5))]

/-- The same page, under other spellings and so in the other order. -/
def fiveSecond : Dict Expr := [("SIZE", .ofValue (.int 5)), ("page", .ofValue (.int 2))]

theorem hasDistinctNames_clubSchema : clubSchema.HasDistinctNames := by
  intro name t h
  rw [Schema.type?, clubSchema, Dict.get?_cons] at h
  split at h
  · obtain rfl := Option.some.inj h
    refine ⟨by decide, List.forall_mem_cons.2 ⟨.scalar _, List.forall_mem_singleton.2 ?_⟩⟩
    exact .record (by decide) (List.forall_mem_singleton.2 (.scalar _))
  · cases h

end Sample

open Sample in
/-- Clauses, sorts and arguments for clubs, in two spellings each. -/
theorem sameOutcome_clubs :
    clubSchema.HasDistinctNames ∧ (clubElement 0).ty.HasDistinctNames ∧
    List.Forall₂ FilterClause.EqIgnoringCase (clubClauses "name" "LEADER.age")
      (clubClauses "NAME" "Leader.AGE") ∧
    (SortSpec.descending ⟨"name"⟩).EqIgnoringCase (.descending ⟨"nAMe"⟩) ∧
    DistinctNames secondOfFive.keys ∧ secondOfFive.EqIgnoringCase fiveSecond ∧
    (∃ g, compileFilter ⟨clubSchema, .ignoreCase⟩ .reject (clubElement 0)
        (clubClauses "name" "LEADER.age") = .ok g ∧
      compileFilter ⟨clubSchema, .ignoreCase⟩ .reject (clubElement 1)
        (clubClauses "NAME" "Leader.AGE") = .ok (g.rename (clubElement 0) (clubElement 1))) ∧
    (∃ t, compileSort ⟨clubSchema, .ignoreCase⟩ (clubElement 0) (some (.descending ⟨"name"⟩)) =
        .ok t ∧
      compileSort ⟨clubSchema, .ignoreCase⟩ (clubElement 1) (some (.descending ⟨"nAMe"⟩)) =
        .ok (t.rename (clubElement 0) (clubElement 1))) ∧
    bindArguments clubPages .ignoreCase fiveSecond =
      bindArguments clubPages .ignoreCase secondOfFive := by
  have hp : (clubElement 0).ty.HasDistinctNames := .object "Club"
  have hty : (clubElement 1).ty = (clubElement 0).ty := rfl
  have hclause {a b : String} (h : eqIgnoringCase a b = true) (op : ComparisonOp) (text : String) :
      (FilterClause.ofText ⟨a⟩ op text).EqIgnoringCase (.ofText ⟨b⟩ op text) :=
    ⟨.some h, rfl, rfl, rfl, rfl⟩
  have hclauses : List.Forall₂ FilterClause.EqIgnoringCase (clubClauses "name" "LEADER.age")
      (clubClauses "NAME" "Leader.AGE") :=
    .cons (hclause (by decide) _ _) (.cons (hclause (by decide) _ _) .nil)
  have hname : eqIgnoringCase "name" "nAMe" = true := by decide
  have hspec : (SortSpec.descending ⟨"name"⟩).EqIgnoringCase (.descending ⟨"nAMe"⟩) :=
    ⟨.some hname, rfl⟩
  have hkeys : DistinctNames secondOfFive.keys := by decide
  have hsupplied : secondOfFive.EqIgnoringCase fiveSecond := .swap _ _ _
  obtain ⟨hfilter, hsort, hbind⟩ := sameOutcome_of_eqIgnoringCase hasDistinctNames_clubSchema
    hp hty hp hty .reject hclauses (.some hspec) clubPages hkeys hsupplied
  obtain ⟨_, hg, rfl⟩ := hfilter.exists_of_ok rfl
  obtain ⟨_, ht, rfl⟩ := hsort.exists_of_ok rfl
  exact ⟨hasDistinctNames_clubSchema, hp, hclauses, hspec, hkeys, hsupplied, ⟨_, rfl, hg⟩,
    ⟨_, rfl, ht⟩, hbind⟩

end TypedQuery
