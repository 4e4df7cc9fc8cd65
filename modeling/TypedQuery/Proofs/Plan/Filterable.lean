import TypedQuery.Proofs.Plan.Soundness
import TypedQuery.Proofs.Schema.Types

/-!
# Filterable members

A clause on one name is let through if the name matches one of the filter fields of the element's
type, and then reads the member that the name stands for.  The two are looked up apart: among the
filter fields any match will do, among the members a name of its own goes first.  Where the lookup
takes no scalar for a member that is none (`TypeDescriptor.IsUniform`), the member that is read is a
filter field itself: `compileFilter_reads_filterField`.  A type without scalar members has no
enumeration, and there any member is let through (`MemberResolver.checkFilterable_eq_ok_iff`).
-/

namespace TypedQuery

/-! ## Reads -/

section Nodes

variable {e n : Expr} {es : List Expr}

theorem Expr.self_mem_nodes (e : Expr) : e ∈ e.nodes := by
  cases e <;> exact List.mem_cons_self ..

theorem ConditionOn.field_mem_nodes {field : Expr} (h : ConditionOn field e) : field ∈ e.nodes := by
  have hfield := field.self_mem_nodes
  cases h with
  | relation | order => simp [Expr.nodes_binary, Expr.nodes_compare, hfield]
  | among | notAmong => simp [Expr.nodes_not, Expr.nodes_contains, Expr.nodes_text, hfield]
  | textRelation => simp [Expr.nodes_binary, Expr.nodes_text, hfield]

theorem mem_nodes_foldl_binary (op : BinaryOp) (h : n ∈ e.nodes ∨ ∃ d ∈ es, n ∈ d.nodes) :
    n ∈ (es.foldl (.binary op) e).nodes := by
  induction es generalizing e with
  | nil => exact h.resolve_right nofun
  | cons d es ih =>
    refine ih ?_
    rw [Expr.nodes_binary, List.mem_cons, List.mem_append]
    rw [List.exists_mem_cons_iff] at h
    tauto

theorem mem_nodes_disjunction (he : e ∈ es) (hn : n ∈ e.nodes) : n ∈ (disjunction es).nodes := by
  cases es with
  | nil => cases he
  | cons d es =>
    refine mem_nodes_foldl_binary .or ?_
    rcases List.mem_cons.1 he with rfl | he
    · exact Or.inl hn
    · exact Or.inr ⟨e, he, hn⟩

/-- What is read in the running group or in a condition after it is read in a group. -/
theorem exists_mem_groupsFrom {conditions : List (Conjunction × Expr)}
    (h : n ∈ e.nodes ∨ ∃ c ∈ conditions, n ∈ c.2.nodes) :
    ∃ g ∈ groupsFrom e conditions, n ∈ g.nodes := by
  induction conditions generalizing e with
  | nil => exact ⟨e, List.mem_singleton_self e, h.resolve_right nofun⟩
  | cons c conditions ih =>
    obtain ⟨joined, d⟩ := c
    rw [List.exists_mem_cons_iff] at h
    cases joined with
    | and =>
      refine ih ?_
      rw [Expr.nodes_binary, List.mem_cons, List.mem_append]
      tauto
    | or =>
      rcases h with h | h
      · exact ⟨e, List.mem_cons_self .., h⟩
      · obtain ⟨g, hg, hn⟩ := ih h
        exact ⟨g, List.mem_cons_of_mem _ hg, hn⟩

theorem mem_nodes_disjunction_groups {conditions : List (Conjunction × Expr)}
    {c : Conjunction × Expr} (hc : c ∈ conditions) (hn : n ∈ c.2.nodes) :
    n ∈ (disjunction (groups conditions)).nodes := by
  cases conditions with
  | nil => cases hc
  | cons d conditions =>
    obtain ⟨g, hg, hn⟩ : ∃ g ∈ groupsFrom d.2 conditions, n ∈ g.nodes := by
      refine exists_mem_groupsFrom ?_
      rcases List.mem_cons.1 hc with rfl | hc
      · exact Or.inl hn
      · exact Or.inr ⟨c, hc, hn⟩
    exact mem_nodes_disjunction hg hn

/-- What the condition of a clause reads the predicate of the filter reads. -/
theorem mem_nodes_of_compileFilter {r : MemberResolver} {policy : ClausePolicy} {p : Parameter}
    {clauses : List FilterClause} {f : CompiledFilter}
    (h : compileFilter r policy p clauses = .ok f) {clause : FilterClause}
    (hclause : clause ∈ clauses) (hvalid : clause.isValid = true) :
    ∃ e, clause.condition r p = .ok e ∧ ∀ n ∈ e.nodes, n ∈ f.predicate.body.nodes := by
  have h := compileFilter_drop_of_ok h
  rw [compileFilter_drop, map_eq_ok_iff] at h
  obtain ⟨conditions, hconditions, rfl⟩ := h
  obtain ⟨pair, hpair, rfl⟩ := exists_map_of_mapM hconditions
  have hmem : clause ∈ clauses.filter FilterClause.isValid := List.mem_filter.2 ⟨hclause, hvalid⟩
  obtain ⟨e, he, heq⟩ := map_eq_ok_iff.1 (hpair clause hmem)
  refine ⟨e, he, fun n hn => mem_nodes_disjunction_groups (List.mem_map_of_mem hmem) ?_⟩
  rwa [← heq]

end Nodes

/-! ## Matches -/

/-- Of the members that a lookup takes for one another all are scalars or none is. -/
def TypeDescriptor.IsUniform (t : TypeDescriptor) (lookup : MemberLookup) : Prop :=
  ∀ m ∈ t.members, ∀ m' ∈ t.members, lookup.pairs m.name m'.name = true →
    m.isScalar = m'.isScalar

theorem TypeDescriptor.mem_filterFields {t : TypeDescriptor} {name : String} :
    name ∈ t.filterFields.fields ↔ ∃ m ∈ t.members, m.isScalar = true ∧ m.name = name := by
  simp only [filterFields, scalarMembers, List.mem_map, List.mem_filter, and_assoc]

namespace MemberResolver

variable {r : MemberResolver} {p : Parameter} {path : FieldPath} {name typeName : String}
  {t : TypeDescriptor}

/-- A path of one name leads to a member of the element's type that the name matches. -/
theorem exists_member_of_resolvePath (htype : r.schema.type? typeName = some t)
    (hty : p.ty = .object typeName) (hsegments : path.segments = [name]) {f : FieldRef}
    (h : r.resolvePath p.expr path = .ok f) :
    ∃ m ∈ t.members, r.lookup.pairs m.name name = true ∧
      f = ⟨path, .member p.expr m.name m.ty, m.ty⟩ := by
  have htypes : p.expr.ty = .object typeName := hty
  rw [resolvePath_eq, hsegments, htypes] at h
  split at h
  · cases h
  · obtain ⟨⟨e, ty⟩, hfollow, rfl⟩ := map_eq_ok_iff.1 h
    rw [follow_cons, bind_eq_ok_iff] at hfollow
    obtain ⟨⟨declared, memberTy⟩, hmember, hfollow⟩ := hfollow
    obtain ⟨rfl, rfl⟩ := Prod.mk.inj (Except.ok.inj hfollow)
    obtain ⟨entries, hentries, hpick⟩ := member_eq_ok_iff.1 hmember
    rw [Schema.entries?, htype] at hentries
    obtain rfl := Option.some.inj hentries
    obtain ⟨m, hm, heq⟩ := List.mem_map.1 (mem_of_pick? hpick)
    obtain ⟨rfl, rfl⟩ := Prod.mk.inj heq
    exact ⟨m, hm, pairs_of_pick? hpick, rfl⟩

/-- A name is let through if it matches a scalar member, or if the type has none. -/
theorem checkFilterable_eq_ok_iff (hfields : ∀ e, r.schema.filterFields? typeName = some e ↔
      t.scalarMembers ≠ [] ∧ t.filterFields = e) (hsegments : path.segments = [name]) :
    r.checkFilterable (.object typeName) path = .ok () ↔
      t.scalarMembers = [] ∨
        ∃ m ∈ t.members, m.isScalar = true ∧ r.lookup.pairs m.name name = true := by
  have howner : (ExprType.object typeName).objectName?.bind r.schema.filterFields? =
      r.schema.filterFields? typeName := rfl
  unfold checkFilterable
  rw [howner, hsegments]
  cases hfound : r.schema.filterFields? typeName with
  | none =>
    have hnone : t.scalarMembers = [] := by
      by_contra hne
      have hsome := (hfields t.filterFields).2 ⟨hne, rfl⟩
      rw [hfound] at hsome
      cases hsome
    exact ⟨fun _ => Or.inl hnone, fun _ => rfl⟩
  | some e =>
    obtain ⟨hne, rfl⟩ := (hfields e).1 hfound
    have hany : (t.filterFields.fields.any fun f => r.lookup.pairs f name) = true ↔
        ∃ m ∈ t.members, m.isScalar = true ∧ r.lookup.pairs m.name name = true := by
      rw [List.any_eq_true]
      constructor
      · rintro ⟨_, hfield, hpairs⟩
        obtain ⟨m, hm, hscalar, rfl⟩ := TypeDescriptor.mem_filterFields.1 hfield
        exact ⟨m, hm, hscalar, hpairs⟩
      · rintro ⟨m, hm, hscalar, hpairs⟩
        exact ⟨m.name, TypeDescriptor.mem_filterFields.2 ⟨m, hm, hscalar, rfl⟩, hpairs⟩
    rw [← hany, or_iff_right hne]
    dsimp only
    split
    · rename_i hmatch
      exact ⟨fun _ => hmatch, fun _ => rfl⟩
    · rename_i hmatch
      exact ⟨nofun, fun h => absurd h hmatch⟩

end MemberResolver

/-! ## Clauses -/

/-- Where no scalar is taken for a member that is none, a clause on one name that is let through
reads a filter field. -/
theorem exists_filterField_of_clauseCondition {r : MemberResolver} {p : Parameter}
    {path : FieldPath} {clause : FilterClause} {name typeName : String} {t : TypeDescriptor}
    {e : Expr} (htype : r.schema.type? typeName = some t)
    (hfields : ∀ e, r.schema.filterFields? typeName = some e ↔
      t.scalarMembers ≠ [] ∧ t.filterFields = e) (hscalar : t.scalarMembers ≠ [])
    (huniform : t.IsUniform r.lookup) (hty : p.ty = .object typeName)
    (hsegments : path.segments = [name]) (h : clauseCondition r p path clause = .ok e) :
    ∃ m ∈ t.members, m.isScalar = true ∧ m.name ∈ t.filterFields.fields ∧
      r.resolvePath p.expr path = .ok ⟨path, .member p.expr m.name m.ty, m.ty⟩ ∧
      .member p.expr m.name m.ty ∈ e.nodes := by
  rw [clauseCondition_eq, hty, bind_eq_ok_iff] at h
  obtain ⟨_, hcheck, h⟩ := h
  obtain ⟨f, hf, h⟩ := bind_eq_ok_iff.1 h
  obtain ⟨m, hm, hname, rfl⟩ :=
    MemberResolver.exists_member_of_resolvePath htype hty hsegments hf
  obtain ⟨m', hm', hscalar', hpairs⟩ :=
    ((MemberResolver.checkFilterable_eq_ok_iff hfields hsegments).1 hcheck).resolve_left hscalar
  have hisScalar : m.isScalar = true :=
    (huniform m hm m' hm' (r.lookup.pairs_of_pairs hname hpairs)).trans hscalar'
  exact ⟨m, hm, hisScalar, TypeDescriptor.mem_filterFields.2 ⟨m, hm, hisScalar, rfl⟩, hf,
    (conditionOn_of_translate h).field_mem_nodes⟩

/-- A filter on a type of a built schema that has scalar members, none of which the lookup takes for
a member that is no scalar: each valid clause on one name reads a scalar member, one of the filter
fields of the type. -/
theorem compileFilter_reads_filterField {queryType typeName name : String}
    {supply supply' s : Supply} {calls : List SchemaCall} {c : Compiler} {t : TypeDescriptor}
    {clauses : List FilterClause} {clause : FilterClause} {path : FieldPath} {f : CompiledFilter}
    (hbuild : ((SchemaBuilder.start queryType s).performAll calls).build = .ok c.schema)
    (htype : c.schema.type? typeName = some t) (hquery : typeName ≠ c.schema.queryType)
    (hscalar : t.scalarMembers ≠ []) (huniform : t.IsUniform c.settings.lookup)
    (h : c.compileFilter clauses (.object typeName) supply = .ok (f, supply'))
    (hclause : clause ∈ clauses) (hvalid : clause.isValid = true)
    (hpath : clause.field = some path) (hsegments : path.segments = [name]) :
    ∃ element fields m, f.predicate.params = [element] ∧
      c.schema.filterFields? typeName = some fields ∧
      m ∈ t.members ∧ m.isScalar = true ∧ m.name ∈ fields.fields ∧
      c.resolvePath element.expr path = .ok ⟨path, .member element.expr m.name m.ty, m.ty⟩ ∧
      .member element.expr m.name m.ty ∈ f.predicate.body.nodes := by
  have hindexed := (SchemaBuilder.isIndexed_start queryType s).performAll calls
  have hfields : ∀ e, c.schema.filterFields? typeName = some e ↔
      t.scalarMembers ≠ [] ∧ t.filterFields = e :=
    fun _ => hindexed.filterFields?_eq_some_iff_of_type? hbuild htype hquery
  rw [Compiler.compileFilter_eq, map_eq_ok_iff] at h
  obtain ⟨g, hg, heq⟩ := h
  obtain ⟨rfl, -⟩ := Prod.mk.inj heq
  obtain ⟨e, he, hnodes⟩ := mem_nodes_of_compileFilter hg hclause hvalid
  rw [FilterClause.condition, hpath] at he
  obtain ⟨m, hm, hisScalar, hlisted, hresolve, hread⟩ :=
    exists_filterField_of_clauseCondition htype hfields hscalar huniform rfl hsegments he
  obtain ⟨_, -, -, hover, -⟩ := exists_conditions_of_compileFilter (compileFilter_drop_of_ok hg)
  exact ⟨_, _, m, hover.params_eq, (hfields _).2 ⟨hscalar, rfl⟩, hm, hisScalar, hlisted, hresolve,
    hnodes _ hread⟩

namespace Sample

/-- The schema in the making, with a type of teams beside the query type. -/
def teamBuilder (members : List MemberDescriptor) : SchemaBuilder :=
  (SchemaBuilder.start "Query" ⟨0⟩).performAll [.type ⟨"Team", none, members⟩]

/-- The compiler of that schema, with the standard settings. -/
def teamCompiler (members : List MemberDescriptor) : Compiler :=
  ⟨(teamBuilder members).build.toOption.getD default, .standard⟩

/-- The clause that a member is null. -/
def nullClause (name : String) : FilterClause := .isNull ⟨name⟩ true

/-- Teams with a name and members. -/
def namedTeam : List MemberDescriptor :=
  [⟨"name", .scalar .string⟩, ⟨"members", .sequence (.object "Person")⟩]

/-- Someone who leads a team. -/
def boss : MemberDescriptor := ⟨"Boss", .object "Person"⟩

/-- Those in a team. -/
def teamMembers : MemberDescriptor := ⟨"members", .sequence (.object "Person")⟩

/-- Whether a filter on teams lets a clause on a name through and reads the member of that name. -/
def Reads (members : List MemberDescriptor) (m : MemberDescriptor) : Prop :=
  (teamBuilder members).build = .ok (teamCompiler members).schema ∧
  (teamCompiler members).schema.type? "Team" = some ⟨"Team", none, members⟩ ∧
  (teamCompiler members).schema.queryType = "Query" ∧
  (nullClause m.name).isValid = true ∧ (⟨m.name⟩ : FieldPath).segments = [m.name] ∧
  ∃ f s element,
    (teamCompiler members).compileFilter [nullClause m.name] (.object "Team") ⟨0⟩ = .ok (f, s) ∧
    f.predicate.params = [element] ∧
    (teamCompiler members).resolvePath element.expr ⟨m.name⟩ =
      .ok ⟨⟨m.name⟩, .member element.expr m.name m.ty, m.ty⟩ ∧
    .member element.expr m.name m.ty ∈ f.predicate.body.nodes

end Sample

open Sample in
/-- A clause on the name of a team, in capitals, reads the filter field. -/
theorem compileFilter_reads_name :
    (teamBuilder namedTeam).build = .ok (teamCompiler namedTeam).schema ∧
    (teamCompiler namedTeam).schema.type? "Team" = some ⟨"Team", none, namedTeam⟩ ∧
    "Team" ≠ (teamCompiler namedTeam).schema.queryType ∧
    TypeDescriptor.scalarMembers ⟨"Team", none, namedTeam⟩ ≠ [] ∧
    TypeDescriptor.IsUniform ⟨"Team", none, namedTeam⟩ .ignoreCase ∧
    (nullClause "NAME").isValid = true ∧
    ∃ f s element fields, ∃ m ∈ namedTeam,
      (teamCompiler namedTeam).compileFilter [nullClause "NAME"] (.object "Team") ⟨0⟩ =
        .ok (f, s) ∧
      (teamCompiler namedTeam).schema.filterFields? "Team" = some fields ∧
      m.isScalar = true ∧ m.name ∈ fields.fields ∧
      .member element m.name m.ty ∈ f.predicate.body.nodes := by
  have hbuild : (teamBuilder namedTeam).build = .ok (teamCompiler namedTeam).schema := rfl
  have hscalars : TypeDescriptor.scalarMembers ⟨"Team", none, namedTeam⟩ ≠ [] :=
    List.cons_ne_nil _ _
  have huniform : TypeDescriptor.IsUniform ⟨"Team", none, namedTeam⟩ .ignoreCase := by
    unfold TypeDescriptor.IsUniform
    decide
  obtain ⟨f, s, h⟩ : ∃ f s, (teamCompiler namedTeam).compileFilter [nullClause "NAME"]
      (.object "Team") ⟨0⟩ = .ok (f, s) := ⟨_, _, rfl⟩
  have hsegments : (⟨"NAME"⟩ : FieldPath).segments = ["NAME"] := rfl
  obtain ⟨element, fields, m, -, hfields, hm, hscalar, hlisted, -, hread⟩ :=
    compileFilter_reads_filterField hbuild rfl (by decide) hscalars huniform h
      (List.mem_singleton_self _) rfl rfl hsegments
  exact ⟨hbuild, rfl, by decide, hscalars, huniform, rfl, f, s, element.expr, fields, m, hm, h,
    hfields, hscalar, hlisted, hread⟩

open Sample in
/-- Where the name of a scalar differs in case alone, a clause on another member is let through: the
scalar matches its name.  So is one on any member where no member is a scalar. -/
theorem reads_boss_and_teamMembers :
    (((teamCompiler [boss, ⟨"boss", .scalar .string⟩]).schema.filterFields? "Team").map
        FilterFieldEnum.fields = some ["boss"] ∧
      boss.isScalar = false ∧ Reads [boss, ⟨"boss", .scalar .string⟩] boss) ∧
    (teamCompiler [teamMembers]).schema.filterFields? "Team" = none ∧
      teamMembers.isScalar = false ∧ Reads [teamMembers] teamMembers := by
  refine ⟨⟨rfl, rfl, rfl, rfl, rfl, rfl, rfl, _, _, _, rfl, rfl, rfl, ?_⟩,
    rfl, rfl, rfl, rfl, rfl, rfl, rfl, _, _, _, rfl, rfl, rfl, ?_⟩
  -- Both predicates relate the text of the member to a constant.
  · exact .tail _ (.tail _ (.head _))
  · exact .tail _ (.tail _ (.head _))

end TypedQuery
