import TypedQuery.Proofs.Plan.Pages
import TypedQuery.Proofs.Plan.UnreadArguments

/-!
# Fields in pages

A field that filters, sorts and pages a list field reads none of its own arguments in its template,
so with any of them it stands on one and the same sequence over the context.  Its pages of one size
are cut from what the field gives without a page, and together they are all of it:
`resolveField_pages`.
-/

namespace TypedQuery

/-! ## Arguments -/

/-- An integer is supplied for an argument, by whatever converts to it. -/
def SuppliesInt (lookup : MemberLookup) (supplied : Dict Expr) (name : String) (n : Int64) : Prop :=
  ∃ e v, supplied? lookup supplied name = some e ∧ e.evalClosed = .ok v ∧
    v.coerceTo? .int = some (.int n)

/-- Arguments for a page of what other arguments ask for. -/
structure AsksForPage (lookup : MemberLookup) (whole paged : Dict Expr) (number size : Nat) :
    Prop where
  filter : supplied? lookup paged "filter" = supplied? lookup whole "filter"
  sort : supplied? lookup paged "sort" = supplied? lookup whole "sort"
  page : SuppliesInt lookup paged "page" (.ofNat number)
  pageSize : SuppliesInt lookup paged "pageSize" (.ofNat size)

section Arguments

variable {f : SchemaField} {lookup : MemberLookup} {supplied whole paged : Dict Expr}
  {b : BoundArguments} {n : Int64}

theorem SuppliesInt.exists_convertArgument {name : String}
    (h : SuppliesInt lookup supplied name n) :
    ∃ e, supplied? lookup supplied name = some e ∧
      (evaluated e.evalClosed >>= fun v => convertArgument name v .int) = .ok (.int n) := by
  obtain ⟨e, v, he, hv, hn⟩ := h
  refine ⟨e, he, ?_⟩
  rw [evaluated_of_ok hv, ok_bind, convertArgument, hn]

theorem bindArgument_page (h : SuppliesInt lookup supplied "page" n) :
    bindArgument f lookup supplied b (.ofKind "page" .page) =
      .ok ({ b with page := some n }.withSlot "page" (.int n)) := by
  obtain ⟨e, he, hn⟩ := h.exists_convertArgument
  unfold bindArgument bindSupplied ArgumentDescriptor.ofKind
  simp only [he]
  rw [← bind_assoc, hn]
  rfl

theorem bindArgument_pageSize (h : SuppliesInt lookup supplied "pageSize" n) :
    bindArgument f lookup supplied b (.ofKind "pageSize" .pageSize) =
      .ok ({ b with pageSize := some n }.withSlot "pageSize" (.int n)) := by
  obtain ⟨e, he, hn⟩ := h.exists_convertArgument
  unfold bindArgument bindSupplied ArgumentDescriptor.ofKind
  simp only [he]
  rw [← bind_assoc, hn]
  rfl

theorem bindArgument_of_absent {name : String} {kind : ArgumentKind}
    (h : supplied? lookup supplied name = none) :
    bindArgument f lookup supplied b (.ofKind name kind) =
      .ok (b.withSlot name (absentSlot kind)) := by
  unfold bindArgument ArgumentDescriptor.ofKind
  simp only [h]
  rfl

theorem bindArguments_filterQuery (hf : f.arguments = SchemaBuilder.filterQueryArguments) :
    bindArguments f lookup supplied =
      bindArgument f lookup supplied .empty (.ofKind "filter" .filterQuery) >>= fun b =>
        bindArgument f lookup supplied b (.ofKind "sort" .sort) >>= fun b =>
          bindArgument f lookup supplied b (.ofKind "page" .page) >>= fun b =>
            bindArgument f lookup supplied b (.ofKind "pageSize" .pageSize) := by
  rw [bindArguments, hf]
  simp only [SchemaBuilder.filterQueryArguments, List.foldlM_cons, List.foldlM_nil, bind_pure]

/-- Arguments without a page ask for everything, and with one for the page of that. -/
theorem exists_bindArguments_page (hf : f.arguments = SchemaBuilder.filterQueryArguments)
    (hpage : supplied? lookup whole "page" = none)
    (hpageSize : supplied? lookup whole "pageSize" = none) {arguments : BoundArguments}
    (h : bindArguments f lookup whole = .ok arguments) :
    arguments.shaping.page = .all ∧
      ∀ {paged number size}, AsksForPage lookup whole paged number size →
        ∃ arguments', bindArguments f lookup paged = .ok arguments' ∧
          arguments'.shaping = { arguments.shaping with page := .ofNat number size } := by
  rw [bindArguments_filterQuery hf, bind_eq_ok_iff] at h
  obtain ⟨filtered, hfiltered, h⟩ := h
  obtain ⟨sorted, hsorted, h⟩ := bind_eq_ok_iff.1 h
  rw [bindArgument_of_absent hpage, ok_bind, bindArgument_of_absent hpageSize] at h
  obtain rfl := Except.ok.inj h
  have hnumber : sorted.IsIdle .page :=
    ((BoundArguments.isIdle_empty .page).bindArgument (by decide) hfiltered).bindArgument
      (by decide) hsorted
  have hsize : sorted.IsIdle .pageSize :=
    ((BoundArguments.isIdle_empty .pageSize).bindArgument (by decide) hfiltered).bindArgument
      (by decide) hsorted
  refine ⟨?_, fun {paged number size} hpaged => ?_⟩
  · show PageSpec.mk sorted.page sorted.pageSize = .all
    rw [show sorted.page = none from hnumber, show sorted.pageSize = none from hsize]
    rfl
  · have hfilter : bindArgument f lookup paged .empty (.ofKind "filter" .filterQuery) =
        .ok filtered := by
      rw [← hfiltered]
      unfold bindArgument ArgumentDescriptor.ofKind
      rw [hpaged.filter]
    have hsort : bindArgument f lookup paged filtered (.ofKind "sort" .sort) = .ok sorted := by
      rw [← hsorted]
      unfold bindArgument ArgumentDescriptor.ofKind
      rw [hpaged.sort]
    have hbind : bindArguments f lookup paged = _ := bindArguments_filterQuery hf
    rw [hfilter, ok_bind, hsort, ok_bind, bindArgument_page hpaged.page, ok_bind,
      bindArgument_pageSize hpaged.pageSize] at hbind
    exact ⟨_, hbind, rfl⟩

end Arguments

/-- Arguments with a page and its size beside them, in the place of others of these names. -/
def withPage (whole : Dict Expr) (number size : Nat) : Dict Expr :=
  (whole.insert "page" (.ofValue (.int (.ofNat number)))).insert "pageSize"
    (.ofValue (.int (.ofNat size)))

theorem asksForPage_withPage (lookup : MemberLookup) (whole : Dict Expr) {number size : Nat}
    (hnumber : number < 2 ^ 31) (hsize : size < 2 ^ 31) :
    AsksForPage lookup whole (withPage whole number size) number size := by
  have hconvert : ∀ {n : Nat}, n < 2 ^ 31 →
      (Value.int (.ofNat n)).coerceTo? .int = some (.int (.ofNat n)) := by
    intro n hn
    have hfits : (Value.int (.ofNat n)).fits .int = true := by
      rw [Value.fits, PageSpec.toInt_ofNat hn, Bool.and_eq_true, decide_eq_true_eq,
        decide_eq_true_eq]
      omega
    exact if_pos hfits
  refine ⟨?_, ?_, ⟨.ofValue (.int (.ofNat number)), _, ?_, rfl, hconvert hnumber⟩,
    ⟨_, _, supplied?_insert_self, rfl, hconvert hsize⟩⟩
  · rw [withPage, supplied?_insert_of_ne rfl, supplied?_insert_of_ne rfl]
  · rw [withPage, supplied?_insert_of_ne rfl, supplied?_insert_of_ne rfl]
  · rw [withPage, supplied?_insert_of_ne rfl, supplied?_insert_self]

/-! ## The sequence -/

/-- A field that filters, sorts and pages a sequence, and has no other use for its arguments. -/
structure SchemaField.IsPaged (f : SchemaField) : Prop where
  arguments : f.arguments = SchemaBuilder.filterQueryArguments
  unread : ∀ args ∈ f.argsParam?, f.body.mentions args.id = false
  sequence : f.body.ty.isSequence = true

theorem SchemaField.IsPaged.isShaped {f : SchemaField} (h : f.IsPaged) : f.isShaped = true := by
  rw [SchemaField.isShaped, h.arguments]
  rfl

/-! ## Resolving -/

section Resolve

variable {f : SchemaField}

/-- A paged field is resolved to a shaping of its sequence, with parameters that do not depend on
the arguments. -/
theorem SchemaField.IsPaged.exists_resolveField_eq (h : f.IsPaged) (r : MemberResolver)
    (policy : ClausePolicy) (context : Expr) (supply : Supply) :
    ∃ s p q rest, f.template.expr.idBound ≤ s.next ∧ context.idBound ≤ s.next ∧
      f.body.ty.element? = some p.ty ∧ f.body.ty.element? = some q.ty ∧
      (∀ id ∈ [p.id, q.id], s.next ≤ id.index) ∧
      ∀ supplied, resolveField r policy f supplied context supply =
        bindArguments f r.lookup supplied >>= fun arguments =>
          (compileShaping r policy p q arguments.shaping).map fun shaping =>
            (f.resolved s arguments.holderValue context shaping.apply, rest) := by
  obtain ⟨elementType, helement⟩ := ExprType.exists_element h.sequence
  obtain ⟨s, hs⟩ : ∃ s, s = (supply.avoiding f.template.expr).avoiding context := ⟨_, rfl⟩
  have hnext := next_le_next_freshBody (f := f) (s := s)
  refine ⟨s, ((f.freshBody s).supply.draw "p" elementType).1,
    (((f.freshBody s).supply.draw "p" elementType).2.draw "s" elementType).1,
    ⟨(f.freshBody s).supply.next + 2⟩, ?_, ?_, helement, helement, ?_, fun supplied => ?_⟩
  · rw [hs]
    exact Nat.le_trans (Nat.le_max_right _ _) (Nat.le_max_left _ _)
  · rw [hs]
    exact Nat.le_max_right _ _
  · intro id hid
    rcases List.mem_cons.1 hid with rfl | hid
    · exact hnext
    · rw [List.mem_singleton.1 hid]
      exact Nat.le_succ_of_le hnext
  · rw [resolveField, ← hs]
    congr 1
    funext arguments
    unfold shapeBody drawShaping
    simp only [h.isShaped, body_freshBody_of_unread h.unread, helement]
    cases compileShaping r policy _ _ arguments.shaping with
    | error err => rfl
    | ok shaping =>
      rw [map_ok]
      simp only [ok_bind, SchemaField.resolved, body_freshBody_of_unread h.unread]
      rfl

end Resolve

/-! ## Pages of a field -/

section Pages

variable {f : SchemaField} {r : MemberResolver} {policy : ClausePolicy} {context : Expr}
  {whole paged : Dict Expr} {supply supply' : Supply} {b : BoundExpr} {root R : Value}
  {L : List Value} {number size : Nat}

/-- A page of what a paged field gives is cut from what it gives without a page. -/
theorem SchemaField.IsPaged.execute_page (h : f.IsPaged)
    (hpage : supplied? r.lookup whole "page" = none)
    (hpageSize : supplied? r.lookup whole "pageSize" = none)
    (hresolve : resolveField r policy f whole context supply = .ok (b, supply'))
    (hexecute : b.execute root = .ok R) (hlist : R.asList? = some L)
    (hpaged : AsksForPage r.lookup whole paged number size) (hnumber : number < 2 ^ 31)
    (hsize : 0 < size) (hbound : size < 2 ^ 31) (supply₁ : Supply) :
    ∃ b' supply₂, resolveField r policy f paged context supply₁ = .ok (b', supply₂) ∧
      b'.execute root = .ok (.list ((L.drop ((number - 1) * size)).take size)) := by
  obtain ⟨s, p, q, rest, hs, hsc, hp, hq, hids, hfield⟩ :=
    h.exists_resolveField_eq r policy context supply
  rw [hfield, bind_eq_ok_iff] at hresolve
  obtain ⟨arguments, harguments, hresolve⟩ := hresolve
  obtain ⟨shaping, hshaping, hresolve⟩ := map_eq_ok_iff.1 hresolve
  obtain ⟨rfl, -⟩ := Prod.mk.inj hresolve
  obtain ⟨hall, hpages⟩ := exists_bindArguments_page h.arguments hpage hpageSize harguments
  obtain ⟨arguments', harguments', hrequest⟩ := hpages hpaged
  obtain ⟨s', p', q', rest', hs', hsc', hp', hq', hids', hfield'⟩ :=
    h.exists_resolveField_eq r policy context supply₁
  obtain ⟨shaping', hshaping', hcut⟩ := exists_compileShaping_page hshaping hall
    (Option.some.inj (hp'.symm.trans hp)) (Option.some.inj (hq'.symm.trans hq)) hnumber hsize hbound
  refine ⟨f.resolved s' arguments'.holderValue context shaping'.apply, rest', ?_, ?_⟩
  · rw [hfield', harguments', ok_bind, hrequest, hshaping', map_ok]
  · have hwrapping := (compileShaping_over hshaping).wrapping
    have hwrapping' := (compileShaping_over hshaping').wrapping
    have hscope : ∀ id, (f.bodyOver context).mentions id = true →
        ((f.resolved s' arguments'.holderValue context shaping'.apply).scope root).get? id =
          ((f.resolved s arguments.holderValue context shaping.apply).scope root).get? id := by
      intro id hid
      exact get?_scope_resolved_eq (index_lt_of_mentions_bodyOver hs' hsc' hid)
        (index_lt_of_mentions_bodyOver hs hsc hid) _ _
    rw [BoundExpr.execute_eq_ok_iff, expression_resolved_of_unread h.unread hs hwrapping hids] at hexecute
    rw [BoundExpr.execute_eq_ok_iff, expression_resolved_of_unread h.unread hs' hwrapping' hids']
    obtain ⟨hfree, hvalue⟩ := hexecute
    constructor
    · intro id hid
      rw [hwrapping'.mem_freeIds] at hid
      rw [hscope id (Expr.mentions_of_mem_freeIds hid)]
      exact hfree id ((hwrapping.mem_freeIds _).2 hid)
    · refine hcut (Expr.eval_eq_of_mentions hscope) ?_
      rw [Expr.items, hvalue, ok_bind, Value.sequence_eq_ok_iff]
      exact hlist

end Pages

/-! ## Fields over list fields -/

/-- A field derived from a list field is paged, if its body has a sequence type. -/
theorem SchemaField.isPaged_filterQuery {f : SchemaField} {list : String} {ctx args : Parameter}
    {next : Nat} (hnext : f.template.expr.idBound ≤ next) (hctx : ctx.id.index = next)
    (hargs : args.id.index = next + 1)
    (hsequence : (f.filterQuery list ctx args).body.ty.isSequence = true) :
    (f.filterQuery list ctx args).IsPaged where
  arguments := rfl
  unread := by
    intro p hp
    obtain rfl := Option.some.inj hp
    have hbound : ctx.expr.idBound ≤ next + 1 := Nat.succ_le_succ (Nat.le_of_eq hctx)
    exact mentions_bodyOver_eq_false (Nat.le_succ_of_le hnext) hbound (Nat.le_of_eq hargs.symm)
  sequence := hsequence

/-- The pages of one size are all that a field derived from a list field gives: one after the other
they make up what it gives without a page, and behind that they are empty. -/
theorem resolveField_pages {queryType list : String} {supply₀ : Supply} {calls : List SchemaCall}
    {builder : SchemaBuilder} {f : SchemaField}
    (hderive : ((SchemaBuilder.start queryType supply₀).performAll calls).addFilterQueryField list =
      .ok builder)
    (hf : builder.queryField? (list ++ "FilterQuery") = some f)
    (hsequence : f.body.ty.isSequence = true) {r : MemberResolver} {policy : ClausePolicy}
    {whole : Dict Expr} {context : Expr} {supply supply' : Supply} {b : BoundExpr}
    (hpage : supplied? r.lookup whole "page" = none)
    (hpageSize : supplied? r.lookup whole "pageSize" = none)
    (hresolve : resolveField r policy f whole context supply = .ok (b, supply'))
    {root R : Value} {L : List Value} (hexecute : b.execute root = .ok R)
    (hlist : R.asList? = some L) {size : Nat} (hsize : 1 ≤ size) (hbound : size < 2 ^ 31) :
    ∃ pages : Nat → List Value,
      (∀ k < 2 ^ 31, ∀ paged, AsksForPage r.lookup whole paged k size → ∀ supply₁,
        ∃ b' supply₂, resolveField r policy f paged context supply₁ = .ok (b', supply₂) ∧
          b'.execute root = .ok (.list (pages k))) ∧
      (∀ k, (pages k).length ≤ size) ∧
      ∀ count, L.length ≤ count * size →
        (List.range' 1 count).flatMap pages = L ∧ ∀ k, count < k → pages k = [] := by
  have hfresh := (SchemaBuilder.isFresh_start queryType supply₀).performAll calls
  obtain ⟨source, ctx, args, hsource, -, hfield, hctx, hargs⟩ :=
    SchemaBuilder.exists_of_addFilterQueryField hderive
  obtain rfl := Option.some.inj (hf.symm.trans hfield)
  have hpaged : (source.filterQuery list ctx args).IsPaged :=
    SchemaField.isPaged_filterQuery
      (hfresh source (SchemaBuilder.mem_allFields_of_listField hsource)) hctx hargs hsequence
  refine ⟨fun k => (L.drop ((k - 1) * size)).take size, ?_, ?_, ?_⟩
  · intro k hk paged hasks supply₁
    exact hpaged.execute_page hpage hpageSize hresolve hexecute hlist hasks hk hsize hbound supply₁
  · intro k
    exact List.length_take_le ..
  · intro count hcount
    refine ⟨?_, fun k hk => take_drop_eq_nil hcount hk⟩
    rw [← take_mul_eq_flatMap, List.take_of_length_le hcount]

namespace Sample

/-- A list of the people of a directory. -/
def everyPerson : SchemaField where
  name := "people"
  description := none
  template := ⟨[contextParam], .member contextParam.expr "people" (.sequence personRecord)⟩
  arguments := []
  returns := ⟨"Person", true⟩

/-- The clauses for those above thirty. -/
def adults : Dict Expr :=
  [("filter", .ofValue (.list
    [.ofFields [("field", .string "age"), ("greaterThan", .string "30")]]))]

/-- The parameter for a list of people. -/
def peopleParam : Parameter := ⟨⟨0⟩, "db", .sequence personRecord⟩

/-- The parameter for the context in the template below. -/
def listParam : Parameter := ⟨⟨1⟩, "c", .sequence personRecord⟩

/-- A list of people as it stands. -/
def sameList : SchemaField where
  name := "same"
  description := none
  template := ⟨[listParam], listParam.expr⟩
  arguments := []
  returns := ⟨"Person", true⟩

end Sample

open Sample in
/-- Of the two people above thirty there is one on each of two pages, and none on the third. -/
theorem resolveField_adults :
    ∃ builder f, ((SchemaBuilder.start "Query" ⟨2⟩).performAll
        [.queryField everyPerson]).addFilterQueryField "people" = .ok builder ∧
      builder.queryField? ("people" ++ "FilterQuery") = some f ∧
      ∃ pages : Nat → List Value,
        (∀ k < 2 ^ 31, ∃ b s, resolveField compiler.resolver .drop f (withPage adults k 1)
          directoryParam.expr ⟨0⟩ = .ok (b, s) ∧
            b.execute peopleDirectory = .ok (.list (pages k))) ∧
        (List.range' 1 2).flatMap pages = people.take 2 ∧ pages 3 = [] := by
  obtain ⟨builder, f, hderive, hf, hsequence, b, s, hresolve, hexecute⟩ : ∃ builder f,
      ((SchemaBuilder.start "Query" ⟨2⟩).performAll
        [.queryField everyPerson]).addFilterQueryField "people" = .ok builder ∧
      builder.queryField? ("people" ++ "FilterQuery") = some f ∧
      f.body.ty.isSequence = true ∧
      ∃ b s, resolveField compiler.resolver .drop f adults directoryParam.expr ⟨0⟩ = .ok (b, s) ∧
        b.execute peopleDirectory = .ok (.list (people.take 2)) :=
    ⟨_, _, rfl, rfl, rfl, _, _, rfl, rfl⟩
  obtain ⟨pages, hpages, -, hcount⟩ := resolveField_pages hderive hf hsequence rfl rfl hresolve
    hexecute rfl (Nat.le_refl 1) (by decide)
  obtain ⟨hall, hbehind⟩ := hcount 2 (Nat.le_refl 2)
  refine ⟨builder, f, hderive, hf, pages, fun k hk => ?_, hall, hbehind 3 (by decide)⟩
  exact hpages k hk _ (asksForPage_withPage _ _ hk (by decide)) ⟨0⟩

open Sample in
/-- Over a list field whose context is the sequence, the body of the derived field is the context of
queries and no sequence: where a page of one is asked for, both people are given. -/
theorem resolveField_sameList :
    sameList.template.freeParameters = [] ∧ sameList.body.freeParameters = [listParam] ∧
    ∃ builder f, ((SchemaBuilder.start "Query" ⟨2⟩).performAll
        [.queryField sameList]).addFilterQueryField "same" = .ok builder ∧
      builder.queryField? ("same" ++ "FilterQuery") = some f ∧
      (∃ b s, resolveField compiler.resolver .drop f [] peopleParam.expr ⟨0⟩ = .ok (b, s) ∧
        b.execute (.list (people.take 2)) = .ok (.list (people.take 2))) ∧
      AsksForPage compiler.resolver.lookup [] (withPage [] 1 1) 1 1 ∧
      ∃ b s, resolveField compiler.resolver .drop f (withPage [] 1 1) peopleParam.expr ⟨0⟩ =
          .ok (b, s) ∧
        b.execute (.list (people.take 2)) = .ok (.list (people.take 2)) ∧
        (people.take 2).length = 2 :=
  ⟨rfl, rfl, _, _, rfl, rfl, ⟨_, _, rfl, rfl⟩,
    asksForPage_withPage _ _ (by decide) (by decide), _, _, rfl, rfl, rfl⟩

end TypedQuery
