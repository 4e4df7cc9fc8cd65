import TypedQuery.Proofs.Dict
import TypedQuery.Proofs.Plan.Field

/-!
# Arguments that are left out

An argument that is left out puts its default into the holder as it stands.  One that is supplied is
converted first, and if it shapes the query it is also read as what it asks for.  So a default does
what its being supplied would do if it is settled, that is, converted already and without anything
to ask: `resolveField_insert_default`.  The default of a page size is passed over:
`resolveField_onePerPage`.
-/

namespace TypedQuery

/-! ## Supplied arguments -/

theorem evaluated_of_ok {α : Type} {x : Except EvalError α} {a : α} (h : x = .ok a) :
    evaluated x = .ok a := by
  rw [h]
  rfl

theorem MemberLookup.pairs_eq_false (lookup : MemberLookup) {declared requested : String}
    (h : Text.eqIgnoringCase declared requested = false) :
    lookup.pairs declared requested = false := by
  cases lookup with
  | exact =>
    refine beq_eq_false_iff_ne.2 ?_
    rintro rfl
    rw [Text.eqIgnoringCase_refl] at h
    cases h
  | ignoreCase => exact h

section Supplied

variable {lookup : MemberLookup} {supplied : Dict Expr} {key name : String} {e : Expr}

theorem supplied?_insert_self : supplied? lookup (supplied.insert name e) name = some e := by
  rw [supplied?, Dict.get?_insert_self]

theorem supplied?_insert_of_ne (h : Text.eqIgnoringCase key name = false) :
    supplied? lookup (supplied.insert key e) name = supplied? lookup supplied name := by
  have hne : key ≠ name := by
    rintro rfl
    rw [Text.eqIgnoringCase_refl] at h
    cases h
  unfold supplied?
  rw [Dict.get?_insert_of_ne _ hne, Dict.find?_insert fun _ => lookup.pairs_eq_false h]

end Supplied

/-- Arguments with different names, also where the case of letters does not count. -/
def ArgumentDescriptor.IsApart (a b : ArgumentDescriptor) : Prop :=
  Text.eqIgnoringCase a.name b.name = false

instance : Std.Symm ArgumentDescriptor.IsApart where
  symm a b h := by
    unfold ArgumentDescriptor.IsApart Text.eqIgnoringCase at h ⊢
    rw [← h]
    exact Bool.beq_comm

theorem ArgumentDescriptor.not_isApart_self (a : ArgumentDescriptor) : ¬ a.IsApart a := by
  intro h
  rw [IsApart, Text.eqIgnoringCase_refl] at h
  cases h

/-! ## What an argument asks for -/

/-- A default that stays what it is when it is supplied: a value of the type that the argument has,
and null where the argument shapes the query.  What is supplied for a filter stands in a record of
its own, which no default is. -/
def ArgumentDescriptor.IsSettled (a : ArgumentDescriptor) (d : Value) : Prop :=
  match a.kind with
  | .value type => d.coerceTo? type = some d
  | .filterQuery => False
  | .sort | .page | .pageSize => d = .null

namespace BoundArguments

/-- Whether the arguments of a kind that shapes the query ask for nothing so far. -/
def IsIdle (b : BoundArguments) : ArgumentKind → Prop
  | .value _ => True
  | .filterQuery => b.clauses = []
  | .sort => b.sort = none
  | .page => b.page = none
  | .pageSize => b.pageSize = none

theorem isIdle_empty (kind : ArgumentKind) : empty.IsIdle kind := by
  cases kind <;> trivial

variable {b b' : BoundArguments} {a : ArgumentDescriptor} {kind : ArgumentKind}

theorem IsIdle.withSlot (h : b.IsIdle kind) (name : String) (v : Value) :
    (b.withSlot name v).IsIdle kind := by
  cases kind <;> exact h

/-- An argument asks for what its own kind asks for. -/
theorem IsIdle.bindSupplied (h : b.IsIdle kind) (hne : a.kind ≠ kind) {e : Expr}
    (hb : bindSupplied b a e = .ok b') : b'.IsIdle kind := by
  unfold TypedQuery.bindSupplied at hb
  obtain ⟨v, -, hb⟩ := bind_eq_ok_iff.1 hb
  cases hkind : a.kind with
  | value type =>
    simp only [hkind] at hb
    obtain ⟨w, -, hb⟩ := bind_eq_ok_iff.1 hb
    rw [← Except.ok.inj hb]
    exact h.withSlot _ _
  | filterQuery | sort | page | pageSize =>
    simp only [hkind] at hb
    obtain ⟨w, -, hb⟩ := bind_eq_ok_iff.1 hb
    rw [← Except.ok.inj hb]
    refine IsIdle.withSlot ?_ _ _
    rw [hkind] at hne
    cases kind <;> first | exact h | exact absurd rfl hne

theorem IsIdle.bindArgument (h : b.IsIdle kind) (hne : a.kind ≠ kind) {f : SchemaField}
    {lookup : MemberLookup} {supplied : Dict Expr}
    (hb : bindArgument f lookup supplied b a = .ok b') : b'.IsIdle kind := by
  unfold TypedQuery.bindArgument at hb
  split at hb
  · exact h.bindSupplied hne hb
  · split at hb
    · cases hb
    · rw [← Except.ok.inj hb]
      exact h.withSlot _ _

/-- A settled default that is supplied fills the slot and does nothing else. -/
theorem IsIdle.bindSupplied_of_isSettled (h : b.IsIdle a.kind) {d : Value} (hd : a.IsSettled d) :
    TypedQuery.bindSupplied b a (.ofValue d) = .ok (b.withSlot a.name d) := by
  have hvalue : evaluated (Expr.ofValue d).evalClosed = .ok d := rfl
  unfold ArgumentDescriptor.IsSettled at hd
  unfold TypedQuery.bindSupplied
  rw [hvalue, ok_bind]
  cases hkind : a.kind with
  | value type =>
    simp only [hkind] at hd ⊢
    rw [convertArgument, hd]
    rfl
  | filterQuery =>
    simp only [hkind] at hd
  | sort | page | pageSize =>
    simp only [hkind] at hd ⊢
    subst hd
    rw [hkind] at h
    obtain ⟨holder, clauses, sort, page, pageSize⟩ := b
    obtain rfl := h
    rfl

end BoundArguments

/-! ## Leaving an argument out -/

section Defaults

variable {r : MemberResolver} {policy : ClausePolicy} {f : SchemaField} {lookup : MemberLookup}
  {supplied : Dict Expr} {a : ArgumentDescriptor} {d : Value}

/-- What is left out is bound to its default, and other arguments do not see it supplied. -/
theorem foldlM_bindArgument_insert (hrequired : a.required = false) (hdefault : a.default = some d)
    (hsupplied : supplied? lookup supplied a.name = none) (hd : a.IsSettled d)
    {arguments : List ArgumentDescriptor}
    (hnames : arguments.Pairwise ArgumentDescriptor.IsApart)
    (hothers : ∀ c ∈ arguments, c ≠ a → a.IsApart c)
    (hsole : a.kind.isShaping = true → ∀ c ∈ arguments, c.kind = a.kind → c = a)
    {b : BoundArguments} (hidle : a ∈ arguments → b.IsIdle a.kind) :
    arguments.foldlM (bindArgument f lookup (supplied.insert a.name (.ofValue d))) b =
      arguments.foldlM (bindArgument f lookup supplied) b := by
  induction arguments generalizing b with
  | nil => rfl
  | cons c arguments ih =>
    obtain ⟨hc, hnames⟩ := List.pairwise_cons.1 hnames
    have hothers' : ∀ c ∈ arguments, c ≠ a → a.IsApart c :=
      fun c hc => hothers c (List.mem_cons_of_mem _ hc)
    have hsole' : a.kind.isShaping = true → ∀ c ∈ arguments, c.kind = a.kind → c = a :=
      fun hshaping c hc => hsole hshaping c (List.mem_cons_of_mem _ hc)
    rw [List.foldlM_cons, List.foldlM_cons]
    by_cases hca : c = a
    · subst hca
      have hstep : bindArgument f lookup (supplied.insert c.name (.ofValue d)) b c =
          bindArgument f lookup supplied b c := by
        unfold bindArgument
        rw [supplied?_insert_self, hsupplied, hrequired, hdefault]
        exact (hidle (List.mem_cons_self ..)).bindSupplied_of_isSettled hd
      -- The names differ, so the argument does not come again.
      have habsent : c ∉ arguments := fun hmem => c.not_isApart_self (hc c hmem)
      rw [hstep]
      congr 1
      funext b'
      exact ih hnames hothers' hsole' fun hmem => absurd hmem habsent
    · have hstep : bindArgument f lookup (supplied.insert a.name (.ofValue d)) b c =
          bindArgument f lookup supplied b c := by
        unfold bindArgument
        rw [supplied?_insert_of_ne (hothers c (List.mem_cons_self ..) hca)]
      rw [hstep]
      cases hb : bindArgument f lookup supplied b c with
      | error err => rfl
      | ok b' =>
        rw [ok_bind, ok_bind]
        refine ih hnames hothers' hsole' fun hmem => ?_
        have hidle := hidle (List.mem_cons_of_mem _ hmem)
        by_cases hkind : c.kind = a.kind
        · have hshaping : a.kind.isShaping = false := by
            by_contra hne
            rw [Bool.not_eq_false] at hne
            exact hca (hsole hne c (List.mem_cons_self ..) hkind)
          cases ha : a.kind with
          | value type => trivial
          | _ =>
            rw [ha] at hshaping
            cases hshaping
        · exact hidle.bindArgument hkind hb

/-- To leave an argument out is to supply its default, if the default is settled and no other
argument asks the query for the same. -/
theorem resolveField_insert_default (hnames : f.arguments.Pairwise ArgumentDescriptor.IsApart)
    (ha : a ∈ f.arguments) (hrequired : a.required = false) (hdefault : a.default = some d)
    (hsupplied : supplied? r.lookup supplied a.name = none) (hd : a.IsSettled d)
    (hsole : a.kind.isShaping = true → ∀ c ∈ f.arguments, c.kind = a.kind → c = a)
    (context : Expr) (supply : Supply) :
    resolveField r policy f (supplied.insert a.name (.ofValue d)) context supply =
      resolveField r policy f supplied context supply := by
  have hothers : ∀ c ∈ f.arguments, c ≠ a → a.IsApart c :=
    fun c hc hne => hnames.forall ha hc (Ne.symm hne)
  have hbind : bindArguments f r.lookup (supplied.insert a.name (.ofValue d)) =
      bindArguments f r.lookup supplied :=
    foldlM_bindArgument_insert hrequired hdefault hsupplied hd hnames hothers hsole
      fun _ => BoundArguments.isIdle_empty a.kind
  rw [resolveField, hbind, resolveField]

end Defaults

namespace Sample

/-- The parameter for the arguments in the template below. -/
def argsParam : Parameter :=
  ⟨⟨2⟩, "args", .record [("minAge", .scalar .int), ("pageSize", .scalar .int)]⟩

/-- The parameter for a person in the template below. -/
def personParam : Parameter := ⟨⟨3⟩, "p", personRecord⟩

/-- The age that people have at least if nothing else is asked for. -/
def minAge : ArgumentDescriptor := ⟨"minAge", .value .int, false, some (.int 18)⟩

/-- One person on a page if nothing else is asked for. -/
def onePerPage : ArgumentDescriptor := ⟨"pageSize", .pageSize, false, some (.int 1)⟩

/-- The people of a directory from an age on, in pages. -/
def grownPeople : SchemaField where
  name := "grownPeople"
  description := none
  template := ⟨[contextParam, argsParam],
    .call .filter (.member contextParam.expr "people" (.sequence personRecord))
      [.lambda [personParam] (.binary .greaterOrEqual (.member personParam.expr "age" (.scalar .int))
        (.member argsParam.expr "minAge" (.scalar .int)))]⟩
  arguments := [minAge, onePerPage]
  returns := ⟨"Person", true⟩

theorem pairwise_isApart_grownPeople :
    grownPeople.arguments.Pairwise ArgumentDescriptor.IsApart := by
  refine .cons ?_ (.cons nofun .nil)
  intro c hc
  obtain rfl := List.mem_singleton.1 hc
  rfl

end Sample

open Sample in
/-- An age of eighteen may be left out or supplied. -/
theorem resolveField_minAge :
    resolveField compiler.resolver .drop grownPeople
        (Dict.insert [] minAge.name (.ofValue (.int 18))) directoryParam.expr ⟨4⟩ =
      resolveField compiler.resolver .drop grownPeople [] directoryParam.expr ⟨4⟩ :=
  resolveField_insert_default pairwise_isApart_grownPeople (List.mem_cons_self ..) rfl rfl rfl rfl
    nofun _ _

open Sample in
/-- A page size of one cuts the result if it is supplied, and does not as the default of an argument
that is left out. -/
theorem resolveField_onePerPage :
    grownPeople.arguments.Pairwise ArgumentDescriptor.IsApart ∧
    onePerPage ∈ grownPeople.arguments ∧ onePerPage.required = false ∧
    onePerPage.default = some (.int 1) ∧
    supplied? compiler.resolver.lookup [] onePerPage.name = none ∧
    (∃ b s, resolveField compiler.resolver .drop grownPeople [] directoryParam.expr ⟨4⟩ =
        .ok (b, s) ∧ b.execute peopleDirectory = .ok (.list (people.take 2))) ∧
    ∃ b s, resolveField compiler.resolver .drop grownPeople
        (Dict.insert [] onePerPage.name (.ofValue (.int 1))) directoryParam.expr ⟨4⟩ =
        .ok (b, s) ∧ b.execute peopleDirectory = .ok (.list (people.take 1)) := by
  refine ⟨pairwise_isApart_grownPeople, List.mem_cons_of_mem _ (List.mem_singleton_self _), rfl,
    rfl, rfl, ⟨_, _, rfl, rfl⟩, ⟨_, _, rfl, rfl⟩⟩

end TypedQuery
