import TypedQuery.Proofs.FieldPath
import TypedQuery.Proofs.Plan.Policies
import TypedQuery.Proofs.Plan.Shaping

/-!
# Exact names

Whatever the look-up, a name that is declared stands for itself, even if another one that matches
it is declared before.  So what is compiled where names have to be exact is compiled to the same
where they need not be: nothing of what goes into a shaping can fail that did not (`Extends`).  And
along a path the declared names that were chosen are the exact names of the same members.  They
have the form of names in a path, since they match such names, so the path that is put together
from them is cut into them again: `compileShaping_exact`.
-/

namespace TypedQuery

/-- The expression followed by accesses to members. -/
def Expr.access (e : Expr) (members : List (String × ExprType)) : Expr :=
  members.foldl (fun e m => .member e m.1 m.2) e

/-! ## What exact names are compiled to -/

section Extension

variable {s : Schema} {lookup : MemberLookup}

namespace MemberResolver

theorem extends_member (owner : ExprType) (name : String) :
    Extends ((mk s .exact).member owner name) ((mk s lookup).member owner name) := by
  intro m h
  obtain ⟨entries, hentries, hpick⟩ := member_eq_ok_iff.1 h
  exact member_eq_ok_iff.2 ⟨entries, hentries, pick?_of_exact hpick⟩

theorem extends_follow (e : Expr) (ty : ExprType) (names : List String) :
    Extends ((mk s .exact).follow e ty names) ((mk s lookup).follow e ty names) := by
  induction names generalizing e ty with
  | nil => exact .refl _
  | cons name names ih =>
    rw [follow_cons, follow_cons]
    exact (extends_member ty name).bind fun m => ih (.member e m.1 m.2) m.2

theorem extends_resolvePath (root : Expr) (path : FieldPath) :
    Extends ((mk s .exact).resolvePath root path) ((mk s lookup).resolvePath root path) := by
  unfold resolvePath
  split
  · exact .refl _
  · exact (extends_follow root root.ty path.segments).bind fun _ => .refl _

theorem extends_checkFilterable (owner : ExprType) (path : FieldPath) :
    Extends ((mk s .exact).checkFilterable owner path)
      ((mk s lookup).checkFilterable owner path) := by
  intro _ h
  unfold checkFilterable at h ⊢
  split at h
  · rename_i fields name hfields hsegments
    split at h
    · rename_i hany
      obtain ⟨field, hfield, hpairs⟩ := List.any_eq_true.1 hany
      have hmatch : lookup.pairs field name = true := lookup.pairs_of_exact hpairs
      simp only [hfields, hsegments]
      exact if_pos (List.any_eq_true.2 ⟨field, hfield, hmatch⟩)
    · cases h
  · exact h

end MemberResolver

theorem extends_clauseCondition (p : Parameter) (path : FieldPath) (c : FilterClause) :
    Extends (clauseCondition ⟨s, .exact⟩ p path c) (clauseCondition ⟨s, lookup⟩ p path c) :=
  (MemberResolver.extends_checkFilterable p.ty path).bind fun _ =>
    (MemberResolver.extends_resolvePath p.expr path).bind fun _ => .refl _

theorem extends_clauseConditions (policy : ClausePolicy) (p : Parameter) (index : Nat)
    (clauses : List FilterClause) :
    Extends (clauseConditions ⟨s, .exact⟩ policy p index clauses)
      (clauseConditions ⟨s, lookup⟩ policy p index clauses) := by
  induction clauses generalizing index with
  | nil => exact .refl _
  | cons c clauses ih =>
    unfold clauseConditions
    split
    · cases policy with
      | reject => exact .refl _
      | drop => exact (ih _).bind fun _ => .refl _
    · exact ih _
    · exact (extends_clauseCondition p _ c).bind fun _ => (ih _).bind fun _ => .refl _

theorem extends_compileSort (q : Parameter) (spec : Option SortSpec) :
    Extends (compileSort ⟨s, .exact⟩ q spec) (compileSort ⟨s, lookup⟩ q spec) := by
  unfold compileSort
  split
  · exact .refl _
  · exact .refl _
  · exact .refl _
  · exact (MemberResolver.extends_resolvePath q.expr _).bind fun _ => .refl _

theorem extends_compileShaping (policy : ClausePolicy) (p q : Parameter)
    (request : ShapingRequest) :
    Extends (compileShaping ⟨s, .exact⟩ policy p q request)
      (compileShaping ⟨s, lookup⟩ policy p q request) := by
  have hfilter : Extends (compileFilter ⟨s, .exact⟩ policy p request.clauses)
      (compileFilter ⟨s, lookup⟩ policy p request.clauses) :=
    (extends_clauseConditions policy p 0 request.clauses).bind fun _ => .refl _
  rw [compileShaping_eq, compileShaping_eq]
  exact hfilter.bind fun _ => (extends_compileSort q request.sort).bind fun _ => .refl _

end Extension

/-! ## The names that a path stands for -/

section Names

variable {s : Schema} {lookup : MemberLookup}

/-- The members along a path have names that match those of the path, and are found again by their
own names. -/
theorem exists_members_of_follow {e e' : Expr} {ty ty' : ExprType} {names : List String}
    (h : (MemberResolver.mk s lookup).follow e ty names = .ok (e', ty')) :
    ∃ members, e' = e.access members ∧
      List.Forall₂ (fun m name => lookup.pairs m.1 name = true) members names ∧
      (MemberResolver.mk s .exact).follow e ty (members.map Prod.fst) = .ok (e', ty') := by
  induction names generalizing e ty with
  | nil =>
    obtain ⟨rfl, rfl⟩ := Prod.mk.inj (Except.ok.inj h)
    exact ⟨[], rfl, .nil, rfl⟩
  | cons name names ih =>
    rw [follow_cons, bind_eq_ok_iff] at h
    obtain ⟨m, hmember, h⟩ := h
    obtain ⟨members, rfl, hpairs, hfollow⟩ := ih h
    obtain ⟨entries, hentries, hpick⟩ := MemberResolver.member_eq_ok_iff.1 hmember
    refine ⟨m :: members, rfl, .cons (MemberResolver.pairs_of_pick? hpick) hpairs, ?_⟩
    have hexact : (MemberResolver.mk s .exact).member ty m.1 = .ok m :=
      MemberResolver.member_eq_ok_iff.2 ⟨entries, hentries, MemberResolver.pick?_fst_of_pick? hpick⟩
    rw [List.map_cons, follow_cons, hexact, ok_bind, hfollow]

/-- What matches the names of a path can be a name of a path. -/
theorem isPathName_of_pairs {members : List (String × ExprType)} {names : List String}
    (hnames : ∀ name ∈ names, IsPathName name)
    (h : List.Forall₂ (fun m name => lookup.pairs m.1 name = true) members names) :
    ∀ name ∈ members.map Prod.fst, IsPathName name := by
  induction h with
  | nil => exact nofun
  | cons hpairs _ ih =>
    obtain ⟨hname, hnames⟩ := List.forall_mem_cons.1 hnames
    rw [List.map_cons, List.forall_mem_cons]
    exact ⟨hname.of_eqIgnoringCase (MemberLookup.eqIgnoringCase_of_pairs hpairs), ih hnames⟩

/-- The path of the declared names leads to the same member. -/
theorem exists_members_of_resolvePath {root : Expr} {path : FieldPath} {f : FieldRef}
    (h : (MemberResolver.mk s lookup).resolvePath root path = .ok f) :
    ∃ members, f.expr = root.access members ∧
      List.Forall₂ (fun m name => lookup.pairs m.1 name = true) members path.segments ∧
      (MemberResolver.mk s .exact).resolvePath root (.ofSegments (members.map Prod.fst)) =
        .ok ⟨.ofSegments (members.map Prod.fst), f.expr, f.ty⟩ := by
  rw [resolvePath_eq] at h
  split at h
  · cases h
  · rename_i hempty
    obtain ⟨⟨e, ty⟩, hfollow, rfl⟩ := map_eq_ok_iff.1 h
    obtain ⟨members, heq, hpairs, hexact⟩ := exists_members_of_follow hfollow
    have hsegments : (FieldPath.ofSegments (members.map Prod.fst)).segments =
        members.map Prod.fst :=
      FieldPath.segments_ofSegments
        (isPathName_of_pairs (fun _ => FieldPath.isPathName_of_mem_segments) hpairs)
    have hempty' : (FieldPath.ofSegments (members.map Prod.fst)).isEmpty = path.isEmpty := by
      rw [FieldPath.isEmpty, FieldPath.isEmpty, hsegments, List.isEmpty_map,
        isEmpty_eq_of_forall₂ hpairs]
    refine ⟨members, heq, hpairs, ?_⟩
    rw [resolvePath_eq, hempty', if_neg hempty, hsegments, hexact, map_ok]

end Names

/-- What compiles where names have to be exact compiles to the same where letter case does not
count, with other parameters for the element.  And of whatever names a path is resolved by, the
declared names of the members on it make up a path that resolves exactly, to the same member. -/
theorem compileShaping_exact (s : Schema) :
    (∀ policy request (p q p' q' : Parameter) shaping, p'.ty = p.ty → q'.ty = q.ty →
      compileShaping ⟨s, .exact⟩ policy p q request = .ok shaping →
      compileShaping ⟨s, .ignoreCase⟩ policy p' q' request = .ok (shaping.rename p q p' q')) ∧
    ∀ lookup root path f, (MemberResolver.mk s lookup).resolvePath root path = .ok f →
      ∃ members, f.expr = root.access members ∧
        List.Forall₂ (fun m name => lookup.pairs m.1 name = true) members path.segments ∧
        (MemberResolver.mk s .exact).resolvePath root (.ofSegments (members.map Prod.fst)) =
          .ok ⟨.ofSegments (members.map Prod.fst), f.expr, f.ty⟩ := by
  refine ⟨fun policy request p q p' q' shaping hp hq h => ?_, fun lookup root path f h => ?_⟩
  · rw [compileShaping_rename hp hq, extends_compileShaping policy p q request shaping h, map_ok]
  · exact exists_members_of_resolvePath h

namespace Sample

/-- Records with two names that differ in letter case alone, under another name. -/
def namesakes : ExprType :=
  .record [("Owner", .record [("NAME", .scalar .int), ("name", .scalar .string)])]

/-- A parameter for such a record. -/
def namesakeElement (index : Nat) : Parameter := ⟨⟨index⟩, "p", namesakes⟩

/-- The second name, by its exact path, compared with a text and sorted by. -/
def exactRequest : ShapingRequest where
  clauses := [.ofText ⟨"Owner.name"⟩ .equals "Ada"]
  sort := some (.descending ⟨"Owner.name"⟩)
  page := .all

end Sample

open Sample in
/-- The exact path leads to the second name, also where the first one matches it.  A path with
blanks, an empty part and other letter case leads to the first one, whose path is `Owner.NAME`. -/
theorem compileShaping_exact_namesakes :
    (∃ shaping,
      compileShaping ⟨default, .exact⟩ .reject (namesakeElement 0) (namesakeElement 1)
          exactRequest =
        .ok shaping ∧
      compileShaping ⟨default, .ignoreCase⟩ .reject (namesakeElement 2) (namesakeElement 3)
          exactRequest =
        .ok (shaping.rename (namesakeElement 0) (namesakeElement 1) (namesakeElement 2)
          (namesakeElement 3))) ∧
    ∃ f, (MemberResolver.mk default .ignoreCase).resolvePath (namesakeElement 0).expr
        ⟨" OWNER..Name "⟩ = .ok f ∧
      (MemberResolver.mk default .exact).resolvePath (namesakeElement 0).expr ⟨"Owner.NAME"⟩ =
        .ok ⟨⟨"Owner.NAME"⟩, f.expr, f.ty⟩ := by
  obtain ⟨hextends, hcanonical⟩ := compileShaping_exact default
  refine ⟨⟨_, rfl, hextends .reject exactRequest (namesakeElement 0) (namesakeElement 1)
    (namesakeElement 2) (namesakeElement 3) _ rfl rfl rfl⟩, _, rfl, ?_⟩
  obtain ⟨members, heq, hpairs, hexact⟩ :=
    hcanonical .ignoreCase (namesakeElement 0).expr ⟨" OWNER..Name "⟩ _ rfl
  have hsegments : (⟨" OWNER..Name "⟩ : FieldPath).segments = ["OWNER", "Name"] := by decide
  rw [hsegments] at hpairs
  cases hpairs with
  | @cons owner _ _ _ _ hpairs =>
    cases hpairs with
    | @cons name _ _ _ _ hpairs =>
      cases hpairs
      obtain ⟨howner, hname, -⟩ := Expr.member.inj heq
      obtain ⟨-, howner, -⟩ := Expr.member.inj howner
      rw [List.map_cons, List.map_cons, List.map_nil, ← howner, ← hname] at hexact
      exact hexact

end TypedQuery
