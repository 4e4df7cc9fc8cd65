import TypedQuery.Expr.Bound
import TypedQuery.Proofs.Expr.Replacement

/-!
# One context after another

A bound expression that is put over a context, and with it over the context's own, may be put over
both at once: `BoundExpr.substituteContext_substituteContext`.  The expressions are equal by
`Expr.replace_replace_of_mentions`.  That the contexts are takes more, since the new context is the
first free parameter of what took the old one's place.  Where only one parameter is free, what comes
first after a replacement is what comes first in the new expression
(`Expr.head?_freeParameters_replace`).
-/

namespace TypedQuery

/-! ## The first free parameter -/

theorem head?_foldl_addParameter (p : Parameter) (ps found : List Parameter) :
    (ps.foldl addParameter (p :: found)).head? = some p := by
  induction ps generalizing found with
  | nil => rfl
  | cons q ps ih =>
    rw [List.foldl_cons]
    rcases addParameter_cases (p :: found) q with ⟨-, hadd⟩ | ⟨-, hadd⟩
    · rw [hadd]
      exact ih found
    · rw [hadd]
      exact ih (found ++ [q])

namespace Expr

/-- The first free parameter is the first occurrence. -/
theorem head?_freeParameters (e : Expr) : e.freeParameters.head? = e.occurrences.head? := by
  rw [freeParameters_eq]
  cases e.occurrences with
  | nil => rfl
  | cons p ps => exact head?_foldl_addParameter p ps []

/-- An expression with one free parameter has occurrences, all of that parameter. -/
theorem occurrences_of_freeParameters_eq_singleton {e : Expr} {x : Parameter}
    (h : e.freeParameters = [x]) : e.occurrences ≠ [] ∧ ∀ p ∈ e.occurrences, p.id = x.id := by
  constructor
  · intro hnil
    have hhead := head?_freeParameters e
    rw [h, hnil] at hhead
    cases hhead
  · intro p hp
    have hmem : p.id ∈ e.freeParameters.map Parameter.id :=
      mem_map_id_freeParameters.2 (List.mem_map_of_mem hp)
    rw [h] at hmem
    exact List.mem_singleton.1 hmem

/-- What takes the place of the one free parameter brings the first free parameter. -/
theorem head?_freeParameters_replace {e d : Expr} {x : Parameter} (h : e.freeParameters = [x])
    (hx : e.declares x.id = false) (hcapture : ∀ id ∈ d.freeIds, e.declares id = false) :
    (e.replace x.id d).freeParameters.head? = d.freeParameters.head? := by
  obtain ⟨hne, hids⟩ := occurrences_of_freeParameters_eq_singleton h
  have hoccurrences : (e.replace x.id d).occurrences =
      e.occurrences.flatMap fun _ => d.occurrences := by
    rw [occurrences_replace hx hcapture]
    exact List.flatMap_congr fun p hp => if_pos (hids p hp)
  rw [head?_freeParameters, head?_freeParameters, hoccurrences]
  obtain ⟨p, ps, hp⟩ := List.exists_cons_of_ne_nil hne
  rw [hp, List.flatMap_cons, List.head?_append]
  cases d.occurrences with
  | nil => simp
  | cons q qs => rfl

end Expr

/-! ## Contexts -/

attribute [ext] BoundExpr

namespace BoundExpr

/-- The new context is the first free parameter of what takes the place of the old one. -/
theorem context_substituteContext_eq_head? (b : BoundExpr) (r : Expr) :
    (b.substituteContext r).context = r.freeParameters.head? := by
  unfold substituteContext
  cases r <;> rfl

theorem expression_substituteContext (b : BoundExpr) (r : Expr) :
    (b.substituteContext r).expression =
      match b.context with
      | some c => b.expression.replace c.id r
      | none => b.expression := rfl

/-- To put an expression over one context and then over the next is to put it over the first where
that stands over the next. -/
theorem substituteContext_substituteContext {b : BoundExpr} {r₁ r₂ : Expr} {x : Parameter}
    (hfree : r₁.freeParameters = [x]) (hx : b.expression.mentions x.id = false)
    (hundeclared : r₁.declares x.id = false)
    (hcapture : ∀ p ∈ r₂.freeParameters, r₁.declares p.id = false) :
    (b.substituteContext r₁).substituteContext r₂ =
      b.substituteContext (r₁.replace x.id r₂) := by
  have hcontext : (b.substituteContext r₁).context = some x := by
    rw [context_substituteContext_eq_head?, hfree]
    rfl
  have hids : ∀ id ∈ r₂.freeIds, r₁.declares id = false := by
    intro id hid
    obtain ⟨p, hp, rfl⟩ := Expr.exists_mem_freeParameters hid
    exact hcapture p hp
  have hcontexts : ((b.substituteContext r₁).substituteContext r₂).context =
      (b.substituteContext (r₁.replace x.id r₂)).context := by
    rw [context_substituteContext_eq_head?, context_substituteContext_eq_head?,
      Expr.head?_freeParameters_replace hfree hundeclared hids]
  have hexpressions : ((b.substituteContext r₁).substituteContext r₂).expression =
      (b.substituteContext (r₁.replace x.id r₂)).expression := by
    rw [expression_substituteContext, hcontext, expression_substituteContext,
      expression_substituteContext]
    cases b.context with
    | none => exact Expr.replace_eq_self r₂ hx
    | some c => exact Expr.replace_replace_of_mentions r₁ r₂ hx
  exact BoundExpr.ext hcontexts hexpressions rfl

end BoundExpr

namespace Sample

/-- The parameter for a team. -/
def teamParam : Parameter := ⟨⟨0⟩, "team", .object "Team"⟩

/-- The parameter for a league. -/
def leagueParam : Parameter := ⟨⟨1⟩, "league", .object "League"⟩

/-- The parameter for a world of leagues. -/
def worldParam : Parameter := ⟨⟨2⟩, "db", .object "World"⟩

/-- The parameter for the least age in the expression below. -/
def leastAge : Parameter := ⟨⟨3⟩, "limit", .scalar .int⟩

/-- The parameter for each member or team below. -/
def eachParam : Parameter := ⟨⟨4⟩, "x", .record []⟩

/-- The members of a team from an age on that both the team and a limit set. -/
def grownMembers : BoundExpr where
  context := some teamParam
  expression :=
    .call .filter (.member teamParam.expr "members" (.sequence (.object "Person")))
      [.lambda [eachParam] (.binary .and
        (.binary .greaterOrEqual (.member eachParam.expr "age" (.scalar .int))
          (.member teamParam.expr "minAge" (.scalar .int)))
        (.binary .greaterOrEqual (.member eachParam.expr "age" (.scalar .int)) leastAge.expr))]
  constants := [(leastAge, .int 18)]

/-- The first open team of a league. -/
def firstOpenTeam : Expr :=
  .call .first (.member leagueParam.expr "teams" (.sequence (.object "Team")))
    [.lambda [eachParam] (.member eachParam.expr "open" .boolean)]

/-- The league of a world. -/
def onlyLeague : Expr := .member worldParam.expr "league" (.object "League")

end Sample

open Sample in
/-- The team is that of a league and the league that of a world, one after the other or at once. -/
theorem substituteContext_firstOpenTeam :
    firstOpenTeam.freeParameters = [leagueParam] ∧
    grownMembers.expression.mentions leagueParam.id = false ∧
    firstOpenTeam.declares leagueParam.id = false ∧
    (∀ p ∈ onlyLeague.freeParameters, firstOpenTeam.declares p.id = false) ∧
    (grownMembers.substituteContext firstOpenTeam).substituteContext onlyLeague =
      grownMembers.substituteContext (firstOpenTeam.replace leagueParam.id onlyLeague) ∧
    (grownMembers.substituteContext
      (firstOpenTeam.replace leagueParam.id onlyLeague)).context = some worldParam := by
  have hcapture : ∀ p ∈ onlyLeague.freeParameters, firstOpenTeam.declares p.id = false := by
    intro p hp
    obtain rfl : p = worldParam := List.mem_singleton.1 hp
    rfl
  exact ⟨rfl, rfl, rfl, hcapture,
    BoundExpr.substituteContext_substituteContext rfl rfl rfl hcapture, rfl⟩

end TypedQuery
