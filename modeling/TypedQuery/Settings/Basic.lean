import TypedQuery.Text.Spelling

/-!
# Settings

How names are matched with declared ones, and what becomes of a clause that cannot be compiled.
-/

namespace TypedQuery

/-- How names are matched with declared names. -/
inductive MemberLookup where
  | exact
  | ignoreCase
deriving DecidableEq, Inhabited

namespace MemberLookup

/-- Whether a name asked for matches a declared one. -/
def pairs (lookup : MemberLookup) (declared requested : String) : Bool :=
  match lookup with
  | exact => declared == requested
  | ignoreCase => Text.eqIgnoringCase declared requested

@[simp] theorem pairs_refl (lookup : MemberLookup) (name : String) :
    lookup.pairs name name = true := by
  cases lookup <;> simp [pairs]

end MemberLookup

/-- What becomes of a clause that has no field or not exactly one comparison. -/
inductive ClausePolicy where
  /-- The clause is left out, with a warning. -/
  | drop
  /-- The filter fails. -/
  | reject
deriving DecidableEq, Inhabited

/-- Settings of the compiler. -/
structure Settings where
  lookup : MemberLookup
  policy : ClausePolicy
deriving DecidableEq, Inhabited

/-- Names are matched without regard to case, and clauses that cannot be compiled are left out. -/
def Settings.standard : Settings := ⟨.ignoreCase, .drop⟩

end TypedQuery
