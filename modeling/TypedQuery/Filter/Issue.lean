import TypedQuery.Filter.Clause
import TypedQuery.Number.Integer

/-!
# Issues of filter clauses

Why a clause cannot be compiled. A missing field is found before a missing comparison.
-/

namespace TypedQuery

/-- What is wrong with a clause. -/
inductive ClauseDefect where
  | missingField
  | noComparison
  | multipleComparisons (operators : List ComparisonOp)
deriving DecidableEq, Inhabited

namespace ClauseDefect

/-- The defect in words. -/
def message : ClauseDefect → String
  | missingField => "clause has no field"
  | noComparison => "clause sets no comparison"
  | multipleComparisons operators =>
    "clause sets more than one comparison (" ++ ", ".intercalate (operators.map ComparisonOp.wireName)
      ++ ")"

end ClauseDefect

/-- What keeps a clause from being compiled, if anything does. -/
def FilterClause.defect? (c : FilterClause) : Option ClauseDefect :=
  if c.path?.isNone then some .missingField
  else
    match c.comparison, c.conflicting with
    | some _, _ => none
    | none, [] => some .noComparison
    | none, operators => some (.multipleComparisons operators)

/-- A clause has no defect exactly if it is valid. -/
theorem FilterClause.defect?_eq_none_iff (c : FilterClause) : c.defect? = none ↔ c.isValid = true := by
  unfold defect? isValid
  split <;> rename_i h
  · simp [Option.isNone_iff_eq_none.mp h]
  · have hpath : c.path?.isSome = true := by
      simpa [Option.isSome_iff_ne_none] using h
    rw [hpath]
    split <;> simp_all

/-- How much an issue weighs: an error fails the filter, a warning drops the clause. -/
inductive Severity where
  | error
  | warning
deriving DecidableEq, Inhabited

/-- The severity in words. -/
def Severity.display : Severity → String
  | error => "error"
  | warning => "warning"

/-- A defect of the clause at a position of a filter. -/
structure ClauseIssue where
  index : Nat
  severity : Severity
  defect : ClauseDefect
deriving DecidableEq, Inhabited

namespace ClauseIssue

/-- The issue of a clause, if it has a defect. -/
def inspect (index : Nat) (c : FilterClause) (severity : Severity) : Option ClauseIssue :=
  c.defect?.map fun defect => ⟨index, severity, defect⟩

/-- The defect in words. -/
def message (i : ClauseIssue) : String := i.defect.message

/-- Whether the issue fails the filter. -/
def isError (i : ClauseIssue) : Bool := i.severity == .error

/-- The issue with its position. -/
def display (i : ClauseIssue) : String :=
  i.severity.display ++ " in clause " ++ Number.natText i.index ++ ": " ++ i.message

end ClauseIssue

end TypedQuery
