import TypedQuery.Eval.Error
import TypedQuery.Filter.Issue
import TypedQuery.Number.Integer
import TypedQuery.Wire.Request

/-!
# Failures of compilation

Why a query cannot be compiled. A failure to evaluate an argument or to read one is a reason too, and
keeps its own words.
-/

namespace TypedQuery

/-- Why a query cannot be compiled. -/
inductive CompileError where
  /-- The text of a value does not become one of the type that the field has. -/
  | typeCoercion (field value target : String)
  /-- A clause without a comparison. -/
  | unsupportedOperator (field : String)
  /-- A mutation result that is neither a sequence nor one of its elements nor a constant. -/
  | unsupportedMutationShape (shape : String)
  | missingRequiredArgument (field argument : String)
  | unknownField (field typeName : String)
  | unknownType (name : String)
  | ambiguousFilterClause (index : Nat) (defect : ClauseDefect)
  | notASequence (found : ExprType)
  | evaluation (e : EvalError)
  | wire (e : WireError)
deriving Inhabited

namespace CompileError

/-- The kinds of failure, without what they are about. -/
inductive Kind where
  | typeCoercion
  | unsupportedOperator
  | unsupportedMutationShape
  | missingRequiredArgument
  | unknownField
  | unknownType
  | ambiguousFilterClause
  | notASequence
  | evaluation
  | wire
deriving DecidableEq, Inhabited

/-- The kind of a failure. -/
def kind : CompileError → Kind
  | typeCoercion _ _ _ => .typeCoercion
  | unsupportedOperator _ => .unsupportedOperator
  | unsupportedMutationShape _ => .unsupportedMutationShape
  | missingRequiredArgument _ _ => .missingRequiredArgument
  | unknownField _ _ => .unknownField
  | unknownType _ => .unknownType
  | ambiguousFilterClause _ _ => .ambiguousFilterClause
  | notASequence _ => .notASequence
  | evaluation _ => .evaluation
  | wire _ => .wire

/-- The failure in words. -/
def message : CompileError → String
  | typeCoercion field value target =>
    "Cannot convert '" ++ value ++ "' to " ++ target ++ " for field '" ++ field ++ "'"
  | unsupportedOperator field => "No supported comparison operator for field '" ++ field ++ "'"
  | unsupportedMutationShape shape => "Unsupported mutation result shape: " ++ shape
  | missingRequiredArgument field argument =>
    "Field '" ++ field ++ "' missing required argument '" ++ argument ++ "'"
  | unknownField field typeName => "Field '" ++ field ++ "' not found on type '" ++ typeName ++ "'"
  | unknownType name => "Unknown type '" ++ name ++ "'"
  | ambiguousFilterClause index defect =>
    "Filter clause " ++ Number.natText index ++ " rejected: " ++ defect.message
  | notASequence found => "Expected a sequence, found " ++ found.display
  | evaluation e => e.message
  | wire e => e.message

end CompileError

/-- The outcome of an evaluation as one of a compilation. -/
def evaluated {α : Type} (x : Except EvalError α) : Except CompileError α :=
  x.mapError .evaluation

/-- The outcome of reading from the wire as one of a compilation. -/
def decoded {α : Type} (x : Except WireError α) : Except CompileError α := x.mapError .wire

end TypedQuery
