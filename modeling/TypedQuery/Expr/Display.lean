import TypedQuery.Expr.Basic

/-!
# Expressions as text

The written form of an expression: members after points, operators between operands in parentheses,
calls on sequences chained, and functions with an arrow.
-/

namespace TypedQuery

/-- Function parameters: one stands alone, others in parentheses. -/
def displayParams : List Parameter → String
  | [p] => p.name
  | params => "(" ++ ", ".intercalate (params.map Parameter.name) ++ ")"

namespace Expr

/-- Whether the written form has parentheses of its own. -/
def isBinary : Expr → Bool
  | .binary _ _ _ => true
  | _ => false

mutual

/-- The written form of an expression. -/
def display : Expr → String
  | .param p => p.name
  | .const v _ => v.display
  | .member e name _ => e.display ++ "." ++ name
  | .binary op l r => "(" ++ l.display ++ " " ++ op.symbol ++ " " ++ r.display ++ ")"
  | .not e => if e.isBinary then "!" ++ e.display else "!(" ++ e.display ++ ")"
  | .compare l r => "Compare(" ++ l.display ++ ", " ++ r.display ++ ")"
  | .text e => e.display ++ ".ToString()"
  | .contains set e =>
    "[" ++ ", ".intercalate (set.map fun s => "\"" ++ s ++ "\"") ++ "].Contains(" ++ e.display ++ ")"
  | .call op source args =>
    source.display ++ "." ++ op.name ++ "(" ++ ", ".intercalate (displayItems args) ++ ")"
  | .lambda params body => displayParams params ++ " => " ++ body.display
  | .new type fields =>
    "new " ++ (match type with | some name => name ++ " " | none => "") ++
      "\x7b" ++ ", ".intercalate (displayFields fields) ++ "\x7d"

/-- The written forms of the expressions. -/
def displayItems : List Expr → List String
  | [] => []
  | e :: rest => e.display :: displayItems rest

/-- The written forms of the fields. -/
def displayFields : List (String × Expr) → List String
  | [] => []
  | (k, e) :: rest => (k ++ " = " ++ e.display) :: displayFields rest

end

end Expr

/-- The written form of a function. -/
def Lambda.display (f : Lambda) : String := f.expr.display

end TypedQuery
