import TypedQuery.Json.Basic
import TypedQuery.Text.Spelling

/-!
# Writing documents

The compact written form: no white space, fields in the order they stand in, strings with the short
escapes, and a code in four hexadecimal digits for the other controls.
-/

namespace TypedQuery.Json

/-- A character as it stands in a string. -/
def escapedChar (c : Char) : List Char :=
  match c with
  | '"' => ['\\', '"']
  | '\\' => ['\\', '\\']
  | '\n' => ['\\', 'n']
  | '\r' => ['\\', 'r']
  | '\t' => ['\\', 't']
  | '\x08' => ['\\', 'b']
  | '\x0c' => ['\\', 'f']
  | c =>
    if c.toNat < 0x20 then ['\\', 'u'] ++ TypedQuery.Number.zeroPadded 4 (Text.hexDigits c.toNat)
    else [c]

/-- A string with its quotes. -/
def stringText (s : String) : String :=
  String.ofList (['"'] ++ s.toList.flatMap escapedChar ++ ['"'])

/-- A number: an integer in decimal digits, any other in its document form. -/
def Number.text : Number → String
  | .integer n _ => TypedQuery.Number.intText n
  | .float x _ => (TypedQuery.Number.documentText? x).getD "null"

mutual

/-- The compact form of a document. -/
def text : Json → String
  | .null => "null"
  | .bool b => if b then "true" else "false"
  | .number n => n.text
  | .string s => stringText s
  | .array items => "[" ++ ",".intercalate (textOfItems items) ++ "]"
  | .object fields => "\x7b" ++ ",".intercalate (textOfFields fields) ++ "\x7d"

/-- The compact forms of the items. -/
def textOfItems : List Json → List String
  | [] => []
  | j :: rest => j.text :: textOfItems rest

/-- The fields, each with its key. -/
def textOfFields : List (String × Json) → List String
  | [] => []
  | (k, j) :: rest => (stringText k ++ ":" ++ j.text) :: textOfFields rest

end

end TypedQuery.Json
