import TypedQuery.Calendar.Reader
import TypedQuery.DataType
import TypedQuery.Json.Printer
import TypedQuery.Number.Decimal
import TypedQuery.Uuid

/-!
# Values

The values that queries compute with, and their projections: to a number, a truth value, a list, a
text, a document, and to the form in which an expression shows them.
-/

namespace TypedQuery

open Number Text

/-- A runtime value. The fields of a record are kept in the order of their names. -/
inductive Value where
  | int (n : Int64)
  | uint (n : UInt64)
  | float (x : Float)
  | decimal (d : Decimal)
  | string (s : String)
  | boolean (b : Bool)
  | json (j : Json)
  | uuid (u : Uuid)
  | date (d : Date)
  | timestamp (t : Timestamp)
  | enum (type value : String)
  | stringArray (items : List String)
  | list (items : List Value)
  | record (fields : List (String × Value))
  | null
deriving Inhabited

namespace Value

/-- The record of some fields; of fields with one name the last stays. -/
def ofFields (fields : List (String × Value)) : Value := .record (Dict.ofList fields)

/-- Whether the value is null. -/
def isNull : Value → Bool
  | .null => true
  | _ => false

/-- The content of a record's field. -/
def get? : Value → String → Option Value
  | .record fields, name => Dict.get? fields name
  | _, _ => none

/-- The scalar type of the value. -/
def dataType : Value → DataType
  | .int _ => .long
  | .uint _ => .unsigned
  | .float _ => .double
  | .decimal _ => .decimal
  | .string _ => .string
  | .boolean _ => .boolean
  | .json _ => .json
  | .uuid _ => .uuid
  | .date _ => .date
  | .timestamp _ => .timestamp
  | .enum _ _ => .enum
  | .stringArray _ => .json
  | .list _ => .json
  | .record _ => .json
  | .null => .null

/-! ## Documents -/

mutual

/-- The document of a value. Values that documents do not have are given by their text. -/
def toJson : Value → Json
  | .int n => Json.ofInt64 n
  | .uint n => Json.ofUInt64 n
  | .float x => Json.ofFloat x
  | .decimal d => .string d.text
  | .string s => .string s
  | .boolean b => .bool b
  | .json j => j
  | .uuid u => .string u.text
  | .date d => .string d.text
  | .timestamp t => .string t.text
  | .enum _ value => .string value
  | .stringArray items => .array (items.map Json.string)
  | .list items => .array (toJsonItems items)
  | .record fields => .object (toJsonFields fields)
  | .null => .null

/-- The documents of the items. -/
def toJsonItems : List Value → List Json
  | [] => []
  | v :: rest => v.toJson :: toJsonItems rest

/-- The documents of the fields. -/
def toJsonFields : List (String × Value) → List (String × Json)
  | [] => []
  | (k, v) :: rest => (k, v.toJson) :: toJsonFields rest

end

/-- The value of a number in a document: the first of the two integer kinds that holds it, else a
floating-point number. -/
def ofNumber (n : Json.Number) : Value :=
  match n.toInt64? with
  | some i => .int i
  | none =>
    match n.toUInt64? with
    | some u => .uint u
    | none => .float n.toFloat

mutual

/-- The value of a document. -/
def ofJson : Json → Value
  | .null => .null
  | .bool b => .boolean b
  | .number n => ofNumber n
  | .string s => .string s
  | .array items => .list (ofJsonItems items)
  | .object fields => .record (ofJsonFields fields)

/-- The values of the items. -/
def ofJsonItems : List Json → List Value
  | [] => []
  | j :: rest => ofJson j :: ofJsonItems rest

/-- The values of the fields. -/
def ofJsonFields : List (String × Json) → List (String × Value)
  | [] => []
  | (k, j) :: rest => (k, ofJson j) :: ofJsonFields rest

end

/-! ## Projections -/

/-- The value as a floating-point number. -/
def asFloat? : Value → Option Float
  | .int n => some (Float.ofInt n.toInt)
  | .uint n => some (Float.ofInt n.toNat)
  | .float x => some x
  | .decimal d => some d.toFloat
  | .string s => readFloat? s.toList
  | .boolean b => some (if b then 1 else 0)
  | .json (.number n) => some n.toFloat
  | _ => none

/-- The value as a signed 64-bit integer, where it is one exactly. -/
def asInt? : Value → Option Int64
  | .int n => some n
  | .uint n => toInt64? n.toNat
  | .float x => integral? x >>= toInt64?
  | .decimal d => d.toInt? >>= toInt64?
  | .string s => readInt64? (trimmed s.toList)
  | .json (.number n) => n.toInt64?
  | _ => none

/-- The value as a truth value. -/
def asBool? : Value → Option Bool
  | .int n => some (n != 0)
  | .uint n => some (n != 0)
  | .string s =>
    if eqIgnoringCase s "true" || s == "1" then some true
    else if eqIgnoringCase s "false" || s == "0" then some false
    else none
  | .boolean b => some b
  | .json (.bool b) => some b
  | _ => none

/-- The value as a list of values. -/
def asList? : Value → Option (List Value)
  | .list items => some items
  | .stringArray items => some (items.map Value.string)
  | .json (.array items) => some (ofJsonItems items)
  | _ => none

/-- The value as text; null is the empty text. -/
def text : Value → String
  | .int n => intText n.toInt
  | .uint n => natText n.toNat
  | .float x => floatText x
  | .decimal d => d.text
  | .string s => s
  | .boolean b => if b then "true" else "false"
  | .json (.string s) => s
  | .json j => j.text
  | .uuid u => u.text
  | .date d => d.text
  | .timestamp t => t.text
  | .enum _ value => value
  | .stringArray items => ",".intercalate items
  | .list items => (toJson (.list items)).text
  | .record fields => (toJson (.record fields)).text
  | .null => ""

/-! ## Display -/

/-- A text in double quotes, with a backslash in front of each quote in it. -/
def quotedText (s : String) : String :=
  String.ofList (['"'] ++ s.toList.flatMap (fun c => if c == '"' then ['\\', '"'] else [c]) ++ ['"'])

mutual

/-- The value as an expression shows it. -/
def display : Value → String
  | .decimal d => d.text ++ "m"
  | .string s => quotedText s
  | .json j => j.text
  | .uuid u => "\"" ++ u.text ++ "\""
  | .date d => "\"" ++ d.text ++ "\""
  | .timestamp t => "\"" ++ t.text ++ "\""
  | .stringArray items => "[" ++ ", ".intercalate (items.map quotedText) ++ "]"
  | .list items => "[" ++ ", ".intercalate (displayItems items) ++ "]"
  | .record fields => "\x7b" ++ ", ".intercalate (displayFields fields) ++ "\x7d"
  | .null => "null"
  | .int n => intText n.toInt
  | .uint n => natText n.toNat
  | .float x => floatText x
  | .boolean b => if b then "true" else "false"
  | .enum _ value => value

/-- The items as an expression shows them. -/
def displayItems : List Value → List String
  | [] => []
  | v :: rest => v.display :: displayItems rest

/-- The fields as an expression shows them. -/
def displayFields : List (String × Value) → List String
  | [] => []
  | (k, v) :: rest => (k ++ ": " ++ v.display) :: displayFields rest

end

end Value

end TypedQuery
