import TypedQuery.Json.Printer

/-!
# Documents of a given form

Reading a document as a text, a truth value, an integer, one of some names, or a record. A document
that does not fit is reported by what it is and what was expected. A record may come as an object or
as an array of its fields in order; fields that do not come keep the value they start with.
-/

namespace TypedQuery.Json

/-- How a document fails to have the form that is asked for. -/
inductive DecodeFault where
  /-- A document of another kind. -/
  | kind (found : Json) (expected : String)
  /-- A document of the right kind that is not allowed. -/
  | content (found : Json) (expected : String)
  /-- A name that is none of those known. -/
  | variant (name : String) (known : List String)
  /-- A field that is none of those known. -/
  | field (name : String) (known : List String)
  /-- An array of more items than the record has fields. -/
  | length (count : Nat)
  /-- A document that is not what the field is for. -/
  | unsuitable (found : Json) (expected : String)
deriving Inhabited

/-- The kind of a document and, if it has no parts, its content. -/
def described : Json → String
  | .null => "null"
  | .bool b => "boolean `" ++ (Json.bool b).text ++ "`"
  | .number (.integer n h) => "integer `" ++ (Number.integer n h).text ++ "`"
  | .number (.float x h) => "floating point `" ++ (Number.float x h).text ++ "`"
  | .string s => "string " ++ Text.quoted s
  | .array _ => "sequence"
  | .object _ => "map"

/-- Names to choose from, in words. -/
def choices (names : List String) : String :=
  let quoted := names.map fun name => "`" ++ name ++ "`"
  match quoted with
  | [a] => a
  | [a, b] => a ++ " or " ++ b
  | quoted => "one of " ++ ", ".intercalate quoted

/-- The fault in words. -/
def DecodeFault.message : DecodeFault → String
  | kind found expected => "invalid type: " ++ found.described ++ ", expected " ++ expected
  | content found expected => "invalid value: " ++ found.described ++ ", expected " ++ expected
  | variant name known => "unknown variant `" ++ name ++ "`, expected " ++ choices known
  | field name known => "unknown field `" ++ name ++ "`, expected " ++ choices known
  | length count =>
    "invalid length " ++ TypedQuery.Number.natText count ++ ", expected fewer elements in array"
  | unsuitable found expected => "expected " ++ expected ++ ", found " ++ found.text

/-! ## Scalars -/

/-- Reads a text. -/
def decodeString : Json → Except DecodeFault String
  | .string s => .ok s
  | j => .error (.kind j "a string")

/-- Reads a truth value. -/
def decodeBool : Json → Except DecodeFault Bool
  | .bool b => .ok b
  | j => .error (.kind j "a boolean")

/-- Reads a signed 64-bit integer. -/
def decodeInt64 (j : Json) : Except DecodeFault Int64 :=
  match j with
  | .number (.integer n _) =>
    match TypedQuery.Number.toInt64? n with
    | some i => .ok i
    | none => .error (.content j "i64")
  | j => .error (.kind j "i64")

/-- Reads null as nothing, and anything else as `decode` says. -/
def decodeOption {α : Type} (decode : Json → Except DecodeFault α) : Json → Except DecodeFault (Option α)
  | .null => .ok none
  | j => (decode j).map some

/-- Reads one of the names, which may also be the key of an object whose one content is null. -/
def decodeName {α : Type} (known : List (String × α)) (j : Json) : Except DecodeFault α :=
  let find (name : String) : Except DecodeFault α :=
    match known.lookup name with
    | some a => .ok a
    | none => .error (.variant name (known.map Prod.fst))
  match j with
  | .string name => find name
  | .object [(name, content)] => do
    let a ← find name
    match content with
    | .null => return a
    | content => .error (.kind content "unit")
  | .object _ => .error (.content j "map with a single key")
  | j => .error (.kind j "string or map")

/-! ## Records -/

/-- A field of a record: its name, and how its content changes the record. -/
abbrev RecordField (α : Type) := String × (α → Json → Except DecodeFault α)

/-- The record after a field of an object. -/
def setField {α : Type} (fields : List (RecordField α)) (closed : Bool) (record : α)
    (entry : String × Json) : Except DecodeFault α :=
  match fields.lookup entry.1 with
  | some set => set record entry.2
  | none => if closed then .error (.field entry.1 (fields.map Prod.fst)) else .ok record

/-- Reads a record that starts as `start`. Fields it does not have are passed over, or refused if the
record is `closed`. -/
def decodeRecord {α : Type} (name : String) (closed : Bool) (fields : List (RecordField α)) (start : α) :
    Json → Except DecodeFault α
  | .object entries => entries.foldlM (setField fields closed) start
  | .array items => do
    let record ← (fields.zip items).foldlM (fun record (field, item) => field.2 record item) start
    if items.length ≤ fields.length then return record else .error (.length items.length)
  | j => .error (.kind j ("struct " ++ name))

end TypedQuery.Json
