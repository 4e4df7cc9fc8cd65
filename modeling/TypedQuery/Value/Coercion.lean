import TypedQuery.Json.Reader
import TypedQuery.Value.Basic

/-!
# Reading and converting values

`Value.parseAs?` reads a text as a value of a declared type; `Value.coerceTo?` converts a value to a
declared type where that loses nothing.
-/

namespace TypedQuery

open Number Text

namespace Value

/-- Whether an integer is in the range of a narrow integer type. Other values always fit. -/
def fits (v : Value) (target : DataType) : Bool :=
  match v, target with
  | .int n, .short => -0x8000 ≤ n.toInt && n.toInt < 0x8000
  | .int n, .int => -0x80000000 ≤ n.toInt && n.toInt < 0x80000000
  | _, _ => true

/-- The value, if it fits the type. -/
def ifFits (target : DataType) (v : Value) : Option Value := if v.fits target then some v else none

/-- A truth value as text, in any case. -/
def readBool? (cs : List Char) : Option Bool :=
  let word := cs.map Char.toLower
  if word = "true".toList then some true else if word = "false".toList then some false else none

/-- Reads a text as a value of a declared type. Blanks around it do not count, except where the value
is the text itself. -/
def parseAs? (s : String) (target : DataType) : Option Value :=
  let cs := trimmed s.toList
  match target with
  | .boolean => (readBool? cs).map Value.boolean
  | .short | .int | .long => (readInt64? cs).map Value.int >>= ifFits target
  | .unsigned => (readUInt64? cs).map Value.uint
  | .float | .double => (readFloat? cs).map Value.float
  | .decimal => (Decimal.read? cs).map Value.decimal
  | .uuid => (Uuid.read? cs).map Value.uuid
  | .date => (Date.read? cs).map Value.date
  | .timestamp => (Timestamp.read? cs).map Value.timestamp
  | .json => (Json.read (String.ofList cs)).toOption.map Value.json
  | .null => none
  | .string | .char | .enum | .custom _ => some (.string s)

/-- The conversion of a value to a type that its own does not stand in for. -/
def convert? (v : Value) (target : DataType) : Option Value :=
  match v, target with
  | .string s, _ => parseAs? s target
  | .json (.string s), _ => parseAs? s target
  | v, .string | v, .char | v, .enum | v, .custom _ => some (.string v.text)
  | v, .short | v, .int | v, .long => v.asInt?.map Value.int >>= ifFits target
  | v, .unsigned => (v.asInt? >>= fun n => toUInt64? n.toInt).map Value.uint
  | v, .float | v, .double => v.asFloat?.map Value.float
  | .int n, .decimal => some (.decimal (.ofInt n.toInt))
  | .uint n, .decimal => some (.decimal (.ofInt n.toNat))
  | .float x, .decimal => (Decimal.ofFloat? x).map Value.decimal
  | .timestamp t, .date => some (.date t.date)
  | .date d, .timestamp => some (.timestamp (.ofDate d))
  | v, .boolean => v.asBool?.map Value.boolean
  | v, .json => some (.json v.toJson)
  | _, _ => none

/-- Converts a value to a declared type. Null stays null, and a value whose type stands in for the
declared one stays as it is, if it is in range. -/
def coerceTo? (v : Value) (target : DataType) : Option Value :=
  if v.isNull then some .null
  else if target.isCompatible v.dataType then ifFits target v
  else v.convert? target

end Value

end TypedQuery
