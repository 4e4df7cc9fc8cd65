import TypedQuery.Value.Basic

/-!
# Comparing values

`Value.cmp?` is the order by which queries compare and sort, defined between values of one kind,
between numbers of any kind, between texts and names of enumerations, and between dates and
timestamps; null comes before everything. `Value.equal` extends it to lists, records and string
arrays. `Value.same` is the finer equality of values of one variant, and `Value.fingerprint` is what
a hash of a value is computed from.
-/

namespace TypedQuery

open Number

namespace Value

/-- The order of two texts by their code points. -/
def cmpText (a b : String) : Ordering := if a < b then .lt else if a = b then .eq else .gt

/-- The order of two integers of any kind, as integers. -/
def cmpInt (a b : Int) : Ordering := compare a b

/-- The order of two truth values; false comes first. -/
def cmpBool (a b : Bool) : Ordering := compare a.toNat b.toNat

/-- The order by which queries compare and sort, where it is defined. -/
def cmp? : Value → Value → Option Ordering
  | .null, .null => some .eq
  | .null, _ => some .lt
  | _, .null => some .gt
  | .int a, .int b => some (cmpInt a.toInt b.toInt)
  | .uint a, .uint b => some (cmpInt a.toNat b.toNat)
  | .int a, .uint b => some (cmpInt a.toInt b.toNat)
  | .uint a, .int b => some (cmpInt a.toNat b.toInt)
  | .float a, .float b => compareFloat a b
  | .int a, .float b => compareFloat (Float.ofInt a.toInt) b
  | .uint a, .float b => compareFloat (Float.ofInt a.toNat) b
  | .float a, .int b => compareFloat a (Float.ofInt b.toInt)
  | .float a, .uint b => compareFloat a (Float.ofInt b.toNat)
  | .decimal a, .decimal b => some (a.cmp b)
  | .decimal a, .int b => some (a.cmp (.ofInt b.toInt))
  | .int a, .decimal b => some (Decimal.cmp (.ofInt a.toInt) b)
  | .decimal a, .uint b => some (a.cmp (.ofInt b.toNat))
  | .uint a, .decimal b => some (Decimal.cmp (.ofInt a.toNat) b)
  | .decimal a, .float b => compareFloat a.toFloat b
  | .float a, .decimal b => compareFloat a b.toFloat
  | .string a, .string b => some (cmpText a b)
  | .enum _ a, .enum _ b => some (cmpText a b)
  | .enum _ a, .string b => some (cmpText a b)
  | .string a, .enum _ b => some (cmpText a b)
  | .boolean a, .boolean b => some (cmpBool a b)
  | .uuid a, .uuid b => some (a.cmp b)
  | .date a, .date b => some (a.cmp b)
  | .timestamp a, .timestamp b => some (a.cmp b)
  | .date a, .timestamp b => some ((Timestamp.ofDate a).cmp b)
  | .timestamp a, .date b => some (a.cmp (.ofDate b))
  | .json a, .json b => some (cmpText a.text b.text)
  | _, _ => none

/-! ## Equality within a variant -/

mutual

/-- Whether two values are of one variant and equal in it: floating-point numbers and decimals as
numbers, everything else part by part. -/
def same : Value → Value → Bool
  | .int a, .int b => a == b
  | .uint a, .uint b => a == b
  | .float a, .float b => a == b
  | .decimal a, .decimal b => a.sameNumber b
  | .string a, .string b => a == b
  | .boolean a, .boolean b => a == b
  | .json a, .json b => a.same b
  | .uuid a, .uuid b => a == b
  | .date a, .date b => a == b
  | .timestamp a, .timestamp b => a == b
  | .enum s a, .enum t b => s == t && a == b
  | .stringArray as, .stringArray bs => as == bs
  | .list as, .list bs => sameItems as bs
  | .record as, .record bs => sameFields as bs
  | .null, .null => true
  | _, _ => false

/-- Equality of items, one by one. -/
def sameItems : List Value → List Value → Bool
  | [], [] => true
  | a :: as, b :: bs => same a b && sameItems as bs
  | _, _ => false

/-- Equality of fields, one by one. -/
def sameFields : List (String × Value) → List (String × Value) → Bool
  | [], [] => true
  | (k, a) :: as, (l, b) :: bs => k == l && same a b && sameFields as bs
  | _, _ => false

end

/-! ## Equality of queries -/

mutual

/-- The equality of queries: lists item by item, records and string arrays part by part, and
everything else by the order. -/
def equal : Value → Value → Bool
  | .list as, .list bs => equalItems as bs
  | .record as, .record bs => same (.record as) (.record bs)
  | .stringArray as, .stringArray bs => as == bs
  | a, b => a.cmp? b == some .eq

/-- Equality of items, one by one. -/
def equalItems : List Value → List Value → Bool
  | [], [] => true
  | a :: as, b :: bs => equal a b && equalItems as bs
  | _, _ => false

end

/-! ## Fingerprints -/

/-- One thing that a hash is computed from. -/
inductive Mark where
  /-- The variant of a value. -/
  | variant (index : Nat)
  | integer (n : Int)
  /-- The bits of a floating-point number. -/
  | bits (n : UInt64)
  | text (s : String)
  /-- The number of parts that follow, or of zeros. -/
  | count (n : Nat)
  | date (d : Date)
  | timestamp (t : Timestamp)
deriving DecidableEq

/-- The digits of a decimal as they enter a hash: those up to the last that is not zero, and how many
zeros follow them before the point. -/
def decimalDigits (d : Decimal) : Int × Nat :=
  let size := d.digits.natAbs
  let (n, exponent) := Binary.dropZeros (size.log2 + 1) size (-d.scale)
  if size = 0 then (0, 0) else (if d.digits < 0 then -n else n, exponent.toNat)

mutual

/-- What a hash of the value is computed from, in order. -/
def fingerprint : Value → List Mark
  | .int n => [.variant 0, .integer n.toInt]
  | .uint n => [.variant 1, .integer n.toNat]
  | .float x => [.variant 2, .bits x.toBits]
  | .decimal d =>
    let (digits, zeros) := decimalDigits d
    [.variant 3, .integer digits, .count zeros]
  | .string s => [.variant 4, .text s]
  | .boolean b => [.variant 5, .integer b.toNat]
  | .json j => [.variant 6, .text j.text]
  | .uuid u => [.variant 7, .integer u.bits.toNat]
  | .date d => [.variant 8, .date d]
  | .timestamp t => [.variant 9, .timestamp t]
  | .enum type value => [.variant 10, .text type, .text value]
  | .stringArray items => [.variant 11, .count items.length] ++ items.map Mark.text
  | .list items => [.variant 12, .count items.length] ++ fingerprintItems items
  | .record fields => [.variant 13, .count fields.length] ++ fingerprintFields fields
  | .null => [.variant 14]

/-- The fingerprints of the items. -/
def fingerprintItems : List Value → List Mark
  | [] => []
  | v :: rest => v.fingerprint ++ fingerprintItems rest

/-- The fingerprints of the fields with their names. -/
def fingerprintFields : List (String × Value) → List Mark
  | [] => []
  | (k, v) :: rest => .text k :: (v.fingerprint ++ fingerprintFields rest)

end

end Value

end TypedQuery
