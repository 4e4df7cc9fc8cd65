import TypedQuery.Dict
import TypedQuery.Number.FloatText

/-!
# Documents

JSON documents. A number is an integer of the signed or unsigned 64-bit range, or a finite
floating-point number; that is part of its type. The fields of an object stand in the order in which
they are written; an object that is read has each key once, in the order of the keys.
-/

namespace TypedQuery

/-- A number in a document. -/
inductive Json.Number where
  | integer (n : Int) (fits : -0x8000000000000000 ≤ n ∧ n < 0x10000000000000000)
  | float (x : Float) (finite : x.isFinite = true)

/-- A document. -/
inductive Json where
  | null
  | bool (b : Bool)
  | number (n : Json.Number)
  | string (s : String)
  | array (items : List Json)
  | object (fields : List (String × Json))
deriving Inhabited

namespace Json

/-! ## Numbers -/

/-- The document of a signed 64-bit integer. -/
def ofInt64 (n : Int64) : Json :=
  .number (.integer n.toInt ⟨n.le_toInt, Int.lt_trans n.toInt_lt (by decide)⟩)

/-- The document of an unsigned 64-bit integer. -/
def ofUInt64 (n : UInt64) : Json :=
  .number (.integer n.toNat ⟨by omega, Int.ofNat_lt.mpr n.toNat_lt⟩)

/-- The document of a floating-point number; one that is not finite becomes `null`. -/
def ofFloat (x : Float) : Json :=
  if h : x.isFinite = true then .number (.float x h) else .null

namespace Number

/-- The signed 64-bit integer a number is. -/
def toInt64? : Number → Option Int64
  | .integer n _ => TypedQuery.Number.toInt64? n
  | .float _ _ => none

/-- The unsigned 64-bit integer a number is. -/
def toUInt64? : Number → Option UInt64
  | .integer n _ => TypedQuery.Number.toUInt64? n
  | .float _ _ => none

/-- The floating-point number closest to a number. -/
def toFloat : Number → Float
  | .integer n _ => Float.ofInt n
  | .float x _ => x

/-- Whether two numbers are written alike: both integers or both not, and equal. -/
def same : Number → Number → Bool
  | .integer a _, .integer b _ => a == b
  | .float a _, .float b _ => a == b
  | _, _ => false

end Number

/-! ## Parts of a document -/

/-- The content of a field. -/
def field? : Json → String → Option Json
  | .object fields, key => Dict.get? fields key
  | _, _ => none

mutual

/-- How deep arrays and objects are nested. -/
def depth : Json → Nat
  | .array items => depthOfItems items + 1
  | .object fields => depthOfFields fields + 1
  | _ => 0

/-- The greatest depth among the items. -/
def depthOfItems : List Json → Nat
  | [] => 0
  | j :: rest => max j.depth (depthOfItems rest)

/-- The greatest depth among the contents. -/
def depthOfFields : List (String × Json) → Nat
  | [] => 0
  | (_, j) :: rest => max j.depth (depthOfFields rest)

end

theorem depth_le_of_mem_items {j : Json} {items : List Json} (hj : j ∈ items) :
    j.depth ≤ depthOfItems items := by
  induction items with
  | nil => cases hj
  | cons head rest ih =>
    simp only [depthOfItems]
    cases hj with
    | head => omega
    | tail _ hrest => have := ih hrest; omega

theorem depth_le_of_mem_fields {k : String} {j : Json} {fields : List (String × Json)}
    (hj : (k, j) ∈ fields) : j.depth ≤ depthOfFields fields := by
  induction fields with
  | nil => cases hj
  | cons head rest ih =>
    obtain ⟨k', j'⟩ := head
    simp only [depthOfFields]
    cases hj with
    | head => omega
    | tail _ hrest => have := ih hrest; omega

/-! ## Equality -/

mutual

/-- Whether two documents are equal, floating-point numbers compared as numbers. -/
def same : Json → Json → Bool
  | .null, .null => true
  | .bool a, .bool b => a == b
  | .number a, .number b => a.same b
  | .string a, .string b => a == b
  | .array as, .array bs => sameItems as bs
  | .object as, .object bs => sameFields as bs
  | _, _ => false

/-- Equality of items, one by one. -/
def sameItems : List Json → List Json → Bool
  | [], [] => true
  | a :: as, b :: bs => same a b && sameItems as bs
  | _, _ => false

/-- Equality of fields, one by one. -/
def sameFields : List (String × Json) → List (String × Json) → Bool
  | [], [] => true
  | (k, a) :: as, (l, b) :: bs => k == l && same a b && sameFields as bs
  | _, _ => false

end

end Json

end TypedQuery
