/-!
# Integers

Integers as text, and the two 64-bit ranges.
-/

namespace TypedQuery.Number

/-! ## Ranges -/

/-- The 64-bit signed integer equal to `n`, if there is one. -/
def toInt64? (n : Int) : Option Int64 :=
  if -0x8000000000000000 ≤ n ∧ n < 0x8000000000000000 then some (Int64.ofInt n) else none

/-- The 64-bit unsigned integer equal to `n`, if there is one. -/
def toUInt64? (n : Int) : Option UInt64 :=
  if 0 ≤ n ∧ n < 0x10000000000000000 then some (UInt64.ofNat n.toNat) else none

/-- The integer closest to `n` in the signed 64-bit range. -/
def saturate (n : Int) : Int64 :=
  if n < -0x8000000000000000 then Int64.minValue
  else if 0x8000000000000000 ≤ n then Int64.maxValue
  else Int64.ofInt n

/-! ## Digits -/

/-- What a decimal digit stands for. -/
def digitValue (c : Char) : Nat := c.toNat - 48

/-- What a run of decimal digits stands for. -/
def digitsValue (cs : List Char) : Nat := cs.foldl (fun n c => 10 * n + digitValue c) 0

/-- The number that a run of one or more decimal digits stands for. -/
def readNat? (cs : List Char) : Option Nat :=
  if !cs.isEmpty && cs.all Char.isDigit then some (digitsValue cs) else none

/-- An integer: digits after an optional sign. -/
def readInt? : List Char → Option Int
  | '-' :: cs => (readNat? cs).map fun n => -(n : Int)
  | '+' :: cs => (readNat? cs).map Int.ofNat
  | cs => (readNat? cs).map Int.ofNat

/-- A signed 64-bit integer in decimal digits. -/
def readInt64? (cs : List Char) : Option Int64 := readInt? cs >>= toInt64?

/-- An unsigned 64-bit integer in decimal digits; it has no minus sign, not even at zero. -/
def readUInt64? : List Char → Option UInt64
  | '+' :: cs => readNat? cs >>= fun n => toUInt64? n
  | cs => readNat? cs >>= fun n => toUInt64? n

/-- The decimal digits of a natural number. -/
def natText (n : Nat) : String := String.ofList (Nat.toDigits 10 n)

/-- An integer in decimal digits, with a minus sign below zero. -/
def intText (n : Int) : String :=
  if n < 0 then "-" ++ natText n.natAbs else natText n.natAbs

/-- The text padded with zeros in front to `width` characters. -/
def zeroPadded (width : Nat) (cs : List Char) : List Char :=
  List.replicate (width - cs.length) '0' ++ cs

end TypedQuery.Number
