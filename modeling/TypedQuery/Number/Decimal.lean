import TypedQuery.Number.FloatText

/-!
# Decimal numbers

A decimal is an integer of digits and a scale, the number of those digits that stand behind the
point. The scale belongs to the written form (`1.50` keeps its zero) and not to the number: order
and equality are those of the numbers. A finite floating-point number is always equal to some decimal;
the other way the result is close, and the nearest one where the digits are few and no zeros follow.
-/

namespace TypedQuery

namespace Number

/-! ## Powers of floating-point numbers

A power with a natural exponent by repeated squaring: as many squarings as the exponent has binary
digits, and one more product for each digit that is set. Every product is rounded, so that a power of
ten beyond `10 ^ 22` may differ from the nearest number in its last digits. -/

/-- `r * a ^ n`, where the factors for the lower digits of `n` are multiplied first. -/
def timesPower (r a : Float) (n : Nat) : Float :=
  let product := if n % 2 = 1 then r * a else r
  if n < 2 then product else timesPower product (a * a) (n / 2)
termination_by n

/-- `a ^ n`. -/
def power (a : Float) (n : Nat) : Float := timesPower 1 a n

end Number

open Number

/-! ## Decimals -/

/-- The number `digits / 10 ^ scale`, written with `scale` digits behind the point. -/
structure Decimal where
  /-- All digits, with the sign. -/
  digits : Int
  /-- How many of the digits stand behind the point; below zero, how many zeros follow them. -/
  scale : Int
deriving DecidableEq, Inhabited

namespace Decimal

/-- The decimal of an integer. -/
def ofInt (n : Int) : Decimal := ⟨n, 0⟩

/-! ## Order -/

/-- The digits of `a` when it is written with as many places as the longer of `a` and `b`. -/
def digitsBeside (a b : Decimal) : Int := a.digits * Int.pow 10 (b.scale - a.scale).toNat

theorem digitsBeside_of_le {a b : Decimal} (h : b.scale ≤ a.scale) :
    a.digitsBeside b = a.digits := by
  have hplaces : (b.scale - a.scale).toNat = 0 := by omega
  rw [digitsBeside, hplaces]
  exact Int.mul_one a.digits

/-- The order of `x * 10 ^ k` and `y`. Where the power alone exceeds `y`, the sign of `x` decides, and
the power is not computed. -/
def compareShifted (x : Int) (k : Nat) (y : Int) : Ordering :=
  if x = 0 then compare 0 y
  else if y.natAbs.log2 < k then compare x 0
  else compare (x * Int.pow 10 k) y

theorem natAbs_lt_ten_pow {y : Int} {k : Nat} (h : y.natAbs.log2 < k) :
    (y.natAbs : Int) < Int.pow 10 k := by
  have hlog : y.natAbs < 2 ^ (y.natAbs.log2 + 1) := Nat.lt_log2_self
  have htwo : 2 ^ (y.natAbs.log2 + 1) ≤ 2 ^ k := Nat.pow_le_pow_right (by decide) h
  have hten : 2 ^ k ≤ 10 ^ k := Nat.pow_le_pow_left (by decide) k
  change (y.natAbs : Int) < 10 ^ k
  exact_mod_cast Nat.lt_of_lt_of_le hlog (Nat.le_trans htwo hten)

/-- The short cuts agree with the comparison of the integers. -/
theorem compareShifted_eq (x : Int) (k : Nat) (y : Int) :
    compareShifted x k y = compare (x * Int.pow 10 k) y := by
  unfold compareShifted
  split
  next hx => simp [hx]
  next hx =>
    split
    next hk =>
      have hy := natAbs_lt_ten_pow hk
      rcases Int.lt_or_gt_of_ne hx with hneg | hpos
      · have hle : x * Int.pow 10 k ≤ (-1) * Int.pow 10 k :=
          Int.mul_le_mul_of_nonneg_right (by omega) (by omega)
        rw [Int.compare_eq_lt.2 hneg, Int.compare_eq_lt.2 (by omega)]
      · have hle : 1 * Int.pow 10 k ≤ x * Int.pow 10 k :=
          Int.mul_le_mul_of_nonneg_right (by omega) (by omega)
        rw [Std.compare_eq_gt.2 hpos, Std.compare_eq_gt.2 (by omega)]
    next => rfl

/-- The order of the numbers. -/
def cmp (a b : Decimal) : Ordering :=
  if a.scale ≤ b.scale then compareShifted a.digits (b.scale - a.scale).toNat b.digits
  else (compareShifted b.digits (a.scale - b.scale).toNat a.digits).swap

/-- The order is that of the digits, once both have the same number of places. -/
theorem cmp_eq_compare (a b : Decimal) : a.cmp b = compare (a.digitsBeside b) (b.digitsBeside a) := by
  unfold cmp
  split
  next h => rw [compareShifted_eq, digitsBeside_of_le h, digitsBeside]
  next h =>
    rw [compareShifted_eq, Std.OrientedOrd.eq_swap, Ordering.swap_swap,
      digitsBeside_of_le (Int.le_of_lt (Int.not_le.1 h)), digitsBeside]

/-- Whether two decimals are the same number. -/
def sameNumber (a b : Decimal) : Bool := a.cmp b == .eq

/-! ## Conversions -/

/-- The integer equal to the decimal, if there is one. -/
def toInt? (a : Decimal) : Option Int :=
  if a.digits = 0 then some 0
  else
    let unit : Int := Int.pow 10 a.scale.toNat
    if a.digits % unit = 0 then some (a.digits / unit * Int.pow 10 (-a.scale).toNat) else none

/-- How many digits of `n` a conversion to floating point leaves out: whole groups of nineteen, as
long as twenty-five digits remain. The number of digits is estimated from the length in binary. -/
def spareDigits (n : Nat) : Nat := ((n.log2 + 2) * 301029995664 / 1000000000000 - 25) / 19 * 19

/-- The decimal without its spare digits. An integer that is written out keeps all of them. -/
def leading (a : Decimal) : Decimal :=
  if a.scale = 0 then a
  else
    let spare := spareDigits a.digits.natAbs
    ⟨a.digits.tdiv (Int.pow 10 spare), a.scale - spare⟩

/-- The magnitude as a floating-point number. A decimal with places is rounded once. Without places
the digits and the power of ten after them are rounded apart and multiplied, which may miss the
nearest number. A scale that needs more than 31 bits stands for an infinite magnitude. -/
def magnitude (a : Decimal) : Float :=
  let n := a.digits.natAbs
  if n = 0 then 0
  else if 0x80000000 ≤ a.scale.natAbs then 1 / 0
  else if a.scale ≤ 0 then nearest n 0 * power 10 a.scale.natAbs
  else nearest n (-a.scale)

/-- The decimal as a floating-point number. -/
def toFloat (a : Decimal) : Float :=
  if a.digits < 0 then -a.leading.magnitude else a.leading.magnitude

/-- The decimal equal to a floating-point number, with no more places than it needs; a subnormal
number keeps all places of the smallest one. A number that is not finite has none. -/
def ofFloat? (x : Float) : Option Decimal :=
  (binary? x).map fun b =>
    let sign : Int := if b.negative then -1 else 1
    let places := (-b.exponent).toNat
    let spare :=
      if b.isSubnormal then 0
      else (List.range places).findIdx fun i => b.mantissa / Nat.pow 2 i % 2 != 0
    if b.mantissa = 0 then ⟨0, 0⟩
    else
      ⟨sign * (b.mantissa / Nat.pow 2 spare * Nat.pow 5 (places - spare) *
        Nat.pow 2 b.exponent.toNat : Nat), (places - spare : Nat)⟩

/-! ## Writing -/

/-- The decimal as text. Zero is `0`; more than five zeros between the point and the first digit are
written as an exponent `E`, and more than fifteen zeros behind the digits as an exponent `e`. -/
def text (a : Decimal) : String :=
  let cs := Nat.toDigits 10 a.digits.natAbs
  let body :=
    if a.digits = 0 then ['0']
    else if 5 < a.scale - cs.length then
      cs.take 1 ++ (if cs.length = 1 then [] else '.' :: cs.drop 1) ++
        ['E', '-'] ++ Nat.toDigits 10 (a.scale - cs.length + 1).natAbs
    else if 15 < -a.scale then cs ++ ['e', '+'] ++ Nat.toDigits 10 (-a.scale).natAbs
    else positional cs (-a.scale)
  (if a.digits < 0 then "-" else "") ++ String.ofList body

/-! ## Reading -/

/-- One or more digits; underscores may stand between and after them. -/
def readDigits? (cs : List Char) : Option Nat :=
  if cs.head? = some '_' then none
  else if cs.all (fun c => c.isDigit || c == '_') && !cs.isEmpty then
    some (digitsValue (cs.filter Char.isDigit))
  else none

/-- Digits after an optional sign. -/
def readSigned? : List Char → Option Int
  | '-' :: cs => (readDigits? cs).map fun n => -(n : Int)
  | '+' :: cs => (readDigits? cs).map Int.ofNat
  | cs => (readDigits? cs).map Int.ofNat

/-- Splits a text at the first character that satisfies `p`, which is dropped. -/
def splitAtFirst (p : Char → Bool) (cs : List Char) : List Char × Option (List Char) :=
  match cs.dropWhile (fun c => !p c) with
  | [] => (cs, none)
  | _ :: rest => (cs.takeWhile fun c => !p c, some rest)

/-- Digits with an optional sign, an optional point and an optional exponent. All that stands behind
the point counts as a place, underscores excepted. The scale has to fit in 64 bits. -/
def read? (cs : List Char) : Option Decimal := do
  let (base, exponentText) := splitAtFirst (fun c => c == 'e' || c == 'E') cs
  let exponent ← match exponentText with
    | none => some 0
    | some e => readInt? e
  let (whole, fraction) := splitAtFirst (· == '.') base
  let places := fraction.getD []
  let digits ← readSigned? (whole ++ places)
  let scale := ((places.filter (· != '_')).length : Int) - exponent
  if (toInt64? scale).isSome then some ⟨digits, scale⟩ else none

end Decimal

end TypedQuery
