/-!
# Shortest digits

A finite binary number is a natural number times a power of two. Of all decimals that a correctly
rounding reader takes back to it, the shortest is the one with the fewest digits, and of those the
one closest to the number. The search is in exact arithmetic on naturals: for one digit, two digits
and so on, the two neighbours of the number on that decimal grid are tried. Where both are read back
and the number lies exactly half way between them, the caller's `Tie` decides.
-/

namespace TypedQuery.Number

/-- A finite number in binary: `mantissa * 2 ^ exponent`, negated if `negative`. -/
structure Binary where
  /-- Whether the sign is minus. -/
  negative : Bool
  /-- The digits in base two. -/
  mantissa : Nat
  /-- The power of two they are multiplied with. -/
  exponent : Int
  /-- Whether the next smaller number is only half as far away as the next greater one. -/
  narrowBelow : Bool

/-- Which of two neighbours stands for a number that lies exactly half way between them. -/
inductive Tie where
  /-- The one whose last digit is even. -/
  | toEven
  /-- The one with the greater magnitude. -/
  | awayFromZero
deriving DecidableEq

/-- The digits that stand for a number half way between `d` and `d + 1`. -/
def Tie.choose (d : Nat) : Tie → Nat
  | .toEven => d + d % 2
  | .awayFromZero => d + 1

/-- The parts of a floating-point number; infinities and the undefined number have none. -/
def binary? (x : Float) : Option Binary :=
  let bits := x.toBits.toNat
  let field : Nat := bits / Nat.pow 2 52 % Nat.pow 2 11
  let fraction : Nat := bits % Nat.pow 2 52
  if field = 2047 then none
  else if field = 0 then some ⟨bits / Nat.pow 2 63 == 1, fraction, -1074, false⟩
  else
    some ⟨bits / Nat.pow 2 63 == 1, Nat.pow 2 52 + fraction, (field : Int) - 1075,
      fraction == 0 && field != 1⟩

/-- The order of `a * 2 ^ p` and `b * 10 ^ g`. -/
def compareScaled (a : Nat) (p : Int) (b : Nat) (g : Int) : Ordering :=
  compare (a * Nat.pow 2 p.toNat * Nat.pow 10 (-g).toNat)
    (b * Nat.pow 10 g.toNat * Nat.pow 2 (-p).toNat)

namespace Binary

/-- Whether a number that is not zero is too small for a mantissa of full length. -/
def isSubnormal (x : Binary) : Bool := x.mantissa < Nat.pow 2 52

/-- Whether `d * 10 ^ g` is read back as the number: it lies no further than half way to the
neighbours, and half way itself counts where the mantissa is even. -/
def readsBack (x : Binary) (d : Nat) (g : Int) : Bool :=
  let low := compareScaled (4 * x.mantissa - (if x.narrowBelow then 1 else 2)) (x.exponent - 2) d g
  let high := compareScaled (4 * x.mantissa + 2) (x.exponent - 2) d g
  if x.mantissa % 2 = 0 then low != .gt && high != .lt else low == .lt && high == .gt

/-- The least `k` with the number below `10 ^ k`, from an estimate by the binary logarithm. -/
def magnitude (x : Binary) : Int :=
  let estimate := ((Nat.log2 x.mantissa : Int) + x.exponent) * 30103 / 100000
  ([estimate - 1, estimate, estimate + 1, estimate + 2].find? fun k =>
    compareScaled x.mantissa x.exponent 1 k == .lt).getD (estimate + 3)

/-- The greatest multiple of `10 ^ g` not above the number, as that multiple. -/
def floorAt (x : Binary) (g : Int) : Nat :=
  x.mantissa * Nat.pow 2 x.exponent.toNat * Nat.pow 10 (-g).toNat /
    (Nat.pow 10 g.toNat * Nat.pow 2 (-x.exponent).toNat)

/-- The decimal on the grid of `10 ^ g` that is read back as the number, the closer one of two. -/
def onGrid? (x : Binary) (tie : Tie) (g : Int) : Option Nat :=
  let d := x.floorAt g
  let below := d != 0 && x.readsBack d g
  let above := x.readsBack (d + 1) g
  if below && above then
    match compareScaled (2 * x.mantissa) x.exponent (2 * d + 1) g with
    | .lt => some d
    | .eq => some (tie.choose d)
    | .gt => some (d + 1)
  else if below then some d
  else if above then some (d + 1)
  else none

/-- The first hit among the grids with `digits`, `digits + 1`, … digits, `tries` of them. -/
def search (x : Binary) (tie : Tie) (k : Int) : (digits tries : Nat) → Option (Nat × Int)
  | _, 0 => none
  | digits, tries + 1 =>
    match x.onGrid? tie (k - digits) with
    | some d => some (d, k - digits)
    | none => search x tie k (digits + 1) tries

/-- A decimal without zeros at its end, as digits and the power of ten they are multiplied with.
`steps` bounds how many zeros are dropped. -/
def dropZeros : (steps d : Nat) → Int → Nat × Int
  | 0, d, g => (d, g)
  | steps + 1, d, g => if d % 10 = 0 && d != 0 then dropZeros steps (d / 10) (g + 1) else (d, g)

/-- The shortest decimal that is read back as the number: digits and the power of ten they are
multiplied with. Seventeen digits always suffice. -/
def shortest (x : Binary) (tie : Tie) : Nat × Int :=
  if x.mantissa = 0 then (0, 0)
  else
    match x.search tie x.magnitude 1 17 with
    | some (d, g) => dropZeros 17 d g
    | none =>
      (x.mantissa * Nat.pow 5 (-x.exponent).toNat * Nat.pow 2 x.exponent.toNat, min x.exponent 0)

end Binary

end TypedQuery.Number
