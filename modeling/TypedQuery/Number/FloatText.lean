import TypedQuery.Number.Integer
import TypedQuery.Number.Shortest

/-!
# Floating-point numbers as text

Two written forms, both with the fewest digits that are read back as the number: the plain form never
has an exponent, the document form has one outside `1e-5` to `1e16` and always shows that it is no
integer. A number half way between two such decimals goes away from zero in the plain form and to the
even digit in the document form. Reading rounds to the nearest number.
-/

namespace TypedQuery.Number

/-! ## Writing -/

/-- Digits with a point in them: `cs * 10 ^ g` without an exponent. -/
def positional (cs : List Char) (g : Int) : List Char :=
  if 0 ≤ g then cs ++ List.replicate g.toNat '0'
  else
    let places := (-g).toNat
    if cs.length ≤ places then ['0', '.'] ++ zeroPadded places cs
    else cs.take (cs.length - places) ++ ['.'] ++ cs.drop (cs.length - places)

/-- Digits with a point after the first and the exponent after them. -/
def scientific (cs : List Char) (exponent : Int) : List Char :=
  let fraction := cs.drop 1
  cs.take 1 ++ (if fraction.isEmpty then [] else '.' :: fraction) ++ ['e'] ++
    (if exponent < 0 then ['-'] else ['+']) ++ Nat.toDigits 10 exponent.natAbs

/-- The number without an exponent and, at an integer, without a point. -/
def floatText (x : Float) : String :=
  match binary? x with
  | none => if x == x then (if x < 0 then "-inf" else "inf") else "NaN"
  | some b =>
    let (d, g) := b.shortest .awayFromZero
    (if b.negative then "-" else "") ++ String.ofList (positional (Nat.toDigits 10 d) g)

/-- The number as documents have it: with a point and at least one decimal from `1e-5` on and below
`1e16`, else with an exponent. A number that is not finite has no such form. -/
def documentText? (x : Float) : Option String :=
  (binary? x).map fun b =>
    let (d, g) := b.shortest .toEven
    let cs := Nat.toDigits 10 d
    let exponent := cs.length + g - 1
    let body :=
      if d = 0 then ['0', '.', '0']
      else if -5 ≤ exponent && exponent < 16 then
        positional cs g ++ (if 0 ≤ g then ['.', '0'] else [])
      else scientific cs exponent
    (if b.negative then "-" else "") ++ String.ofList body

/-! ## Reading -/

/-- The number closest to `m * 10 ^ e`. Beyond `10 ^ 400` and below `10 ^ -400` the answer does not
depend on the digits. -/
def nearest (m : Nat) (e : Int) : Float :=
  if m = 0 then 0
  else
    let magnitude := (Nat.toDigits 10 m).length + e
    if 400 < magnitude then Float.ofScientific 1 false 400
    else if magnitude < -400 then 0
    else Float.ofScientific m (e < 0) e.natAbs

/-- The words for numbers that are not finite, in any case. -/
def readWord? (cs : List Char) : Option Float :=
  let word := cs.map Char.toLower
  if word = "inf".toList || word = "infinity".toList then some (1 / 0)
  else if word = "nan".toList then some (0 / 0)
  else none

/-- The exponent at the end of a number: nothing, or `e` and an integer. -/
def readExponent? : List Char → Option Int
  | [] => some 0
  | c :: cs => if c == 'e' || c == 'E' then readInt? cs else none

/-- A number without a sign: digits with at most one point, at least one digit, and an exponent. -/
def readUnsigned? (cs : List Char) : Option Float :=
  let whole := cs.takeWhile Char.isDigit
  let (fraction, rest) := match cs.dropWhile Char.isDigit with
    | '.' :: rest => (rest.takeWhile Char.isDigit, rest.dropWhile Char.isDigit)
    | rest => ([], rest)
  if whole.isEmpty && fraction.isEmpty then none
  else (readExponent? rest).map fun e =>
    nearest (digitsValue (whole ++ fraction)) (e - fraction.length)

/-- A floating-point number in text: an optional sign, then a word or digits. -/
def readFloat? : List Char → Option Float
  | '-' :: cs => (readWord? cs <|> readUnsigned? cs).map fun x => -x
  | '+' :: cs => readWord? cs <|> readUnsigned? cs
  | cs => readWord? cs <|> readUnsigned? cs

/-! ## Integral numbers -/

/-- The integer equal to the number, if there is one. -/
def integral? (x : Float) : Option Int :=
  (binary? x).bind fun b =>
    let magnitude := b.mantissa * Nat.pow 2 b.exponent.toNat
    let unit := Nat.pow 2 (-b.exponent).toNat
    if magnitude % unit = 0 then
      let n : Int := (magnitude / unit : Nat)
      some (if b.negative then -n else n)
    else none

/-- The order of two numbers; the undefined number has none. -/
def compareFloat (x y : Float) : Option Ordering :=
  if x < y then some .lt else if x == y then some .eq else if y < x then some .gt else none

end TypedQuery.Number
