import TypedQuery.Calendar.Timestamp
import TypedQuery.Text.Class

/-!
# Reading dates and timestamps

A pattern is a list of items that take their characters from the text one after the other. Numbers
in a pattern may have blanks in front and may be short; the internet form of a timestamp is strict
in its widths and ends with an offset.
-/

namespace TypedQuery

open Number Text

/-! ## Patterns -/

/-- One item of a pattern. -/
inductive PatternItem where
  | year
  | month
  | day
  | hour
  | minute
  | second
  /-- A point and digits, or nothing. -/
  | fraction
  /-- Any number of blanks, also none. -/
  | blanks
  | mark (c : Char)

/-- The numbers that a pattern has taken from a text. -/
structure Moment where
  year : Int := 0
  month : Nat := 0
  day : Nat := 0
  hour : Nat := 0
  minute : Nat := 0
  second : Nat := 0
  nanos : Nat := 0

/-- Takes up to `width` digits, at least one, from the front of a text. -/
def takeNumber? (width : Nat) (cs : List Char) : Option (Nat × List Char) :=
  let ds := (cs.take width).takeWhile Char.isDigit
  if ds.isEmpty then none else some (digitsValue ds, cs.drop ds.length)

/-- Takes a year: four digits at most, or a sign and any number of digits. -/
def takeYear? (cs : List Char) : Option (Int × List Char) :=
  match cs with
  | '-' :: cs => (takeNumber? cs.length cs).map fun (n, rest) => (-(n : Int), rest)
  | '+' :: cs => (takeNumber? cs.length cs).map fun (n, rest) => ((n : Int), rest)
  | cs => (takeNumber? 4 cs).map fun (n, rest) => ((n : Int), rest)

/-- Takes the digits of a fraction as nanoseconds; digits beyond the ninth are passed over. -/
def takeNanos? (cs : List Char) : Option (Nat × List Char) :=
  let ds := cs.takeWhile Char.isDigit
  if ds.isEmpty then none
  else
    let kept := ds.take 9
    some (digitsValue kept * Nat.pow 10 (9 - kept.length), cs.drop ds.length)

/-- Takes a number of two digits at most within bounds, blanks in front of it passed over. -/
def takeBounded? (low high : Nat) (cs : List Char) : Option (Nat × List Char) :=
  match takeNumber? 2 (dropBlank cs) with
  | some (n, rest) => if low ≤ n && n ≤ high then some (n, rest) else none
  | none => none

/-- Takes one item. -/
def PatternItem.take? (m : Moment) (cs : List Char) : PatternItem → Option (Moment × List Char)
  | .year => (takeYear? (dropBlank cs)).map fun (n, rest) => ({ m with year := n }, rest)
  | .month => (takeBounded? 1 12 cs).map fun (n, rest) => ({ m with month := n }, rest)
  | .day => (takeBounded? 1 31 cs).map fun (n, rest) => ({ m with day := n }, rest)
  | .hour => (takeBounded? 0 23 cs).map fun (n, rest) => ({ m with hour := n }, rest)
  | .minute => (takeBounded? 0 59 cs).map fun (n, rest) => ({ m with minute := n }, rest)
  | .second => (takeBounded? 0 60 cs).map fun (n, rest) => ({ m with second := n }, rest)
  | .fraction =>
    match cs with
    | '.' :: cs => (takeNanos? cs).map fun (n, rest) => ({ m with nanos := n }, rest)
    | cs => some (m, cs)
  | .blanks => some (m, dropBlank cs)
  | .mark c =>
    match cs with
    | c' :: rest => if c == c' then some (m, rest) else none
    | [] => none

/-- Takes the items of a pattern in turn. -/
def takePattern? : List PatternItem → Moment → List Char → Option (Moment × List Char)
  | [], m, cs => some (m, cs)
  | item :: items, m, cs => do
    let (m, rest) ← item.take? m cs
    takePattern? items m rest

/-- Reads a whole text by a pattern. -/
def readPattern? (items : List PatternItem) (cs : List Char) : Option Moment :=
  match takePattern? items {} cs with
  | some (m, []) => some m
  | _ => none

namespace Moment

/-- The day of a moment. -/
def date? (m : Moment) : Option Date := Date.of? m.year m.month m.day

/-- The point in time of a moment whose clock is `offset` seconds ahead. -/
def timestamp? (m : Moment) (offset : Int) : Option Timestamp := do
  let date ← m.date?
  let t ← Timestamp.of? date m.hour m.minute m.second m.nanos
  t.minusOffset? offset

end Moment

/-! ## Forms without a zone -/

/-- Year, month and day with hyphens. -/
def datePattern : List PatternItem := [.year, .mark '-', .month, .mark '-', .day]

/-- Hour, minute and second with colons. -/
def clockPattern : List PatternItem := [.hour, .mark ':', .minute, .mark ':', .second]

/-- The forms of date and clock, in the order in which they are tried. -/
def clockForms : List (List PatternItem) :=
  [datePattern ++ [.mark 'T'] ++ clockPattern,
    datePattern ++ [.blanks] ++ clockPattern,
    datePattern ++ [.mark 'T'] ++ clockPattern ++ [.fraction]]

/-- A date alone. -/
def readPlainDate? (cs : List Char) : Option Date := readPattern? datePattern cs >>= Moment.date?

/-! ## The internet form -/

/-- Takes a number of exactly `width` digits. -/
def takeExact? (width : Nat) (cs : List Char) : Option (Nat × List Char) :=
  let ds := cs.take width
  if ds.length = width && ds.all Char.isDigit then some (digitsValue ds, cs.drop width) else none

/-- Takes the character `c`. -/
def takeMark? (c : Char) : List Char → Option (List Char)
  | c' :: rest => if c == c' then some rest else none
  | [] => none

/-- Takes an offset in seconds: `Z`, or a sign and hours and minutes with `colon` between them. -/
def takeOffset? (colon : List Char → Option (List Char)) (cs : List Char) :
    Option (Int × List Char) := do
  match cs with
  | 'Z' :: rest | 'z' :: rest => return (0, rest)
  | sign :: rest =>
    let negative ←
      if sign == '-' || sign == '−' then some true else if sign == '+' then some false else none
    let (hours, rest) ← takeExact? 2 rest
    let rest ← colon rest
    let (minutes, rest) ← takeExact? 2 rest
    if 59 < minutes then none
    else
      let seconds : Int := (hours * 3600 + minutes * 60 : Nat)
      return (if negative then -seconds else seconds, rest)
  | [] => none

/-- Whether a zone may be that far from offset zero: less than a day. -/
def isOffset (seconds : Int) : Bool := -86400 < seconds && seconds < 86400

/-- Reads a timestamp in the internet form: parts of fixed width, a letter or a space between date
and clock, and an offset. -/
def readInternet? (cs : List Char) : Option Timestamp := do
  let (year, rest) ← takeExact? 4 cs
  let rest ← takeMark? '-' rest
  let (month, rest) ← takeExact? 2 rest
  let rest ← takeMark? '-' rest
  let (day, rest) ← takeExact? 2 rest
  let rest ← (takeMark? 'T' rest).or ((takeMark? 't' rest).or (takeMark? ' ' rest))
  let (hour, rest) ← takeExact? 2 rest
  let rest ← takeMark? ':' rest
  let (minute, rest) ← takeExact? 2 rest
  let rest ← takeMark? ':' rest
  let (second, rest) ← takeExact? 2 rest
  let (nanos, rest) ← match rest with
    | '.' :: rest => takeNanos? rest
    | rest => some (0, rest)
  let (offset, rest) ← takeOffset? (takeMark? ':') rest
  if rest.isEmpty && isOffset offset then
    Moment.timestamp? ⟨year, month, day, hour, minute, second, nanos⟩ offset
  else none

/-! ## Dates and timestamps -/

/-- Reads a timestamp: the internet form, a date and clock at offset zero, or a date for its first
moment. -/
def Timestamp.read? (cs : List Char) : Option Timestamp :=
  (readInternet? cs).or
    ((clockForms.findSome? fun form => readPattern? form cs >>= (·.timestamp? 0)).or
      ((readPlainDate? cs).map Timestamp.ofDate))

/-- Reads a date: a plain one, or the day of a timestamp. -/
def Date.read? (cs : List Char) : Option Date :=
  (readPlainDate? cs).or ((Timestamp.read? cs).map Timestamp.date)

/-! ## Forms in documents -/

/-- Reads a date as documents have it: blanks may stand behind each of its numbers. -/
def readLooseDate? (cs : List Char) : Option Date :=
  readPattern? [.year, .blanks, .mark '-', .month, .blanks, .mark '-', .day, .blanks] cs >>=
    Moment.date?

/-- Takes a colon or blanks, or nothing, between the hours and minutes of an offset. -/
def takeColonOrBlanks? (cs : List Char) : Option (List Char) :=
  some (cs.dropWhile fun c => c == ':' || isBlank c)

/-- Reads a timestamp as documents have it: like the internet form, with short numbers, with blanks
between the parts, and with the name of the zone allowed for its offset. -/
def readLooseTimestamp? (cs : List Char) : Option Timestamp := do
  let (m, rest) ←
    takePattern? [.year, .blanks, .mark '-', .month, .blanks, .mark '-', .day] {} cs
  let rest ← (takeMark? 'T' rest).or ((takeMark? 't' rest).or (takeMark? ' ' rest))
  let (m, rest) ← takePattern? [.hour, .blanks, .mark ':', .minute, .blanks, .mark ':', .second,
    .fraction, .blanks] m rest
  let (offset, rest) ←
    if (rest.take 3).map Char.toLower = ['u', 't', 'c'] then some (0, rest.drop 3)
    else takeOffset? takeColonOrBlanks? rest
  if (dropBlank rest).isEmpty && isOffset offset then m.timestamp? offset else none

end TypedQuery
