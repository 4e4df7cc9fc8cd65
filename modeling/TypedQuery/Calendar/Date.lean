import TypedQuery.Number.Integer

/-!
# Dates

Dates of the Gregorian calendar, extended to all years. A date is valid by its type; dates are
ordered by year, month and day.
-/

namespace TypedQuery

open Number

/-- Whether February has a 29th. -/
def isLeapYear (year : Int) : Bool := year % 4 == 0 && (year % 100 != 0 || year % 400 == 0)

/-- The number of days in a month. -/
def daysInMonth (year : Int) (month : Nat) : Nat :=
  match month with
  | 2 => if isLeapYear year then 29 else 28
  | 4 | 6 | 9 | 11 => 30
  | _ => 31

/-- A day of the calendar. -/
structure Date where
  /-- The year; the year before 1 is 0. -/
  year : Int
  /-- The month, from 1. -/
  month : Nat
  /-- The day of the month, from 1. -/
  day : Nat
  /-- The month and the day exist. -/
  valid : 1 ≤ month ∧ month ≤ 12 ∧ 1 ≤ day ∧ day ≤ daysInMonth year month
deriving DecidableEq

namespace Date

/-- The date of a year, month and day, if there is one. The calendar covers the years from -262143 to
262142. -/
def of? (year : Int) (month day : Nat) : Option Date :=
  if h : 1 ≤ month ∧ month ≤ 12 ∧ 1 ≤ day ∧ day ≤ daysInMonth year month then
    if -262143 ≤ year ∧ year ≤ 262142 then some ⟨year, month, day, h⟩ else none
  else none

/-- The order in time. -/
def cmp (a b : Date) : Ordering :=
  (compare a.year b.year).then ((compare a.month b.month).then (compare a.day b.day))

/-- The day after. -/
def next? (d : Date) : Option Date :=
  (of? d.year d.month (d.day + 1)).or ((of? d.year (d.month + 1) 1).or (of? (d.year + 1) 1 1))

/-- The day before. -/
def previous? (d : Date) : Option Date :=
  if 1 < d.day then of? d.year d.month (d.day - 1)
  else if 1 < d.month then of? d.year (d.month - 1) (daysInMonth d.year (d.month - 1))
  else of? (d.year - 1) 12 31

/-- Two digits of a part of a date. -/
def twoDigits (n : Nat) : String := String.ofList (zeroPadded 2 (Nat.toDigits 10 n))

/-- A year of four digits; one that needs more, or lies before the year 0, has a sign. -/
def yearText (year : Int) : String :=
  let ds := String.ofList (zeroPadded 4 (Nat.toDigits 10 year.natAbs))
  if 0 ≤ year && year ≤ 9999 then ds else if year < 0 then "-" ++ ds else "+" ++ ds

/-- Year, month and day with hyphens between them. -/
def text (d : Date) : String := yearText d.year ++ "-" ++ twoDigits d.month ++ "-" ++ twoDigits d.day

end Date

end TypedQuery
