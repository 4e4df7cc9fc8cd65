import TypedQuery.Calendar.Date

/-!
# Timestamps

Points in time in the zone of offset zero: a date, a second of that day, and nanoseconds. A leap
second is the last second of a minute with a thousand million nanoseconds or more.
-/

namespace TypedQuery

open Number

/-- A point in time. -/
structure Timestamp where
  /-- The day. -/
  date : Date
  /-- The second of the day. -/
  second : Nat
  /-- The nanoseconds of the second, those of a leap second included. -/
  nanos : Nat
  /-- The second lies in the day. -/
  second_lt : second < 86400
  /-- At most one leap second follows. -/
  nanos_lt : nanos < 2000000000
deriving DecidableEq

namespace Timestamp

/-- The first moment of a day. -/
def ofDate (d : Date) : Timestamp := ⟨d, 0, 0, by decide, by decide⟩

/-- The moment of a day given by hour, minute and second; second 60 is the leap second. -/
def of? (d : Date) (hour minute second nanos : Nat) : Option Timestamp :=
  let leap := second == 60
  let s := hour * 3600 + minute * 60 + (if leap then 59 else second)
  let n := nanos + (if leap then 1000000000 else 0)
  if h : hour < 24 ∧ minute < 60 ∧ second ≤ 60 ∧ s < 86400 ∧ n < 2000000000 then
    some ⟨d, s, n, h.2.2.2.1, h.2.2.2.2⟩
  else none

/-- The moment `offset` seconds earlier, for an offset of less than a day. -/
def minusOffset? (t : Timestamp) (offset : Int) : Option Timestamp :=
  let shifted := (t.second : Int) - offset
  let second := (shifted % 86400).toNat
  have hsecond : second < 86400 := by
    have := Int.emod_lt_of_pos shifted (show (0 : Int) < 86400 by decide)
    have := Int.emod_nonneg shifted (show (86400 : Int) ≠ 0 by decide)
    omega
  let date? :=
    if shifted < 0 then t.date.previous? else if 86400 ≤ shifted then t.date.next? else some t.date
  date?.map fun date => ⟨date, second, t.nanos, hsecond, t.nanos_lt⟩

/-- The order in time. -/
def cmp (a b : Timestamp) : Ordering :=
  (a.date.cmp b.date).then ((compare a.second b.second).then (compare a.nanos b.nanos))

/-- The fraction of a second with as few groups of three digits as it needs. -/
def fractionText (nanos : Nat) : String :=
  if nanos = 0 then ""
  else if nanos % 1000000 = 0 then "." ++ String.ofList (zeroPadded 3 (Nat.toDigits 10 (nanos / 1000000)))
  else if nanos % 1000 = 0 then "." ++ String.ofList (zeroPadded 6 (Nat.toDigits 10 (nanos / 1000)))
  else "." ++ String.ofList (zeroPadded 9 (Nat.toDigits 10 nanos))

/-- The moment up to the name of its zone. -/
def localText (t : Timestamp) : String :=
  let leap := t.nanos / 1000000000
  t.date.text ++ "T" ++ Date.twoDigits (t.second / 3600) ++ ":" ++
    Date.twoDigits (t.second / 60 % 60) ++ ":" ++ Date.twoDigits (t.second % 60 + leap) ++
    fractionText (t.nanos % 1000000000)

/-- The moment with its zone as a numeric offset. -/
def text (t : Timestamp) : String := t.localText ++ "+00:00"

/-- The moment with the letter of its zone. -/
def zuluText (t : Timestamp) : String := t.localText ++ "Z"

end Timestamp

end TypedQuery
