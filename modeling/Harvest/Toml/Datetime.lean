/-!
# Dates and Times

A moment as a configuration file writes it: a date, a time of day, or both, and then perhaps
how far local time is from universal time. Every part is kept as it was written, and
`Datetime.text` writes it in one fixed form.
-/

namespace Harvest.Toml

/-- A day of the calendar. -/
structure Date where
  /-- The year. -/
  year : Nat
  /-- The month, counted from one. -/
  month : Nat
  /-- The day of the month, counted from one. -/
  day : Nat
  deriving DecidableEq, Repr

/-- A time of day. -/
structure Time where
  /-- The hour. -/
  hour : Nat
  /-- The minute. -/
  minute : Nat
  /-- The second. -/
  second : Nat
  /-- The billionths of a second. -/
  nanosecond : Nat
  deriving DecidableEq, Repr

/-- How far local time is from universal time. -/
inductive Offset where
  /-- Universal time itself. -/
  | universal
  /-- A number of minutes, behind universal time when `negative`. -/
  | minutes (negative : Bool) (count : Nat)
  deriving DecidableEq, Repr

/-- A date, a time, or both. -/
structure Datetime where
  /-- The date. -/
  date : Option Date
  /-- The time. -/
  time : Option Time
  /-- The distance from universal time. -/
  offset : Option Offset
  deriving DecidableEq, Repr

/-- The number of days of a month. -/
def daysOfMonth (year month : Nat) : Nat :=
  let isLeap := year % 4 = 0 ∧ (year % 100 ≠ 0 ∨ year % 400 = 0)
  if month = 2 then (if isLeap then 29 else 28)
  else if month = 4 ∨ month = 6 ∨ month = 9 ∨ month = 11 then 30
  else 31

/-- Writes a number with at least `width` digits. -/
def padded (width n : Nat) : List Char :=
  let digits := (toString n).toList
  List.replicate (width - digits.length) '0' ++ digits

/-- The text of a date. -/
def Date.text (d : Date) : List Char :=
  padded 4 d.year ++ '-' :: padded 2 d.month ++ '-' :: padded 2 d.day

/-- The text of a time. A fraction of a second is written without zeros at its end. -/
def Time.text (t : Time) : List Char :=
  let whole := padded 2 t.hour ++ ':' :: padded 2 t.minute ++ ':' :: padded 2 t.second
  if t.nanosecond = 0 then whole
  else whole ++ '.' :: ((padded 9 t.nanosecond).reverse.dropWhile (· = '0')).reverse

/-- The text of an offset. -/
def Offset.text : Offset → List Char
  | .universal => ['Z']
  | .minutes negative count =>
      (if negative ∧ count ≠ 0 then '-' else '+') ::
        padded 2 (count / 60) ++ ':' :: padded 2 (count % 60)

/-- The text of a moment. A time after a date follows a `T`. -/
def Datetime.text (m : Datetime) : String :=
  let date := (m.date.map Date.text).getD []
  let time := (m.time.map Time.text).getD []
  let mark := if m.date.isSome ∧ m.time.isSome then ['T'] else []
  String.ofList (date ++ mark ++ time ++ (m.offset.map Offset.text).getD [])

end Harvest.Toml
