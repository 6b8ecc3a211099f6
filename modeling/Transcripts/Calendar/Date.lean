/-
  Transcripts/Calendar/Date.lean
  ==============================
  **Calendar dates, and moments.**

  Dates of the Gregorian calendar in the years 1 to 9999.  A date is counted by
  its day number, day 1 being the first of January of the year 1; conversions
  in both directions are plain arithmetic on the lengths of years and months.

  Dates are also named by year, week and weekday.  Weeks run from Monday to Sunday and
  belong to the year that holds their Thursday.  So week 1 is the one with the fourth
  of January, and a year has 53 weeks when it begins on a Thursday, or on a Wednesday
  in a leap year.

  A moment is a date with a time of day.  It may say how far it is ahead of universal
  time.  Where it does not, it is taken to be in universal time when moments are put in
  order.
-/

namespace Transcripts.Calendar

/-- Whether a year has 366 days. -/
def isLeap (year : Nat) : Bool := year % 4 = 0 && (year % 100 ≠ 0 || year % 400 = 0)

/-- The days of a month, 0 for what is not a month. -/
def daysInMonth (year month : Nat) : Nat :=
  match month with
  | 1 | 3 | 5 | 7 | 8 | 10 | 12 => 31
  | 4 | 6 | 9 | 11 => 30
  | 2 => if isLeap year then 29 else 28
  | _ => 0

/-- Whether year, month and day name a date. -/
def isDate (year month day : Nat) : Bool :=
  1 ≤ year && year ≤ 9999 && 1 ≤ day && day ≤ daysInMonth year month

structure Date where
  year : Nat
  month : Nat
  day : Nat
  isDate : isDate year month day = true
deriving DecidableEq, Repr

namespace Date

/-- The date that three numbers name, if they name one. -/
def ofNumbers? (year month day : Int) : Option Date :=
  if year < 0 ∨ month < 0 ∨ day < 0 then none
  else if h : Calendar.isDate year.toNat month.toNat day.toNat = true then
    some ⟨year.toNat, month.toNat, day.toNat, h⟩
  else none

/-- The first of January of the year 1. -/
def first : Date := ⟨1, 1, 1, by decide⟩

/-- The days before the first of January of a year. -/
def daysBeforeYear (year : Nat) : Nat :=
  let y := year - 1
  y * 365 + y / 4 - y / 100 + y / 400

def daysBeforeMonth (year month : Nat) : Nat :=
  (List.range (month - 1)).foldl (fun days m => days + daysInMonth year (m + 1)) 0

/-- The number of a date, counted from the first date. -/
def dayNumber (d : Date) : Nat :=
  daysBeforeYear d.year + daysBeforeMonth d.year d.month + d.day

/-- The month and the day of a year that have a number of days before them. -/
def monthAndDay (year : Nat) : (months : List Nat) → (before : Nat) → Nat × Nat
  | [], before => (12, before + 1)
  | m :: ms, before =>
    if before < daysInMonth year m then (m, before + 1)
    else monthAndDay year ms (before - daysInMonth year m)

/-- The year that holds a day number, by the cycles of 400, 100, 4 and 1 years,
    and the days of that year before it. -/
def yearAndRest (number : Nat) : Nat × Nat :=
  let n := number - 1
  let n400 := n / 146097
  let n := n % 146097
  let n100 := min 3 (n / 36524)
  let n := n - n100 * 36524
  let n4 := n / 1461
  let n := n % 1461
  let n1 := min 3 (n / 365)
  (n400 * 400 + n100 * 100 + n4 * 4 + n1 + 1, n - n1 * 365)

/-- The date with a day number, if it is within the calendar. -/
def ofDayNumber? (number : Nat) : Option Date :=
  if number = 0 then none
  else
    let (year, rest) := yearAndRest number
    let (month, day) := monthAndDay year [1, 2, 3, 4, 5, 6, 7, 8, 9, 10, 11, 12] rest
    ofNumbers? year month day

def compare (a b : Date) : Ordering :=
  (Ord.compare a.year b.year).then ((Ord.compare a.month b.month).then (Ord.compare a.day b.day))

/-- A number in decimal, filled up with zeros in front. -/
def padded (width n : Nat) : String :=
  let ds := Nat.toDigits 10 n
  .ofList (List.replicate (width - ds.length) '0' ++ ds)

/-- The text `YYYY-MM-DD` of a date. -/
def iso (d : Date) : String := padded 4 d.year ++ "-" ++ padded 2 d.month ++ "-" ++ padded 2 d.day

end Date

/-! ### Weeks -/

/-- The weekday of a day number, Monday being 0. -/
def weekday (number : Nat) : Nat := (number + 6) % 7

/-- Whether a year has 53 weeks. -/
def hasLongWeekYear (year : Nat) : Bool :=
  let january1 := weekday (Date.daysBeforeYear year + 1)
  january1 = 3 || (january1 = 2 && isLeap year)

/-- The days before the Monday of week 1 of a year; below zero where that Monday
    lies in the year before the first. -/
def daysBeforeWeekOne (year : Nat) : Int :=
  let number := Date.daysBeforeYear year + 1
  let monday : Int := number - weekday number
  (if weekday number ≤ 3 then monday else monday + 7) - 1

/-- The date of a weekday (Monday is 1) in a week of a year. -/
def Date.ofWeek? (year week day : Nat) : Option Date :=
  if year = 0 ∨ 9999 < year then none
  else if week = 0 ∨ 53 < week ∨ (week = 53 ∧ !hasLongWeekYear year) then none
  else if day = 0 ∨ 7 < day then none
  else
    let number : Int := daysBeforeWeekOne year + 7 * (week - 1) + day
    if number < 1 then none else Date.ofDayNumber? number.toNat

/-! ### Dates with a time of day -/

structure Moment where
  date : Date
  hour : Nat
  minute : Nat
  second : Nat
  microsecond : Nat
  /-- How many minutes it is ahead of universal time, if that is known. -/
  offset : Option Int
deriving DecidableEq, Repr

/-- The text `±HH:MM` of a distance from universal time. -/
def offsetText (minutes : Int) : String :=
  (if minutes < 0 then "-" else "+") ++ Date.padded 2 (minutes.natAbs / 60) ++ ":" ++
    Date.padded 2 (minutes.natAbs % 60)

namespace Moment

/-- The text `YYYY-MM-DD HH:MM:SS` of a moment, with a fraction and a distance from
    universal time where there is one. -/
def text (m : Moment) : String :=
  m.date.iso ++ " " ++ Date.padded 2 m.hour ++ ":" ++ Date.padded 2 m.minute ++ ":" ++
    Date.padded 2 m.second ++
    (if m.microsecond = 0 then "" else "." ++ Date.padded 6 m.microsecond) ++
    ((m.offset.map offsetText).getD "")

/-- The microseconds from the first date to a moment, in universal time if it is known. -/
def instant (m : Moment) : Int :=
  (((m.date.dayNumber * 24 + m.hour) * 60 + m.minute - m.offset.getD 0) * 60 + m.second) * 1000000 +
    m.microsecond

/-- Whether two moments are the same.  Where the distance from universal time is
    known for one only, they are not. -/
def same (a b : Moment) : Bool := a.offset.isSome = b.offset.isSome && a.instant = b.instant

end Moment

end Transcripts.Calendar
