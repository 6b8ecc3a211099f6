/-
  Transcripts/Calendar/Timestamp.lean
  ===================================
  **Points in time, counted in milliseconds.**

  A timestamp counts milliseconds since the beginning of 1970 in universal time.
  To show it, the seconds are computed in double precision, and the year must
  fit a word of 32 bits before the calendar is asked whether it knows it.
-/
import Transcripts.Calendar.Date
import Transcripts.Numeral.Binary64

namespace Transcripts.Calendar

open Transcripts.Numeral

inductive TimestampFault where
  /-- The seconds are beyond double precision. -/
  | beyondNumbers
  /-- The seconds are beyond 64 bits. -/
  | beyondClock
  /-- The year is beyond 32 bits, counted from 1900. -/
  | beyondYears
  /-- The calendar does not know the year. -/
  | unknownYear (n : Int)
deriving DecidableEq, Repr

def TimestampFault.message : TimestampFault → String
  | .beyondNumbers => "integer division result too large for a float"
  | .beyondClock => "timestamp out of range for platform time_t"
  | .beyondYears => "[Errno 75] Value too large for defined data type"
  | .unknownYear n => "year " ++ toString n ++ " is out of range"

/-- The seconds of some milliseconds: the greatest whole number not above the
    quotient in double precision. -/
def wholeSeconds (milliseconds : Int) : Except TimestampFault Int :=
  match Binary64.ofRatio (milliseconds < 0) milliseconds.natAbs 1000 with
  | .finite negative m e =>
    let (num, den) := Binary64.magnitudeRatio m e
    let seconds := Int.fdiv (Binary64.signed negative num) den
    if seconds < -0x8000000000000000 ∨ 0x8000000000000000 ≤ seconds then .error .beyondClock else .ok seconds
  | _ => .error .beyondNumbers

/-- The days from the first date to the beginning of 1970. -/
def daysTo1970 : Int := 719162

/-- The year, of any size, of a day counted from the first date as 0. -/
def yearOfDay (day : Int) : Int :=
  Int.fdiv day 146097 * 400 + (Date.yearAndRest ((Int.fmod day 146097).toNat + 1)).1

/-- The date of a day counted from the first date as 0.  A year just beyond 32 bits
    starts over at the lowest. -/
def dateOfDay (day : Int) : Except TimestampFault Date :=
  let year := yearOfDay day
  let sinceReference := year - 1900
  if sinceReference < -0x80000000 ∨ 0x80000000 ≤ sinceReference then .error .beyondYears
  else match Date.ofDayNumber? (day + 1).toNat with
    | some date => .ok date
    | none => .error (.unknownYear (if 0x80000000 ≤ year then year - 0x100000000 else year))

/-- A timestamp as `Y-MM-DD HH:MM`.  Its date and the date before must both be
    known, because shifts of the clock are looked for in the day before. -/
def shownToMinute (milliseconds : Int) : Except TimestampFault String := do
  let seconds ← wholeSeconds milliseconds
  let day := Int.fdiv seconds 86400 + daysTo1970
  let date ← dateOfDay day
  let _ ← dateOfDay (day - 1)
  let minutes := (Int.fmod seconds 86400).toNat / 60
  return toString date.year ++ "-" ++ Date.padded 2 date.month ++ "-" ++ Date.padded 2 date.day ++
    " " ++ Date.padded 2 (minutes / 60) ++ ":" ++ Date.padded 2 (minutes % 60)

end Transcripts.Calendar
