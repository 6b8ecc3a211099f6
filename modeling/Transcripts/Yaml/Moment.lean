/-
  Transcripts/Yaml/Moment.lean
  ============================
  **Dates and times in YAML.**

  A timestamp is a date, or a date and a time of day.  A time may have a
  fraction, of which six digits count, and may say how far it is ahead of
  universal time.
-/
import Transcripts.Calendar.Date
import Transcripts.Json.Reader
import Transcripts.Yaml.Fault

namespace Transcripts.Yaml

open Transcripts.Calendar
open Transcripts.Json (isDigitChar spanDigits digitsValue)
open Transcripts.Numeral

/-! ### Reading -/

structure WrittenTime where
  hour : Nat
  minute : Nat
  second : Nat
  microsecond : Nat
  offset : Option Int
deriving DecidableEq, Repr

structure WrittenMoment where
  year : Nat
  month : Nat
  day : Nat
  time : Option WrittenTime
deriving DecidableEq, Repr

/-- A number of at least `least` and at most `most` digits, and the text behind it. -/
def readNumber? (least most : Nat) (cs : List Char) : Option (Nat × List Char) :=
  let ds := (cs.take most).takeWhile isDigitChar
  if ds.length < least then none else some (digitsValue ds, cs.drop ds.length)

/-- Drop a character that must be next. -/
def drop? (c : Char) : List Char → Option (List Char)
  | d :: cs => if d = c then some cs else none
  | [] => none

/-- The first six digits of a fraction, filled up with zeros. -/
def microseconds (ds : List Char) : Nat :=
  let ds := ds.take 6
  digitsValue ds * Nat.pow 10 (6 - ds.length)

/-- The distance from universal time at the end of a timestamp. -/
def readOffset? (cs : List Char) : Option (Option Int) :=
  if cs.isEmpty then some none
  else match cs.dropWhile (fun c => c = ' ' || c = '\t') with
    | ['Z'] => some (some 0)
    | c :: rest =>
      if c = '+' ∨ c = '-' then do
        let (hours, rest) ← readNumber? 1 2 rest
        let (minutes, rest) ← match rest with
          | [] => some (0, [])
          | rest => readNumber? 2 2 (← drop? ':' rest)
        let distance : Int := hours * 60 + minutes
        if rest.isEmpty then some (some (if c = '-' then -distance else distance)) else none
      else none
    | [] => none

/-- The time of day of a timestamp, to its end. -/
def readTime? (cs : List Char) : Option WrittenTime := do
  let (hour, rest) ← readNumber? 1 2 cs
  let (minute, rest) ← readNumber? 2 2 (← drop? ':' rest)
  let (second, rest) ← readNumber? 2 2 (← drop? ':' rest)
  let (fraction, rest) := match rest with
    | '.' :: rest => spanDigits rest
    | rest => ([], rest)
  let offset ← readOffset? rest
  return ⟨hour, minute, second, microseconds fraction, offset⟩

/-- The text behind what divides a date from a time. -/
def dropDivider? : List Char → Option (List Char)
  | 'T' :: cs => some cs
  | 't' :: cs => some cs
  | c :: cs => if c = ' ' ∨ c = '\t' then some (cs.dropWhile fun c => c = ' ' || c = '\t') else none
  | [] => none

def dropFinalBreak (cs : List Char) : List Char := if cs.getLast? = some '\n' then cs.dropLast else cs

def WrittenMoment.ofText? (cs : List Char) : Option WrittenMoment := do
  let (year, rest) ← readNumber? 4 4 cs
  let (month, rest) ← readNumber? 1 2 (← drop? '-' rest)
  let (day, rest) ← readNumber? 1 2 (← drop? '-' rest)
  if rest.isEmpty then return ⟨year, month, day, none⟩
  let time ← readTime? (← dropDivider? rest)
  return ⟨year, month, day, some time⟩

def dateOf (year month day : Nat) : Except ScalarFault Date :=
  if year < 1 ∨ 9999 < year then .error (.year year)
  else if month < 1 ∨ 12 < month then .error .month
  else if h : isDate year month day = true then .ok ⟨year, month, day, h⟩
  else .error .day

/-- The moment that a date and a time name.  The distance from universal time is
    looked at first. -/
def momentOf (year month day : Nat) (t : WrittenTime) : Except ScalarFault Moment := do
  match t.offset with
  | some minutes => if 1440 ≤ minutes.natAbs then throw (.offset minutes)
  | none => pure ()
  let date ← dateOf year month day
  if 23 < t.hour then throw .hour
  if 59 < t.minute then throw .minute
  if 59 < t.second then throw .second
  return ⟨date, t.hour, t.minute, t.second, t.microsecond, t.offset⟩

/-! ### Showing -/

def shownDate (d : Date) : String :=
  "datetime.date(" ++ toString d.year ++ ", " ++ toString d.month ++ ", " ++ toString d.day ++ ")"

/-- A distance from universal time as it is shown inside another value. -/
def shownOffset (minutes : Int) : String :=
  if minutes = 0 then "datetime.timezone.utc" else "datetime.timezone(" ++ shownSpan minutes ++ ")"

def shownMoment (m : Moment) : String :=
  let numbers := [m.date.year, m.date.month, m.date.day, m.hour, m.minute] ++
    (if m.microsecond ≠ 0 then [m.second, m.microsecond]
      else if m.second ≠ 0 then [m.second] else [])
  let zone := match m.offset with
    | some minutes => ", tzinfo=" ++ shownOffset minutes
    | none => ""
  "datetime.datetime(" ++ ", ".intercalate (numbers.map toString) ++ zone ++ ")"

end Transcripts.Yaml
