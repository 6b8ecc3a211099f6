/-
  Transcripts/Calendar/Written.lean
  =================================
  **Dates as they are written.**

  Session dates are written `D.M.YYYY`.  Bounds of a search may also be written
  in ISO 8601, with or without hyphens, by month and day or by week and weekday.
  A text that names no date of the calendar is no date; only a number too large
  for the calendar's arithmetic is refused outright.
-/
import Transcripts.Calendar.Date
import Transcripts.Numeral.Integer
import Transcripts.Text.Split

namespace Transcripts.Calendar

open Transcripts.Numeral
open Transcripts.Text

/-- A number that the calendar's arithmetic, in words of 32 bits, cannot take.
    Beyond 64 bits the sign no longer matters. -/
inductive Oversize where
  | beyondWord
  | aboveMaximum
  | belowMinimum
deriving DecidableEq, Repr

def Oversize.message : Oversize → String
  | .beyondWord => "Python int too large to convert to C long"
  | .aboveMaximum => "signed integer is greater than maximum"
  | .belowMinimum => "signed integer is less than minimum"

def checkSize (n : Int) : Except Oversize Unit :=
  if n < -0x8000000000000000 ∨ 0x8000000000000000 ≤ n then .error .beyondWord
  else if 0x80000000 ≤ n then .error .aboveMaximum
  else if n < -0x80000000 then .error .belowMinimum
  else .ok ()

/-- The date that three numbers name.  The sizes are checked from the year down. -/
def dateOfNumbers (year month day : Int) : Except Oversize (Option Date) := do
  checkSize year
  checkSize month
  checkSize day
  return Date.ofNumbers? year month day

/-- Read a date `D.M.YYYY`. -/
def readDotted (text : List Char) : Except Oversize (Option Date) :=
  match (splitOn '.' (trim text)).map integer? with
  | [some day, some month, some year] => dateOfNumbers year month day
  | _ => .ok none

def sessionDate (text : String) : Except Oversize (Option Date) := readDotted text.toList

/-! ### ISO 8601 -/

def asciiDigit? (c : Char) : Option Nat :=
  if '0' ≤ c ∧ c ≤ '9' then some (c.toNat - 0x30) else none

/-- Read exactly `count` ASCII digits: their value and the text behind them. -/
def readDigits? : (count : Nat) → List Char → Option (Nat × List Char)
  | 0, cs => some (0, cs)
  | _ + 1, [] => none
  | count + 1, c :: cs => do
    let d ← asciiDigit? c
    let (n, rest) ← readDigits? count cs
    return (d * Nat.pow 10 count + n, rest)

/-- Drop a hyphen that must be there if hyphens are used. -/
def dropHyphen? (hyphens : Bool) (cs : List Char) : Option (List Char) :=
  if hyphens then
    match cs with
    | '-' :: rest => some rest
    | _ => none
  else some cs

/-- The weekday at the end of a week date; Monday if the text ends before it. -/
def readWeekday? (hyphens : Bool) (cs : List Char) : Option Nat :=
  if cs.isEmpty then some 1
  else do
    let rest ← dropHyphen? hyphens cs
    let (day, _) ← readDigits? 1 rest
    return day

/-- Read a date in ISO 8601.  The first hyphen decides whether hyphens are used.
    The size of the text, in bytes, must be that of a date; a date without
    hyphens may be followed by two bytes of anything. -/
def readIso? (cs : List Char) : Option Date :=
  let size := (String.ofList cs).utf8ByteSize
  if size = 7 ∨ size = 8 ∨ size = 10 then do
    let (year, rest) ← readDigits? 4 cs
    let hyphens := rest.head? = some '-'
    let rest ← dropHyphen? hyphens rest
    match rest with
    | 'W' :: rest =>
      let (week, rest) ← readDigits? 2 rest
      let day ← readWeekday? hyphens rest
      Date.ofWeek? year week day
    | rest =>
      let (month, rest) ← readDigits? 2 rest
      let rest ← dropHyphen? hyphens rest
      let (day, _) ← readDigits? 2 rest
      Date.ofNumbers? year month day
  else none

/-! ### Bounds -/

inductive DateBound where
  | unset
  | written (text : String)
  | exactly (date : Date)
  | moment (m : Moment)
deriving DecidableEq, Repr

/-- The date of a bound, which is that of a moment whatever its time of day; nothing
    for a bound that is not set or is not a date. -/
def DateBound.resolve : DateBound → Except Oversize (Option Date)
  | .unset => .ok none
  | .exactly d => .ok (some d)
  | .moment m => .ok (some m.date)
  | .written text =>
    let cs := trim text.toList
    if cs.isEmpty then .ok none
    else match readIso? cs with
      | some d => .ok (some d)
      | none => readDotted cs

end Transcripts.Calendar
