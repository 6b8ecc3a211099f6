/-
  Transcripts/Numeral/Integer.lean
  ================================
  **Reading whole numbers.**

  A whole number is an optional sign and decimal digits of any script, single
  low lines between digits allowed, blanks around it ignored.  The ASCII
  information separators are blank elsewhere but not here.  Numbers of more
  than 4300 digits are refused, because reading them takes quadratic time.
-/
import Transcripts.Text.CharClass
import Transcripts.Text.Printable

namespace Transcripts.Numeral

open Transcripts.Text

/-- Why a text is not read as a whole number. -/
inductive IntegerFault where
  | malformed (text : String)
  | tooManyDigits (count : Nat)
deriving DecidableEq, Repr

def IntegerFault.message : IntegerFault → String
  | .malformed text => "invalid literal for int() with base 10: " ++ quote text
  | .tooManyDigits count =>
    "Exceeds the limit (4300 digits) for integer string conversion: value has " ++ toString count ++
      " digits; use sys.set_int_max_str_digits() to increase the limit"

/-- The greatest number of digits that is read. -/
def maxDigits : Nat := 4300

def isNumberBlank (c : Char) : Bool := isBlank c && !(0x1C ≤ c.toNat && c.toNat ≤ 0x1F)

/-- The digits of a run in which single low lines may stand between digits. -/
def digitRun? : List Char → Option (List Nat)
  | [] => none
  | [c] => (digitValue? c).map ([·])
  | c :: '_' :: cs => do
    let d ← digitValue? c
    let ds ← digitRun? cs
    return d :: ds
  | c :: cs => do
    let d ← digitValue? c
    let ds ← digitRun? cs
    return d :: ds

/-- The number that decimal digits stand for, most significant first. -/
def ofDigits (ds : List Nat) : Nat := ds.foldl (fun n d => n * 10 + d) 0

/-- Split a sign off: whether it is negative, and the rest. -/
def splitSign : List Char → Bool × List Char
  | '-' :: cs => (true, cs)
  | '+' :: cs => (false, cs)
  | cs => (false, cs)

/-- Drop what may stand around a number. -/
def trimNumber (cs : List Char) : List Char :=
  ((cs.dropWhile isNumberBlank).reverse.dropWhile isNumberBlank).reverse

def readInteger (cs : List Char) : Except IntegerFault Int :=
  let (negative, body) := splitSign (trimNumber cs)
  match digitRun? body with
  | none => .error (.malformed (.ofList cs))
  | some ds =>
    if maxDigits < ds.length then .error (.tooManyDigits ds.length)
    else .ok (if negative then -(ofDigits ds : Int) else ofDigits ds)

/-- Read a whole number, without the reason when that fails. -/
def integer? (cs : List Char) : Option Int := (readInteger cs).toOption

end Transcripts.Numeral
