/-
  Transcripts/Yaml/NodeType.lean
  ==============================
  **The types of nodes.**

  A tag names the type of a node; a node without one is a text, a list or a
  mapping, except that a plain scalar is a number, a truth
  value, null or a timestamp if it is written as one.  The forms are those of YAML 1.1:
  `yes` and `off` are truth values, `010` is octal, `1:30` counts sixties, and a
  real number has a point and, in its exponent, a sign.
-/
import Transcripts.Text.Split
import Transcripts.Yaml.Moment

namespace Transcripts.Yaml

open Transcripts.Json (isDigitChar hexValue?)
open Transcripts.Numeral (splitSign)
open Transcripts.Text

inductive NodeType where
  | null
  | bool
  | int
  | real
  | text
  | binary
  | timestamp
  | list
  | orderedMap
  | pairs
  | map
  | set
  /-- The key of what is merged into a mapping. -/
  | merge
  /-- The key of the value that a mapping stands for. -/
  | standIn
  /-- A type that only another application knows. -/
  | unknown
deriving DecidableEq, Repr

def commonTags : String := "tag:yaml.org,2002:"

/-- The common types by the last part of their tags. -/
def commonTypes : List (String × NodeType) :=
  [("null", .null), ("bool", .bool), ("int", .int), ("float", .real), ("str", .text),
   ("binary", .binary), ("timestamp", .timestamp), ("seq", .list), ("omap", .orderedMap),
   ("pairs", .pairs), ("map", .map), ("set", .set), ("merge", .merge), ("value", .standIn)]

def NodeType.ofTag (tag : String) : NodeType :=
  ((commonTypes.find? fun (name, _) => commonTags ++ name = tag).map (·.2)).getD .unknown

/-! ### The forms of plain scalars -/

/-- Words in lower case, with a capital, and in capitals. -/
def threeCases (words : List String) : List String :=
  words ++ words.map String.capitalize ++ words.map String.toUpper

def boolWords : List String := threeCases ["yes", "no", "true", "false", "on", "off"]

def nullWords : List String := ["", "~"] ++ threeCases ["null"]

def isDigitOrLine (c : Char) : Bool := isDigitChar c || c = '_'

/-- Whether a text is digits and low lines, beginning with a digit. -/
def isDigits : List Char → Bool
  | c :: cs => isDigitChar c && cs.all isDigitOrLine
  | [] => false

/-- Whether a text is a number below sixty, of one digit or two. -/
def isBelowSixty : List Char → Bool
  | [c] => isDigitChar c
  | [c, d] => '0' ≤ c && c ≤ '5' && isDigitChar d
  | _ => false

/-- Whether a text counts sixties: a number, and numbers below sixty behind colons. -/
def isSixties (cs : List Char) : Bool :=
  match splitOn ':' cs with
  | first :: next :: more => isDigits first && (next :: more).all isBelowSixty
  | _ => false

def isIntForm (cs : List Char) : Bool :=
  match (splitSign cs).2 with
  | ['0'] => true
  | '0' :: 'b' :: ds => !ds.isEmpty && ds.all fun c => c = '0' || c = '1' || c = '_'
  | '0' :: 'x' :: ds => !ds.isEmpty && ds.all fun c => (hexValue? c).isSome || c = '_'
  | '0' :: ds => !ds.isEmpty && ds.all fun c => ('0' ≤ c && c ≤ '7') || c = '_'
  | body => isDigits body || isSixties body

/-- Whether a text is an exponent with a sign, or nothing. -/
def isExponentOrEmpty : List Char → Bool
  | [] => true
  | e :: s :: ds =>
    (e = 'e' || e = 'E') && (s = '-' || s = '+') && !ds.isEmpty && ds.all isDigitChar
  | _ => false

def isRealForm (cs : List Char) : Bool :=
  let body := (splitSign cs).2
  let whole := body.takeWhile (· ≠ '.')
  let part := (body.dropWhile (· ≠ '.')).drop 1
  let ending := part.dropWhile isDigitOrLine
  if body.length = whole.length then false
  else if isDigits whole then isExponentOrEmpty ending
  else if isSixties whole then ending.isEmpty
  else if !whole.isEmpty then false
  else
    [".inf", ".Inf", ".INF"].contains (String.ofList body) ||
    (body.length = cs.length &&
      ((isDigits (part.take 1) && isExponentOrEmpty ending) ||
        [".nan", ".NaN", ".NAN"].contains (String.ofList body)))

/-- Whether a text is written as a timestamp.  A date without a time has two
    digits for month and day. -/
def isTimestampForm (cs : List Char) : Bool :=
  match WrittenMoment.ofText? cs with
  | some m => m.time.isSome || cs.length = 10
  | none => false

/-- The type of a plain scalar.  A line feed at its end does not matter. -/
def NodeType.ofPlain (text : String) : NodeType :=
  let cs := dropFinalBreak text.toList
  let word := String.ofList cs
  if text.isEmpty ∨ (!cs.isEmpty ∧ nullWords.contains word) then .null
  else if boolWords.contains word then .bool
  else if isIntForm cs then .int
  else if isRealForm cs then .real
  else if isTimestampForm cs then .timestamp
  else if word = "<<" then .merge
  else if word = "=" then .standIn
  else .text

end Transcripts.Yaml
