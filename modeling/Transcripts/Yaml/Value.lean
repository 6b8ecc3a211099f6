/-
  Transcripts/Yaml/Value.lean
  ===========================
  **The values of a YAML text, and how they are shown.**

  A value is shown as text when a message names it, or when a text is expected
  and another value was written: a text as itself, everything inside a
  collection with quotes.  A whole number of too many digits is not shown, nor is
  a collection with one in it, or one that is nested too deeply.
-/
import Transcripts.Numeral.Integer
import Transcripts.Numeral.Shortest
import Transcripts.Text.Split
import Transcripts.Yaml.Moment

namespace Transcripts.Yaml

open Transcripts.Calendar
open Transcripts.Numeral
open Transcripts.Text

inductive Value where
  | null
  | bool (b : Bool)
  | int (n : Int)
  | real (x : Binary64)
  | text (s : String)
  | bytes (bs : List UInt8)
  | date (d : Date)
  | moment (m : Moment)
  | list (items : List Value)
  /-- Entries in order, among which a key may be repeated. -/
  | pairs (entries : List (Value × Value))
  | map (entries : List (Value × Value))
  | set (items : List Value)
  /-- A mapping or a list that the value stands in. -/
  | enclosing (isMapping : Bool)
deriving Repr, Inhabited

namespace Value

/-- Whether a value counts as given: not null, false, zero or empty. -/
def isGiven : Value → Bool
  | .null => false
  | .bool b => b
  | .int n => n ≠ 0
  | .real x => !x.isZero
  | .text s => !s.isEmpty
  | .bytes bs => !bs.isEmpty
  | .list items => !items.isEmpty
  | .pairs entries => !entries.isEmpty
  | .map entries => !entries.isEmpty
  | .set items => !items.isEmpty
  | .date _ | .moment _ | .enclosing _ => true

/-! ### Showing -/

def shownByte (quote : Char) (b : UInt8) : List Char :=
  let c := Char.ofNat b.toNat
  if c = quote ∨ c = '\\' then ['\\', c]
  else if c = '\t' then ['\\', 't']
  else if c = '\n' then ['\\', 'n']
  else if c = '\r' then ['\\', 'r']
  else if b < 0x20 ∨ 0x7F ≤ b then '\\' :: 'x' :: hexDigits 2 b.toNat
  else [c]

def shownBytes (bs : List UInt8) : String :=
  let q := quoteFor (bs.map fun b => Char.ofNat b.toNat)
  .ofList ('b' :: q :: bs.flatMap (shownByte q) ++ [q])

mutual

def shown : Value → String
  | .null => "None"
  | .bool b => if b then "True" else "False"
  | .int n => toString n
  | .real x => x.text standardStyle
  | .text s => quote s
  | .bytes bs => shownBytes bs
  | .date d => shownDate d
  | .moment m => shownMoment m
  | .list items => "[" ++ joinWith ", " (shownItems items) ++ "]"
  | .pairs entries => "[" ++ joinWith ", " (shownPairs entries) ++ "]"
  | .map entries => "\x7b" ++ joinWith ", " (shownEntries entries) ++ "\x7d"
  | .set items =>
    if items.isEmpty then "set()" else "\x7b" ++ joinWith ", " (shownItems items) ++ "\x7d"
  | .enclosing isMapping => if isMapping then "\x7b...\x7d" else "[...]"

def shownItems : List Value → List String
  | [] => []
  | v :: vs => shown v :: shownItems vs

def shownEntries : List (Value × Value) → List String
  | [] => []
  | (k, v) :: entries => (shown k ++ ": " ++ shown v) :: shownEntries entries

def shownPairs : List (Value × Value) → List String
  | [] => []
  | (k, v) :: entries => ("(" ++ shown k ++ ", " ++ shown v ++ ")") :: shownPairs entries

end

/-- Why a value is not shown. -/
inductive ShowFault where
  /-- A whole number of too many digits.  In another base, or counting sixties, it can
      be read all the same. -/
  | tooManyDigits
  /-- Collections in one another, as deep as only aliases lead. -/
  | tooDeep
deriving DecidableEq, Repr

/-- The greatest depth to which values may stand in one another to be shown. -/
def maxShown : Nat := 990

mutual

/-- The fault that is met first when a value is shown; nothing if it can be shown.  A pair
    and the items of a set are shown as values of their own. -/
def showFault? (depth : Nat) : Value → Option ShowFault
  | .int n =>
    if depth = 0 then some .tooDeep
    else if n.natAbs < Nat.pow 10 maxDigits then none
    else some .tooManyDigits
  | .list items => if depth = 0 then some .tooDeep else itemsFault? (depth - 1) items
  | .set items => if depth < 2 then some .tooDeep else itemsFault? (depth - 2) items
  | .map entries => if depth = 0 then some .tooDeep else entriesFault? (depth - 1) entries
  | .pairs entries => if depth < 2 then some .tooDeep else entriesFault? (depth - 2) entries
  | _ => if depth = 0 then some .tooDeep else none

def itemsFault? (depth : Nat) : List Value → Option ShowFault
  | [] => none
  | v :: vs => (showFault? depth v).or (itemsFault? depth vs)

def entriesFault? (depth : Nat) : List (Value × Value) → Option ShowFault
  | [] => none
  | (k, v) :: entries => ((showFault? depth k).or (showFault? depth v)).or (entriesFault? depth entries)

end

def asText : Value → String
  | .text s => s
  | .date d => d.iso
  | .moment m => m.text
  | v => shown v

/-- The kind of a value, as messages name it. -/
def kind : Value → String
  | .null => "NoneType"
  | .bool _ => "bool"
  | .int _ => "int"
  | .real _ => "float"
  | .text _ => "str"
  | .bytes _ => "bytes"
  | .date _ => "datetime.date"
  | .moment _ => "datetime.datetime"
  | .list _ | .pairs _ => "list"
  | .map _ => "dict"
  | .set _ => "set"
  | .enclosing isMapping => if isMapping then "dict" else "list"

/-! ### Keys -/

/-- Whether a value can be a key: it must not be a collection. -/
def isStable : Value → Bool
  | .list _ | .pairs _ | .map _ | .set _ | .enclosing _ => false
  | _ => true

/-- The whole number that a value counts as; truth values count as 0 and 1. -/
def wholeNumber? : Value → Option Int
  | .bool b => some (if b then 1 else 0)
  | .int n => some n
  | _ => none

/-- Whether two values are the same key.  Numbers are compared as numbers. -/
def sameKey (a b : Value) : Bool :=
  match a, b with
  | .null, .null => true
  | .text s, .text t => s = t
  | .bytes s, .bytes t => s = t
  | .date d, .date e => d = e
  | .moment m, .moment n => m.same n
  | .real x, .real y => x.equal y || (x = .nan && y = .nan)
  | .real x, v => (v.wholeNumber?).any x.equalsInt
  | v, .real x => (v.wholeNumber?).any x.equalsInt
  | v, w => match v.wholeNumber?, w.wholeNumber? with
    | some m, some n => m = n
    | _, _ => false

/-- Set a key of a mapping.  A known key keeps its place and its first spelling. -/
def setKey (entries : List (Value × Value)) (k v : Value) : List (Value × Value) :=
  if entries.any fun (k', _) => sameKey k' k then
    entries.map fun (k', v') => if sameKey k' k then (k', v) else (k', v')
  else entries ++ [(k, v)]

/-- The value under a name, in the entries of a mapping. -/
def field? (entries : List (Value × Value)) (name : String) : Option Value :=
  (entries.find? fun (k, _) => sameKey k (.text name)).map (·.2)

end Value

end Transcripts.Yaml
