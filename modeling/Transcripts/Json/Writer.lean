/-
  Transcripts/Json/Writer.lean
  ============================
  **Writing JSON.**

  Every item and every field stands on a line of its own, indented by two
  spaces for each container around it; an empty container is written on one
  line.  Characters beyond ASCII are written as they are; only quotes,
  backslashes and control characters are escaped.

  A surrogate is written in no way at all.  A value of raw texts is written if
  characters are all that stands in them, and otherwise only up to the text with
  the first surrogate.
-/
import Transcripts.Json.Value

namespace Transcripts.Json

open Transcripts.Numeral
open Transcripts.Text

def escapeChar (c : Char) : List Char :=
  if c = '"' then ['\\', '"']
  else if c = '\\' then ['\\', '\\']
  else if c = '\n' then ['\\', 'n']
  else if c = '\r' then ['\\', 'r']
  else if c = '\t' then ['\\', 't']
  else if c = '\x08' then ['\\', 'b']
  else if c = '\x0c' then ['\\', 'f']
  else if c.toNat < 0x20 then '\\' :: 'u' :: hexDigits 4 c.toNat
  else [c]

def writeString (s : String) : List Char := '"' :: s.toList.flatMap escapeChar ++ ['"']

def newLine (indent : Nat) : List Char := '\n' :: List.replicate indent ' '

def writeNumber : Binary64 → List Char
  | .nan => ['N', 'a', 'N']
  | .infinite false => ['I', 'n', 'f', 'i', 'n', 'i', 't', 'y']
  | .infinite true => ['-', 'I', 'n', 'f', 'i', 'n', 'i', 't', 'y']
  | x => (x.text standardStyle).toList

mutual

/-- A value whose first line is already indented. -/
def writeAt (indent : Nat) : Json → List Char
  | .null => ['n', 'u', 'l', 'l']
  | .bool true => ['t', 'r', 'u', 'e']
  | .bool false => ['f', 'a', 'l', 's', 'e']
  | .int n => (toString n).toList
  | .number x => writeNumber x
  | .string s => writeString s
  | .array [] => ['[', ']']
  | .array (v :: vs) =>
    '[' :: newLine (indent + 2) ++ writeAt (indent + 2) v ++ writeItems (indent + 2) vs ++
      newLine indent ++ [']']
  | .object [] => ['{', '}']
  | .object ((name, v) :: fields) =>
    '{' :: newLine (indent + 2) ++ writeString name ++ ':' :: ' ' :: writeAt (indent + 2) v ++
      writeFields (indent + 2) fields ++ newLine indent ++ ['}']

/-- The items behind the first. -/
def writeItems (indent : Nat) : List Json → List Char
  | [] => []
  | v :: vs => ',' :: newLine indent ++ writeAt indent v ++ writeItems indent vs

/-- The fields behind the first. -/
def writeFields (indent : Nat) : List (String × Json) → List Char
  | [] => []
  | (name, v) :: fields =>
    ',' :: newLine indent ++ writeString name ++ ':' :: ' ' :: writeAt indent v ++
      writeFields indent fields

end

def write (v : Json) : String := .ofList (writeAt 0 v)

/-! ### Texts with surrogates -/

/-- Why a value is not written: a surrogate, and how many stand right behind it. -/
structure EncodeFault where
  /-- By its place among the surrogates. -/
  first : Fin 0x800
  /-- Where it stands in the piece that is written at once: a text, with what
      separates it from the item in front of it. -/
  position : Nat
  followers : Nat
deriving DecidableEq, Repr

def EncodeFault.message (f : EncodeFault) : String :=
  let place :=
    if f.followers = 0 then
      "character '" ++ .ofList ((CodePoint.surrogate f.first).quoted '\'') ++ "' in position " ++
        toString f.position
    else
      "characters in position " ++ toString f.position ++ "-" ++ toString (f.position + f.followers)
  "'utf-8' codec can't encode " ++ place ++ ": surrogates not allowed"

/-- The characters that code points are, the first of which is written at a place. -/
def encodePoints (position : Nat) : List CodePoint → Except EncodeFault (List Char)
  | [] => .ok []
  | .char c :: ps => do return c :: (← encodePoints (position + (escapeChar c).length) ps)
  | .surrogate place :: ps =>
    .error ⟨place, position, (ps.takeWhile CodePoint.isSurrogate).length⟩

/-- The plain text that a text is.  Its opening quote is written at a place. -/
def encodeText (position : Nat) (t : RawText) : Except EncodeFault String := do
  return .ofList (← encodePoints (position + 1) t.points)

mutual

/-- The value of plain texts that a value is.  If it is a text, `position` is where
    its opening quote is written. -/
def encodeAt (indent position : Nat) : Json RawText → Except EncodeFault Json
  | .null => .ok .null
  | .bool b => .ok (.bool b)
  | .int n => .ok (.int n)
  | .number x => .ok (.number x)
  | .string s => do return .string (← encodeText position s)
  | .array items => do return .array (← encodeItems (indent + 2) items)
  | .object fields => do return .object (← encodeFields (indent + 2) fields)

/-- Items, each written at once with a bracket or a comma and the line break before it. -/
def encodeItems (indent : Nat) : List (Json RawText) → Except EncodeFault (List Json)
  | [] => .ok []
  | v :: vs => do
    let v ← encodeAt indent ((newLine indent).length + 1) v
    return v :: (← encodeItems indent vs)

def encodeFields (indent : Nat) :
    List (RawText × Json RawText) → Except EncodeFault (List (String × Json))
  | [] => .ok []
  | (name, v) :: fields => do
    let name ← encodeText 0 name
    let v ← encodeAt indent 0 v
    return (name, v) :: (← encodeFields indent fields)

end

def encode (v : Json RawText) : Except EncodeFault Json := encodeAt 0 0 v

end Transcripts.Json
