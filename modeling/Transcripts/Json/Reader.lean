/-
  Transcripts/Json/Reader.lean
  ============================
  **Reading JSON, and saying where it is broken.**

  The reader takes standard JSON and the names `NaN`, `Infinity` and
  `-Infinity` for the numbers that JSON cannot write.  When a name occurs twice
  in an object, the later value stands at the place of the first.  A surrogate
  that is named without its other half is kept as a code point of the text, if
  texts of the kind that is asked for can hold one.  A fault is reported with the
  place where reading stopped, as line, column and offset.

  Inside the reader a place is the number of characters that remain; it becomes
  an offset once, when reading ends.
-/
import Transcripts.Collection.Basic
import Transcripts.Json.Value
import Transcripts.Numeral.Integer
import Transcripts.Text.RawText
import Transcripts.Text.Split

namespace Transcripts.Json

open Transcripts.Numeral
open Transcripts.Text

/-- What is wrong with a text that is not JSON. -/
inductive Defect where
  | expectedValue
  | expectedName
  | expectedColon
  | expectedComma
  | unterminatedString
  | controlCharacter
  | badEscape
  | badCodeEscape
  | extraData
  | byteOrderMark
deriving DecidableEq, Repr

def Defect.message : Defect → String
  | .expectedValue => "Expecting value"
  | .expectedName => "Expecting property name enclosed in double quotes"
  | .expectedColon => "Expecting ':' delimiter"
  | .expectedComma => "Expecting ',' delimiter"
  | .unterminatedString => "Unterminated string starting at"
  | .controlCharacter => "Invalid control character at"
  | .badEscape => "Invalid \\escape"
  | .badCodeEscape => "Invalid \\uXXXX escape"
  | .extraData => "Extra data"
  | .byteOrderMark => "Unexpected UTF-8 BOM (decode using utf-8-sig)"

inductive Container where
  | array
  | object
deriving DecidableEq, Repr

def Container.name : Container → String
  | .array => "array"
  | .object => "object"

/-- Why a text is not read.  Numbers that are too long and nesting that is too
    deep are limits of the reader; the text may be JSON all the same. -/
inductive Fault where
  | malformed (defect : Defect) (line column offset : Nat)
  | integer (fault : IntegerFault)
  /-- The nesting is at its limit where another container begins. -/
  | tooDeep (container : Container)
deriving DecidableEq, Repr

def Fault.message : Fault → String
  | .malformed defect line column offset =>
    defect.message ++ ": line " ++ toString line ++ " column " ++ toString column ++ " (char " ++
      toString offset ++ ")"
  | .integer fault => fault.message
  | .tooDeep container =>
    "maximum recursion depth exceeded while decoding a JSON " ++ container.name ++
      " from a unicode string"

/-- Where and why reading stopped, the place as the number of characters left. -/
inductive Halt where
  | at (defect : Defect) (remaining : Nat)
  | integer (fault : IntegerFault)
  /-- The nesting is at its limit where another container begins. -/
  | tooDeep (container : Container)
deriving DecidableEq, Repr

/-- Whether a character may stand between the parts of a value. -/
def isSpace (c : Char) : Bool := c = ' ' || c = '\t' || c = '\n' || c = '\r'

def skipSpace (cs : List Char) : List Char := cs.dropWhile isSpace

/-! ### Texts -/

def hexValue? (c : Char) : Option Nat :=
  if '0' ≤ c ∧ c ≤ '9' then some (c.toNat - 0x30)
  else if 'a' ≤ c ∧ c ≤ 'f' then some (c.toNat - 0x57)
  else if 'A' ≤ c ∧ c ≤ 'F' then some (c.toNat - 0x37)
  else none

/-- The number that hexadecimal digits write, if all of them are. -/
def hexNumber? (ds : List Char) : Option Nat :=
  (ds.mapM hexValue?).map fun vs => vs.foldl (fun n v => n * 16 + v) 0

/-- The code unit that four hexadecimal digits write, if more text follows them. -/
def codeUnit? (cs : List Char) : Option (Nat × List Char) :=
  if cs.length ≤ 4 then none else (hexNumber? (cs.take 4)).map (·, cs.drop 4)

/-- The character after a backslash, for the escapes of one letter. -/
def simpleEscape? : Char → Option Char
  | '"' => some '"'
  | '\\' => some '\\'
  | '/' => some '/'
  | 'b' => some '\x08'
  | 'f' => some '\x0c'
  | 'n' => some '\n'
  | 'r' => some '\r'
  | 't' => some '\t'
  | _ => none

/-- The second unit of a character that takes two.  The text must be long enough
    for it; then a unit that is not written well is a defect, and one that
    completes nothing is left to be read by itself. -/
def lowUnit? (cs : List Char) : Except Halt (Option (Nat × List Char)) :=
  match cs with
  | '\\' :: 'u' :: rest =>
    if cs.length ≤ 6 then .ok none
    else match codeUnit? rest with
      | none => .error (.at .badCodeEscape (rest.length + 1))
      | some (low, rest) => .ok (if 0xDC00 ≤ low ∧ low < 0xE000 then some (low, rest) else none)
  | _ => .ok none

/-- The code point that a unit stands for by itself. -/
def unitPoint (unit : Nat) : CodePoint :=
  if 0xD800 ≤ unit ∧ unit < 0xE000 then .surrogate (.ofNat 0x800 (unit - 0xD800))
  else .char (.ofNat unit)

/-- The code point of an escape by code, from behind its `u`. -/
def readCodeEscape (cs : List Char) : Except Halt (CodePoint × List Char) :=
  match codeUnit? cs with
  | none => .error (.at .badCodeEscape (cs.length + 1))
  | some (unit, rest) =>
    if 0xD800 ≤ unit ∧ unit < 0xDC00 then do
      match ← lowUnit? rest with
      | some (low, rest) =>
        return (.char (.ofNat (0x10000 + (unit - 0xD800) * 0x400 + (low - 0xDC00))), rest)
      | none => return (unitPoint unit, rest)
    else .ok (unitPoint unit, rest)

/-- The code point of an escape, from behind its backslash.  `start` is the place
    of the quote that opened the text. -/
def readEscape (start : Nat) : List Char → Except Halt (CodePoint × List Char)
  | [] => .error (.at .unterminatedString start)
  | c :: cs =>
    if c = 'u' then readCodeEscape cs
    else match simpleEscape? c with
      | some d => .ok (.char d, cs)
      | none => .error (.at .badEscape (cs.length + 2))

theorem codeUnit?_rest_length {cs rest : List Char} {unit : Nat}
    (h : codeUnit? cs = some (unit, rest)) : rest.length < cs.length := by
  unfold codeUnit? at h
  split at h
  · simp at h
  · simp only [Option.map_eq_some_iff, Prod.mk.injEq] at h
    obtain ⟨_, _, _, rfl⟩ := h
    simp only [List.length_drop]
    omega

theorem lowUnit?_rest_length {cs rest : List Char} {low : Nat}
    (h : lowUnit? cs = .ok (some (low, rest))) : rest.length < cs.length := by
  unfold lowUnit? at h
  split at h
  · next tail =>
    split at h
    · simp at h
    · split at h
      · simp at h
      · next low' rest' hunit =>
        have hlt := codeUnit?_rest_length hunit
        simp only [Except.ok.injEq] at h
        split at h
        · simp only [Option.some.injEq, Prod.mk.injEq] at h
          rw [← h.2]
          simp only [List.length_cons]
          omega
        · simp at h
  · simp at h

theorem readCodeEscape_rest_length {cs rest : List Char} {p : CodePoint}
    (h : readCodeEscape cs = .ok (p, rest)) : rest.length < cs.length := by
  unfold readCodeEscape at h
  split at h
  · simp at h
  · next unit rest' hunit =>
    have hlt := codeUnit?_rest_length hunit
    split at h
    · cases hlow : lowUnit? rest' with
      | error e => simp [hlow, bind, Except.bind] at h
      | ok found =>
        cases found with
        | none =>
          simp only [hlow, bind, Except.bind, pure, Except.pure, Except.ok.injEq, Prod.mk.injEq] at h
          rw [← h.2]; exact hlt
        | some pair =>
          obtain ⟨low, rest''⟩ := pair
          have hlt' := lowUnit?_rest_length hlow
          simp only [hlow, bind, Except.bind, pure, Except.pure, Except.ok.injEq, Prod.mk.injEq] at h
          rw [← h.2]; omega
    · simp only [Except.ok.injEq, Prod.mk.injEq] at h
      rw [← h.2]; exact hlt

/-- An escape takes at least one character. -/
theorem readEscape_rest_length {start : Nat} {cs rest : List Char} {p : CodePoint}
    (h : readEscape start cs = .ok (p, rest)) : rest.length < cs.length := by
  cases cs with
  | nil => simp [readEscape] at h
  | cons d cs =>
    simp only [readEscape] at h
    split at h
    · have := readCodeEscape_rest_length h
      simp only [List.length_cons]
      omega
    · split at h
      · simp only [Except.ok.injEq, Prod.mk.injEq] at h
        rw [← h.2]
        simp
      · simp at h

/-- The code points of a text, from behind its opening quote to its closing one. -/
def readPoints (start : Nat) : List Char → Except Halt (List CodePoint × List Char)
  | [] => .error (.at .unterminatedString start)
  | c :: cs =>
    if c = '"' then .ok ([], cs)
    else if c = '\\' then
      match h : readEscape start cs with
      | .error halt => .error halt
      | .ok (p, rest) =>
        have : rest.length < cs.length := readEscape_rest_length h
        do
          let (ps, rest) ← readPoints start rest
          return (p :: ps, rest)
    else if c.toNat < 0x20 then .error (.at .controlCharacter (cs.length + 1))
    else do
      let (ps, rest) ← readPoints start cs
      return (.char c :: ps, rest)
termination_by cs => cs.length
decreasing_by all_goals simp only [List.length_cons]; omega

variable {τ : Type}

/-- A text, from behind its opening quote. -/
def readString [Textual τ] (cs : List Char) : Except Halt (τ × List Char) := do
  let (ps, rest) ← readPoints (cs.length + 1) cs
  return (Textual.ofPoints ps, rest)

/-! ### Numbers -/

def isDigitChar (c : Char) : Bool := '0' ≤ c && c ≤ '9'

/-- The digits in front of a text, and the rest. -/
def spanDigits (cs : List Char) : List Char × List Char :=
  (cs.takeWhile isDigitChar, cs.dropWhile isDigitChar)

def digitsValue (ds : List Char) : Nat := ofDigits (ds.map fun c => c.toNat - 0x30)

/-- The whole part of a number: a zero, or digits that do not begin with one. -/
def wholePart? : List Char → Option (List Char × List Char)
  | '0' :: cs => some (['0'], cs)
  | cs => match spanDigits cs with
    | ([], _) => none
    | found => some found

/-- The digits behind a decimal point, which must be there if there is a point. -/
def fractionPart? : List Char → Option (List Char × List Char)
  | '.' :: cs => match spanDigits cs with
    | ([], _) => none
    | found => some found
  | _ => none

def exponentPart? : List Char → Option (Int × List Char)
  | c :: cs =>
    if c = 'e' ∨ c = 'E' then
      let (negative, body) := splitSign cs
      match spanDigits body with
      | ([], _) => none
      | (ds, rest) => some (if negative then -(digitsValue ds : Int) else digitsValue ds, rest)
    else none
  | [] => none

/-- A number with or without a sign; nothing if no digit stands there. -/
def readNumber (negative : Bool) (cs : List Char) :
    Option (Except Halt (Json τ) × List Char) := do
  let (whole, rest) ← wholePart? cs
  let fraction := fractionPart? rest
  let rest := (fraction.map (·.2)).getD rest
  let exponent := exponentPart? rest
  let rest := (exponent.map (·.2)).getD rest
  let value : Except Halt (Json τ) :=
    if fraction.isNone ∧ exponent.isNone then
      if maxDigits < whole.length then .error (.integer (.tooManyDigits whole.length))
      else .ok (.int (if negative then -(digitsValue whole : Int) else digitsValue whole))
    else
      let part := (fraction.map (·.1)).getD []
      let power := (exponent.map (·.1)).getD 0 - part.length
      .ok (.number (.ofDecimal negative (digitsValue (whole ++ part)) power))
  return (value, rest)

/-! ### Values -/

/-- The names of values, with what they stand for. -/
def namedValues : List (List Char × Json τ) :=
  [(['n', 'u', 'l', 'l'], .null), (['t', 'r', 'u', 'e'], .bool true),
   (['f', 'a', 'l', 's', 'e'], .bool false), (['N', 'a', 'N'], .number .nan),
   (['I', 'n', 'f', 'i', 'n', 'i', 't', 'y'], .number (.infinite false)),
   (['-', 'I', 'n', 'f', 'i', 'n', 'i', 't', 'y'], .number (.infinite true))]

def readScalar (cs : List Char) : Except Halt (Json τ × List Char) :=
  match namedValues.find? fun (name, _) => begins name cs with
  | some (name, v) => .ok (v, cs.drop name.length)
  | none =>
    let number := match cs with
      | '-' :: rest => readNumber true rest
      | _ => readNumber false cs
    match number with
    | some (value, rest) => value.map (·, rest)
    | none => .error (.at .expectedValue cs.length)

/-- Items separated by commas, from behind the opening bracket or a comma and the
    space after it.  Every item takes a character, so `limit` need not exceed
    the length of the text. -/
def readItems (one : List Char → Except Halt (Json τ × List Char)) :
    (limit : Nat) → List Char → Except Halt (List (Json τ) × List Char)
  | 0, cs => .error (.at .expectedValue cs.length)
  | limit + 1, cs => do
    let (v, rest) ← one cs
    match skipSpace rest with
    | ']' :: rest => return ([v], rest)
    | ',' :: rest =>
      let (vs, rest) ← readItems one limit (skipSpace rest)
      return (v :: vs, rest)
    | rest => throw (.at .expectedComma rest.length)

/-- A name, a colon and a value. -/
def readField [Textual τ] (one : List Char → Except Halt (Json τ × List Char)) :
    List Char → Except Halt ((τ × Json τ) × List Char)
  | '"' :: cs => do
    let (name, rest) ← readString cs
    match skipSpace rest with
    | ':' :: rest =>
      let (v, rest) ← one (skipSpace rest)
      return ((name, v), rest)
    | rest => throw (.at .expectedColon rest.length)
  | cs => .error (.at .expectedName cs.length)

/-- Fields separated by commas, from behind the opening brace or a comma and the
    space after it. -/
def readFields [Textual τ] (one : List Char → Except Halt (Json τ × List Char)) :
    (limit : Nat) → List Char → Except Halt (List (τ × Json τ) × List Char)
  | 0, cs => .error (.at .expectedName cs.length)
  | limit + 1, cs => do
    let (field, rest) ← readField one cs
    match skipSpace rest with
    | '}' :: rest => return ([field], rest)
    | ',' :: rest =>
      let (fields, rest) ← readFields one limit (skipSpace rest)
      return (field :: fields, rest)
    | rest => throw (.at .expectedComma rest.length)

/-- The greatest depth to which arrays and objects may be nested. -/
def maxNesting : Nat := 990

/-- A value whose containers are nested no deeper than `depth`. -/
def readValue [DecidableEq τ] [Textual τ] :
    (depth : Nat) → List Char → Except Halt (Json τ × List Char)
  | _, '"' :: cs => do
    let (s, rest) ← readString cs
    return (.string s, rest)
  | 0, '[' :: _ => .error (.tooDeep .array)
  | 0, '{' :: _ => .error (.tooDeep .object)
  | depth + 1, '[' :: cs =>
    match skipSpace cs with
    | ']' :: rest => .ok (.array [], rest)
    | cs => do
      let (items, rest) ← readItems (readValue depth) (cs.length + 1) cs
      return (.array items, rest)
  | depth + 1, '{' :: cs =>
    match skipSpace cs with
    | '}' :: rest => .ok (.object [], rest)
    | cs => do
      let (fields, rest) ← readFields (readValue depth) (cs.length + 1) cs
      return (.object (Keyed.ofPairs fields), rest)
  | _, cs => readScalar cs

/-- The line and the column, both from 1, of an offset in a text. -/
def lineAndColumn (cs : List Char) (offset : Nat) : Nat × Nat :=
  let before := cs.take offset
  ((before.filter (· = '\n')).length + 1, (before.reverse.takeWhile (· ≠ '\n')).length + 1)

/-- A halt as a fault of the whole text. -/
def Halt.toFault (cs : List Char) : Halt → Fault
  | .at defect remaining =>
    let offset := cs.length - remaining
    let (line, column) := lineAndColumn cs offset
    .malformed defect line column offset
  | .integer fault => .integer fault
  | .tooDeep container => .tooDeep container

/-- The one value of a text, with nothing but space around it. -/
def readDocument [DecidableEq τ] [Textual τ] (cs : List Char) : Except Halt (Json τ) := do
  if cs.head? = some '\ufeff' then throw (.at .byteOrderMark cs.length)
  let (v, rest) ← readValue maxNesting (skipSpace cs)
  match skipSpace rest with
  | [] => return v
  | rest => throw (.at .extraData rest.length)

def read [DecidableEq τ] [Textual τ] (cs : List Char) : Except Fault (Json τ) :=
  (readDocument cs).mapError (Halt.toFault cs)

end Transcripts.Json
