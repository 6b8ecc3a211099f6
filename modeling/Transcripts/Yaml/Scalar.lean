/-
  Transcripts/Yaml/Scalar.lean
  ============================
  **The values of scalars.**

  Each type reads its scalars by its own rules, which are wider than the forms
  that a plain scalar has them in, since a tag can name the type outright.
-/
import Transcripts.Numeral.Integer
import Transcripts.Text.LetterCase
import Transcripts.Yaml.NodeType
import Transcripts.Yaml.Value

namespace Transcripts.Yaml

open Transcripts.Json (hexValue?)
open Transcripts.Numeral
open Transcripts.Text

/-! ### Whole numbers -/

/-- The letter that may stand behind a zero before digits of a base. -/
def baseLetter? (base : Nat) : Option Char :=
  if base = 2 then some 'b' else if base = 8 then some 'o' else if base = 16 then some 'x' else none

def digitInBase? (base : Nat) (c : Char) : Option Nat :=
  ((digitValue? c).or (hexValue? c)).filter (· < base)

def dropBaseMark (base : Nat) : List Char → List Char
  | '0' :: c :: cs => if (baseLetter? base).any (· == c.toLower) then cs else '0' :: c :: cs
  | cs => cs

/-- Read a whole number in a base other than ten. -/
def readInBase (base : Nat) (cs : List Char) : Except ScalarFault Int :=
  let (negative, body) := splitSign (trimNumber cs)
  match (dropBaseMark base body).mapM (digitInBase? base) with
  | none | some [] => .error (.notInteger base (.ofList cs))
  | some ds =>
    let n := ds.foldl (fun n d => n * base + d) 0
    .ok (if negative then -(n : Int) else n)

def readDecimal (cs : List Char) : Except ScalarFault Int :=
  (readInteger cs).mapError fun
    | .malformed text => .notInteger 10 text
    | .tooManyDigits count => .tooManyDigits count

/-- A number without its low lines. -/
def dropLines (cs : List Char) : List Char := cs.filter (· ≠ '_')

/-- Split a sign off a number that must not be empty. -/
def splitNumberSign : List Char → Except ScalarFault (Bool × List Char)
  | [] => .error .noDigits
  | cs => .ok (splitSign cs)

/-- The whole number that a text stands for: decimal, binary behind `0b`,
    hexadecimal behind `0x`, octal behind any other zero, or counting sixties. -/
def intValue (text : String) : Except ScalarFault Int := do
  let (negative, body) ← splitNumberSign (dropLines text.toList)
  let magnitude ← match body with
    | [] => throw .noDigits
    | ['0'] => pure 0
    | '0' :: 'b' :: ds => readInBase 2 ds
    | '0' :: 'x' :: ds => readInBase 16 ds
    | '0' :: _ => readInBase 8 body
    | _ =>
      if body.contains ':' then
        let parts ← (splitOn ':' body).mapM readDecimal
        pure (parts.foldl (fun n d => n * 60 + d) 0)
      else readDecimal body
  return if negative then -magnitude else magnitude

/-! ### Real numbers -/

/-- The digits in front of a text, of any script, and the rest. -/
def spanAnyDigits (cs : List Char) : List Nat × List Char :=
  ((cs.takeWhile isDigit).filterMap digitValue?, cs.dropWhile isDigit)

def exponentToEnd? : List Char → Option Int
  | [] => some 0
  | c :: cs =>
    if c = 'e' then
      let (negative, body) := splitSign cs
      match spanAnyDigits body with
      | ([], _) => none
      | (ds, rest) =>
        if rest.isEmpty then some (if negative then -(ofDigits ds : Int) else ofDigits ds) else none
    else none

/-- Read a real number in lower case.  It may be written without digits before the
    point, or behind it, and without an exponent or a point. -/
def readReal (cs : List Char) : Except ScalarFault Binary64 :=
  let (negative, body) := splitSign (trim cs)
  let word := String.ofList body
  if word = "inf" ∨ word = "infinity" then .ok (.infinite negative)
  else if word = "nan" then .ok .nan
  else
    let (whole, rest) := spanAnyDigits body
    let (part, rest) := match rest with
      | '.' :: rest => spanAnyDigits rest
      | rest => ([], rest)
    match exponentToEnd? rest with
    | some exponent =>
      if whole.isEmpty ∧ part.isEmpty then .error (.notReal (.ofList cs))
      else .ok (.ofDecimal negative (ofDigits (whole ++ part)) (exponent - part.length))
    | none => .error (.notReal (.ofList cs))

/-- The sum of sixties, the last part counting once; added up from the end. -/
def sumOfSixties (parts : List Binary64) : Binary64 :=
  (parts.reverse.foldl (fun (sum, factor) x => (sum.add (x.mul (.ofInt factor)), factor * 60))
    (Binary64.zero false, (1 : Int))).1

def realValue (text : String) : Except ScalarFault Binary64 := do
  let (negative, body) ← splitNumberSign (lower (dropLines text.toList))
  let magnitude ←
    if body = ".inf".toList then pure (.infinite false)
    else if body = ".nan".toList then pure .nan
    else if body.contains ':' then pure (sumOfSixties (← (splitOn ':' body).mapM readReal))
    else readReal body
  return if negative then magnitude.negate else magnitude

/-! ### Truth values, timestamps and bytes -/

/-- The truth value that a text stands for, in any case. -/
def boolValue (text : String) : Except ScalarFault Bool :=
  let word := lowered text
  if ["yes", "true", "on"].contains word then .ok true
  else if ["no", "false", "off"].contains word then .ok false
  else .error (.notBool word)

def timestampValue (text : String) : Except ScalarFault Value :=
  match WrittenMoment.ofText? (dropFinalBreak text.toList) with
  | none => .error .notTimestamp
  | some m => match m.time with
    | none => (dateOf m.year m.month m.day).map .date
    | some time => (momentOf m.year m.month m.day time).map .moment

/-- The value of a digit in base 64. -/
def sixtyFourth? (c : Char) : Option Nat :=
  if 'A' ≤ c ∧ c ≤ 'Z' then some (c.toNat - 0x41)
  else if 'a' ≤ c ∧ c ≤ 'z' then some (c.toNat - 0x61 + 26)
  else if '0' ≤ c ∧ c ≤ '9' then some (c.toNat - 0x30 + 52)
  else if c = '+' then some 62
  else if c = '/' then some 63
  else none

/-- The digits in base 64 up to the padding that completes a group of four, with
    everything else skipped; nothing if a group stays incomplete. -/
def sixtyFourths? : (inGroup pads : Nat) → List Char → Option (List Nat)
  | inGroup, _, [] => if inGroup = 0 then some [] else none
  | inGroup, pads, c :: cs =>
    if c = '=' then
      if 2 ≤ inGroup then
        if 4 ≤ inGroup + (pads + 1) then some [] else sixtyFourths? inGroup (pads + 1) cs
      else sixtyFourths? inGroup pads cs
    else match sixtyFourth? c with
      | some n => (sixtyFourths? ((inGroup + 1) % 4) 0 cs).map (n :: ·)
      | none => sixtyFourths? inGroup pads cs

/-- The bytes of digits in base 64. -/
def bytesOfSixtyFourths : List Nat → List UInt8
  | a :: b :: c :: d :: ds =>
    .ofNat (a * 4 + b / 16) :: .ofNat (b % 16 * 16 + c / 4) :: .ofNat (c % 4 * 64 + d) ::
      bytesOfSixtyFourths ds
  | [a, b, c] => [.ofNat (a * 4 + b / 16), .ofNat (b % 16 * 16 + c / 4)]
  | [a, b] => [.ofNat (a * 4 + b / 16)]
  | _ => []

/-- The bytes that a text in base 64 stands for. -/
def binaryValue (text : String) : Except Fault (List UInt8) :=
  if text.toList.any (0x80 ≤ ·.toNat) then .error (.defect .badBinary)
  else match sixtyFourths? 0 0 text.toList with
    | some ds => .ok (bytesOfSixtyFourths ds)
    | none => .error (.defect .badBinary)

/-! ### All types -/

def scalarValue (type : NodeType) (text : String) : Except Fault Value :=
  match type with
  | .null => .ok .null
  | .bool => ((boolValue text).mapError .scalar).map .bool
  | .int => ((intValue text).mapError .scalar).map .int
  | .real => ((realValue text).mapError .scalar).map .real
  | .text => .ok (.text text)
  | .binary => (binaryValue text).map .bytes
  | .timestamp => (timestampValue text).mapError .scalar
  | .list | .orderedMap | .pairs | .map | .set => .error (.defect .wrongKind)
  | .merge | .standIn | .unknown => .error (.defect .unknownTag)

end Transcripts.Yaml
