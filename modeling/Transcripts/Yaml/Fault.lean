/-
  Transcripts/Yaml/Fault.lean
  ===========================
  **Why a YAML text is not read.**

  Most faults are defects of the text: it is not YAML, or it asks for a type or
  an anchor that is not there.  A scalar can also be well written and still name
  no value of its type, such as the thirtieth of February; these faults say
  what was written.
-/
import Transcripts.Calendar.Date
import Transcripts.Numeral.Integer
import Transcripts.Text.Utf8

namespace Transcripts.Yaml

open Transcripts.Calendar
open Transcripts.Numeral
open Transcripts.Text

/-- Why a text is not YAML, or not YAML that can be understood without knowing
    what application it was written for. -/
inductive Defect where
  /-- A character that no text may hold. -/
  | unprintable
  /-- A character that begins no token. -/
  | noToken
  /-- A block indicator where no block may begin. -/
  | misplacedIndicator
  /-- A text that had to be a key, without the colon after it. -/
  | missingColon
  | badDirective
  | badName
  | badTag
  | badEscape
  | unclosedQuote
  | badBlockHeader
  /-- A token that the grammar does not allow where it stands. -/
  | unexpectedToken
  | unknownHandle
  | unknownAlias
  | repeatedAnchor
  | secondDocument
  /-- A tag that names no type. -/
  | unknownTag
  /-- A tag on a node of another kind than its type takes. -/
  | wrongKind
  /-- A key that can be changed, such as a list. -/
  | unstableKey
  | badMerge
  | badBinary
deriving DecidableEq, Repr

/-- Why a scalar names no value of its type. -/
inductive ScalarFault where
  /-- Text that is no whole number to a base. -/
  | notInteger (base : Nat) (text : String)
  | tooManyDigits (count : Nat)
  | noDigits
  | notReal (text : String)
  | notBool (text : String)
  | notTimestamp
  | year (n : Nat)
  | month
  | day
  | hour
  | minute
  | second
  /-- A distance from universal time, in minutes, of a day or more. -/
  | offset (minutes : Int)
deriving DecidableEq, Repr

/-- A span of time of some minutes, as it is shown: whole days, and the rest in
    seconds.  The seconds are never negative. -/
def shownSpan (minutes : Int) : String :=
  let days := Int.fdiv minutes 1440
  let seconds := Int.fmod minutes 1440 * 60
  let parts :=
    (if days = 0 then [] else ["days=" ++ toString days]) ++
    (if seconds = 0 then [] else ["seconds=" ++ toString seconds])
  "datetime.timedelta(" ++ (if parts.isEmpty then "0" else ", ".intercalate parts) ++ ")"

def ScalarFault.message : ScalarFault → String
  | .notInteger base text =>
    "invalid literal for int() with base " ++ toString base ++ ": " ++ quote text
  | .tooManyDigits count => (IntegerFault.tooManyDigits count).message
  | .noDigits => "string index out of range"
  | .notReal text => "could not convert string to float: " ++ quote text
  | .notBool text => quote text
  | .notTimestamp => "'NoneType' object has no attribute 'groupdict'"
  | .year n => "year " ++ toString n ++ " is out of range"
  | .month => "month must be in 1..12"
  | .day => "day is out of range for month"
  | .hour => "hour must be in 0..23"
  | .minute => "minute must be in 0..59"
  | .second => "second must be in 0..59"
  | .offset minutes =>
    "offset must be a timedelta strictly between -timedelta(hours=24) and timedelta(hours=24), not " ++
      shownSpan minutes ++ "."

/-- Why a text is not read. -/
inductive Fault where
  | defect (defect : Defect)
  /-- An escape by a code beyond the last code point; `beyondWord` if it does not
      even fit a word of 32 bits. -/
  | noCharacter (beyondWord : Bool)
  | scalar (fault : ScalarFault)
  /-- Collections nested more deeply than the reader follows. -/
  | tooDeep
deriving DecidableEq, Repr

/-- The wording of a fault that is not a defect of the text. -/
def Fault.message : Fault → String
  | .defect _ => "invalid YAML"
  | .noCharacter beyondWord =>
    if beyondWord then "Python int too large to convert to C int"
    else "chr() arg not in range(0x110000)"
  | .scalar fault => fault.message
  | .tooDeep => "maximum recursion depth exceeded"

/-- Why the value of a file is not read. -/
inductive FileFault where
  | notUtf8 (fault : Utf8.Fault)
  | content (fault : Fault)
deriving DecidableEq, Repr

def FileFault.message : FileFault → String
  | .notUtf8 fault => fault.message
  | .content fault => fault.message

end Transcripts.Yaml
