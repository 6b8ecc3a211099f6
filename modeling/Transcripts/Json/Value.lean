/-
  Transcripts/Json/Value.lean
  ===========================
  **JSON values, and how they are shown as text.**

  Projects are stored as JSON, and files written elsewhere may hold any value
  where a text is expected.  Such a value is taken over as the text that shows
  it: a text as itself, everything inside a list or an object with quotes.
-/
import Transcripts.Numeral.Shortest
import Transcripts.Text.RawText
import Transcripts.Text.Split

namespace Transcripts

open Transcripts.Numeral
open Transcripts.Text

/-- A JSON value.  Whole numbers are kept apart from the others, and the fields
    of an object in the order in which their names first occur. -/
inductive Json (τ : Type := String) where
  | null
  | bool (b : Bool)
  | int (n : Int)
  | number (x : Binary64)
  | string (s : τ)
  | array (items : List (Json τ))
  | object (fields : List (τ × Json τ))
deriving Repr, Inhabited

namespace Json

variable {τ : Type} [Textual τ]

/-- Whether a value counts as given: not null, false, zero or empty. -/
def isGiven : Json τ → Bool
  | .null => false
  | .bool b => b
  | .int n => n ≠ 0
  | .number x => !x.isZero
  | .string s => !Textual.isEmpty s
  | .array items => !items.isEmpty
  | .object fields => !fields.isEmpty

mutual

def shown : Json τ → String
  | .null => "None"
  | .bool b => if b then "True" else "False"
  | .int n => toString n
  | .number x => x.text standardStyle
  | .string s => Textual.quoted s
  | .array items => "[" ++ joinWith ", " (shownItems items) ++ "]"
  | .object fields => "\x7b" ++ joinWith ", " (shownFields fields) ++ "\x7d"

def shownItems : List (Json τ) → List String
  | [] => []
  | v :: vs => shown v :: shownItems vs

def shownFields : List (τ × Json τ) → List String
  | [] => []
  | (name, v) :: fields => (Textual.quoted name ++ ": " ++ shown v) :: shownFields fields

end

def text : Json τ → τ
  | .string s => s
  | v => Textual.literal (shown v)

end Json

end Transcripts
