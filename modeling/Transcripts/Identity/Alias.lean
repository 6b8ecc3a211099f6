/-
  Transcripts/Identity/Alias.lean
  ===============================
  **Many spellings, one person.**

  A person or a line appears in transcripts under many spellings.  The alias
  map sends each spelling to the identity it is shown as.  It is kept flat: an
  identity that spellings are sent to is not itself a spelling of another, so
  looking up once is enough.

  An alias file is a JSON object of spellings and identities, either bare or as
  the field `aliases` of another object.
-/
import Transcripts.Collection.Basic
import Transcripts.Json.Reader
import Transcripts.Text.CharClass
import Transcripts.Text.RawText
import Transcripts.Text.Split
import Transcripts.Text.Utf8

namespace Transcripts.Identity

open Transcripts.Text

/-- Whether an identity looks like a telephone number: it has only digits,
    blanks and `- + ( ) .`. -/
def isNumeric (identity : String) : Bool :=
  !identity.isEmpty && identity.toList.all fun c =>
    isDigit c || isBlank c || c = '-' || c = '+' || c = '(' || c = ')' || c = '.'

/-- Spellings with the identity each is shown as, in the order they were added. -/
abbrev AliasMap (τ : Type := String) : Type := Keyed τ τ

namespace AliasMap

inductive MergeFault where
  | blankDisplay
  | nothingSelected
deriving DecidableEq, Repr

def MergeFault.message : MergeFault → String
  | .blankDisplay => "Display name must not be empty"
  | .nothingSelected => "No identities selected to merge"

section Flat

variable {τ : Type} [DecidableEq τ]

/-- Where the chain of spellings that passes through `at` ends, or nothing if it
    comes back to an identity already seen.  A chain sees each key at most once,
    so `steps` need not exceed the number of keys. -/
def chainEnd? (pairs : Keyed τ τ) : (steps : Nat) → (seen : List τ) → τ → Option τ
  | 0, _, _ => none
  | steps + 1, seen, place =>
    if seen.contains place then none
    else match pairs.get? place with
      | some next => chainEnd? pairs steps (place :: seen) next
      | none => some place

/-- Flatten chains: every key is sent to the end of its chain.  Keys whose chain
    runs in a circle are dropped, which leaves them standing for themselves. -/
def flatten (pairs : Keyed τ τ) : AliasMap τ :=
  pairs.filterMap fun (key, value) =>
    (chainEnd? pairs (pairs.length + 1) [key] value).map (key, ·)

end Flat

/-- The identity that a spelling is shown as; nothing for an empty one. -/
def resolve (aliases : AliasMap) (raw : Option String) : Option String :=
  match raw with
  | none => none
  | some raw => if raw.isEmpty then none else some ((aliases.get? raw).getD raw)

/-- The map where spellings are shown as an identity.  What was shown as one of them
    follows, and the identity stops being a spelling of another. -/
def unify (aliases : AliasMap) (raws : List String) (display : String) : AliasMap :=
  let kept := (aliases.erase display).map fun (key, value) =>
    (key, if raws.contains value then display else value)
  Keyed.putAll kept ((raws.filter (· ≠ display)).map (·, display))

/-- Show several spellings as one identity. -/
def merge (aliases : AliasMap) (raws : List String) (display : String) :
    Except MergeFault AliasMap :=
  let display := trimmed display
  let raws := firstOccurrences (raws.filter (!·.isEmpty))
  if display.isEmpty then .error .blankDisplay
  else if raws.isEmpty then .error .nothingSelected
  else .ok (aliases.unify raws display)

/-- The pairs without an empty side. -/
def significant {τ : Type} [Textual τ] (pairs : Keyed τ τ) : Keyed τ τ :=
  pairs.filter fun (key, value) => !Textual.isEmpty key && !Textual.isEmpty value

/-- Lay other pairs over the map; they win over pairs with the same key. -/
def update {τ : Type} [DecidableEq τ] [Textual τ] (aliases : AliasMap τ) (pairs : Keyed τ τ) :
    AliasMap τ :=
  flatten (aliases.putAll (significant pairs))

def replace (pairs : Keyed String String) : AliasMap := flatten (significant pairs)

/-! ### Alias maps from files -/

/-- Why a file is not an alias map. -/
inductive FileFault where
  | notUtf8 (fault : Utf8.Fault)
  | notJson (fault : Json.Fault)
  | notMapping
deriving DecidableEq, Repr

def FileFault.message (path : String) : FileFault → String
  | .notUtf8 fault => fault.message
  | .notJson fault => fault.message
  | .notMapping => "Alias file " ++ path ++ " must contain a mapping"

def ofJson : Json → Except FileFault AliasMap
  | .object fields =>
    let pairs := match Keyed.get? fields "aliases" with
      | some (.object inner) => inner
      | _ => fields
    .ok (flatten (pairs.map fun (raw, shown) => (raw, shown.text)))
  | _ => .error .notMapping

def ofBytes (bytes : List UInt8) : Except FileFault AliasMap := do
  let cs ← (Utf8.decode bytes).mapError .notUtf8
  let v : Json ← (Json.read (unifyLineEnds cs)).mapError .notJson
  ofJson v

end AliasMap

end Transcripts.Identity
