/-
  Transcripts/Text/RawText.lean
  =============================
  **Code points, and texts with surrogates.**

  A character beyond the first 65536 code points is named in JSON by two units,
  its surrogates.  One of them without the other is a code point but no character:
  a text can hold it, compare it and show it by its number, but no encoding writes
  it.  A raw text is one in which such surrogates may stand.

  What collects and stores texts does the same with both kinds of texts, and is
  written once for both.
-/
import Transcripts.Text.Printable

namespace Transcripts.Text

inductive CodePoint where
  | char (c : Char)
  /-- A surrogate, by its place among them. -/
  | surrogate (place : Fin 0x800)
deriving DecidableEq, Repr

namespace CodePoint

def firstSurrogate : Nat := 0xD800

def value : CodePoint → Nat
  | .char c => c.toNat
  | .surrogate place => firstSurrogate + place.val

def isSurrogate : CodePoint → Bool
  | .char _ => false
  | .surrogate _ => true

/-- The character that stands where a character is needed: U+FFFD for a surrogate. -/
def shown : CodePoint → Char
  | .char c => c
  | .surrogate _ => '\ufffd'

/-- A code point of a text in quotes.  Surrogates are not printable. -/
def quoted (quote : Char) : CodePoint → List Char
  | .char c => quoteChar quote c
  | .surrogate place => '\\' :: 'u' :: hexDigits 4 (firstSurrogate + place.val)

end CodePoint

/-- A text in which surrogates may stand. -/
structure RawText where
  points : List CodePoint
deriving DecidableEq, Repr, Inhabited

namespace RawText

/-- Texts are in the order of their code points. -/
instance instLT : LT RawText where
  lt s t := s.points.map CodePoint.value < t.points.map CodePoint.value

instance instDecidableLT : DecidableLT RawText := fun s t =>
  inferInstanceAs (Decidable (s.points.map CodePoint.value < t.points.map CodePoint.value))

def quoted (t : RawText) : String :=
  let q := quoteFor (t.points.map CodePoint.shown)
  .ofList (q :: t.points.flatMap (CodePoint.quoted q) ++ [q])

end RawText

/-- A kind of texts: characters alone, or surrogates among them. -/
class Textual (τ : Type) where
  points : τ → List CodePoint
  /-- The text of some code points.  A kind without surrogates shows them instead. -/
  ofPoints : List CodePoint → τ
  /-- A text of characters alone as one of this kind. -/
  literal : String → τ
  shown : τ → String
  isEmpty : τ → Bool
  /-- The text in quotes, as messages show it. -/
  quoted : τ → String

namespace Textual

instance instString : Textual String where
  points s := s.toList.map .char
  ofPoints ps := .ofList (ps.map CodePoint.shown)
  literal s := s
  shown s := s
  isEmpty s := s.isEmpty
  quoted s := quote s

@[simp] theorem literal_string (s : String) : (literal s : String) = s := rfl

@[simp] theorem shown_string (s : String) : shown s = s := rfl

@[simp] theorem isEmpty_string (s : String) : isEmpty s = s.isEmpty := rfl

@[simp] theorem quoted_string (s : String) : quoted s = quote s := rfl

instance instRawText : Textual RawText where
  points t := t.points
  ofPoints ps := ⟨ps⟩
  literal s := ⟨s.toList.map .char⟩
  shown t := .ofList (t.points.map CodePoint.shown)
  isEmpty t := t.points.isEmpty
  quoted t := t.quoted

end Textual

end Transcripts.Text
