/-
  Transcripts/Text/Folding.lean
  =============================
  **The form in which texts are compared by search.**

  Folding forgets letter case and accents: the text is lowered, decomposed, and
  its combining diacritical marks are dropped, so `João` and `JOAO` both fold
  to `joao`.

  In canonical decomposition every composed character is replaced by its base and
  marks, then marks that follow each other are put into the order of their combining
  classes.  Texts that look the same are thereby spelled the same.  Hangul syllables
  are computed rather than listed: each is a lead, a vowel and perhaps a tail.
-/
import Transcripts.Text.CombiningClass
import Transcripts.Text.DecompositionTable
import Transcripts.Text.LetterCase

namespace Transcripts.Text

/-! ### Canonical decomposition -/

/-- `decompositions`, laid out for search. -/
def decompositionTree : CodeTree (List Nat) := .ofAscending decompositions

/-- The parts of a Hangul syllable, from its index among the 11172 syllables. -/
def hangulParts (index : Nat) : List Nat :=
  let lead := 0x1100 + index / 588
  let vowel := 0x1161 + index % 588 / 28
  if index % 28 = 0 then [lead, vowel] else [lead, vowel, 0x11A7 + index % 28]

/-- A character's base and marks; the character itself if it is not composed. -/
def decomposeChar (c : Char) : List Char :=
  let n := c.toNat
  if n < 0xC0 then [c]
  else if 0xAC00 ≤ n ∧ n ≤ 0xD7A3 then (hangulParts (n - 0xAC00)).map Char.ofNat
  else match decompositionTree.lookup n with
    | some ns => ns.map Char.ofNat
    | none => [c]

/-- Put a character in front of an ordered text.  It moves behind the marks of
    smaller class that follow it; one of class 0 stays in front. -/
def insertMark (c : Char) : List Char → List Char
  | [] => [c]
  | d :: ds =>
    if 0 < combiningClass d ∧ combiningClass d < combiningClass c then d :: insertMark c ds
    else c :: d :: ds

/-- Sort each run of marks by combining class, keeping the order within a class. -/
def orderMarks (cs : List Char) : List Char := cs.foldr insertMark []

def decompose (cs : List Char) : List Char := orderMarks (cs.flatMap decomposeChar)

/-! ### Folding -/

/-- Whether a character is one of the combining diacritical marks. -/
def isDiacritic (c : Char) : Bool := 0x300 ≤ c.toNat && c.toNat ≤ 0x36F

def fold (cs : List Char) : List Char := (decompose (lower cs)).filter (!isDiacritic ·)

/-- `fold` on stored text. -/
def folded (s : String) : String := .ofList (fold s.toList)

end Transcripts.Text
