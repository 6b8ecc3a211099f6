/-
  Transcripts/Query/Match.lean
  ============================
  **When a term is found in a content.**

  Both sides are folded first.  A phrase must occur as it is.  A word may also
  be misspelled: if it is longer than three characters and has no blank in it,
  a word of the content within one edit (two, for terms longer than five) is
  found too.

  An edit inserts, deletes or replaces one character.  The least number of edits
  is computed row by row: row `j` holds, for every beginning of the first text,
  its distance to the first `j` characters of the second.
-/
import Transcripts.Text.CharClass
import Transcripts.Text.Folding
import Transcripts.Text.Split
import Transcripts.Text.WordChar

namespace Transcripts.Query

open Transcripts.Text

/-! ### Edits -/

section Edits

variable {α : Type} [BEq α]

/-- The row after one more character `b` of the second text, from left to right:
    `left` is the entry just made and `above` the one over it; `row` is the rest
    of the row before. -/
def extendRow (b : α) (left above : Nat) : List α → (row : List Nat) → List Nat
  | a :: as, upper :: row =>
    let entry := min (min (left + 1) (upper + 1)) (above + if a == b then 0 else 1)
    entry :: extendRow b entry upper as row
  | _, _ => []

/-- The whole row after one more character of the second text. -/
def nextRow (as : List α) (b : α) : List Nat → List Nat
  | [] => []
  | above :: row => (above + 1) :: extendRow b (above + 1) above as row

/-- The distances of the beginnings of the first text to nothing. -/
def firstRow (as : List α) : List Nat := List.range (as.length + 1)

/-- The least number of insertions, deletions and replacements that turn the
    first text into the second. -/
def editDistance (as bs : List α) : Nat :=
  (bs.foldl (fun row b => nextRow as b row) (firstRow as)).getLastD 0

end Edits

/-! ### Terms -/

/-- Terms of at most this length are found only as they are. -/
def exactLength : Nat := 3

/-- Terms of at most this length tolerate one edit, longer ones two. -/
def shortLength : Nat := 5

/-- The number of edits that a term tolerates. -/
def tolerance (term : List Char) : Nat := if term.length ≤ shortLength then 1 else 2

/-- Whether two words are so alike that one may be a misspelling of the other.
    Words whose lengths differ by more are told apart without counting edits. -/
def isNear (edits : Nat) (word term : List Char) : Bool :=
  word.length ≤ term.length + edits && term.length ≤ word.length + edits &&
    editDistance word term ≤ edits

def wordsOf (content : List Char) : List (List Char) := pieces (!isWordChar ·) content

def hasTerm (content term : List Char) : Bool :=
  occursIn term content ||
    (exactLength < term.length && !term.any isBlank &&
      (wordsOf content).any fun word => isNear (tolerance term) word term)

def matchesTerm (content : List Char) (term : String) : Bool := hasTerm content (fold term.toList)

def matchesPhrase (content : List Char) (phrase : String) : Bool :=
  occursIn (fold phrase.toList) content

end Transcripts.Query
