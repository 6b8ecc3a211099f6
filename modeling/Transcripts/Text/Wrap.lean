/-
  Transcripts/Text/Wrap.lean
  ==========================
  **Filling lines with text.**

  Words are put on a line as long as they fit.  A word may be divided behind a
  hyphen between letters, and a piece that is longer than a whole line is cut.
-/
import Transcripts.Text.CharClass
import Transcripts.Text.Split

namespace Transcripts.Text

/-- Whether a text goes on, behind a hyphen, with two letters, which another hyphen
    may divide. -/
def goesOnWithLetters : List Char → Bool
  | a :: '-' :: b :: _ => a.isAlpha && b.isAlpha
  | a :: b :: _ => a.isAlpha && b.isAlpha
  | _ => false

/-- Whether two letters end a text that is given backwards, or a letter, a hyphen
    and another character that is part of a word. -/
def endsWithLetters : List Char → Bool
  | c :: '-' :: a :: _ => a.isAlpha && (c.isAlphanum || "_!\"'&.,?".toList.contains c)
  | b :: a :: _ => a.isAlpha && b.isAlpha
  | _ => false

/-- Divide a word behind its hyphens.  `before` is what stands before, and `piece`
    the piece that is begun, both backwards. -/
def dividedWord (before piece : List Char) : List Char → List (List Char)
  | [] => if piece.isEmpty then [] else [piece.reverse]
  | c :: cs =>
    if c = '-' ∧ !piece.isEmpty ∧ endsWithLetters before ∧ goesOnWithLetters cs then
      (c :: piece).reverse :: dividedWord (c :: before) [] cs
    else dividedWord (c :: before) (c :: piece) cs

def wordPieces : List (List Char) → List (List Char)
  | [] => []
  | [word] => dividedWord [] [] word
  | word :: words => dividedWord [] [] word ++ [' '] :: wordPieces words

def wordsOf (text : String) : List (List Char) := pieces isBlank text.toList

/-- The pieces that fit on a line, the room they take, and the other pieces. -/
def takeFitting (width : Nat) : (used : Nat) → List (List Char) → List (List Char) × Nat × List (List Char)
  | used, [] => ([], used, [])
  | used, p :: ps =>
    if used + p.length ≤ width then
      let (line, used, rest) := takeFitting width (used + p.length) ps
      (p :: line, used, rest)
    else ([], used, p :: ps)

/-- Cut a piece that is longer than a line where the room ends, or behind the last
    hyphen before that. -/
def cutPiece (room : Nat) (p : List Char) : List Char × List Char :=
  let front := p.take room
  let toHyphen := (front.reverse.dropWhile (· ≠ '-')).reverse
  let size := if (toHyphen.dropLast.any (· ≠ '-')) then toHyphen.length else room
  (p.take size, p.drop size)

/-- Fill lines with pieces.  No line begins or ends with a space.  Every line takes
    a piece or a character, so `limit` need not exceed their number. -/
def fillLines (width : Nat) : (limit : Nat) → List (List Char) → List (List Char)
  | 0, _ => []
  | _ + 1, [] => []
  | limit + 1, ps =>
    let (line, used, rest) := takeFitting width 0 ps
    let (line, rest) := match rest with
      | p :: ps =>
        if width < p.length then
          let (front, back) := cutPiece (width - used) p
          (line ++ [front], back :: ps)
        else (line, rest)
      | [] => (line, [])
    let line := if (line.getLast?.getD []).all isBlank then line.dropLast else line
    let rest := if (rest.head?.getD []).all isBlank then rest.drop 1 else rest
    line.flatten :: fillLines width limit rest

def wrap (width : Nat) (text : String) : List String :=
  (fillLines width (text.length + 1) (wordPieces (wordsOf text))).map String.ofList

end Transcripts.Text
