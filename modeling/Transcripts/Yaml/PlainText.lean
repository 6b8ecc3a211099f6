/-
  Transcripts/Yaml/PlainText.lean
  ===============================
  **Scalars without quotes.**

  A plain scalar goes on over spaces and line breaks for as long as words
  follow that are indented enough.  It ends at a comment, before a colon that a
  space follows, and inside brackets before any of their marks.
-/
import Transcripts.Yaml.Cursor

namespace Transcripts.Yaml

def flowMarks : List Char := [',', '?', '[', ']', '{', '}']

/-- The marks that make a colon before them the mark of a value, inside brackets. -/
def flowMarksAfterColon : List Char := [',', '[', ']', '{', '}']

/-- The characters in front that belong to one word. -/
def plainWord (flow : Bool) : List Char → List Char
  | [] => []
  | c :: cs =>
    if endsWord (some c) then []
    else if c = ':' && (endsWord cs.head? || (flow && isNext flowMarksAfterColon cs.head?)) then []
    else if flow && flowMarks.contains c then []
    else c :: plainWord flow cs

/-- The breaks of the empty lines that follow, and the place where text goes on;
    no breaks at all if a document begins or ends there. -/
def plainBreaks : (limit : Nat) → Cursor → Option (List Char) × Cursor
  | 0, here => (some [], here)
  | limit + 1, here =>
    let here := here.skipWhile (· = ' ')
    match here.takeBreak with
    | none => (some [], here)
    | some (b, here) =>
      if here.atDocumentMark then (none, here)
      else
        let (bs, here) := plainBreaks limit here
        (bs.map (b :: ·), here)

/-- What lies between two words: what it stands for, whether it crosses a line,
    and the place behind it.  It stands for nothing where no word can follow. -/
def plainGap (here : Cursor) : List Char × Bool × Cursor :=
  let (spaces, here) := here.span (· = ' ')
  match here.takeBreak with
  | none => (spaces, false, here)
  | some (b, here) =>
    if here.atDocumentMark then ([], true, here)
    else
      let (bs, here) := plainBreaks (here.rest.length + 1) here
      ((bs.map (foldedBreak b)).getD [], true, here)

/-- A plain scalar, with what was crossed behind it. -/
structure Plain where
  text : List Char
  /-- Whether a line was crossed after the last word. -/
  crossed : Bool
  next : Cursor
deriving Repr

/-- The words from here on, as far as they are indented enough; nothing if no word
    stands here.  Every word takes a character, so `limit` need not exceed the
    length of the text. -/
def readPlainFrom (flow : Bool) (indent : Nat) : (limit : Nat) → Cursor → Option Plain
  | 0, _ => none
  | limit + 1, here =>
    let word := plainWord flow here.rest
    if here.head? = some '#' ∨ word.isEmpty then none
    else
      let (gap, crossed, next) := plainGap (here.skip word.length)
      if gap.isEmpty ∨ (!flow && next.column < indent) then some ⟨word, crossed, next⟩
      else match readPlainFrom flow indent limit next with
        | none => some ⟨word, crossed, next⟩
        | some more => some { more with text := word ++ gap ++ more.text }

/-- A plain scalar.  Outside brackets its lines must be indented by `indent`. -/
def readPlain (flow : Bool) (indent : Nat) (here : Cursor) : Except Fault Plain :=
  match readPlainFrom flow indent (here.rest.length + 1) here with
  | some plain => .ok plain
  | none => .error (.defect .noToken)

end Transcripts.Yaml
