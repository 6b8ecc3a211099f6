/-
  Transcripts/Yaml/BlockText.lean
  ===============================
  **Scalars of indented lines.**

  A block scalar keeps its lines (`|`) or folds them (`>`).  Its header may say
  how deeply it is indented, otherwise the first line that is not empty does,
  and what becomes of the breaks at its end: one is kept, or none, or all.
-/
import Transcripts.Yaml.Cursor

namespace Transcripts.Yaml

/-- What becomes of the line breaks at the end of a block scalar. -/
inductive Chomping where
  | clip
  | strip
  | keep
deriving DecidableEq, Repr

structure BlockHeader where
  chomping : Chomping := .clip
  /-- How much deeper than its parent the text is indented, if that is said. -/
  deeper : Option Nat := none
deriving Repr

def chomping? : Option Char → Option Chomping
  | some '+' => some .keep
  | some '-' => some .strip
  | _ => none

def deeper? (next : Option Char) : Option Nat :=
  next.bind fun c => if '0' ≤ c ∧ c ≤ '9' then some (c.toNat - 0x30) else none

/-- The header behind the mark of a block scalar, its two parts in either order. -/
def readBlockHeader (here : Cursor) : Except Fault (BlockHeader × Cursor) := do
  let (header, here) : BlockHeader × Cursor :=
    match chomping? here.head?, deeper? here.head? with
    | some chomping, _ =>
      match deeper? (here.look 1) with
      | some n => (⟨chomping, some n⟩, here.skip 2)
      | none => (⟨chomping, none⟩, here.skip 1)
    | none, some n =>
      match chomping? (here.look 1) with
      | some chomping => (⟨chomping, some n⟩, here.skip 2)
      | none => (⟨.clip, some n⟩, here.skip 1)
    | none, none => ({}, here)
  if header.deeper = some 0 ∨ !endsName here.head? then throw (.defect .badBlockHeader)
  match here.skipLineEnd? with
  | some here => return (header, here)
  | none => throw (.defect .badBlockHeader)

/-- Empty lines at the start of a text whose indentation is not known: their
    breaks, the greatest column reached in them, and the place behind them. -/
def leadingBreaks : (limit : Nat) → (reached : Nat) → Cursor → List Char × Nat × Cursor
  | 0, reached, here => ([], reached, here)
  | limit + 1, reached, here =>
    let here := here.skipWhile (· = ' ')
    let reached := max reached here.column
    match here.takeBreak with
    | none => ([], reached, here)
    | some (b, here) =>
      let (bs, reached, here) := leadingBreaks limit reached here
      (b :: bs, reached, here)

def skipIndent (indent : Nat) (here : Cursor) : Cursor :=
  here.skip ((here.rest.takeWhile (· = ' ')).length.min (indent - here.column))

/-- Empty lines of a text with a known indentation: their breaks, and the place
    behind them. -/
def innerBreaks (indent : Nat) : (limit : Nat) → Cursor → List Char × Cursor
  | 0, here => ([], here)
  | limit + 1, here =>
    let here := skipIndent indent here
    match here.takeBreak with
    | none => ([], here)
    | some (b, here) =>
      let (bs, here) := innerBreaks indent limit here
      (b :: bs, here)

def isBlockLine (indent : Nat) (here : Cursor) : Bool := here.column = indent && here.head?.isSome

/-- What stands between two lines.  Folding turns a single break between lines
    that do not begin with a space or a tab into a space. -/
def betweenLines (folded spacedBefore spacedAfter : Bool) (lineBreak breaks : List Char) : List Char :=
  if folded && lineBreak = ['\n'] && !spacedBefore && !spacedAfter then
    (if breaks.isEmpty then [' '] else []) ++ breaks
  else lineBreak ++ breaks

def isSpaced (here : Cursor) : Bool := isNext [' ', '\t'] here.head?

/-- The lines of a text, the break that ends the last one, the breaks behind it,
    and the place behind those.  Every line takes a character, so `limit` need
    not exceed the length of the text. -/
def blockLines (folded : Bool) (indent : Nat) :
    (limit : Nat) → Cursor → List Char × List Char × List Char × Cursor
  | 0, here => ([], [], [], here)
  | limit + 1, here =>
    let (line, next) := here.span (!isBreak ·)
    let (lineBreak, next) := match next.takeBreak with
      | some (b, next) => ([b], next)
      | none => ([], next)
    let (breaks, next) := innerBreaks indent (next.rest.length + 1) next
    if isBlockLine indent next then
      let (more, lastBreak, lastBreaks, last) := blockLines folded indent limit next
      let between := betweenLines folded (isSpaced here) (isSpaced next) lineBreak breaks
      (line ++ between ++ more, lastBreak, lastBreaks, last)
    else (line, lineBreak, breaks, next)

/-- A block scalar, from its mark on, inside a block that is indented by `parent`. -/
def readBlock (folded : Bool) (parent : Option Nat) (here : Cursor) :
    Except Fault (List Char × Cursor) := do
  let (header, here) ← readBlockHeader (here.skip 1)
  let least := match parent with
    | some column => column + 1
    | none => 1
  let (indent, breaks, here) : Nat × List Char × Cursor := match header.deeper with
    | some n =>
      let (bs, here) := innerBreaks (least + n - 1) (here.rest.length + 1) here
      (least + n - 1, bs, here)
    | none =>
      let (bs, reached, here) := leadingBreaks (here.rest.length + 1) 0 here
      (max least reached, bs, here)
  let (lines, lastBreak, lastBreaks, here) :=
    if isBlockLine indent here then
      let (lines, lastBreak, lastBreaks, here) := blockLines folded indent (here.rest.length + 1) here
      (breaks ++ lines, lastBreak, lastBreaks, here)
    else ([], [], breaks, here)
  let ending := match header.chomping with
    | .strip => []
    | .clip => lastBreak
    | .keep => lastBreak ++ lastBreaks
  return (lines ++ ending, here)

end Transcripts.Yaml
