/-
  Transcripts/Yaml/Cursor.lean
  ============================
  **A place in a YAML text.**

  Indentation carries meaning in YAML, so the reader keeps the line and the
  column beside the text that is left.  Line ends are unified before reading;
  what else ends a line are the next-line control and the two separators of
  Unicode.  A byte order mark takes no column.
-/
import Transcripts.Yaml.Fault

namespace Transcripts.Yaml

structure Cursor where
  rest : List Char
  index : Nat := 0
  line : Nat := 0
  column : Nat := 0
deriving Repr

def isBreak (c : Char) : Bool := c = '\n' || c = '\u0085' || c = '\u2028' || c = '\u2029'

namespace Cursor

/-- The place behind one character. -/
def pass (here : Cursor) (c : Char) (rest : List Char) : Cursor :=
  if isBreak c then ⟨rest, here.index + 1, here.line + 1, 0⟩
  else ⟨rest, here.index + 1, here.line, if c = '\ufeff' then here.column else here.column + 1⟩

def skip (here : Cursor) : (count : Nat) → Cursor
  | 0 => here
  | count + 1 =>
    match here.rest with
    | [] => here
    | c :: rest => (here.pass c rest).skip count

/-- The next character, if the text does not end here. -/
def head? (here : Cursor) : Option Char := here.rest.head?

def look (here : Cursor) (count : Nat) : Option Char := here.rest[count]?

/-- The characters in front that satisfy a condition, and the place behind them. -/
def span (here : Cursor) (p : Char → Bool) : List Char × Cursor :=
  let run := here.rest.takeWhile p
  (run, here.skip run.length)

/-- The place behind the characters in front that satisfy a condition. -/
def skipWhile (here : Cursor) (p : Char → Bool) : Cursor := (here.span p).2

end Cursor

/-! ### What may come next -/

def endsLine (next : Option Char) : Bool := next.all isBreak

/-- Whether a space, or an end of the line, is next. -/
def endsName (next : Option Char) : Bool := next.all fun c => c = ' ' || isBreak c

/-- Whether a space, a tab, or an end of the line is next. -/
def endsWord (next : Option Char) : Bool := next.all fun c => c = ' ' || c = '\t' || isBreak c

def isNext (chars : List Char) (next : Option Char) : Bool := next.any chars.contains

namespace Cursor

/-- Whether the mark of a document's start or end stands here, as a word of its own. -/
def atMark (here : Cursor) (mark : Char) : Bool :=
  here.look 0 = some mark && here.look 1 = some mark && here.look 2 = some mark && endsWord (here.look 3)

def atDocumentMark (here : Cursor) : Bool := here.atMark '-' || here.atMark '.'

/-- The break that ends the line, and the place behind it.  The separators of
    Unicode stay themselves; every other break is a line feed. -/
def takeBreak (here : Cursor) : Option (Char × Cursor) :=
  match here.rest with
  | c :: rest =>
    if isBreak c then some (if c = '\u0085' then '\n' else c, here.pass c rest) else none
  | [] => none

/-- The place behind spaces, a comment and the break that ends the line, if
    nothing else stands there. -/
def skipLineEnd? (here : Cursor) : Option Cursor :=
  let here := here.skipWhile (· = ' ')
  let here := if here.head? = some '#' then here.skipWhile (!isBreak ·) else here
  if endsLine here.head? then some ((here.takeBreak.map (·.2)).getD here) else none

end Cursor

/-- What a line break inside a text stands for: a space, unless empty lines
    follow, which stand for themselves. -/
def foldedBreak (first : Char) (more : List Char) : List Char :=
  (if first ≠ '\n' then [first] else if more.isEmpty then [' '] else []) ++ more

end Transcripts.Yaml
