/-
  Transcripts/Yaml/Property.lean
  ==============================
  **Names, tags and directives.**

  An anchor names a node, an alias stands for it.  A tag names the type of a
  node, in full or by a handle that a directive has given a meaning.
-/
import Transcripts.Json.Reader
import Transcripts.Text.Utf8
import Transcripts.Yaml.Cursor

namespace Transcripts.Yaml

open Transcripts.Json (hexNumber? isDigitChar)
open Transcripts.Text

structure WrittenTag where
  /-- The handle; nothing for a tag that is written in full. -/
  handle : Option String
  suffix : String
deriving DecidableEq, Repr

inductive Directive where
  | version (major : Nat)
  | tag (handle meaning : String)
  /-- A directive that is reserved, and ignored. -/
  | reserved
deriving DecidableEq, Repr

/-- Whether a character is a letter or a digit of ASCII, a hyphen or a low line. -/
def isNameChar (c : Char) : Bool := c.isAlphanum || c = '-' || c = '_'

/-- Whether a character may stand in the text of a tag. -/
def isTagChar (c : Char) : Bool := c.isAlphanum || "-;/?:@&=+$,_.!~*'()[]%".toList.contains c

/-! ### Anchors and aliases -/

def readName (here : Cursor) : Except Fault (String × Cursor) :=
  let (name, here) := (here.skip 1).span isNameChar
  if name.isEmpty then .error (.defect .badName)
  else if endsWord here.head? || isNext ['?', ':', ',', ']', '}', '%', '@', '\x60'] here.head? then
    .ok (.ofList name, here)
  else .error (.defect .badName)

/-! ### Tags -/

/-- The bytes of a run of escapes, and the place behind it. -/
def readEscapedBytes : (limit : Nat) → Cursor → Except Fault (List UInt8 × Cursor)
  | 0, here => .ok ([], here)
  | limit + 1, here =>
    if here.head? = some '%' then
      match here.rest with
      | _ :: a :: b :: _ =>
        match hexNumber? [a, b] with
        | none => .error (.defect .badTag)
        | some n => do
          let (bytes, here) ← readEscapedBytes limit (here.skip 3)
          return (.ofNat n :: bytes, here)
      | _ => .error (.defect .badTag)
    else .ok ([], here)

/-- The text of a tag, in which a run of escapes stands for the characters that
    its bytes are the UTF-8 form of. -/
def readTagChars : (limit : Nat) → Cursor → Except Fault (List Char × Cursor)
  | 0, here => .ok ([], here)
  | limit + 1, here =>
    match here.rest with
    | [] => .ok ([], here)
    | c :: rest =>
      if c = '%' then do
        let (bytes, next) ← readEscapedBytes (rest.length + 1) here
        let part ← (Utf8.decode bytes).mapError fun _ => .defect .badTag
        let (text, last) ← readTagChars limit next
        return (part ++ text, last)
      else if isTagChar c then do
        let (text, last) ← readTagChars limit (here.pass c rest)
        return (c :: text, last)
      else .ok ([], here)

/-- The text of a tag, which may not be empty. -/
def readTagText (here : Cursor) : Except Fault (String × Cursor) := do
  let (text, next) ← readTagChars (here.rest.length + 1) here
  if next.index = here.index then throw (.defect .badTag)
  return (.ofList text, next)

/-- A handle: one exclamation mark, or two with a name between them. -/
def readHandle (here : Cursor) : Except Fault (String × Cursor) :=
  if here.head? ≠ some '!' then .error (.defect .badTag)
  else if here.look 1 = some ' ' then .ok ("!", here.skip 1)
  else
    let (name, next) := (here.skip 1).span isNameChar
    if next.head? = some '!' then .ok (.ofList ('!' :: name ++ ['!']), next.skip 1)
    else .error (.defect .badTag)

/-- Whether a second exclamation mark stands in the same word. -/
def hasHandle (here : Cursor) : Bool :=
  ((here.rest.drop 1).takeWhile fun c => !(c = ' ' || isBreak c)).contains '!'

/-- A tag, from its exclamation mark on. -/
def readTag (here : Cursor) : Except Fault (WrittenTag × Cursor) := do
  let (tag, next) : WrittenTag × Cursor ←
    if here.look 1 = some '<' then
      let (text, next) ← readTagText (here.skip 2)
      if next.head? ≠ some '>' then throw (.defect .badTag)
      pure (⟨none, text⟩, next.skip 1)
    else if endsWord (here.look 1) then pure (⟨none, "!"⟩, here.skip 1)
    else
      let (handle, next) ← if hasHandle here then readHandle here else pure ("!", here.skip 1)
      let (text, next) ← readTagText next
      pure (⟨some handle, text⟩, next)
  if !endsName next.head? then throw (.defect .badTag)
  return (tag, next)

/-! ### Directives -/

def readVersionNumber (here : Cursor) : Except Fault (Nat × Cursor) :=
  let (ds, next) := here.span isDigitChar
  if ds.isEmpty then .error (.defect .badDirective) else .ok (Json.digitsValue ds, next)

/-- The version of the format, of which only the first number matters. -/
def readVersion (here : Cursor) : Except Fault (Directive × Cursor) := do
  let (major, next) ← readVersionNumber (here.skipWhile (· = ' '))
  if next.head? ≠ some '.' then throw (.defect .badDirective)
  let (_, next) ← readVersionNumber (next.skip 1)
  if !endsName next.head? then throw (.defect .badDirective)
  return (.version major, next)

def readTagMeaning (here : Cursor) : Except Fault (Directive × Cursor) := do
  let (handle, next) ← readHandle (here.skipWhile (· = ' '))
  if next.head? ≠ some ' ' then throw (.defect .badDirective)
  let (meaning, next) ← readTagText (next.skipWhile (· = ' '))
  if !endsName next.head? then throw (.defect .badDirective)
  return (.tag handle meaning, next)

/-- A directive, from its percent sign on, with the rest of its line. -/
def readDirective (here : Cursor) : Except Fault (Directive × Cursor) := do
  let (name, next) := (here.skip 1).span isNameChar
  if name.isEmpty || !endsName next.head? then throw (.defect .badDirective)
  let (directive, next) ←
    if name = ['Y', 'A', 'M', 'L'] then readVersion next
    else if name = ['T', 'A', 'G'] then readTagMeaning next
    else pure (.reserved, next.skipWhile (!isBreak ·))
  match next.skipLineEnd? with
  | some next => return (directive, next)
  | none => throw (.defect .badDirective)

end Transcripts.Yaml
