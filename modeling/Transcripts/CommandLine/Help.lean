/-
  Transcripts/CommandLine/Help.lean
  =================================
  **Help texts.**

  The help text of a command shows how it is used, what it is for, and what its
  arguments mean, in two columns that fit the width of the terminal.
-/
import Transcripts.CommandLine.Grammar
import Transcripts.Text.Split
import Transcripts.Text.Wrap

namespace Transcripts.CommandLine

open Transcripts.Text

def spaces (n : Nat) : String := .ofList (List.replicate n ' ')

def braced (choices : List String) : String := "\x7b" ++ joinWith "," choices ++ "\x7d"

/-! ### Usage -/

def OptionSpec.withValue (o : OptionSpec) (spelling : String) : String :=
  match o.effect with
  | .value (.oneOf choices) => spelling ++ " " ++ braced choices
  | .value _ => spelling ++ " " ++ o.placeholder
  | _ => spelling

def OptionSpec.usage (o : OptionSpec) : String := o.withValue (o.spellings.head?.getD "")

/-- The options of a command, in brackets.  Those that exclude each other stand in
    the same brackets, at the place of the first. -/
def optionParts (c : CommandSpec) : List String :=
  c.options.filterMap fun o =>
    if !c.exclusive.contains o.name then some ("[" ++ o.usage ++ "]")
    else if c.exclusive.head? = some o.name then
      let group := c.options.filter fun p => c.exclusive.contains p.name
      some ("[" ++ joinWith " | " (group.map (·.usage)) ++ "]")
    else none

def positionalParts (c : CommandSpec) : List String :=
  c.positionals.flatMap fun p =>
    match p.count with
    | .one => [p.name]
    | .optional => ["[" ++ p.name ++ "]"]
    | .many => [p.name, "[" ++ p.name ++ " ...]"]
    | .command _ => [braced c.commandNames, "..."]

/-- Distribute parts over lines of a width.  Lines after the first have a margin;
    `used` is the room taken on the line that is begun, and `line` its parts,
    backwards. -/
def partLines (width margin : Nat) : (used : Nat) → (line : List String) → List String →
    List (List String)
  | _, line, [] => if line.isEmpty then [] else [line.reverse]
  | used, line, part :: parts =>
    if width < used + 1 + part.length ∧ !line.isEmpty then
      line.reverse :: partLines width margin (margin + part.length) [part] parts
    else partLines width margin (used + part.length + 1) (part :: line) parts

def usageMark : String := "usage: "

def withMargin (margin : Nat) (lines : List (List String)) : List String :=
  lines.map fun line => spaces margin ++ joinWith " " line

/-- How a command is used, in lines of a width.  If it does not fit on one, options
    and positional arguments begin lines of their own, behind the name of the
    program if that leaves a quarter of the width. -/
def usageLines (width : Nat) (c : CommandSpec) : List String :=
  let options := optionParts c
  let positionals := positionalParts c
  let whole := usageMark ++ joinWith " " (c.program :: options ++ positionals)
  if whole.length ≤ width then [whole]
  else
    let lead := usageMark.length + c.program.length
    if 4 * lead ≤ 3 * width then
      let margin := lead + 1
      let first := partLines width margin (usageMark.length - 1) [] (c.program :: options)
      let lines := withMargin margin first ++
        withMargin margin (partLines width margin (margin - 1) [] positionals)
      match lines with
      | line :: lines => (usageMark ++ .ofList (line.toList.drop margin)) :: lines
      | [] => [usageMark ++ c.program]
    else
      let margin := usageMark.length
      let fill (parts : List String) := partLines width margin (margin - 1) [] parts
      let together := fill (options ++ positionals)
      let lines := if together.length ≤ 1 then together else fill options ++ fill positionals
      (usageMark ++ c.program) :: withMargin margin lines

/-! ### The meaning of arguments -/

structure Entry where
  indent : Nat
  label : String
  help : String
deriving Repr

/-- The entries of the positional arguments, with the commands below theirs. -/
def positionalEntries (c : CommandSpec) : List Entry :=
  c.positionals.flatMap fun p =>
    match p.count with
    | .command _ =>
      ⟨2, braced c.commandNames, p.help⟩ :: c.commands.map fun (name, help, _) => ⟨4, name, help⟩
    | _ => [⟨2, p.name, p.help⟩]

def optionEntries (c : CommandSpec) : List Entry :=
  c.options.map fun o => ⟨2, joinWith ", " (o.spellings.map o.withValue), o.help⟩

/-- The column of the second column of entries: behind the longest label, but not
    beyond column 24, and on narrow terminals further left. -/
def helpColumn (width : Nat) (entries : List Entry) : Nat :=
  let longest := (entries.map (·.label.length + 2)).foldl max 0
  min (longest + 2) (min 24 (max (width - 20) 4))

/-- A text in a width, which is never less than 11. -/
def wrapWide (width : Nat) (text : String) : List String := wrap (max width 11) text

/-- The lines of an entry.  A label that is too long has a line of its own. -/
def Entry.lines (width column : Nat) (e : Entry) : List String :=
  let label := spaces e.indent ++ e.label
  match wrapWide (width - column) e.help with
  | [] => [label]
  | first :: more =>
    let head :=
      if label.length + 2 ≤ column then [label ++ spaces (column - label.length) ++ first]
      else [label, spaces column ++ first]
    head ++ more.map (spaces column ++ ·)

/-- A section of entries under a heading; nothing without entries. -/
def sectionLines (width column : Nat) (heading : String) (entries : List Entry) :
    List (List String) :=
  if entries.isEmpty then [] else [heading :: entries.flatMap (Entry.lines width column)]

def helpText (width : Nat) (c : CommandSpec) : String :=
  let positionals := positionalEntries c
  let options := optionEntries c
  let column := helpColumn width (positionals ++ options)
  let blocks :=
    [usageLines width c] ++ (c.description.map (wrapWide width)).toList ++
    sectionLines width column "positional arguments:" positionals ++
    sectionLines width column "options:" options
  joinWith "\n\n" (blocks.map (joinWith "\n")) ++ "\n"

end Transcripts.CommandLine
