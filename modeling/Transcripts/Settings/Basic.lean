/-
  Transcripts/Settings/Basic.lean
  ===============================
  **Settings, and where they come from.**

  Each setting is decided by itself: by the environment, else by the settings
  file, else by a default.  A source either makes a choice or leaves it to the
  next one; a value in the environment that cannot be used leaves it.
-/
import Transcripts.Collection.Basic
import Transcripts.Files.Path
import Transcripts.Numeral.Integer
import Transcripts.Search.Sort
import Transcripts.Text.LetterCase

namespace Transcripts

open Transcripts.Files
open Transcripts.Numeral
open Transcripts.Search
open Transcripts.Text

abbrev Environment : Type := Keyed String String

/-- What a system knows of the home folders of its users. -/
structure Users where
  /-- The home folder of the user of a name, if there is such a user. -/
  home? : String → Option String
  /-- That of the user who runs the program, who need not be known to the system. -/
  ownHome? : Option String

structure Settings where
  projectPath : Path
  logLevel : String := "WARNING"
  defaultSort : SortOption := .dateDescending
  /-- How many results are shown at most. -/
  defaultLimit : Nat := 50
deriving DecidableEq, Repr

namespace Settings

/-! ### Choices -/

structure Choices where
  projectPath : Option Path := none
  logLevel : Option String := none
  defaultSort : Option SortOption := none
  defaultLimit : Option Nat := none
deriving DecidableEq, Repr

/-- The choices of two sources, the first of which goes before. -/
def Choices.orElse (a b : Choices) : Choices :=
  { projectPath := a.projectPath.or b.projectPath
    logLevel := a.logLevel.or b.logLevel
    defaultSort := a.defaultSort.or b.defaultSort
    defaultLimit := a.defaultLimit.or b.defaultLimit }

/-- The settings that follow from choices, and a path for a project that none is
    chosen for. -/
def ofChoices (usualPath : Path) (c : Choices) : Settings :=
  let usual : Settings := { projectPath := usualPath }
  { projectPath := c.projectPath.getD usual.projectPath
    logLevel := c.logLevel.getD usual.logLevel
    defaultSort := c.defaultSort.getD usual.defaultSort
    defaultLimit := c.defaultLimit.getD usual.defaultLimit }

/-- The order that a text names, in any case. -/
def sortNamed? (text : String) : Option SortOption := SortOption.ofText? (lowered text)

/-- A number of results, which must be positive. -/
def positive? (n : Int) : Option Nat := if 0 < n then some n.toNat else none

/-! ### The environment -/

def setVariable? (env : Environment) (name : String) : Option String :=
  (env.get? name).filter (!·.isEmpty)

def environmentChoices (env : Environment) : Choices :=
  { projectPath := (setVariable? env "CALLSCOPE_PROJECT").map Path.ofText
    logLevel := (setVariable? env "CALLSCOPE_LOG_LEVEL").map raised
    defaultSort := (env.get? "CALLSCOPE_SORT").bind sortNamed?
    defaultLimit := do positive? (← integer? (← env.get? "CALLSCOPE_LIMIT").toList) }

/-! ### Places that depend on the user -/

section Homes

variable (users : Users) (env : Environment)

/-- The home folder that a name with a tilde in front of it means, without slashes
    at its end.  The tilde alone means the home of the user who runs the program, which
    the environment can set.  A name with a null character is not even looked up. -/
def homeText? (name : List Char) : Option String :=
  let written :=
    if name.isEmpty then (env.get? "HOME").or users.ownHome?
    else if name.contains '\x00' then none
    else users.home? (.ofList name)
  written.map fun home =>
    let kept := (home.toList.reverse.dropWhile (· = '/')).reverse
    if kept.isEmpty then "/" else .ofList kept

/-- The home folder that a name with a tilde means.  A folder that again begins
    with a tilde is none. -/
def home? (name : List Char) : Option Path :=
  ((homeText? users env name).filter fun home => home.toList.head? ≠ some '~').map Path.ofText

/-- A path with a tilde at its start replaced by the home folder that it means;
    nothing if there is no such folder. -/
def expandHome? (p : Path) : Option Path :=
  match p.root, p.names with
  | .relative, first :: names =>
    match first.toList with
    | '~' :: user => (home? users env user).map (·.below names)
    | _ => some p
  | _, _ => some p

/-- The usual path of the project, below the folder for data; nothing if there is
    no home folder. -/
def usualProjectPath? : Option Path := do
  let home ← home? users env []
  let data := match env.get? "XDG_DATA_HOME" with
    | some text => Path.ofText text
    | none => home.below [".local", "share"]
  return data.below ["callscope", "project.json"]

end Homes

end Settings

end Transcripts
