/-
  Transcripts/Settings/File.lean
  ==============================
  **The settings file.**

  Settings are written as a YAML mapping:

      project_path: ~/cases/op-delta/project.json
      log_level: INFO
      search:
        default_sort: duration_desc
        default_limit: 100

  What is missing, null, false, zero or empty leaves the choice to the next
  source, except that a sort option or a limit that is there must be usable.

  What reads the mapping is left open: any reader will do that gives the value of
  a file or says why there is none.
-/
import Transcripts.Files.Tree
import Transcripts.Settings.Basic
import Transcripts.Yaml.Fault
import Transcripts.Yaml.Value

namespace Transcripts

open Transcripts.Files
open Transcripts.Numeral
open Transcripts.Search
open Transcripts.Text

/-- Why settings are not loaded. -/
inductive SettingsFault where
  | access (fault : AccessFault)
  /-- The text is not YAML, or asks for types that are not known. -/
  | notYaml
  /-- The reader gave up for another reason than that. -/
  | unread (fault : Yaml.FileFault)
  | notMapping
  | searchNotMapping
  /-- A project path that is a value of another kind. -/
  | pathKind (kind : String)
  /-- A project path that is bytes, not text. -/
  | pathBytes
  | unknownSort (shown : String)
  | invalidLimit (shown : String)
  | infiniteLimit
  /-- A value that cannot be shown, where its text is needed. -/
  | notShown (fault : Yaml.Value.ShowFault)
  | noHome
  /-- A user whose name has a null character, which is not even looked up. -/
  | nullInUserName
deriving DecidableEq, Repr

def SettingsFault.message (path : Path) : SettingsFault → String
  | .access fault => fault.message path
  | .notYaml => "Invalid YAML in " ++ path.text
  | .unread fault => fault.message
  | .notMapping => "Config file " ++ path.text ++ " must contain a mapping"
  | .searchNotMapping => "'search' in " ++ path.text ++ " must be a mapping"
  | .pathKind kind => "expected str, bytes or os.PathLike object, not " ++ kind
  | .pathBytes =>
    "argument should be a str object or an os.PathLike object returning str, not <class 'bytes'>"
  | .unknownSort shown => "Unknown sort option: " ++ shown
  | .invalidLimit shown => "Invalid default_limit: " ++ shown
  | .infiniteLimit => "cannot convert float infinity to integer"
  | .notShown .tooManyDigits =>
    "Exceeds the limit (4300 digits) for integer string conversion; " ++
      "use sys.set_int_max_str_digits() to increase the limit"
  | .notShown .tooDeep => "maximum recursion depth exceeded while getting the repr of an object"
  | .noHome => "Could not determine home directory."
  | .nullInUserName => "embedded null byte"

namespace Settings

/-! ### Values of the file -/

abbrev Entries : Type := List (Yaml.Value × Yaml.Value)

/-- A value that is there and not null, false, zero or empty. -/
def given? (entries : Entries) (name : String) : Option Yaml.Value :=
  (Yaml.Value.field? entries name).filter (·.isGiven)

/-- The whole number that a value counts as; nothing if it counts as none.  Real
    numbers lose their fraction, texts are read. -/
def wholeNumber (v : Yaml.Value) : Except SettingsFault (Option Int) :=
  match v with
  | .bool b => .ok (some (if b then 1 else 0))
  | .int n => .ok (some n)
  | .real (.finite negative m e) => .ok (some (Binary64.truncate negative m e))
  | .real (.infinite _) => .error .infiniteLimit
  | .text s => .ok (integer? s.toList)
  | .bytes bs =>
    .ok (if bs.any (0x80 ≤ ·) then none else integer? (bs.map fun b => Char.ofNat b.toNat))
  | _ => .ok none

/-- Why a path that begins with a tilde has no home folder. -/
def missingHome (p : Path) : SettingsFault :=
  if p.names.head?.any (·.toList.contains '\x00') then .nullInUserName else .noHome

def projectPathOf (users : Users) (env : Environment) (v : Yaml.Value) : Except SettingsFault Path :=
  match v with
  | .text s =>
    match expandHome? users env (Path.ofText s) with
    | some p => .ok p
    | none => .error (missingHome (Path.ofText s))
  | .bytes _ => .error .pathBytes
  | v => .error (.pathKind v.kind)

/-- A value as text, if it can be shown. -/
def textOf (v : Yaml.Value) : Except SettingsFault String :=
  match v.showFault? Yaml.Value.maxShown with
  | none => .ok v.asText
  | some fault => .error (.notShown fault)

/-- The fault that shows a value, if it can be shown. -/
def faultWith (fault : String → SettingsFault) (v : Yaml.Value) : SettingsFault :=
  match v.showFault? Yaml.Value.maxShown with
  | none => fault v.shown
  | some fault => .notShown fault

def sortOf (v : Yaml.Value) : Except SettingsFault SortOption := do
  match sortNamed? (← textOf v) with
  | some option => return option
  | none => throw (faultWith .unknownSort v)

def limitOf (v : Yaml.Value) : Except SettingsFault Nat := do
  match (← wholeNumber v).bind positive? with
  | some n => return n
  | none => throw (faultWith .invalidLimit v)

/-- The entries for searching.  They can be those of the file itself, by an alias. -/
def searchEntries (entries : Entries) : Except SettingsFault Entries :=
  match given? entries "search" with
  | none => .ok []
  | some (.map search) => .ok search
  | some (.enclosing true) => .ok entries
  | some _ => .error .searchNotMapping

def fileChoices (users : Users) (env : Environment) (entries : Entries) :
    Except SettingsFault Choices := do
  let projectPath ← (given? entries "project_path").mapM (projectPathOf users env)
  let logLevel ← (given? entries "log_level").mapM fun v => return raised (← textOf v)
  let search ← searchEntries entries
  let defaultSort ← (Yaml.Value.field? search "default_sort").mapM sortOf
  let defaultLimit ← (Yaml.Value.field? search "default_limit").mapM limitOf
  return { projectPath, logLevel, defaultSort, defaultLimit }

/-! ### Loading -/

/-- A reader of settings files: the value that bytes write, or why they write none. -/
abbrev Reader : Type := Bytes → Except Yaml.FileFault Yaml.Value

/-- The entries that the bytes of a file write.  An empty file has none. -/
def entriesOfBytes (read : Reader) (bytes : Bytes) : Except SettingsFault Entries := do
  let value ← (read bytes).mapError fun
    | .content (.defect _) => .notYaml
    | fault => .unread fault
  match value with
  | .null => return []
  | .map entries => return entries
  | _ => throw .notMapping

def usualPath (users : Users) (env : Environment) : Except SettingsFault Path :=
  match usualProjectPath? users env with
  | some p => .ok p
  | none => .error .noHome

section Loading

variable (read : Reader) (users : Users) (env : Environment) (files : Access)

/-- The choices of the file at a path, with the usual path of the project. -/
def loadFile (path : Path) : Except SettingsFault (Path × Choices) := do
  let entries ← entriesOfBytes read (← (files path).mapError .access)
  let usual ← usualPath users env
  return (usual, ← fileChoices users env entries)

def ofFile (path : Path) : Except SettingsFault Settings := do
  let (usual, choices) ← loadFile read users env files path
  return ofChoices usual choices

/-- The settings of the environment and, if there is one, a file. -/
def load (path : Option Path) : Except SettingsFault Settings := do
  let (usual, choices) ← match path with
    | some path => loadFile read users env files path
    | none => pure (← usualPath users env, {})
  return ofChoices usual ((environmentChoices env).orElse choices)

end Loading

end Settings

end Transcripts
