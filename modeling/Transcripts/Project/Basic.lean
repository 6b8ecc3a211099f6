/-
  Transcripts/Project/Basic.lean
  ==============================
  **Projects: everything that is stored of a workspace.**

  A project is a JSON object with the sessions, the saved tags, the alias map
  and the legal references.  A bare list is an older form that holds sessions
  alone.  A record that cannot be read is skipped with a warning; the rest of
  the project is still loaded.
-/
import Transcripts.Json.Reader
import Transcripts.Json.Writer
import Transcripts.Project.Record
import Transcripts.Text.Split
import Transcripts.Text.Utf8

namespace Transcripts

open Transcripts.Text

structure Project (τ : Type := String) where
  version : τ
  sessions : List (Session τ) := []
  tags : List (Tag τ) := []
  aliases : Keyed τ τ := []
  legalReferences : List (LegalReference τ) := []
deriving DecidableEq, Repr

namespace Project

def currentVersion {τ : Type} [Textual τ] : τ := Textual.literal "1.1"

/-! ### Warnings and faults -/

/-- A record that was skipped. -/
structure Warning where
  /-- The section that it stands in, and its place there. -/
  listName : String
  index : Nat
  /-- What is wrong with it; nothing if it is not even an object. -/
  fault : Option RecordFault
deriving DecidableEq, Repr

def Warning.message (path : String) (w : Warning) : String :=
  let reason := match w.fault with
    | none => "not an object"
    | some fault => fault.message
  "Skipping " ++ w.listName ++ "[" ++ toString w.index ++ "] in " ++ path ++ ": " ++ reason

/-- Why a file is not a project. -/
inductive FormatFault where
  | notUtf8 (fault : Utf8.Fault)
  | notJson (fault : Json.Fault)
  | notProject
  | sectionNotList (name : String)
  | aliasesNotObject
deriving DecidableEq, Repr

def FormatFault.reason : FormatFault → String
  | .notUtf8 fault => "not UTF-8 text (" ++ fault.message ++ ")"
  | .notJson fault => "invalid JSON (" ++ fault.message ++ ")"
  | .notProject => "expected an object or a list of sessions"
  | .sectionNotList name => "'" ++ name ++ "' must be a list"
  | .aliasesNotObject => "'aliasMap' must be an object"

/-- Why a project is not loaded: its form, a limit of the reader, or a record
    that holds a value that no record of its kind can hold. -/
inductive LoadFault where
  | format (fault : FormatFault)
  | limit (fault : Json.Fault)
  | record (fault : RecordFault)
deriving DecidableEq, Repr

def LoadFault.message (path : String) : LoadFault → String
  | .format fault => "Invalid project file " ++ path ++ ": " ++ fault.reason
  | .limit fault => fault.message
  | .record fault => fault.message

/-- Whether a record with this fault is skipped, rather than stopping the load. -/
def isSkippable : RecordFault → Bool
  | .missingField _ | .unknownCategory _ | .unknownStatus _ => true
  | .noItems _ | .infiniteNumber => false

/-! ### Loading -/

/-- The outcome of loading, with the warnings given before it. -/
structure Outcome (α : Type) where
  warnings : List Warning
  result : Except LoadFault α

/-- Continue with what was loaded. -/
def Outcome.andThen {α β : Type} (o : Outcome α) (next : α → Outcome β) : Outcome β :=
  match o.result with
  | .error fault => ⟨o.warnings, .error fault⟩
  | .ok a => ⟨o.warnings ++ (next a).warnings, (next a).result⟩

def Outcome.ofResult {α : Type} (result : Except LoadFault α) : Outcome α := ⟨[], result⟩

section Reading

variable {τ : Type}

def readRecords {α : Type} (parse : Fields τ → Except RecordFault α) (listName : String) :
    (index : Nat) → List (Json τ) → Outcome (List α)
  | _, [] => .ofResult (.ok [])
  | index, item :: items =>
    let rest := readRecords parse listName (index + 1) items
    match item with
    | .object fields => match parse fields with
      | .ok record => ⟨rest.warnings, rest.result.map (record :: ·)⟩
      | .error fault =>
        if isSkippable fault then ⟨⟨listName, index, some fault⟩ :: rest.warnings, rest.result⟩
        else .ofResult (.error (.record fault))
    | _ => ⟨⟨listName, index, none⟩ :: rest.warnings, rest.result⟩

/-- Read a section: nothing if it is null or missing, otherwise a list. -/
def readSection {α : Type} (parse : Fields τ → Except RecordFault α) (listName : String) :
    Json τ → Outcome (List α)
  | .null => .ofResult (.ok [])
  | .array items => readRecords parse listName 0 items
  | _ => .ofResult (.error (.format (.sectionNotList listName)))

variable [Textual τ]

def readAliases (v : Json τ) : Except LoadFault (Keyed τ τ) :=
  if !v.isGiven then .ok []
  else match v with
    | .object fields => .ok (fields.map fun (raw, shown) => (raw, shown.text))
    | _ => .error (.format .aliasesNotObject)

variable [DecidableEq τ] [LT τ] [DecidableLT τ]

def ofJson : Json τ → Outcome (Project τ)
  | .array items =>
    (readRecords Session.ofFields "sessions" 0 items).andThen fun sessions =>
      .ofResult (.ok { version := currentVersion, sessions })
  | .object fields =>
    let version := Fields.value fields "version"
    (Outcome.ofResult (readAliases (Fields.value fields "aliasMap"))).andThen fun aliases =>
    (readSection Session.ofFields "sessions" (Fields.value fields "sessions")).andThen fun sessions =>
    (readSection Tag.ofFields "savedTags" (Fields.value fields "savedTags")).andThen fun tags =>
    (readSection LegalReference.ofFields "legalReferences"
        (Fields.value fields "legalReferences")).andThen fun legalReferences =>
      .ofResult (.ok {
        sessions, tags, aliases, legalReferences
        version := if version.isGiven then version.text else currentVersion })
  | _ => .ofResult (.error (.format .notProject))

def ofText (cs : List Char) : Outcome (Project τ) :=
  match Json.read cs with
  | .ok v => ofJson v
  | .error fault => .ofResult (.error (match fault with
    | .malformed _ _ _ _ => .format (.notJson fault)
    | _ => .limit fault))

/-- The project that a file holds, with texts of the kind that is asked for. -/
def load (bytes : List UInt8) : Outcome (Project τ) :=
  match Utf8.decode bytes with
  | .ok cs => ofText (unifyLineEnds cs)
  | .error fault => .ofResult (.error (.format (.notUtf8 fault)))

end Reading

/-- The project that a file holds, with plain texts.  Where a surrogate stands in one of
    them, it has the character that shows it. -/
def ofBytes (bytes : List UInt8) : Outcome Project := load bytes

/-! ### Saving -/

def toJson {τ : Type} [Textual τ] (p : Project τ) : Json τ :=
  .object
    [field "version" (.string p.version),
     field "sessions" (.array (p.sessions.map fun s => .object s.toFields)),
     field "savedTags" (.array (p.tags.map fun t => .object t.toFields)),
     field "aliasMap" (.object (p.aliases.map fun (raw, shown) => (raw, .string shown))),
     field "legalReferences" (.array (p.legalReferences.map fun r => .object r.toFields))]

def toText (p : Project) : String := p.toJson.write

/-- The text that a project is saved as.  A surrogate in any of its texts stops it. -/
def save (p : Project RawText) : Except Json.EncodeFault String := do
  return (← p.toJson.encode).write

end Project

end Transcripts
