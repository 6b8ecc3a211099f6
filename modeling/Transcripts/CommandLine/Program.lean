/-
  Transcripts/CommandLine/Program.lean
  ====================================
  **The commands of the program.**

  The grammar of the program's command line, and what arguments that follow it
  ask for.
-/
import Transcripts.CommandLine.Match
import Transcripts.Search.Filter
import Transcripts.Search.Sort

namespace Transcripts.CommandLine

open Transcripts.Calendar
open Transcripts.Numeral
open Transcripts.Search

def programName : String := "callscope"

def programVersion : String := "1.0.0"

/-! ### The grammar -/

def helpOption : OptionSpec :=
  { spellings := ["-h", "--help"], effect := .help, help := "show this help message and exit" }

def markOption (spelling help : String) : OptionSpec :=
  { spellings := [spelling], effect := .mark, help }

def textOption (spelling placeholder help : String) : OptionSpec :=
  { spellings := [spelling], effect := .value .text, placeholder, help }

def integerOption (spellings : List String) (placeholder help : String) : OptionSpec :=
  { spellings, effect := .value .integer, placeholder, help }

def searchOptions : List OptionSpec :=
  [helpOption,
   textOption "--session" "SESSION" "Comma-separated session id fragments",
   textOption "--date-start" "DATE_START" "Earliest date (YYYY-MM-DD or DD.MM.YYYY)",
   textOption "--date-end" "DATE_END" "Latest date (YYYY-MM-DD or DD.MM.YYYY)",
   textOption "--time-start" "TIME_START" "Earliest start time (HH:MM)",
   textOption "--time-end" "TIME_END"
     "Latest start time (HH:MM); wraps midnight if earlier than --time-start",
   integerOption ["--min-duration"] "MIN_DURATION" "Minimum duration in seconds (audio only)",
   integerOption ["--max-duration"] "MAX_DURATION" "Maximum duration in seconds (audio only)",
   textOption "--source-number" "SOURCE_NUMBER" "Source number (repeatable)",
   textOption "--dest-number" "DEST_NUMBER" "Destination number (repeatable)",
   textOption "--source-speaker" "SOURCE_SPEAKER" "Source speaker (repeatable)",
   textOption "--dest-speaker" "DEST_SPEAKER" "Destination speaker (repeatable)",
   textOption "--article" "ARTICLE" "Legal article label (repeatable)",
   textOption "--fact" "FACT" "Legal fact label (repeatable)",
   textOption "--legal-tag" "LEGAL_TAG" "Legal tag label (repeatable)",
   textOption "--tag" "TAG" "Scope to a saved tag, by id or name (repeatable)",
   textOption "--only" "ONLY" "Restrict to these session ids (repeatable)",
   { spellings := ["--sort"], effect := .value (.oneOf (SortOption.all.map SortOption.text))
     help := "Result ordering (default from config)" },
   integerOption ["-l", "--limit"] "LIMIT" "Maximum results to print (default from config)",
   textOption "--save-tag" "NAME" "Save the full result as a new tag"]

/-- A command below others, with nothing but its help option and its arguments. -/
def plainCommand (names : List String) (positionals : List Positional) : CommandSpec :=
  { program := " ".intercalate (programName :: names), options := [helpOption], positionals }

def searchCommand : CommandSpec :=
  { program := programName ++ " search"
    options := searchOptions
    positionals :=
      [⟨"query", .optional, "Content query, e.g. '\"porto de lisboa\" AND (carro OR mota) -maria'"⟩] }

def identitiesCommand : CommandSpec :=
  { program := programName ++ " identities"
    options :=
      [helpOption, markOption "--numbers" "Only numbers", markOption "--names" "Only speaker names",
       markOption "--raw" "Show raw identities and their aliases"]
    exclusive := ["--numbers", "--names"] }

def aliasCommand : CommandSpec :=
  plainCommand ["alias"]
    [⟨"display", .one, "Unified name or number"⟩, ⟨"raw", .many, "Raw identities to unify"⟩]

def tagCommand : CommandSpec :=
  { plainCommand ["tag"] [⟨"tag_cmd", .command true, ""⟩] with
    commands :=
      [("list", "List saved tags", plainCommand ["tag", "list"] []),
       ("rename", "Rename a tag", plainCommand ["tag", "rename"]
         [⟨"tag", .one, "Tag id or name"⟩, ⟨"name", .one, "New name"⟩]),
       ("delete", "Delete a tag", plainCommand ["tag", "delete"] [⟨"tag", .one, "Tag id or name"⟩])] }

def filesCommand : CommandSpec :=
  { plainCommand ["files"] [⟨"files_cmd", .command true, ""⟩] with
    commands :=
      [("list", "List source files", plainCommand ["files", "list"] []),
       ("delete", "Delete files and their sessions", plainCommand ["files", "delete"]
         [⟨"names", .many, "Source file names"⟩])] }

def deleteCommand : CommandSpec :=
  plainCommand ["delete"] [⟨"session_ids", .many, "Session ids"⟩]

def program : CommandSpec :=
  { program := programName
    description := some "Search and filter call and SMS transcript sessions"
    options :=
      [helpOption,
       { spellings := ["--version"], effect := .version
         help := "show program's version number and exit" },
       { spellings := ["-v", "--verbose"], effect := .mark, help := "Enable debug logging" },
       { spellings := ["-p", "--project"], effect := .value .text, placeholder := "PROJECT"
         help := "Project file (default from config)" },
       { spellings := ["-c", "--config"], effect := .value .text, placeholder := "CONFIG"
         help := "YAML config file" }]
    positionals := [⟨"command", .command false, ""⟩]
    commands :=
      [("search", "Search sessions", searchCommand),
       ("identities", "List numbers and speakers", identitiesCommand),
       ("alias", "Unify identities under one display name", aliasCommand),
       ("tag", "Manage saved tags", tagCommand),
       ("files", "Manage loaded source files", filesCommand),
       ("delete", "Delete sessions by id", deleteCommand)] }

/-! ### What is asked for -/

structure SearchRequest where
  filters : Filters
  /-- Tags to search in, by id or name. -/
  tags : List String
  /-- Sessions to search in; all if there are none. -/
  only : List String
  sort : Option SortOption
  limit : Option Int
  saveTag : Option String
deriving DecidableEq, Repr

inductive IdentityChoice where
  | both
  | numbers
  | names
deriving DecidableEq, Repr

inductive Command where
  | search (request : SearchRequest)
  | identities (which : IdentityChoice) (raw : Bool)
  | mergeAlias (display : String) (raws : List String)
  | listTags
  | renameTag (tag name : String)
  | deleteTag (tag : String)
  | listFiles
  | deleteFiles (names : List String)
  | deleteSessions (ids : List String)
deriving DecidableEq, Repr

structure Invocation where
  verbose : Bool
  /-- Paths that are given; an empty one counts as none. -/
  project : Option String
  config : Option String
  /-- The command; without one the help text is shown. -/
  command : Option Command
deriving DecidableEq, Repr

/-- The last whole number given under a name. -/
def Matches.integer? (m : Matches) (name : String) : Option Int :=
  (m.value? name).bind fun text => Numeral.integer? text.toList

/-- The last text given under a name; empty if there is none. -/
def Matches.text (m : Matches) (name : String) : String := (m.value? name).getD ""

/-- The last text given under a name, if it is not empty. -/
def Matches.nonEmpty? (m : Matches) (name : String) : Option String :=
  (m.value? name).filter (!·.isEmpty)

/-- The bound of a search by date that is given under a name. -/
def Matches.dateBound (m : Matches) (name : String) : DateBound :=
  match m.value? name with
  | some text => .written text
  | none => .unset

def searchRequest (m : Matches) : SearchRequest :=
  { filters :=
      { session := m.text "--session"
        content := m.text "query"
        dateStart := m.dateBound "--date-start"
        dateEnd := m.dateBound "--date-end"
        timeStart := m.text "--time-start"
        timeEnd := m.text "--time-end"
        minDuration := m.integer? "--min-duration"
        maxDuration := m.integer? "--max-duration"
        sourceNumbers := m.values "--source-number"
        destinationNumbers := m.values "--dest-number"
        sourceSpeakers := m.values "--source-speaker"
        destinationSpeakers := m.values "--dest-speaker"
        articles := m.values "--article"
        facts := m.values "--fact"
        legalTags := m.values "--legal-tag" }
    tags := m.values "--tag"
    only := m.values "--only"
    sort := (m.value? "--sort").bind SortOption.ofText?
    limit := m.integer? "--limit"
    saveTag := m.nonEmpty? "--save-tag" }

def identityChoice (m : Matches) : IdentityChoice :=
  if m.has "--numbers" then .numbers else if m.has "--names" then .names else .both

def commandOf (m : Matches) : Option Command :=
  match m.commands with
  | ["search"] => some (.search (searchRequest m))
  | ["identities"] => some (.identities (identityChoice m) (m.has "--raw"))
  | ["alias"] => some (.mergeAlias (m.text "display") (m.values "raw"))
  | ["tag", "list"] => some .listTags
  | ["tag", "rename"] => some (.renameTag (m.text "tag") (m.text "name"))
  | ["tag", "delete"] => some (.deleteTag (m.text "tag"))
  | ["files", "list"] => some .listFiles
  | ["files", "delete"] => some (.deleteFiles (m.values "names"))
  | ["delete"] => some (.deleteSessions (m.values "session_ids"))
  | _ => none

/-- The run that arguments ask for. -/
def Invocation.ofArguments (arguments : List String) : Except Stop Invocation := do
  let m ← readArguments program arguments
  return {
    verbose := m.has "--verbose"
    project := m.nonEmpty? "--project"
    config := m.nonEmpty? "--config"
    command := commandOf m }

end Transcripts.CommandLine
