/-
  Transcripts/CommandLine/Response.lean
  =====================================
  **How commands are carried out.**

  A command that only looks at the workspace prints what it finds.  One that
  changes the workspace stores it before it says so.
-/
import Transcripts.CommandLine.Action
import Transcripts.CommandLine.Program

namespace Transcripts.CommandLine

open Transcripts.Calendar
open Transcripts.Identity
open Transcripts.Search
open Transcripts.Text

/-- What a command does, and the tag that it makes, if it makes one. -/
abbrev Response : Type := Action (Option Tag)

namespace Action

/-- Go on with what was computed on a workspace, unless that failed. -/
def tryOn {α : Type} (result : Except WorkspaceFault α) : Action α :=
  attempt (result.mapError .workspace)

def shown (lines : List String) : Response := do
  print lines
  return none

/-- Store a workspace that has changed, and tell about it. -/
def changed (w : Workspace) (lines : List String) (created : Option Tag := none) : Response := do
  store w
  print lines
  return created

end Action

def rule : String := .ofList (List.replicate 70 '=')

/-! ### Search -/

/-- The tag that is meant by its id, or else by its name in any case. -/
def findTag (w : Workspace) (ref : String) : Except WorkspaceFault String :=
  if (w.tags.get? ref).isSome then .ok ref
  else
    let wanted := lowered (trimmed ref)
    match w.tags.find? fun tag => lowered tag.name = wanted with
    | some tag => .ok tag.id
    | none => .error (.tag (.unknownTag ref))

/-- How many of some results are printed.  A limit below zero leaves off as many at
    the end. -/
def printedCount (limit : Int) (count : Nat) : Nat :=
  if 0 ≤ limit then min limit.toNat count else count - limit.natAbs

/-- How many results are announced as left out; nothing if that is not said. -/
def announcedCount? (limit : Int) (count : Nat) : Option Int :=
  if limit < count then some (count - limit) else none

def timing (s : Session) : String :=
  let start := (Workspace.nonEmpty s.startTime).map ("start " ++ ·)
  let duration := (Workspace.nonEmpty s.duration).map ("duration " ++ ·)
  joinWith " | " (start.toList ++ duration.toList)

/-- A result, with its rank. -/
def resultLines (w : Workspace) (rank : Nat) (s : Session) : List String :=
  let heading := toString rank ++ ". " ++ s.id ++ " [" ++ s.kind.text ++ "] " ++ s.date ++ " " ++ timing s
  [.ofList (trimEnd heading.toList),
   "   " ++ w.displayLabel s.sourceNumber s.sourceName ++ " -> " ++
     w.displayLabel s.destinationNumber s.destinationName,
   "   File: " ++ s.sourceLabel,
   ""]

def rankedLines (w : Workspace) : (rank : Nat) → List Session → List String
  | _, [] => []
  | rank, s :: sessions => resultLines w rank s ++ rankedLines w (rank + 1) sessions

/-- The results of a search, as many as a limit allows. -/
def searchLines (w : Workspace) (sessions : List Session) (limit : Int) : List String :=
  let count := sessions.length
  ["", "Search Results (" ++ toString count ++ ")", rule] ++
  (if count = 0 then ["No results found."]
  else
    rankedLines w 1 (sessions.take (printedCount limit count)) ++
    ((announcedCount? limit count).map fun more =>
      "... " ++ toString more ++ " more (use --limit to show more)").toList)

/-- The limit that holds: the one asked for, unless it is zero. -/
def effectiveLimit (asked : Option Int) (usual : Nat) : Int := (asked.filter (· ≠ 0)).getD usual

/-- The workspace after the inputs of a search, and what it finds. -/
def findSessions (w : Workspace) (r : SearchRequest) :
    Except WorkspaceFault (Workspace × List Session) := do
  let w := if r.only.isEmpty then w else w.select r.only
  let activeTags ← r.tags.mapM (findTag w)
  let w := w.commit
    { filters := some r.filters, activeTags := some activeTags, viewOnly := some !r.only.isEmpty
      sort := r.sort }
  return (w, ← w.found.mapError .date)

/-- Search, and save the whole result as a tag if that is asked for. -/
def search (stamp : TagStore.Stamp) (usualLimit : Nat) (w : Workspace) (r : SearchRequest) : Response := do
  let (w, sessions) ← .tryOn (findSessions w r)
  .print (searchLines w sessions (effectiveLimit r.limit usualLimit))
  match r.saveTag with
  | none => return none
  | some name =>
    let (w, tag) ← .tryOn (w.clearSelection.createTag stamp name (some (sessions.map (·.id))))
    .changed w
      ["", "Saved tag '" ++ tag.name ++ "' (" ++ tag.id ++ "): " ++ tag.description]
      (some tag)

/-! ### Identities -/

/-- A spelling with the identity that it is shown as, if that is another. -/
def rawLine (w : Workspace) (raw : String) : String :=
  match Workspace.nonEmpty (w.aliases.get? raw) with
  | some shown => raw ++ " -> " ++ shown
  | none => raw

/-- A heading with a count, and the identities below it. -/
def countedLines (heading : String) (identities : List String) : List String :=
  (heading ++ " (" ++ toString identities.length ++ ")") :: identities.map ("  " ++ ·)

/-- List identities, as they are shown or as they are written. -/
def identities (w : Workspace) (which : IdentityChoice) (raw : Bool) : Response :=
  let catalog := w.catalog
  if raw then
    let chosen := catalog.raw.filter fun identity => match which with
      | .both => true
      | .numbers => isNumeric identity
      | .names => !isNumeric identity
    .shown (chosen.map (rawLine w))
  else
    .shown
      ((if which = .names then [] else countedLines "Numbers" catalog.numbers) ++
        (if which = .numbers then [] else countedLines "Speakers" catalog.speakers))

/-- Show several spellings as one identity. -/
def mergeAlias (w : Workspace) (display : String) (raws : List String) : Response := do
  let w ← .tryOn (w.mergeAlias raws display)
  .changed w
    ["Unified " ++ toString (firstOccurrences raws).length ++ " identities as '" ++ trimmed display ++ "'"]

/-! ### Tags -/

/-- Print the lines about a tag, if its timestamp can be shown. -/
def printTag (tag : Tag) : Action Unit := do
  let created ← .attempt ((shownToMinute tag.timestamp).mapError .timestamp)
  .print [tag.name ++ "  [" ++ tag.id ++ "]", "   " ++ tag.description ++ " - created " ++ created]

def listTags (w : Workspace) : Response :=
  if w.tags.isEmpty then .shown ["No saved tags."]
  else do
    .print ["Saved Tags (" ++ toString w.tags.length ++ ")", rule]
    w.tags.forM printTag
    return none

def renameTag (w : Workspace) (ref name : String) : Response := do
  let id ← .tryOn (findTag w ref)
  let (w, tag) ← .tryOn (w.renameTag id name)
  .changed w ["Renamed tag " ++ tag.id ++ " to '" ++ tag.name ++ "'"]

def deleteTag (w : Workspace) (ref : String) : Response := do
  let id ← .tryOn (findTag w ref)
  .changed (w.deleteTag id).1 ["Deleted tag " ++ id]

/-! ### Source files and sessions -/

def listFiles (w : Workspace) : Response :=
  let files := w.sessions.sourceFiles
  if files.isEmpty then .shown ["No files loaded."]
  else .shown (files.map fun (name, count) => name ++ "  (" ++ toString count ++ " sessions)")

def deleteFiles (w : Workspace) (names : List String) : Response :=
  let (w, removed) := w.deleteSourceFiles names
  .changed w
    ["Deleted " ++ toString removed ++ " sessions from " ++ toString names.length ++ " files"]

def deleteSessions (w : Workspace) (ids : List String) : Response :=
  let (w, removed) := w.deleteSessions ids
  .changed w ["Deleted " ++ toString removed ++ " sessions"]

def respond (stamp : TagStore.Stamp) (usualLimit : Nat) (w : Workspace) : Command → Response
  | .search request => search stamp usualLimit w request
  | .identities which raw => identities w which raw
  | .mergeAlias display raws => mergeAlias w display raws
  | .listTags => listTags w
  | .renameTag tag name => renameTag w tag name
  | .deleteTag tag => deleteTag w tag
  | .listFiles => listFiles w
  | .deleteFiles names => deleteFiles w names
  | .deleteSessions ids => deleteSessions w ids

end Transcripts.CommandLine
