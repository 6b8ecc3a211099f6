/-
  Transcripts/Workspace/Basic.lean
  ================================
  **The workspace: everything that an investigator works on.**

  A workspace holds the sessions, the alias map, the tags and the legal
  references, together with what is being searched for: the criteria, the tags
  and the selection that limit the search, and the order of its results.  Each
  operation gives the new workspace beside its answer; one that is refused
  gives its reason, and the workspace stays as it was.
-/
import Transcripts.Project.Basic
import Transcripts.Search.Filter
import Transcripts.Search.Sort
import Transcripts.Session.Store

namespace Transcripts

open Transcripts.Calendar
open Transcripts.Identity
open Transcripts.Search
open Transcripts.Text

/-- What of a workspace is stored. -/
structure Stores (τ : Type := String) where
  sessions : SessionStore τ := []
  aliases : AliasMap τ := []
  tags : TagStore τ := []
  legal : LegalRegistry τ := []

namespace Stores

/-- Merge a project into what is stored.  Its sessions, aliases and references win
    over those with the same key; its tags do not. -/
def restore {τ : Type} [DecidableEq τ] [Textual τ] (stores : Stores τ) (p : Project τ) : Stores τ where
  sessions := stores.sessions.addAll p.sessions
  tags := stores.tags.extend p.tags
  aliases := stores.aliases.update p.aliases
  legal := stores.legal.extend p.legalReferences

def snapshot {τ : Type} [Textual τ] (stores : Stores τ) : Project τ where
  version := Project.currentVersion
  sessions := stores.sessions
  tags := stores.tags
  aliases := stores.aliases
  legalReferences := stores.legal.all

end Stores

structure Workspace extends Stores where
  /-- How a speaker is found where no name is stored. -/
  speaker : SpeakerFinder := firstLineSpeaker
  filters : Filters := {}
  activeTags : List String := []
  selection : TextSet := []
  viewOnly : Bool := false
  sort : SortOption := .dateDescending

inductive WorkspaceFault where
  | merge (fault : AliasMap.MergeFault)
  | tag (fault : TagFault)
  | legal (fault : LegalFault)
  | unknownSession (id : String)
  | date (fault : Oversize)
deriving DecidableEq, Repr

def WorkspaceFault.message : WorkspaceFault → String
  | .merge fault => fault.message
  | .tag fault => fault.message
  | .legal fault => fault.message
  | .unknownSession id => "Session not found: " ++ id
  | .date fault => fault.message

namespace Workspace

/-! ### Searching -/

/-- The inputs of a search; those that are missing stay as they were. -/
structure SearchInputs where
  filters : Option Filters := none
  activeTags : Option (List String) := none
  viewOnly : Option Bool := none
  sort : Option SortOption := none

/-- Limit searches to tags, each named once. -/
def setActiveTags (w : Workspace) (ids : List String) : Workspace :=
  { w with activeTags := firstOccurrences ids }

def commit (w : Workspace) (inputs : SearchInputs) : Workspace :=
  { w with
    filters := inputs.filters.getD w.filters
    activeTags := (inputs.activeTags.map firstOccurrences).getD w.activeTags
    viewOnly := inputs.viewOnly.getD w.viewOnly
    sort := inputs.sort.getD w.sort }

def scope (w : Workspace) : Scope :=
  { activeTags := w.activeTags, tags := w.tags, selection := w.selection, viewOnly := w.viewOnly }

def context (w : Workspace) : Context :=
  { aliases := w.aliases, legal := some w.legal, speaker := w.speaker }

/-- The sessions that are found, in order. -/
def found (w : Workspace) : Except Oversize (List Session) := do
  let accepted ← filterSessions w.sessions w.filters w.scope w.context
  let ids := accepted.map (·.id)
  sortSessions w.sort w.aliases (w.sessions.filter fun s => ids.contains s.id)

def search (w : Workspace) : Except Oversize (List String) := do
  return (← w.found).map (·.id)

/-- Forget the criteria, the selection and the active tags. -/
def clearFilters (w : Workspace) : Workspace :=
  { w with filters := {}, selection := [], viewOnly := false, activeTags := [] }

/-! ### Identities -/

def resolve (w : Workspace) (raw : Option String) : Option String := w.aliases.resolve raw

/-- Show several spellings as one identity. -/
def mergeAlias (w : Workspace) (raws : List String) (display : String) :
    Except WorkspaceFault Workspace := do
  let aliases ← (w.aliases.merge raws display).mapError .merge
  return { w with aliases }

def missingLabel : String := "N/D"

/-- A text, if it is there and not empty. -/
def nonEmpty (text : Option String) : Option String := text.filter (!·.isEmpty)

/-- How one end of a session is shown: by name, by number, or as missing. -/
def displayLabel (w : Workspace) (number name : Option String) : String :=
  ((nonEmpty (w.resolve name)).or (nonEmpty (w.resolve number))).getD missingLabel

structure Catalog where
  numbers : TextSet
  speakers : TextSet
  /-- The spellings behind both. -/
  raw : TextSet
deriving DecidableEq, Repr

def catalogued (w : Workspace) (raws : List String) : List String :=
  raws.filter fun raw => (nonEmpty (w.resolve (some raw))).isSome

/-- The numbers and the speakers of all sessions, as they are shown. -/
def catalog (w : Workspace) : Catalog :=
  let numbers := w.catalogued (w.sessions.flatMap fun s =>
    s.target :: s.sourceNumber.toList ++ s.destinationNumber.toList)
  let speakers := w.catalogued (w.sessions.flatMap fun s =>
    s.sourceName.toList ++ s.destinationName.toList ++ contentSpeakers s.content)
  let shown (raws : List String) : TextSet := .ofList (raws.filterMap fun raw => w.resolve (some raw))
  { numbers := shown numbers, speakers := shown speakers, raw := .ofList (numbers ++ speakers) }

/-! ### Tags -/

/-- Make a tag.  Without sessions it takes the selection, and without a selection
    what the search finds. -/
def createTag (w : Workspace) (stamp : TagStore.Stamp) (name : String)
    (sessionIds : Option (List String)) : Except WorkspaceFault (Workspace × Tag) := do
  let (ids, fromSelection) ← match sessionIds with
    | some ids => pure (ids, false)
    | none =>
      if w.selection.isEmpty then pure (← w.search.mapError .date, false)
      else pure ((w.sessions.map (·.id)).filter w.selection.contains, true)
  let (tags, tag) ← (w.tags.create stamp name ids none fromSelection).mapError .tag
  return ({ w with tags }, tag)

def renameTag (w : Workspace) (id name : String) : Except WorkspaceFault (Workspace × Tag) := do
  let (tags, tag) ← (w.tags.rename id name).mapError .tag
  return ({ w with tags }, tag)

/-- Delete a tag, which is then no longer active. -/
def deleteTag (w : Workspace) (id : String) : Workspace × Bool :=
  let (tags, was) := w.tags.delete id
  ({ w with tags, activeTags := w.activeTags.filter (· != id) }, was)

/-- Make a tag active or inactive; tells whether it is active now. -/
def toggleTag (w : Workspace) (id : String) : Workspace × Bool :=
  if w.activeTags.contains id then
    ({ w with activeTags := w.activeTags.filter (· != id) }, false)
  else ({ w with activeTags := w.activeTags ++ [id] }, true)

/-! ### Selection -/

def select (w : Workspace) (ids : List String) : Workspace :=
  { w with selection := TextSet.union w.selection ids }

def deselect (w : Workspace) (ids : List String) : Workspace :=
  { w with selection := TextSet.without w.selection ids }

/-- Change whether a session is selected; tells whether it is now. -/
def toggleSelection (w : Workspace) (id : String) : Workspace × Bool :=
  if w.selection.contains id then (w.deselect [id], false) else (w.select [id], true)

/-- Select exactly the given sessions, or what the search finds. -/
def selectAll (w : Workspace) (ids : Option (List String)) : Except WorkspaceFault Workspace := do
  let ids ← match ids with
    | some ids => pure ids
    | none => w.search.mapError .date
  return { w with selection := .ofList ids }

def clearSelection (w : Workspace) : Workspace := { w with selection := [] }

/-! ### Sessions and source files -/

/-- Delete sessions, which are then no longer selected; tells how many. -/
def deleteSessions (w : Workspace) (ids : List String) : Workspace × Nat :=
  let (sessions, removed) := w.sessions.delete ids
  ({ w with sessions }.deselect ids, removed)

/-- Delete the sessions of source files, which are then no longer selected. -/
def deleteSourceFiles (w : Workspace) (names : List String) : Workspace × Nat :=
  let doomed := (w.sessions.filter fun s => names.contains s.sourceLabel).map (·.id)
  let (sessions, removed) := w.sessions.deleteFiles names
  ({ w with sessions }.deselect doomed, removed)

/-! ### Legal references -/

def modifySession (w : Workspace) (id : String) (change : Session → Session) :
    Except WorkspaceFault (Workspace × Session) :=
  match w.sessions.modify? id change with
  | some (sessions, s) => .ok ({ w with sessions }, s)
  | none => .error (.unknownSession id)

def link (w : Workspace) (id ref : String) : Except WorkspaceFault (Workspace × Session) :=
  if Keyed.has w.legal ref then w.modifySession id (·.link ref)
  else .error (.legal (.unknownReference ref))

def unlink (w : Workspace) (id ref : String) : Except WorkspaceFault (Workspace × Session) :=
  w.modifySession id (·.unlink ref)

/-- Remove a legal reference and unlink it from every session; tells from how many. -/
def removeReference (w : Workspace) (ref : String) : Except WorkspaceFault (Workspace × Nat) :=
  match w.legal.remove? ref with
  | none => .error (.legal (.unknownReference ref))
  | some legal =>
    let (sessions, changed) := w.sessions.unlinkEverywhere ref
    .ok ({ w with legal, sessions }, changed)

/-! ### Projects -/

/-- Merge a project into the workspace. -/
def restore (w : Workspace) (p : Project) : Workspace :=
  { w with toStores := w.toStores.restore p }

def snapshot (w : Workspace) : Project := w.toStores.snapshot

def ofProject (p : Project) (sort : SortOption) (speaker : SpeakerFinder) : Workspace :=
  restore { sort, speaker } p

end Workspace

end Transcripts
