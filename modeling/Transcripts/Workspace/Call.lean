/-
  Transcripts/Workspace/Call.lean
  ===============================
  **Calls, one write after another.**

  Here the operations that can be refused are followed step by step.  A call reads a
  store, checks, writes, and turns to the next store, in the order in which its steps
  stand; if it is refused, what it has written by then stays written.
-/
import Transcripts.Workspace.Basic

namespace Transcripts

/-- A run over a state.  Where it stops with a fault, the state is what it was then. -/
abbrev Steps (ε σ α : Type) : Type := EStateM ε σ α

/-- A part of a state that is read and written on its own. -/
structure Part (σ τ : Type) where
  read : σ → τ
  write : σ → τ → σ
  write_read (s : σ) : write s (read s) = s := by intro s; rfl

/-- Change a part of a state.  It is written back however the change ends. -/
def Part.change {ε ε' σ τ α : Type} (part : Part σ τ) (fault : ε → ε') (change : Steps ε τ α) :
    Steps ε' σ α := fun s =>
  match change (part.read s) with
  | .ok answer t => .ok answer (part.write s t)
  | .error e t => .error (fault e) (part.write s t)

namespace Identity.AliasMap.Call

open Transcripts.Text

def merge (raws : List String) (display : String) : Steps MergeFault AliasMap AliasMap :=
  let display := trimmed display
  if display.isEmpty then throw .blankDisplay
  else
    let raws := firstOccurrences (raws.filter (!·.isEmpty))
    if raws.isEmpty then throw .nothingSelected
    else do
      modify (·.unify raws display)
      get

end Identity.AliasMap.Call

namespace TagStore.Call

open Transcripts.Text

def create (stamp : Stamp) (name : String) (sessionIds : List String) (description : Option String)
    (fromSelection : Bool) : Steps TagFault TagStore Tag :=
  if isBlankText name then throw .blankName
  else do
    let tag := stamp.tag name sessionIds description fromSelection
    modify (tag :: ·)
    return tag

def rename (id name : String) : Steps TagFault TagStore Tag :=
  if isBlankText name then throw .blankName
  else do
    match (← get).get? id with
    | none => throw (.unknownTag id)
    | some tag =>
      let renamed := { tag with name := trimmed name }
      modify fun store => store.map fun t => if t.id == id then renamed else t
      return renamed

end TagStore.Call

namespace LegalRegistry.Call

open Transcripts.Text

def add (freshId : String) (category : LegalCategory) (label : String) (description : Option String) :
    Steps LegalFault LegalRegistry LegalReference :=
  if isBlankText label then throw .blankLabel
  else do
    let ref : LegalReference :=
      { id := freshId, category := category, label := trimmed label, description := description }
    modify (Keyed.put · freshId ref)
    return ref

def setStatus (id : String) (status : LegalStatus) : Steps LegalFault LegalRegistry LegalReference := do
  match Keyed.get? (← get) id with
  | none => throw (.unknownReference id)
  | some ref =>
    let ref := { ref with status := status }
    modify (Keyed.put · id ref)
    return ref

/-- Remove a reference, and tell whether it was there. -/
def remove (id : String) : Steps LegalFault LegalRegistry Bool := do
  if Keyed.has (← get) id then
    modify (Keyed.erase · id)
    return true
  else return false

end LegalRegistry.Call

namespace SessionStore.Call

/-- Replace the session with an id by a change of it; the fault names an id that no
    session has. -/
def modify (id : String) (change : Session → Session) : Steps String SessionStore Session := do
  match (← get).get? id with
  | none => throw id
  | some s =>
    let changed := change s
    modifyThe SessionStore fun store => store.map fun t => if t.id == id then changed else t
    return changed

def unlinkEverywhere (ref : String) : Steps String SessionStore Nat := do
  let (store, changed) := (← get).unlinkEverywhere ref
  set store
  return changed

end SessionStore.Call

namespace Workspace

/-- What is done to a workspace, with its answer. -/
abbrev Call (α : Type) : Type := Steps WorkspaceFault Workspace α

def sessionPart : Part Workspace SessionStore where
  read := (·.sessions)
  write w sessions := { w with sessions }

def aliasPart : Part Workspace Identity.AliasMap where
  read := (·.aliases)
  write w aliases := { w with aliases }

def tagPart : Part Workspace TagStore where
  read := (·.tags)
  write w tags := { w with tags }

def legalPart : Part Workspace LegalRegistry where
  read := (·.legal)
  write w legal := { w with legal }

namespace Call

/-- Take over the inputs of a search, then search. -/
def search (inputs : SearchInputs) : Call (List String) := do
  modify (·.commit inputs)
  match (← get).search with
  | .ok ids => return ids
  | .error fault => throw (.date fault)

def mergeAlias (raws : List String) (display : String) : Call Identity.AliasMap :=
  aliasPart.change .merge (Identity.AliasMap.Call.merge raws display)

def createTag (stamp : TagStore.Stamp) (name : String) : Option (List String) → Call Tag
  | some ids => tagPart.change .tag (TagStore.Call.create stamp name ids none false)
  | none => do
    let w ← get
    if w.selection.isEmpty then
      let ids ← search {}
      tagPart.change .tag (TagStore.Call.create stamp name ids none false)
    else
      let ids := (w.sessions.map (·.id)).filter w.selection.contains
      tagPart.change .tag (TagStore.Call.create stamp name ids none true)

def renameTag (id name : String) : Call Tag := tagPart.change .tag (TagStore.Call.rename id name)

def link (id ref : String) : Call Session := do
  if Keyed.has (← get).legal ref then
    sessionPart.change .unknownSession (SessionStore.Call.modify id (·.link ref))
  else throw (.legal (.unknownReference ref))

def unlink (id ref : String) : Call Session :=
  sessionPart.change .unknownSession (SessionStore.Call.modify id (·.unlink ref))

/-- Remove a legal reference first, and then the links to it. -/
def removeReference (ref : String) : Call Nat := do
  if ← legalPart.change .legal (LegalRegistry.Call.remove ref) then
    sessionPart.change .unknownSession (SessionStore.Call.unlinkEverywhere ref)
  else throw (.legal (.unknownReference ref))

def addReference (freshId : String) (category : LegalCategory) (label : String)
    (description : Option String) : Call LegalReference :=
  legalPart.change .legal (LegalRegistry.Call.add freshId category label description)

def archiveReference (id : String) : Call LegalReference :=
  legalPart.change .legal (LegalRegistry.Call.setStatus id .archived)

def reviveReference (id : String) : Call LegalReference :=
  legalPart.change .legal (LegalRegistry.Call.setStatus id .active)

end Call

end Workspace

end Transcripts
