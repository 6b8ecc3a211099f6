/-
  Transcripts/Legal/Reference.lean
  ================================
  **Legal references.**

  Articles of law, facts of the case and free tags that sessions are linked to.
  Archiving a reference hides it from pickers; searches still know it.
-/
import Transcripts.Collection.Basic
import Transcripts.Text.CharClass

namespace Transcripts

open Transcripts.Text

inductive LegalCategory where
  | article
  | fact
  | tag
deriving DecidableEq, Repr, Inhabited

def LegalCategory.text : LegalCategory → String
  | .article => "article"
  | .fact => "fact"
  | .tag => "tag"

def LegalCategory.ofText? (text : String) : Option LegalCategory :=
  [LegalCategory.article, .fact, .tag].find? (·.text = text)

inductive LegalStatus where
  | active
  | archived
deriving DecidableEq, Repr, Inhabited

def LegalStatus.text : LegalStatus → String
  | .active => "active"
  | .archived => "archived"

def LegalStatus.ofText? (text : String) : Option LegalStatus :=
  [LegalStatus.active, .archived].find? (·.text = text)

structure LegalReference (τ : Type := String) where
  id : τ
  category : LegalCategory
  label : τ
  description : Option τ := none
  status : LegalStatus := .active
deriving DecidableEq, Repr

/-- Whether a reference is offered by pickers. -/
def LegalReference.isActive (r : LegalReference) : Bool := r.status = .active

inductive LegalFault where
  | blankLabel
  | unknownReference (id : String)
deriving DecidableEq, Repr

def LegalFault.message : LegalFault → String
  | .blankLabel => "Legal reference label must not be empty"
  | .unknownReference id => "Legal reference not found: " ++ id

/-- The legal references by id, in the order they were first registered. -/
abbrev LegalRegistry (τ : Type := String) : Type := Keyed τ (LegalReference τ)

namespace LegalRegistry

/-- Register references; later ones win over earlier ones with the same id. -/
def extend {τ : Type} [DecidableEq τ] (registry : LegalRegistry τ) (refs : List (LegalReference τ)) :
    LegalRegistry τ :=
  Keyed.putAll registry (refs.map fun r => (r.id, r))

def ofList (refs : List LegalReference) : LegalRegistry := extend [] refs

def all {τ : Type} (registry : LegalRegistry τ) : List (LegalReference τ) := Keyed.values registry

/-- The references offered by pickers. -/
def active (registry : LegalRegistry) : List LegalReference := registry.all.filter (·.isActive)

/-- Register a new reference under a fresh id. -/
def add (registry : LegalRegistry) (freshId : String) (category : LegalCategory) (label : String)
    (description : Option String) : Except LegalFault (LegalRegistry × LegalReference) :=
  if isBlankText label then .error .blankLabel
  else
    let ref : LegalReference :=
      { id := freshId, category := category, label := trimmed label, description := description }
    .ok (Keyed.put registry freshId ref, ref)

def setStatus (registry : LegalRegistry) (id : String) (status : LegalStatus) :
    Except LegalFault (LegalRegistry × LegalReference) :=
  match Keyed.get? registry id with
  | none => .error (.unknownReference id)
  | some ref =>
    let ref := { ref with status := status }
    .ok (Keyed.put registry id ref, ref)

def archive (registry : LegalRegistry) (id : String) : Except LegalFault (LegalRegistry × LegalReference) :=
  registry.setStatus id .archived

def restore (registry : LegalRegistry) (id : String) : Except LegalFault (LegalRegistry × LegalReference) :=
  registry.setStatus id .active

/-- Remove a reference; nothing if it is not registered. -/
def remove? (registry : LegalRegistry) (id : String) : Option LegalRegistry :=
  if Keyed.has registry id then some (Keyed.erase registry id) else none

/-- The labels of those references among some ids that are of a category.  Ids
    that are not registered have no label. -/
def labelsFor (registry : LegalRegistry) (ids : List String) (category : LegalCategory) : TextSet :=
  TextSet.ofList (ids.filterMap fun id =>
    ((Keyed.get? registry id).filter (·.category = category)).map (·.label))

end LegalRegistry

end Transcripts
