/-
  Transcripts/Tag/Store.lean
  ==========================
  **Saved tags.**

  A tag is a named set of sessions that later searches can be limited to.  The
  newest tag comes first; tags that are loaded go behind those already there.
-/
import Transcripts.Collection.Basic
import Transcripts.Text.CharClass

namespace Transcripts

open Transcripts.Text

structure Tag (τ : Type := String) where
  id : τ
  name : τ
  /-- When the tag was made, in milliseconds since the beginning of 1970. -/
  timestamp : Int
  sessionIds : List τ
  /-- How the set came about. -/
  description : τ := by exact ""
deriving DecidableEq, Repr

inductive TagFault where
  | blankName
  | unknownTag (id : String)
deriving DecidableEq, Repr

def TagFault.message : TagFault → String
  | .blankName => "Tag name must not be empty"
  | .unknownTag id => "Tag not found: " ++ id

/-- Tags, the newest first. -/
abbrev TagStore (τ : Type := String) : Type := List (Tag τ)

namespace TagStore

/-- How a set of sessions came about: by hand or by a search. -/
def describeSource (count : Int) (fromSelection : Bool) : String :=
  toString count ++ " items (" ++ (if fromSelection then "selection" else "filter") ++ ")"

def get? (store : TagStore) (id : String) : Option Tag := store.find? (·.id == id)

/-- What a new tag is made of besides its name and its sessions. -/
structure Stamp where
  id : String
  timestamp : Int

/-- A tag as it is made.  Without a description it says how many sessions it has and
    how they were chosen. -/
def Stamp.tag (stamp : Stamp) (name : String) (sessionIds : List String)
    (description : Option String) (fromSelection : Bool) : Tag :=
  let ids := firstOccurrences sessionIds
  let described := match description with
    | some text => if text.isEmpty then describeSource ids.length fromSelection else text
    | none => describeSource ids.length fromSelection
  { id := stamp.id, name := trimmed name, timestamp := stamp.timestamp, sessionIds := ids
    description := described }

/-- Make a tag and put it in front. -/
def create (store : TagStore) (stamp : Stamp) (name : String) (sessionIds : List String)
    (description : Option String) (fromSelection : Bool) : Except TagFault (TagStore × Tag) :=
  if isBlankText name then .error .blankName
  else
    let tag := stamp.tag name sessionIds description fromSelection
    .ok (tag :: store, tag)

def rename (store : TagStore) (id name : String) : Except TagFault (TagStore × Tag) :=
  if isBlankText name then .error .blankName
  else match store.get? id with
    | none => .error (.unknownTag id)
    | some tag =>
      let renamed := { tag with name := trimmed name }
      .ok (store.map fun t => if t.id == id then renamed else t, renamed)

/-- Delete a tag, and tell whether it was there. -/
def delete (store : TagStore) (id : String) : TagStore × Bool :=
  (store.filter (·.id != id), store.any (·.id == id))

/-- Put loaded tags behind the others, leaving out ids that are known. -/
def extend {τ : Type} [DecidableEq τ] (store : TagStore τ) (tags : List (Tag τ)) : TagStore τ :=
  tags.foldl (fun store tag => if store.any (·.id == tag.id) then store else store ++ [tag]) store

/-- The loaded tags whose ids are new.  An id that has come up is known from then on. -/
def newcomers (known : List String) : List Tag → List Tag
  | [] => []
  | tag :: tags =>
    if known.contains tag.id then newcomers known tags
    else tag :: newcomers (known ++ [tag.id]) tags

/-- Put loaded tags behind the others, and count those that are new. -/
def add (store : TagStore) (tags : List Tag) : TagStore × Nat :=
  let new := newcomers (store.map (·.id)) tags
  (store ++ new, new.length)

def scope (store : TagStore) (ids : List String) : TextSet :=
  TextSet.ofList ((store.filter fun tag => ids.contains tag.id).flatMap (·.sessionIds))

end TagStore

end Transcripts
