/-
  Transcripts/Session/Store.lean
  ==============================
  **The collection of sessions.**

  Sessions keep the order in which they were first added.  A session that
  comes again replaces the earlier one at its place, so ids stay distinct.
  Source files are a view of the collection: the files that its sessions came
  from, with how many sessions each gave.
-/
import Transcripts.Collection.Basic
import Transcripts.Session.Basic

namespace Transcripts

/-- Sessions with distinct ids, in the order in which they were first added. -/
abbrev SessionStore (τ : Type := String) : Type := List (Session τ)

namespace SessionStore

def get? (store : SessionStore) (id : String) : Option Session := store.find? (·.id == id)

section Adding

variable {τ : Type} [DecidableEq τ]

/-- Add a session, or replace the one with its id. -/
def upsert (store : SessionStore τ) (s : Session τ) : SessionStore τ :=
  if store.any (·.id == s.id) then store.map fun t => if t.id == s.id then s else t
  else store ++ [s]

/-- Add sessions one after another. -/
def addAll (store : SessionStore τ) (sessions : List (Session τ)) : SessionStore τ :=
  sessions.foldl upsert store

end Adding

/-- Sessions on their way into a collection: those that are in it by now, the place
    of each id among them, and how many of them are new. -/
structure Intake where
  sessions : SessionStore
  places : Keyed String Nat
  added : Nat := 0

/-- Before anything is taken in. -/
def Intake.start (store : SessionStore) : Intake where
  sessions := store
  places := .ofPairs (store.zipIdx.map fun (s, place) => (s.id, place))

/-- Put a session at the place of its id, or last. -/
def Intake.take (intake : Intake) (s : Session) : Intake :=
  match intake.places.get? s.id with
  | some place => { intake with sessions := intake.sessions.set place s }
  | none =>
    { sessions := intake.sessions ++ [s]
      places := intake.places.put s.id intake.sessions.length
      added := intake.added + 1 }

/-- Add sessions, and count those that are new.  The places of the ids are kept at
    hand, so the collection is searched only once. -/
def add (store : SessionStore) (sessions : List Session) : SessionStore × Nat :=
  let intake := sessions.foldl Intake.take (.start store)
  (intake.sessions, intake.added)

def ofList (sessions : List Session) : SessionStore := addAll [] sessions

/-- Drop the sessions that satisfy a condition, and count them. -/
def dropWhere (store : SessionStore) (doomed : Session → Bool) : SessionStore × Nat :=
  let kept := store.filter (!doomed ·)
  (kept, store.length - kept.length)

def delete (store : SessionStore) (ids : List String) : SessionStore × Nat :=
  store.dropWhere fun s => ids.contains s.id

def deleteFiles (store : SessionStore) (names : List String) : SessionStore × Nat :=
  store.dropWhere fun s => names.contains s.sourceLabel

/-- The source files in order of their first session, with their session counts. -/
def sourceFiles (store : SessionStore) : Keyed String Nat :=
  store.foldl (fun counts s =>
    Keyed.put counts s.sourceLabel ((Keyed.get? counts s.sourceLabel).getD 0 + 1)) []

/-- Replace the session with an id by a change of it; nothing if there is none. -/
def modify? (store : SessionStore) (id : String) (change : Session → Session) :
    Option (SessionStore × Session) :=
  (store.get? id).map fun s =>
    (store.map fun t => if t.id == id then change s else t, change s)

/-- Unlink a legal reference from every session, and count those that had it. -/
def unlinkEverywhere (store : SessionStore) (ref : String) : SessionStore × Nat :=
  (store.map fun s => if s.legalReferenceIds.contains ref then s.unlink ref else s,
    (store.filter fun s => s.legalReferenceIds.contains ref).length)

end SessionStore

end Transcripts
