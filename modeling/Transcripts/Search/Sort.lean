/-
  Transcripts/Search/Sort.lean
  ============================
  **The order of the sessions that were found.**

  Sessions are ordered by one key: date and start time, duration, or an identity
  as it is shown.  Sessions with equal keys keep the order they came in, whether
  the keys ascend or descend.
-/
import Transcripts.Calendar.Clock
import Transcripts.Calendar.Written
import Transcripts.Identity.Alias
import Transcripts.Session.Basic
import Transcripts.Text.Folding

namespace Transcripts.Search

open Transcripts.Calendar
open Transcripts.Identity
open Transcripts.Text

inductive SortOption where
  | dateDescending
  | dateAscending
  | durationDescending
  | sourceNumber
  | destinationNumber
  | sourceName
  | destinationName
deriving DecidableEq, Repr, Inhabited

namespace SortOption

/-- All options, in the order in which they are offered. -/
def all : List SortOption :=
  [.dateDescending, .dateAscending, .durationDescending, .sourceNumber, .destinationNumber,
    .sourceName, .destinationName]

def text : SortOption → String
  | .dateDescending => "date_desc"
  | .dateAscending => "date_asc"
  | .durationDescending => "duration_desc"
  | .sourceNumber => "source_num"
  | .destinationNumber => "dest_num"
  | .sourceName => "source_name"
  | .destinationName => "dest_name"

def ofText? (name : String) : Option SortOption := all.find? (·.text = name)

end SortOption

/-- Date and start time; sessions without a date come before all others. -/
structure DateKey where
  date : Date
  startTime : String

/-- Dates first, then start times as texts. -/
def DateKey.compare (a b : DateKey) : Ordering :=
  (Date.compare a.date b.date).then (Ord.compare a.startTime b.startTime)

def dateKey (s : Session) : Except Oversize DateKey := do
  return ⟨(← sessionDate s.date).getD .first, s.startTime.getD ""⟩

/-- The first identity that is known, folded. -/
def identityKey (identities : List (Option String)) : String :=
  folded (((identities.filterMap id).find? (!·.isEmpty)).getD "")

/-- Sort sessions by a key; those with equal keys keep their order. -/
def sortByKey {κ : Type} (compare : κ → κ → Ordering) (descending : Bool)
    (keyed : List (κ × Session)) : List Session :=
  (keyed.mergeSort fun a b =>
    let order := compare a.1 b.1
    if descending then order.isGE else order.isLE).map (·.2)

def sortSessions (option : SortOption) (aliases : AliasMap) (sessions : List Session) :
    Except Oversize (List Session) :=
  let byDate (descending : Bool) : Except Oversize (List Session) := do
    return sortByKey DateKey.compare descending (← sessions.mapM fun s => return (← dateKey s, s))
  let byIdentity (fields : Session → List (Option String)) : List Session :=
    sortByKey Ord.compare false
      (sessions.map fun s => (identityKey ((fields s).map aliases.resolve), s))
  match option with
  | .dateDescending => byDate true
  | .dateAscending => byDate false
  | .durationDescending =>
    .ok (sortByKey Ord.compare true
      (sessions.map fun s => (durationSeconds (s.duration.getD ""), s)))
  | .sourceNumber => .ok (byIdentity fun s => [s.sourceNumber])
  | .destinationNumber => .ok (byIdentity fun s => [s.destinationNumber])
  | .sourceName => .ok (byIdentity fun s => [s.sourceName, s.sourceNumber])
  | .destinationName => .ok (byIdentity fun s => [s.destinationName, s.destinationNumber])

end Transcripts.Search
