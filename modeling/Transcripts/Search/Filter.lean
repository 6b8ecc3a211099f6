/-
  Transcripts/Search/Filter.lean
  ==============================
  **What a search asks for, and which sessions it accepts.**

  A search asks for sessions that meet every criterion that is set.  Criteria
  with several values are met by any of them.

  The criteria are prepared once: the content query is compiled, the date
  bounds are read.  A session is accepted if it meets each criterion that is
  set; identities are compared as they are shown, so merged spellings count as
  one.  Two scopes narrow the sessions beforehand: the active tags, and the
  selection made by hand.
-/
import Transcripts.Calendar.Clock
import Transcripts.Calendar.Written
import Transcripts.Identity.Alias
import Transcripts.Identity.Speaker
import Transcripts.Legal.Reference
import Transcripts.Query.Compiled
import Transcripts.Session.Basic
import Transcripts.Tag.Store

namespace Transcripts.Search

open Transcripts.Calendar
open Transcripts.Identity
open Transcripts.Text

structure Filters where
  /-- Parts of session ids, separated by commas. -/
  session : String := ""
  content : String := ""
  dateStart : DateBound := .unset
  dateEnd : DateBound := .unset
  /-- Bounds on the start time, written `HH:MM`. -/
  timeStart : String := ""
  timeEnd : String := ""
  /-- Bounds on the duration of calls, in seconds. -/
  minDuration : Option Int := none
  maxDuration : Option Int := none
  sourceNumbers : List String := []
  destinationNumbers : List String := []
  sourceSpeakers : List String := []
  destinationSpeakers : List String := []
  /-- Labels of legal references of each category. -/
  articles : List String := []
  facts : List String := []
  legalTags : List String := []
deriving DecidableEq, Repr

/-- Whether a date bound is left open. -/
def isUnset : DateBound → Bool
  | .unset => true
  | .written text => text.isEmpty
  | .exactly _ | .moment _ => false

/-- Whether no criterion is set. -/
def Filters.isEmpty (f : Filters) : Bool :=
  f.session.isEmpty && f.content.isEmpty && isUnset f.dateStart && isUnset f.dateEnd &&
    f.timeStart.isEmpty && f.timeEnd.isEmpty && f.minDuration.isNone && f.maxDuration.isNone &&
    f.sourceNumbers.isEmpty && f.destinationNumbers.isEmpty && f.sourceSpeakers.isEmpty &&
    f.destinationSpeakers.isEmpty && f.articles.isEmpty && f.facts.isEmpty && f.legalTags.isEmpty

/-! ### What is looked at -/

structure Context where
  aliases : AliasMap := []
  /-- The legal references, if there is a registry at all. -/
  legal : Option LegalRegistry := none
  /-- How a speaker is found where no name is stored. -/
  speaker : SpeakerFinder := firstLineSpeaker

structure Prepared where
  filters : Filters
  query : Query.Compiled
  fragments : List (List Char)
  dateStart : Option Date
  dateEnd : Option Date

/-- The parts of session ids that are asked for, lowered. -/
def sessionFragments (session : String) : List (List Char) :=
  ((splitOn ',' session.toList).map fun part => lower (trim part)).filter (!·.isEmpty)

def prepare (filters : Filters) : Except Oversize Prepared := do
  let dateStart ← filters.dateStart.resolve
  let dateEnd ← filters.dateEnd.resolve
  return {
    filters, dateStart, dateEnd
    query := Query.compile filters.content
    fragments := sessionFragments filters.session }

/-! ### The criteria one by one -/

/-- Messages have no duration, so any bound on it rejects them. -/
def meetsDuration (f : Filters) (s : Session) : Bool :=
  (f.minDuration.isNone && f.maxDuration.isNone) ||
    (s.isAudio &&
      let seconds := durationSeconds (s.duration.getD "")
      f.minDuration.all (· ≤ seconds) && f.maxDuration.all (seconds ≤ ·))

/-- Whether one of several identities, as shown, is asked for. -/
def meetsIdentity (aliases : AliasMap) (wanted : List String) (candidates : List (Option String)) :
    Bool :=
  wanted.isEmpty || candidates.any fun raw => (aliases.resolve raw).any wanted.contains

/-- Whether one of the labels that are asked for is linked to a session. -/
def meetsLegal (legal : Option LegalRegistry) (category : LegalCategory) (wanted : List String)
    (s : Session) : Bool :=
  wanted.isEmpty || legal.any fun registry =>
    (registry.labelsFor s.legalReferenceIds category).any wanted.contains

/-- Whether the lowered id of a session holds one of the fragments. -/
def meetsFragments (fragments : List (List Char)) (s : Session) : Bool :=
  fragments.isEmpty || fragments.any (occursIn · (lower s.id.toList))

/-- Whether a session lies within the date bounds.  One without a date that can
    be read is not held back. -/
def meetsDates (start stop : Option Date) (s : Session) : Except Oversize Bool :=
  if start.isNone ∧ stop.isNone then .ok true
  else do
    match ← sessionDate s.date with
    | none => return true
    | some d =>
      return start.all (fun b => Date.compare d b ≠ .lt) && stop.all (fun b => Date.compare d b ≠ .gt)

/-- Whether a session starts within the time bounds.  One without a start time
    is not held back. -/
def meetsTimes (f : Filters) (s : Session) : Bool :=
  (f.timeStart.isEmpty && f.timeEnd.isEmpty) || (s.startTime.getD "").isEmpty ||
    isWithin (s.startTime.getD "") f.timeStart f.timeEnd

def Prepared.meetsUndated (p : Prepared) (context : Context) (s : Session) : Bool :=
  meetsDuration p.filters s &&
    meetsIdentity context.aliases p.filters.sourceNumbers [s.sourceNumber] &&
    meetsIdentity context.aliases p.filters.destinationNumbers [s.destinationNumber] &&
    meetsIdentity context.aliases p.filters.sourceSpeakers
      [s.sourceName, s.sourceNumber, context.speaker s.content] &&
    meetsIdentity context.aliases p.filters.destinationSpeakers
      [s.destinationName, s.destinationNumber] &&
    meetsLegal context.legal .article p.filters.articles s &&
    meetsLegal context.legal .fact p.filters.facts s &&
    meetsLegal context.legal .tag p.filters.legalTags s &&
    meetsFragments p.fragments s &&
    p.query.finds s.content

/-- Whether a session meets every criterion.  Its date is read only if all that
    comes before it is met. -/
def Prepared.accepts (p : Prepared) (context : Context) (s : Session) : Except Oversize Bool :=
  if p.meetsUndated context s then do
    return (← meetsDates p.dateStart p.dateEnd s) && meetsTimes p.filters s
  else .ok false

/-! ### Scopes -/

structure Scope where
  /-- Tags whose sessions the search is limited to; no limit if there are none. -/
  activeTags : List String := []
  tags : TagStore := []
  /-- The sessions selected by hand, and whether the search is limited to them. -/
  selection : TextSet := []
  viewOnly : Bool := false

def Scope.admits (scope : Scope) (s : Session) : Bool :=
  (scope.activeTags.isEmpty || (scope.tags.scope scope.activeTags).contains s.id) &&
    (!scope.viewOnly || scope.selection.contains s.id)

/-- The sessions in scope that meet every criterion, in the given order. -/
def filterSessions (sessions : List Session) (filters : Filters) (scope : Scope) (context : Context) :
    Except Oversize (List Session) := do
  let prepared ← prepare filters
  (sessions.filter scope.admits).filterM (prepared.accepts context)

end Transcripts.Search
