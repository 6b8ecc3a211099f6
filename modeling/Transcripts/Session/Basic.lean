/-
  Transcripts/Session/Basic.lean
  ==============================
  **Sessions: the calls and messages that were transcribed.**

  A session is one call or message with its transcript and what is known about
  it.  Dates, times and durations stay texts, as the extraction wrote them;
  search reads them when it needs to.
-/
import Transcripts.Collection.Basic
import Transcripts.Text.CharClass
import Transcripts.Text.LetterCase

namespace Transcripts

open Transcripts.Text

inductive SessionKind where
  | audio
  | sms
deriving DecidableEq, Repr, Inhabited

def SessionKind.text : SessionKind → String
  | .audio => "AUDIO"
  | .sms => "SMS"

/-- The kind that a text names; whatever is not a message is a call. -/
def SessionKind.ofText (text : String) : SessionKind :=
  if raise (trim text.toList) = ['S', 'M', 'S'] then .sms else .audio

structure Session (τ : Type := String) where
  id : τ
  /-- The line under surveillance. -/
  target : τ
  /-- Written `DD.MM.YYYY`. -/
  date : τ
  kind : SessionKind
  content : τ
  /-- The file that the session was extracted from; empty if unknown. -/
  sourceFile : τ := by exact ""
  targetName : Option τ := none
  sourceNumber : Option τ := none
  sourceName : Option τ := none
  destinationNumber : Option τ := none
  destinationName : Option τ := none
  /-- Written `HH:MM:SS`, as is the end. -/
  startTime : Option τ := none
  endTime : Option τ := none
  /-- Written `HH:MM:SS` or `MM:SS`. -/
  duration : Option τ := none
  startPage : Int := 0
  endPage : Int := 0
  summary : Option τ := none
  legalReferenceIds : TextSet τ := []
deriving DecidableEq, Repr

namespace Session

def isAudio (s : Session) : Bool := s.kind = .audio

/-- The name that sessions without a source file are listed under. -/
def unknownSource : String := "Unknown"

def sourceLabel (s : Session) : String := if s.sourceFile.isEmpty then unknownSource else s.sourceFile

/-- A session linked to one more legal reference. -/
def link (s : Session) (ref : String) : Session :=
  { s with legalReferenceIds := TextSet.insert ref s.legalReferenceIds }

/-- A session no longer linked to a legal reference. -/
def unlink (s : Session) (ref : String) : Session :=
  { s with legalReferenceIds := TextSet.without s.legalReferenceIds [ref] }

end Session

end Transcripts
