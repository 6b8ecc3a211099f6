/-
  Transcripts/Identity/Speaker.lean
  =================================
  **Who speaks, by the beginning of a line.**

  Transcripts put the speaker in front of each turn, as in
  `Rui: estou a chegar`.  A speaker is a capital letter and one to thirty
  letters, digits, low lines, hyphens or blanks, up to a colon.
-/
import Transcripts.Text.CharClass
import Transcripts.Text.Split

namespace Transcripts.Identity

open Transcripts.Text

/-- A way to find the speaker of a content. -/
abbrev SpeakerFinder : Type := String → Option String

def beginsSpeaker (c : Char) : Bool := ('A' ≤ c && c ≤ 'Z') || ('À' ≤ c && c ≤ 'Ú')

/-- Whether a speaker may go on with a character. -/
def continuesSpeaker (c : Char) : Bool :=
  ('a' ≤ c && c ≤ 'z') || ('à' ≤ c && c ≤ 'ú') || ('0' ≤ c && c ≤ '9') || c = '_' || c = '-' ||
    isBlank c

def lineSpeaker? : List Char → Option String
  | [] => none
  | c :: cs =>
    let rest := cs.takeWhile continuesSpeaker
    if beginsSpeaker c ∧ 1 ≤ rest.length ∧ rest.length ≤ 30 ∧ (cs.drop rest.length).head? = some ':' then
      some (.ofList (trim (c :: rest)))
    else none

def linesOf (content : String) : List (List Char) := splitOn '\n' content.toList

def firstLineSpeaker : SpeakerFinder := fun content =>
  lineSpeaker? (content.toList.takeWhile (· ≠ '\n'))

/-- The speakers of the lines that have one, in order. -/
def contentSpeakers (content : String) : List String := (linesOf content).filterMap lineSpeaker?

end Transcripts.Identity
