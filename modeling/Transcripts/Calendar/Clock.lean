/-
  Transcripts/Calendar/Clock.lean
  ===============================
  **Durations and times of day.**

  A duration is written `HH:MM:SS` or `MM:SS`; anything else lasts no time.
  Times of day are compared as text on their `HH:MM` beginning, which is their
  order as long as both digits are written.
-/
import Transcripts.Numeral.Integer
import Transcripts.Text.Split

namespace Transcripts.Calendar

open Transcripts.Numeral
open Transcripts.Text

def durationSeconds (duration : String) : Int :=
  match (splitOn ':' (trim duration.toList)).map integer? with
  | [some hours, some minutes, some seconds] => hours * 3600 + minutes * 60 + seconds
  | [some minutes, some seconds] => minutes * 60 + seconds
  | _ => 0

/-- The `HH:MM` beginning of a time. -/
def minuteText (time : String) : String := .ofList (time.toList.take 5)

/-- Whether a time lies between two bounds, both included.  An empty bound does
    not bound; a range whose start is later than its end runs past midnight.  A
    missing time lies in no range. -/
def isWithin (time start stop : String) : Bool :=
  if time.isEmpty then false
  else
    let t := minuteText time
    let start := minuteText start
    let stop := minuteText stop
    if start.isEmpty then stop.isEmpty || t ≤ stop
    else if stop.isEmpty then start ≤ t
    else if start ≤ stop then start ≤ t && t ≤ stop
    else start ≤ t || t ≤ stop

end Transcripts.Calendar
