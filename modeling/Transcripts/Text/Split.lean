/-
  Transcripts/Text/Split.lean
  ===========================
  **Taking texts apart and putting them together.**

  `splitOn sep` keeps empty parts, so the parts joined by the separator are the text
  again; `pieces` drops them and treats a run of separators as one.  Lines end in any
  of three ways, with a line feed, a carriage return or both; reading a file turns each
  of them into a line feed.
-/

namespace Transcripts.Text

variable {α : Type}

/-- The parts of a list between the elements that satisfy `sep`; there is
    always at least one part. -/
def splitBy (sep : α → Bool) : List α → List (List α)
  | [] => [[]]
  | c :: cs =>
    if sep c then [] :: splitBy sep cs
    else match splitBy sep cs with
      | part :: parts => (c :: part) :: parts
      | [] => [[c]]

/-- The parts of a text between the occurrences of one character. -/
def splitOn (sep : Char) (cs : List Char) : List (List Char) := splitBy (· == sep) cs

/-- The non-empty parts of a list between the elements that satisfy `sep`. -/
def pieces (sep : α → Bool) (cs : List α) : List (List α) :=
  (splitBy sep cs).filter (!·.isEmpty)

/-- Whether the first list begins the second. -/
def begins [BEq α] : List α → List α → Bool
  | [], _ => true
  | _ :: _, [] => false
  | a :: as, b :: bs => a == b && begins as bs

/-- Whether the first list occurs, without gaps, in the second. -/
def occursIn [BEq α] (part : List α) : List α → Bool
  | [] => part.isEmpty
  | c :: cs => begins part (c :: cs) || occursIn part cs

def joinWith (sep : String) (texts : List String) : String := sep.intercalate texts

/-- Turn every line end into a line feed. -/
def unifyLineEnds : List Char → List Char
  | [] => []
  | '\r' :: '\n' :: cs => '\n' :: unifyLineEnds cs
  | '\r' :: cs => '\n' :: unifyLineEnds cs
  | c :: cs => c :: unifyLineEnds cs

end Transcripts.Text
