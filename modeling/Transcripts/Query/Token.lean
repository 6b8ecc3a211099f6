/-
  Transcripts/Query/Token.lean
  ============================
  **The words of a content query.**

  A query is read as phrases in double quotes, operators, and words.  The
  operators are `AND`, `OR`, `NOT` in any case when they stand alone, the signs
  `+` and `-`, and parentheses; a sign or parenthesis also ends a word, so
  `carro-mota` is three tokens.  A double quote that opens no phrase is passed
  over.  Nothing else of the query is lost but blanks.
-/
import Transcripts.Text.CharClass
import Transcripts.Text.LetterCase

namespace Transcripts.Query

open Transcripts.Text

/-- The operators of a query.  The two spellings of conjunction and of negation
    are kept apart, because tokens show what was typed; `unknown` is an operator
    outside the language, which only a hand-made token list can hold. -/
inductive Operator where
  | openParen
  | closeParen
  | orWord
  | andWord
  | plus
  | notWord
  | minus
  | unknown (text : String)
deriving DecidableEq, Repr

def Operator.text : Operator → String
  | .openParen => "("
  | .closeParen => ")"
  | .orWord => "OR"
  | .andWord => "AND"
  | .plus => "+"
  | .notWord => "NOT"
  | .minus => "-"
  | .unknown text => text

def Operator.ofText (text : String) : Operator :=
  if text = "(" then .openParen
  else if text = ")" then .closeParen
  else if text = "OR" then .orWord
  else if text = "AND" then .andWord
  else if text = "+" then .plus
  else if text = "NOT" then .notWord
  else if text = "-" then .minus
  else .unknown text

inductive Token where
  | phrase (text : String)
  | word (text : String)
  | op (operator : Operator)
deriving DecidableEq, Repr

/-- A token as it is shown, a phrase without its quotes. -/
def Token.text : Token → String
  | .phrase text => text
  | .word text => text
  | .op operator => operator.text

def Token.isTerm : Token → Bool
  | .op _ => false
  | _ => true

def isDelimiter (c : Char) : Bool :=
  isBlank c || c = '(' || c = ')' || c = '"' || c = '+' || c = '-'

def sign? : Char → Option Operator
  | '(' => some .openParen
  | ')' => some .closeParen
  | '+' => some .plus
  | '-' => some .minus
  | _ => none

/-- An ASCII letter as a capital; any other character as it is. -/
def asciiCapital (c : Char) : Char :=
  if 'a' ≤ c ∧ c ≤ 'z' then .ofNat (c.toNat - 32) else c

/-- The operator that a run of word characters spells, in any case. -/
def keyword? (word : List Char) : Option Operator :=
  match word.map asciiCapital with
  | ['O', 'R'] => some .orWord
  | ['A', 'N', 'D'] => some .andWord
  | ['N', 'O', 'T'] => some .notWord
  | _ => none

/-- The token of a maximal run of word characters. -/
def wordToken (word : List Char) : Token :=
  match keyword? word with
  | some operator => .op operator
  | none => .word (.ofList word)

/-- The text up to the next double quote and the text behind it, if there is one
    and something stands before it. -/
def phrase? (cs : List Char) : Option (List Char × List Char) :=
  match cs.takeWhile (· ≠ '"'), cs.dropWhile (· ≠ '"') with
  | [], _ => none
  | _, [] => none
  | inner, _ :: rest => some (inner, rest)

/-- What stands behind a phrase is shorter than the text it was found in. -/
theorem phrase?_rest_length {cs inner rest : List Char} (h : phrase? cs = some (inner, rest)) :
    rest.length < cs.length := by
  have hdrop : (cs.dropWhile (· ≠ '"')).length ≤ cs.length := (List.dropWhile_sublist _).length_le
  unfold phrase? at h
  generalize cs.takeWhile (· ≠ '"') = front at h
  generalize cs.dropWhile (· ≠ '"') = back at h hdrop
  cases front with
  | nil => simp at h
  | cons _ _ =>
    cases back with
    | nil => simp at h
    | cons _ back =>
      simp only [Option.some.injEq, Prod.mk.injEq] at h
      obtain ⟨_, rfl⟩ := h
      exact Nat.lt_of_succ_le hdrop

/-- The tokens of a query, in order. -/
def tokenize : List Char → List Token
  | [] => []
  | c :: cs =>
    if c = '"' then
      match h : phrase? cs with
      | some (inner, rest) =>
        have : rest.length < cs.length := phrase?_rest_length h
        .phrase (.ofList inner) :: tokenize rest
      | none => tokenize cs
    else match sign? c with
      | some operator => .op operator :: tokenize cs
      | none =>
        if isDelimiter c then tokenize cs
        else
          have : (cs.dropWhile (!isDelimiter ·)).length ≤ cs.length := (List.dropWhile_sublist _).length_le
          wordToken (c :: cs.takeWhile (!isDelimiter ·)) :: tokenize (cs.dropWhile (!isDelimiter ·))
termination_by cs => cs.length
decreasing_by all_goals simp only [List.length_cons]; omega

def tokens (query : String) : List Token := tokenize query.toList

end Transcripts.Query
