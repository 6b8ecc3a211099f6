/-
  Transcripts/Yaml/QuotedText.lean
  ================================
  **Scalars in quotes.**

  Between single quotes a quote is written twice and nothing else is special.
  Between double quotes a backslash begins an escape, also at the end of a line,
  which it then joins to the next.  In both, a line break stands for a space.
-/
import Transcripts.Json.Reader
import Transcripts.Yaml.Cursor

namespace Transcripts.Yaml

open Transcripts.Json (hexNumber?)

def isGap (c : Char) : Bool := c = ' ' || c = '\t'

/-- The breaks of the empty lines that follow, and the place where text goes on.
    A document may not begin or end inside quotes. -/
def quotedBreaks : (limit : Nat) → Cursor → Except Fault (List Char × Cursor)
  | 0, here => .ok ([], here)
  | limit + 1, here =>
    if here.atDocumentMark then .error (.defect .unclosedQuote)
    else
      let here := here.skipWhile isGap
      match here.takeBreak with
      | none => .ok ([], here)
      | some (b, here) => do
        let (bs, here) ← quotedBreaks limit here
        return (b :: bs, here)

/-- What spaces, tabs and line breaks stand for, and the place behind them. -/
def quotedGap (here : Cursor) : Except Fault (List Char × Cursor) :=
  let (gap, here) := here.span isGap
  match here.takeBreak with
  | none => .ok (gap, here)
  | some (b, here) => do
    let (bs, here) ← quotedBreaks (here.rest.length + 1) here
    return (foldedBreak b bs, here)

def letterEscape? : Char → Option Char
  | '0' => some '\x00'
  | 'a' => some '\x07'
  | 'b' => some '\x08'
  | 't' => some '\t'
  | '\t' => some '\t'
  | 'n' => some '\n'
  | 'v' => some '\x0b'
  | 'f' => some '\x0c'
  | 'r' => some '\r'
  | 'e' => some '\x1b'
  | ' ' => some ' '
  | '"' => some '"'
  | '\\' => some '\\'
  | '/' => some '/'
  | 'N' => some '\u0085'
  | '_' => some '\u00a0'
  | 'L' => some '\u2028'
  | 'P' => some '\u2029'
  | _ => none

/-- How many hexadecimal digits follow the letter of an escape by code. -/
def codeEscapeWidth? : Char → Option Nat
  | 'x' => some 2
  | 'u' => some 4
  | 'U' => some 8
  | _ => none

/-- The character with a code.  A code that stands for no character by itself is
    read as the replacement character. -/
def characterOf (code : Nat) : Except Fault Char :=
  if 0x80000000 ≤ code then .error (.noCharacter true)
  else if 0x110000 ≤ code then .error (.noCharacter false)
  else if 0xD800 ≤ code ∧ code < 0xE000 then .ok '\ufffd'
  else .ok (.ofNat code)

/-- What an escape stands for, from behind its backslash. -/
def readEscape (here : Cursor) : Except Fault (List Char × Cursor) :=
  match here.rest with
  | [] => .error (.defect .badEscape)
  | c :: rest =>
    match letterEscape? c, codeEscapeWidth? c with
    | some d, _ => .ok ([d], here.pass c rest)
    | none, some width =>
      if rest.length < width then .error (.defect .badEscape)
      else match hexNumber? (rest.take width) with
        | none => .error (.defect .badEscape)
        | some code => do return ([← characterOf code], here.skip (width + 1))
    | none, none =>
      match here.takeBreak with
      | none => .error (.defect .badEscape)
      | some (_, here) => quotedBreaks (here.rest.length + 1) here

/-- The text up to the closing quote, and the place behind it.  Every step takes
    a character, so `limit` need not exceed the length of the text. -/
def readQuotedFrom (quote : Char) : (limit : Nat) → Cursor → Except Fault (List Char × Cursor)
  | 0, _ => .error (.defect .unclosedQuote)
  | limit + 1, here =>
    match here.rest with
    | [] => .error (.defect .unclosedQuote)
    | c :: rest =>
      let next := here.pass c rest
      if c = quote ∧ (quote = '"' ∨ next.head? ≠ some quote) then .ok ([], next)
      else do
        let (part, next) ←
          if c = quote then pure ([c], next.skip 1)
          else if c = '\\' ∧ quote = '"' then readEscape next
          else if isGap c || isBreak c then quotedGap here
          else pure ([c], next)
        let (text, last) ← readQuotedFrom quote limit next
        return (part ++ text, last)

/-- A scalar in quotes, from its opening quote on. -/
def readQuoted (quote : Char) (here : Cursor) : Except Fault (List Char × Cursor) :=
  readQuotedFrom quote (here.rest.length + 1) (here.skip 1)

end Transcripts.Yaml
