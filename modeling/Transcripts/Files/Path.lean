/-
  Transcripts/Files/Path.lean
  ===========================
  **Paths of files.**

  A path is a root and the names below it.  Repeated slashes and names `.` fall
  away; `..` stays, because the folder before it may be a link.  A path that
  begins with exactly two slashes has a root of its own.
-/
import Transcripts.Text.Split

namespace Transcripts.Files

open Transcripts.Text

inductive Root where
  | relative
  | absolute
  | doubleSlash
deriving DecidableEq, Repr

structure Path where
  root : Root
  names : List String
deriving DecidableEq, Repr

namespace Path

def rootOf : List Char → Root
  | '/' :: '/' :: '/' :: _ => .absolute
  | '/' :: '/' :: _ => .doubleSlash
  | '/' :: _ => .absolute
  | _ => .relative

def ofText (text : String) : Path :=
  { root := rootOf text.toList
    names := ((splitOn '/' text.toList).map String.ofList).filter fun n => !n.isEmpty && n ≠ "." }

def rootText : Root → String
  | .relative => ""
  | .absolute => "/"
  | .doubleSlash => "//"

def text (p : Path) : String :=
  let body := rootText p.root ++ joinWith "/" p.names
  if body.isEmpty then "." else body

/-- A path below a folder; a path with a root of its own replaces it. -/
def join (folder p : Path) : Path :=
  if p.root = .relative then { folder with names := folder.names ++ p.names } else p

def below (folder : Path) (names : List String) : Path :=
  { folder with names := folder.names ++ names }

end Path

end Transcripts.Files
