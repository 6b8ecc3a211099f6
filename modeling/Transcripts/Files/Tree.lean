/-
  Transcripts/Files/Tree.lean
  ===========================
  **A tree of files, as far as a command reads and writes it.**

  The tree holds the contents of files by their place; a folder exists as soon
  as a file lies in it, and so do the working folder and the roots.  Opening a
  path either gives the content or says why there is none.
-/
import Transcripts.Collection.Basic
import Transcripts.Files.Path
import Transcripts.Text.Printable

namespace Transcripts.Files

open Transcripts.Text

abbrev Bytes : Type := List UInt8

/-- Files by place, relative paths being below the working folder. -/
abbrev Tree : Type := Keyed Path Bytes

/-- Why a file is not opened. -/
inductive AccessFault where
  /-- What the system says, by its number and in words. -/
  | system (code : Nat) (reason : String)
  /-- A null character in the path, which the system is not even asked for. -/
  | nullInPath
deriving DecidableEq, Repr

namespace AccessFault

def notFound : AccessFault := .system 2 "No such file or directory"

def notFolder : AccessFault := .system 20 "Not a directory"

def isFolder : AccessFault := .system 21 "Is a directory"

/-- The wording of a fault, which names the path as it was given. -/
def message (path : Path) : AccessFault → String
  | .system code reason => "[Errno " ++ toString code ++ "] " ++ reason ++ ": " ++ quote path.text
  | .nullInPath => "embedded null byte"

end AccessFault

/-- How files are opened: the content of the file at a path, or why there is none. -/
abbrev Access : Type := Path → Except AccessFault Bytes

namespace Tree

def isFolder (tree : Tree) (place : Path) : Bool :=
  place.names.isEmpty ||
    tree.any fun (file, _) =>
      file.root = place.root && place.names.length < file.names.length && begins place.names file.names

/-- Follow names from a folder.  Every name but the last must lead to a folder. -/
def walk (tree : Tree) (place : Path) : List String → Except AccessFault Path
  | [] => .ok place
  | name :: names =>
    if (tree.get? place).isSome then .error .notFolder
    else if !tree.isFolder place then .error .notFound
    else if name = ".." then walk tree { place with names := place.names.dropLast } names
    else walk tree { place with names := place.names ++ [name] } names

def read (tree : Tree) : Access := fun path => do
  if path.names.any (·.toList.contains '\x00') then throw .nullInPath
  let place ← walk tree ⟨path.root, []⟩ path.names
  match tree.get? place with
  | some bytes => return bytes
  | none => throw (if tree.isFolder place then .isFolder else .notFound)

/-- Give the file at a path a content, making the folders above it. -/
def write (tree : Tree) (path : Path) (bytes : Bytes) : Tree :=
  match walk tree ⟨path.root, []⟩ path.names with
  | .ok place => tree.put place bytes
  | .error _ => tree.put path bytes

end Tree

end Transcripts.Files
