/-
  Transcripts/Text/CodeTree.lean
  ==============================
  **Ascending tables over code points, searched by halving.**

  Character properties (what is a letter, how a letter is lowered, how it
  decomposes) are data: long ascending lists keyed by code point.  Each list is
  laid out once as a balanced search tree, so that looking a character up
  costs a handful of comparisons; the list itself stays the readable form, and
  is what facts about a table are stated over.

  `CodeTree.lookup` finds an exact key, `CodeTree.floor?` the last key that is
  not above the one asked for, which is how a table of closed ranges is read.
-/

namespace Transcripts.Text

/-- A search tree over code points: keys to the left of a node are smaller,
    keys to the right larger. -/
inductive CodeTree (α : Type) where
  | leaf
  | node (left : CodeTree α) (key : Nat) (value : α) (right : CodeTree α)
deriving Repr

namespace CodeTree

variable {α : Type}

def lookup : CodeTree α → Nat → Option α
  | .leaf, _ => none
  | .node l k v r, n => if n < k then l.lookup n else if k < n then r.lookup n else some v

/-- The entry with the greatest key that does not exceed a code point. -/
def floor? : CodeTree α → Nat → Option (Nat × α)
  | .leaf, _ => none
  | .node l k v r, n =>
    if n < k then l.floor? n
    else match r.floor? n with
      | some e => some e
      | none => some (k, v)

def toList : CodeTree α → List (Nat × α)
  | .leaf => []
  | .node l k v r => l.toList ++ (k, v) :: r.toList

/-- Lay the first `n` entries of an ascending list out as a balanced tree; the
    entries that are left over come back beside it. -/
def build : (n : Nat) → List (Nat × α) → CodeTree α × List (Nat × α)
  | 0, es => (.leaf, es)
  | n + 1, es =>
    match build (n / 2) es with
    | (l, (k, v) :: es') =>
      let (r, rest) := build (n - n / 2) es'
      (.node l k v r, rest)
    | (l, []) => (l, [])
termination_by n => n
decreasing_by all_goals omega

def ofAscending (es : List (Nat × α)) : CodeTree α := (build es.length es).1

/-- Whether a code point lies in one of the closed ranges `key … value`. -/
def covers (t : CodeTree Nat) (n : Nat) : Bool :=
  match t.floor? n with
  | some (_, last) => n ≤ last
  | none => false

end CodeTree

end Transcripts.Text
