/-
  Transcripts/Collection/Basic.lean
  =================================
  **Maps that remember the order of their keys, and sets of texts.**

  A keyed list is a list of pairs in which a key occurs once.  Putting a value
  under a known key replaces it at its place; a new key goes last.

  A set is kept as an ascending list without repetitions, so that equal sets are
  equal lists and a set is always shown in the order of code points.
-/

namespace Transcripts

/-! ### Keyed lists -/

/-- Pairs of a key and a value, in the order in which the keys were first put. -/
abbrev Keyed (κ ν : Type) : Type := List (κ × ν)

namespace Keyed

variable {κ ν : Type} [BEq κ]

def get? (m : Keyed κ ν) (k : κ) : Option ν := List.lookup k m

def has (m : Keyed κ ν) (k : κ) : Bool := m.any (·.1 == k)

def put (m : Keyed κ ν) (k : κ) (v : ν) : Keyed κ ν :=
  if m.has k then m.map fun (k', v') => if k' == k then (k', v) else (k', v')
  else m ++ [(k, v)]

def erase (m : Keyed κ ν) (k : κ) : Keyed κ ν := m.filter fun (k', _) => !(k' == k)

/-- Put pairs one after another. -/
def putAll (m : Keyed κ ν) (ps : List (κ × ν)) : Keyed κ ν := ps.foldl (fun m (k, v) => m.put k v) m

/-- The keyed list of pairs, the last value of a key winning. -/
def ofPairs (ps : List (κ × ν)) : Keyed κ ν := putAll [] ps

def keys (m : Keyed κ ν) : List κ := m.map Prod.fst

def values (m : Keyed κ ν) : List ν := m.map Prod.snd

end Keyed

/-! ### Sets of texts -/

/-- An ascending list of distinct texts. -/
abbrev TextSet (τ : Type := String) : Type := List τ

namespace TextSet

variable {τ : Type} [DecidableEq τ] [LT τ] [DecidableLT τ]

def insert (x : τ) : TextSet τ → TextSet τ
  | [] => [x]
  | y :: ys => if x < y then x :: y :: ys else if x = y then y :: ys else y :: insert x ys

def ofList (xs : List τ) : TextSet τ := xs.foldl (fun s x => insert x s) []

def union (s t : TextSet) : TextSet := t.foldl (fun s x => insert x s) s

def without (s : TextSet) (xs : List String) : TextSet := s.filter (!xs.contains ·)

end TextSet

/-- The distinct elements of a list, in order of first occurrence. -/
def firstOccurrences (xs : List String) : List String :=
  xs.foldl (fun seen x => if seen.contains x then seen else seen ++ [x]) []

end Transcripts
