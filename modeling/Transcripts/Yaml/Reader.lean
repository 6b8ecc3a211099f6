/-
  Transcripts/Yaml/Reader.lean
  ============================
  **Reading a YAML text.**

  The value of a node follows from its type.  Entries under a merge key are
  taken over from other mappings, where the mapping's own entries win.  Of
  several faults the one nearest to the root is reported, and of two equally
  near the first.
-/
import Transcripts.Text.Split
import Transcripts.Yaml.Node
import Transcripts.Yaml.Scalar

namespace Transcripts.Yaml

open Transcripts.Text

/-! ### Merging -/

/-- The type of a node, if it is written out. -/
def Node.type? : Node → Option NodeType
  | .scalar type _ | .sequence type _ | .mapping type _ => some type
  | .enclosing _ => none

/-- The key of an entry.  Elsewhere than for merging and standing in, the sign for
    standing in is a text. -/
def Node.asKey : Node → Node
  | .scalar .standIn text => .scalar .text text
  | key => key

def ownEntries (entries : List (Node × Node)) : List (Node × Node) :=
  (entries.filter fun (k, _) => k.type? ≠ some .merge).map fun (k, v) => (k.asKey, v)

mutual

/-- The entries that a mapping takes over from others. -/
def takenEntries : List (Node × Node) → Except Defect (List (Node × Node))
  | [] => .ok []
  | (k, v) :: entries => do
    let first ← if k.type? = some .merge then sourceEntries v else pure []
    return first ++ (← takenEntries entries)

/-- The entries of what is merged into a mapping: another mapping, or a list of
    mappings of which earlier ones win. -/
def sourceEntries : Node → Except Defect (List (Node × Node))
  | .mapping _ entries => do return (← takenEntries entries) ++ ownEntries entries
  | .sequence _ items => do return (← itemEntries items).reverse.flatten
  | .scalar _ _ => .error .badMerge
  | .enclosing _ => .ok []

def itemEntries : List Node → Except Defect (List (List (Node × Node)))
  | [] => .ok []
  | .mapping _ entries :: items => do
    let first := (← takenEntries entries) ++ ownEntries entries
    return first :: (← itemEntries items)
  | .enclosing true :: items => do return [] :: (← itemEntries items)
  | _ :: _ => .error .badMerge

end

/-- The entries of a mapping, those that it takes over first. -/
def allEntries (entries : List (Node × Node)) : Except Defect (List (Node × Node)) := do
  return (← takenEntries entries) ++ ownEntries entries

/-! ### Building values -/

/-- A fault, and how far below the root it was found. -/
structure PlacedFault where
  depth : Nat
  fault : Fault
deriving DecidableEq, Repr

/-- A value, or the reason why there is none. -/
abbrev Building (α : Type) : Type := Except PlacedFault α

/-- Both of two results.  Of two faults the one nearer to the root counts. -/
def both {α β : Type} : Building α → Building β → Building (α × β)
  | .ok a, .ok b => .ok (a, b)
  | .error f, .error g => .error (if g.depth < f.depth then g else f)
  | .error f, .ok _ => .error f
  | .ok _, .error g => .error g

def all {α : Type} : List (Building α) → Building (List α)
  | [] => .ok []
  | r :: rs => (both r (all rs)).map fun (a, as) => a :: as

/-- A result one level further down. -/
def below {α : Type} (r : Building α) : Building α := r.mapError fun f => { f with depth := f.depth + 1 }

def atRoot {α : Type} (r : Except Fault α) : Building α := r.mapError (⟨0, ·⟩)

mutual

def Node.height : Node → Nat
  | .scalar _ _ | .enclosing _ => 1
  | .sequence _ items => 1 + itemsHeight items
  | .mapping _ entries => 1 + entriesHeight entries

def itemsHeight : List Node → Nat
  | [] => 0
  | item :: items => max item.height (itemsHeight items)

def entriesHeight : List (Node × Node) → Nat
  | [] => 0
  | (k, v) :: entries => max (max k.height v.height) (entriesHeight entries)

end

/-- A key, which must be stable. -/
def buildKey (build : Node → Building Value) (key : Node) : Building Value := do
  let k ← build key
  if k.isStable then return k else throw ⟨0, .defect .unstableKey⟩

def buildEntries (build : Node → Building Value) (entries : List (Node × Node)) :
    Building (List (Value × Value)) := do
  let entries ← atRoot ((allEntries entries).mapError .defect)
  let built ← all (entries.map fun (k, v) => both (buildKey build k) (build v))
  return built.foldl (fun entries (k, v) => Value.setKey entries k v) []

/-- The one entry of a mapping. -/
def buildPair (build : Node → Building Value) : Node → Building (Value × Value)
  | .mapping _ [(k, v)] => both (build k) (build v)
  | _ => .error ⟨0, .defect .wrongKind⟩

/-- The value that stands in for a mapping of a type that scalars have. -/
def standIn? (entries : List (Node × Node)) : Option Node :=
  (entries.find? fun (k, _) => k.type? = some .standIn).map (·.2)

/-- The value of a node in which nodes are nested no deeper than `depth`. -/
def build : (depth : Nat) → Node → Building Value
  | _, .enclosing isMapping => .ok (.enclosing isMapping)
  | _, .scalar type text => atRoot (scalarValue type text)
  | 0, _ => .error ⟨0, .tooDeep⟩
  | depth + 1, .sequence type items =>
    match type with
    | .list => below ((all (items.map (build depth))).map .list)
    | .orderedMap | .pairs => below ((all (items.map (buildPair (build depth)))).map .pairs)
    | .unknown | .merge | .standIn => .error ⟨0, .defect .unknownTag⟩
    | _ => .error ⟨0, .defect .wrongKind⟩
  | depth + 1, .mapping type entries =>
    match type with
    | .map => below ((buildEntries (build depth) entries).map .map)
    | .set => below ((buildEntries (build depth) entries).map fun es => .set (es.map (·.1)))
    | .unknown | .merge | .standIn => .error ⟨0, .defect .unknownTag⟩
    | .list | .orderedMap | .pairs => .error ⟨0, .defect .wrongKind⟩
    | type =>
      match standIn? entries with
      | some (.scalar _ text) => atRoot (scalarValue type text)
      | _ => .error ⟨0, .defect .wrongKind⟩

/-- The value that a text writes; null if it writes none. -/
def read (text : List Char) : Except Fault Value := do
  match ← readNode text with
  | none => return .null
  | some node => (build node.height node).mapError (·.fault)

/-! ### Files -/

/-- How many bytes of a file are read at a time. -/
def blockSize : Nat := 8192

/-- The value that the bytes of a file write. -/
def readBytes (bytes : List UInt8) : Except FileFault Value := do
  let blocks := bytes.length / blockSize + 1
  let text ← (Utf8.decodeBlocks blockSize blocks [] bytes).mapError .notUtf8
  (read (unifyLineEnds text)).mapError .content

end Transcripts.Yaml
