/-
  Transcripts/Yaml/Node.lean
  ==========================
  **The nodes of a YAML text.**

  A node is a scalar, a sequence or a mapping, with its type.  An alias is the
  node that its anchor names, and is replaced by it.  Only inside the very node
  that it names does it remain, since the node is not complete there.
-/
import Transcripts.Collection.Basic
import Transcripts.Yaml.NodeType
import Transcripts.Yaml.Token

namespace Transcripts.Yaml

inductive Node where
  | scalar (type : NodeType) (text : String)
  | sequence (type : NodeType) (items : List Node)
  | mapping (type : NodeType) (entries : List (Node × Node))
  /-- An alias for a node that it stands in. -/
  | enclosing (isMapping : Bool)
deriving Repr, Inhabited

def Node.missing : Node := .scalar .null ""

structure NodeReader where
  tokens : List Token
  /-- What the handles of tags stand for. -/
  handles : Keyed String String
  anchors : Keyed String Node := []
deriving Repr

/-- Reading, as far as the tokens allow it. -/
abbrev Reading (α : Type) : Type := StateT NodeReader (Except Fault) α

namespace NodeReader

def stop {α : Type} (defect : Defect) : Reading α := throw (.defect defect)

def peek : Reading Token := do
  return ((← get).tokens.head?).getD (.unreadable (.defect .unexpectedToken))

def advance : Reading Unit := modify fun r => { r with tokens := r.tokens.drop 1 }

def unexpected {α : Type} : Reading α := do
  match ← peek with
  | .unreadable fault => throw fault
  | _ => stop .unexpectedToken

/-- Go on behind a token that must be next. -/
def expect (t : Token) : Reading Unit := do
  if (← peek) = t then advance else unexpected

/-! ### Anchors and tags -/

def named (name : String) : Reading Node := do
  match (← get).anchors.get? name with
  | some node => return node
  | none => stop .unknownAlias

/-- Give a node the name of its anchor, if it has one. -/
def declare (anchor : Option String) (node : Node) : Reading Unit :=
  match anchor with
  | some name => modify fun r => { r with anchors := r.anchors.put name node }
  | none => pure ()

/-- The tag that is written, with its handle replaced. -/
def fullTag (written : WrittenTag) : Reading String := do
  match written.handle with
  | none => return written.suffix
  | some handle =>
    match (← get).handles.get? handle with
    | some meaning => return meaning ++ written.suffix
    | none => stop .unknownHandle

structure Properties where
  anchor : Option String := none
  tag : Option String := none
deriving DecidableEq, Repr

/-- An anchor, if one is next. -/
def readAnchor : Reading (Option String) := do
  match ← peek with
  | .anchor name => advance; return some name
  | _ => return none

/-- A tag, if one is next. -/
def readTag : Reading (Option WrittenTag) := do
  match ← peek with
  | .tag written => advance; return some written
  | _ => return none

/-- An anchor and a tag in either order, each at most once.  No two nodes may have
    the same anchor. -/
def readProperties : Reading Properties := do
  let first ← readAnchor
  let written ← readTag
  let anchor ← if first.isNone && written.isSome then readAnchor else pure first
  let tag ← written.mapM fullTag
  if let some name := anchor then
    if (← get).anchors.has name then stop .repeatedAnchor
  return ⟨anchor, tag⟩

def Properties.isOpen (p : Properties) : Bool := p.tag.all (· = "!")

def Properties.collectionType (p : Properties) (usual : NodeType) : NodeType :=
  if p.isOpen then usual else .ofTag (p.tag.getD "")

/-- A scalar with properties.  Without a tag its form counts only if it is plain;
    the tag that leaves its type open makes it count in any case. -/
def Properties.scalar (p : Properties) (text : String) (plain : Bool) : Node :=
  let type : NodeType := match p.tag with
    | none => if plain then .ofPlain text else .text
    | some tag => if tag = "!" then .ofPlain text else .ofTag tag
  .scalar type text

/-! ### Collections -/

/-- Whether a token shows that an item or a half of an entry in a block is missing. -/
def endsInBlock : Token → Bool
  | .blockEntry | .key | .value | .blockEnd => true
  | _ => false

/-- Whether a token shows that an item or a half of an entry in brackets is missing. -/
def endsInFlow : Token → Bool
  | .value | .flowEntry | .flowSequenceEnd | .flowMappingEnd => true
  | _ => false

/-- A node, unless the next token shows that it is missing. -/
def orMissing (ends : Token → Bool) (one : Reading Node) : Reading Node := do
  if ends (← peek) then return .missing else one

/-- The key and the value of an entry, from behind the mark of the key. -/
def entry (ends : Token → Bool) (one : Reading Node) : Reading (Node × Node) := do
  let key ← orMissing ends one
  match ← peek with
  | .value =>
    advance
    return (key, ← orMissing ends one)
  | _ => return (key, .missing)

/-- The items of a block sequence.  Every item has a mark, so `limit` need not
    exceed the number of tokens. -/
def blockItems (one : Reading Node) : (limit : Nat) → Reading (List Node)
  | 0 => unexpected
  | limit + 1 => do
    match ← peek with
    | .blockEntry =>
      advance
      let item ← orMissing endsInBlock one
      return item :: (← blockItems one limit)
    | _ => return []

def blockEntries (one : Reading Node) : (limit : Nat) → Reading (List (Node × Node))
  | 0 => unexpected
  | limit + 1 => do
    match ← peek with
    | .key =>
      advance
      let pair ← entry (fun t => t ≠ .blockEntry && endsInBlock t) one
      return pair :: (← blockEntries one limit)
    | _ => return []

/-- The items of a sequence in brackets, to behind the closing one.  An entry
    without braces is a mapping by itself. -/
def flowItems (one : Reading Node) : (limit : Nat) → (first : Bool) → Reading (List Node)
  | 0, _ => unexpected
  | limit + 1, first => do
    if !first && (← peek) ≠ .flowSequenceEnd then expect .flowEntry
    match ← peek with
    | .flowSequenceEnd => advance; return []
    | .key =>
      advance
      let pair ← entry (fun t => t ≠ .flowMappingEnd && endsInFlow t) one
      return .mapping .map [pair] :: (← flowItems one limit false)
    | _ =>
      let item ← one
      return item :: (← flowItems one limit false)

/-- The entries of a mapping in braces, to behind the closing one. -/
def flowEntries (one : Reading Node) : (limit : Nat) → (first : Bool) → Reading (List (Node × Node))
  | 0, _ => unexpected
  | limit + 1, first => do
    if !first && (← peek) ≠ .flowMappingEnd then expect .flowEntry
    match ← peek with
    | .flowMappingEnd => advance; return []
    | .key =>
      advance
      let pair ← entry (fun t => t ≠ .flowSequenceEnd && endsInFlow t) one
      return pair :: (← flowEntries one limit false)
    | _ =>
      let key ← one
      return (key, .missing) :: (← flowEntries one limit false)

/-- A limit for the entries of a collection. -/
def limit : Reading Nat := do return (← get).tokens.length + 1

/-- A collection, known by its anchor also while it is read. -/
def collection (p : Properties) (isMapping : Bool) (read : Reading Node) : Reading Node := do
  declare p.anchor (.enclosing isMapping)
  let node ← read
  declare p.anchor node
  return node

def sequence (p : Properties) (items : Reading (List Node)) : Reading Node :=
  collection p false do return .sequence (p.collectionType .list) (← items)

def mapping (p : Properties) (entries : Reading (List (Node × Node))) : Reading Node :=
  collection p true do return .mapping (p.collectionType .map) (← entries)

/-! ### Nodes -/

inductive Place where
  | flow
  /-- At the top, or as an item of a block sequence. -/
  | block
  /-- As a key or a value of a block mapping, where a sequence need not be indented. -/
  | blockEntry
deriving DecidableEq, Repr

/-- The content of a node, the nodes inside it being read by `inner`. -/
def content (inner : Place → Reading Node) (place : Place) (p : Properties) : Reading Node := do
  match ← peek with
  | .scalar text plain =>
    advance
    let node := p.scalar text plain
    declare p.anchor node
    return node
  | .flowSequenceStart =>
    advance
    sequence p do flowItems (inner .flow) (← limit) true
  | .flowMappingStart =>
    advance
    mapping p do flowEntries (inner .flow) (← limit) true
  | t =>
    if t = .blockEntry ∧ place = .blockEntry then
      sequence p do blockItems (inner .block) (← limit)
    else if t = .blockSequenceStart ∧ place ≠ .flow then
      advance
      sequence p do
        let items ← blockItems (inner .block) (← limit)
        expect .blockEnd
        return items
    else if t = .blockMappingStart ∧ place ≠ .flow then
      advance
      mapping p do
        let entries ← blockEntries (inner .blockEntry) (← limit)
        expect .blockEnd
        return entries
    else if p = {} then unexpected
    else
      let node := p.scalar "" true
      declare p.anchor node
      return node

/-- A node in which collections are nested no deeper than `depth`. -/
def node : (depth : Nat) → Place → Reading Node
  | 0, _ => throw .tooDeep
  | depth + 1, place => do
    match ← peek with
    | .alias name => advance; named name
    | _ => content (node depth) place (← readProperties)

/-- The greatest depth to which collections may be nested. -/
def maxNesting : Nat := 480

/-! ### Documents -/

/-- The handles that need no directive. -/
def usualHandles : Keyed String String := [("!", "!"), ("!!", commonTags)]

/-- The directives of a document: the handles that they give a meaning.  No handle
    and no version may be set twice, and the version must begin with 1. -/
def directives : (limit : Nat) → (versionSeen : Bool) → Keyed String String →
    Reading (Keyed String String)
  | 0, _, _ => unexpected
  | limit + 1, versionSeen, handles => do
    match ← peek with
    | .directive directive =>
      advance
      match directive with
      | .version major =>
        if versionSeen || major ≠ 1 then stop .badDirective
        directives limit true handles
      | .tag handle meaning =>
        if handles.has handle then stop .badDirective
        directives limit versionSeen (handles.put handle meaning)
      | .reserved => directives limit versionSeen handles
    | _ => return handles

/-- Whether a token shows that a document is empty. -/
def endsDocument : Token → Bool
  | .directive _ | .documentStart | .documentEnd | .textEnd => true
  | _ => false

def markedDocument : Reading Node := do
  let handles ← directives (← limit) false []
  modify fun r => { r with handles := usualHandles.putAll handles }
  expect .documentStart
  orMissing endsDocument (node maxNesting .block)

/-- The end of the text, behind any number of marks of a document's end. -/
def ending : (limit : Nat) → Reading Unit
  | 0 => unexpected
  | limit + 1 => do
    match ← peek with
    | .documentEnd => advance; ending limit
    | .textEnd => pure ()
    | .documentStart => stop .secondDocument
    | _ => unexpected

/-- The one document of a text, if there is one. -/
def document : Reading (Option Node) := do
  match ← peek with
  | .textEnd => return none
  | t =>
    let root ← match t with
      | .directive _ | .documentStart => markedDocument
      | _ => node maxNesting .block
    ending (← limit)
    return some root

end NodeReader

/-- The node that a text writes, if it writes any. -/
def readNode (text : List Char) : Except Fault (Option Node) :=
  NodeReader.document.run' { tokens := tokens text, handles := NodeReader.usualHandles }

end Transcripts.Yaml
