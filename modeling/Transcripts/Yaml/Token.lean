/-
  Transcripts/Yaml/Token.lean
  ===========================
  **The tokens of a YAML text.**

  Blocks have no brackets; their tokens are read off the indentation.  A key is
  only known to be one when the colon behind it is found, so the reader
  remembers for each level of brackets where a key may have begun, and puts the
  token for it there afterwards.  A key that is not marked must end on its line,
  within 1024 characters.
-/
import Transcripts.Yaml.BlockText
import Transcripts.Yaml.PlainText
import Transcripts.Yaml.Property
import Transcripts.Yaml.QuotedText

namespace Transcripts.Yaml

inductive Token where
  | directive (directive : Directive)
  | documentStart
  | documentEnd
  | blockSequenceStart
  | blockMappingStart
  | blockEnd
  | flowSequenceStart
  | flowSequenceEnd
  | flowMappingStart
  | flowMappingEnd
  | blockEntry
  | flowEntry
  | key
  | value
  | alias (name : String)
  | anchor (name : String)
  | tag (tag : WrittenTag)
  /-- A scalar; `plain` if it is written without quotes and on its own lines. -/
  | scalar (text : String) (plain : Bool)
  | textEnd
  | unreadable (fault : Fault)
deriving DecidableEq, Repr

/-- Where a key may have begun. -/
structure KeyStart where
  /-- How many tokens stand before it. -/
  position : Nat
  /-- Whether nothing but a key may stand there. -/
  required : Bool
  index : Nat
  line : Nat
  column : Nat
deriving Repr

structure TokenReader where
  here : Cursor
  /-- The tokens read, the last one first. -/
  tokens : List Token := []
  count : Nat := 0
  /-- The columns of the open blocks, the innermost first. -/
  blocks : List Nat := []
  /-- Whether a key may begin where the next token does. -/
  keyAllowed : Bool := true
  /-- Where a key may have begun outside the brackets that are open. -/
  outerKeys : List (Option KeyStart) := []
  /-- Where a key may have begun at the current level. -/
  keyStart : Option KeyStart := none
deriving Repr

namespace TokenReader

def inFlow (r : TokenReader) : Bool := !r.outerKeys.isEmpty

def push (r : TokenReader) (t : Token) : TokenReader :=
  { r with tokens := t :: r.tokens, count := r.count + 1 }

def insertAt (r : TokenReader) (position : Nat) (t : Token) : TokenReader :=
  let later := r.count - position
  { r with tokens := r.tokens.take later ++ t :: r.tokens.drop later, count := r.count + 1 }

def goTo (r : TokenReader) (next : Cursor) : TokenReader := { r with here := next }

def mark (r : TokenReader) (t : Token) (width : Nat) : TokenReader :=
  (r.push t).goTo (r.here.skip width)

/-! ### Indentation -/

/-- Close the blocks that are indented more deeply than a column; all of them if
    there is no column.  Indentation has no meaning inside brackets. -/
def closeBlocks (r : TokenReader) (column : Option Nat) : TokenReader :=
  if r.inFlow then r
  else
    let closed := r.blocks.takeWhile fun indent => column.all (· < indent)
    { r with
      blocks := r.blocks.drop closed.length
      tokens := List.replicate closed.length .blockEnd ++ r.tokens
      count := r.count + closed.length }

/-- Whether a column lies deeper than the innermost block. -/
def isDeeper (r : TokenReader) (column : Nat) : Bool := r.blocks.head?.all (· < column)

/-- Open a block if a column lies deeper than the innermost one, with its token at
    a position. -/
def openBlock (r : TokenReader) (column position : Nat) (start : Token) : TokenReader :=
  if r.isDeeper column then { r with blocks := column :: r.blocks }.insertAt position start else r

/-! ### Keys -/

/-- Forget where a key may have begun at the current level. -/
def dropKey (r : TokenReader) : Except Fault TokenReader :=
  if r.keyStart.any (·.required) then .error (.defect .missingColon)
  else .ok { r with keyStart := none }

/-- Remember that a key may begin here. -/
def saveKey (r : TokenReader) : Except Fault TokenReader := do
  if !r.keyAllowed then return r
  let r ← r.dropKey
  let start : KeyStart :=
    { position := r.count
      required := !r.inFlow && r.blocks.head? = some r.here.column
      index := r.here.index
      line := r.here.line
      column := r.here.column }
  return { r with keyStart := some start }

/-- The greatest length of a key that is not marked. -/
def maxKeyLength : Nat := 1024

/-- What is left of a place where a key may have begun, once reading has come to
    another place. -/
def freshKey (here : Cursor) (start : Option KeyStart) : Except Fault (Option KeyStart) :=
  match start with
  | none => .ok none
  | some s =>
    if s.line ≠ here.line ∨ maxKeyLength < here.index - s.index then
      if s.required then .error (.defect .missingColon) else .ok none
    else .ok (some s)

def dropStaleKeys (r : TokenReader) : Except Fault TokenReader := do
  let keyStart ← freshKey r.here r.keyStart
  let outerKeys ← r.outerKeys.mapM (freshKey r.here)
  return { r with keyStart, outerKeys }

/-! ### Single tokens -/

/-- Lines without a token: spaces, comments and breaks.  Outside brackets a key
    may begin on the next line. -/
def skipLines : (limit : Nat) → TokenReader → TokenReader
  | 0, r => r
  | limit + 1, r =>
    let here := r.here.skipWhile (· = ' ')
    let here := if here.head? = some '#' then here.skipWhile (!isBreak ·) else here
    match here.takeBreak with
    | none => r.goTo here
    | some (_, here) => skipLines limit { r.goTo here with keyAllowed := r.keyAllowed || !r.inFlow }

/-- Everything before the next token, with a byte order mark at the very start. -/
def skipToToken (r : TokenReader) : TokenReader :=
  let r := if r.here.index = 0 ∧ r.here.head? = some '\ufeff' then r.goTo (r.here.skip 1) else r
  skipLines (r.here.rest.length + 1) r

/-- A token that begins a line of its own outside all blocks. -/
def outermost (r : TokenReader) : Except Fault TokenReader := do
  let r ← (r.closeBlocks none).dropKey
  return { r with keyAllowed := false }

def readEnd (r : TokenReader) : Except Fault TokenReader := do
  return (← r.outermost).push .textEnd

/-- An opening bracket, which may begin a key. -/
def openFlow (r : TokenReader) (t : Token) : Except Fault TokenReader := do
  let r ← r.saveKey
  return { r with outerKeys := r.keyStart :: r.outerKeys, keyStart := none, keyAllowed := true }.mark t 1

/-- A closing bracket.  One too many cannot be followed up by anything. -/
def closeFlow (r : TokenReader) (t : Token) : Except Fault TokenReader := do
  let r ← r.dropKey
  match r.outerKeys with
  | [] => throw (.defect .unexpectedToken)
  | keyStart :: outerKeys => return { r with outerKeys, keyStart, keyAllowed := false }.mark t 1

def readFlowEntry (r : TokenReader) : Except Fault TokenReader := do
  return ({ ← r.dropKey with keyAllowed := true }).mark .flowEntry 1

/-- Open a block here for a mark that can begin one. -/
def openBlockHere (r : TokenReader) (start : Token) : Except Fault TokenReader :=
  if r.inFlow then .ok r
  else if !r.keyAllowed then .error (.defect .misplacedIndicator)
  else .ok (r.openBlock r.here.column r.count start)

def readBlockEntry (r : TokenReader) : Except Fault TokenReader := do
  let r ← (← r.openBlockHere .blockSequenceStart).dropKey
  return { r with keyAllowed := true }.mark .blockEntry 1

def readKey (r : TokenReader) : Except Fault TokenReader := do
  let r ← (← r.openBlockHere .blockMappingStart).dropKey
  return { r with keyAllowed := !r.inFlow }.mark .key 1

/-- The mark of a value.  If a key may have begun, it did, and its token goes
    where it began. -/
def readValue (r : TokenReader) : Except Fault TokenReader := do
  match r.keyStart with
  | some s =>
    let r := { r with keyStart := none, keyAllowed := false }.insertAt s.position .key
    let r := if r.inFlow then r else r.openBlock s.column s.position .blockMappingStart
    return r.mark .value 1
  | none =>
    let r ← r.openBlockHere .blockMappingStart
    return { r with keyAllowed := !r.inFlow }.mark .value 1

/-- A token that may begin a key. -/
def inKey (r : TokenReader) (read : Cursor → Except Fault (Token × Cursor)) :
    Except Fault TokenReader := do
  let r ← r.saveKey
  let (t, next) ← read r.here
  return ({ r with keyAllowed := false }.push t).goTo next

def readQuotedScalar (quote : Char) (r : TokenReader) : Except Fault TokenReader :=
  r.inKey fun here => do
    let (text, next) ← readQuoted quote here
    return (.scalar (.ofList text) false, next)

/-- A plain scalar.  Behind it a key may begin if it has crossed a line. -/
def readPlainScalar (r : TokenReader) : Except Fault TokenReader := do
  let r ← r.saveKey
  let indent := match r.blocks.head? with
    | some column => column + 1
    | none => 0
  let plain ← readPlain r.inFlow indent r.here
  return ({ r with keyAllowed := plain.crossed }.push (.scalar (.ofList plain.text) true)).goTo plain.next

def readBlockScalar (folded : Bool) (r : TokenReader) : Except Fault TokenReader := do
  let r ← r.dropKey
  let (text, next) ← readBlock folded r.blocks.head? r.here
  return ({ r with keyAllowed := true }.push (.scalar (.ofList text) false)).goTo next

def readDirectiveLine (r : TokenReader) : Except Fault TokenReader := do
  let r ← r.outermost
  let (directive, next) ← readDirective r.here
  return (r.push (.directive directive)).goTo next

/-- Whether a plain scalar may begin with a character.  A hyphen may begin one if
    no space follows it, and so may a question mark or a colon outside brackets. -/
def beginsPlain (flow : Bool) (c : Char) (next : Option Char) : Bool :=
  !endsWord (some c) &&
    (!"-?:,[]{}#&*!|>'\"%@\x60".toList.contains c ||
      (!endsWord next && (c = '-' || (!flow && (c = '?' || c = ':')))))

def readToken (r : TokenReader) (c : Char) : Except Fault TokenReader :=
  let next := r.here.look 1
  let atLineStart := r.here.column = 0
  if c = '%' ∧ atLineStart then r.readDirectiveLine
  else if atLineStart ∧ r.here.atMark '-' then do return (← r.outermost).mark .documentStart 3
  else if atLineStart ∧ r.here.atMark '.' then do return (← r.outermost).mark .documentEnd 3
  else if c = '[' then r.openFlow .flowSequenceStart
  else if c = '{' then r.openFlow .flowMappingStart
  else if c = ']' then r.closeFlow .flowSequenceEnd
  else if c = '}' then r.closeFlow .flowMappingEnd
  else if c = ',' then r.readFlowEntry
  else if c = '-' ∧ endsWord next then r.readBlockEntry
  else if c = '?' ∧ (r.inFlow || endsWord next) then r.readKey
  else if c = ':' ∧ (r.inFlow || endsWord next) then r.readValue
  else if c = '*' then r.inKey fun here => do
    let (name, next) ← readName here
    return (.alias name, next)
  else if c = '&' then r.inKey fun here => do
    let (name, next) ← readName here
    return (.anchor name, next)
  else if c = '!' then r.inKey fun here => do
    let (tag, next) ← readTag here
    return (.tag tag, next)
  else if c = '|' ∧ !r.inFlow then r.readBlockScalar false
  else if c = '>' ∧ !r.inFlow then r.readBlockScalar true
  else if c = '\'' ∨ c = '"' then r.readQuotedScalar c
  else if beginsPlain r.inFlow c next then r.readPlainScalar
  else .error (.defect .noToken)

/-- The next token, with the tokens that the indentation stands for. -/
def step (r : TokenReader) : Except Fault TokenReader := do
  let r ← r.skipToToken.dropStaleKeys
  let r := r.closeBlocks (some r.here.column)
  match r.here.head? with
  | none => r.readEnd
  | some c => r.readToken c

/-- All tokens from here on.  Every token takes a character, so `limit` need not
    exceed the length of the text by more than one. -/
def readAll : (limit : Nat) → TokenReader → List Token
  | 0, r => r.tokens.reverse
  | limit + 1, r =>
    match r.step with
    | .error fault => (Token.unreadable fault :: r.tokens).reverse
    | .ok r =>
      match r.tokens with
      | .textEnd :: _ => r.tokens.reverse
      | _ => readAll limit r

end TokenReader

/-- Whether a text may hold a character. -/
def isReadable (c : Char) : Bool :=
  let n := c.toNat
  n = 0x09 || n = 0x0A || n = 0x0D || (0x20 ≤ n && n ≤ 0x7E) || n = 0x85 ||
    (0xA0 ≤ n && n ≤ 0xFFFD) || 0x10000 ≤ n

/-- The tokens of a text.  The last one is its end, or the reason why no more can
    be read. -/
def tokens (text : List Char) : List Token :=
  if text.all isReadable then TokenReader.readAll (text.length + 2) { here := ⟨text, 0, 0, 0⟩ }
  else [.unreadable (.defect .unprintable)]

end Transcripts.Yaml
