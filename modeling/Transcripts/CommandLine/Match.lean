/-
  Transcripts/CommandLine/Match.lean
  ==================================
  **Reading arguments by a grammar.**

  Options may stand anywhere before a command and its own options behind it.  A
  long option may be cut short as long as it is clear which one is meant; short
  ones may be written together, the last with its value.  Behind `--` nothing is
  an option, and a negative number or a text with a space never is one.
-/
import Transcripts.CommandLine.Grammar
import Transcripts.Numeral.Integer
import Transcripts.Text.Split

namespace Transcripts.CommandLine

open Transcripts.Numeral
open Transcripts.Text

/-! ### What can go wrong -/

inductive UsageFault where
  /-- An option cut too short. -/
  | ambiguous (written : String) (candidates : List String)
  | missingValue (option : String)
  /-- A value for an option that takes none. -/
  | unwantedValue (option value : String)
  /-- Two options of which only one may be given. -/
  | together (option other : String)
  | notInteger (option value : String)
  | notAChoice (name value : String) (choices : List String)
  | missing (names : List String)
  | unrecognized (arguments : List String)
deriving DecidableEq, Repr

def aboutArgument (name message : String) : String := "argument " ++ name ++ ": " ++ message

def UsageFault.message : UsageFault → String
  | .ambiguous written candidates =>
    "ambiguous option: " ++ written ++ " could match " ++ joinWith ", " candidates
  | .missingValue option => aboutArgument option "expected one argument"
  | .unwantedValue option value =>
    aboutArgument option ("ignored explicit argument " ++ quote value)
  | .together option other => aboutArgument option ("not allowed with argument " ++ other)
  | .notInteger option value => aboutArgument option ("invalid int value: " ++ quote value)
  | .notAChoice name value choices =>
    aboutArgument name ("invalid choice: " ++ quote value ++ " (choose from " ++
      joinWith ", " (choices.map quote) ++ ")")
  | .missing names => "the following arguments are required: " ++ joinWith ", " names
  | .unrecognized arguments => "unrecognized arguments: " ++ joinWith " " arguments

/-- Why reading stops before its end. -/
inductive Stop where
  | help (command : CommandSpec)
  | version
  | misuse (command : CommandSpec) (fault : UsageFault)
deriving Repr

structure Matches where
  /-- What was given, by name and in order; the value of a mark is empty. -/
  given : List (String × String) := []
  /-- The commands that were named, the outermost first. -/
  commands : List String := []
  /-- Arguments that nothing takes. -/
  unused : List String := []
deriving Repr

namespace Matches

def values (m : Matches) (name : String) : List String :=
  (m.given.filter (·.1 = name)).map (·.2)

/-- The last value given under a name. -/
def value? (m : Matches) (name : String) : Option String := (m.values name).getLast?

def has (m : Matches) (name : String) : Bool := m.given.any (·.1 = name)

def add (m : Matches) (name : String) (values : List String) : Matches :=
  { m with given := m.given ++ values.map (name, ·) }

/-- Add arguments that nothing takes. -/
def leave (m : Matches) (arguments : List String) : Matches :=
  { m with unused := m.unused ++ arguments }

end Matches

/-! ### Telling options from other arguments -/

/-- A value written in the same argument as its option. -/
structure Attached where
  /-- Whether an equals sign stands before it. -/
  equals : Bool
  text : List Char
deriving DecidableEq, Repr

structure WrittenOption where
  option : OptionSpec
  spelling : String
  attached : Option Attached
deriving Repr

inductive Role where
  /-- The mark behind which nothing is an option. -/
  | divider
  | plain
  | option (written : WrittenOption)
  /-- It looks like an option, but there is none like it. -/
  | unknownOption
deriving Repr

structure Word where
  text : String
  role : Role
deriving Repr

def Word.isOption (w : Word) : Bool :=
  match w.role with
  | .option _ | .unknownOption => true
  | .divider | .plain => false

def Word.isDivider (w : Word) : Bool :=
  match w.role with
  | .divider => true
  | _ => false

def isNegativeNumber (text : List Char) : Bool :=
  match text with
  | '-' :: body =>
    let body := if body.getLast? = some '\n' then body.dropLast else body
    match splitOn '.' body with
    | [whole] => !whole.isEmpty && whole.all isDigit
    | [whole, part] => whole.all isDigit && !part.isEmpty && part.all isDigit
    | _ => false
  | _ => false

/-- Split a text at its first equals sign. -/
def splitEquals (text : List Char) : List Char × Option Attached :=
  let front := text.takeWhile (· ≠ '=')
  (front, match text.drop front.length with
    | _ :: value => some ⟨true, value⟩
    | [] => none)

/-- The options that an argument may mean that is not their full spelling. -/
def candidates (c : CommandSpec) (text : List Char) : List WrittenOption :=
  match text with
  | '-' :: '-' :: _ =>
    let (front, attached) := splitEquals text
    c.spelled.filterMap fun (spelling, o) =>
      if begins front spelling.toList then some ⟨o, spelling, attached⟩ else none
  | _ =>
    c.spelled.filterMap fun (spelling, o) =>
      if spelling.toList = text.take 2 then some ⟨o, spelling, some ⟨false, text.drop 2⟩⟩
      else if begins text spelling.toList then some ⟨o, spelling, none⟩
      else none

/-- What an argument is that stands before any divider. -/
def roleOf (c : CommandSpec) (argument : String) : Except UsageFault Role :=
  let text := argument.toList
  let (front, attached) := splitEquals text
  match text with
  | '-' :: _ :: _ =>
    match c.option? argument, attached.bind fun _ => c.option? (.ofList front) with
    | some o, _ => .ok (.option ⟨o, argument, none⟩)
    | none, some o => .ok (.option ⟨o, .ofList front, attached⟩)
    | none, none =>
      match candidates c text with
      | [written] => .ok (.option written)
      | [] => .ok (if isNegativeNumber text || text.contains ' ' then .plain else .unknownOption)
      | several => .error (.ambiguous argument (several.map (·.spelling)))
  | _ => .ok .plain

def classify (c : CommandSpec) : List String → Except UsageFault (List Word)
  | [] => .ok []
  | "--" :: arguments => .ok (⟨"--", .divider⟩ :: arguments.map (⟨·, .plain⟩))
  | argument :: arguments => do
    let role ← roleOf c argument
    return ⟨argument, role⟩ :: (← classify c arguments)

/-! ### Options -/

/-- What an argument with options in it means. -/
structure TakenOptions where
  /-- The options with their values. -/
  taken : List (OptionSpec × Option String)
  /-- An option whose value may be the next argument. -/
  pending : Option OptionSpec := none
  unused : List String := []
deriving Repr

/-- Take an option with an attached text.  Behind a short option without a value
    the text goes on with other short options. -/
def takeAttached (c : CommandSpec) : (limit : Nat) → OptionSpec → (spelling : String) → Attached →
    Except UsageFault TakenOptions
  | 0, o, _, attached => .error (.unwantedValue o.fullName (.ofList attached.text))
  | limit + 1, o, spelling, attached =>
    if o.takesValue then .ok { taken := [(o, some (.ofList attached.text))] }
    else match attached.text with
      | [] => .error (.unwantedValue o.fullName "")
      | letter :: rest =>
        if begins ['-', '-'] spelling.toList ∨ attached.equals ∨ letter = '-' then
          .error (.unwantedValue o.fullName (.ofList attached.text))
        else
          let next := String.ofList ['-', letter]
          match c.option? next, rest with
          | none, _ => .ok { taken := [(o, none)], unused := [.ofList ('-' :: attached.text)] }
          | some p, [] => .ok { taken := [(o, none)], pending := some p }
          | some p, '=' :: value => do
            let more ← takeAttached c limit p next ⟨true, value⟩
            return { more with taken := (o, none) :: more.taken }
          | some p, rest => do
            let more ← takeAttached c limit p next ⟨false, rest⟩
            return { more with taken := (o, none) :: more.taken }

/-- The options of an argument, with their values, and the words behind. -/
def takeOptions (c : CommandSpec) (w : WrittenOption) (rest : List Word) :
    Except UsageFault (TakenOptions × List Word) := do
  let found : TakenOptions ← match w.attached with
    | some attached => takeAttached c (attached.text.length + 1) w.option w.spelling attached
    | none => pure { taken := [], pending := some w.option }
  match found.pending with
  | none => return (found, rest)
  | some o =>
    if !o.takesValue then return ({ found with taken := found.taken ++ [(o, none)] }, rest)
    else match rest with
      | ⟨text, .plain⟩ :: rest => return ({ found with taken := found.taken ++ [(o, some text)] }, rest)
      | _ => throw (.missingValue o.fullName)

def checkValue (o : OptionSpec) (value : String) : Except UsageFault Unit :=
  match o.effect with
  | .value .integer =>
    if (integer? value.toList).isSome then .ok () else .error (.notInteger o.fullName value)
  | .value (.oneOf choices) =>
    if choices.contains value then .ok () else .error (.notAChoice o.fullName value choices)
  | _ => .ok ()

def applyOption (c : CommandSpec) (m : Matches) (o : OptionSpec) (value : Option String) :
    Except Stop Matches := do
  let value := value.getD ""
  (checkValue o value).mapError (.misuse c)
  if c.exclusive.contains o.name then
    match c.options.find? fun p => c.exclusive.contains p.name && p.name ≠ o.name && m.has p.name with
    | some other => throw (.misuse c (.together o.fullName other.fullName))
    | none => pure ()
  match o.effect with
  | .help => throw (.help c)
  | .version => throw .version
  | .mark | .value _ => return m.add o.name [value]

/-! ### Positional arguments -/

/-- The dividers in front, and the other words. -/
def spanDividers (words : List Word) : List Word × List Word :=
  (words.takeWhile (·.isDivider), words.dropWhile (·.isDivider))

/-- The words that a positional argument takes, and those behind; nothing if it
    cannot be there. -/
def Count.take? (count : Count) (words : List Word) : Option (List Word × List Word) :=
  let (dividers, rest) := spanDividers words
  match rest with
  | [] => if count = .optional then some (dividers, []) else none
  | w :: rest =>
    if w.isOption then if count = .optional then some (dividers, w :: rest) else none
    else match count with
      | .one | .optional =>
        let (more, rest) := spanDividers rest
        some (dividers ++ w :: more, rest)
      | .many =>
        some (dividers ++ w :: rest.takeWhile (!·.isOption), rest.dropWhile (!·.isOption))
      | .command _ => some (dividers ++ w :: rest, [])

/-- Positional arguments with their words, as many as can be there; the others;
    and the words that are left. -/
def takePositionals : List Positional → List Word →
    List (Positional × List String) × List Positional × List Word
  | [], words => ([], [], words)
  | p :: ps, words =>
    match p.count.take? words with
    | none => ([], p :: ps, words)
    | some (taken, rest) =>
      let (more, left, rest) := takePositionals ps rest
      ((p, taken.map (·.text)) :: more, left, rest)

/-- Do what a positional argument does.  The first divider among its words does
    not count, but a command is given all of them. -/
def applyPositional (follow : CommandSpec → List String → Except Stop Matches) (c : CommandSpec)
    (m : Matches) (p : Positional) (texts : List String) : Except Stop Matches :=
  match p.count, texts with
  | .command _, name :: arguments =>
    match c.commands.lookup name with
    | none => .error (.misuse c (.notAChoice p.name name c.commandNames))
    | some (_, command) => do
      let inner ← follow command arguments
      return {
        given := m.given ++ inner.given
        commands := m.commands ++ name :: inner.commands
        unused := m.unused ++ inner.unused }
  | .command _, [] => .ok m
  | _, texts => .ok (m.add p.name (texts.erase "--"))

/-! ### All arguments -/

/-- Take words, options and positional arguments by turns.  Gives the positional
    arguments that were not there.  Every turn takes a word, so `limit` need not
    exceed their number by more than one. -/
def takeWords (follow : CommandSpec → List String → Except Stop Matches) (c : CommandSpec) :
    (limit : Nat) → List Positional → Matches → List Word → Except Stop (Matches × List Positional)
  | 0, left, m, words => .ok (m.leave (words.map (·.text)), left)
  | limit + 1, left, m, words =>
    match words with
    | ⟨_, .option w⟩ :: rest => do
      let (found, rest) ← (takeOptions c w rest).mapError (.misuse c)
      let m ← found.taken.foldlM (fun m (o, value) => applyOption c m o value) (m.leave found.unused)
      takeWords follow c limit left m rest
    | ⟨text, .unknownOption⟩ :: rest => takeWords follow c limit left (m.leave [text]) rest
    | words => do
      let (taken, left, rest) := takePositionals left words
      let m ← taken.foldlM (fun m (p, texts) => applyPositional follow c m p texts) m
      if !words.any (·.isOption) then return (m.leave (rest.map (·.text)), left)
      else if rest.length < words.length then takeWords follow c limit left m rest
      else
        let skipped := words.takeWhile (!·.isOption)
        takeWords follow c limit left (m.leave (skipped.map (·.text))) (words.drop skipped.length)

/-- Read the arguments of a command, commands being named no deeper than `depth`. -/
def readCommand : (depth : Nat) → CommandSpec → List String → Except Stop Matches
  | 0, _, arguments => .ok { unused := arguments }
  | depth + 1, c, arguments => do
    let words ← (classify c arguments).mapError (.misuse c)
    let (m, left) ← takeWords (readCommand depth) c (words.length + 1) c.positionals {} words
    let missing := left.filter (·.count.isRequired)
    if !missing.isEmpty then throw (.misuse c (.missing (missing.map (·.name))))
    return m

/-- Read all arguments.  None may be left over. -/
def readArguments (c : CommandSpec) (arguments : List String) : Except Stop Matches := do
  let m ← readCommand (arguments.length + 1) c arguments
  if !m.unused.isEmpty then throw (.misuse c (.unrecognized m.unused))
  return m

end Transcripts.CommandLine
