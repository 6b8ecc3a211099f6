/-
  Transcripts/CommandLine/Grammar.lean
  ====================================
  **What a command line may look like.**

  A command has options, which begin with hyphens, and positional arguments; the
  last of these may be another command with a grammar of its own.  The same
  description serves to read arguments and to write the help text.
-/

namespace Transcripts.CommandLine

/-- What the value of an option must be. -/
inductive ValueKind where
  | text
  | integer
  | oneOf (choices : List String)
deriving DecidableEq, Repr

inductive Effect where
  | help
  | version
  | mark
  | value (kind : ValueKind)
deriving DecidableEq, Repr

structure OptionSpec where
  /-- How it may be written, the short spelling before the long one. -/
  spellings : List String
  effect : Effect
  /-- What stands for its value in the help text. -/
  placeholder : String := ""
  help : String
deriving DecidableEq, Repr

/-- The name of an option: its last spelling. -/
def OptionSpec.name (o : OptionSpec) : String := o.spellings.getLast?.getD ""

/-- How messages name an option: by all its spellings. -/
def OptionSpec.fullName (o : OptionSpec) : String := "/".intercalate o.spellings

def OptionSpec.takesValue (o : OptionSpec) : Bool :=
  match o.effect with
  | .value _ => true
  | _ => false

inductive Count where
  | one
  | optional
  /-- At least one, and all that follow. -/
  | many
  /-- A command, and everything behind it. -/
  | command (required : Bool)
deriving DecidableEq, Repr

/-- Whether a positional argument must be given. -/
def Count.isRequired : Count → Bool
  | .one | .many => true
  | .optional => false
  | .command required => required

structure Positional where
  name : String
  count : Count
  help : String := ""
deriving DecidableEq, Repr

structure CommandSpec where
  /-- The name of the program, with the names of the commands that led here. -/
  program : String
  description : Option String := none
  options : List OptionSpec
  /-- Names of options of which only one may be given. -/
  exclusive : List String := []
  /-- The positional arguments, a command or one that takes many being the last. -/
  positionals : List Positional := []
  /-- The commands that may follow, by name, each with a line about it. -/
  commands : List (String × String × CommandSpec) := []
deriving Repr

/-- The names of the commands that may follow. -/
def CommandSpec.commandNames (c : CommandSpec) : List String := c.commands.map (·.1)

def CommandSpec.spelled (c : CommandSpec) : List (String × OptionSpec) :=
  c.options.flatMap fun o => o.spellings.map (·, o)

def CommandSpec.option? (c : CommandSpec) (spelling : String) : Option OptionSpec :=
  c.spelled.lookup spelling

end Transcripts.CommandLine
