/-
  Transcripts/CommandLine/Run.lean
  ================================
  **A run of the program.**

  A run reads its arguments, loads the settings and the project, and carries the
  command out.  Whatever fails ends the run with a message.
-/
import Transcripts.CommandLine.Help
import Transcripts.CommandLine.Response
import Transcripts.Settings.File

namespace Transcripts.CommandLine

open Transcripts.Files
open Transcripts.Identity
open Transcripts.Numeral
open Transcripts.Search
open Transcripts.Text

inductive RunFault where
  | settings (path : Path) (fault : SettingsFault)
  | unknownLevel (name : String)
  | access (path : Path) (fault : AccessFault)
  | load (path : Path) (fault : Project.LoadFault)
  | command (fault : CommandFault)
deriving DecidableEq, Repr

def RunFault.message : RunFault → String
  | .settings path fault => fault.message path
  | .unknownLevel name => "Level '" ++ name ++ "' does not exist"
  | .access path fault => fault.message path
  | .load path fault => fault.message path.text
  | .command fault => fault.message

inductive Problem where
  | misuse (command : CommandSpec) (fault : UsageFault)
  | failure (fault : RunFault)
deriving Repr

def Problem.message : Problem → String
  | .misuse command fault => command.program ++ ": error: " ++ fault.message
  | .failure fault => "Error: " ++ fault.message

def Problem.exitCode : Problem → Nat
  | .misuse _ _ => 2
  | .failure _ => 1

/-- What a run puts out at a time. -/
inductive Output where
  | print (text : String)
  /-- Give the file at a path a content. -/
  | save (path : Path) (bytes : Bytes)

def Output.printed? : Output → Option String
  | .print text => some text
  | .save .. => none

def Output.saved? : Output → Option (Path × Bytes)
  | .print _ => none
  | .save path bytes => some (path, bytes)

structure Outcome where
  /-- What is printed and saved, in order. -/
  outputs : List Output
  problem : Option Problem := none
  created : Option Tag := none

namespace Outcome

def exitCode (o : Outcome) : Nat := (o.problem.map Problem.exitCode).getD 0

def printed (o : Outcome) : String := String.join (o.outputs.filterMap Output.printed?)

/-- The files that are written, each with its content. -/
def saved (o : Outcome) : List (Path × Bytes) := o.outputs.filterMap Output.saved?

/-- The files after a run that they are the files before of. -/
def filesAfter (o : Outcome) (files : Tree) : Tree :=
  o.saved.foldl (fun files (path, bytes) => files.write path bytes) files

/-- A run that prints a text and nothing else. -/
def telling (text : String) : Outcome := { outputs := [.print text] }

/-- A run that fails before anything is done. -/
def failing (problem : Problem) : Outcome := { outputs := [], problem := some problem }

end Outcome

/-- What a run finds around it. -/
structure Surroundings where
  environment : Environment
  users : Users
  files : Access
  /-- How the settings file is read. -/
  readSettings : Settings.Reader
  /-- The levels that log records can be limited to. -/
  logLevels : List String
  /-- The id and the time for a tag that the run makes. -/
  stamp : TagStore.Stamp

/-- The width of help texts: two less than that of the terminal, which is 80 unless
    the environment says otherwise. -/
def helpWidth (env : Environment) : Nat :=
  let columns := (env.get? "COLUMNS").bind fun text => integer? text.toList
  ((columns.bind Settings.positive?).getD 80) - 2

def settingsOf (s : Surroundings) (i : Invocation) : Except RunFault Settings := do
  let config := i.config.map Path.ofText
  let settings ← (Settings.load s.readSettings s.users s.environment s.files config).mapError
    (.settings (config.getD (Path.ofText "")))
  let level := if i.verbose then "DEBUG" else settings.logLevel
  if !s.logLevels.contains level then throw (.unknownLevel level)
  return { settings with projectPath := (i.project.map Path.ofText).getD settings.projectPath }

def openWorkspace (files : Access) (settings : Settings) : Except RunFault Workspace := do
  let path := settings.projectPath
  let bytes ← (files path).mapError (.access path)
  let project ← (Project.ofBytes bytes).result.mapError (.load path)
  return .ofProject project settings.defaultSort firstLineSpeaker

/-- The content of the project file that a workspace is stored in. -/
def storedBytes (w : Workspace) : Bytes := w.snapshot.toText.toUTF8.toList

/-- A step of a command on the project at a path. -/
def Step.output (path : Path) : Step → Output
  | .print line => .print (line ++ "\n")
  | .store w => .save path (storedBytes w)

/-- The outcome of what a command does on the project at a path. -/
def Outcome.ofResponse (path : Path) (response : Response) : Outcome where
  outputs := response.steps.map (Step.output path)
  problem :=
    match response.result with
    | .ok _ => none
    | .error fault => some (.failure (.command fault))
  created := response.result.toOption.join

def runCommand (s : Surroundings) (settings : Settings) (command : Command) : Outcome :=
  match openWorkspace s.files settings with
  | .error fault => .failing (.failure fault)
  | .ok w => .ofResponse settings.projectPath (respond s.stamp settings.defaultLimit w command)

def run (s : Surroundings) (arguments : List String) : Outcome :=
  let width := helpWidth s.environment
  match Invocation.ofArguments arguments with
  | .error (.help command) => .telling (helpText width command)
  | .error .version => .telling (programName ++ " " ++ programVersion ++ "\n")
  | .error (.misuse command fault) => .failing (.misuse command fault)
  | .ok i =>
    match settingsOf s i with
    | .error fault => .failing (.failure fault)
    | .ok settings =>
      match i.command with
      | some command => runCommand s settings command
      | none => .telling (helpText width program)

/-! ### The files of a run -/

/-- The path of the settings file, if arguments name one. -/
def configPath? (arguments : List String) : Option Path :=
  (Invocation.ofArguments arguments).toOption.bind fun i => i.config.map Path.ofText

/-- The path of the project file, once the settings can be loaded. -/
def projectPath? (s : Surroundings) (arguments : List String) : Option Path := do
  let i ← (Invocation.ofArguments arguments).toOption
  return (← (settingsOf s i).toOption).projectPath

end Transcripts.CommandLine
