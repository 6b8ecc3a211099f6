/-
  Transcripts/Main.lean
  =====================
  **The program.**

  Reads what a run needs from the system, and puts out what the run asks for in its
  order: it prints, writes the project file, and gives the exit code.  Everything
  else is decided by `CommandLine.run`.
-/
import Transcripts.CommandLine.Run
import Transcripts.Yaml.Reader
import Std.Time.DateTime.Timestamp

namespace Transcripts.Main

open Transcripts.CommandLine
open Transcripts.Files
open Transcripts.Text

/-- The variables that a run may look at. -/
def visibleVariables : List String :=
  ["HOME", "XDG_DATA_HOME", "COLUMNS", "CALLSCOPE_PROJECT", "CALLSCOPE_LOG_LEVEL", "CALLSCOPE_SORT",
   "CALLSCOPE_LIMIT"]

def environment : IO Environment :=
  visibleVariables.filterMapM fun name => return (← IO.getEnv name).map (name, ·)

/-- The levels that log records can be limited to. -/
def logLevels : List String := ["TRACE", "DEBUG", "INFO", "SUCCESS", "WARNING", "ERROR", "CRITICAL"]

/-! ### Files -/

/-- The number of an error of the system and its own words for it, with the file that it
    is about if it names one. -/
def systemError? : IO.Error → Option (UInt32 × String × Option String)
  | .alreadyExists file code details | .invalidArgument file code details
  | .permissionDenied file code details | .resourceExhausted file code details
  | .inappropriateType file code details | .noSuchThing file code details => some (code, details, file)
  | .noFileOrDirectory file code details | .interrupted file code details =>
    some (code, details, some file)
  | .otherError code details | .resourceBusy code details | .resourceVanished code details
  | .unsupportedOperation code details | .hardwareFault code details
  | .unsatisfiedConstraints code details | .illegalOperation code details
  | .protocolError code details | .timeExpired code details => some (code, details, none)
  | .unexpectedEof | .userError _ => none

/-- The fault for an error by its number, which counts below zero where the file system
    is asked directly. -/
def accessFault (code : UInt32) (details : String) : AccessFault :=
  let code := if code < 0x80000000 then code.toNat else (0 - code).toNat
  match code with
  | 2 => .notFound
  | 13 => .system code "Permission denied"
  | 17 => .system code "File exists"
  | 20 => .notFolder
  | 21 => .isFolder
  | 36 => .system code "File name too long"
  | 40 => .system code "Too many levels of symbolic links"
  | _ => .system code details

/-- The fault that an error while opening or writing a file comes to, with the path that it
    is about. -/
def faultOf (path : Path) (error : IO.Error) : Path × AccessFault :=
  match systemError? error with
  | some (code, details, file) => ((file.map Path.ofText).getD path, accessFault code details)
  | none => (path, .system 5 error.toString)

def openPath (path : Path) : IO (Except AccessFault Bytes) := do
  if path.text.contains '\x00' then return .error .nullInPath
  try
    return .ok (← IO.FS.readBinFile path.text).toList
  catch error => return .error (faultOf path error).2

def opened (results : List (Path × Except AccessFault Bytes)) : Access := fun path =>
  (results.lookup path).getD (.error .notFound)

/-- Open the file at a path, if there is one to open. -/
def openAll (paths : List Path) : IO (List (Path × Except AccessFault Bytes)) :=
  paths.mapM fun path => return (path, ← openPath path)

/-! ### Users -/

/-- The names, numbers and home folders of the users in the user database. -/
def listedUsers : IO (List (String × String × String)) := do
  let text ← try IO.FS.readFile "/etc/passwd" catch _ => pure ""
  return (text.splitOn "\n").filterMap fun line =>
    match line.splitOn ":" with
    | name :: _ :: number :: _ :: _ :: home :: _ => some (name, number, home)
    | _ => none

/-- The number of the user who runs the program. -/
def ownNumber? : IO (Option String) := do
  let status ← try IO.FS.readFile "/proc/self/status" catch _ => pure ""
  return (status.splitOn "\n").findSome? fun line =>
    match line.splitOn "\t" with
    | "Uid:" :: number :: _ => some number
    | _ => none

def users : IO Users := do
  let listed ← listedUsers
  let own? := (← ownNumber?).bind fun number => listed.find? (·.2.1 = number)
  return {
    home? := fun name => (listed.find? (·.1 = name)).map (·.2.2)
    ownHome? := own?.map (·.2.2) }

/-! ### A run -/

/-- A fresh id, and the time. -/
def stamp : IO TagStore.Stamp := do
  let bytes := (← IO.getRandomBytes 16).toList
  let now := (← Std.Time.Timestamp.now).toMillisecondsSinceUnixEpoch
  return ⟨.ofList (bytes.flatMap fun b => hexDigits 2 b.toNat), now.toInt⟩

/-- Write a file, making the folders above it. -/
def save (path : Path) (bytes : Bytes) : IO Unit := do
  IO.FS.createDirAll ({ path with names := path.names.dropLast } : Path).text
  IO.FS.writeBinFile path.text ⟨bytes.toArray⟩

/-- Print or save; the fault if a file cannot be written. -/
def putOut : Output → IO (Option RunFault)
  | .print text => do
    IO.print text
    return none
  | .save path bytes => do
    try
      save path bytes
      return none
    catch error =>
      let (path, fault) := faultOf path error
      return some (.access path fault)

/-- Put out what a run asks for, in order, up to what cannot be written. -/
def putAll : List Output → IO (Option RunFault)
  | [] => return none
  | output :: outputs => do
    match ← putOut output with
    | some fault => return some fault
    | none => putAll outputs

/-- Tell about a problem, with the usage of the command that was misused. -/
def complain (env : Environment) (problem : Problem) : IO Unit := do
  match problem with
  | .misuse command _ => IO.eprintln (joinWith "\n" (usageLines (helpWidth env) command))
  | .failure _ => pure ()
  IO.eprintln problem.message

def runOnce (arguments : List String) : IO UInt32 := do
  let env ← environment
  let stamp ← stamp
  let config ← openAll (configPath? arguments).toList
  let before : Surroundings := {
    environment := env, users := ← users, files := opened config, readSettings := Yaml.readBytes
    logLevels, stamp }
  let project ← openAll (projectPath? before arguments).toList
  let outcome := run { before with files := opened (config ++ project) } arguments
  let refused := (← putAll outcome.outputs).map Problem.failure
  let problem := refused.or outcome.problem
  if let some problem := problem then complain env problem
  return .ofNat ((problem.map Problem.exitCode).getD 0)

end Transcripts.Main

def main (arguments : List String) : IO UInt32 := Transcripts.Main.runOnce arguments
