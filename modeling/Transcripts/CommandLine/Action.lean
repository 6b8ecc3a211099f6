/-
  Transcripts/CommandLine/Action.lean
  ===================================
  **What a command does.**

  A command prints lines and stores the workspace, one thing after the other.
  When it fails, what it has done by then stays done.
-/
import Transcripts.Calendar.Timestamp
import Transcripts.Workspace.Basic

namespace Transcripts.CommandLine

open Transcripts.Calendar

inductive CommandFault where
  | workspace (fault : WorkspaceFault)
  | timestamp (fault : TimestampFault)
deriving DecidableEq, Repr

def CommandFault.message : CommandFault → String
  | .workspace fault => fault.message
  | .timestamp fault => fault.message

inductive Step where
  | print (line : String)
  | store (w : Workspace)

def Step.printed? : Step → Option String
  | .print line => some line
  | .store _ => none

def Step.stored? : Step → Option Workspace
  | .print _ => none
  | .store w => some w

/-- A course of action: what is done, in order, and what comes of it. -/
structure Action (α : Type) where
  steps : List Step
  result : Except CommandFault α

namespace Action

variable {α : Type}

instance : Monad Action where
  pure a := { steps := [], result := .ok a }
  bind first next :=
    match first.result with
    | .ok a =>
      let rest := next a
      { steps := first.steps ++ rest.steps, result := rest.result }
    | .error fault => { steps := first.steps, result := .error fault }

/-- Go on with what was computed, unless that failed. -/
def attempt (result : Except CommandFault α) : Action α := { steps := [], result }

def print (lines : List String) : Action Unit :=
  { steps := lines.map .print, result := .ok () }

def store (w : Workspace) : Action Unit := { steps := [.store w], result := .ok () }

def printed (a : Action α) : List String := a.steps.filterMap Step.printed?

/-- The workspaces that are stored, each in place of the one before. -/
def stored (a : Action α) : List Workspace := a.steps.filterMap Step.stored?

end Action

end Transcripts.CommandLine
