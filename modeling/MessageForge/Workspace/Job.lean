import MessageForge.Event
import MessageForge.Schema.Compilation
import MessageForge.Source.Characters
import MessageForge.Workspace.Disk
import MessageForge.Workspace.Program

/-!
# Jobs

A job changes a workspace, reports events and starts programs. What it has done
up to a failure stays done.
-/

namespace MessageForge

structure Workspace where
  disk : Disk
  events : List Event := []
  calls : List Call := []
  deriving DecidableEq, Repr

abbrev Job := ExceptT Failure (StateM Workspace)

/-- Where memory or stack gives out: in reading a source text, and in going
through a compiled schema. -/
structure Limits where
  source : Text → Option Exhaustion := fun _ => none
  schema : Schema.CompiledSchema → Option Exhaustion := fun _ => none

/-- Where a job runs: the directory that relative paths start from, the behaviour
of the external programs, the schema compiler, the names of characters and the
limits of the machine. -/
structure Setting where
  root : Text
  programs : Programs := {}
  compiler : Schema.Compiler := Schema.capnpCompiler
  characters : Source.CharacterNames := Source.namelessCharacters
  limits : Limits := {}

namespace Job

def report (event : Event) : Job Unit :=
  modify fun workspace => { workspace with events := workspace.events ++ [event] }

def reportAll (events : List Event) : Job Unit :=
  modify fun workspace => { workspace with events := workspace.events ++ events }

def record (call : Call) : Job Unit :=
  modify fun workspace => { workspace with calls := workspace.calls ++ [call] }

def disk : Job Disk :=
  return (← get).disk

def setDisk (disk : Disk) : Job Unit :=
  modify fun workspace => { workspace with disk }

def ofResult {α : Type} (result : Except Failure α) : Job α :=
  match result with
  | .ok value => return value
  | .error failure => throw failure

def ofFile {α : Type} (result : Except FileFault α) : Job α :=
  match result with
  | .ok value => return value
  | .error fault => throw (.file fault)

def within (limit : Option Exhaustion) : Job Unit :=
  match limit with
  | none => return ()
  | some cause => throw (.exhausted cause)

def writeFile (setting : Setting) (path : Text) (content : Bytes) : Job Unit := do
  setDisk (← ofFile ((← disk).write setting.root path content))

def removeFile (setting : Setting) (path : Text) : Job Unit := do
  setDisk (← ofFile ((← disk).remove setting.root path))

def makeDirectories (setting : Setting) (path : Text) : Job Unit := do
  let (made, fault) := (← disk).makeDirectories setting.root path
  setDisk made
  match fault with
  | none => return ()
  | some fault => throw (.file fault)

def run {α : Type} (job : Job α) (workspace : Workspace) : Except Failure α × Workspace :=
  ExceptT.run job workspace

end Job

end MessageForge
