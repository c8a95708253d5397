import MessageForge.Workspace.Run

/-!
# Execution

The command as a whole: its arguments are read, the run is carried out, and a
refused declaration is reported and gives exit code 1.
-/

namespace MessageForge

inductive Ending where
  | exits (code : Nat)
  | stops (fault : OptionFault)
  | fails (failure : Failure)
  deriving DecidableEq, Repr

/-- What an execution leaves. Debug events are shown only if asked for. -/
structure Execution where
  ending : Ending
  workspace : Workspace
  isVerbose : Bool := false
  deriving DecidableEq, Repr

def Event.consoleText (event : Event) : Text :=
  event.level.label ++ ":" ++ event.origin.fullLabel ++ ":" ++ event.message

def Execution.shownEvents (execution : Execution) : List Event :=
  execution.workspace.events.filter fun event =>
    execution.isVerbose || event.level ≠ .debug

def Execution.console (execution : Execution) : List Text :=
  execution.shownEvents.map Event.consoleText

def runReporting (setting : Setting) (options : Options) : Job Nat := do
  Job.report (.workingFrom setting.root)
  try
    run setting options
    return 0
  catch
    | .refused diagnostic =>
        Job.report (.refused diagnostic)
        return 1
    | failure => throw failure

def execute (setting : Setting) (arguments : List Text) (disk : Disk) : Execution :=
  match Options.ofArguments arguments with
  | .error fault => { ending := .stops fault, workspace := { disk } }
  | .ok options =>
      let (result, workspace) := (runReporting setting options).run { disk }
      { ending := match result with
          | .ok code => .exits code
          | .error failure => .fails failure
        workspace, isVerbose := options.verbose }

end MessageForge
