import MessageForge.Text.Lines
import MessageForge.Workspace.Job

/-!
# Checking

The written modules are checked by a type checker. They pass if it ends
without complaint and no line of its output shows an error.
-/

namespace MessageForge

open Job

def errorMark : Text := " - error:"

def countErrors (output : Text) : Nat :=
  (Text.lines output).countP (Text.hasPart errorMark)

def checkerMissing : Text :=
  "pyright command not found. Install the test extra or pass --no-pyright."

def checkerUnstarted (fault : Text) : Text :=
  "Error running pyright: " ++ fault

def checkFailure (errors : Nat) (output : Text) : Text :=
  "Pyright validation failed with " ++ Text.ofNat errors ++
    " error(s) in generated modules:\n\n" ++ output

/-- The checker may leave something in the last file it is given. Where the file
cannot be found, the checker counts as not found. -/
def leaveContent (setting : Setting) (files : List Text) (written : Option Bytes) : Job Unit := do
  match files.getLast?, written with
  | some file, some content =>
      match (← disk).write setting.root file content with
      | .ok changed => setDisk changed
      | .error .missing => throw (.checkRefused checkerMissing)
      | .error fault => throw (.file fault)
  | _, _ => return ()

def judge (exit : Exit) : Job Unit := do
  let errors := countErrors exit.output
  if errors = 0 && exit.exitCode = 0 then report .checkPassed
  else
    let message := checkFailure errors exit.output
    report (.checkRefused message)
    throw (.checkRefused message)

def checkModules (setting : Setting) (files : List Text) : Job Unit := do
  if files.isEmpty then report .nothingGenerated
  else
    report (.checking files.length)
    record (.checking files)
    match setting.programs.checker with
    | .refuses .missing => throw (.checkRefused checkerMissing)
    | .refuses (.process fault) => throw (.checkRefused (checkerUnstarted fault))
    | .refuses (.system fault) => throw (.programBroken fault)
    | .ends outcome =>
        leaveContent setting files outcome.written
        judge outcome.toExit

end MessageForge
