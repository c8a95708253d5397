import MessageForge.Text.Lines
import MessageForge.Workspace.Job

/-!
# Formatting

A generated module is laid out by two programs in turn. If the second one
reports a failure, or one of them does not start, the text stays as it is. If
both succeed, what they leave has to be a text.
-/

namespace MessageForge

open Job

def formatterName : Text := "ruff"

/-- A formatter that does not start is reported, except for a failure while it
is being started, which ends the job. -/
def withoutFormatter (source : Text) : SpawnFault → Job Text
  | .missing => do
      report (.formatterBroken formatterName)
      return source
  | .system fault => do
      report (.formatterBroken fault)
      return source
  | .process fault => throw (.programFailed fault)

/-- What the second program is given once the first one has ended. -/
def sortedFile (source : Text) (sorted : Formatting) : Option Bytes :=
  sorted.effect.apply (some (Utf8.encode source))

/-- What is there once both have ended. -/
def leftFile (source : Text) (sorted laid : Formatting) : Option Bytes :=
  laid.effect.apply (sortedFile source sorted)

/-- What the programs leave is read as a text file, which nothing guards. -/
def readLeft : Option Bytes → Except Failure Text
  | none => .error (.file .missing)
  | some content =>
      match Utf8.decode? content with
      | none => .error .notUtf8
      | some text => .ok (Text.universalNewlines text)

def formatText (programs : Programs) (source : Text) : Job Text := do
  record .sorting
  match programs.sorter (some (Utf8.encode source)) with
  | .refuses fault => withoutFormatter source fault
  | .ends sorted =>
      record .laying
      match programs.layouter (sortedFile source sorted) with
      | .refuses fault => withoutFormatter source fault
      | .ends laid =>
          if laid.exitCode = 0 then ofResult (readLeft (leftFile source sorted laid))
          else
            report (.formatterRefused (Utf8.decodeLossy laid.errors))
            return source

end MessageForge
