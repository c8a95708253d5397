import MessageForge.Command.Execution

/-!
# The command

The command runs on the files below the directory it is started in: they are
read into a disk, the run takes place there, and what it changed is carried
out. Programs are not started from here and count as missing.
-/

namespace MessageForge

/-- The disk with all files and directories below the current directory. -/
def readTree (root : Text) : IO Disk := do
  let mut disk := (({} : Disk).makeDirectories root root).1
  for path in ← (← IO.currentDir).walkDir do
    let place := Path.parts path.toString.toList
    if ← path.isDir then disk := disk.put place .directory
    else disk := disk.put place (.file (← IO.FS.readBinFile path).toList)
  return disk

def pathOf (location : Location) : String :=
  String.ofList ("/" ++ Text.join "/" location)

def removeMissing (before after : Disk) : IO Unit := do
  for (location, item) in before.items do
    if item ≠ .directory && (after.item? location).isNone then
      IO.FS.removeFile (pathOf location)

/-- A directory comes before what lies in it, so that each can be made in turn. -/
def writeChanged (before after : Disk) : IO Unit := do
  for (location, item) in after.items do
    if before.item? location ≠ some item then
      match item with
      | .directory => IO.FS.createDirAll (pathOf location)
      | .file content => IO.FS.writeBinFile (pathOf location) (ByteArray.mk content.toArray)

def FileFault.text : FileFault → Text
  | .missing => "no such file or directory"
  | .notDirectory => "not a directory"
  | .isDirectory => "is a directory"
  | .alreadyThere => "file exists"
  | .nullCharacter => "null character in a path"

def Failure.text : Failure → Text
  | .refused diagnostic => diagnostic.text
  | .checkRefused message => message
  | .file fault => fault.text
  | .schemaUnreadable => "schema cannot be read"
  | .exhausted .memory => "out of memory"
  | .exhausted .recursion => "recursion too deep"
  | .notUtf8 => "file is not encoded in UTF-8"
  | .unprintable => "annotation cannot be written out"
  | .compilerBroken fault | .programBroken fault | .programFailed fault => fault

/-- What is told of an ending besides the events, and the exit code. -/
def Ending.summary : Ending → Option Text × UInt32
  | .exits code => (none, code.toUInt32)
  | .stops fault => (fault.message.map ("error: " ++ ·), fault.exitCode.toUInt32)
  | .fails failure => (some failure.text, 1)

end MessageForge

open MessageForge in
def main (arguments : List String) : IO UInt32 := do
  let root := (← IO.currentDir).toString.toList
  let before ← readTree root
  let execution := execute { root } (arguments.map String.toList) before
  for line in execution.console do
    IO.eprintln (String.ofList line)
  removeMissing before execution.workspace.disk
  writeChanged before execution.workspace.disk
  let (told, code) := execution.ending.summary
  for line in told.toList do
    IO.eprintln (String.ofList line)
  return code
