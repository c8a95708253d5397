import MessageForge.Workspace.Checking
import MessageForge.Workspace.Formatting
import MessageForge.Workspace.Reading
import MessageForge.Workspace.Search

/-!
# Runs

A run goes through phases: it removes what is to be cleaned, selects files,
reads and derives all of them, and only then writes modules, marks their
directories as typed and checks what was written.
-/

namespace MessageForge

open Job

def removeAll (setting : Setting) : List Text → Job Unit
  | [] => return ()
  | path :: rest => do
      report (.removing path)
      removeFile setting path
      removeAll setting rest

def clean (setting : Setting) (options : Options) : Job Unit := do
  removeAll setting (← ofFile (cleanedPaths (← disk) setting.root options))

/-- A declaration file and the module drafted from it. -/
structure Reading where
  path : Text
  draft : Draft
  deriving DecidableEq, Repr

/-- Reads all files. Those without declarations are passed over. -/
def readAll (setting : Setting) (importPaths : List Text) : List Text → Job (List Reading)
  | [] => return []
  | path :: rest => do
      report (.reading path)
      let draft ← readDraft setting importPaths path
      if draft.typeNames.isEmpty then
        report (.nothingDeclared path)
        readAll setting importPaths rest
      else return { path, draft } :: (← readAll setting importPaths rest)

/-- The module file is opened before its text is formatted. -/
def writeModule (setting : Setting) (draft : Draft) (path : Text) : Job Unit := do
  writeFile setting path []
  let text ← formatText setting.programs draft.render
  writeFile setting path (Utf8.encode text)
  report (.wrote draft.typeNames.length path)

/-- A module to be written: where it goes and what it holds. -/
structure Placed where
  directory : Text
  path : Text
  draft : Draft
  deriving DecidableEq, Repr

def place (setting : Setting) (output : Text) (base : Option Text) (reading : Reading) : Placed :=
  let directory := Placement.outputDirectory setting.root output base reading.path
  { directory, path := Placement.outputPath directory reading.path, draft := reading.draft }

/-- Directories are made only below an output directory that is asked for. -/
def writeAll (setting : Setting) (makesDirectories : Bool) : List Placed → Job Unit
  | [] => return ()
  | placed :: rest => do
      if makesDirectories then makeDirectories setting placed.directory
      writeModule setting placed.draft placed.path
      writeAll setting makesDirectories rest

def typedMarker : Text := "py.typed"

/-- Leaves an empty marker file in each directory that has none. -/
def markTyped (setting : Setting) : List Text → Job Unit
  | [] => return ()
  | directory :: rest => do
      let path := Path.join directory typedMarker
      if !(← disk).exists? setting.root path then writeFile setting path []
      markTyped setting rest

def writePhase (setting : Setting) (options : Options) (paths : List Text)
    (readings : List Reading) : Job (List Text) := do
  let output := options.outputDirectory
  let base :=
    if output.isEmpty then none else Placement.commonBase setting.root options.paths paths
  let placed := readings.map (place setting output base)
  writeAll setting (!output.isEmpty) placed
  markTyped setting (sortedSet (placed.map Placed.directory))
  return placed.map Placed.path

def run (setting : Setting) (options : Options) : Job Unit := do
  clean setting options
  let paths ← ofFile (selectedPaths (← disk) setting.root options)
  if paths.isEmpty then report .nothingFound
  else
    let importPaths := options.importPaths.map (Path.join setting.root)
    let readings ← readAll setting importPaths paths
    let written ← writePhase setting options paths readings
    if !options.skipChecker then checkModules setting written

end MessageForge
