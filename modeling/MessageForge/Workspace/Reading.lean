import MessageForge.Draft
import MessageForge.Schema.Declarations
import MessageForge.Source.Declarations
import MessageForge.Text.Lines
import MessageForge.Workspace.Job
import MessageForge.Workspace.Placement

/-!
# Reading

A declaration file is read by the front end for its extension: schemas are
compiled, and everything else is source text in UTF-8.
-/

namespace MessageForge

open Job

def readSource (setting : Setting) (path : Text) : Job DeclarationFile := do
  let content ← ofFile ((← disk).read setting.root path)
  match Utf8.decode? content with
  | none => throw .notUtf8
  | some text =>
      within (setting.limits.source (Text.universalNewlines text))
      match Source.parseDeclarations setting.characters (Text.universalNewlines text) path with
      | .error failure => throw failure
      | .ok file =>
          reportAll (Source.readEvents file)
          return file

def readSchema (setting : Setting) (importPaths : List Text) (path : Text) :
    Job DeclarationFile := do
  let schema ← ofResult
    (Schema.compileFile setting.compiler (← disk) setting.root importPaths path)
  within (setting.limits.schema schema)
  let (file, events) := Schema.declarationsOf schema path
  reportAll events
  return file

def readDeclarations (setting : Setting) (importPaths : List Text) (path : Text) :
    Job DeclarationFile :=
  if Text.endsWith Placement.schemaExtension path then readSchema setting importPaths path
  else readSource setting path

/-- Reads a file and derives all of its entries. -/
def readDraft (setting : Setting) (importPaths : List Text) (path : Text) : Job Draft := do
  let file ← readDeclarations setting importPaths path
  let (draft, refused) := (Draft.ofFile file).generateAll
  reportAll draft.events
  match refused with
  | some diagnostic => throw (.refused diagnostic)
  | none => return draft

end MessageForge
