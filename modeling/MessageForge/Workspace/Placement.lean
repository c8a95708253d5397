import MessageForge.Workspace.Path

/-!
# Placement

Which files count as declaration files, how the module generated for one is
called, and which directory the layout of an output directory starts from.
-/

namespace MessageForge.Placement

def schemaExtension : Text := ".capnp"
def sourceExtension : Text := ".py"
def generatedSuffix : Text := "_derived"

/-- The endings of the file names that a directory is searched for. -/
def declarationEndings : List Text :=
  [schemaExtension, "_messages.py"]

def isDeclarationName (fileName : Text) : Bool :=
  declarationEndings.any fun ending => Text.endsWith ending fileName

def isDeclarationExtension (extension : Text) : Bool :=
  extension = schemaExtension || extension = sourceExtension

/-- The name of a generated module without its extension. Hyphens cannot stand
in the name of a module. -/
def generatedStem (fileName : Text) : Text :=
  let (stem, extension) := Path.splitExtension fileName
  let kept := if isDeclarationExtension extension then stem else fileName
  Text.replaceChar '-' '_' kept ++ generatedSuffix

def generatedName (fileName : Text) : Text :=
  generatedStem fileName ++ sourceExtension

/-- Files that look like generated modules are never read. -/
def isGenerated (path : Text) : Bool :=
  Text.endsWith generatedSuffix (Path.splitExtension path).1

def isPattern (part : Text) : Bool :=
  part.any fun c => c = '*' || c = '?' || c = '['

/-- The leading components of a pattern up to its first component with a
wildcard, without the last one if the pattern names a single file. -/
def patternBase (pattern : Text) : Text :=
  let parts := Text.split '/' pattern
  let literal := parts.takeWhile (!isPattern ·)
  if literal.length = parts.length && isDeclarationExtension (Path.splitExtension pattern).2 then
    Text.join "/" literal.dropLast
  else Text.join "/" literal

/-- The directory from which the layout of the inputs is kept: the deepest one
above all bases of patterns, or above all files if no pattern has a base. -/
def commonBase (root : Text) (patterns found : List Text) : Option Text :=
  let bases := (patterns.map patternBase).filter (!·.isEmpty)
  if !bases.isEmpty then
    some (Path.common (bases.map fun base => Path.absolute root (Path.join root base)))
  else if found.isEmpty then none
  else some (Path.common (found.map fun path => Path.directory (Path.absolute root path)))

/-- The directory for the module of one declaration file. Without an output
directory it stands beside the file. -/
def outputDirectory (root output : Text) (base : Option Text) (path : Text) : Text :=
  if output.isEmpty then Path.directory path
  else
    match base with
    | none => output
    | some base => Path.join output (Path.directory (Path.relative root path base))

def outputPath (directory path : Text) : Text :=
  Path.join directory (generatedName (Path.baseName path))

end MessageForge.Placement
