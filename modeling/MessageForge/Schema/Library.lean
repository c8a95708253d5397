import MessageForge.Schema.Grammar
import MessageForge.Schema.Lexer
import MessageForge.Text.Utf8
import MessageForge.Workspace.Disk

/-!
# Libraries

A schema is compiled together with the files that it imports. An import is
relative to the importing file, or with a slash in front to the first import
directory that has it. Missing or malformed files matter only where something
in them is used.
-/

namespace MessageForge.Schema

/-- Why a schema is refused. -/
inductive Fault where
  | malformed
  | unfoundImport
  | undefinedName
  | noMember
  | notName
  | notType
  | notConstant
  | notMarker
  | notInterface
  | notRecord
  | misplaced
  | duplicateName
  | nameStyle
  | ordinals
  | tooFewMembers
  | typeArguments
  | listElement
  | target
  | valueMissing
  | valueMismatch
  | duplicateIdentifier
  | circular
  deriving DecidableEq, Repr

abbrev Check := Except Fault

/-- A file is known by the directory that it is found from and the way to it. -/
structure FileKey where
  base : Location
  path : Location
  deriving DecidableEq, Repr

def FileKey.location (key : FileKey) : Location :=
  key.base ++ key.path

structure SchemaFile where
  key : FileKey
  root : Option Decl
  imports : List (Text × FileKey) := []
  embeds : List Text := []
  size : Nat := 0

structure Library where
  files : List SchemaFile

mutual

/-- The files that an expression names, to be compiled or to be embedded. -/
def Expr.references (embedded : Bool) : Expr → List Text
  | .importFile path => if embedded then [] else [path]
  | .embedFile path => if embedded then [path] else []
  | .list items => referencesInAll embedded items
  | .tuple items => referencesInItems embedded items
  | .member owner _ => owner.references embedded
  | .apply function arguments =>
      function.references embedded ++ referencesInItems embedded arguments
  | _ => []

def referencesInAll (embedded : Bool) : List Expr → List Text
  | [] => []
  | expr :: rest => expr.references embedded ++ referencesInAll embedded rest

def referencesInItems (embedded : Bool) : List (Option Text × Expr) → List Text
  | [] => []
  | (_, expr) :: rest => expr.references embedded ++ referencesInItems embedded rest

end

/-- Methods that stream have a result of a standard type. -/
def streamResult : Expr :=
  .member (.importFile "/capnp/stream.capnp") "StreamResult"

def Application.exprs (application : Application) : List Expr :=
  application.name :: application.value.toList

def Parameter.exprs (parameter : Parameter) : List Expr :=
  parameter.type :: parameter.default.toList ++
    parameter.annotations.flatMap Application.exprs

def ParameterList.exprs : ParameterList → List Expr
  | .named parameters => parameters.flatMap Parameter.exprs
  | .type whole => [whole]
  | .stream => [streamResult]

def Kind.exprs : Kind → List Expr
  | .aliasFor target => [target]
  | .const type value => [type, value]
  | .marker _ type => [type]
  | .interface superclasses => superclasses
  | .field type default => type :: default.toList
  | .method parameters results =>
      parameters.exprs ++ (results.map ParameterList.exprs).getD []
  | _ => []

mutual

/-- All expressions in a declaration. -/
def Decl.exprs : Decl → List Expr
  | ⟨_, kind, _, _, _, annotations, nested⟩ =>
      kind.exprs ++ annotations.flatMap Application.exprs ++ exprsInAll nested

def exprsInAll : List Decl → List Expr
  | [] => []
  | decl :: rest => decl.exprs ++ exprsInAll rest

end

/-- The names of a path, where two dots must not lead out of the start. -/
def evalPath (start : Location) (path : Text) : Option Location :=
  (Text.split '/' path).foldlM
    (fun (done : Location) (part : Text) =>
      if part.isEmpty || part = "." then some done
      else if part = ".." then if done.isEmpty then none else some done.dropLast
      else some (done ++ [part]))
    start

def fileAt? (disk : Disk) (key : FileKey) : Option Bytes :=
  match disk.item? key.location with
  | some (.file content) => some content
  | _ => none

def isFileKey (disk : Disk) (key : FileKey) : Bool :=
  (fileAt? disk key).isSome

/-- Schemas are read as bytes, so a path in one has to be decoded. -/
def decodePath (path : Text) : Text :=
  Utf8.decodeLossy (path.map fun c => c.toNat.toUInt8)

/-- The file that an import in another file means. -/
def importedKey? (disk : Disk) (directories : List Location) (importer : FileKey)
    (target : Text) : Option FileKey := do
  match decodePath target with
  | '/' :: '/' :: _ => none
  | '/' :: rest => do
      let path ← evalPath [] rest
      (directories.map fun base => { base, path }).find? (isFileKey disk)
  | relative => do
      let key := { importer with path := ← evalPath importer.path.dropLast relative }
      if isFileKey disk key then some key else none

def parseSchema (content : Bytes) : Option Decl := do
  let text := content.map fun byte => Char.ofNat byte.toNat
  readFile (text.length + 1) (← lexStatements text)

def readFileAt (disk : Disk) (directories : List Location) (key : FileKey) : SchemaFile :=
  let content := (fileAt? disk key).getD []
  match parseSchema content with
  | none => { key, root := none }
  | some root =>
      let exprs := root.exprs
      let keyed (target : Text) : Option (Text × FileKey) :=
        (importedKey? disk directories key target).map (target, ·)
      { key, root := some root
        imports := (exprs.flatMap (Expr.references false)).filterMap keyed
        embeds := (exprs.flatMap (Expr.references true)).filter fun target =>
          (importedKey? disk directories key target).isSome
        size := content.length }

/-- Reads files with all that they import, in rounds. -/
def readFilesFrom (disk : Disk) (directories : List Location) :
    (fuel : Nat) → List SchemaFile → List FileKey → List SchemaFile
  | 0, done, _ => done
  | fuel + 1, done, wanted =>
      let fresh := wanted.eraseDups.filter fun key => !done.any (·.key = key)
      if fresh.isEmpty then done
      else
        let files := fresh.map (readFileAt disk directories)
        readFilesFrom disk directories fuel (done ++ files)
          (files.flatMap fun file => file.imports.map Prod.snd)

def readLibrary (disk : Disk) (directories : List Location) (key : FileKey) : Library :=
  let bound := (disk.items.length + 1) * (directories.length + 1)
  { files := readFilesFrom disk directories bound [] [key] }

namespace Library

/-- More than the number of steps that any chain of names can take. -/
def bound (library : Library) : Nat :=
  (library.files.map SchemaFile.size).foldl (· + ·) 0 * 3 + 3

def file? (library : Library) (key : FileKey) : Option SchemaFile :=
  library.files.find? (·.key = key)

def root? (library : Library) (key : FileKey) : Option Decl :=
  (library.file? key).bind SchemaFile.root

end Library

end MessageForge.Schema
