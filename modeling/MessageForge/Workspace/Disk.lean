import MessageForge.Failure
import MessageForge.Text.Utf8
import MessageForge.Workspace.Path

/-!
# Disk

The files and directories that a run sees. A location is the list of names
from the root downwards; a path is resolved to a location component by
component, and each component but the last must be an existing directory.
-/

namespace MessageForge

abbrev Location := List Text

inductive Item where
  | file (content : Bytes)
  | directory
  deriving DecidableEq, Repr

structure Disk where
  items : List (Location × Item) := []
  deriving DecidableEq, Repr

namespace Disk

/-- The root is always there. -/
def item? (disk : Disk) (location : Location) : Option Item :=
  if location = [] then some .directory else disk.items.lookup location

def put (disk : Disk) (location : Location) (item : Item) : Disk :=
  if (disk.items.lookup location).isSome then
    { items := disk.items.map fun (place, old) =>
        (place, if place = location then item else old) }
  else { items := disk.items ++ [(location, item)] }

def erase (disk : Disk) (location : Location) : Disk :=
  { items := disk.items.filter fun (place, _) => place ≠ location }

/-- Follows components from a location on. Empty components and dots stay, two
dots go up, and all of them need a directory to start from. -/
def walk (disk : Disk) (location : Location) : List Text → Except FileFault Location
  | [] => .ok location
  | part :: rest =>
      match disk.item? location with
      | none => .error .missing
      | some (.file _) => .error .notDirectory
      | some .directory =>
          if part.isEmpty || part = "." then disk.walk location rest
          else if part = ".." then disk.walk location.dropLast rest
          else disk.walk (location ++ [part]) rest

/-- The location of a path, at which there need not be anything. -/
def locate (disk : Disk) (root path : Text) : Except FileFault Location :=
  if path.any (·.toNat = 0) then .error .nullCharacter
  else if path.isEmpty then .error .missing
  else disk.walk [] (Text.split '/' (Path.join root path))

def find? (disk : Disk) (root path : Text) : Option Item :=
  match disk.locate root path with
  | .ok location => disk.item? location
  | .error _ => none

def exists? (disk : Disk) (root path : Text) : Bool :=
  (disk.find? root path).isSome

def isDirectory (disk : Disk) (root path : Text) : Bool :=
  disk.find? root path = some .directory

def isFile (disk : Disk) (root path : Text) : Bool :=
  match disk.find? root path with
  | some (.file _) => true
  | _ => false

/-- The names directly below a location. -/
def namesIn (disk : Disk) (location : Location) : List Text :=
  disk.items.filterMap fun (place, _) =>
    if place.dropLast = location then place.getLast? else none

def list (disk : Disk) (root path : Text) : Except FileFault (List Text) := do
  let location ← disk.locate root path
  match disk.item? location with
  | none => throw .missing
  | some (.file _) => throw .notDirectory
  | some .directory => return disk.namesIn location

def read (disk : Disk) (root path : Text) : Except FileFault Bytes := do
  match disk.item? (← disk.locate root path) with
  | none => throw .missing
  | some .directory => throw .isDirectory
  | some (.file content) => return content

/-- Creates a file or replaces its content. -/
def write (disk : Disk) (root path : Text) (content : Bytes) : Except FileFault Disk := do
  let location ← disk.locate root path
  match disk.item? location with
  | some .directory => throw .isDirectory
  | _ => return disk.put location (.file content)

def remove (disk : Disk) (root path : Text) : Except FileFault Disk := do
  let location ← disk.locate root path
  match disk.item? location with
  | none => throw .missing
  | some .directory => throw .isDirectory
  | some (.file _) => return disk.erase location

def makeDirectory (disk : Disk) (root path : Text) : Except FileFault Disk := do
  if path.all (· = '/') && !path.isEmpty then throw .alreadyThere
  else
    let location ← disk.locate root (Path.dropTrailingSlashes path)
    if (disk.item? location).isSome then throw .alreadyThere
    else return disk.put location .directory

/-- The path above a path, whatever slashes stand behind it. -/
def parentPath (path : Text) : Text :=
  if (Path.baseName path).isEmpty then Path.directory (Path.directory path)
  else Path.directory path

def lastName (path : Text) : Text :=
  if (Path.baseName path).isEmpty then Path.baseName (Path.directory path)
  else Path.baseName path

/-- Creates a directory with all that is missing above it. It is no fault if
it is there already. What was created before a fault stays. -/
def makeDirectoriesFrom (root : Text) : (fuel : Nat) → Disk → Text → Disk × Option FileFault
  | 0, disk, _ => (disk, none)
  | fuel + 1, disk, path =>
      let parent := parentPath path
      let name := lastName path
      let isNested := !parent.isEmpty && !name.isEmpty && !disk.exists? root parent
      let (disk, fault) :=
        if isNested then makeDirectoriesFrom root fuel disk parent else (disk, none)
      if fault.any (· ≠ .alreadyThere) then (disk, fault)
      else if isNested && name = "." then (disk, none)
      else
        match disk.makeDirectory root path with
        | .ok made => (made, none)
        | .error fault => (disk, if disk.isDirectory root path then none else some fault)

def makeDirectories (disk : Disk) (root path : Text) : Disk × Option FileFault :=
  makeDirectoriesFrom root (path.length + 1) disk path

/-- The paths of all files below a location, relative to it. -/
def filesBelow (disk : Disk) (location : Location) : List (Text × Bytes) :=
  disk.items.filterMap fun (place, item) =>
    match item with
    | .directory => none
    | .file content =>
        if place.take location.length = location then
          some (Text.join "/" (place.drop location.length), content)
        else none

end Disk

end MessageForge
