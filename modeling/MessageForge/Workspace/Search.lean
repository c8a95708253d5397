import MessageForge.Command.Options
import MessageForge.Workspace.Disk
import MessageForge.Workspace.Placement
import MessageForge.Workspace.Wildcard

/-!
# Search

Patterns are expanded to the paths that they match: component by component,
with two stars alone for any number of directories in a recursive search.
Names that begin with a dot are matched only by patterns that begin with one.
A directory stands for the declaration files in it.
-/

namespace MessageForge

def isHidden (name : Text) : Bool :=
  Text.startsWith "." name

def anyDepth : Text := "**"

namespace Disk

/-- The entries of a directory, none if there is no such directory. -/
def entries (disk : Disk) (root directory : Text) : Except FileFault (List Text) :=
  match disk.list root directory with
  | .error .nullCharacter => .error .nullCharacter
  | .error _ => .ok []
  | .ok names => .ok names

/-- The paths below a directory relative to it, without what is hidden. -/
def descendants (disk : Disk) (root : Text) (directoriesOnly : Bool) :
    (fuel : Nat) → (directory : Text) → Except FileFault (List Text)
  | 0, _ => .ok []
  | fuel + 1, directory => do
      let names ← disk.entries root directory
      let below ← (names.filter (!isHidden ·)).mapM fun name => do
        let path := Path.join directory name
        let deeper ← disk.descendants root directoriesOnly fuel path
        let kept := !directoriesOnly || disk.isDirectory root path
        return (if kept then [name] else []) ++ deeper.map (Path.join name)
      return below.flatten

def depthBound (disk : Disk) : Nat :=
  disk.items.length + 1

/-- The names in a directory that match the last component of a pattern. -/
def matchesIn (disk : Disk) (root : Text) (recursive directoriesOnly : Bool)
    (directory component : Text) : Except FileFault (List Text) := do
  if !Placement.isPattern component then
    if component.isEmpty then
      return if disk.isDirectory root directory then [component] else []
    else
      return if disk.exists? root (Path.join directory component) then [component] else []
  else if recursive && component = anyDepth then
    let here : List Text := if disk.isDirectory root directory then [[]] else []
    return here ++ (← disk.descendants root directoriesOnly disk.depthBound directory)
  else
    let names ← disk.entries root directory
    return names.filter fun name =>
      (!directoriesOnly || disk.isDirectory root (Path.join directory name)) &&
        (isHidden component || !isHidden name) && matchesPattern component name

def expandFrom (disk : Disk) (root : Text) (recursive : Bool) :
    (fuel : Nat) → (directoriesOnly : Bool) → (pattern : Text) → Except FileFault (List Text)
  | 0, _, _ => .ok []
  | fuel + 1, directoriesOnly, pattern => do
      let directory := Path.directory pattern
      let component := Path.baseName pattern
      if !Placement.isPattern pattern then
        let found :=
          if component.isEmpty then disk.isDirectory root directory else disk.exists? root pattern
        return if found then [pattern] else []
      else
        let directories ←
          if Placement.isPattern directory then
            disk.expandFrom root recursive fuel true directory
          else pure [directory]
        let found ← directories.mapM fun place => do
          let names ← disk.matchesIn root recursive directoriesOnly place component
          return names.map (Path.join place)
        return found.flatten

/-- The paths that an absolute pattern matches. -/
def expand (disk : Disk) (root : Text) (recursive : Bool) (pattern : Text) :
    Except FileFault (List Text) :=
  disk.expandFrom root recursive (pattern.length + 1) false pattern

/-- The declaration files below a directory, at any depth and hidden or not. -/
def declarationFilesBelow (disk : Disk) (root : Text) :
    (fuel : Nat) → (directory : Text) → Except FileFault (List Text)
  | 0, _ => .ok []
  | fuel + 1, directory => do
      let names ← disk.entries root directory
      let found ← names.mapM fun name => do
        let path := Path.join directory name
        if disk.isDirectory root path then disk.declarationFilesBelow root fuel path
        else return if Placement.isDeclarationName name then [path] else []
      return found.flatten

/-- The declaration files in a directory. -/
def declarationFiles (disk : Disk) (root : Text) (recursive : Bool) (directory : Text) :
    Except FileFault (List Text) := do
  if recursive then disk.declarationFilesBelow root disk.depthBound directory
  else
    let names ← disk.list root directory
    return (names.map (Path.join directory)).filter fun path =>
      disk.isFile root path && Placement.isDeclarationName (Path.baseName path)

end Disk

/-- The files to be removed before anything else. -/
def cleanedPaths (disk : Disk) (root : Text) (options : Options) :
    Except FileFault (List Text) := do
  let found ← options.clean.mapM fun pattern =>
    disk.expand root options.recursive (Path.join root pattern)
  return sortedSet found.flatten

def excludedPaths (disk : Disk) (root : Text) (options : Options) :
    Except FileFault (List Text) := do
  let found ← options.excludes.mapM fun pattern => do
    let path := Path.join root pattern
    if disk.isFile root path then return [path] else disk.expand root options.recursive path
  return found.flatten

def searchedPaths (disk : Disk) (root : Text) (options : Options) :
    Except FileFault (List Text) := do
  let found ← options.paths.mapM fun pattern => do
    let path := Path.join root pattern
    if disk.isDirectory root path then disk.declarationFiles root options.recursive path
    else disk.expand root options.recursive path
  return found.flatten

/-- The paths to read, in the order of their spelling. -/
def selectedPaths (disk : Disk) (root : Text) (options : Options) :
    Except FileFault (List Text) := do
  let excluded ← excludedPaths disk root options
  let searched ← searchedPaths disk root options
  return (sortedSet searched).filter fun path =>
    !excluded.contains path && !Placement.isGenerated path

end MessageForge
