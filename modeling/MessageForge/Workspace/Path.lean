import MessageForge.Text.Basic

/-!
# Paths

Paths are texts whose components are separated by slashes. All of their
algebra is textual: nothing here looks at files.
-/

namespace MessageForge.Path

def isAbsolute (path : Text) : Bool :=
  Text.startsWith "/" path

/-- An absolute second path replaces the first. -/
def join (front back : Text) : Text :=
  if isAbsolute back then back
  else if front.isEmpty || Text.endsWith "/" front then front ++ back
  else front ++ "/" ++ back

/-- What stands before and behind the last occurrence of a character. -/
def splitLast? (sep : Char) (path : Text) : Option (Text × Text) :=
  let tail := path.reverse.takeWhile (· ≠ sep)
  match path.reverse.dropWhile (· ≠ sep) with
  | [] => none
  | _ :: front => some (front.reverse, tail.reverse)

/-- The last component, which is empty behind a final slash. -/
def baseName (path : Text) : Text :=
  match splitLast? '/' path with
  | some (_, name) => name
  | none => path

def dropTrailingSlashes (path : Text) : Text :=
  (path.reverse.dropWhile (· = '/')).reverse

/-- The path without its last component. Slashes alone are kept. -/
def directory (path : Text) : Text :=
  match splitLast? '/' path with
  | none => []
  | some (front, _) =>
      let front := front ++ "/"
      if front.all (· = '/') then front else dropTrailingSlashes front

/-- Cuts the extension off the last component. Leading dots start none. -/
def splitExtension (path : Text) : Text × Text :=
  let name := baseName path
  match splitLast? '.' name with
  | none => (path, [])
  | some (stem, extension) =>
      if stem.all (· = '.') then (path, [])
      else (path.take (path.length - extension.length - 1), '.' :: extension)

/-- The last component other than a dot, whatever slashes are around it. -/
def name (path : Text) : Text :=
  let parts := (Text.split '/' path).filter fun (part : Text) => !part.isEmpty && part ≠ "."
  parts.getLastD []

/-- The components of a path, where a parent component takes back the one
before it. A relative path may keep leading parent components. -/
def foldParents (absolute : Bool) (parts : List Text) : List Text :=
  let step (done : List Text) (part : Text) : List Text :=
    if part.isEmpty || part = "." then done
    else if part = ".." then
      match done with
      | [] => if absolute then [] else [part]
      | last :: front => if last = ".." then part :: done else front
    else part :: done
  (parts.foldl step []).reverse

/-- Exactly two leading slashes are kept apart from one. -/
def rootOf (path : Text) : Text :=
  match path with
  | '/' :: '/' :: '/' :: _ => "/"
  | '/' :: '/' :: _ => "//"
  | '/' :: _ => "/"
  | _ => []

def normalize (path : Text) : Text :=
  let root := rootOf path
  let normal := root ++ Text.join "/" (foldParents (!root.isEmpty) (Text.split '/' path))
  if normal.isEmpty then "." else normal

def absolute (current path : Text) : Text :=
  normalize (if isAbsolute path then path else join current path)

/-- The components that two lists have in common at the front. -/
def commonPrefix : List Text → List Text → List Text
  | a :: as, b :: bs => if a = b then a :: commonPrefix as bs else []
  | _, _ => []

def parts (path : Text) : List Text :=
  (Text.split '/' path).filter (!·.isEmpty)

/-- The way from one absolute path to another. -/
def relative (current path start : Text) : Text :=
  let goal := parts (absolute current path)
  let origin := parts (absolute current start)
  let shared := (commonPrefix origin goal).length
  let steps := List.replicate (origin.length - shared) (".." : Text) ++ goal.drop shared
  if steps.isEmpty then "." else Text.join "/" steps

/-- The deepest directory that holds all of the absolute paths. -/
def common (paths : List Text) : Text :=
  let split := paths.map fun path =>
    (Text.split '/' path).filter fun (part : Text) => !part.isEmpty && part ≠ "."
  match split with
  | [] => "/"
  | first :: rest => "/" ++ Text.join "/" (rest.foldl commonPrefix first)

end MessageForge.Path
