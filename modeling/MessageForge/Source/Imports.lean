import MessageForge.Source.Declarations

/-!
# Imports

An import statement binds names to what they are imported as: modules, or
members of modules. A name means what it was bound to last. What the members
are is for the modules to say, so an import of all members binds what the
module is known to export.
-/

namespace MessageForge.Source

/-- An import statement, of modules or of members of one. -/
inductive Import where
  | modules (names : List Alias)
  | members (level : Nat) (module : Option Text) (names : List Alias)
  deriving DecidableEq, Repr

namespace Import

def node : Import → Node
  | .modules names => .imports names
  | .members level module names => .importsFrom level module names

/-- The import as it is written in a module. -/
def text : Import → Text
  | .modules names => "import " ++ commaList (names.map Alias.text)
  | .members level module names =>
      "from " ++ List.replicate level '.' ++ module.getD [] ++ " import " ++
        commaList (names.map Alias.text)

/-- Whether the import is not carried over. -/
def isOwn : Import → Bool
  | .modules _ => false
  | .members _ module _ => isOwnImport module

end Import

def Node.import? : Node → Option Import
  | .imports names => some (.modules names)
  | .importsFrom level module names => some (.members level module names)
  | _ => none

/-- The import statements of a text. -/
def importsOf (statements : List Stmt) : List Import :=
  statements.filterMap fun stmt => stmt.2.import?

/-- The import statements that are carried over. -/
def carriedOf (statements : List Stmt) : List Import :=
  (importsOf statements).filter (!·.isOwn)

/-- What a name can be bound to: a module, or a member of one. -/
inductive Referent where
  | module (path : Text)
  | member (level : Nat) (module : Option Text) (name : Text)
  deriving DecidableEq, Repr

/-- The names that an import of all members binds, which the module decides. -/
abbrev Exports := Nat → Option Text → List Text

/-- The names between the dots of a path. -/
def pathNames (path : Text) : List Text :=
  Text.split '.' path

/-- The one name that stands for all members. -/
def allMembers : List Alias :=
  [{ name := "*" }]

/-- A dotted path without another name binds its first name. -/
def Alias.binding (given : Alias) : Text × Referent :=
  match given.asName with
  | some name => (name, .module given.name)
  | none =>
      let top := (pathNames given.name).headD []
      (top, .module top)

def Import.bindings (exports : Exports) : Import → List (Text × Referent)
  | .modules names => names.map Alias.binding
  | .members level module names =>
      if names = allMembers then
        (exports level module).map fun name => (name, .member level module name)
      else names.map fun given => (given.asName.getD given.name, .member level module given.name)

/-- What a name means behind imports: what it was bound to last. -/
def meaning? (exports : Exports) (imports : List Import) (name : Text) : Option Referent :=
  (imports.flatMap (Import.bindings exports)).reverse.lookup name

end MessageForge.Source
