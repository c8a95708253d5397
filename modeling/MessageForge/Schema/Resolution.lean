import MessageForge.Schema.Library

/-!
# Resolution of names

A name is looked up in the scope it stands in, then outwards to the file, and
last among the built-in types. Each scope offers its own declarations, then
its aliases, then its type parameters. An alias is not visible to itself.
-/

namespace MessageForge.Schema

/-- A scope or type by its place: the file, and the names from there on. -/
structure NodeRef where
  file : FileKey
  path : List Text
  deriving DecidableEq, Repr

namespace NodeRef

def ofFile (file : FileKey) : NodeRef :=
  ⟨file, []⟩

def child (ref : NodeRef) (name : Text) : NodeRef :=
  { ref with path := ref.path ++ [name] }

def parent (ref : NodeRef) : NodeRef :=
  { ref with path := ref.path.dropLast }

end NodeRef

def Decl.node? (decl : Decl) (name : Text) : Option Decl :=
  decl.nested.find? fun inner => inner.kind.isNode && inner.name = name

def Decl.aliased? (decl : Decl) (name : Text) : Option Expr :=
  decl.nested.findSome? fun inner =>
    match inner.kind with
    | .aliasFor target => if inner.name = name then some target else none
    | _ => none

def Decl.at? (decl : Decl) : List Text → Option Decl
  | [] => some decl
  | name :: rest => (decl.node? name).bind (·.at? rest)

def Library.decl? (library : Library) (ref : NodeRef) : Option Decl :=
  (library.root? ref.file).bind (·.at? ref.path)

inductive Builtin where
  | void
  | bool
  | integer (isSigned : Bool) (bits : Nat)
  | float (bits : Nat)
  | text
  | data
  | list
  | anyPointer
  | anyRecord
  | anyList
  | capability
  deriving DecidableEq, Repr

def Builtin.table : List (Text × Builtin) :=
  [("Void", .void), ("Bool", .bool), ("Int8", .integer true 8), ("Int16", .integer true 16),
    ("Int32", .integer true 32), ("Int64", .integer true 64), ("UInt8", .integer false 8),
    ("UInt16", .integer false 16), ("UInt32", .integer false 32), ("UInt64", .integer false 64),
    ("Float32", .float 32), ("Float64", .float 64), ("Text", .text), ("Data", .data), ("List", .list),
    ("AnyPointer", .anyPointer), ("AnyStruct", .anyRecord), ("AnyList", .anyList),
    ("Capability", .capability)]

/-- What a name means. -/
inductive Referent where
  | node (ref : NodeRef)
  | builtin (builtin : Builtin)
  | parameter
  deriving DecidableEq, Repr

/-- A name with the types that it is applied to. -/
inductive Resolved where
  | mk (referent : Referent) (arguments : List Resolved)

namespace Resolved

def bare (referent : Referent) : Resolved :=
  .mk referent []

def referent : Resolved → Referent
  | .mk referent _ => referent

def arguments : Resolved → List Resolved
  | .mk _ arguments => arguments

end Resolved

namespace Library

def parameterCount (library : Library) : Referent → Nat
  | .node ref => ((library.decl? ref).map (·.parameters.length)).getD 0
  | .builtin .list => 1
  | _ => 0

/-- Type arguments are pointers: what is stored outside of its record. -/
def isPointer (library : Library) (type : Resolved) : Bool :=
  match type.referent with
  | .parameter => true
  | .builtin builtin =>
      builtin = .list || builtin = .text || builtin = .data || builtin = .anyPointer
  | .node ref =>
      match (library.decl? ref).map Decl.kind with
      | some .record | some (.interface _) => true
      | _ => false

/-- Arguments are given once, and as many as there are parameters. Lists alone
take types of any kind. Nothing can be applied to a type parameter. -/
def applyTypes (library : Library) (function : Resolved) (arguments : List Resolved) :
    Check Resolved :=
  match function.referent with
  | .parameter => .ok function
  | referent =>
      if !function.arguments.isEmpty then .error .typeArguments
      else if arguments.length ≠ library.parameterCount referent then .error .typeArguments
      else if referent ≠ .builtin .list && !arguments.all library.isPointer then
        .error .typeArguments
      else .ok (.mk referent arguments)

/-- An argument of a type has no name. -/
def unnamed (items : List (Option Text × Expr)) : Check (List Expr) :=
  items.mapM fun (name, value) => if name.isSome then .error .typeArguments else .ok value

mutual

def resolveFrom (library : Library) : (fuel : Nat) → (busy : List NodeRef) → (scope : NodeRef) →
    (implicits : List Text) → Expr → Check Resolved
  | 0, _, _, _, _ => .error .circular
  | fuel + 1, busy, scope, implicits, .name name =>
      if implicits.contains name then .ok (.bare .parameter)
      else library.visible fuel busy scope name
  | fuel + 1, busy, scope, _, .absolute name => do
      match ← library.memberFrom fuel busy (.ofFile scope.file) name with
      | some found => return found
      | none => throw .undefinedName
  | _ + 1, _, scope, _, .importFile path =>
      match (library.file? scope.file).bind (·.imports.lookup path) with
      | none => .error .unfoundImport
      | some key =>
          if (library.root? key).isSome then .ok (.bare (.node (.ofFile key)))
          else .error .malformed
  | fuel + 1, busy, scope, implicits, .apply function items => do
      let function ← library.resolveFrom fuel busy scope implicits function
      let arguments ← (← unnamed items).mapM (library.resolveFrom fuel busy scope implicits)
      library.applyTypes function arguments
  | fuel + 1, busy, scope, implicits, .member owner name => do
      match (← library.resolveFrom fuel busy scope implicits owner).referent with
      | .node ref =>
          match ← library.memberFrom fuel busy ref name with
          | some found => return found
          | none => throw .noMember
      | _ => throw .noMember
  | _ + 1, _, _, _, _ => .error .notName

/-- The declaration or alias of a name in one scope. -/
def memberFrom (library : Library) : (fuel : Nat) → (busy : List NodeRef) → (scope : NodeRef) →
    (name : Text) → Check (Option Resolved)
  | 0, _, _, _ => .error .circular
  | fuel + 1, busy, scope, name =>
      match library.decl? scope with
      | none => .ok none
      | some decl =>
          let place := scope.child name
          if (decl.node? name).isSome then .ok (some (.bare (.node place)))
          else if busy.contains place then .ok none
          else
            match decl.aliased? name with
            | none => .ok none
            | some target => some <$> library.resolveFrom fuel (place :: busy) scope [] target

/-- A name as it is seen from a scope. -/
def visible (library : Library) : (fuel : Nat) → (busy : List NodeRef) → (scope : NodeRef) →
    (name : Text) → Check Resolved
  | 0, _, _, _ => .error .circular
  | fuel + 1, busy, scope, name => do
      match ← library.memberFrom fuel busy scope name with
      | some found => return found
      | none =>
          let parameters := ((library.decl? scope).map Decl.parameters).getD []
          if parameters.contains name then return .bare .parameter
          else if scope.path.isEmpty then
            match Builtin.table.lookup name with
            | some builtin => return .bare (.builtin builtin)
            | none => throw .undefinedName
          else library.visible fuel busy scope.parent name

end

/-- What an expression names, seen from a scope and a list of type parameters
that only it can see. -/
def resolve (library : Library) (scope : NodeRef) (implicits : List Text) (expr : Expr) :
    Check Resolved :=
  library.resolveFrom library.bound [] scope implicits expr

end Library

end MessageForge.Schema
