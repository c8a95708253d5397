import MessageForge.Text.Basic

/-!
# Syntax of schemas

Types, values and names share one form of expression; what an expression means
is decided where it stands. Declarations hold declarations. Groups, unions and
fields are declarations too, but only some kinds make a scope of their own.
-/

namespace MessageForge.Schema

inductive Expr where
  | natural (value : Nat)
  | negative (value : Nat)
  | float
  | text (content : Text)
  | binary
  | list (items : List Expr)
  | tuple (items : List (Option Text × Expr))
  | name (name : Text)
  | absolute (name : Text)
  | importFile (path : Text)
  | embedFile (path : Text)
  | member (owner : Expr) (name : Text)
  | apply (function : Expr) (arguments : List (Option Text × Expr))

/-- An annotation as it is applied, with its value if one is given. -/
structure Application where
  name : Expr
  value : Option Expr

structure Parameter where
  name : Text
  type : Expr
  default : Option Expr
  annotations : List Application

inductive ParameterList where
  | named (parameters : List Parameter)
  | type (type : Expr)
  | stream

/-- The kinds of places that annotations can be made for. -/
inductive Target where
  | file
  | const
  | enumeration
  | enumerant
  | record
  | field
  | union
  | group
  | interface
  | method
  | parameter
  | marker
  deriving DecidableEq, Repr

def Target.all : List Target :=
  [.file, .const, .enumeration, .enumerant, .record, .field, .union, .group, .interface, .method,
    .parameter, .marker]

def Target.label : Target → Text
  | .file => "file"
  | .const => "const"
  | .enumeration => "enum"
  | .enumerant => "enumerant"
  | .record => "struct"
  | .field => "field"
  | .union => "union"
  | .group => "group"
  | .interface => "interface"
  | .method => "method"
  | .parameter => "param"
  | .marker => "annotation"

def Target.ofLabel? (label : Text) : Option Target :=
  Target.all.find? (·.label = label)

inductive Kind where
  | file
  | aliasFor (target : Expr)
  | const (type value : Expr)
  | marker (targets : List Target) (type : Expr)
  | enumeration
  | enumerant
  | record
  | interface (superclasses : List Expr)
  | field (type : Expr) (default : Option Expr)
  | union
  | group
  | method (parameters : ParameterList) (results : Option ParameterList)

/-- A declaration. The identifier is one that is written down, and the ordinal
orders the members of its scope. -/
structure Decl where
  name : Text
  kind : Kind
  identifier : Option Nat := none
  ordinal : Option Nat := none
  parameters : List Text := []
  annotations : List Application := []
  nested : List Decl := []

/-- Whether a declaration is a scope with a place of its own in the schema. -/
def Kind.isNode : Kind → Bool
  | .file | .const .. | .marker .. | .enumeration | .record | .interface .. => true
  | _ => false

end MessageForge.Schema
