import MessageForge.Workspace.Disk

/-!
# Compiled schemas

What a schema compiler gives for a file: the nodes at its top level with their
names and numbers, and what the loader looks at in them. A type refers to the
node of a record or an enumeration by its number, and so does an annotation to
what it is an application of. Which compiler it is makes no difference to the
loader.
-/

namespace MessageForge.Schema

/-- The types that stand for themselves. -/
inductive PlainType where
  | void
  | bool
  | int8
  | int16
  | int32
  | int64
  | uint8
  | uint16
  | uint32
  | uint64
  | float32
  | float64
  | text
  | data
  deriving DecidableEq, Repr

inductive ValueType where
  | plain (type : PlainType)
  | list (element : ValueType)
  | enumeration (id : Nat)
  | record (id : Nat)
  | interface (id : Nat)
  | anyPointer
  deriving DecidableEq, Repr

/-- A member of a record. Named unions are groups as well. -/
inductive NodeField where
  | slot (name : Text) (type : ValueType)
  | group (name : Text)
  deriving DecidableEq, Repr

namespace NodeField

def name : NodeField → Text
  | slot name _ => name
  | group name => name

def isSlot : NodeField → Bool
  | slot .. => true
  | group _ => false

end NodeField

/-- What a node is. The members of an unnamed union are among the fields of the
record, and the discriminant counts them. -/
inductive NodeContent where
  | file
  | record (discriminantCount : Nat) (fields : List NodeField)
  | enumeration
  | interface
  | const
  | marker
  deriving DecidableEq, Repr

/-- A node with the numbers of the annotations that are applied to it. Its name
is what is left of the display name behind a prefix. -/
structure Node where
  displayName : Text
  prefixLength : Nat
  annotations : List Nat := []
  content : NodeContent
  deriving DecidableEq, Repr

def Node.name (node : Node) : Text :=
  node.displayName.drop node.prefixLength

/-- A node at the top level of a file, under its name there. -/
structure NestedNode where
  name : Text
  id : Nat
  node : Node
  deriving DecidableEq, Repr

structure CompiledSchema where
  nestedNodes : List NestedNode
  deriving DecidableEq, Repr

/-- How a compiler fails: it refuses the schema, or it breaks off with an error
of another kind. -/
inductive CompileFault where
  | refused
  | broken (fault : Text)
  deriving DecidableEq, Repr

/-- A compiler is given the disk, the directory that relative paths start from,
the directories of absolute imports and the path of the schema. -/
abbrev Compiler := Disk → Text → List Text → Text → Except CompileFault CompiledSchema

end MessageForge.Schema
