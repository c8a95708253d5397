import MessageForge.Event
import MessageForge.Schema.Node
import MessageForge.Source.Keyword

/-!
# Declarations in schemas

Nodes at the top level of a compiled schema that carry the schema's own
annotation are declared types. A record is one with slots alone. Their types
follow the nesting of lists; a type that generated modules have no name for is
the most general one.
-/

namespace MessageForge.Schema

open Vocabulary

def fallbackType : Text := "object"

def PlainType.hint : PlainType → Text
  | .void => "None"
  | .bool => "bool"
  | .int8 | .int16 | .int32 | .int64 | .uint8 | .uint16 | .uint32 | .uint64 => "int"
  | .float32 | .float64 => "float"
  | .text => "str"
  | .data => "bytes"

/-- The name of the node with a number. Of several nodes the last one counts. -/
def nameOf? (nested : List NestedNode) (id : Nat) : Option Text :=
  (nested.reverse.find? (·.id = id)).map NestedNode.name

/-- The annotation text of a type, with the types of which it says less. -/
def ValueType.hint (nested : List NestedNode) : ValueType → Text × List Event
  | .plain type => (type.hint, [])
  | .list element =>
      let (inner, events) := element.hint nested
      ("list[" ++ inner ++ "]", events)
  | .enumeration id | .record id => ((nameOf? nested id).getD fallbackType, [])
  | .interface _ => (fallbackType, [.noCounterpart "interface"])
  | .anyPointer => (fallbackType, [.noCounterpart "anyPointer"])

/-- The fields of a record up to its first group, if it has one. -/
structure SlotFields where
  fields : List Field := []
  events : List Event := []
  group : Option Text := none

def SlotFields.ofFields (nested : List NestedNode) : List NodeField → SlotFields
  | [] => {}
  | .group name :: _ => { group := some name }
  | .slot name type :: rest =>
      let (hint, events) := type.hint nested
      let more := SlotFields.ofFields nested rest
      { fields := { name := Source.avoidKeyword name, type := hint } :: more.fields
        events := events ++ more.events
        group := more.group }

/-- The declaration of a record: unions count before groups. -/
def recordDeclaration (nested : List NestedNode) (source name : Text) (discriminantCount : Nat)
    (fields : List NodeField) : Declaration × List Event :=
  let plain : Declaration := { name, source := some source }
  if discriminantCount ≠ 0 then
    ({ plain with shape := .union, reason := "it contains a union" }, [])
  else
    let found := SlotFields.ofFields nested fields
    match found.group with
    | some group =>
        ({ plain with shape := .other, reason := "field '" ++ group ++ "' is a group" },
          found.events)
    | none =>
        if found.fields.isEmpty then
          ({ plain with shape := .unit, reason := "it declares no fields" }, found.events)
        else ({ plain with fields := found.fields }, found.events)

def otherShape (name source word : Text) : Declaration :=
  { name, shape := .other, reason := "it is a capnp " ++ word, source := some source }

def declarationOf (nested : List NestedNode) (source : Text) (node : Node) :
    Declaration × List Event :=
  match node.content with
  | .record discriminantCount fields =>
      recordDeclaration nested source node.name discriminantCount fields
  | .enumeration =>
      ({ name := node.name, shape := .enumeration, reason := "it is a capnp enum"
         source := some source }, [])
  | .interface => (otherShape node.name source "interface", [])
  | .const => (otherShape node.name source "const", [])
  | .marker => (otherShape node.name source "annotation", [])
  | .file => (otherShape node.name source "file", [])

/-- The numbers of what a schema declares under the name of the annotation. -/
def annotationIds (nested : List NestedNode) : List Nat :=
  (nested.filter (·.name = deriveAnnotation)).map NestedNode.id

def isMarked (nested : List NestedNode) (node : Node) : Bool :=
  node.annotations.any (annotationIds nested).contains

/-- The declared types of a compiled schema. -/
def declarationsOf (schema : CompiledSchema) (source : Text) : DeclarationFile × List Event :=
  let nested := schema.nestedNodes
  if (annotationIds nested).isEmpty then ({ path := source }, [.annotationMissing source])
  else
    let marked := nested.filter fun inner => isMarked nested inner.node
    let found := marked.map fun inner => declarationOf nested source inner.node
    ({ path := source, entries := found.map fun (declaration, _) => .declaration declaration },
      found.flatMap Prod.snd ++ [.schemaRead found.length source])

/-- Compiles a schema. That it is refused is the one failure that is reported as
a malformed declaration. -/
def compileFile (compiler : Compiler) (disk : Disk) (root : Text) (importPaths : List Text)
    (path : Text) : Except Failure CompiledSchema :=
  if !disk.isFile root path then .error .schemaUnreadable
  else
    match compiler disk root importPaths path with
    | .ok schema => .ok schema
    | .error .refused => .error (.refused { complaint := .invalidSchema, source := some path })
    | .error (.broken fault) => .error (.compilerBroken fault)

end MessageForge.Schema
