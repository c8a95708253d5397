import MessageForge.Message.Category
import MessageForge.Text.Quoted

/-!
# Values

Generated classes are used by making objects of them and calling their
members. Lists, tables and objects live in cells of a heap and are shared by
reference; all other values are what they are.
-/

namespace MessageForge.Session

inductive Value where
  | none
  | bool (value : Bool)
  | integer (value : Int)
  | text (value : Text)
  | messageType (value : MessageType)
  | cell (address : Nat)
  | baseClass
  | messageClass (name : Text)
  | typeClass
  | textClass
  | method (name : Text)
  deriving DecidableEq, Repr

/-- What an object is an instance of. -/
inductive ObjectType where
  | base
  | message (name : Text)
  deriving DecidableEq, Repr

inductive Cell where
  | list (items : List Value)
  | table (entries : List (Text × Value))
  | object (type : ObjectType) (attributes : List (Text × Value))
  deriving DecidableEq, Repr

/-- Why something cannot be done to a value. -/
inductive Fault where
  | type
  | attribute
  | key
  | index
  | value
  | depth
  deriving DecidableEq, Repr

abbrev Heap := List Cell

/-- Replaces the value of a key in its place, or adds the key at the end. -/
def assign (key : Text) (value : Value) : List (Text × Value) → List (Text × Value)
  | [] => [(key, value)]
  | (old, kept) :: rest =>
      if old = key then (key, value) :: rest else (old, kept) :: assign key value rest

namespace Heap

def add (heap : Heap) (cell : Cell) : Heap × Value :=
  (heap ++ [cell], .cell heap.length)

def at? (heap : Heap) : Value → Option Cell
  | .cell address => heap[address]?
  | _ => Option.none

/-- Twice the number of cells is more than any chain of different cells is long. -/
def bound (heap : Heap) : Nat :=
  2 * heap.length + 2

end Heap

/-- The fields of the base record; the first three must be given. -/
def baseFields : List Text :=
  ["content", "example", "message_type", "additional_kwargs", "response_metadata", "id", "name"]

/-- The field names of an object of some type. -/
abbrev FieldNames := ObjectType → List Text

def boolText (value : Bool) : Text :=
  if value then "True" else "False"

def typeText (type : MessageType) : Text :=
  "<" ++ MessageForge.Vocabulary.messageTypeEnum ++ "." ++ type.name ++ ": " ++
    Text.quote type.value ++ ">"

def typeName : ObjectType → Text
  | .base => MessageForge.Vocabulary.baseRecord
  | .message name => name

/-- The text of a value as it stands inside others. -/
def shownText (fields : FieldNames) (heap : Heap) : (fuel : Nat) → Value → Except Fault Text
  | 0, _ => .error .depth
  | fuel + 1, value => do
      let pair (mark : Text) (entry : Text × Value) : Except Fault Text := do
        return entry.1 ++ mark ++ (← shownText fields heap fuel entry.2)
      match value with
      | .none => return "None"
      | .bool b => return boolText b
      | .integer n => return Text.ofInt n
      | .text t => return Text.quote t
      | .messageType type => return typeText type
      | .cell address =>
          match heap[address]? with
          | some (.list items) =>
              let inner ← items.mapM (shownText fields heap fuel)
              return "[" ++ Text.join ", " inner ++ "]"
          | some (.table entries) =>
              let inner ← entries.mapM fun (key, value) => pair ": " (Text.quote key, value)
              return "\x7b" ++ Text.join ", " inner ++ "\x7d"
          | some (.object type attributes) =>
              let inner ← (fields type).mapM fun name =>
                pair "=" (name, (attributes.lookup name).getD .none)
              return typeName type ++ "(" ++ Text.join ", " inner ++ ")"
          | Option.none => throw .type
      | .baseClass => return MessageForge.Vocabulary.baseRecord
      | .messageClass name | .method name => return name
      | .typeClass => return MessageForge.Vocabulary.messageTypeEnum
      | .textClass => return "str"

/-- The text of a value by itself. -/
def plainText (fields : FieldNames) (heap : Heap) (value : Value) : Except Fault Text :=
  match value with
  | .text t => .ok t
  | .messageType type => .ok type.name
  | value => shownText fields heap heap.bound value

def asInteger? : Value → Option Int
  | .bool b => some (if b then 1 else 0)
  | .integer n => some n
  | _ => Option.none

/-- Two values are equal if they are the same, the same number, or made alike.
Objects of different types never are. -/
def areEqual (fields : FieldNames) (heap : Heap) : (fuel : Nat) → Value → Value → Bool
  | 0, a, b => a = b
  | fuel + 1, a, b =>
      if a = b then true
      else
        match asInteger? a, asInteger? b with
        | some m, some n => m = n
        | _, _ =>
            match heap.at? a, heap.at? b with
            | some (.list xs), some (.list ys) =>
                xs.length = ys.length &&
                  (xs.zip ys).all fun (x, y) => areEqual fields heap fuel x y
            | some (.table xs), some (.table ys) =>
                xs.length = ys.length && xs.all fun (key, x) =>
                  match ys.lookup key with
                  | some y => areEqual fields heap fuel x y
                  | Option.none => false
            | some (.object s xs), some (.object t ys) =>
                s = t && (fields s).all fun name =>
                  match xs.lookup name, ys.lookup name with
                  | some x, some y => areEqual fields heap fuel x y
                  | _, _ => false
            | _, _ => false

end MessageForge.Session
