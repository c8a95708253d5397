import MessageForge.Session.Evaluation

/-!
# Steps

A session makes objects of generated classes, keeps them under keys and uses
them step by step. A step that fails leaves its key as it was, and the session
goes on. Lists and tables that an answer shows are the ones of the session, so
that what they hold is settled when the session ends.
-/

namespace MessageForge.Session

/-- An argument as it is written: every list and table is a new one. -/
inductive Argument where
  | none
  | bool (value : Bool)
  | integer (value : Int)
  | text (value : Text)
  | messageType (name : Text)
  | reference (key : Text)
  | list (items : List Argument)
  | table (entries : List (Text × Argument))

structure WrittenArguments where
  positional : List Argument := []
  named : List (Text × Argument) := []

inductive Step where
  | create (key type method : Text) (arguments : WrittenArguments)
  | construct (key type : Text) (arguments : WrittenArguments)
  | call (key method : Text) (arguments : WrittenArguments)
  | read (key member : Text)
  | assign (key member : Text) (value : Argument)
  | enter (key member : Text) (place value : Argument)
  | compare (left right : Text)
  | conforms (key : Text)

/-- The objects that a session keeps. -/
abbrev Objects := List (Text × Value)

def stored (objects : Objects) (key : Text) : Evaluation Value :=
  match objects.lookup key with
  | some value => return value
  | none => throw .key

mutual

def Argument.value (objects : Objects) : Argument → Evaluation Value
  | .none => return .none
  | .bool b => return .bool b
  | .integer n => return .integer n
  | .text t => return .text t
  | .messageType name =>
      match MessageType.ofName? name with
      | some type => return .messageType type
      | Option.none => throw .attribute
  | .reference key => stored objects key
  | .list items => do allocate (.list (← Argument.values objects items))
  | .table entries => do allocate (.table (← Argument.namedValues objects entries))

def Argument.values (objects : Objects) : List Argument → Evaluation (List Value)
  | [] => return []
  | argument :: rest => do
      let value ← argument.value objects
      return value :: (← Argument.values objects rest)

def Argument.namedValues (objects : Objects) :
    List (Text × Argument) → Evaluation (List (Text × Value))
  | [] => return []
  | (name, argument) :: rest => do
      let value ← argument.value objects
      return (name, value) :: (← Argument.namedValues objects rest)

end

def WrittenArguments.values (arguments : WrittenArguments) (objects : Objects) :
    Evaluation Arguments := do
  let positional ← Argument.values objects arguments.positional
  return { positional, named := ← Argument.namedValues objects arguments.named }

/-- What an answer shows of a value. -/
inductive View where
  | none
  | bool (value : Bool)
  | integer (value : Int)
  | text (value : Text)
  | messageType (name : Text)
  | base (members : List (Text × View))
  | message (type : Text) (fields : List (Text × View))
  | shared (address : Nat)
  | list (items : List View)
  | table (entries : List (Text × View))

/-- How the lists and tables of a view are shown. -/
inductive Sharing where
  | kept
  | settled
  deriving DecidableEq, Repr

/-- The view of a value. The fuel bounds how deeply objects lie in objects. -/
def view (classes : Classes) (heap : Heap) (sharing : Sharing) : (fuel : Nat) → Value → View
  | 0, _ => .none
  | fuel + 1, value =>
      let inner := view classes heap sharing fuel
      let entries (attributes : List (Text × Value)) : List (Text × View) :=
        attributes.map fun (name, value) => (name, inner value)
      let fields (type : ObjectType) (attributes : List (Text × Value)) : List (Text × View) :=
        (fieldNames classes type).filterMap fun name =>
          (attributes.lookup name).map fun value => (name, inner value)
      match value with
      | .none => .none
      | .bool b => .bool b
      | .integer n => .integer n
      | .text t => .text t
      | .messageType type => .messageType type.name
      | .baseClass => .text Vocabulary.baseRecord
      | .typeClass => .text Vocabulary.messageTypeEnum
      | .textClass => .text "str"
      | .messageClass name | .method name => .text name
      | .cell address =>
          match heap[address]?, sharing with
          | some (.object .base attributes), _ => .base (fields .base attributes)
          | some (.object (.message name) attributes), _ =>
              .message name (fields (.message name) attributes)
          | some (.list items), .settled => .list (items.map inner)
          | some (.table attributes), .settled => .table (entries attributes)
          | some _, .kept => .shared address
          | Option.none, _ => .none

mutual

/-- Shows lists and tables as they are at last. -/
def View.settle (classes : Classes) (heap : Heap) : View → View
  | .shared address => view classes heap .settled heap.bound (.cell address)
  | .base members => .base (View.settleEntries classes heap members)
  | .message type fields => .message type (View.settleEntries classes heap fields)
  | .list items => .list (View.settleItems classes heap items)
  | .table entries => .table (View.settleEntries classes heap entries)
  | .none => .none
  | .bool b => .bool b
  | .integer n => .integer n
  | .text t => .text t
  | .messageType name => .messageType name

def View.settleItems (classes : Classes) (heap : Heap) : List View → List View
  | [] => []
  | item :: rest => item.settle classes heap :: View.settleItems classes heap rest

def View.settleEntries (classes : Classes) (heap : Heap) :
    List (Text × View) → List (Text × View)
  | [] => []
  | (name, value) :: rest =>
      (name, value.settle classes heap) :: View.settleEntries classes heap rest

end

def viewOf (classes : Classes) (value : Value) : Evaluation View := do
  let heap ← get
  return view classes heap .kept heap.bound value

/-- The key that a value is in a table: texts are keys, and so are the values
that have a text of their own. -/
def tableKey? : Value → Option Text
  | .text t => some t
  | .integer n => some (Text.ofInt n)
  | .bool true => some "true"
  | .bool false => some "false"
  | .none => some "null"
  | _ => Option.none

/-- The place that an index names in a list; one below zero counts from the end. -/
def listIndex? (length : Nat) (index : Int) : Option Nat :=
  let place := if index < 0 then index + length else index
  if 0 ≤ place && place < length then some place.toNat else none

/-- Puts a value into a list or a table. -/
def putEntry (container place value : Value) : Evaluation Unit := do
  match ← cellOf? container with
  | some (.table entries) =>
      match tableKey? place with
      | some key => update container (.table (Session.assign key value entries))
      | none => throw .type
  | some (.list items) =>
      match asInteger? place with
      | none => throw .type
      | some index =>
          match listIndex? items.length index with
          | some i => update container (.list (items.set i value))
          | none => throw .index
  | _ => throw .type

/-- The members that a message shows to those who know nothing else of it. -/
def interfaceNames : List Text :=
  accessors.map (·.name) ++ [Vocabulary.roleField]

/-- Whether a value has a member that can be read. -/
def hasMember (classes : Classes) (owner : Value) (name : Text) : Evaluation Bool := do
  let (result, heap) := (accessMember classes owner name .read).run (← get)
  set heap
  match result with
  | .ok _ => return true
  | .error .attribute => return false
  | .error fault => throw fault

def hasMembers (classes : Classes) (owner : Value) : List Text → Evaluation Bool
  | [] => return true
  | name :: rest => do
      if ← hasMember classes owner name then hasMembers classes owner rest else return false

/-- The answer to a step, and the objects kept after it. -/
def Step.perform (classes : Classes) (objects : Objects) : Step → Evaluation (View × Objects)
  | .create key type method arguments => do
      match moduleName? classes type with
      | none => throw .attribute
      | some owner =>
          let _ ← accessMember classes owner method .read
          let given ← arguments.values objects
          let value ← accessMember classes owner method (.call given)
          return (← viewOf classes value, Session.assign key value objects)
  | .construct key type arguments => do
      match moduleName? classes type with
      | none => throw .attribute
      | some owner =>
          let given ← arguments.values objects
          let value ← callValue classes owner given
          return (← viewOf classes value, Session.assign key value objects)
  | .call key method arguments => do
      let owner ← stored objects key
      let _ ← accessMember classes owner method .read
      let given ← arguments.values objects
      let _ ← accessMember classes owner method (.call given)
      return (← viewOf classes owner, objects)
  | .read key member => do
      let owner ← stored objects key
      return (← viewOf classes (← accessMember classes owner member .read), objects)
  | .assign key member value => do
      let owner ← stored objects key
      setMember classes owner member (← value.value objects)
      return (← viewOf classes owner, objects)
  | .enter key member place value => do
      let owner ← stored objects key
      let container ← accessMember classes owner member .read
      let place ← place.value objects
      putEntry container place (← value.value objects)
      return (← viewOf classes owner, objects)
  | .compare left right => do
      let a ← stored objects left
      let b ← stored objects right
      let heap ← get
      return (.bool (areEqual (fieldNames classes) heap heap.bound a b), objects)
  | .conforms key => do
      let owner ← stored objects key
      return (.bool (← hasMembers classes owner interfaceNames), objects)

abbrev Answer := Except Fault View

/-- The answers to steps one after the other, and the heap after the last one. -/
def performAll (classes : Classes) (objects : Objects) (heap : Heap) :
    List Step → List Answer × Heap
  | [] => ([], heap)
  | step :: rest =>
      let (result, next) := (step.perform classes objects).run heap
      match result with
      | .ok (answer, kept) =>
          let (answers, last) := performAll classes kept next rest
          (.ok answer :: answers, last)
      | .error fault =>
          let (answers, last) := performAll classes objects next rest
          (.error fault :: answers, last)

/-- A whole session over the classes of a module. -/
def run (classes : Classes) (steps : List Step) : List Answer :=
  let (answers, heap) := performAll classes [] [] steps
  answers.map fun answer => answer.map (View.settle classes heap)

end MessageForge.Session
