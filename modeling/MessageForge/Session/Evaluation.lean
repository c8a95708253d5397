import MessageForge.Session.Class

/-!
# Evaluation

Methods are evaluated as they are written: a name is looked up among the
parameters, then among the classes of the module and what it imports, then
among what is known everywhere. Properties are computed on access, and a method that is called gets
its object or class first.
-/

namespace MessageForge.Session

abbrev Evaluation := ExceptT Fault (StateM Heap)

/-- The arguments of a call, by position and by name. -/
structure Arguments where
  positional : List Value := []
  named : List (Text × Value) := []

/-- A member of a value is either read or called. -/
inductive Access where
  | read
  | call (arguments : Arguments)

abbrev Locals := List (Text × Value)

def allocate (cell : Cell) : Evaluation Value := do
  let (heap, value) := (← get).add cell
  set heap
  return value

def cellOf? (value : Value) : Evaluation (Option Cell) :=
  return (← get).at? value

def update (value : Value) (cell : Cell) : Evaluation Unit :=
  match value with
  | .cell address => modify fun heap => List.set heap address cell
  | _ => throw .type

/-- Gives arguments to parameters: by position first, then by name, each
parameter once and none left over. -/
def bind (names : List Text) (arguments : Arguments) : Except Fault Locals :=
  let placed := names.zip arguments.positional
  if names.length < arguments.positional.length then .error .type
  else if arguments.named.any fun (name, _) =>
      !names.contains name || (placed.lookup name).isSome then .error .type
  else
    (names.drop placed.length).foldlM
      (fun locals name =>
        match arguments.named.lookup name with
        | some value => .ok (locals ++ [(name, value)])
        | none => .error .type)
      placed

/-- What a module imports. Its own classes hide what it imports. -/
def importedNames : List (Text × Value) :=
  [(Vocabulary.baseRecord, .baseClass), (Vocabulary.messageTypeEnum, .typeClass)]

def moduleName? (classes : Classes) (name : Text) : Option Value :=
  if (find? classes name).isSome then some (.messageClass name) else importedNames.lookup name

/-- What is known everywhere. -/
def builtinNames : List (Text × Value) :=
  [("str", .textClass)]

/-- What a field of the base record holds if nothing is given for it. -/
def defaultOf (field : Text) : Evaluation (Text × Value) := do
  if field = "additional_kwargs" || field = "response_metadata" then
    return (field, ← allocate (.table []))
  else return (field, .none)

/-- A new base record. Tables that are not given are new ones. -/
def makeBase (arguments : Arguments) : Evaluation Value := do
  let given := arguments.positional.length
  let missing := (baseFields.drop (max given 3)).filter fun name =>
    (arguments.named.lookup name).isNone
  let defaults ← missing.mapM defaultOf
  match bind baseFields { arguments with named := arguments.named ++ defaults } with
  | .ok attributes => allocate (.object .base attributes)
  | .error fault => throw fault

/-- What every object has from the start and does not let go of. -/
def fixedMembers : List (Text × Fault) :=
  [("__class__", .type), ("__weakref__", .attribute)]

/-- What an object stores that its class makes of arguments: some parameters
take no argument by position, and some are not stored. -/
def MessageClass.bind (type : MessageClass) (arguments : Arguments) : Except Fault Locals :=
  if type.positional.length < arguments.positional.length then .error .type
  else
    match Session.bind type.parameters arguments with
    | .ok given => .ok (given.filter fun entry => type.stored.contains entry.1)
    | .error fault => .error fault

def makeMessage (type : MessageClass) (arguments : Arguments) : Evaluation Value := do
  match type.bind arguments, type.stored.findSome? (List.lookup · fixedMembers) with
  | .ok attributes, none => allocate (.object (.message type.name) attributes)
  | .ok _, some fault | .error fault, _ => throw fault

def textOf (classes : Classes) (arguments : Arguments) : Evaluation Value := do
  match arguments with
  | ⟨[], []⟩ => return .text []
  | ⟨[value], []⟩ =>
      match plainText (fieldNames classes) (← get) value with
      | .ok text => return .text text
      | .error fault => throw fault
  | _ => throw .type

def typeOf (arguments : Arguments) : Evaluation Value :=
  match arguments with
  | ⟨[.messageType type], []⟩ => return .messageType type
  | ⟨[.text text], []⟩ =>
      match MessageType.ofValue? text with
      | some type => return .messageType type
      | none => throw .value
  | ⟨[_], []⟩ => throw .value
  | _ => throw .type

/-- Only classes can be called as such. -/
def callValue (classes : Classes) (callee : Value) (arguments : Arguments) : Evaluation Value :=
  match callee with
  | .baseClass => makeBase arguments
  | .messageClass name =>
      match find? classes name with
      | some type => makeMessage type arguments
      | none => throw .type
  | .textClass => textOf classes arguments
  | .typeClass => typeOf arguments
  | _ => throw .type

def finish (classes : Classes) (value : Value) : Access → Evaluation Value
  | .read => return value
  | .call arguments => callValue classes value arguments

/-- How members of values are accessed while a method runs. -/
abbrev Accessor := Value → Text → Access → Evaluation Value

structure Frame where
  classes : Classes
  className : Text
  access : Accessor
  locals : Locals

def Frame.name (frame : Frame) (name : Text) : Evaluation Value :=
  let known := privateName frame.className name
  match ((frame.locals.lookup known).or (moduleName? frame.classes known)).or
      (builtinNames.lookup known) with
  | some value => return value
  | none => throw .attribute

mutual

def evaluate (frame : Frame) : Term → Evaluation Value
  | .name name => frame.name name
  | .member owner name => do
      frame.access (← evaluate frame owner) (privateName frame.className name) .read
  | .none => return .none
  | .false => return .bool false
  | .emptyTable => allocate (.table [])
  | .call (.member owner name) arguments => do
      let owner ← evaluate frame owner
      let positional ← evaluateAll frame arguments
      frame.access owner (privateName frame.className name) (.call { positional })
  | .call callee arguments => do
      let callee ← evaluate frame callee
      let positional ← evaluateAll frame arguments
      callValue frame.classes callee { positional }
  | .construct callee initializers => do
      let callee ← evaluate frame callee
      let named ← evaluateNamed frame initializers
      callValue frame.classes callee { named }

def evaluateAll (frame : Frame) : List Term → Evaluation (List Value)
  | [] => return []
  | term :: rest => do
      let value ← evaluate frame term
      return value :: (← evaluateAll frame rest)

/-- Initializers keep the names that they are written with. -/
def evaluateNamed (frame : Frame) : List (Text × Term) → Evaluation (List (Text × Value))
  | [] => return []
  | (name, term) :: rest => do
      let value ← evaluate frame term
      return (name, value) :: (← evaluateNamed frame rest)

end

def isProperty (classes : Classes) (type : ObjectType) (name : Text) : Bool :=
  match type with
  | .base => false
  | .message className =>
      match (find? classes className).bind (·.method? name) with
      | some method => method.kind = .property
      | none => false

/-- Sets an attribute of an object, unless a property stands in its place. -/
def setMember (classes : Classes) (owner : Value) (name : Text) (value : Value) :
    Evaluation Unit := do
  match ← cellOf? owner with
  | some (.object type attributes) =>
      if isProperty classes type name then throw .attribute
      else update owner (.object type (assign name value attributes))
  | _ => throw .attribute

def execute (frame : Frame) : List Statement → Evaluation Value
  | [] => return .none
  | .give value :: _ => evaluate frame value
  | .assign (.member owner name) value :: rest => do
      let value ← evaluate frame value
      let owner ← evaluate frame owner
      setMember frame.classes owner (privateName frame.className name) value
      execute frame rest
  | .assign _ _ :: _ => throw .type

/-- Runs a method of a class with its object or class as first argument. -/
def runMethod (classes : Classes) (access : Accessor) (type : MessageClass) (method : Method)
    (arguments : Arguments) : Evaluation Value := do
  let first : Text := if method.kind = .classMethod then "cls" else "self"
  let names := first :: method.parameters.map fun parameter =>
    privateName type.name parameter.name
  match bind names arguments with
  | .ok locals => execute { classes, className := type.name, access, locals } method.body
  | .error fault => throw fault

def Arguments.push (arguments : Arguments) (first : Value) : Arguments :=
  { arguments with positional := first :: arguments.positional }

/-- A member that a class itself shows. A method of objects is called on the
first argument. -/
def accessClassMember (classes : Classes) (access : Accessor) (type : MessageClass)
    (name : Text) (how : Access) : Evaluation Value :=
  match type.method? name with
  | none => throw .attribute
  | some method =>
      match how with
      | .read => return .method name
      | .call arguments =>
          match method.kind with
          | .classMethod =>
              runMethod classes access type method (arguments.push (.messageClass type.name))
          | .instanceMethod => runMethod classes access type method arguments
          | .property => throw .type

/-- Properties of the class come first, then what the object stores, then the
methods of the class. -/
def accessObjectMember (classes : Classes) (access : Accessor) (self : Value)
    (type : Option MessageClass) (attributes : List (Text × Value)) (name : Text)
    (how : Access) : Evaluation Value := do
  let method := type.bind (·.method? name)
  match type, method with
  | some type, some method =>
      if method.kind = .property then
        finish classes (← runMethod classes access type method { positional := [self] }) how
      else
        match attributes.lookup name, how with
        | some value, how => finish classes value how
        | none, .read => return .method name
        | none, .call arguments =>
            if method.kind = .classMethod then
              runMethod classes access type method (arguments.push (.messageClass type.name))
            else runMethod classes access type method (arguments.push self)
  | _, _ =>
      match attributes.lookup name with
      | some value => finish classes value how
      | none => throw .attribute

/-- The members of a message type. The other types can be reached from it. -/
def typeMember? (type : MessageType) (name : Text) : Option Value :=
  if name = "name" then some (.text type.name)
  else if name = "value" then some (.text type.value)
  else (MessageType.ofName? name).map Value.messageType

/-- Accesses a member of a value. The fuel bounds how deeply properties may
rest on properties of other objects. -/
def access (classes : Classes) : (fuel : Nat) → Accessor
  | 0, _, _, _ => throw .depth
  | fuel + 1, owner, name, how => do
      match owner with
      | .messageClass className =>
          match find? classes className with
          | some type => accessClassMember classes (access classes fuel) type name how
          | none => throw .attribute
      | .typeClass =>
          match MessageType.ofName? name with
          | some type => finish classes (.messageType type) how
          | none => throw .attribute
      | .messageType type =>
          match typeMember? type name with
          | some value => finish classes value how
          | none => throw .attribute
      | owner =>
          match ← cellOf? owner with
          | some (.object .base attributes) =>
              accessObjectMember classes (access classes fuel) owner none attributes name how
          | some (.object (.message className) attributes) =>
              accessObjectMember classes (access classes fuel) owner (find? classes className)
                attributes name how
          | _ => throw .attribute

/-- Accesses a member with enough fuel for the heap as it is. -/
def accessMember (classes : Classes) (owner : Value) (name : Text) (how : Access) :
    Evaluation Value := do
  access classes (2 * (← get).bound + 4) owner name how

end MessageForge.Session
