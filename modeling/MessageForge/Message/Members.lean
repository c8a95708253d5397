import MessageForge.Message.Category
import MessageForge.Message.Fields
import MessageForge.Message.Method

/-!
# Members

The members that generated classes have: a pair of constructors over the extra
fields, mutators and accessors for the base record, and the role accessor.
-/

namespace MessageForge

open Vocabulary

/-- A type either stores its role in a field or derives it from the category. -/
inductive RoleShape where
  | stored (field : Field)
  | derived (category : Text)
  deriving DecidableEq, Repr

def RoleShape.isStored : RoleShape → Bool
  | .stored _ => true
  | .derived _ => false

def Declaration.roleShape (declaration : Declaration) (category : Text) : RoleShape :=
  match declaration.roleField? with
  | some field => .stored field
  | none => .derived category

def onBase (member : Text) : Term :=
  .member (.member (.name "self") baseField) member

/-- The members of the base record that a message shows: the accessor, its
type and the member behind it. -/
def accessorTable : List (Text × Text × Text) :=
  [("content", "str", "content"),
    ("message_type", "MessageType", "message_type"),
    ("is_example", "bool", "example"),
    ("additional_kwargs", "dict[str, str]", "additional_kwargs"),
    ("response_metadata", "dict[str, str]", "response_metadata"),
    ("id", "str | None", "id"),
    ("name", "str | None", "name")]

def accessors : List Method :=
  accessorTable.map fun (name, type, member) =>
    { kind := .property, name, returns := some type, body := [.give (onBase member)] }

/-- The members of the base record that can be set: the mutator, its parameter
and the member it writes. -/
def mutatorTable : List (Text × Parameter × Text) :=
  [("set_content", ⟨"new_content", "str"⟩, "content"),
    ("set_example", ⟨"example", "bool"⟩, "example"),
    ("set_id", ⟨"id", "str | None"⟩, "id"),
    ("set_name", ⟨"name", "str | None"⟩, "name")]

def mutators : List Method :=
  mutatorTable.map fun (name, parameter, member) =>
    { kind := .instanceMethod, name, parameters := [parameter],
      body := [.assign (onBase member) (.name parameter.name)] }

/-- The base record of a new message: what the constructor is given, the
category, and nothing else. -/
def newBase (category : Text) : Term :=
  .construct (.name baseRecord)
    [("content", .name "content"), ("example", .name "example"),
      ("message_type", .member (.name messageTypeEnum) category),
      ("additional_kwargs", .emptyTable), ("response_metadata", .emptyTable),
      ("id", .none), ("name", .none)]

def fieldParameter (field : Field) : Parameter :=
  ⟨field.name, field.type⟩

/-- The constructor without the example flag passes everything on. -/
def shortConstructor (extra : List Field) : Method :=
  { kind := .classMethod, name := "new"
    parameters := ⟨"content", "str"⟩ :: extra.map fieldParameter
    returns := some "Self"
    body := [.give (.call (.member (.name "cls") "new_with_example")
      (.name "content" :: .false :: extra.map fun field => .name field.name))] }

def fullConstructor (extra : List Field) (category : Text) : Method :=
  { kind := .classMethod, name := "new_with_example"
    parameters := ⟨"content", "str"⟩ :: ⟨"example", "bool"⟩ :: extra.map fieldParameter
    returns := some "Self"
    body := [.give (.construct (.name "cls")
      ((baseField, newBase category) ::
        extra.map fun field => (field.name, .name field.name)))] }

def constructors (fields : List Field) (category : Text) : List Method :=
  [shortConstructor (extraFields fields), fullConstructor (extraFields fields) category]

/-- A stored role is its own accessor. -/
def roleAccessor : RoleShape → List Method
  | .stored _ => []
  | .derived _ =>
      [{ kind := .property, name := roleField, returns := some "str"
         body := [.give (.call (.name "str") [onBase "message_type"])] }]

def interfaceMembers (shape : RoleShape) : List Method :=
  accessors ++ roleAccessor shape

end MessageForge
