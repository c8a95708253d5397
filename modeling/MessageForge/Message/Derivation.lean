import MessageForge.Event
import MessageForge.Message.Members

/-!
# Derivation

A declared record becomes a message class if it has a base field, no field in
the way of a generated member or constructor parameter, and a category in its
name. The checks come in this order and the first that fails is reported.
-/

namespace MessageForge

open Vocabulary

/-- The members generated for one type, in the order in which they stand. -/
structure Derivation where
  declaration : Declaration
  category : Text
  role : RoleShape

/-- The lines generated for one type. -/
structure MemberLines where
  typeName : Text
  constructors : List Text
  mutators : List Text
  interface : List Text
  deriving DecidableEq, Repr

def MemberLines.lines (members : MemberLines) : List Text :=
  Code.separate [members.constructors, members.mutators, members.interface]

namespace Derivation

def constructors (derivation : Derivation) : List Method :=
  MessageForge.constructors derivation.declaration.fields derivation.category

def interface (derivation : Derivation) : List Method :=
  interfaceMembers derivation.role

def members (derivation : Derivation) : List Method :=
  derivation.constructors ++ mutators ++ derivation.interface

def lines (derivation : Derivation) : MemberLines :=
  { typeName := derivation.declaration.name
    constructors := methodLines derivation.constructors
    mutators := methodLines mutators
    interface := methodLines derivation.interface }

end Derivation

/-- What the constructors of a type report. -/
def constructorEvents (name : Text) : RoleShape → List Event
  | .stored field => [.roleStored name field.name]
  | .derived _ => []

def interfaceEvents (name : Text) (role : RoleShape) : List Event :=
  [.implementing name role.isStored]

/-- The constructors of a declaration for any category. -/
def constructorLines (declaration : Declaration) (category : Text) :
    Except Diagnostic (List Text) := do
  let fields ← declaration.recordFields
  return methodLines (constructors fields category)

def namesAmong (names taken : List Text) : List Text :=
  sortedSet (names.filter taken.contains)

def checkFields (declaration : Declaration) (fields : List Field) : Except Complaint Unit :=
  let names := fields.map Field.name
  let conflicts := namesAmong names generatedMembers
  let repeats :=
    namesAmong names (constructorParameters.filter (!generatedMembers.contains ·))
  if !names.contains baseField then .error (.missingBase declaration.name)
  else if !conflicts.isEmpty then .error (.memberConflict declaration.name conflicts)
  else if !repeats.isEmpty then .error (.parameterRepeat declaration.name repeats)
  else .ok ()

def checkCategory (declaration : Declaration) : Except Complaint Text :=
  let category := Category.ofTypeName declaration.name
  if category.isEmpty then .error (.bareSuffix declaration.name) else .ok category

/-- The derivation of a declaration, which depends on nothing else. -/
def Declaration.derive (declaration : Declaration) : Except Diagnostic Derivation := do
  let fields ← declaration.recordFields
  (checkFields declaration fields).mapError declaration.refuse
  let category ← (checkCategory declaration).mapError declaration.refuse
  return { declaration, category, role := declaration.roleShape category }

/-- What a successful derivation reports. -/
def Derivation.events (derivation : Derivation) : List Event :=
  let name := derivation.declaration.name
  let missing :=
    if derivation.category = name then [Event.suffixMissing name derivation.category] else []
  missing ++ constructorEvents name derivation.role ++ interfaceEvents name derivation.role

end MessageForge
