import MessageForge.Text.Basic

/-!
# Declarations

A declaration file names message types in two ways: as a declared type with
fields, or as a definition that gives only the category. Field types are
annotation texts that are carried along and never interpreted.
-/

namespace MessageForge

/-- The structure of a declared type. Only records can be derived. -/
inductive Shape where
  | record
  | tuple
  | unit
  | enumeration
  | union
  | other
  deriving DecidableEq, Repr

def Shape.label : Shape → Text
  | .record => "record"
  | .tuple => "tuple"
  | .unit => "unit"
  | .enumeration => "enum"
  | .union => "union"
  | .other => "other"

structure Field where
  name : Text
  type : Text
  deriving DecidableEq, Repr

/-- A declared type. Where the shape is no record, the reason says why. -/
structure Declaration where
  name : Text
  fields : List Field := []
  shape : Shape := .record
  reason : Text := []
  source : Option Text := none
  line : Option Int := none
  deriving DecidableEq, Repr

def Declaration.fieldNames (declaration : Declaration) : List Text :=
  declaration.fields.map Field.name

/-- A message type that has nothing but the base record. -/
structure Definition where
  category : Text
  source : Option Text := none
  line : Option Int := none
  deriving DecidableEq, Repr

inductive Entry where
  | declaration (declaration : Declaration)
  | definition (definition : Definition)
  deriving DecidableEq, Repr

def Entry.declaration? : Entry → Option Declaration
  | .declaration d => some d
  | .definition _ => none

def Entry.definition? : Entry → Option Definition
  | .declaration _ => none
  | .definition d => some d

/-- What one declaration file contributes to its generated module. -/
structure DeclarationFile where
  path : Text
  imports : List Text := []
  entries : List Entry := []
  deriving DecidableEq, Repr

def DeclarationFile.declarations (file : DeclarationFile) : List Declaration :=
  file.entries.filterMap Entry.declaration?

def DeclarationFile.definitions (file : DeclarationFile) : List Definition :=
  file.entries.filterMap Entry.definition?

end MessageForge
