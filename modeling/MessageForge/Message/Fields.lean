import MessageForge.Diagnostic

/-!
# Fields

The named fields of a record and the parameters and initializers that are made
of them. Only records have fields to speak of.
-/

namespace MessageForge

open Vocabulary

namespace Declaration

def recordFields (declaration : Declaration) : Except Diagnostic (List Field) :=
  if declaration.shape = .record then .ok declaration.fields
  else
    .error <| declaration.refuse <|
      .notRecord declaration.name declaration.shape declaration.reason

/-- The record field that stores the role, which is named exactly so. -/
def roleField? (declaration : Declaration) : Option Field :=
  if declaration.shape = .record then declaration.fields.find? (·.name = roleField)
  else none

end Declaration

/-- The fields that become constructor parameters. -/
def includedFields (fields : List Field) (excluded : List Text) : List Field :=
  fields.filter fun field => !excluded.contains field.name

def extraFields (fields : List Field) : List Field :=
  includedFields fields [baseField]

def fieldParameters (fields : List Field) (excluded : List Text) : List Text :=
  (includedFields fields excluded).map fun field => field.name ++ ": " ++ field.type

def fieldInitializers (fields : List Field) (excluded : List Text) : List Text :=
  (includedFields fields excluded).map fun field => field.name ++ "=" ++ field.name

def fieldNames (fields : List Field) (excluded : List Text) : List Text :=
  (includedFields fields excluded).map Field.name

end MessageForge
