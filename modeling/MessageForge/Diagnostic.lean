import MessageForge.Declaration
import MessageForge.Vocabulary

/-!
# Diagnostics

A complaint is the cause for which a declaration is refused; a diagnostic adds
the place of the declaration. The wording of all complaints is here. How a
syntax or schema error is described in detail is left open.
-/

namespace MessageForge

open Vocabulary

inductive Complaint where
  | notRecord (name : Text) (shape : Shape) (reason : Text)
  | missingBase (name : Text)
  | memberConflict (name : Text) (conflicts : List Text)
  | parameterRepeat (name : Text) (repeats : List Text)
  | bareSuffix (name : Text)
  | notCategory (text : Text)
  | argumentCount
  | invalidSyntax
  | invalidSchema
  deriving DecidableEq, Repr

inductive ComplaintKind where
  | shape
  | malformed
  deriving DecidableEq, Repr

def Complaint.kind : Complaint → ComplaintKind
  | .notRecord .. | .missingBase .. | .memberConflict .. | .parameterRepeat ..
  | .bareSuffix .. => .shape
  | .notCategory .. | .argumentCount | .invalidSyntax | .invalidSchema => .malformed

def ComplaintKind.label : ComplaintKind → Text
  | .shape => "ShapeError"
  | .malformed => "MalformedDeclarationError"

def Complaint.message : Complaint → Text
  | .notRecord name shape reason =>
      let detail : Text := if reason.isEmpty then [] else " (" ++ reason ++ ")"
      "'" ++ name ++ "' is a " ++ shape.label ++
        " type, expected a record with named fields" ++ detail ++ "."
  | .missingBase name =>
      "'" ++ name ++ "' has no '" ++ baseField ++ "' field of type " ++ baseRecord ++ "."
  | .memberConflict name conflicts =>
      "Fields of '" ++ name ++ "' conflict with generated members: " ++
        Text.join ", " conflicts ++ "."
  | .parameterRepeat name repeats =>
      "Fields of '" ++ name ++ "' repeat constructor parameters: " ++
        Text.join ", " repeats ++ "."
  | .bareSuffix name =>
      "Cannot derive a message type from '" ++ name ++ "': the name is only the '" ++
        messageSuffix ++ "' suffix."
  | .notCategory text =>
      "'" ++ text ++ "' does not name a " ++ messageTypeEnum ++ " member."
  | .argumentCount => defineCall ++ "() takes exactly one message type."
  | .invalidSyntax => "invalid syntax: <detail>"
  | .invalidSchema => "invalid schema: <detail>"

/-- A message behind the place it belongs to. A line without a source is not
shown. -/
def located (source : Option Text) (line : Option Int) (message : Text) : Text :=
  match source, line with
  | none, _ => message
  | some source, none => source ++ ": " ++ message
  | some source, some line => source ++ ":" ++ Text.ofInt line ++ ": " ++ message

structure Diagnostic where
  complaint : Complaint
  source : Option Text := none
  line : Option Int := none
  deriving DecidableEq, Repr

def Diagnostic.text (diagnostic : Diagnostic) : Text :=
  located diagnostic.source diagnostic.line diagnostic.complaint.message

/-- A complaint about a declaration stands where the declaration stands. -/
def Declaration.refuse (declaration : Declaration) (complaint : Complaint) : Diagnostic :=
  { complaint, source := declaration.source, line := declaration.line }

end MessageForge
