import MessageForge.Event
import MessageForge.Failure
import MessageForge.Message.Category
import MessageForge.Source.Grammar.Statements
import MessageForge.Source.Printer

/-!
# Declarations in source files

Marked classes at the top level of a source file are declared types, calls at
the top level are definitions, and imports are carried over. A class is a
record if it has no bases and nothing in its body but annotated names; all
other classes are declarations too, of another shape.
-/

namespace MessageForge.Source

open Vocabulary

/-- The name that an expression ends in, looking through calls. -/
def Expr.lastName? : Expr → Option Text
  | .call callee _ _ _ => callee.lastName?
  | .name id => some id
  | .attribute _ id => some id
  | _ => none

def enumBases : List Text := ["Enum", "IntEnum", "StrEnum", "Flag", "IntFlag"]
def tupleBases : List Text := ["tuple", "Tuple", "NamedTuple"]
def pseudoFields : List Text := ["ClassVar", "InitVar"]

def namedAmong (names : List Text) (expr : Expr) : Bool :=
  expr.lastName?.any names.contains

def isPseudoField : Expr → Bool
  | .subscript value _ => namedAmong pseudoFields value
  | annotation => namedAmong pseudoFields annotation

/-- Docstrings and other statements without effect. -/
def isPlaceholder : Node → Bool
  | .pass => true
  | .expression (.literal _) => true
  | _ => false

def printed (expr : Expr) : Except Failure Text :=
  match expr.text with
  | some text => .ok text
  | none => .error .unprintable

/-- What a class is: its shape with a reason, and its fields if it is a record. -/
structure Classification where
  shape : Shape
  reason : Text := []
  fields : List Field := []
  deriving DecidableEq, Repr

def Classification.other (reason : Text) : Classification :=
  { shape := .other, reason }

/-- The fields in a class body, or the first statement that is none. -/
def classifyBody (fields : List Field) : List Stmt → Except Failure Classification
  | [] =>
      if fields.isEmpty then return { shape := .unit, reason := "it declares no fields" }
      else return { shape := .record, fields }
  | (line, node) :: rest =>
      if isPlaceholder node then classifyBody fields rest
      else
        match node with
        | .annotated (.name id) annotation value =>
            if isPseudoField annotation then
              return .other ("'" ++ id ++ "' is not an instance field")
            else if value.isSome then
              return .other ("field '" ++ id ++ "' has a default value")
            else if fields.any (·.name = id) then
              return .other ("field '" ++ id ++ "' is declared twice")
            else do
              let type ← printed annotation
              classifyBody (fields ++ [{ name := id, type }]) rest
        | _ => return .other ("line " ++ Text.ofNat line ++ " is not a field declaration")

def classify (bases : List Expr) (body : List Stmt) : Except Failure Classification := do
  if bases.any (namedAmong enumBases) then
    return { shape := .enumeration, reason := "it derives from an enum class" }
  else if bases.any (namedAmong tupleBases) then
    return { shape := .tuple, reason := "it derives from a tuple class" }
  else
    let others ← (bases.filter fun base => !namedAmong ["object"] base).mapM printed
    if others.isEmpty then classifyBody [] body
    else return .other ("it derives from " ++ Text.join ", " others)

def classDeclaration (source : Option Text) (line : Nat) (name : Text) (bases : List Expr)
    (body : List Stmt) : Except Failure Declaration := do
  let found ← classify bases body
  return { name, fields := found.fields, shape := found.shape, reason := found.reason,
           source, line := some line }

def refusedAt (source : Option Text) (line : Nat) (complaint : Complaint) : Failure :=
  .refused { complaint, source, line := some line }

/-- The category that a call gives, either as text or as an expression. -/
def definitionOfCall (source : Option Text) (line : Nat) (arguments : List Expr)
    (keywords : List Argument) : Except Failure Definition := do
  match arguments, keywords with
  | [argument], [] =>
      let text ←
        match argument with
        | .literal (.text codes _) => pure (codes.map Char.ofNat)
        | _ => printed argument
      let category ← (Category.normalize text).mapError (refusedAt source line)
      return { category, source, line := some line }
  | _, _ => throw (refusedAt source line .argumentCount)

/-- What one statement contributes. -/
inductive Contribution where
  | importLine (line : Text)
  | entry (declared : Entry)
  | nothing

/-- Imports for the sake of the declarations themselves are left out. -/
def isOwnImport (module : Option Text) : Bool :=
  module = some ("__future__" : Text) || module = some runtimeModule

def isMarked (decorators : List Expr) : Bool :=
  decorators.any (namedAmong [deriveDecorator])

def contribution (source : Option Text) : Stmt → Except Failure Contribution
  | (_, .imports names) => return .importLine (((Node.imports names).importText?).getD [])
  | (_, .importsFrom level module names) =>
      if isOwnImport module then return .nothing
      else return .importLine (((Node.importsFrom level module names).importText?).getD [])
  | (line, .classDef name decorators bases _ body) =>
      if isMarked decorators then do
        return .entry (.declaration (← classDeclaration source line name bases body))
      else return .nothing
  | (_, .expression (.call callee arguments keywords line)) =>
      if namedAmong [defineCall] callee then do
        return .entry (.definition (← definitionOfCall source line arguments keywords))
      else return .nothing
  | _ => return .nothing

def Contribution.importLine? : Contribution → Option Text
  | .importLine text => some text
  | _ => none

def Contribution.entry? : Contribution → Option Entry
  | .entry declared => some declared
  | _ => none

/-- The statements of a text. One that holds the null character is refused as
a whole, with no line. -/
def readStatements (characters : CharacterNames) (source : Option Text) (text : Text) :
    Except Failure (List Stmt) :=
  if text.any (·.toNat = 0) then .error (.refused { complaint := .invalidSyntax, source })
  else
    match parseModule characters text with
    | .ok statements => .ok statements
    | .error line => .error (refusedAt source line .invalidSyntax)

/-- The source that diagnostics name for a text of unknown origin. -/
def unnamedSource : Text := "<declarations>"

/-- The declarations in a text. -/
def parseDeclarations (characters : CharacterNames) (text source : Text) :
    Except Failure DeclarationFile := do
  let statements ← readStatements characters (some source) text
  let contributions ← statements.mapM (contribution (some source))
  return { path := source
           imports := contributions.filterMap Contribution.importLine?
           entries := contributions.filterMap Contribution.entry? }

/-- What reading a file successfully reports. -/
def readEvents (file : DeclarationFile) : List Event :=
  [.sourceRead file.entries.length file.path]

/-- The declaration of the class that a text begins with, marked or not. -/
def firstDeclaration? (characters : CharacterNames) (text : Text) :
    Except Failure (Option Declaration) := do
  match ← readStatements characters none text with
  | (line, .classDef name _ bases _ body) :: _ =>
      return some (← classDeclaration none line name bases body)
  | _ => return none

end MessageForge.Source
