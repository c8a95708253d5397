import MessageForge.Schema.Syntax
import MessageForge.Schema.Token

/-!
# Grammar of schemas

Each statement is read from its tokens as a declaration of the level on which
it stands, and must be read to its last token. Blocks belong to declarations
that hold others, and to no other.
-/

namespace MessageForge.Schema

/-- Reads some of the tokens of a statement. -/
abbrev Scan := StateT (List Token) Option

namespace Scan

def refuse {α : Type} : Scan α :=
  fun _ => none

def next : Scan Token := do
  match ← get with
  | token :: rest =>
      set rest
      return token
  | [] => refuse

def orElse {α : Type} (first second : Scan α) : Scan α :=
  fun tokens => (first.run tokens).orElse fun _ => second.run tokens

def attempt {α : Type} (scan : Scan α) : Scan (Option α) :=
  orElse (some <$> scan) (pure none)

/-- Repeats a scan as long as it succeeds, at most once a token. -/
def manyFrom {α : Type} (scan : Scan α) : (fuel : Nat) → Scan (List α)
  | 0 => pure []
  | fuel + 1 => do
      match ← attempt scan with
      | none => return []
      | some first => return first :: (← manyFrom scan fuel)

def many {α : Type} (scan : Scan α) : Scan (List α) := do
  manyFrom scan (← get).length

/-- The result of a scan that leaves nothing over. -/
def whole? {α : Type} (scan : Scan α) (tokens : List Token) : Option α :=
  match scan.run tokens with
  | some (value, []) => some value
  | _ => none

def identifier : Scan Text := do
  match ← next with
  | .identifier name => return name
  | _ => refuse

def keyword (word : Text) : Scan Unit := do
  if (← identifier) = word then return () else refuse

def sign (signs : Text) : Scan Unit := do
  match ← next with
  | .operator found => if found = signs then return () else refuse
  | _ => refuse

def integer : Scan Nat := do
  match ← next with
  | .integer value => return value
  | _ => refuse

def text : Scan Text := do
  match ← next with
  | .text content => return content
  | _ => refuse

/-- The items of a list in parentheses, each read to its end. -/
def parenthesized {α : Type} (item : Scan α) : Scan (List α) := do
  match ← next with
  | .parentheses items => fun tokens => (items.mapM (whole? item)).map (·, tokens)
  | _ => refuse

def bracketed {α : Type} (item : Scan α) : Scan (List α) := do
  match ← next with
  | .brackets items => fun tokens => (items.mapM (whole? item)).map (·, tokens)
  | _ => refuse

end Scan

open Scan

/-- What an expression can begin with. -/
def operand (item : Scan (Option Text × Expr)) (value : Scan Expr) : Scan Expr := do
  match ← next with
  | .integer n => return .natural n
  | .float => return .float
  | .text content => return .text content
  | .binary => return .binary
  | .brackets items => fun tokens => (items.mapM (whole? value)).map (.list ·, tokens)
  | .parentheses items => fun tokens => (items.mapM (whole? item)).map (.tuple ·, tokens)
  | .identifier name =>
      if name = "import" then orElse (.importFile <$> text) (pure (.name name))
      else if name = "embed" then orElse (.embedFile <$> text) (pure (.name name))
      else return .name name
  | .operator signs =>
      if signs = "-" then
        match ← next with
        | .integer n => return .negative n
        | .float => return .float
        | .identifier name => if name = "inf" then return .float else refuse
        | _ => refuse
      else if signs = "." then .absolute <$> identifier
      else refuse

def memberSuffix : Scan (Expr → Expr) := do
  sign "."
  let name ← identifier
  return fun owner => .member owner name

/-- An item of a tuple, with its name if it has one. -/
def tupleItem (value : Scan Expr) : Scan (Option Text × Expr) := do
  let name ← attempt do
    let name ← identifier
    sign "="
    return name
  return (name, ← value)

def applySuffix (item : Scan (Option Text × Expr)) : Scan (Expr → Expr) := do
  let arguments ← parenthesized item
  return fun function => .apply function arguments

/-- An expression whose lists are nested no deeper than the fuel. -/
def expressionFrom : (fuel : Nat) → Scan Expr
  | 0 => refuse
  | fuel + 1 => do
      let value := expressionFrom fuel
      let item := tupleItem value
      let first ← operand item value
      let suffixes ← many (orElse memberSuffix (applySuffix item))
      return suffixes.foldl (fun expr suffix => suffix expr) first

mutual

def Token.depth : Token → Nat
  | .parentheses items => depthOfItems items + 1
  | .brackets items => depthOfItems items + 1
  | _ => 1

def depthOfItems : List (List Token) → Nat
  | [] => 0
  | item :: rest => max (depthOfTokens item) (depthOfItems rest)

def depthOfTokens : List Token → Nat
  | [] => 0
  | token :: rest => max token.depth (depthOfTokens rest)

end

def expression : Scan Expr := do
  expressionFrom (depthOfTokens (← get) + 1)

/-- Identifiers have their highest bit set. -/
def writtenIdentifier : Scan Nat := do
  sign "@"
  let value ← integer
  if value < Nat.pow 2 63 then refuse else return value

def ordinal : Scan Nat := do
  sign "@"
  let value ← integer
  if value < 65536 then return value else refuse

/-- A value in parentheses behind an annotation belongs to the annotation. -/
def application : Scan Application := do
  sign "$"
  match ← expression with
  | .apply name [(none, value)] => return { name, value := some value }
  | .apply name items => return { name, value := some (.tuple items) }
  | name => return { name, value := none }

def defaultValue : Scan (Option Expr) :=
  attempt do
    sign "="
    expression

/-- The level of a statement decides what it can declare. -/
inductive Level where
  | file
  | enumeration
  | record
  | interface
  deriving DecidableEq, Repr

/-- A statement that is read, and the level of its block if it must have one. -/
inductive Reading where
  | declared (decl : Decl) (block : Option Level)
  | identifier (value : Nat)
  | application (application : Application)

def declare (decl : Decl) : Scan Reading :=
  return .declared decl none

def declareBlock (decl : Decl) (level : Level) : Scan Reading :=
  return .declared decl (some level)

def aliasDeclaration : Scan Reading := do
  keyword "using"
  let name ← attempt do
    let name ← identifier
    sign "="
    return name
  let target ← expression
  match name, target with
  | some name, _ => declare { name, kind := .aliasFor target }
  | none, .member _ name => declare { name, kind := .aliasFor target }
  | none, _ => refuse

def const : Scan Reading := do
  keyword "const"
  let name ← identifier
  let written ← attempt writtenIdentifier
  sign ":"
  let type ← expression
  sign "="
  let value ← expression
  declare { name, kind := .const type value, identifier := written,
            annotations := ← many application }

def targetName : Scan (Option Target) := do
  match ← next with
  | .operator signs => if signs = "*" then return none else refuse
  | .identifier label =>
      match Target.ofLabel? label with
      | some target => return some target
      | none => refuse
  | _ => refuse

/-- Either all targets by a star alone or a list of different ones. -/
def targets (named : List (Option Target)) : Option (List Target) :=
  match named with
  | [none] => some Target.all
  | _ => do
      let targets ← named.mapM id
      if targets.eraseDups.length = targets.length then some targets else none

def marker : Scan Reading := do
  keyword "annotation"
  let name ← identifier
  let written ← attempt writtenIdentifier
  let named ← parenthesized targetName
  sign ":"
  let type ← expression
  let annotations ← many application
  match targets named with
  | some targets =>
      declare { name, kind := .marker targets type, identifier := written, annotations }
  | none => refuse

def enumeration : Scan Reading := do
  keyword "enum"
  let name ← identifier
  let written ← attempt writtenIdentifier
  declareBlock { name, kind := .enumeration, identifier := written,
                 annotations := ← many application } .enumeration

def typeParameters : Scan (List Text) := do
  return (← attempt (parenthesized identifier)).getD []

def record : Scan Reading := do
  keyword "struct"
  let name ← identifier
  let written ← attempt writtenIdentifier
  let parameters ← typeParameters
  declareBlock { name, kind := .record, identifier := written, parameters,
                 annotations := ← many application } .record

def superclasses : Scan (List Expr) := do
  let found ← attempt do
    keyword "extends"
    parenthesized expression
  return found.getD []

def interface : Scan Reading := do
  keyword "interface"
  let name ← identifier
  let written ← attempt writtenIdentifier
  let parameters ← typeParameters
  let superclasses ← superclasses
  declareBlock { name, kind := .interface superclasses, identifier := written, parameters,
                 annotations := ← many application } .interface

def enumerant : Scan Reading := do
  let name ← identifier
  let ordinal ← ordinal
  declare { name, kind := .enumerant, ordinal := some ordinal,
            annotations := ← many application }

def field : Scan Reading := do
  let name ← identifier
  let ordinal ← ordinal
  sign ":"
  let type ← expression
  let default ← defaultValue
  declare { name, kind := .field type default, ordinal := some ordinal,
            annotations := ← many application }

/-- An ordinal with or without a colon, or a colon alone. -/
def ordinalOrColon : Scan (Option Nat) :=
  orElse
    (do
      let value ← ordinal
      let _ ← attempt (sign "!")
      let _ ← attempt (sign ":")
      return some value)
    (do
      sign ":"
      return none)

def namedUnion : Scan Reading := do
  let name ← identifier
  let ordinal ← ordinalOrColon
  keyword "union"
  declareBlock { name, kind := .union, ordinal, annotations := ← many application } .record

def unnamedUnion : Scan Reading := do
  keyword "union"
  if (← get).isEmpty then declareBlock { name := [], kind := .union } .record else refuse

def group : Scan Reading := do
  let name ← identifier
  sign ":"
  keyword "group"
  declareBlock { name, kind := .group, annotations := ← many application } .record

def parameter : Scan Parameter := do
  let name ← identifier
  sign ":"
  let type ← expression
  let default ← defaultValue
  return { name, type, default, annotations := ← many application }

def parameterList : Scan ParameterList :=
  orElse (.named <$> parenthesized parameter) <|
    orElse (do keyword "stream"; return .stream) (.type <$> expression)

def method : Scan Reading := do
  let name ← identifier
  let ordinal ← ordinal
  let implicits ← attempt (bracketed identifier)
  let parameters ← parameterList
  let results ← attempt do
    sign "->"
    parameterList
  declare { name, kind := .method parameters results, ordinal := some ordinal,
            parameters := implicits.getD [], annotations := ← many application }

def firstOf {α : Type} : List (Scan α) → Scan α
  | [] => refuse
  | scan :: rest => orElse scan (firstOf rest)

def generic : List (Scan Reading) :=
  [aliasDeclaration, const, marker, enumeration, record, interface]

/-- What can be declared on a level; the first that fits counts. -/
def Level.choices : Level → List (Scan Reading)
  | .file => generic ++ [.identifier <$> writtenIdentifier, .application <$> application]
  | .enumeration => [enumerant]
  | .record => [namedUnion, unnamedUnion, field, group] ++ generic
  | .interface => method :: generic

def readTokens (level : Level) (tokens : List Token) : Option Reading :=
  whole? (firstOf level.choices) tokens

mutual

/-- A declaration with what its block declares. -/
def readMember : (fuel : Nat) → Level → Statement → Option Decl
  | 0, _, _ => none
  | _ + 1, level, .line tokens =>
      match readTokens level tokens with
      | some (.declared decl none) => some decl
      | _ => none
  | fuel + 1, level, .block tokens body => do
      match readTokens level tokens with
      | some (.declared decl (some inner)) => do
          return { decl with nested := ← readMembers fuel inner body }
      | _ => none

def readMembers : (fuel : Nat) → Level → List Statement → Option (List Decl)
  | 0, _, _ => none
  | _ + 1, _, [] => some []
  | fuel + 1, level, statement :: rest => do
      return (← readMember fuel level statement) :: (← readMembers fuel level rest)

end

/-- Adds a statement of the file itself, which may give it its identifier. -/
def addStatement (fuel : Nat) (file : Decl) (statement : Statement) : Option Decl :=
  let direct :=
    match statement with
    | .line tokens => readTokens .file tokens
    | .block .. => none
  match direct with
  | some (.identifier value) =>
      if file.identifier.isSome then none else some { file with identifier := some value }
  | some (.application application) =>
      some { file with annotations := file.annotations ++ [application] }
  | _ => do
      return { file with nested := file.nested ++ [← readMember fuel .file statement] }

/-- A file, which must give itself an identifier. -/
def readFile (fuel : Nat) (statements : List Statement) : Option Decl := do
  let file ← statements.foldlM (addStatement fuel) { name := [], kind := .file }
  if file.identifier.isSome then some file else none

end MessageForge.Schema
