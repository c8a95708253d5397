import MessageForge.Schema.Names
import MessageForge.Schema.Values

/-!
# Checks of single nodes

Each scope is checked on its own: its names, its members, their types, default
values and annotations. The check tells which other scopes it rests on.
-/

namespace MessageForge.Schema

/-- The scopes that a check mentions, and those that must be settled before. -/
structure Uses where
  mentioned : List NodeRef := []
  needed : List NodeRef := []

def Uses.append (a b : Uses) : Uses :=
  { mentioned := a.mentioned ++ b.mentioned, needed := a.needed ++ b.needed }

def Uses.join (uses : List Uses) : Uses :=
  uses.foldr Uses.append {}

mutual

/-- The enumeration that values of a type are written with. -/
def SlotType.enumerations : SlotType → List NodeRef
  | .enumeration ref => [ref]
  | .list element => element.enumerations
  | _ => []

end

namespace Library

/-- A type with what it mentions. -/
def checkType (library : Library) (scope : NodeRef) (implicits : List Text) (expr : Expr) :
    Check (SlotType × Uses) := do
  let resolved ← library.resolve scope implicits expr
  return (← resolved.type library, { mentioned := resolved.nodes })

/-- A type with an optional value of it. -/
def checkSlot (library : Library) (scope : NodeRef) (implicits : List Text) (type : Expr)
    (value : Option Expr) : Check Uses := do
  let (type, uses) ← library.checkType scope implicits type
  match value with
  | none => return uses
  | some value =>
      library.checkValue scope type value
      return { uses with needed := type.enumerations }

/-- An annotation must be made for the kind of place where it stands, and needs
a value unless it is of the void type. -/
def checkApplication (library : Library) (scope : NodeRef) (target : Target)
    (application : Application) : Check Uses := do
  let resolved ← library.resolve scope [] application.name
  match resolved.referent with
  | .node ref =>
      match (library.decl? ref).map Decl.kind with
      | some (.marker targets type) =>
          if !targets.contains target then throw .target
          else
            let type ← library.typeOf ref.parent [] type
            match application.value with
            | none => if type ≠ .void then throw .valueMissing
            | some value => library.checkValue scope type value
            return { mentioned := resolved.nodes, needed := ref :: type.enumerations }
      | _ => throw .notMarker
  | _ => throw .notMarker

def checkApplications (library : Library) (scope : NodeRef) (target : Target)
    (applications : List Application) : Check Uses := do
  return .join (← applications.mapM (library.checkApplication scope target))

mutual

/-- The members of a record, whatever groups they stand in. -/
def checkMember (library : Library) (scope : NodeRef) : Decl → Check Uses
  | ⟨_, kind, _, _, _, annotations, nested⟩ =>
      match kind with
      | .field type default => do
          return (← library.checkSlot scope [] type default).append
            (← library.checkApplications scope .field annotations)
      | .union => do
          return (← library.checkApplications scope .union annotations).append
            (← library.checkMembers scope nested)
      | .group => do
          return (← library.checkApplications scope .group annotations).append
            (← library.checkMembers scope nested)
      | _ => .ok {}

def checkMembers (library : Library) (scope : NodeRef) : List Decl → Check Uses
  | [] => .ok {}
  | member :: rest => do
      return (← library.checkMember scope member).append (← library.checkMembers scope rest)

end

def checkParameter (library : Library) (scope : NodeRef) (implicits : List Text)
    (parameter : Parameter) : Check Uses := do
  return (← library.checkSlot scope implicits parameter.type parameter.default).append
    (← library.checkApplications scope .parameter parameter.annotations)

/-- A type that stands for all parameters must be a record. -/
def checkParameterRecord (library : Library) (scope : NodeRef) (implicits : List Text)
    (expr : Expr) : Check Uses := do
  match ← library.checkType scope implicits expr with
  | (.record _, uses) => return uses
  | _ => throw .notRecord

def checkParameters (library : Library) (scope : NodeRef) (implicits : List Text)
    (isResult : Bool) : ParameterList → Check Uses
  | .named parameters =>
      if !areDistinct (parameters.map Parameter.name) then .error .duplicateName
      else do return .join (← parameters.mapM (library.checkParameter scope implicits))
  | .type expr => library.checkParameterRecord scope implicits expr
  | .stream =>
      if isResult then library.checkParameterRecord scope [] streamResult
      else .error .misplaced

def checkMethod (library : Library) (scope : NodeRef) (member : Decl) : Check Uses := do
  match member.kind with
  | .method parameters results =>
      let implicits := member.parameters
      let given ← library.checkParameters scope implicits false parameters
      let returned ←
        match results with
        | none => pure {}
        | some results => library.checkParameters scope implicits true results
      return (given.append returned).append
        (← library.checkApplications scope .method member.annotations)
  | _ => return {}

def checkSuperclass (library : Library) (scope : NodeRef) (expr : Expr) : Check Uses := do
  match ← library.checkType scope [] expr with
  | (.interface _, uses) => return uses
  | _ => throw .notInterface

def ordinalsAmong (members : List Decl) : List Nat :=
  members.filterMap Decl.ordinal

/-- What is particular to each kind of scope. -/
def checkContent (library : Library) (ref : NodeRef) (decl : Decl) : Check Uses :=
  match decl.kind with
  | .const type value => do
      let uses ← library.checkSlot ref.parent [] type (some value)
      return uses
  | .marker _ type => do
      return (← library.checkType ref.parent [] type).2
  | .enumeration => do
      if !areSequential (ordinalsAmong decl.nested) then throw .ordinals
      return .join (← decl.nested.mapM fun member =>
        library.checkApplications ref .enumerant member.annotations)
  | .record => do
      checkShapes decl.nested
      if !areSequential (ordinalsOfAll decl.nested) then throw .ordinals
      library.checkMembers ref decl.nested
  | .interface superclasses => do
      if !areSequential (ordinalsAmong decl.nested) then throw .ordinals
      let above ← superclasses.mapM (library.checkSuperclass ref)
      return (Uses.join above).append (.join (← decl.nested.mapM (library.checkMethod ref)))
  | _ => .ok {}

def targetOf : Kind → Target
  | .const .. => .const
  | .marker .. => .marker
  | .enumeration => .enumeration
  | .record => .record
  | .interface _ => .interface
  | _ => .file

/-- Checks a scope by itself, without the scopes in it. -/
def checkNode (library : Library) (ref : NodeRef) : Check Uses := do
  match library.decl? ref with
  | none => throw .malformed
  | some decl =>
      checkNames decl
      let content ← library.checkContent ref decl
      return content.append
        (← library.checkApplications ref (targetOf decl.kind) decl.annotations)

end Library

end MessageForge.Schema
