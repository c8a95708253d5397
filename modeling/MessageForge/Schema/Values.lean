import MessageForge.Schema.Types

/-!
# Values of schemas

Default values, constants and values of annotations are expressions that must
fit a type. Bare words are literals or enumerants; a constant is named with its
scope.
-/

namespace MessageForge.Schema

inductive Value where
  | void
  | bool
  | integer (value : Int)
  | float
  | text
  | data
  | list (element : SlotType)
  | enumerant (ref : NodeRef)
  | record (ref : NodeRef)
  deriving DecidableEq, Repr

/-- Whether a value can stand where a type is wanted. -/
def Value.fits (value : Value) (type : SlotType) : Bool :=
  match value, type with
  | .void, .void | .bool, .bool | .float, .float _ | .text, .text | .data, .data => true
  | .integer n, .integer isSigned bits =>
      if isSigned then -(Nat.pow 2 (bits - 1) : Int) ≤ n && n < (Nat.pow 2 (bits - 1) : Int)
      else 0 ≤ n && n < (Nat.pow 2 bits : Int)
  | .integer _, .float _ => true
  | .list element, .list wanted => element = wanted
  | .enumerant ref, .enumeration wanted => ref = wanted
  | .record ref, .record wanted => ref = wanted
  | .list _, .anyPointer | .record _, .anyPointer => true
  | _, _ => false

/-- A member of a record: a field of its own, or a group of members. -/
inductive Member where
  | slot (type : Expr)
  | group (members : List Decl)

/-- The member of a name. Unnamed unions add their members to the record. -/
def memberNamed? (fuel : Nat) (name : Text) (members : List Decl) : Option Member :=
  match fuel with
  | 0 => none
  | fuel + 1 =>
      members.findSome? fun member =>
        match member.kind with
        | .field type _ => if member.name = name then some (.slot type) else none
        | .group => if member.name = name then some (.group member.nested) else none
        | .union =>
            if member.name.isEmpty then memberNamed? fuel name member.nested
            else if member.name = name then some (.group member.nested)
            else none
        | _ => none

def bareValue? (name : Text) : Option Value :=
  if name = "void" then some .void
  else if name = "true" || name = "false" then some .bool
  else if name = "nan" || name = "inf" then some .float
  else none

namespace Library

def hasEnumerant (library : Library) (ref : NodeRef) (name : Text) : Bool :=
  ((library.decl? ref).map Decl.nested).any fun members =>
    members.any fun member =>
      match member.kind with
      | .enumerant => member.name = name
      | _ => false

def canEmbed (library : Library) (scope : NodeRef) (path : Text) : Bool :=
  (library.file? scope.file).any fun file => file.embeds.contains path

mutual

/-- The value of an expression, of which its type is wanted. -/
def valueFrom (library : Library) : (fuel : Nat) → (scope : NodeRef) → SlotType → Expr →
    Check Value
  | 0, _, _, _ => .error .circular
  | _ + 1, _, type, .name name =>
      match type with
      | .enumeration ref =>
          if library.hasEnumerant ref name then .ok (.enumerant ref) else .error .notConstant
      | _ => (bareValue? name).elim (.error .notConstant) .ok
  | _ + 1, _, _, .natural n => .ok (.integer n)
  | _ + 1, _, _, .negative n =>
      if n ≤ Nat.pow 2 63 then .ok (.integer (-n)) else .error .valueMismatch
  | _ + 1, _, _, .float => .ok .float
  | _ + 1, _, type, .text _ => .ok (if type = .data then .data else .text)
  | _ + 1, _, type, .binary => if type = .data then .ok .data else .error .valueMismatch
  | fuel + 1, scope, type, .list items =>
      match type with
      | .list element => do
          let _ ← items.mapM (library.fittingFrom fuel scope element)
          return .list element
      | _ => .error .valueMismatch
  | fuel + 1, scope, type, .tuple items =>
      match type with
      | .record ref => do
          let members := ((library.decl? ref).map Decl.nested).getD []
          library.fillFrom fuel scope ref members items
          return .record ref
      | _ => .error .valueMismatch
  | _ + 1, scope, type, .embedFile path =>
      if !library.canEmbed scope path then .error .unfoundImport
      else
        match type with
        | .text => .ok .text
        | .data => .ok .data
        | .record ref => .ok (.record ref)
        | _ => .error .valueMismatch
  | fuel + 1, scope, _, constant => do
      match (← library.resolve scope [] constant).referent with
      | .node ref =>
          match (library.decl? ref).map Decl.kind with
          | some (.const type value) =>
              let type ← library.typeOf ref.parent [] type
              library.fittingFrom fuel ref.parent type value
          | _ => throw .notConstant
      | _ => throw .notConstant

/-- The value of an expression, if it fits the type. -/
def fittingFrom (library : Library) : (fuel : Nat) → (scope : NodeRef) → SlotType → Expr →
    Check Value
  | 0, _, _, _ => .error .circular
  | fuel + 1, scope, type, expr => do
      let value ← library.valueFrom fuel scope type expr
      if value.fits type then return value else throw .valueMismatch

/-- Checks the values given to members of a record or group. -/
def fillFrom (library : Library) : (fuel : Nat) → (scope ref : NodeRef) → List Decl →
    List (Option Text × Expr) → Check Unit
  | 0, _, _, _, _ => .error .circular
  | _ + 1, _, _, _, [] => .ok ()
  | _ + 1, _, _, _, (none, _) :: _ => .error .valueMismatch
  | fuel + 1, scope, ref, members, (some name, value) :: rest => do
      match memberNamed? library.bound name members with
      | none => throw .noMember
      | some (.slot type) =>
          let type ← library.typeOf ref [] type
          let _ ← library.fittingFrom fuel scope type value
      | some (.group inner) =>
          match value with
          | .tuple items => library.fillFrom fuel scope ref inner items
          | _ => throw .valueMismatch
      library.fillFrom fuel scope ref members rest

end

def checkValue (library : Library) (scope : NodeRef) (type : SlotType) (expr : Expr) :
    Check Unit := do
  let _ ← library.fittingFrom library.bound scope type expr

end Library

end MessageForge.Schema
