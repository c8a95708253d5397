import MessageForge.Schema.Resolution

/-!
# Types of schemas

A resolved name is a type if it means a built-in type, a type parameter, or a
scope that stands for values. Lists hold anything that is not a pointer of
unknown kind.
-/

namespace MessageForge.Schema

inductive SlotType where
  | void
  | bool
  | integer (isSigned : Bool) (bits : Nat)
  | float (bits : Nat)
  | text
  | data
  | list (element : SlotType)
  | enumeration (ref : NodeRef)
  | record (ref : NodeRef)
  | interface (ref : NodeRef)
  | anyPointer
  deriving DecidableEq, Repr

def nodeType (library : Library) (ref : NodeRef) : Check SlotType :=
  match (library.decl? ref).map Decl.kind with
  | some .enumeration => .ok (.enumeration ref)
  | some .record => .ok (.record ref)
  | some (.interface _) => .ok (.interface ref)
  | _ => .error .notType

mutual

def Resolved.type (library : Library) : Resolved → Check SlotType
  | .mk referent arguments =>
      match referent with
      | .node ref => nodeType library ref
      | .parameter => .ok .anyPointer
      | .builtin builtin =>
          match builtin with
          | .void => .ok .void
          | .bool => .ok .bool
          | .integer isSigned bits => .ok (.integer isSigned bits)
          | .float bits => .ok (.float bits)
          | .text => .ok .text
          | .data => .ok .data
          | .list => elementType library arguments
          | .anyPointer | .anyRecord | .anyList | .capability => .ok .anyPointer

/-- The list type for the arguments of a list. -/
def elementType (library : Library) : List Resolved → Check SlotType
  | [element] => do
      let type ← element.type library
      if type = .anyPointer then throw .listElement else return .list type
  | _ => .error .typeArguments

end

mutual

/-- All scopes that a resolved name mentions. -/
def Resolved.nodes : Resolved → List NodeRef
  | .mk (.node ref) arguments => ref :: nodesOfAll arguments
  | .mk _ arguments => nodesOfAll arguments

def nodesOfAll : List Resolved → List NodeRef
  | [] => []
  | resolved :: rest => resolved.nodes ++ nodesOfAll rest

end

def Library.typeOf (library : Library) (scope : NodeRef) (implicits : List Text) (expr : Expr) :
    Check SlotType := do
  (← library.resolve scope implicits expr).type library

end MessageForge.Schema
