import MessageForge.Schema.Node
import MessageForge.Schema.Nodes

/-!
# Compilation

A schema compiles if all scopes and aliases in its file pass their checks, and
all scopes elsewhere that they rest on, directly or not. No two scopes may have
one identifier, and no scope may need itself to be settled. What is compiled is
given as nodes, as any compiler gives it.
-/

namespace MessageForge.Schema

mutual

/-- All scopes in a declaration, from the outside in. -/
def scopesIn (ref : NodeRef) : Decl → List NodeRef
  | ⟨_, _, _, _, _, _, nested⟩ => ref :: scopesInAll ref nested

def scopesInAll (ref : NodeRef) : List Decl → List NodeRef
  | [] => []
  | decl :: rest =>
      (if decl.kind.isNode then scopesIn (ref.child decl.name) decl else []) ++
        scopesInAll ref rest

end

def Decl.aliases (decl : Decl) : List Expr :=
  decl.nested.filterMap fun inner =>
    match inner.kind with
    | .aliasFor target => some target
    | _ => none

/-- How a scope is identified: by the number that is written down, or by its
place. -/
inductive Identity where
  | written (value : Nat)
  | placed (ref : NodeRef)
  deriving DecidableEq, Repr

def Decl.identity (decl : Decl) (ref : NodeRef) : Identity :=
  match decl.identifier with
  | some value => .written value
  | none => .placed ref

/-- A scope and all scopes around it. -/
def NodeRef.around (ref : NodeRef) : List NodeRef :=
  (List.range (ref.path.length + 1)).map fun n => { ref with path := ref.path.take n }

namespace Library

/-- The scopes of the file itself. -/
def ownScopes (library : Library) (file : FileKey) : List NodeRef :=
  ((library.root? file).map (scopesIn (.ofFile file))).getD []

def checkAliases (library : Library) (ref : NodeRef) : Check Uses := do
  let targets := ((library.decl? ref).map Decl.aliases).getD []
  let resolved ← targets.mapM (library.resolve ref [])
  return { mentioned := resolved.flatMap Resolved.nodes }

/-- A scope that has been checked, and what must be settled before it. -/
structure Checked where
  ref : NodeRef
  needed : List NodeRef

/-- Checks scopes with all that they rest on, in rounds. Files as such are no
types and need no check from elsewhere. -/
def checkFrom (library : Library) :
    (fuel : Nat) → List Checked → List NodeRef → Check (List Checked)
  | 0, _, _ => .error .circular
  | fuel + 1, done, wanted => do
      let fresh := wanted.eraseDups.filter fun ref => !done.any (·.ref = ref)
      if fresh.isEmpty then return done
      else
        let uses ← fresh.mapM fun ref => do
          let uses ← library.checkNode ref
          return ({ ref, needed := uses.needed }, uses.mentioned.filter (!·.path.isEmpty))
        checkFrom library fuel (done ++ uses.map Prod.fst) (uses.flatMap Prod.snd)

/-- Drops scopes that need no other of those that are left, again and again. -/
def unsettled : (fuel : Nat) → List Checked → List Checked
  | 0, left => left
  | fuel + 1, left =>
      unsettled fuel <| left.filter fun checked =>
        checked.needed.any fun ref => left.any (·.ref = ref)

/-- The identities of the scopes directly in a scope. -/
def identitiesIn (library : Library) (ref : NodeRef) : List Identity :=
  match library.decl? ref with
  | none => []
  | some decl =>
      (decl.nested.filter (·.kind.isNode)).map fun inner => inner.identity (ref.child inner.name)

def fileIdentity? (library : Library) (file : FileKey) : Option Identity :=
  (library.root? file).map (·.identity (.ofFile file))

/-- The identities of all scopes that come into view: files, and what stands in
the scopes that are looked into. -/
def identities (library : Library) (files : List FileKey) (scopes : List NodeRef) :
    List Identity :=
  files.eraseDups.filterMap library.fileIdentity? ++
    scopes.eraseDups.flatMap library.identitiesIn

def compile (library : Library) (file : FileKey) : Check Unit := do
  if (library.root? file).isNone then throw .malformed
  let own := library.ownScopes file
  let aliases := Uses.join (← own.mapM library.checkAliases)
  let checked ← library.checkFrom library.bound [] own
  if !(unsettled checked.length checked).isEmpty then throw .circular
  let refs := checked.map Checked.ref
  let passed := (aliases.mentioned.filter (!·.path.isEmpty)).map NodeRef.parent
  let identities := library.identities ((refs ++ aliases.mentioned).map NodeRef.file)
    ((refs ++ passed).flatMap NodeRef.around)
  if identities.eraseDups.length ≠ identities.length then throw .duplicateIdentifier

/-- The number of a scope: the one that is written down, or one that is made of
its place. No path and no name has a null character. -/
def numberOf (library : Library) (ref : NodeRef) : Nat :=
  match (library.decl? ref).bind Decl.identifier with
  | some value => value
  | none =>
      let names := ref.file.base ++ [[]] ++ ref.file.path ++ [[]] ++ ref.path
      (Text.join ['\x00'] names).foldl (fun number c => number * 0x110000 + c.toNat) 1

def plainInteger (isSigned : Bool) (bits : Nat) : PlainType :=
  match isSigned, bits with
  | true, 8 => .int8
  | true, 16 => .int16
  | true, 32 => .int32
  | true, _ => .int64
  | false, 8 => .uint8
  | false, 16 => .uint16
  | false, 32 => .uint32
  | false, _ => .uint64

end Library

def SlotType.value (library : Library) : SlotType → ValueType
  | .void => .plain .void
  | .bool => .plain .bool
  | .integer isSigned bits => .plain (Library.plainInteger isSigned bits)
  | .float bits => .plain (if bits = 32 then .float32 else .float64)
  | .text => .plain .text
  | .data => .plain .data
  | .list element => .list (element.value library)
  | .enumeration ref => .enumeration (library.numberOf ref)
  | .record ref => .record (library.numberOf ref)
  | .interface ref => .interface (library.numberOf ref)
  | .anyPointer => .anyPointer

namespace Library

def fieldOf (library : Library) (scope : NodeRef) (slot : Slot) : NodeField :=
  match slot.type with
  | none => .group slot.name
  | some type =>
      .slot slot.name (((library.typeOf scope [] type).toOption.getD .anyPointer).value library)

def contentOf (library : Library) (ref : NodeRef) (decl : Decl) : NodeContent :=
  match decl.kind with
  | .file => .file
  | .enumeration => .enumeration
  | .interface _ => .interface
  | .const .. => .const
  | .marker .. => .marker
  | _ =>
      .record ((decl.nested.filter isUnnamedUnion).flatMap Decl.nested).length
        (decl.slots.map (library.fieldOf ref))

/-- The number of what an annotation is an application of. -/
def markOf? (library : Library) (ref : NodeRef) (application : Application) : Option Nat :=
  match library.resolve ref [] application.name with
  | .ok resolved =>
      match resolved.referent with
      | .node mark => some (library.numberOf mark)
      | _ => none
  | .error _ => none

/-- The length of the prefix counts bytes. -/
def nodeOf (library : Library) (ref : NodeRef) (decl : Decl) : Node :=
  let front : Text := (ref.file.path.getLast?.getD []) ++ ":"
  { displayName := front ++ decl.name
    prefixLength := (Utf8.encode front).length
    annotations := decl.annotations.filterMap (library.markOf? ref)
    content := library.contentOf ref decl }

def nestedNodes (library : Library) (file : FileKey) (root : Decl) : List NestedNode :=
  (root.nested.filter (·.kind.isNode)).map fun decl =>
    let ref := (NodeRef.ofFile file).child decl.name
    { name := decl.name, id := library.numberOf ref, node := library.nodeOf ref decl }

end Library

/-- The directories among import paths. -/
def importDirectories (disk : Disk) (root : Text) (importPaths : List Text) : List Location :=
  (importPaths.filterMap fun path => evalPath [] (Path.join root path)).filter fun place =>
    disk.item? place = some .directory

/-- The compiler that is used where no other one is given. -/
def capnpCompiler : Compiler := fun disk root importPaths path =>
  match evalPath [] (Path.join root path) with
  | none => .error .refused
  | some place =>
      let file : FileKey := { base := [], path := place }
      let library := readLibrary disk (importDirectories disk root importPaths) file
      match library.compile file, library.root? file with
      | .ok (), some decl => .ok { nestedNodes := library.nestedNodes file decl }
      | _, _ => .error .refused

end MessageForge.Schema
