import Mathlib.Data.List.Forall2
import Mathlib.Data.List.Nodup
import MessageForge.Proofs.Refusal

/-!
# Outlines of schemas

The outline of a schema is its top level as it is written: nodes in their order,
and for records the members, line by line, with their ordinals. What a compiler
gives for the schema follows the outline: it keeps the order of the nodes and
lists the members of a record by their ordinals. Nothing else is assumed of the
compiler than this and what it lets through.
-/

namespace MessageForge.Schema

open Job

/-! ## The top level of a schema -/

/-- A member of a record with its ordinal. A group stands at the first ordinal
in it. -/
structure MemberLine where
  ordinal : Nat
  field : NodeField
  deriving DecidableEq, Repr

inductive TopKind where
  | record (hasUnion : Bool) (members : List MemberLine)
  | enumeration
  | interface
  | const
  | marker
  deriving DecidableEq, Repr

structure TopLevel where
  name : Text
  id : Nat
  annotations : List Nat := []
  kind : TopKind
  deriving DecidableEq, Repr

abbrev Outline := List TopLevel

/-- The members in the order of their ordinals. -/
structure IsByOrdinal (sorted members : List MemberLine) : Prop where
  perm : sorted.Perm members
  pairwise : sorted.Pairwise fun a b => a.ordinal < b.ordinal

theorem IsByOrdinal.unique {sorted other members members' : List MemberLine}
    (h : IsByOrdinal sorted members) (hother : IsByOrdinal other members')
    (hperm : members.Perm members') : sorted = other :=
  List.Perm.eq_of_pairwise (fun _ _ _ _ hlt hgt => absurd hlt (Nat.lt_asymm hgt)) h.pairwise hother.pairwise
    (h.perm.trans (hperm.trans hother.perm.symm))

/-! ## What a compiler gives for it -/

inductive NodeContent.Follows : NodeContent → TopKind → Prop where
  | record {discriminantCount : Nat} {hasUnion : Bool} {sorted members : List MemberLine}
      (hunion : discriminantCount ≠ 0 ↔ hasUnion = true) (hsorted : IsByOrdinal sorted members) :
      Follows (.record discriminantCount (sorted.map MemberLine.field)) (.record hasUnion members)
  | enumeration : Follows .enumeration .enumeration
  | interface : Follows .interface .interface
  | const : Follows .const .const
  | marker : Follows .marker .marker

/-- A nested node is what the compiler has made of a node at the top level. -/
structure NestedNode.Follows (nested : NestedNode) (top : TopLevel) : Prop where
  name : nested.name = top.name
  id : nested.id = top.id
  shortName : nested.node.name = top.name
  annotations : nested.node.annotations = top.annotations
  content : nested.node.content.Follows top.kind

/-- The compiled schema has the nodes of the outline in their order. -/
def CompiledSchema.Follows (schema : CompiledSchema) (outline : Outline) : Prop :=
  List.Forall₂ NestedNode.Follows schema.nestedNodes outline

/-! ## What a compiler lets through -/

/-- The type within all lists. -/
def ValueType.leaf : ValueType → ValueType
  | .list element => element.leaf
  | type => type

/-- The type within all lists of a field that has a type. -/
def NodeField.leaf? : NodeField → Option ValueType
  | .slot _ type => some type.leaf
  | .group _ => none

def TopKind.members : TopKind → List MemberLine
  | .record _ members => members
  | _ => []

def TopKind.isRecord : TopKind → Bool
  | .record .. => true
  | _ => false

/-- A word of a schema: of ASCII letters, digits and underscores. -/
def IsWord (word : Text) : Prop :=
  word ≠ [] ∧ ∀ c ∈ word, (Text.isAsciiLetter c || Text.isAsciiDigit c || c = '_') = true

/-- A name of a field: of ASCII letters and digits, beginning with a small letter. -/
def IsFieldName (name : Text) : Prop :=
  (name.head?.any fun c => 'a' ≤ c && c ≤ 'z') = true ∧
    ∀ c ∈ name, (Text.isAsciiLetter c || Text.isAsciiDigit c) = true

-- along the text, as there are finitely many characters as well
instance (word : Text) : Decidable (IsWord word) :=
  @instDecidableAnd _ _ _ (List.decidableBAll _ word)

instance (name : Text) : Decidable (IsFieldName name) :=
  @instDecidableAnd _ _ _ (List.decidableBAll _ name)

/-- What a compiler lets through. Nodes have names and numbers of their own, and
so have the fields of a record; what is applied as an annotation is declared as
one, and what a field has as its enumeration or record is one. -/
structure IsAccepted (outline : Outline) : Prop where
  names : (outline.map TopLevel.name).Nodup
  words : ∀ top ∈ outline, IsWord top.name
  ids : (outline.map TopLevel.id).Nodup
  marks : ∀ top ∈ outline, ∀ mark ∈ outline, mark.id ∈ top.annotations → mark.kind = .marker
  fields : ∀ top ∈ outline, (top.kind.members.map (·.field.name)).Nodup ∧
    ∀ member ∈ top.kind.members, IsFieldName member.field.name
  types : ∀ top ∈ outline, ∀ member ∈ top.kind.members, ∀ other ∈ outline,
    (member.field.leaf? = some (.enumeration other.id) → other.kind = .enumeration) ∧
    (member.field.leaf? = some (.record other.id) → other.kind.isRecord = true)

instance (outline : Outline) : Decidable (IsAccepted outline) :=
  decidable_of_iff
    ((outline.map TopLevel.name).Nodup ∧ (∀ top ∈ outline, IsWord top.name) ∧
      (outline.map TopLevel.id).Nodup ∧
      (∀ top ∈ outline, ∀ mark ∈ outline, mark.id ∈ top.annotations → mark.kind = .marker) ∧
      (∀ top ∈ outline, (top.kind.members.map (·.field.name)).Nodup ∧
        ∀ member ∈ top.kind.members, IsFieldName member.field.name) ∧
      ∀ top ∈ outline, ∀ member ∈ top.kind.members, ∀ other ∈ outline,
        (member.field.leaf? = some (.enumeration other.id) → other.kind = .enumeration) ∧
        (member.field.leaf? = some (.record other.id) → other.kind.isRecord = true))
    ⟨fun ⟨names, words, ids, marks, fields, types⟩ => ⟨names, words, ids, marks, fields, types⟩,
      fun h => ⟨h.names, h.words, h.ids, h.marks, h.fields, h.types⟩⟩

/-- The compiler accepts a schema of this outline, what it gives follows the
outline, and the machine can go through it. -/
structure Compiles (setting : Setting) (importPaths : List Text) (disk : Disk) (path : Text)
    (schema : CompiledSchema) (outline : Outline) : Prop where
  isFile : disk.isFile setting.root path = true
  compiled : setting.compiler disk setting.root importPaths path = .ok schema
  limits : setting.limits.schema schema = none
  follows : schema.Follows outline
  accepted : IsAccepted outline

variable {setting : Setting} {importPaths : List Text} {disk : Disk} {path : Text}
  {schema : CompiledSchema} {outline : Outline}

/-- What comes of reading a schema, which the disk alone decides. -/
def schemaOutcome (setting : Setting) (importPaths : List Text) (disk : Disk) (path : Text) :
    Except Failure DeclarationFile :=
  ((readSchema setting importPaths path).run { disk }).1

/-- A schema that compiles is read as what is declared in its nodes. -/
theorem Compiles.run_readSchema (h : Compiles setting importPaths disk path schema outline)
    (workspace : Workspace) (hdisk : workspace.disk = disk) :
    (readSchema setting importPaths path).run workspace =
      (.ok (declarationsOf schema path).1, logged workspace (declarationsOf schema path).2) := by
  subst hdisk
  have hcompile : compileFile setting.compiler workspace.disk setting.root importPaths path =
      .ok schema := by
    rw [compileFile, if_neg (by simp [h.isFile]), h.compiled]
  rw [readSchema, run_bind_ok _ (run_disk _), hcompile, run_bind_ok _ (run_ofResult_ok _ _), h.limits]
  rfl

end MessageForge.Schema
