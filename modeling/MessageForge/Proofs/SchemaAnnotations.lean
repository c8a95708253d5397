import MessageForge.Proofs.Headers
import MessageForge.Proofs.SchemaClassification

/-!
# Words in annotations

The annotation of a field consists of words: those for built-in types, and names
that the schema gives at its top level. A name that the schema does not declare
stands in annotations all the same, although the module has no class of it;
types of other places and kinds are annotated with the most general word.

Main statement: `annotations_name_types_of_schema`.
-/

namespace MessageForge

open Vocabulary

/-- The module has a class of this name. -/
def Draft.Defines (draft : Draft) (name : Text) : Prop :=
  ∃ block ∈ draft.blocks, headerName? block = some name

theorem Draft.Generates.defines {draft : Draft} {file : DeclarationFile}
    {classes : List WrittenClass} (h : draft.Generates file classes) {entry : Entry}
    (hentry : entry ∈ file.entries) : draft.Defines entry.headerName := by
  obtain ⟨written, hmem, hwritten⟩ := exists_mem_of_forall₂ h.entries hentry
  refine ⟨written.lines, h.blocks ▸ List.mem_map_of_mem hmem, ?_⟩
  rw [headerName?_lines, hwritten.name_eq]

namespace Schema

open Job

variable {outline : Outline} {top : TopLevel} {leaf : ValueType} {name word : Text}

/-! ## Words -/

/-- The words of a text: the longest runs of characters that names go on with. -/
def wordsOf (text : Text) : List Text :=
  (text.splitOnP fun c => !Text.isIdentifierContinue c).filter (· ≠ [])

theorem wordsOf_append_cons {c : Char} (hc : Text.isIdentifierContinue c = false)
    (front back : Text) : wordsOf (front ++ c :: back) = wordsOf front ++ wordsOf back := by
  rw [wordsOf, List.splitOnP_append_cons front back (by rw [hc]; rfl), List.filter_append]
  rfl

theorem wordsOf_eq_singleton (hname : ∀ c ∈ name, Text.isIdentifierContinue c = true)
    (hsome : name ≠ []) : wordsOf name = [name] := by
  rw [wordsOf, List.splitOnP_eq_singleton fun c hc => by rw [hname c hc]; rfl]
  simp [hsome]

theorem wordsOf_listedText_succ (depth : Nat) (name : Text) :
    wordsOf (listedText (depth + 1) name) = ("list" : Text) :: wordsOf (listedText depth name) := by
  have hopen : ("list[" : Text) = "list" ++ ['['] := by decide
  have hlisted : listedText (depth + 1) name =
      "list" ++ '[' :: (listedText depth name ++ ']' :: []) := by
    rw [listedText_succ, hopen, List.append_assoc, List.append_assoc]
    rfl
  have hword : wordsOf "list" = ["list"] := by decide
  have hnil : wordsOf [] = [] := rfl
  -- both brackets are breaks, and there is nothing behind the second
  rw [hlisted, wordsOf_append_cons (by decide), wordsOf_append_cons (by decide), hword, hnil,
    List.append_nil]
  rfl

/-- The nesting of lists adds their own word, and no other. -/
theorem wordsOf_listedText (name : Text) : ∀ depth : Nat,
    wordsOf (listedText depth name) = List.replicate depth ("list" : Text) ++ wordsOf name
  | 0 => rfl
  | depth + 1 => by
      rw [wordsOf_listedText_succ, wordsOf_listedText name depth]
      rfl

/-! ## Names in annotations -/

/-- The words for built-in types, for lists and for types of all kinds. -/
def builtinWords : List Text :=
  ["None", "bool", "int", "float", "str", "bytes", "list", fallbackType]

theorem wordsOf_builtin : ∀ word ∈ builtinWords, wordsOf word = [word] := by decide

theorem hint_mem_builtinWords (type : PlainType) : type.hint ∈ builtinWords := by
  cases type <;> decide

/-- An enumeration or a record at the top level that is not declared. -/
def LeavesOut (outline : Outline) (name : Text) : Prop :=
  ∃ top ∈ outline, top.name = name ∧ (top.kind = .enumeration ∨ top.kind.isRecord = true) ∧
    ¬ Carries outline top

/-- A type that is no list and that stands nowhere at the top level of the schema:
an enumeration or a record of another place, an interface, or a pointer of
unknown kind. -/
inductive ValueType.IsNameless (outline : Outline) : ValueType → Prop where
  | foreign {leaf : ValueType} {id : Nat} (hforeign : ∀ top ∈ outline, top.id ≠ id)
      (h : leaf = .enumeration id ∨ leaf = .record id) : IsNameless outline leaf
  | interface (id : Nat) : IsNameless outline (.interface id)
  | anyPointer : IsNameless outline .anyPointer

theorem ValueType.IsNameless.word_eq (h : leaf.IsNameless outline) (hname : leaf.IsNamed outline word) :
    word = fallbackType := by
  cases hname with
  | plain type =>
      cases h with
      | foreign _ hleaf => rcases hleaf with hleaf | hleaf <;> cases hleaf
  | declared htop hleaf =>
      cases h with
      | foreign hforeign hother =>
          rcases hleaf with rfl | rfl <;> rcases hother with hother | hother <;> cases hother <;>
            exact absurd rfl (hforeign _ htop)
      | _ => rcases hleaf with hleaf | hleaf <;> cases hleaf
  | _ => rfl

theorem isIdentifierContinue_of_isWord (h : IsWord name) :
    ∀ c ∈ name, Text.isIdentifierContinue c = true := by
  intro c hc
  rw [Text.isIdentifierContinue, h.2 c hc, Bool.true_or]

/-- What the annotation of a field says. Each of its words is built in, or the
name of the base record, of a class of the module or of a type that the schema
leaves out; and a type without a name has the most general word, however deep
the lists are that it stands in. -/
structure Speaks (outline : Outline) (draft : Draft) (member : MemberLine) (field : Field) : Prop where
  words : ∀ word ∈ wordsOf field.type, word ∈ builtinWords ∨ word = baseRecord ∨
    draft.Defines word ∨ LeavesOut outline word
  general : ∃ name type, member.field = .slot name type ∧
    (type.leaf.IsNameless outline → field.type = listedText type.depth fallbackType)

/-- What a type within lists is called is one word, and it is built in, declared
or left out. -/
theorem wordsOf_leaf (haccepted : IsAccepted outline) (htop : top ∈ outline) {member : MemberLine}
    (hmember : member ∈ top.kind.members) (hleaf : member.field.leaf? = some leaf)
    (hname : leaf.IsNamed outline word) :
    wordsOf word = [word] ∧ (word ∈ builtinWords ∨
      (∃ other ∈ outline, other.name = word ∧ Carries outline other) ∨ LeavesOut outline word) := by
  have hbuiltin : ∀ word ∈ builtinWords, wordsOf word = [word] ∧ (word ∈ builtinWords ∨
      (∃ other ∈ outline, other.name = word ∧ Carries outline other) ∨ LeavesOut outline word) :=
    fun word hword => ⟨wordsOf_builtin word hword, .inl hword⟩
  cases hname with
  | plain type => exact hbuiltin _ (hint_mem_builtinWords type)
  | @declared leaf other hother hkind =>
      have hword := haccepted.words other hother
      refine ⟨wordsOf_eq_singleton (isIdentifierContinue_of_isWord hword) hword.1, .inr ?_⟩
      by_cases hcarries : Carries outline other
      · exact .inl ⟨other, hother, rfl, hcarries⟩
      · refine .inr ⟨other, hother, rfl, ?_, hcarries⟩
        obtain ⟨henumeration, hrecord⟩ := haccepted.types top htop member hmember other hother
        rcases hkind with rfl | rfl
        · exact .inl (henumeration hleaf)
        · exact .inr (hrecord hleaf)
  | _ => exact hbuiltin _ (by decide)

theorem speaks_of_describes (haccepted : IsAccepted outline) (htop : top ∈ outline) {draft : Draft}
    (hdraft : ∀ other ∈ outline, Carries outline other → draft.Defines other.name)
    {member : MemberLine} (hmember : member ∈ top.kind.members) {field : Field}
    (hfield : Describes outline member field) : Speaks outline draft member field := by
  cases hfield with
  | @slot ordinal name word type hname =>
      refine ⟨fun part hpart => ?_, name, type, rfl, fun hnameless => ?_⟩
      -- a word comes from the lists or from the name of what they hold
      · obtain ⟨hone, hwhich⟩ := wordsOf_leaf haccepted htop hmember rfl hname
        rw [wordsOf_listedText, hone] at hpart
        rcases List.mem_append.mp hpart with hlist | hleaf
        · rw [List.eq_of_mem_replicate hlist]
          exact .inl (by decide)
        · rw [List.mem_singleton.mp hleaf]
          rcases hwhich with hbuiltin | ⟨other, hother, rfl, hcarries⟩ | hout
          · exact .inl hbuiltin
          · exact .inr (.inr (.inl (hdraft other hother hcarries)))
          · exact .inr (.inr (.inr hout))
      · rw [hnameless.word_eq hname]

/-- If all that is declared in a schema becomes a class, the words in annotations
of its fields are built in or names: of the base record, of these classes, and
of enumerations and records at the top level of the schema that it does not
declare. All other types have the most general word, at any depth of lists. -/
theorem annotations_name_types_of_schema {setting : Setting} {importPaths : List Text} {disk : Disk}
    {path : Text} {schema : CompiledSchema} (h : Compiles setting importPaths disk path schema outline) :
    ∃ declared events,
      (∀ workspace : Workspace, workspace.disk = disk →
        (readSchema setting importPaths path).run workspace = (.ok declared, logged workspace events)) ∧
      ∀ draft, (Draft.ofFile declared).generateAll = (draft, none) →
        ∀ entry ∈ declared.entries, ∃ declaration top sorted,
          entry = .declaration declaration ∧ top ∈ outline ∧ Carries outline top ∧
          declaration.name = top.name ∧ IsByOrdinal sorted top.kind.members ∧
          List.Forall₂ (Speaks outline draft) sorted declaration.fields := by
  obtain ⟨events, marked, found, hrun, hsublist, -, hmarked, -, -, hfound⟩ :=
    schema_declarations_follow_rules h
  refine ⟨_, events, hrun, fun draft hdraft entry hentry => ?_⟩
  obtain ⟨classes, hgenerates⟩ := Draft.generates_of_generateAll hdraft
  have hdefines : ∀ other ∈ outline, Carries outline other → draft.Defines other.name := by
    intro other hother hcarries
    obtain ⟨declaration, hdeclaration, hrepresents⟩ :=
      exists_mem_of_forall₂ hfound ((hmarked other hother).mpr hcarries)
    have hdefined := hgenerates.defines (List.mem_map_of_mem hdeclaration)
    rwa [← hrepresents.name]
  obtain ⟨declaration, hdeclaration, rfl⟩ := List.mem_map.mp hentry
  obtain ⟨top, htop, hrepresents⟩ := exists_left_of_forall₂ hfound declaration hdeclaration
  have hmem := hsublist.subset htop
  -- what has become a class was a record
  have hshape : declaration.shape = .record := by
    obtain ⟨written, -, hwritten⟩ := exists_mem_of_forall₂ hgenerates.entries hentry
    cases hwritten with
    | declaration hderive => exact (Declaration.derive_eq_ok_iff.mp hderive).1
  obtain ⟨-, sorted, hsorted, hfields⟩ := hrepresents.fields hshape
  refine ⟨declaration, top, sorted, rfl, hmem, (hmarked top hmem).mp htop, hrepresents.name, hsorted, ?_⟩
  refine (forall₂_mem_right hfields.flip).flip.imp fun member field hboth => ?_
  exact speaks_of_describes h.accepted hmem hdefines (hsorted.perm.subset hboth.2) hboth.1

/-- A schema with an annotated record that has a field of an enumeration. -/
def prioritySchema : Text :=
  Text.joinLines
    ["@0xd4f2a3b1c0e9f876;",
      "annotation deriveBaseMessage @0xf8a1bedf44c89f00 (*) :Void;",
      "struct BaseMessageFields @0xd4af6a4c03b5b0c1 \x7b\x7d",
      "enum Priority @0xb20c7c4b5fba8e30 \x7b low @0; high @1; \x7d",
      "struct HumanMessage @0xa93fc509624c72d9 $deriveBaseMessage \x7b",
      "  base @0 :BaseMessageFields;",
      "  priority @1 :Priority;",
      "\x7d"]

def prioritySchemaDisk : Disk :=
  { items := [(["m.capnp"], .file (Utf8.encode prioritySchema))] }

def baseId : Nat := 0xd4af6a4c03b5b0c1

def priorityId : Nat := 0xb20c7c4b5fba8e30

def baseLine : MemberLine :=
  { ordinal := 0, field := .slot "base" (.record baseId) }

def priorityLine : MemberLine :=
  { ordinal := 1, field := .slot "priority" (.enumeration priorityId) }

/-- The outline and the nodes of a schema with these members in its message. -/
def priorityOutline (members : List MemberLine) : Outline :=
  [markLevel, { name := baseRecord, id := baseId, kind := .record false [] },
    { name := "Priority", id := priorityId, kind := .enumeration },
    { name := "HumanMessage", id := humanId, annotations := [markId]
      kind := .record false members }]

def priorityNodes (sorted : List MemberLine) : CompiledSchema where
  nestedNodes :=
    [markNode "m.capnp:",
      { name := baseRecord, id := baseId
        node := { displayName := "m.capnp:BaseMessageFields", prefixLength := 8
                  content := .record 0 [] } },
      { name := "Priority", id := priorityId
        node := { displayName := "m.capnp:Priority", prefixLength := 8, content := .enumeration } },
      { name := "HumanMessage", id := humanId
        node := { displayName := "m.capnp:HumanMessage", prefixLength := 8, annotations := [markId]
                  content := .record 0 (sorted.map MemberLine.field) } }]

theorem priorityNodes_follows {sorted members : List MemberLine} (h : IsByOrdinal sorted members) :
    (priorityNodes sorted).Follows (priorityOutline members) :=
  .cons ⟨rfl, rfl, rfl, rfl, .marker⟩ <|
    .cons ⟨rfl, rfl, rfl, rfl, @NodeContent.Follows.record 0 false [] [] (by decide) ⟨.nil, .nil⟩⟩ <|
    .cons ⟨rfl, rfl, rfl, rfl, .enumeration⟩ <|
    .cons ⟨rfl, rfl, rfl, rfl, .record (by decide) h⟩ .nil

theorem compiles_prioritySchema : Compiles { root := "/" } [] prioritySchemaDisk "m.capnp"
    (priorityNodes [baseLine, priorityLine]) (priorityOutline [baseLine, priorityLine]) where
  isFile := by decide +kernel
  compiled := by decide +kernel
  limits := rfl
  follows := priorityNodes_follows ⟨.refl _, by decide⟩
  accepted := by decide +kernel

def priorityDeclaration : Declaration where
  name := "HumanMessage"
  fields := [⟨"base", "BaseMessageFields"⟩, ⟨"priority", "Priority"⟩]
  source := some "m.capnp"

def priorityDraft : Draft :=
  (Draft.ofFile { path := "m.capnp", entries := [.declaration priorityDeclaration] }).generateAll.1

instance (draft : Draft) (name : Text) : Decidable (draft.Defines name) :=
  inferInstanceAs (Decidable (∃ block ∈ draft.blocks, headerName? block = some name))

theorem generateAll_priority : (Draft.ofFile
    { path := "m.capnp", entries := [.declaration priorityDeclaration] }).generateAll =
      (priorityDraft, none) :=
  Prod.ext rfl (by decide +kernel)

theorem declarationsOf_priority :
    (declarationsOf (priorityNodes [baseLine, priorityLine]) "m.capnp").1 =
      { path := "m.capnp", entries := [.declaration priorityDeclaration] } := by
  decide +kernel

/-- An enumeration has no class, and it is named in an annotation for all that. -/
theorem priority_annotation_names_no_class : ∃ schema outline declared events,
    Compiles { root := "/" } [] prioritySchemaDisk "m.capnp" schema outline ∧
      (readSchema { root := "/" } [] "m.capnp").run { disk := prioritySchemaDisk } =
        (.ok declared, logged { disk := prioritySchemaDisk } events) ∧
      (Draft.ofFile declared).generateAll = (priorityDraft, none) ∧
      .declaration priorityDeclaration ∈ declared.entries ∧
      ∃ field ∈ priorityDeclaration.fields, ∃ word ∈ wordsOf field.type,
        word ∉ builtinWords ∧ word ≠ baseRecord ∧ ¬ priorityDraft.Defines word := by
  have hrun := compiles_prioritySchema.run_readSchema { disk := prioritySchemaDisk } rfl
  rw [declarationsOf_priority] at hrun
  refine ⟨_, _, _, _, compiles_prioritySchema, hrun, generateAll_priority,
    List.mem_singleton_self _, ?_⟩
  decide +kernel

theorem priority_schema_leaves_out_enumeration :
    Compiles { root := "/" } [] prioritySchemaDisk "m.capnp" (priorityNodes [baseLine, priorityLine])
        (priorityOutline [baseLine, priorityLine]) ∧
      LeavesOut (priorityOutline [baseLine, priorityLine]) "Priority" := by
  refine ⟨compiles_prioritySchema, ?_⟩
  obtain ⟨declared, events, hrun, hentries⟩ := annotations_name_types_of_schema compiles_prioritySchema
  have hdeclared := compiles_prioritySchema.run_readSchema { disk := prioritySchemaDisk } rfl
  rw [hrun _ rfl, declarationsOf_priority] at hdeclared
  cases hdeclared
  obtain ⟨declaration, top, sorted, hentry, -, -, -, -, hfields⟩ :=
    hentries priorityDraft generateAll_priority _ (List.mem_singleton_self _)
  cases hentry
  have hfield : (⟨"priority", "Priority"⟩ : Field) ∈ priorityDeclaration.fields := by decide
  obtain ⟨member, -, hspeaks⟩ := exists_left_of_forall₂ hfields _ hfield
  -- of the four ways in which the word can be there, three are out
  rcases hspeaks.words "Priority" (by decide) with hbuiltin | hbase | hdefined | hout
  · exact absurd hbuiltin (by decide)
  · exact absurd hbase (by decide)
  · exact absurd hdefined (by decide +kernel)
  · exact hout

end Schema

end MessageForge
