import MessageForge.Draft
import MessageForge.Proofs.Acceptance
import MessageForge.Proofs.BlockGroups
import MessageForge.Proofs.Category
import MessageForge.Proofs.Members

/-!
# Definitions and bare records

A definition asks for the class of a record that has nothing but the base
record. The class that is written down for it and the class that is derived
for such a record have the same lines, so that in a file the one entry may
stand for the other without a trace in the module.
-/

namespace MessageForge

open Vocabulary

/-- A record of nothing but the base record, named after a category. -/
structure Declaration.IsBare (category : Text) (declaration : Declaration) : Prop where
  name : declaration.name = Category.typeName category
  fields : declaration.fields = [⟨baseField, baseRecord⟩]
  shape : declaration.shape = .record

namespace Declaration.IsBare

variable {category : Text} {declaration : Declaration}

/-! ## Derivation of a bare record -/

theorem roleShape (h : declaration.IsBare category) :
    declaration.roleShape category = .derived category := by
  have hnone : declaration.roleField? = none := by
    rw [roleField?, if_pos h.shape, h.fields]
    decide
  rw [Declaration.roleShape, hnone]

theorem checkFields (h : declaration.IsBare category) :
    MessageForge.checkFields declaration declaration.fields = .ok () := by
  rw [checkFields_eq_ok_iff, h.fields]
  decide

theorem checkCategory (h : declaration.IsBare category) (hne : category ≠ []) :
    MessageForge.checkCategory declaration = .ok category := by
  rw [checkCategory_eq_ok_iff, h.name, Category.ofTypeName_typeName]
  exact ⟨rfl, hne⟩

theorem derive (h : declaration.IsBare category) (hne : category ≠ []) :
    declaration.derive = .ok { declaration, category, role := .derived category } :=
  derive_eq_ok_iff.mpr ⟨h.shape, h.checkFields, h.checkCategory hne, rfl, h.roleShape.symm⟩

end Declaration.IsBare

/-! ## Lines of a bare record -/

theorem mutatorLines_eq_template :
    Code.indent 1 (methodLines mutators) ++ [[]] = templateMutators := by
  have hlines : methodLines mutators = Code.separate (mutatorTable.map
      fun row => (mutator row.1 row.2.1 row.2.2).lines) := by
    rw [methodLines, mutators_eq, List.map_map]
    rfl
  rw [hlines]
  simp only [lines_mutator]
  unfold mutatorTable templateMutators Parameter.text
  repeat rw [Text.ofString_ofList]
  rfl

theorem interfaceLines_eq_template (category : Text) :
    Code.indent 1 (methodLines (interfaceMembers (.derived category))) = templateAccessors := by
  have hlines : methodLines (interfaceMembers (.derived category)) =
      Code.separate (accessorTable.map (fun row =>
        (accessor row.1 row.2.1 row.2.2).lines) ++ [(["@property", "def role(self) -> str:",
          "    return str(self.base.message_type)"] : List Text)]) := by
    rw [methodLines, interfaceMembers, List.map_append, accessors_eq, List.map_map,
      lines_roleAccessor]
    rfl
  rw [hlines]
  simp only [lines_accessor]
  unfold accessorTable templateAccessors
  repeat rw [Text.ofString_ofList]
  rfl

theorem constructorLines_eq_template {category : Text} (hcategory : '\n' ∉ category) :
    Code.decorator "dataclass" [] :: Code.classHeader (Category.typeName category) [] ::
      Code.indent 1 ((baseField ++ ": " ++ baseRecord) :: ([] : Text) ::
        methodLines (MessageForge.constructors [⟨baseField, baseRecord⟩] category)) ++ [[]] =
      templateConstructors category := by
  have hextra : extraFields [⟨baseField, baseRecord⟩] = [] := by decide
  have hlines : methodLines (MessageForge.constructors [⟨baseField, baseRecord⟩] category) =
      Code.separate [(shortConstructor []).lines, (fullConstructor [] category).lines] := by
    rw [MessageForge.constructors, hextra]
    rfl
  rw [hlines, lines_shortConstructor (List.forall_mem_nil _),
    lines_fullConstructor hcategory (List.forall_mem_nil _)]
  unfold templateConstructors constructionLines baseLines baseArguments
  repeat rw [Text.ofString_ofList]
  rfl

theorem methodLines_ne_nil {method : Method} (methods : List Method) (h : method.lines ≠ []) :
    methodLines (method :: methods) ≠ [] :=
  Code.separate_cons_ne_nil (methods.map Method.lines) h

/-- The lines of the derived class are those of the template. -/
theorem Declaration.IsBare.classLines {category : Text} {declaration : Declaration}
    (h : declaration.IsBare category) (hcategory : '\n' ∉ category) :
    MessageForge.classLines declaration
      (Derivation.lines { declaration, category, role := .derived category }) =
      templateLines category := by
  have hconstructors : methodLines (MessageForge.constructors declaration.fields category) ≠ [] :=
    methodLines_ne_nil _ (List.cons_ne_nil _ _)
  have hmutators : methodLines mutators ≠ [] := methodLines_ne_nil _ (List.cons_ne_nil _ _)
  have hinterface : methodLines (interfaceMembers (.derived category)) ≠ [] :=
    methodLines_ne_nil _ (List.cons_ne_nil _ _)
  have hmembers : MemberLines.lines
      (Derivation.lines { declaration, category, role := .derived category }) =
      methodLines (MessageForge.constructors declaration.fields category) ++ [] ::
        (methodLines mutators ++ [] :: methodLines (interfaceMembers (.derived category))) := by
    show Code.separate [methodLines (MessageForge.constructors declaration.fields category),
      methodLines mutators, methodLines (interfaceMembers (.derived category))] = _
    rw [Code.separate_cons _ hconstructors hmutators, Code.separate_cons _ hmutators hinterface,
      Code.separate_single]
  have hne : MemberLines.lines
      (Derivation.lines { declaration, category, role := .derived category }) ≠ [] :=
    Code.separate_cons_ne_nil _ hconstructors
  have hclass : MessageForge.classLines declaration
      (Derivation.lines { declaration, category, role := .derived category }) =
      Code.decorator "dataclass" [] :: Code.classHeader (Category.typeName category) [] ::
        Code.indent 1 (Code.separate [[baseField ++ ": " ++ baseRecord], MemberLines.lines
          (Derivation.lines { declaration, category, role := .derived category })]) := by
    rw [MessageForge.classLines, h.name, h.fields, List.map_singleton]
  have hbody : (baseField ++ ": " ++ baseRecord) :: ([] : Text) ::
      (methodLines (MessageForge.constructors [⟨baseField, baseRecord⟩] category) ++ [] ::
        (methodLines mutators ++ [] :: methodLines (interfaceMembers (.derived category)))) =
      ((baseField ++ ": " ++ baseRecord) :: ([] : Text) ::
        methodLines (MessageForge.constructors [⟨baseField, baseRecord⟩] category)) ++
      ([[]] ++ (methodLines mutators ++ ([[]] ++
        methodLines (interfaceMembers (.derived category))))) := rfl
  rw [hclass, Code.separate_cons _ (List.cons_ne_nil _ _) hne, Code.separate_single,
    hmembers, h.fields, List.singleton_append, hbody, templateLines,
    ← constructorLines_eq_template hcategory, ← mutatorLines_eq_template,
    ← interfaceLines_eq_template category]
  have hblank : Code.indent 1 [([] : Text)] = [[]] := rfl
  rw [Code.indent_append, Code.indent_append 1 [[]], Code.indent_append, Code.indent_append 1 [[]], hblank]
  simp only [List.cons_append, List.append_assoc]

/-! ## Entries of a file -/

/-- A definition in its normal spelling may give way to a bare record of its
category, wherever that record comes from; every entry may stay. -/
inductive Entry.Interchange : Entry → Entry → Prop where
  | same (entry : Entry) : Interchange entry entry
  | bare {definition : Definition} {declaration : Declaration}
      (hnormal : Category.normalize definition.category = .ok definition.category)
      (hbare : declaration.IsBare definition.category) :
      Interchange (.definition definition) (.declaration declaration)

structure DeclarationFile.Interchange (file other : DeclarationFile) : Prop where
  path : file.path = other.path
  imports : file.imports = other.imports
  entries : List.Forall₂ Entry.Interchange file.entries other.entries

/-- Drafts that write the same module, whatever entries and events they have. -/
structure Draft.Agree (draft other : Draft) : Prop where
  path : draft.file.path = other.file.path
  carried : draft.file.imports = other.file.imports
  imports : draft.imports = other.imports
  typingNames : draft.typingNames = other.typingNames
  blocks : draft.blocks = other.blocks
  typeNames : draft.typeNames = other.typeNames

/-- Two additions that agree: both are refused with the same diagnostic, or
both lead on to drafts that agree. -/
def Draft.AgreeAfter : Except Diagnostic Draft → Except Diagnostic Draft → Prop
  | .ok draft, .ok other => draft.Agree other
  | .error diagnostic, .error other => diagnostic = other
  | _, _ => False

namespace Draft

theorem Agree.addBlock {draft other : Draft} (h : draft.Agree other) (block : List Text)
    (typeName : Text) : (draft.addBlock block typeName).Agree (other.addBlock block typeName) where
  path := h.path
  carried := h.carried
  imports := h.imports
  typingNames := h.typingNames
  blocks := congrArg (· ++ [block]) h.blocks
  typeNames := congrArg (· ++ [typeName]) h.typeNames

theorem Agree.report_left {draft other : Draft} (h : draft.Agree other) (events : List Event) :
    (draft.report events).Agree other :=
  ⟨h.path, h.carried, h.imports, h.typingNames, h.blocks, h.typeNames⟩

theorem Agree.report_right {draft other : Draft} (h : draft.Agree other) (events : List Event) :
    draft.Agree (other.report events) :=
  ⟨h.path, h.carried, h.imports, h.typingNames, h.blocks, h.typeNames⟩

theorem Agree.addImport {draft other : Draft} (h : draft.Agree other) (line : Text) :
    (draft.addImport line).Agree (other.addImport line) := by
  rw [Draft.addImport, Draft.addImport, ← h.imports]
  split
  · exact h
  · exact ⟨h.path, h.carried, rfl, h.typingNames, h.blocks, h.typeNames⟩

theorem Agree.addTypingName {draft other : Draft} (h : draft.Agree other) (name : Text) :
    (draft.addTypingName name).Agree (other.addTypingName name) := by
  rw [Draft.addTypingName, Draft.addTypingName, ← h.typingNames]
  split
  · exact h
  · exact ⟨h.path, h.carried, h.imports, rfl, h.blocks, h.typeNames⟩

theorem Agree.addImports : ∀ (lines : List Text) {draft other : Draft}, draft.Agree other →
    (draft.addImports lines).Agree (other.addImports lines)
  | [], _, _, h => h
  | line :: rest, _, _, h => Agree.addImports rest (h.addImport line)

theorem Agree.addModuleImports {draft other : Draft} (h : draft.Agree other) :
    draft.addModuleImports.Agree other.addModuleImports := by
  rw [Draft.addModuleImports, Draft.addModuleImports, ← h.blocks, ← h.carried]
  split
  · exact h
  · exact Agree.addImports _ (((h.addImport _).addTypingName _).addImport _)

/-! ## One entry and all entries -/

theorem addDefinition_of_normal (draft : Draft) {definition : Definition}
    (hnormal : Category.normalize definition.category = .ok definition.category) :
    draft.addDefinition definition = .ok (draft.addBlock (templateLines definition.category)
      (Category.typeName definition.category)) := by
  have hlines : definitionLines definition.category = .ok (templateLines definition.category) := by
    rw [definitionLines, hnormal]
    rfl
  rw [addDefinition, hlines]
  rfl

theorem addDeclaration_of_bare (draft : Draft) {category : Text} {declaration : Declaration}
    (hbare : declaration.IsBare category) (hne : category ≠ []) (hcategory : '\n' ∉ category) :
    ∃ events, draft.addDeclaration declaration =
      .ok ((draft.addBlock (templateLines category) (Category.typeName category)).report events) := by
  refine ⟨Derivation.events { declaration, category, role := .derived category }, ?_⟩
  rw [addDeclaration, hbare.derive hne, ok_bind, hbare.classLines hcategory, hbare.name]
  rfl

theorem addEntry_agree {draft other : Draft} (h : draft.Agree other) {entry counterpart : Entry}
    (hentry : entry.Interchange counterpart) :
    AgreeAfter (draft.addEntry entry) (other.addEntry counterpart) := by
  cases hentry with
  | same =>
      cases entry with
      | declaration d =>
          rw [addEntry, addEntry, addDeclaration, addDeclaration]
          cases d.derive with
          | error diagnostic => exact rfl
          | ok derivation => exact ((h.addBlock _ _).report_left _).report_right _
      | definition d =>
          rw [addEntry, addEntry, addDefinition, addDefinition]
          cases definitionLines d.category with
          | error complaint => exact rfl
          | ok block => exact h.addBlock _ _
  | bare hnormal hbare =>
      have hidentifier := Category.isIdentifier_of_normalize hnormal
      obtain ⟨events, hadd⟩ := other.addDeclaration_of_bare hbare
        (Text.ne_nil_of_isIdentifier hidentifier) (Category.newline_not_mem hnormal)
      rw [addEntry, addEntry, draft.addDefinition_of_normal hnormal, hadd]
      exact (h.addBlock _ _).report_right events

theorem addEntries_agree {entries others : List Entry}
    (hentries : List.Forall₂ Entry.Interchange entries others) : ∀ {draft other : Draft},
    draft.Agree other → (draft.addEntries entries).1.Agree (other.addEntries others).1 ∧
      (draft.addEntries entries).2 = (other.addEntries others).2 := by
  induction hentries with
  | nil => exact fun h => ⟨h, rfl⟩
  | @cons entry counterpart rest others hentry _ ih =>
      intro draft other h
      have hstep := addEntry_agree h hentry
      rw [addEntries, addEntries]
      cases hleft : draft.addEntry entry with
      | error diagnostic =>
          cases hright : other.addEntry counterpart with
          | error diagnostic' =>
              rw [hleft, hright] at hstep
              exact ⟨h, congrArg some hstep⟩
          | ok next => rw [hleft, hright] at hstep; exact hstep.elim
      | ok next =>
          cases hright : other.addEntry counterpart with
          | error diagnostic => rw [hleft, hright] at hstep; exact hstep.elim
          | ok next' =>
              rw [hleft, hright] at hstep
              exact ih hstep

/-- Files that differ in bare records for definitions lead to drafts that write
the same module, or are refused alike. -/
theorem generateAll_agree {file other : DeclarationFile} (h : file.Interchange other) :
    (ofFile file).generateAll.1.Agree (ofFile other).generateAll.1 ∧
      (ofFile file).generateAll.2 = (ofFile other).generateAll.2 := by
  have hstart : (ofFile file).Agree (ofFile other) := ⟨h.path, h.imports, rfl, rfl, rfl, rfl⟩
  have hentries := addEntries_agree h.entries hstart
  rw [generateAll, generateAll]
  cases hleft : (ofFile file).addEntries (ofFile file).file.entries with
  | mk left refusal =>
      cases hright : (ofFile other).addEntries (ofFile other).file.entries with
      | mk right refusal' =>
          have hleft' : (ofFile file).addEntries file.entries = (left, refusal) := hleft
          have hright' : (ofFile other).addEntries other.entries = (right, refusal') := hright
          rw [hleft', hright'] at hentries
          obtain ⟨hagree, hrefusal⟩ := hentries
          cases hrefusal
          cases refusal with
          | some diagnostic => exact ⟨hagree, rfl⟩
          | none => exact ⟨(hagree.addModuleImports.report_left _).report_right _, rfl⟩

theorem Agree.importLines {draft other : Draft} (h : draft.Agree other) :
    draft.importLines = other.importLines := by
  rw [Draft.importLines, Draft.importLines, h.imports, h.typingNames]

theorem Agree.render {draft other : Draft} (h : draft.Agree other) :
    draft.render = other.render := by
  have hname : draft.fileName = other.fileName := congrArg Path.name h.path
  have hdocstring : draft.docstring = other.docstring := by
    unfold docstring
    rw [hname]
  rw [Draft.render, Draft.render, Draft.lines, Draft.lines, hdocstring, h.importLines, h.blocks]

end Draft

/-! ## The two ways to a class -/

theorem Declaration.IsBare.no_suffixMissing {category : Text} {declaration : Declaration}
    (h : declaration.IsBare category) (name missing : Text) :
    Event.suffixMissing name missing ∉
      Derivation.events { declaration, category, role := .derived category } := by
  have hname : ¬ category = declaration.name := h.name ▸ Category.typeName_ne category
  rw [Derivation.events]
  dsimp only
  rw [if_neg hname]
  simp [constructorEvents, interfaceEvents]

/-- The class of a definition is the class of the bare record of its category,
which is always derived and under its full name; and in a file the one may
stand for the other. -/
theorem definition_interchanges_with_bare_record :
    (∀ text category : Text, Category.normalize text = .ok category →
      ∀ declaration : Declaration, declaration.IsBare category →
        ∃ derivation, declaration.derive = .ok derivation ∧
          (∀ name missing, Event.suffixMissing name missing ∉ derivation.events) ∧
          definitionText text =
            .ok (Text.joinLines (classLines declaration derivation.lines) ++ "\n")) ∧
    (∀ file other : DeclarationFile, file.Interchange other →
      (Draft.ofFile file).generateAll.2 = (Draft.ofFile other).generateAll.2 ∧
      (Draft.ofFile file).generateAll.1.typeNames = (Draft.ofFile other).generateAll.1.typeNames ∧
      (Draft.ofFile file).generateAll.1.importLines =
        (Draft.ofFile other).generateAll.1.importLines ∧
      (Draft.ofFile file).generateAll.1.render = (Draft.ofFile other).generateAll.1.render) := by
  constructor
  · intro text category hnormal declaration hbare
    have hidentifier := Category.isIdentifier_of_normalize hnormal
    refine ⟨_, hbare.derive (Text.ne_nil_of_isIdentifier hidentifier), hbare.no_suffixMissing, ?_⟩
    rw [hbare.classLines (Category.newline_not_mem hnormal), definitionText, definitionLines,
      hnormal]
    rfl
  · intro file other h
    obtain ⟨hagree, hrefusal⟩ := Draft.generateAll_agree h
    exact ⟨hrefusal, hagree.typeNames, hagree.importLines, hagree.render⟩

def bareHuman : Declaration :=
  { name := "HumanMessage", fields := [⟨baseField, baseRecord⟩] }

/-- A file that defines the human message, by definition and by record. -/
def humanFile (entry : Entry) : DeclarationFile :=
  { path := "chat.py", entries := [entry] }

theorem human_definition_interchanges :
    (∃ derivation, bareHuman.derive = .ok derivation ∧
      definitionText "MessageType.Human" =
        .ok (Text.joinLines (classLines bareHuman derivation.lines) ++ "\n")) ∧
    (Draft.ofFile (humanFile (.definition { category := "Human" }))).generateAll.1.render =
      (Draft.ofFile (humanFile (.declaration bareHuman))).generateAll.1.render := by
  have hnormal : Category.normalize "MessageType.Human" = .ok "Human" := by decide
  have hplain : Category.normalize "Human" = .ok "Human" := by decide
  have hbare : bareHuman.IsBare "Human" := ⟨by decide, rfl, rfl⟩
  obtain ⟨hclass, hfile⟩ := definition_interchanges_with_bare_record
  obtain ⟨derivation, hderive, -, htext⟩ := hclass _ _ hnormal _ hbare
  have hentries : (humanFile (.definition { category := "Human" })).Interchange
      (humanFile (.declaration bareHuman)) :=
    ⟨rfl, rfl, .cons (.bare hplain hbare) .nil⟩
  exact ⟨⟨derivation, hderive, htext⟩, (hfile _ _ hentries).2.2.2⟩

end MessageForge
