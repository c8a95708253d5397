import MessageForge.Proofs.Interchange

/-!
# Generated drafts

An accepted entry adds one class to its draft and changes nothing else that is
rendered. A draft that is generated without a refusal so has one class for each
entry of its file, in their order, and import lines that are carried over or
its own.
-/

namespace MessageForge

open Vocabulary

/-! ## Classes of entries -/

/-- A class as it stands in a module, with the name under which it is listed. -/
structure WrittenClass where
  derivation : Derivation
  listed : Text

namespace WrittenClass

def name (written : WrittenClass) : Text :=
  written.derivation.declaration.name

def category (written : WrittenClass) : Text :=
  written.derivation.category

def fields (written : WrittenClass) : List Field :=
  written.derivation.declaration.fields

def lines (written : WrittenClass) : List Text :=
  classLines written.derivation.declaration written.derivation.lines

end WrittenClass

/-- The derivation of the record of a category that has no fields of its own. -/
def bareDerivation (category : Text) : Derivation where
  declaration := { name := Category.typeName category, fields := [⟨baseField, baseRecord⟩] }
  category := category
  role := .derived category

/-- The class that an entry is written as. A definition is listed as it is
spelled, and written in its normal spelling. -/
inductive Entry.IsWrittenAs : Entry → WrittenClass → Prop where
  | declaration {declaration : Declaration} {derivation : Derivation}
      (hderive : declaration.derive = .ok derivation) :
      IsWrittenAs (.declaration declaration) ⟨derivation, declaration.name⟩
  | definition {definition : Definition} {category : Text}
      (hnormal : Category.normalize definition.category = .ok category) :
      IsWrittenAs (.definition definition)
        ⟨bareDerivation category, Category.typeName definition.category⟩

/-! ## Drafts with more classes -/

namespace Draft

/-- The next draft has these classes behind those of the draft, and nothing
else has changed that is rendered. -/
structure Extends (draft next : Draft) (classes : List WrittenClass) : Prop where
  file : next.file = draft.file
  imports : next.imports = draft.imports
  typingNames : next.typingNames = draft.typingNames
  blocks : next.blocks = draft.blocks ++ classes.map WrittenClass.lines
  typeNames : next.typeNames = draft.typeNames ++ classes.map WrittenClass.listed

theorem Extends.refl (draft : Draft) : draft.Extends draft [] :=
  ⟨rfl, rfl, rfl, (List.append_nil _).symm, (List.append_nil _).symm⟩

theorem Extends.trans {first second third : Draft} {front back : List WrittenClass}
    (h : first.Extends second front) (h' : second.Extends third back) :
    first.Extends third (front ++ back) where
  file := h'.file.trans h.file
  imports := h'.imports.trans h.imports
  typingNames := h'.typingNames.trans h.typingNames
  blocks := by rw [h'.blocks, h.blocks, List.map_append, List.append_assoc]
  typeNames := by rw [h'.typeNames, h.typeNames, List.map_append, List.append_assoc]

theorem extends_addEntry {draft next : Draft} {entry : Entry}
    (h : draft.addEntry entry = .ok next) :
    ∃ written, entry.IsWrittenAs written ∧ draft.Extends next [written] := by
  cases entry with
  | declaration declaration =>
      rw [addEntry, addDeclaration] at h
      obtain ⟨derivation, hderive, h⟩ := bind_eq_ok_iff.mp h
      cases h
      have hsame := (Declaration.derive_eq_ok_iff.mp hderive).2.2.2.1
      refine ⟨_, .declaration hderive, rfl, rfl, rfl, ?_, rfl⟩
      show _ = _ ++ [classLines derivation.declaration derivation.lines]
      rw [hsame]
      rfl
  | definition definition =>
      rw [addEntry, addDefinition, definitionLines] at h
      obtain ⟨block, hblock, h⟩ := bind_eq_ok_iff.mp h
      obtain ⟨category, hnormal, hlines⟩ := bind_eq_ok_iff.mp (mapError_eq_ok_iff.mp hblock)
      cases hlines
      cases h
      have hbare : (bareDerivation category).declaration.IsBare category := ⟨rfl, rfl, rfl⟩
      refine ⟨_, .definition hnormal, rfl, rfl, rfl, ?_, rfl⟩
      exact congrArg (fun lines => draft.blocks ++ [lines])
        (hbare.classLines (Category.newline_not_mem hnormal)).symm

theorem extends_addEntries : ∀ {entries : List Entry} {draft full : Draft},
    draft.addEntries entries = (full, none) →
      ∃ classes, List.Forall₂ Entry.IsWrittenAs entries classes ∧ draft.Extends full classes
  | [], draft, full, h => by
      cases h
      exact ⟨[], .nil, .refl draft⟩
  | entry :: rest, draft, full, h => by
      rw [addEntries] at h
      cases hadd : draft.addEntry entry with
      | error diagnostic =>
          rw [hadd] at h
          cases h
      | ok next =>
          rw [hadd] at h
          obtain ⟨written, hwritten, hnext⟩ := extends_addEntry hadd
          obtain ⟨classes, hclasses, hfull⟩ := extends_addEntries h
          exact ⟨written :: classes, .cons hwritten hclasses, hnext.trans hfull⟩

/-! ## Import lines -/

theorem mem_addImport {draft : Draft} {new line : Text} (h : line ∈ (draft.addImport new).imports) :
    line ∈ draft.imports ∨ line = new := by
  rw [addImport] at h
  split at h
  · exact .inl h
  · rcases List.mem_append.mp h with h | h
    · exact .inl h
    · exact .inr (List.mem_singleton.mp h)

theorem typingNames_addImport (draft : Draft) (new : Text) :
    (draft.addImport new).typingNames = draft.typingNames := by
  rw [addImport]
  split <;> rfl

theorem imports_addTypingName (draft : Draft) (name : Text) :
    (draft.addTypingName name).imports = draft.imports := by
  rw [addTypingName]
  split <;> rfl

theorem mem_addImports {line : Text} : ∀ {lines : List Text} {draft : Draft},
    line ∈ (draft.addImports lines).imports → line ∈ draft.imports ∨ line ∈ lines
  | [], _, h => .inl h
  | new :: rest, draft, h => by
      have hrest : line ∈ ((draft.addImport new).addImports rest).imports := h
      rcases mem_addImports hrest with h | h
      · rcases mem_addImport h with h | rfl
        · exact .inl h
        · exact .inr (List.mem_cons_self ..)
      · exact .inr (List.mem_cons_of_mem _ h)

theorem typingNames_addImports : ∀ (lines : List Text) (draft : Draft),
    (draft.addImports lines).typingNames = draft.typingNames
  | [], _ => rfl
  | new :: rest, draft =>
      (typingNames_addImports rest (draft.addImport new)).trans (typingNames_addImport draft new)

/-- The import lines that a generator writes of itself. -/
def ownImportLines : List Text :=
  ["from __future__ import annotations", "from dataclasses import dataclass",
    "from " ++ runtimeModule ++ " import " ++ baseRecord ++ ", " ++ messageTypeEnum,
    "from typing import " ++ Code.joinParameters (sortedSet ["Self"])]

theorem typingNames_addModuleImports {draft : Draft} (h : draft.typingNames = []) :
    draft.addModuleImports.typingNames = [] ∨ draft.addModuleImports.typingNames = ["Self"] := by
  rw [addModuleImports]
  split
  · exact .inl h
  · right
    dsimp only
    rw [typingNames_addImports, typingNames_addImport, addTypingName, typingNames_addImport, h]
    rfl

theorem mem_addModuleImports {draft : Draft} (h : draft.imports = []) {line : Text}
    (hline : line ∈ draft.addModuleImports.imports) :
    line ∈ draft.file.imports ∨ line ∈ ownImportLines := by
  rw [addModuleImports] at hline
  split at hline
  · rw [h] at hline
    cases hline
  · rcases mem_addImports hline with hline | hline
    · rcases mem_addImport hline with hline | rfl
      · rw [imports_addTypingName] at hline
        rcases mem_addImport hline with hline | rfl
        · rw [h] at hline
          cases hline
        · exact .inr (List.mem_cons_of_mem _ (List.mem_cons_self ..))
      · exact .inr (List.mem_cons_of_mem _ (List.mem_cons_of_mem _ (List.mem_cons_self ..)))
    · exact .inl hline

/-- Every import line of a module is carried over or one of the generator. -/
theorem mem_importLines {draft : Draft} (himports : draft.imports = [])
    (htyping : draft.typingNames = []) {line : Text}
    (h : line ∈ draft.addModuleImports.importLines) :
    line ∈ draft.file.imports ∨ line ∈ ownImportLines := by
  rw [importLines] at h
  rcases List.mem_cons.mp h with rfl | h
  · exact .inr (List.mem_cons_self ..)
  rcases List.mem_append.mp h with h | h
  · exact mem_addModuleImports himports h
  · rcases typingNames_addModuleImports htyping with hnames | hnames
    · rw [hnames] at h
      cases h
    · rw [hnames] at h
      rw [List.mem_singleton.mp h]
      exact .inr (by simp [ownImportLines])

/-! ## Generated drafts -/

/-- The next draft differs from the draft in imports and events only. -/
structure KeepsClasses (draft next : Draft) : Prop where
  file : next.file = draft.file
  blocks : next.blocks = draft.blocks
  typeNames : next.typeNames = draft.typeNames

theorem KeepsClasses.trans {first second third : Draft} (h : first.KeepsClasses second)
    (h' : second.KeepsClasses third) : first.KeepsClasses third :=
  ⟨h'.file.trans h.file, h'.blocks.trans h.blocks, h'.typeNames.trans h.typeNames⟩

theorem keepsClasses_addImport (draft : Draft) (line : Text) :
    draft.KeepsClasses (draft.addImport line) := by
  rw [addImport]
  split <;> exact ⟨rfl, rfl, rfl⟩

theorem keepsClasses_addTypingName (draft : Draft) (name : Text) :
    draft.KeepsClasses (draft.addTypingName name) := by
  rw [addTypingName]
  split <;> exact ⟨rfl, rfl, rfl⟩

theorem keepsClasses_addImports : ∀ (lines : List Text) (draft : Draft),
    draft.KeepsClasses (draft.addImports lines)
  | [], _ => ⟨rfl, rfl, rfl⟩
  | line :: rest, draft =>
      (keepsClasses_addImport draft line).trans (keepsClasses_addImports rest (draft.addImport line))

theorem keepsClasses_addModuleImports (draft : Draft) :
    draft.KeepsClasses draft.addModuleImports := by
  rw [addModuleImports]
  split
  · exact ⟨rfl, rfl, rfl⟩
  · exact (keepsClasses_addImport _ _).trans <| (keepsClasses_addTypingName _ _).trans <|
      (keepsClasses_addImport _ _).trans (keepsClasses_addImports _ _)

/-- A generated module has one class for each entry of its file, in order. -/
structure Generates (draft : Draft) (file : DeclarationFile) (classes : List WrittenClass) : Prop where
  source : draft.file = file
  entries : List.Forall₂ Entry.IsWrittenAs file.entries classes
  blocks : draft.blocks = classes.map WrittenClass.lines
  typeNames : draft.typeNames = classes.map WrittenClass.listed
  imports : ∀ line ∈ draft.importLines, line ∈ file.imports ∨ line ∈ ownImportLines

theorem Generates.fileName {file : DeclarationFile} {draft : Draft} {classes : List WrittenClass}
    (h : draft.Generates file classes) : draft.fileName = Path.name file.path :=
  congrArg (fun file : DeclarationFile => Path.name file.path) h.source

theorem generates_of_generateAll {file : DeclarationFile} {draft : Draft}
    (h : (ofFile file).generateAll = (draft, none)) : ∃ classes, draft.Generates file classes := by
  rw [generateAll] at h
  cases hadd : (ofFile file).addEntries (ofFile file).file.entries with
  | mk full refusal =>
      cases refusal with
      | some diagnostic =>
          rw [hadd] at h
          cases h
      | none =>
          rw [hadd] at h
          cases h
          obtain ⟨classes, hentries, hfull⟩ := extends_addEntries hadd
          have hkeeps := keepsClasses_addModuleImports full
          refine ⟨classes, hkeeps.file.trans hfull.file, hentries, hkeeps.blocks.trans hfull.blocks,
            hkeeps.typeNames.trans hfull.typeNames, fun line hline => ?_⟩
          have hmem := mem_importLines hfull.imports hfull.typingNames hline
          rw [hfull.file] at hmem
          exact hmem

end Draft

end MessageForge
