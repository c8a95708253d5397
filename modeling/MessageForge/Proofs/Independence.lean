import Mathlib.Data.List.Forall2
import Mathlib.Logic.Equiv.Basic
import MessageForge.Proofs.Generation
import MessageForge.Proofs.ModuleRows

/-!
# Entries apart from each other

What an entry adds to a module depends on the entry alone: whether it is
accepted, its class and the name under which it is listed are the same behind
whatever other entries. So the entries of a file may be put in any order, which
puts their classes in the same order and changes nothing above them, and the
module of a file goes on with the classes of the entries that are added to it.
-/

namespace MessageForge

open Vocabulary

/-! ## Accepted entries -/

namespace Entry

/-- An entry is written as one class at most. -/
theorem IsWrittenAs.unique {entry : Entry} {written other : WrittenClass}
    (h : entry.IsWrittenAs written) (h' : entry.IsWrittenAs other) : written = other := by
  cases h with
  | declaration hderive =>
      cases h' with
      | declaration hderive' =>
          rw [Except.ok.inj (hderive.symm.trans hderive')]
  | definition hnormal =>
      cases h' with
      | definition hnormal' =>
          rw [Except.ok.inj (hnormal.symm.trans hnormal')]

end Entry

namespace Draft

/-- An entry that is written as a class is accepted behind all others. -/
theorem exists_addEntry {entry : Entry} {written : WrittenClass} (h : entry.IsWrittenAs written)
    (draft : Draft) : ∃ next, draft.addEntry entry = .ok next := by
  cases h with
  | @declaration declaration derivation hderive =>
      refine ⟨(draft.addBlock (classLines declaration derivation.lines) declaration.name).report
        derivation.events, ?_⟩
      rw [addEntry, addDeclaration, hderive, ok_bind]
      rfl
  | @definition definition category hnormal =>
      have hlines : definitionLines definition.category = .ok (templateLines category) := by
        rw [definitionLines, hnormal, ok_bind]
        rfl
      refine ⟨draft.addBlock (templateLines category) (Category.typeName definition.category), ?_⟩
      rw [addEntry, addDefinition, hlines]
      rfl

/-- Entries are added without a refusal if each of them is accepted, and only
then. -/
theorem addEntries_eq_none_iff {entries : List Entry} (draft : Draft) :
    (draft.addEntries entries).2 = none ↔
      ∀ entry ∈ entries, ∃ written, entry.IsWrittenAs written := by
  induction entries generalizing draft with
  | nil => exact iff_of_true rfl (List.forall_mem_nil _)
  | cons entry rest ih =>
      rw [addEntries, List.forall_mem_cons]
      cases hadd : draft.addEntry entry with
      | ok next =>
          obtain ⟨written, hwritten, -⟩ := extends_addEntry hadd
          rw [and_iff_right ⟨written, hwritten⟩]
          exact ih next
      | error diagnostic =>
          refine iff_of_false (Option.some_ne_none _) ?_
          rintro ⟨⟨written, hwritten⟩, -⟩
          obtain ⟨next, hnext⟩ := exists_addEntry hwritten draft
          rw [hadd] at hnext
          cases hnext

theorem generateAll_eq_none_iff (file : DeclarationFile) :
    (ofFile file).generateAll.2 = none ↔
      ∀ entry ∈ file.entries, ∃ written, entry.IsWrittenAs written := by
  rw [← addEntries_eq_none_iff (ofFile file), generateAll]
  have hfile : (ofFile file).file.entries = file.entries := rfl
  rw [hfile]
  cases (ofFile file).addEntries file.entries with
  | mk full refusal =>
      cases refusal with
      | none => exact Iff.rfl
      | some diagnostic => exact Iff.rfl

theorem exists_generates {file : DeclarationFile} (h : (ofFile file).generateAll.2 = none) :
    ∃ classes, (ofFile file).generateAll.1.Generates file classes :=
  generates_of_generateAll (Prod.ext rfl h)

/-! ## What stands above the classes -/

/-- Drafts with the same docstring and the same import lines. -/
structure SameHead (draft other : Draft) : Prop where
  path : draft.file.path = other.file.path
  carried : draft.file.imports = other.file.imports
  imports : draft.imports = other.imports
  typingNames : draft.typingNames = other.typingNames

theorem SameHead.addImport {draft other : Draft} (h : draft.SameHead other) (line : Text) :
    (draft.addImport line).SameHead (other.addImport line) := by
  rw [Draft.addImport, Draft.addImport, ← h.imports]
  split
  · exact h
  · exact ⟨h.path, h.carried, rfl, h.typingNames⟩

theorem SameHead.addTypingName {draft other : Draft} (h : draft.SameHead other) (name : Text) :
    (draft.addTypingName name).SameHead (other.addTypingName name) := by
  rw [Draft.addTypingName, Draft.addTypingName, ← h.typingNames]
  split
  · exact h
  · exact ⟨h.path, h.carried, h.imports, rfl⟩

theorem SameHead.addImports {draft other : Draft} (h : draft.SameHead other)
    (lines : List Text) : (draft.addImports lines).SameHead (other.addImports lines) := by
  induction lines generalizing draft other with
  | nil => exact h
  | cons line rest ih => exact ih (h.addImport line)

/-- Which classes there are does not show in the imports, only whether there
are any. -/
theorem SameHead.addModuleImports {draft other : Draft} (h : draft.SameHead other)
    (hblocks : draft.blocks.isEmpty = other.blocks.isEmpty) :
    draft.addModuleImports.SameHead other.addModuleImports := by
  rw [Draft.addModuleImports, Draft.addModuleImports, ← hblocks, ← h.carried]
  split
  · exact h
  · exact (((h.addImport _).addTypingName _).addImport _).addImports _

theorem SameHead.importLines {draft other : Draft} (h : draft.SameHead other) :
    draft.importLines = other.importLines := by
  rw [Draft.importLines, Draft.importLines, h.imports, h.typingNames]

theorem SameHead.docstring {draft other : Draft} (h : draft.SameHead other) :
    draft.docstring = other.docstring := by
  have hname : draft.fileName = other.fileName := congrArg Path.name h.path
  unfold Draft.docstring
  rw [hname]

/-- Two files that differ in their entries have modules that differ in their
classes only, if both have any or none. -/
theorem sameHead_generateAll {file other : DeclarationFile}
    (h : (ofFile file).generateAll.2 = none) (h' : (ofFile other).generateAll.2 = none)
    (hpath : file.path = other.path) (hcarried : file.imports = other.imports)
    (hentries : file.entries.isEmpty = other.entries.isEmpty) :
    (ofFile file).generateAll.1.SameHead (ofFile other).generateAll.1 := by
  have hfull : ∀ {file : DeclarationFile} {draft : Draft},
      (ofFile file).generateAll = (draft, none) → ∃ full : Draft, full.file = file ∧
        full.imports = [] ∧ full.typingNames = [] ∧ full.blocks.isEmpty = file.entries.isEmpty ∧
        full.addModuleImports.SameHead draft := by
    intro file draft h
    rw [generateAll] at h
    cases hadd : (ofFile file).addEntries (ofFile file).file.entries with
    | mk full refusal =>
        rw [hadd] at h
        cases refusal with
        | some diagnostic => cases h
        | none =>
            cases h
            obtain ⟨classes, hclasses, hextends⟩ := extends_addEntries hadd
            refine ⟨full, hextends.file, hextends.imports, hextends.typingNames, ?_, rfl, rfl, rfl, rfl⟩
            have hlength : file.entries.length = classes.length := hclasses.length_eq
            have hblocks : full.blocks = classes.map WrittenClass.lines := hextends.blocks
            rw [hblocks, Bool.eq_iff_iff, List.isEmpty_iff_length_eq_zero,
              List.isEmpty_iff_length_eq_zero, List.length_map, hlength]
  obtain ⟨full, hfile, himports, htyping, hblocks, hhead⟩ := hfull (Prod.ext rfl h)
  obtain ⟨full', hfile', himports', htyping', hblocks', hhead'⟩ := hfull (Prod.ext rfl h')
  have hstart : full.SameHead full' :=
    ⟨by rw [hfile, hfile', hpath], by rw [hfile, hfile', hcarried], himports.trans himports'.symm,
      htyping.trans htyping'.symm⟩
  have hmiddle := hstart.addModuleImports (hblocks.trans (hentries.trans hblocks'.symm))
  exact ⟨hhead.path.symm.trans (hmiddle.path.trans hhead'.path),
    hhead.carried.symm.trans (hmiddle.carried.trans hhead'.carried),
    hhead.imports.symm.trans (hmiddle.imports.trans hhead'.imports),
    hhead.typingNames.symm.trans (hmiddle.typingNames.trans hhead'.typingNames)⟩

/-- The lines of all class blocks, each behind two empty lines. -/
def blockLines (draft : Draft) : List Text :=
  draft.blocks.flatMap fun block => [] :: [] :: block

theorem render_eq (draft : Draft) :
    draft.render = Source.ended (draft.docstring :: [] :: draft.importLines) ++
      Source.ended draft.blockLines := by
  rw [render, ← Source.ended_append]
  exact Source.joinLines_newline _ _

/-- A module whose classes are those of two others goes on behind the first of
them with the classes of the second. -/
theorem render_append {full before behind : Draft} (hhead : full.SameHead before)
    (hblocks : full.blocks = before.blocks ++ behind.blocks) :
    full.render = before.render ++ Source.ended behind.blockLines := by
  have hlines : full.blockLines = before.blockLines ++ behind.blockLines := by
    rw [blockLines, hblocks, List.flatMap_append]
    rfl
  calc full.render
      = Source.ended (full.docstring :: [] :: full.importLines) ++ Source.ended full.blockLines :=
        render_eq full
    _ = Source.ended (before.docstring :: [] :: before.importLines) ++
          (Source.ended before.blockLines ++ Source.ended behind.blockLines) := by
        rw [hhead.docstring, hhead.importLines, hlines, Source.ended_append]
    _ = before.render ++ Source.ended behind.blockLines := by
        rw [render_eq, List.append_assoc]

end Draft

/-! ## Entries in another order -/

/-- The items of one list stand in the other in this order. -/
def IsOrderedBy {α : Type} {n : Nat} (order : Equiv.Perm (Fin n)) (items ordered : List α) : Prop :=
  items.length = n ∧ ordered.length = n ∧ ∀ i : Fin n, ordered[i.val]? = items[(order i).val]?

theorem IsOrderedBy.map {α β : Type} {n : Nat} {order : Equiv.Perm (Fin n)} {items ordered : List α}
    (h : IsOrderedBy order items ordered) (f : α → β) :
    IsOrderedBy order (items.map f) (ordered.map f) := by
  obtain ⟨hitems, hordered, hplaces⟩ := h
  refine ⟨by rw [List.length_map, hitems], by rw [List.length_map, hordered], fun i => ?_⟩
  rw [List.getElem?_map, List.getElem?_map, hplaces i]

namespace DeclarationFile

/-- The file with its entries in another order. -/
def reordered (file : DeclarationFile) (order : Equiv.Perm (Fin file.entries.length)) :
    DeclarationFile :=
  { file with entries := List.ofFn fun i => file.entries.get (order i) }

/-- The file with other entries. -/
def withEntries (file : DeclarationFile) (entries : List Entry) : DeclarationFile :=
  { file with entries }

variable {file : DeclarationFile} {order : Equiv.Perm (Fin file.entries.length)}

theorem mem_reordered {entry : Entry} :
    entry ∈ (file.reordered order).entries ↔ entry ∈ file.entries := by
  rw [reordered, List.mem_ofFn, List.mem_iff_get]
  constructor
  · rintro ⟨i, rfl⟩
    exact ⟨order i, rfl⟩
  · rintro ⟨i, rfl⟩
    exact ⟨order.symm i, by rw [order.apply_symm_apply]⟩

/-- The classes of the entries in another order are their classes in this
order. -/
theorem isOrderedBy_classes {classes classes' : List WrittenClass}
    (h : List.Forall₂ Entry.IsWrittenAs file.entries classes)
    (h' : List.Forall₂ Entry.IsWrittenAs (file.reordered order).entries classes') :
    IsOrderedBy order classes classes' := by
  have hlength : (file.reordered order).entries.length = file.entries.length := List.length_ofFn
  refine ⟨h.length_eq.symm, h'.length_eq.symm.trans hlength, fun i => ?_⟩
  have hi : i.val < classes'.length := by rw [← h'.length_eq, hlength]; exact i.isLt
  have hplace : (order i).val < classes.length := by rw [← h.length_eq]; exact (order i).isLt
  have hwritten := h.get (order i).isLt hplace
  have hwritten' := h'.get (by rw [hlength]; exact i.isLt) hi
  have hentry : (file.reordered order).entries.get ⟨i.val, by rw [hlength]; exact i.isLt⟩ =
      file.entries.get (order i) := by
    rw [List.get_eq_getElem]
    exact List.getElem_ofFn _
  rw [hentry] at hwritten'
  rw [List.getElem?_eq_getElem hi, List.getElem?_eq_getElem hplace]
  exact congrArg some (hwritten'.unique hwritten)

end DeclarationFile

/-- In another order the entries of a file are accepted alike, and then the
classes and their names come in this order under the same docstring and import
lines. And a module goes on with the classes of the entries behind the first
ones as they are in a module of their own. -/
theorem entries_are_generated_independently (file : DeclarationFile) :
    (∀ order : Equiv.Perm (Fin file.entries.length),
      ((Draft.ofFile (file.reordered order)).generateAll.2 = none ↔
        (Draft.ofFile file).generateAll.2 = none) ∧
      ((Draft.ofFile file).generateAll.2 = none →
        (Draft.ofFile (file.reordered order)).generateAll.1.docstring =
          (Draft.ofFile file).generateAll.1.docstring ∧
        (Draft.ofFile (file.reordered order)).generateAll.1.importLines =
          (Draft.ofFile file).generateAll.1.importLines ∧
        IsOrderedBy order (Draft.ofFile file).generateAll.1.blocks
          (Draft.ofFile (file.reordered order)).generateAll.1.blocks ∧
        IsOrderedBy order (Draft.ofFile file).generateAll.1.typeNames
          (Draft.ofFile (file.reordered order)).generateAll.1.typeNames)) ∧
    ∀ front back : List Entry, front ≠ [] →
      ((Draft.ofFile (file.withEntries (front ++ back))).generateAll.2 = none ↔
        (Draft.ofFile (file.withEntries front)).generateAll.2 = none ∧
          (Draft.ofFile (file.withEntries back)).generateAll.2 = none) ∧
      ((Draft.ofFile (file.withEntries (front ++ back))).generateAll.2 = none →
        (Draft.ofFile (file.withEntries (front ++ back))).generateAll.1.render =
          (Draft.ofFile (file.withEntries front)).generateAll.1.render ++
            Source.ended (Draft.ofFile (file.withEntries back)).generateAll.1.blockLines ∧
        (Draft.ofFile (file.withEntries (front ++ back))).generateAll.1.typeNames =
          (Draft.ofFile (file.withEntries front)).generateAll.1.typeNames ++
            (Draft.ofFile (file.withEntries back)).generateAll.1.typeNames) := by
  constructor
  · intro order
    have haccepted : (Draft.ofFile (file.reordered order)).generateAll.2 = none ↔
        (Draft.ofFile file).generateAll.2 = none := by
      rw [Draft.generateAll_eq_none_iff, Draft.generateAll_eq_none_iff]
      exact forall_congr' fun entry => imp_congr_left DeclarationFile.mem_reordered
    refine ⟨haccepted, fun hnone => ?_⟩
    have hnone' := haccepted.mpr hnone
    obtain ⟨classes, hgenerates⟩ := Draft.exists_generates hnone
    obtain ⟨classes', hgenerates'⟩ := Draft.exists_generates hnone'
    have hordered := DeclarationFile.isOrderedBy_classes hgenerates.entries hgenerates'.entries
    have hempty : (file.reordered order).entries.isEmpty = file.entries.isEmpty := by
      rw [Bool.eq_iff_iff, List.isEmpty_iff_length_eq_zero, List.isEmpty_iff_length_eq_zero]
      exact Eq.congr_left List.length_ofFn
    have hhead := Draft.sameHead_generateAll hnone' hnone rfl rfl hempty
    refine ⟨hhead.docstring, hhead.importLines, ?_, ?_⟩
    · rw [hgenerates.blocks, hgenerates'.blocks]
      exact hordered.map _
    · rw [hgenerates.typeNames, hgenerates'.typeNames]
      exact hordered.map _
  · intro front back hfront
    have haccepted : (Draft.ofFile (file.withEntries (front ++ back))).generateAll.2 = none ↔
        (Draft.ofFile (file.withEntries front)).generateAll.2 = none ∧
          (Draft.ofFile (file.withEntries back)).generateAll.2 = none := by
      rw [Draft.generateAll_eq_none_iff, Draft.generateAll_eq_none_iff,
        Draft.generateAll_eq_none_iff]
      exact List.forall_mem_append
    refine ⟨haccepted, fun hnone => ?_⟩
    obtain ⟨hfirst, hlast⟩ := haccepted.mp hnone
    obtain ⟨classes, hgenerates⟩ := Draft.exists_generates hnone
    obtain ⟨before, hbefore⟩ := Draft.exists_generates hfirst
    obtain ⟨behind, hbehind⟩ := Draft.exists_generates hlast
    -- an entry is written in one way only, in whichever file it stands
    have hclasses : classes = before ++ behind := by
      have hunique : Relator.RightUnique Entry.IsWrittenAs := fun _ _ _ => Entry.IsWrittenAs.unique
      exact List.right_unique_forall₂' hunique hgenerates.entries
        (List.rel_append hbefore.entries hbehind.entries)
    have hempty : (file.withEntries (front ++ back)).entries.isEmpty =
        (file.withEntries front).entries.isEmpty := by
      cases front with
      | nil => exact absurd rfl hfront
      | cons first rest => rfl
    have hhead := Draft.sameHead_generateAll hnone hfirst rfl rfl hempty
    constructor
    · apply Draft.render_append hhead
      rw [hgenerates.blocks, hbefore.blocks, hbehind.blocks, hclasses, List.map_append]
    · rw [hgenerates.typeNames, hbefore.typeNames, hbehind.typeNames, hclasses, List.map_append]

def toolEntry : Entry :=
  .declaration { name := "ToolMessage", fields := [⟨"tool_call_id", "str"⟩, ⟨baseField, baseRecord⟩] }

/-- A file with a record and, behind it, a definition. -/
def chatFile : DeclarationFile :=
  { path := "chat.py", entries := [toolEntry, .definition { category := "Human" }] }

theorem chat_entries_are_generated_independently :
    let order : Equiv.Perm (Fin chatFile.entries.length) :=
      Equiv.swap ⟨0, by decide⟩ ⟨1, by decide⟩
    (Draft.ofFile (chatFile.reordered order)).generateAll.2 = none ∧
    IsOrderedBy order (Draft.ofFile chatFile).generateAll.1.typeNames
      (Draft.ofFile (chatFile.reordered order)).generateAll.1.typeNames ∧
    (Draft.ofFile chatFile).generateAll.1.typeNames = ["ToolMessage", "HumanMessage"] ∧
    (Draft.ofFile chatFile).generateAll.1.render =
      (Draft.ofFile (chatFile.withEntries [toolEntry])).generateAll.1.render ++
        Source.ended (Draft.ofFile (chatFile.withEntries
          [.definition { category := "Human" }])).generateAll.1.blockLines := by
  intro order
  have haccepted : (Draft.ofFile chatFile).generateAll.2 = none := by decide +kernel
  obtain ⟨horders, hsplits⟩ := entries_are_generated_independently chatFile
  obtain ⟨hagree, hordered⟩ := horders order
  obtain ⟨-, hsplit⟩ := hsplits [toolEntry] [.definition { category := "Human" }] (by simp)
  exact ⟨hagree.mpr haccepted, (hordered haccepted).2.2.2, by decide +kernel, (hsplit haccepted).1⟩

end MessageForge
