import MessageForge.Proofs.Independence
import MessageForge.Proofs.Selections

/-!
# Histories of drafts

A draft is worked on in steps of any kind and number, each of which may be
refused. What a step adds can be told beforehand: import lines, names from the
typing module and classes. The draft behind a history is nothing but the log of
what its steps have added, and a step that is refused has added nothing, or
just the classes that stand before the refused entry.
-/

namespace MessageForge

open Vocabulary

/-! ## Classes of entries -/

namespace Entry

/-- The class that an entry is written as, if it is accepted. -/
def written? : Entry → Option WrittenClass
  | .declaration d => d.derive.toOption.map fun derivation => ⟨derivation, d.name⟩
  | .definition d => (Category.normalize d.category).toOption.map fun category =>
      ⟨bareDerivation category, Category.typeName d.category⟩

theorem written?_eq_some_iff {entry : Entry} {written : WrittenClass} :
    entry.written? = some written ↔ entry.IsWrittenAs written := by
  constructor
  · intro h
    cases entry with
    | declaration declaration =>
        cases hderive : declaration.derive with
        | error diagnostic => simp [written?, hderive, Except.toOption] at h
        | ok derivation =>
            simp only [written?, hderive, Except.toOption, Option.map_some, Option.some.injEq] at h
            exact h ▸ .declaration hderive
    | definition definition =>
        cases hnormal : Category.normalize definition.category with
        | error complaint => simp [written?, hnormal, Except.toOption] at h
        | ok category =>
            simp only [written?, hnormal, Except.toOption, Option.map_some, Option.some.injEq] at h
            exact h ▸ .definition hnormal
  · intro h
    cases h with
    | declaration hderive => rw [written?, hderive]; rfl
    | definition hnormal => rw [written?, hnormal]; rfl

end Entry

/-- The classes of the entries before the first that is refused. -/
def acceptedClasses : List Entry → List WrittenClass
  | [] => []
  | entry :: rest =>
      match entry.written? with
      | some written => written :: acceptedClasses rest
      | none => []

namespace Draft

/-! ## Steps -/

/-- What can be done to a draft. -/
inductive Step where
  | declare (declaration : Declaration)
  | define (definition : Definition)
  | generate
  | addImport (line : Text)
  | addTypingName (name : Text)
  | render

/-- What a step comes to. -/
inductive Answer where
  | done
  | refused (diagnostic : Diagnostic)
  | text (text : Text)
  deriving DecidableEq, Repr

/-- A refused attempt leaves the draft. -/
def attempt (draft : Draft) : Except Diagnostic Draft → Draft × Answer
  | .ok next => (next, .done)
  | .error diagnostic => (draft, .refused diagnostic)

def take (draft : Draft) : Step → Draft × Answer
  | .declare d => draft.attempt (draft.addDeclaration d)
  | .define d => draft.attempt (draft.addDefinition d)
  | .generate =>
      match draft.generateAll with
      | (after, none) => (after, .done)
      | (after, some diagnostic) => (after, .refused diagnostic)
  | .addImport line => (draft.addImport line, .done)
  | .addTypingName name => (draft.addTypingName name, .done)
  | .render => (draft, .text draft.render)

/-- The draft behind steps, whether they are refused or not. -/
def takeAll (draft : Draft) (steps : List Step) : Draft :=
  steps.foldl (fun draft step => (draft.take step).1) draft

end Draft

/-- The step that adds just this entry. -/
def Entry.step : Entry → Draft.Step
  | .declaration d => .declare d
  | .definition d => .define d

namespace Draft

theorem take_step (draft : Draft) (entry : Entry) :
    draft.take entry.step = draft.attempt (draft.addEntry entry) := by
  cases entry <;> rfl

/-! ## What steps add -/

/-- What steps have added, each kind in its order. -/
structure Additions where
  lines : List Text := []
  names : List Text := []
  classes : List WrittenClass := []

def Additions.append (first second : Additions) : Additions where
  lines := first.lines ++ second.lines
  names := first.names ++ second.names
  classes := first.classes ++ second.classes

instance : Append Additions :=
  ⟨Additions.append⟩

/-- The import lines that the classes of a module need, then those carried
over. -/
def moduleLines (file : DeclarationFile) : List Text :=
  "from dataclasses import dataclass" ::
    ("from " ++ runtimeModule ++ " import " ++ baseRecord ++ ", " ++ messageTypeEnum) ::
    file.imports

/-- What a step adds. A module gets its imports when all of its entries are
accepted and there is a class at all. -/
def Step.additions (draft : Draft) : Step → Additions
  | .declare d => { classes := acceptedClasses [.declaration d] }
  | .define d => { classes := acceptedClasses [.definition d] }
  | .generate =>
      let classes := acceptedClasses draft.file.entries
      if classes.length = draft.file.entries.length ∧ draft.blocks.length + classes.length ≠ 0 then
        { lines := moduleLines draft.file, names := ["Self"], classes }
      else { classes }
  | .addImport line => { lines := [line] }
  | .addTypingName name => { names := [name] }
  | .render => {}

/-- What a history adds to a draft. -/
def additions (draft : Draft) : List Step → Additions
  | [] => {}
  | step :: rest => step.additions draft ++ additions (draft.take step).1 rest

/-- The next draft has more of each kind, where lines and names count when they
are added first, and nothing else has changed that is rendered. -/
structure Adds (draft next : Draft) (added : Additions) : Prop where
  file : next.file = draft.file
  -- told for every list of additions that leaves the same lines, so that two steps compose
  imports : ∀ given : List Text, draft.imports = given.eraseDups →
    next.imports = (given ++ added.lines).eraseDups
  typingNames : ∀ given : List Text, draft.typingNames = given.eraseDups →
    next.typingNames = (given ++ added.names).eraseDups
  blocks : next.blocks = draft.blocks ++ added.classes.map WrittenClass.lines
  typeNames : next.typeNames = draft.typeNames ++ added.classes.map WrittenClass.listed

theorem Adds.trans {first second third : Draft} {front back : Additions}
    (h : first.Adds second front) (h' : second.Adds third back) :
    first.Adds third (front ++ back) where
  file := h'.file.trans h.file
  imports given hgiven := by
    rw [h'.imports _ (h.imports given hgiven), List.append_assoc]
    rfl
  typingNames given hgiven := by
    rw [h'.typingNames _ (h.typingNames given hgiven), List.append_assoc]
    rfl
  blocks := by
    rw [h'.blocks, h.blocks, List.append_assoc, ← List.map_append]
    rfl
  typeNames := by
    rw [h'.typeNames, h.typeNames, List.append_assoc, ← List.map_append]
    rfl

theorem Extends.adds {draft next : Draft} {classes : List WrittenClass}
    (h : draft.Extends next classes) : draft.Adds next { classes } where
  file := h.file
  imports given hgiven := by rw [h.imports, hgiven, List.append_nil]
  typingNames given hgiven := by rw [h.typingNames, hgiven, List.append_nil]
  blocks := h.blocks
  typeNames := h.typeNames

theorem Adds.refl (draft : Draft) : draft.Adds draft {} :=
  (Extends.refl draft).adds

/-- What is added again does not count. -/
theorem eraseDups_concat (given : List Text) (new : Text) :
    (given ++ [new]).eraseDups =
      if given.eraseDups.contains new then given.eraseDups else given.eraseDups ++ [new] := by
  rw [List.eraseDups_append]
  by_cases h : new ∈ given
  · rw [if_pos (List.contains_iff_mem.mpr (List.mem_eraseDups.mpr h))]
    simp [List.removeAll, h]
  · rw [if_neg fun hmem => h (List.mem_eraseDups.mp (List.contains_iff_mem.mp hmem))]
    simp [List.removeAll, h, List.eraseDups_cons]

theorem adds_addImport (draft : Draft) (line : Text) :
    draft.Adds (draft.addImport line) { lines := [line] } where
  file := (keepsClasses_addImport draft line).file
  imports given hgiven := by
    rw [eraseDups_concat, addImport, ← hgiven]
    split <;> rfl
  typingNames given hgiven := by rw [typingNames_addImport, hgiven, List.append_nil]
  blocks := by rw [(keepsClasses_addImport draft line).blocks]; exact (List.append_nil _).symm
  typeNames := by rw [(keepsClasses_addImport draft line).typeNames]; exact (List.append_nil _).symm

theorem adds_addTypingName (draft : Draft) (name : Text) :
    draft.Adds (draft.addTypingName name) { names := [name] } where
  file := (keepsClasses_addTypingName draft name).file
  imports given hgiven := by rw [imports_addTypingName, hgiven, List.append_nil]
  typingNames given hgiven := by
    rw [eraseDups_concat, addTypingName, ← hgiven]
    split <;> rfl
  blocks := by rw [(keepsClasses_addTypingName draft name).blocks]; exact (List.append_nil _).symm
  typeNames := by
    rw [(keepsClasses_addTypingName draft name).typeNames]
    exact (List.append_nil _).symm

theorem adds_addImports (lines : List Text) (draft : Draft) :
    draft.Adds (draft.addImports lines) { lines } := by
  induction lines generalizing draft with
  | nil => exact .refl draft
  | cons line rest ih => exact (adds_addImport draft line).trans (ih (draft.addImport line))

/-! ## Entries in a row -/

theorem addEntry_eq_ok_iff {draft : Draft} {entry : Entry} :
    (∃ next, draft.addEntry entry = .ok next) ↔ entry.written?.isSome = true := by
  rw [Option.isSome_iff_exists]
  constructor
  · rintro ⟨next, hnext⟩
    obtain ⟨written, hwritten, -⟩ := extends_addEntry hnext
    exact ⟨written, Entry.written?_eq_some_iff.mpr hwritten⟩
  · rintro ⟨written, hwritten⟩
    exact exists_addEntry (Entry.written?_eq_some_iff.mp hwritten) draft

/-- Entries add their classes up to the first that is refused. -/
theorem extends_acceptedClasses (entries : List Entry) (draft : Draft) :
    draft.Extends (draft.addEntries entries).1 (acceptedClasses entries) ∧
      ((draft.addEntries entries).2 = none ↔
        (acceptedClasses entries).length = entries.length) := by
  induction entries generalizing draft with
  | nil => exact ⟨.refl draft, iff_of_true rfl rfl⟩
  | cons entry rest ih =>
      rw [addEntries, acceptedClasses]
      cases hadd : draft.addEntry entry with
      | ok next =>
          obtain ⟨written, hwritten, hnext⟩ := extends_addEntry hadd
          obtain ⟨hrest, hnone⟩ := ih next
          rw [Entry.written?_eq_some_iff.mpr hwritten]
          exact ⟨hnext.trans hrest, hnone.trans (Nat.succ_inj).symm⟩
      | error diagnostic =>
          -- both lists end here, and the rest of the entries is not counted
          have hrefused : ¬ ∃ next, draft.addEntry entry = .ok next := by
            rintro ⟨next, hnext⟩
            rw [hadd] at hnext
            cases hnext
          rw [addEntry_eq_ok_iff, Option.not_isSome_iff_eq_none] at hrefused
          rw [hrefused]
          exact ⟨.refl draft, iff_of_false (Option.some_ne_none _) (Nat.succ_ne_zero _).symm⟩

/-- A refusal is that of the first entry that is refused, behind the classes of
those before it. -/
theorem addEntries_eq_some {entries : List Entry} {draft after : Draft} {diagnostic : Diagnostic}
    (h : draft.addEntries entries = (after, some diagnostic)) :
    ∃ before entry behind, entries = before ++ entry :: behind ∧
      draft.addEntries before = (after, none) ∧ after.addEntry entry = .error diagnostic := by
  induction entries generalizing draft with
  | nil => cases h
  | cons entry rest ih =>
      rw [addEntries] at h
      cases hadd : draft.addEntry entry with
      | error refusal =>
          rw [hadd] at h
          cases h
          exact ⟨[], entry, rest, rfl, rfl, hadd⟩
      | ok next =>
          rw [hadd] at h
          obtain ⟨before, refused, behind, rfl, hbefore, hrefused⟩ := ih h
          refine ⟨entry :: before, refused, behind, rfl, ?_, hrefused⟩
          rw [addEntries, hadd]
          exact hbefore

/-- Entries that are all accepted can be added one by one. -/
theorem takeAll_steps {entries : List Entry} {draft after : Draft}
    (h : draft.addEntries entries = (after, none)) :
    draft.takeAll (entries.map Entry.step) = after := by
  induction entries generalizing draft with
  | nil => cases h; rfl
  | cons entry rest ih =>
      rw [addEntries] at h
      rw [List.map_cons, takeAll, List.foldl_cons, take_step]
      cases hadd : draft.addEntry entry with
      | error refusal => rw [hadd] at h; cases h
      | ok next => rw [hadd] at h; exact ih h

/-! ## Steps and histories -/

theorem adds_addModuleImports {draft : Draft} (h : draft.blocks ≠ []) :
    draft.Adds draft.addModuleImports { lines := moduleLines draft.file, names := ["Self"] } := by
  have hblocks : draft.blocks.isEmpty = false := by simpa using h
  rw [addModuleImports, hblocks]
  exact (((adds_addImport draft _).trans (adds_addTypingName _ _)).trans (adds_addImport _ _)).trans
    (adds_addImports _ _)

theorem Adds.report {draft next : Draft} {added : Additions} (h : draft.Adds next added)
    (events : List Event) : draft.Adds (next.report events) added :=
  ⟨h.file, h.imports, h.typingNames, h.blocks, h.typeNames⟩

theorem adds_generateAll (draft : Draft) :
    draft.Adds draft.generateAll.1 (Step.generate.additions draft) := by
  obtain ⟨hclasses, hnone⟩ := extends_acceptedClasses draft.file.entries draft
  rw [generateAll, Step.additions]
  cases hadd : draft.addEntries draft.file.entries with
  | mk full refusal =>
      rw [hadd] at hclasses hnone
      cases refusal with
      | some diagnostic =>
          have hpartly : (acceptedClasses draft.file.entries).length ≠ draft.file.entries.length :=
            fun hlength => Option.some_ne_none _ (hnone.mpr hlength)
          rw [if_neg fun hall => hpartly hall.1]
          exact hclasses.adds
      | none =>
          have hlength := hnone.mp rfl
          have hblocks : full.blocks.length =
              draft.blocks.length + (acceptedClasses draft.file.entries).length := by
            rw [hclasses.blocks, List.length_append, List.length_map]
          -- a module without any class gets no imports, so that nothing is added to it
          by_cases hempty : full.blocks = []
          · have himports : full.addModuleImports = full := by
              rw [addModuleImports, hempty]
              rfl
            rw [if_neg fun hall => hall.2 (by rw [← hblocks, hempty]; rfl)]
            dsimp only
            rw [himports]
            exact hclasses.adds.report _
          · rw [if_pos ⟨hlength, fun hzero => hempty (List.eq_nil_of_length_eq_zero
              (hblocks.trans hzero))⟩]
            have hall := (hclasses.adds.trans (adds_addModuleImports hempty)).report
              [.generated full.addModuleImports.blocks.length full.addModuleImports.fileName]
            rw [hclasses.file] at hall
            have hsum : ({ classes := acceptedClasses draft.file.entries } : Additions) ++
                { lines := moduleLines draft.file, names := ["Self"] } =
                { lines := moduleLines draft.file, names := ["Self"],
                  classes := acceptedClasses draft.file.entries } := by
              show Additions.append _ _ = _
              rw [Additions.append, List.append_nil]
              rfl
            rw [hsum] at hall
            exact hall

theorem adds_attempt (draft : Draft) (entry : Entry) :
    draft.Adds (draft.attempt (draft.addEntry entry)).1 { classes := acceptedClasses [entry] } := by
  have hclasses := (extends_acceptedClasses [entry] draft).1
  rw [addEntries] at hclasses
  cases hadd : draft.addEntry entry with
  | ok next => rw [hadd] at hclasses; exact hclasses.adds
  | error diagnostic => rw [hadd] at hclasses; exact hclasses.adds

theorem adds_take (draft : Draft) (step : Step) :
    draft.Adds (draft.take step).1 (step.additions draft) := by
  cases step with
  | declare declaration => exact adds_attempt draft (.declaration declaration)
  | define definition => exact adds_attempt draft (.definition definition)
  | generate =>
      have hall := adds_generateAll draft
      rw [take]
      cases hdraft : draft.generateAll with
      | mk after refusal =>
          rw [hdraft] at hall
          cases refusal <;> exact hall
  | addImport line => exact adds_addImport draft line
  | addTypingName name => exact adds_addTypingName draft name
  | render => exact .refl draft

theorem adds_takeAll (steps : List Step) (draft : Draft) :
    draft.Adds (draft.takeAll steps) (draft.additions steps) := by
  induction steps generalizing draft with
  | nil => exact .refl draft
  | cons step rest ih => exact (adds_take draft step).trans (ih (draft.take step).1)

/-! ## What a draft shows of its history -/

/-- The draft shows what has been added to it: import lines and names once
each, the names in order behind the lines, and all classes. -/
structure Shows (draft : Draft) (added : Additions) : Prop where
  importLines : ∃ names : List Text, names.Nodup ∧
    names.Pairwise (fun first second => Text.le first second = true) ∧
    (∀ name, name ∈ names ↔ name ∈ added.names ∧ name ≠ []) ∧
    draft.importLines =
      ("from __future__ import annotations" : Text) :: (added.lines.eraseDups ++
        if added.names = [] then [] else
          [("from typing import " : Text) ++ Text.join ", " names])
  blocks : draft.blocks = added.classes.map WrittenClass.lines
  typeNames : draft.typeNames = added.classes.map WrittenClass.listed

theorem Adds.shows {file : DeclarationFile} {draft : Draft} {added : Additions}
    (h : (ofFile file).Adds draft added) : draft.Shows added where
  importLines := by
    have himports : draft.imports = added.lines.eraseDups := h.imports [] rfl
    have hnames : draft.typingNames = added.names.eraseDups := h.typingNames [] rfl
    have hempty : added.names = [] ↔ draft.typingNames.isEmpty = true := by
      rw [List.isEmpty_iff, hnames, List.eq_nil_iff_forall_not_mem, List.eq_nil_iff_forall_not_mem]
      exact forall_congr' fun name => not_congr List.mem_eraseDups.symm
    refine ⟨(sortedSet draft.typingNames).filter (!·.isEmpty), (nodup_sortedSet _).filter _,
      (pairwise_sortedSet _).filter _, fun name => ?_, ?_⟩
    · rw [List.mem_filter, mem_sortedSet, hnames, List.mem_eraseDups]
      simp
    · rw [Draft.importLines, himports]
      simp only [hempty]
      rfl
  blocks := h.blocks
  typeNames := h.typeNames

/-- A step that adds an entry and is refused leaves the draft. -/
theorem take_refused {draft after : Draft} {entry : Entry} {diagnostic : Diagnostic}
    (h : draft.take entry.step = (after, .refused diagnostic)) : after = draft := by
  rw [take_step] at h
  cases hadd : draft.addEntry entry with
  | ok next => rw [hadd] at h; cases h
  | error refusal => rw [hadd] at h; cases h; rfl

/-- A generation that is refused has added the entries before the refused one,
and no import. -/
theorem take_generate_refused {draft after : Draft} {diagnostic : Diagnostic}
    (h : draft.take .generate = (after, .refused diagnostic)) :
    ∃ before entry behind, draft.file.entries = before ++ entry :: behind ∧
      (∀ accepted ∈ before, ∃ written, accepted.IsWrittenAs written) ∧
      draft.takeAll (before.map Entry.step) = after ∧
      after.take entry.step = (after, .refused diagnostic) ∧
      after.importLines = draft.importLines := by
  rw [take] at h
  cases hdraft : draft.generateAll with
  | mk full refusal =>
      rw [hdraft] at h
      cases refusal with
      | none => cases h
      | some refused =>
          cases h
          rw [generateAll] at hdraft
          cases hadd : draft.addEntries draft.file.entries with
          | mk partly refusal =>
              rw [hadd] at hdraft
              cases refusal with
              | none => cases hdraft
              | some _ =>
                  cases hdraft
                  obtain ⟨before, entry, behind, hentries, hbefore, hrefused⟩ :=
                    addEntries_eq_some hadd
                  obtain ⟨classes, hclasses, hextends⟩ := extends_addEntries hbefore
                  refine ⟨before, entry, behind, hentries, ?_, takeAll_steps hbefore, ?_, ?_⟩
                  · exact (addEntries_eq_none_iff draft).mp (by rw [hbefore])
                  · rw [take_step, hrefused]
                    rfl
                  · rw [importLines, importLines, hextends.imports, hextends.typingNames]

/-- Whatever is done to a draft, refused or not, it shows just what has been
added to it, with as many names as classes. A refused entry leaves it, a refused
generation leaves it as the entries before the refused one do one by one, and
the text of the module is read off it: the docstring, an empty line, the imports
and each class behind two empty lines. -/
theorem draft_shows_history (file : DeclarationFile) (steps : List Step) :
    ((ofFile file).takeAll steps).Shows ((ofFile file).additions steps) ∧
    ((ofFile file).takeAll steps).typeNames.length =
      ((ofFile file).takeAll steps).blocks.length ∧
    (∀ entry after diagnostic,
      ((ofFile file).takeAll steps).take (Entry.step entry) = (after, .refused diagnostic) →
        after = (ofFile file).takeAll steps) ∧
    (∀ after diagnostic,
      ((ofFile file).takeAll steps).take .generate = (after, .refused diagnostic) →
        ∃ before entry behind, file.entries = before ++ entry :: behind ∧
          (∀ accepted ∈ before, ∃ written, accepted.IsWrittenAs written) ∧
          (ofFile file).takeAll (steps ++ before.map Entry.step) = after ∧
          after.take entry.step = (after, .refused diagnostic) ∧
          after.importLines = ((ofFile file).takeAll steps).importLines) ∧
    ((ofFile file).takeAll steps).take .render = ((ofFile file).takeAll steps,
      .text (Source.ended ((ofFile file).docstring :: [] ::
        ((ofFile file).takeAll steps).importLines ++
          ((ofFile file).takeAll steps).blocks.flatMap fun block => [] :: [] :: block))) := by
  have hadds := adds_takeAll steps (ofFile file)
  have hshows := hadds.shows
  refine ⟨hshows, ?_, fun entry after diagnostic => take_refused, fun after diagnostic h => ?_, ?_⟩
  · rw [hshows.blocks, hshows.typeNames, List.length_map, List.length_map]
  · obtain ⟨before, entry, behind, hentries, haccepted, hbefore, hrefused, himports⟩ :=
      take_generate_refused h
    rw [hadds.file] at hentries
    refine ⟨before, entry, behind, hentries, haccepted, ?_, hrefused, himports⟩
    rw [takeAll, List.foldl_append]
    exact hbefore
  · have hdocstring : ((ofFile file).takeAll steps).docstring = (ofFile file).docstring := by
      unfold docstring fileName
      rw [hadds.file]
    rw [take, render_eq, ← Source.ended_append, hdocstring]
    rfl

end Draft

end MessageForge
