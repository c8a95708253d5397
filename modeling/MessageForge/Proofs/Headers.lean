import MessageForge.Proofs.Contributions
import MessageForge.Proofs.DraftHistories

/-!
# Headers of classes

A draft keeps a list of names beside its classes. The header of a class has the
name that its category means, while the list has the name that the category is
spelled with, so that the two agree just if the categories of all definitions
are spelled plainly. Whatever is read from a file is.
-/

namespace MessageForge

/-! ## Names in headers -/

/-- The name in the header of a class, which stands behind the decorator. -/
def headerName? : List Text → Option Text
  | _ :: header :: _ => (Text.stripPrefix? "class " header).map (Text.dropSuffix ":")
  | _ => none

theorem headerName?_lines (written : WrittenClass) :
    headerName? written.lines = some written.name := by
  have hheader : Text.stripPrefix? "class " (Code.classHeader written.name []) =
      some (written.name ++ ":") :=
    (congrArg _ (List.append_assoc _ _ _)).trans (Text.stripPrefix?_append _ _)
  rw [WrittenClass.lines, classLines, headerName?]
  exact (congrArg _ hheader).trans (congrArg some (Text.dropSuffix_append _ _))

theorem map_headerName?_lines (classes : List WrittenClass) :
    (classes.map WrittenClass.lines).map headerName? = (classes.map WrittenClass.name).map some := by
  rw [List.map_map, List.map_map]
  exact List.map_congr_left fun written _ => headerName?_lines written

namespace Entry

/-- The name that the class of an entry has in its header. -/
def headerName : Entry → Text
  | .declaration d => d.name
  | .definition d => Category.typeName (Category.meant d.category)

/-- A definition that gives the member itself, neither qualified nor between blanks. -/
def IsPlain : Entry → Prop
  | .declaration _ => True
  | .definition d => Category.meant d.category = d.category

theorem className_eq_headerName_iff {entry : Entry} :
    entry.className = entry.headerName ↔ entry.IsPlain := by
  cases entry with
  | declaration declaration => exact iff_of_true rfl trivial
  | definition definition =>
      exact ⟨fun h => (List.append_cancel_right h).symm, fun h => congrArg Category.typeName h.symm⟩

/-- What is read from a file is spelled plainly. -/
theorem isPlain_of_parseDeclarations {characters : Source.CharacterNames} {text source : Text}
    {file : DeclarationFile} (h : Source.parseDeclarations characters text source = .ok file)
    {entry : Entry} (hentry : entry ∈ file.entries) : entry.IsPlain := by
  obtain ⟨statements, -, hfile⟩ := Source.isFileOf_parseDeclarations h
  cases entry with
  | declaration declaration => trivial
  | definition definition =>
      exact (Category.normalize_eq_ok_iff.mp (hfile.definitions definition hentry)).2.symm

theorem IsWrittenAs.listed_eq {entry : Entry} {written : WrittenClass}
    (h : entry.IsWrittenAs written) : written.listed = entry.className := by
  cases h <;> rfl

theorem IsWrittenAs.name_eq {entry : Entry} {written : WrittenClass}
    (h : entry.IsWrittenAs written) : written.name = entry.headerName := by
  cases h with
  | declaration hderive =>
      exact congrArg Declaration.name (Declaration.derive_eq_ok_iff.mp hderive).2.2.2.1
  | definition hnormal =>
      exact congrArg Category.typeName (Category.normalize_eq_ok_iff.mp hnormal).2

end Entry

theorem map_listed_eq {entries : List Entry} {classes : List WrittenClass}
    (h : List.Forall₂ Entry.IsWrittenAs entries classes) :
    classes.map WrittenClass.listed = entries.map Entry.className := by
  induction h with
  | nil => rfl
  | cons hfirst _ ih => rw [List.map_cons, List.map_cons, hfirst.listed_eq, ih]

theorem map_name_eq {entries : List Entry} {classes : List WrittenClass}
    (h : List.Forall₂ Entry.IsWrittenAs entries classes) :
    classes.map WrittenClass.name = entries.map Entry.headerName := by
  induction h with
  | nil => rfl
  | cons hfirst _ ih => rw [List.map_cons, List.map_cons, hfirst.name_eq, ih]

/-! ## Accepted entries -/

/-- The entries before the first that is refused. -/
def acceptedEntries (entries : List Entry) : List Entry :=
  entries.takeWhile (·.written?.isSome)

/-- Every accepted entry has its class. -/
theorem forall₂_acceptedClasses (entries : List Entry) :
    List.Forall₂ Entry.IsWrittenAs (acceptedEntries entries) (acceptedClasses entries) := by
  induction entries with
  | nil => exact .nil
  | cons entry rest ih =>
      cases hwritten : entry.written? with
      | none => simp [acceptedEntries, acceptedClasses, hwritten]
      | some written =>
          rw [acceptedEntries, List.takeWhile_cons, hwritten, acceptedClasses, hwritten]
          exact .cons (Entry.written?_eq_some_iff.mp hwritten) ih

namespace Draft

/-- The entries that a step adds classes for. -/
def Step.handled (file : DeclarationFile) : Step → List Entry
  | .declare d => acceptedEntries [.declaration d]
  | .define d => acceptedEntries [.definition d]
  | .generate => acceptedEntries file.entries
  | _ => []

theorem forall₂_additions (steps : List Step) (draft : Draft) :
    List.Forall₂ Entry.IsWrittenAs (steps.flatMap (Step.handled draft.file))
      (draft.additions steps).classes := by
  induction steps generalizing draft with
  | nil => exact .nil
  | cons step rest ih =>
      have hrest := ih (draft.take step).1
      -- no step changes the file, so that all steps handle entries of the same one
      rw [(adds_take draft step).file] at hrest
      have hstep : List.Forall₂ Entry.IsWrittenAs (step.handled draft.file)
          (step.additions draft).classes := by
        cases step with
        | declare declaration => exact forall₂_acceptedClasses _
        | define definition => exact forall₂_acceptedClasses _
        | generate =>
            rw [Step.additions]
            split <;> exact forall₂_acceptedClasses _
        | _ => exact .nil
      exact List.rel_append hstep hrest

/-- Whatever is done to a draft, its classes are headed by the names that the
accepted entries mean, and listed under the names that they are spelled with.
Class by class the two are the same just if the entry is spelled plainly. -/
theorem listed_names_are_headers_iff (file : DeclarationFile) (steps : List Step) :
    ((ofFile file).takeAll steps).blocks.map headerName? =
      (steps.flatMap (Step.handled file)).map (fun entry => some entry.headerName) ∧
    ((ofFile file).takeAll steps).typeNames =
      (steps.flatMap (Step.handled file)).map Entry.className ∧
    (∀ i : Nat, (((ofFile file).takeAll steps).typeNames[i]? =
        (((ofFile file).takeAll steps).blocks[i]?).bind headerName? ↔
      ∀ entry, (steps.flatMap (Step.handled file))[i]? = some entry → entry.IsPlain)) ∧
    (((ofFile file).takeAll steps).blocks.map headerName? =
        ((ofFile file).takeAll steps).typeNames.map some ↔
      ∀ entry ∈ steps.flatMap (Step.handled file), entry.IsPlain) := by
  have hadds := adds_takeAll steps (ofFile file)
  have hclasses := forall₂_additions steps (ofFile file)
  have hblocks : ((ofFile file).takeAll steps).blocks.map headerName? =
      (steps.flatMap (Step.handled file)).map (fun entry => some entry.headerName) := by
    rw [hadds.shows.blocks, map_headerName?_lines, map_name_eq hclasses, List.map_map]
    rfl
  have htypeNames : ((ofFile file).takeAll steps).typeNames =
      (steps.flatMap (Step.handled file)).map Entry.className :=
    hadds.shows.typeNames.trans (map_listed_eq hclasses)
  refine ⟨hblocks, htypeNames, fun i => ?_, ?_⟩
  · have hblock := congrArg (·[i]?) hblocks
    simp only [List.getElem?_map] at hblock
    rw [htypeNames, List.getElem?_map]
    cases hentry : (steps.flatMap (Step.handled file))[i]? with
    | none =>
        rw [hentry, Option.map_none, Option.map_eq_none_iff] at hblock
        rw [hblock]
        exact iff_of_true rfl nofun
    | some entry =>
        rw [hentry, Option.map_some, Option.map_eq_some_iff] at hblock
        obtain ⟨block, hmem, hheader⟩ := hblock
        rw [hmem, Option.map_some, Option.bind_some, hheader, Option.some_inj,
          Entry.className_eq_headerName_iff]
        exact ⟨fun hplain _ heq => Option.some.inj heq ▸ hplain, fun h => h entry rfl⟩
  · rw [hblocks, htypeNames, List.map_map, List.map_inj_left]
    refine forall₂_congr fun entry _ => ?_
    rw [← Entry.className_eq_headerName_iff, Function.comp_apply, Option.some_inj, eq_comm]

example :
    let draft := (ofFile { path := "test_messages.py", imports := [], entries := [] }).takeAll
      [.define { category := "MessageType.System" }]
    draft.typeNames = ["MessageType.SystemMessage"] ∧
      draft.blocks.map headerName? = [some ("SystemMessage" : Text)] := by decide

end Draft

end MessageForge
