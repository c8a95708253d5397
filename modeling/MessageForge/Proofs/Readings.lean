import MessageForge.Proofs.Layouts

/-!
# Readings

A run reads the files that it has selected, and those that declare messages
reach the writing phase with the drafts of their modules. What the run changes
after its clean phase is settled by where these modules are placed.
-/

namespace MessageForge

open Job

variable {setting : Setting} {options : Options} {disk : Disk} {path : Text} {draft : Draft}

/-! ## Files that are read -/

theorem Disk.isFileAt_of_read {root : Text} {content : Bytes} (h : disk.read root path = .ok content) :
    ∃ location, disk.IsFileAt root path location := by
  obtain ⟨location, hlocate, h⟩ := bind_eq_ok_iff.mp h
  refine ⟨location, hlocate, ?_⟩
  split at h
  · cases h
  · cases h
  · next content hitem => exact ⟨content, hitem⟩

theorem Disk.isFileAt_of_isFile {root : Text} (h : disk.isFile root path = true) :
    ∃ location, disk.IsFileAt root path location := by
  rw [isFile] at h
  split at h
  · next content hfind =>
      rw [find?] at hfind
      split at hfind
      · next location hlocate => exact ⟨location, hlocate, content, hfind⟩
      · cases hfind
  · cases h

theorem Schema.isFile_of_compileFile {compiler : Schema.Compiler} {root : Text}
    {importPaths : List Text} {schema : Schema.CompiledSchema}
    (h : compileFile compiler disk root importPaths path = .ok schema) :
    disk.isFile root path = true := by
  rw [compileFile] at h
  split at h
  · cases h
  · next hfile => simpa using hfile

/-- Only files are read. -/
theorem isFileAt_of_readDeclarations {importPaths : List Text} {file : DeclarationFile}
    {before after : Workspace}
    (h : (readDeclarations setting importPaths path).run before = (.ok file, after)) :
    ∃ location, before.disk.IsFileAt setting.root path location := by
  rw [readDeclarations] at h
  split at h
  · rw [readSchema, run_bind_ok _ (run_disk before)] at h
    obtain ⟨schema, between, hcompile, -⟩ := run_bind_eq_ok h
    exact Disk.isFileAt_of_isFile (Schema.isFile_of_compileFile (run_ofResult_eq_ok hcompile).1)
  · rw [readSource, run_bind_ok _ (run_disk before)] at h
    obtain ⟨content, between, hcontent, -⟩ := run_bind_eq_ok h
    exact Disk.isFileAt_of_read (run_ofFile_eq_ok hcontent).1

/-- A file holds declarations of messages, from which a module is drafted. -/
def Declares (setting : Setting) (options : Options) (disk : Disk) (path : Text) (draft : Draft) :
    Prop :=
  draftOutcome setting options disk path = .ok draft ∧ draft.typeNames ≠ []

def declaresMessages (setting : Setting) (options : Options) (disk : Disk) (path : Text) : Bool :=
  match draftOutcome setting options disk path with
  | .ok draft => !draft.typeNames.isEmpty
  | .error _ => false

theorem declaresMessages_iff : declaresMessages setting options disk path = true ↔
    ∃ draft, Declares setting options disk path draft := by
  rw [declaresMessages]
  cases hdraft : draftOutcome setting options disk path with
  | error failure => simp [Declares, hdraft]
  | ok draft => simp [Declares, hdraft]

theorem isFileAt_of_draftOutcome (h : draftOutcome setting options disk path = .ok draft) :
    ∃ location, disk.IsFileAt setting.root path location := by
  cases hrun : (readDraft setting (options.importPaths.map (Path.join setting.root)) path).run { disk } with
  | mk outcome after =>
      rw [draftOutcome, hrun] at h
      cases h
      obtain ⟨file, between, hfile, -⟩ := run_bind_eq_ok hrun
      exact isFileAt_of_readDeclarations hfile

theorem Declares.isFileAt (h : Declares setting options disk path draft) :
    ∃ location, disk.IsFileAt setting.root path location :=
  isFileAt_of_draftOutcome h.1

/-- The readings of a run are the selected files that declare messages. -/
theorem run_readAll_eq_ok : ∀ {paths : List Text} {readings : List Reading} {before after : Workspace},
    (readAll setting (options.importPaths.map (Path.join setting.root)) paths).run before =
      (.ok readings, after) →
    after.disk = before.disk ∧ ∀ reading, reading ∈ readings ↔
      reading.path ∈ paths ∧ Declares setting options before.disk reading.path reading.draft
  | [], readings, before, after, h => by
      cases h
      simp
  | path :: rest, readings, before, after, h => by
      obtain ⟨draft, others, events, houtcome, hothers, rfl⟩ := run_readAll_cons_eq_ok h
      obtain ⟨hdisk, hmem⟩ := run_readAll_eq_ok hothers
      -- the file itself is among the readings unless it declares nothing
      have hhere : ∀ reading : Reading, reading = { path, draft } ∧ draft.typeNames ≠ [] ↔
          reading.path = path ∧ Declares setting options before.disk reading.path reading.draft := by
        rintro ⟨other, found⟩
        constructor
        · rintro ⟨⟨⟩, hne⟩
          exact ⟨rfl, houtcome, hne⟩
        · rintro ⟨rfl, hfound, hne⟩
          cases houtcome.symm.trans hfound
          exact ⟨rfl, hne⟩
      refine ⟨hdisk, fun reading => ?_⟩
      rw [mem_readingsWith, hhere, hmem, List.mem_cons, or_and_right]
      rfl

/-! ## What a run changes -/

variable {allowed : Location → Bytes → Prop} {paths : List Text} {readings : List Reading}

/-- A file that is written for a path is its module or the marker beside it. -/
def AllowsModule (allowed : Location → Bytes → Prop) (setting : Setting) (options : Options)
    (paths : List Text) (path : Text) : Prop :=
  (∀ content, allowed (modulePlace setting options paths path) content) ∧
    allowed ((modulePlace setting options paths path).dropLast ++ [typedMarker]) []

theorem allowed_of_mem_layout
    (h : ∀ reading ∈ readings, AllowsModule allowed setting options paths reading.path)
    {placed : Placed} (hplaced : placed ∈ layout setting options paths readings) :
    (∀ content, allowed (Path.place setting.root placed.path) content) ∧
      allowed (Path.place setting.root placed.directory ++ [typedMarker]) [] := by
  obtain ⟨reading, hreading, -, hdirectory, hpath⟩ := mem_layout hplaced
  have hplace : Path.place setting.root placed.path =
      modulePlace setting options paths reading.path := by rw [hpath, hdirectory]; rfl
  have hmarker : (modulePlace setting options paths reading.path).dropLast =
      Path.place setting.root placed.directory := by
    rw [← hplace, hpath, place_outputPath, List.dropLast_concat]
  obtain ⟨hmodule, hmark⟩ := h reading hreading
  exact ⟨hplace ▸ hmodule, hmarker ▸ hmark⟩

theorem changesOnly_writePhase
    (h : ∀ reading ∈ readings, AllowsModule allowed setting options paths reading.path) :
    ChangesOnly allowed (writePhase setting options paths readings) := by
  have hmark : ChangesOnly allowed (markTyped setting
      (sortedSet ((layout setting options paths readings).map Placed.directory))) := by
    intro workspace
    refine (changesOnly_markTyped setting _ workspace).mono ?_
    rintro location content ⟨-, rfl, directory, hdirectory, rfl⟩
    obtain ⟨placed, hplaced, rfl⟩ := List.mem_map.mp (mem_sortedSet.mp hdirectory)
    exact (allowed_of_mem_layout h hplaced).2
  rw [writePhase_eq]
  exact (changesOnly_writeAll _ fun _ hplaced => (allowed_of_mem_layout h hplaced).1).bind fun _ =>
    hmark.bind fun _ => .pure _

/-- After the clean phase, what may change is what is allowed for the files that
are selected and declare messages. -/
theorem changesOnly_run_of_allowed {before cleaned : Workspace}
    (hclean : ((clean setting options).run before).2 = cleaned)
    (h : ∀ paths, selectedPaths cleaned.disk setting.root options = .ok paths →
      ∀ path ∈ paths, ∀ draft, Declares setting options cleaned.disk path draft →
        AllowsModule allowed setting options paths path) :
    cleaned.ChangesOnly allowed ((run setting options).run before).2 := by
  rw [MessageForge.run]
  cases hrun : (clean setting options).run before with
  | mk outcome after =>
      rw [hrun] at hclean
      subst hclean
      cases outcome with
      | error failure => rw [run_bind_error _ hrun]; exact .refl _
      | ok value =>
          rw [run_bind_ok _ hrun, run_bind_ok _ (run_disk _)]
          refine changesOnly_run_bind (ChangesOnly.ofReading (.ofFile _) _) fun paths found hfound => ?_
          obtain ⟨hselected, rfl⟩ := run_ofFile_eq_ok hfound
          split
          · exact ChangesOnly.report _ _
          · refine changesOnly_run_bind (ChangesOnly.ofReading (onlyReads_readAll _ paths) _)
              fun readings read hread => ?_
            have hallowed : ∀ reading ∈ readings,
                AllowsModule allowed setting options paths reading.path := by
              intro reading hreading
              obtain ⟨hpath, hdeclares⟩ := ((run_readAll_eq_ok hread).2 reading).mp hreading
              exact h paths hselected _ hpath _ hdeclares
            refine changesOnly_run_bind (changesOnly_writePhase hallowed _) fun written _ hwritten => ?_
            split
            · refine changesOnly_checkModules (fun _ _ text _ file hfile => ?_) _
              rw [run_writePhase_eq_ok hwritten] at hfile
              obtain ⟨placed, hplaced, rfl⟩ := List.mem_map.mp hfile
              exact (allowed_of_mem_layout hallowed hplaced).1 _
            · exact .refl _

/-- The same of a whole execution, for the disk that its clean phase leaves. -/
theorem changesOnly_execute_of_allowed (setting : Setting) (arguments : List Text) (disk : Disk)
    (h : ∀ options, Options.ofArguments arguments = .ok options →
      ∀ paths, selectedPaths (cleanedDisk setting arguments disk) setting.root options = .ok paths →
      ∀ path ∈ paths, ∀ draft,
        Declares setting options (cleanedDisk setting arguments disk) path draft →
        AllowsModule allowed setting options paths path) :
    (cleanedDisk setting arguments disk).ChangesOnly allowed
      (execute setting arguments disk).workspace.disk := by
  cases hoptions : Options.ofArguments arguments with
  | error fault =>
      rw [cleanedDisk, execute, hoptions]
      exact .refl disk
  | ok options =>
      obtain ⟨events, hexecute⟩ := exists_execute_workspace_eq setting disk hoptions
      have hcleaned : cleanedDisk setting arguments disk =
          ((clean setting options).run (logged { disk } [.workingFrom setting.root])).2.disk := by
        rw [cleanedDisk, hoptions]
      rw [hexecute, hcleaned]
      exact (changesOnly_run_of_allowed rfl (hcleaned ▸ h options hoptions)).disk

/-! ## What a successful run leaves -/

/-- Where several modules are placed at one location, one of them is left: the
same one whatever there was before. -/
theorem exists_item?_of_run_writeAll (makesDirectories : Bool) : ∀ {modules : List Placed},
    ∀ placed ∈ modules, ∃ other ∈ modules,
      Path.place setting.root other.path = Path.place setting.root placed.path ∧
      ∀ before after, (writeAll setting makesDirectories modules).run before = (.ok (), after) →
        after.disk.item? (Path.place setting.root placed.path) =
          some (.file (setting.programs.moduleBytes other.draft))
  | [], placed, hplaced => absurd hplaced List.not_mem_nil
  | first :: rest, placed, hplaced => by
      have hlater : ∀ {place : Placed}, place ∈ rest →
          Path.place setting.root place.path = Path.place setting.root placed.path →
          ∃ other ∈ first :: rest,
            Path.place setting.root other.path = Path.place setting.root placed.path ∧
            ∀ before after,
              (writeAll setting makesDirectories (first :: rest)).run before = (.ok (), after) →
              after.disk.item? (Path.place setting.root placed.path) =
                some (.file (setting.programs.moduleBytes other.draft)) := by
        intro place hplace heq
        obtain ⟨other, hother, hsame, hitem⟩ := exists_item?_of_run_writeAll makesDirectories place hplace
        rw [heq] at hsame hitem
        refine ⟨other, List.mem_cons_of_mem _ hother, hsame, fun before after h => ?_⟩
        obtain ⟨made, between, -, hrest⟩ := run_writeAll_cons_eq_ok h
        exact hitem between after hrest
      rcases List.mem_cons.mp hplaced with rfl | hplaced
      · -- the first module stays unless one behind it takes its place
        by_cases hshared : ∃ place ∈ rest,
            Path.place setting.root place.path = Path.place setting.root placed.path
        · obtain ⟨place, hplace, heq⟩ := hshared
          exact hlater hplace heq
        · refine ⟨placed, List.mem_cons_self .., rfl, fun before after h => ?_⟩
          obtain ⟨made, between, hfirst, hrest⟩ := run_writeAll_cons_eq_ok h
          obtain ⟨opened, location, -, -, hlocate, hne, hdisk, -⟩ := run_writeModule_eq_ok hfirst
          obtain rfl := Disk.eq_place_of_locate hlocate
          have hjob : ChangesOnly
              (fun location _ => ∃ place ∈ rest, location = Path.place setting.root place.path)
              (writeAll setting makesDirectories rest) :=
            changesOnly_writeAll makesDirectories fun place hplace _ => ⟨place, hplace, rfl⟩
          have hchange := hjob between
          rw [hrest] at hchange
          refine hchange.disk.unchanged (fun _ ⟨place, hplace, heq⟩ => hshared ⟨place, hplace, heq.symm⟩) ?_
          rw [hdisk, Disk.item?_put_self hne]
      · exact hlater hplaced rfl

/-- A reading is placed where its module belongs. -/
theorem place_path (setting : Setting) (options : Options) (paths : List Text)
    (reading : Reading) :
    Path.place setting.root (place setting options.outputDirectory
        (layoutBase setting.root options paths) reading).path =
      modulePlace setting options paths reading.path := by
  rw [place, modulePlace]

theorem exists_item?_of_run_writePhase (setting : Setting) (options : Options)
    (paths : List Text) : ∀ reading ∈ readings,
    ∃ other ∈ readings,
      modulePlace setting options paths other.path = modulePlace setting options paths reading.path ∧
      ∀ before after files,
        (writePhase setting options paths readings).run before = (.ok files, after) →
        after.disk.item? (modulePlace setting options paths reading.path) =
          some (.file (setting.programs.moduleBytes other.draft)) := by
  intro reading hreading
  obtain ⟨_, hplaced, hsame, hlast⟩ := exists_item?_of_run_writeAll
    (!options.outputDirectory.isEmpty) _
    (List.mem_map_of_mem (f := place setting options.outputDirectory
      (layoutBase setting.root options paths)) hreading)
  obtain ⟨other, hother, rfl⟩ := List.mem_map.mp hplaced
  rw [place_path, place_path] at hsame
  rw [place_path] at hlast
  refine ⟨other, hother, hsame, fun before after files h => ?_⟩
  rw [writePhase_eq] at h
  obtain ⟨⟨⟩, between, hwrite, h⟩ := run_bind_eq_ok h
  obtain ⟨⟨⟩, marked, hmark, h⟩ := run_bind_eq_ok h
  cases h
  have hitem := hlast _ _ hwrite
  -- markers are left only where nothing is
  have hchange := changesOnly_markTyped setting
    (sortedSet ((layout setting options paths readings).map Placed.directory)) between
  rw [hmark] at hchange
  refine hchange.disk.unchanged (fun _ ⟨hnone, _⟩ => ?_) hitem
  cases hitem.symm.trans hnone

/-- The checker leaves nothing in the files that it is given. -/
def Programs.LeavesFiles (programs : Programs) : Prop :=
  ∀ outcome, programs.checker = .ends outcome → outcome.written = none

/-- After a successful run there is a module for each selected file that
declares messages. It is the one of a file whose module belongs there, unless
the checker has left something in it. -/
theorem exists_module_of_exits_zero {arguments : List Text}
    (hoptions : Options.ofArguments arguments = .ok options)
    (hending : (execute setting arguments disk).ending = .exits 0)
    (hselected : selectedPaths (cleanedDisk setting arguments disk) setting.root options = .ok paths)
    (hpath : path ∈ paths)
    (hdeclares : Declares setting options (cleanedDisk setting arguments disk) path draft) :
    ∃ other ∈ paths, ∃ otherDraft,
      Declares setting options (cleanedDisk setting arguments disk) other otherDraft ∧
      modulePlace setting options paths other = modulePlace setting options paths path ∧
      ∃ content, (execute setting arguments disk).workspace.disk.item?
          (modulePlace setting options paths path) = some (.file content) ∧
        (setting.programs.LeavesFiles →
          content = setting.programs.moduleBytes otherDraft) := by
  have hrun := run_eq_ok_of_exits_zero hoptions hending
  obtain ⟨⟨⟩, cleaned, hclean, hrun⟩ := run_bind_eq_ok hrun
  have hcleaned : cleanedDisk setting arguments disk = cleaned.disk := by
    rw [cleanedDisk, hoptions]
    dsimp only
    rw [hclean]
  rw [hcleaned] at hselected hdeclares ⊢
  rw [run_bind_ok _ (run_disk cleaned), hselected, run_bind_ok _ (run_ofFile_ok paths cleaned),
    if_neg fun hempty => List.ne_nil_of_mem hpath (List.isEmpty_iff.mp hempty)] at hrun
  obtain ⟨readings, read, hread, hrun⟩ := run_bind_eq_ok hrun
  obtain ⟨files, written, hwritten, hcheck⟩ := run_bind_eq_ok hrun
  have hreadings := (run_readAll_eq_ok hread).2
  obtain ⟨other, hother, hplace, hlast⟩ := exists_item?_of_run_writePhase setting options paths
    { path, draft } ((hreadings _).mpr ⟨hpath, hdeclares⟩)
  have hitem := hlast _ _ _ hwritten
  obtain ⟨hotherPath, hotherDeclares⟩ := (hreadings other).mp hother
  have hchecked : written.ChangesOnly (fun _ _ => ¬ setting.programs.LeavesFiles)
      (execute setting arguments disk).workspace := by
    split at hcheck
    · have hjob : ChangesOnly (fun _ _ => ¬ setting.programs.LeavesFiles)
          (checkModules setting files) :=
        changesOnly_checkModules fun outcome hends content hcontent _ _ hleaves => by
          rw [hleaves outcome hends] at hcontent
          cases hcontent
      have hchange := hjob written
      rwa [hcheck] at hchange
    · cases hcheck
      exact .refl _
  obtain ⟨content, hcontent⟩ := hchecked.disk.files hitem
  refine ⟨other.path, hotherPath, other.draft, hotherDeclares, hplace, content, hcontent,
    fun hleaves => ?_⟩
  rcases hchecked.disk.changed hcontent with hsame | hnot
  · rw [hitem] at hsame
    cases hsame
    rfl
  · exact absurd hleaves hnot

end MessageForge
