import MessageForge.Proofs.Acceptance
import MessageForge.Proofs.Formatting
import MessageForge.Proofs.Paths
import MessageForge.Proofs.Refusal

/-!
# What a run leaves

A run removes the files that it is asked to clean. Apart from these it touches
nothing but its outputs: generated modules, which are known by their names, and
empty markers in directories that have received a module and had no marker.
This holds however the run ends.
-/

namespace MessageForge

open Job

/-! ## Names of modules -/

namespace Placement

theorem mem_of_mem_splitExtension {fileName : Text} {c : Char}
    (h : c ∈ (Path.splitExtension fileName).1) : c ∈ fileName := by
  rw [Path.splitExtension] at h
  split at h
  · exact h
  · split at h
    · exact h
    · exact List.mem_of_mem_take h

/-- What the name of a module keeps of the name of its declaration file. -/
def keptStem (fileName : Text) : Text :=
  if isDeclarationExtension (Path.splitExtension fileName).2 then (Path.splitExtension fileName).1
  else fileName

theorem generatedName_eq (fileName : Text) : generatedName fileName =
    Text.replaceChar '-' '_' (keptStem fileName) ++ (generatedSuffix ++ sourceExtension) := by
  rw [generatedName, generatedStem, List.append_assoc]
  rfl

theorem not_mem_generatedName {fileName : Text} (h : '/' ∉ fileName) :
    '/' ∉ generatedName fileName := by
  have hkept : '/' ∉ keptStem fileName := by
    rw [keptStem]
    split
    · exact fun hstem => h (mem_of_mem_splitExtension hstem)
    · exact h
  have hending : '/' ∉ generatedSuffix ++ sourceExtension := by decide
  rw [generatedName_eq, List.mem_append, not_or]
  refine ⟨fun hmem => ?_, hending⟩
  obtain ⟨c, hc, hslash⟩ := List.mem_map.mp hmem
  split at hslash
  · cases hslash
  · exact hkept (hslash ▸ hc)

theorem isName_generatedName {fileName : Text} (h : '/' ∉ fileName) :
    Path.IsName (generatedName fileName) := by
  have hlength : 10 ≤ (generatedName fileName).length := by
    rw [generatedName_eq, List.length_append]
    exact Nat.le_add_left ..
  refine ⟨fun heq => ?_, fun heq => ?_, fun heq => ?_, not_mem_generatedName h⟩
  all_goals
    rw [heq] at hlength
    revert hlength
    decide

end Placement

/-- A location whose name is one that generated modules have. -/
def IsModulePlace (location : Location) : Prop :=
  ∃ directory stem,
    location = directory ++ [stem ++ (Placement.generatedSuffix ++ Placement.sourceExtension)]

theorem place_outputPath (root directory path : Text) :
    Path.place root (Placement.outputPath directory path) =
      Path.place root directory ++ [Placement.generatedName (Path.baseName path)] :=
  Path.place_join_name root directory
    (Placement.isName_generatedName (Path.not_mem_baseName path))

theorem isModulePlace_outputPath (root directory path : Text) :
    IsModulePlace (Path.place root (Placement.outputPath directory path)) :=
  ⟨_, _, by rw [place_outputPath, Placement.generatedName_eq]⟩

/-! ## Writing and checking modules -/

section Phases

variable {setting : Setting} {allowed : Location → Bytes → Prop}

theorem changesOnly_formatText (programs : Programs) (source : Text) :
    ChangesOnly allowed (formatText programs source) := by
  intro workspace
  obtain ⟨after, hdisk, hevents, hrun⟩ := run_formatText programs source workspace
  rw [hrun]
  exact ⟨hdisk ▸ .refl _, hevents⟩

theorem changesOnly_writeModule (draft : Draft) {path : Text}
    (hallowed : ∀ content, allowed (Path.place setting.root path) content) :
    ChangesOnly allowed (writeModule setting draft path) := by
  have hwrite : ∀ content, ChangesOnly allowed (writeFile setting path content) := fun content =>
    .writeFile fun _ _ hlocate => Disk.eq_place_of_locate hlocate ▸ hallowed content
  exact (hwrite []).bind fun _ => (changesOnly_formatText _ _).bind fun text =>
    (hwrite (Utf8.encode text)).bind fun _ => .report _

theorem changesOnly_writeAll (makesDirectories : Bool) : ∀ {modules : List Placed},
    (∀ placed ∈ modules, ∀ content, allowed (Path.place setting.root placed.path) content) →
    ChangesOnly allowed (writeAll setting makesDirectories modules)
  | [], _ => .pure ()
  | first :: rest, h => by
      have hfirst := changesOnly_writeModule first.draft (h first (List.mem_cons_self ..))
      have hrest : ChangesOnly allowed (writeAll setting makesDirectories rest) :=
        changesOnly_writeAll makesDirectories fun placed hplaced =>
          h placed (List.mem_cons_of_mem _ hplaced)
      have hboth := hfirst.bind fun _ => hrest
      rw [writeAll]
      split
      · exact (ChangesOnly.makeDirectories setting first.directory).bind fun _ => hboth
      · exact hboth

theorem changesOnly_leaveContent {files : List Text} {written : Option Bytes}
    (h : ∀ content ∈ written, ∀ file ∈ files, allowed (Path.place setting.root file) content) :
    ChangesOnly allowed (leaveContent setting files written) := by
  intro workspace
  unfold leaveContent
  cases hlast : files.getLast? with
  | none => exact .refl workspace
  | some file =>
      cases written with
      | none => exact .refl workspace
      | some content =>
          dsimp only
          rw [run_bind_ok _ (run_disk workspace)]
          cases hwrite : workspace.disk.write setting.root file content with
          | error fault => cases fault <;> exact .refl workspace
          | ok after =>
              have hchange : workspace.disk.ChangesOnly allowed after :=
                Disk.changesOnly_write hwrite fun _ hlocate =>
                  Disk.eq_place_of_locate hlocate ▸ h content rfl file (List.mem_of_getLast? hlast)
              exact ⟨hchange, List.prefix_rfl⟩

/-- Checking changes files only by what the checker leaves in them. -/
theorem changesOnly_checkModules {files : List Text}
    (h : ∀ outcome, setting.programs.checker = .ends outcome → ∀ content ∈ outcome.written,
      ∀ file ∈ files, allowed (Path.place setting.root file) content) :
    ChangesOnly allowed (checkModules setting files) := by
  have hjudge : ∀ exit, ChangesOnly allowed (judge exit) := by
    intro exit
    rw [judge]
    dsimp only
    split
    · exact .report _
    · exact (ChangesOnly.report _).bind fun _ => .throw _
  rw [checkModules]
  split
  · exact .report _
  · refine (ChangesOnly.report _).bind fun _ => (ChangesOnly.record _).bind fun _ => ?_
    split
    · exact .throw _
    · exact .throw _
    · exact .throw _
    · next outcome hends =>
        exact (changesOnly_leaveContent (h outcome hends)).bind fun _ => hjudge outcome.toExit

theorem run_writeModule_eq_ok {draft : Draft} {path : Text} {before after : Workspace}
    (h : (writeModule setting draft path).run before = (.ok (), after)) :
    ∃ opened location, (∀ failure, ¬ setting.programs.FormattingFails draft.render failure) ∧
      before.disk.write setting.root path [] = .ok opened ∧
      after.disk.locate setting.root path = .ok location ∧ location ≠ [] ∧
      after.disk = opened.put location (.file (setting.programs.moduleBytes draft)) ∧
      .wrote draft.typeNames.length path ∈ after.events := by
  cases hopen : before.disk.write setting.root path [] with
  | error fault => rw [run_writeModule_unwritable draft hopen] at h; cases h
  | ok opened =>
      have hformats : ∀ failure, ¬ setting.programs.FormattingFails draft.render failure := by
        intro failure hfails
        obtain ⟨_, -, hrun⟩ := run_writeModule_unformatted draft hopen hfails
        rw [hrun] at h
        cases h
      obtain ⟨_, location, hlocate, hne, hdisk, hevent, hrun⟩ :=
        run_writeModule_written draft hopen hformats
      rw [hrun] at h
      cases h
      exact ⟨opened, location, hformats, rfl, hlocate, hne, hdisk, hevent⟩

/-- To write one module more is to make its directory, to write it and to go on. -/
theorem run_writeAll_cons_eq_ok {makesDirectories : Bool} {first : Placed} {rest : List Placed}
    {before after : Workspace}
    (h : (writeAll setting makesDirectories (first :: rest)).run before = (.ok (), after)) :
    ∃ made between, (writeModule setting first.draft first.path).run made = (.ok (), between) ∧
      (writeAll setting makesDirectories rest).run between = (.ok (), after) := by
  rw [writeAll] at h
  split at h
  · obtain ⟨⟨⟩, made, -, h⟩ := run_bind_eq_ok h
    obtain ⟨⟨⟩, between, hfirst, hrest⟩ := run_bind_eq_ok h
    exact ⟨made, between, hfirst, hrest⟩
  · obtain ⟨⟨⟩, between, hfirst, hrest⟩ := run_bind_eq_ok h
    exact ⟨before, between, hfirst, hrest⟩

/-- All modules have been reported, and lie where they mean to be. -/
theorem run_writeAll_eq_ok {makesDirectories : Bool} : ∀ {modules : List Placed}
    {before after : Workspace},
    (writeAll setting makesDirectories modules).run before = (.ok (), after) →
    ∀ placed ∈ modules, .wrote placed.draft.typeNames.length placed.path ∈ after.events ∧
      after.disk.locate setting.root placed.path = .ok (Path.place setting.root placed.path)
  | [], _, _, _, placed, hplaced => absurd hplaced List.not_mem_nil
  | first :: rest, before, after, h, placed, hplaced => by
      obtain ⟨made, between, hfirst, hrest⟩ := run_writeAll_cons_eq_ok h
      rcases List.mem_cons.mp hplaced with rfl | hplaced
      · obtain ⟨_, location, -, -, hlocate, -, -, hevent⟩ := run_writeModule_eq_ok hfirst
        have hjob : ChangesOnly (fun _ _ => True) (writeAll setting makesDirectories rest) :=
          changesOnly_writeAll makesDirectories fun _ _ _ => trivial
        have hlater : between.ChangesOnly (fun _ _ => True) after := by
          have hchange := hjob between
          rwa [hrest] at hchange
        exact ⟨hlater.events.subset hevent,
          Disk.eq_place_of_locate hlocate ▸ hlater.disk.directories.locate hlocate⟩
      · exact run_writeAll_eq_ok hrest placed hplaced

end Phases

/-! ## What is left besides modules -/

/-- A module has been written into a directory. -/
def Received (root : Text) (workspace : Workspace) (directory : Location) : Prop :=
  ∃ count path name, .wrote count path ∈ workspace.events ∧
    workspace.disk.locate root path = .ok (directory ++ [name])

/-- An empty marker in a directory that has received a module. -/
def IsMarker (root : Text) (workspace : Workspace) (location : Location) (content : Bytes) : Prop :=
  content = [] ∧ ∃ directory, location = directory ++ [typedMarker] ∧
    Received root workspace directory

/-- What a run may leave: modules, and markers beside them. -/
def IsOutput (root : Text) (workspace : Workspace) (location : Location) (content : Bytes) : Prop :=
  IsModulePlace location ∨ IsMarker root workspace location content

variable {setting : Setting} {options : Options} {before after : Workspace} {α β : Type}

theorem Received.mono {allowed : Location → Bytes → Prop} (h : before.ChangesOnly allowed after)
    {directory : Location} : Received setting.root before directory →
      Received setting.root after directory
  | ⟨count, path, name, hevent, hlocate⟩ =>
      ⟨count, path, name, h.events.subset hevent, h.disk.directories.locate hlocate⟩

/-- Modules may be replaced, while a marker is left only where nothing is. -/
def IsNewOutput (root : Text) (before : Disk) (after : Workspace) (location : Location)
    (content : Bytes) : Prop :=
  IsModulePlace location ∨ before.item? location = none ∧ IsMarker root after location content

/-- However the job ends on this workspace, it has left outputs only. -/
def LeavesOutputsOn (setting : Setting) (workspace : Workspace) (job : Job α) : Prop :=
  workspace.ChangesOnly (IsNewOutput setting.root workspace.disk (job.run workspace).2)
    (job.run workspace).2

def LeavesOutputs (setting : Setting) (job : Job α) : Prop :=
  ∀ workspace : Workspace, LeavesOutputsOn setting workspace job

namespace LeavesOutputs

theorem ofModules {job : Job α} (h : ChangesOnly (fun location _ => IsModulePlace location) job) :
    LeavesOutputs setting job :=
  fun workspace => (h workspace).mono fun _ _ => .inl

theorem ofReading {job : Job α} (h : OnlyReads job) : LeavesOutputs setting job :=
  .ofModules (.ofReading h)

/-- What a first change leaves anew is new after a second one, and what the
second leaves anew was not there before the first. -/
theorem trans {between : Workspace}
    (hfirst : before.ChangesOnly (IsNewOutput setting.root before.disk between) between)
    (hsecond : between.ChangesOnly (IsNewOutput setting.root between.disk after) after) :
    before.ChangesOnly (IsNewOutput setting.root before.disk after) after := by
  have hearlier : ∀ location content, IsNewOutput setting.root before.disk between location content →
      IsNewOutput setting.root before.disk after location content := by
    rintro location content (hmodule | ⟨hnone, hempty, directory, hlocation, hreceived⟩)
    · exact .inl hmodule
    · exact .inr ⟨hnone, hempty, directory, hlocation, hreceived.mono hsecond⟩
  have hlater : ∀ location content, IsNewOutput setting.root between.disk after location content →
      IsNewOutput setting.root before.disk after location content :=
    fun _ _ => Or.imp_right (And.imp_left hfirst.disk.item?_eq_none)
  exact (hfirst.mono hearlier).trans (hsecond.mono hlater)

/-- A step that is taken wherever the first part has led. -/
theorem bind_run {job : Job α} {next : α → Job β} (hjob : LeavesOutputs setting job)
    (hnext : ∀ workspace value between, job.run workspace = (.ok value, between) →
      LeavesOutputsOn setting between (next value)) : LeavesOutputs setting (job >>= next) := by
  intro workspace
  have hfirst := hjob workspace
  unfold LeavesOutputsOn at hfirst ⊢
  cases hrun : job.run workspace with
  | mk outcome between =>
      rw [hrun] at hfirst
      cases outcome with
      | error failure => rw [run_bind_error next hrun]; exact hfirst
      | ok value =>
          rw [run_bind_ok next hrun]
          exact trans hfirst (hnext workspace value between hrun)

theorem bind {job : Job α} {next : α → Job β} (hjob : LeavesOutputs setting job)
    (hnext : ∀ value, LeavesOutputs setting (next value)) : LeavesOutputs setting (job >>= next) :=
  hjob.bind_run fun _ value between _ => hnext value between

/-- Whatever the first part leaves, the second adds outputs only. -/
theorem behind (job : Job α) {next : α → Job β} (hnext : ∀ value, LeavesOutputs setting (next value))
    (workspace : Workspace) : (job.run workspace).2.ChangesOnly
      (IsNewOutput setting.root (job.run workspace).2.disk ((job >>= next).run workspace).2)
      ((job >>= next).run workspace).2 := by
  cases hrun : job.run workspace with
  | mk outcome between =>
      cases outcome with
      | error failure => rw [run_bind_error next hrun]; exact .refl between
      | ok value => rw [run_bind_ok next hrun]; exact hnext value between

end LeavesOutputs

/-! ## Marking directories -/

/-- A path that leads to nothing, if it leads anywhere. -/
theorem Disk.item?_place_of_not_exists {disk : Disk} {root path : Text} {location : Location}
    (h : disk.exists? root path = false) (hlocate : disk.locate root path = .ok location) :
    disk.item? location = none := by
  rwa [exists?, find?_eq_of_locate hlocate, Option.isSome_eq_false_iff, Option.isNone_iff_eq_none]
    at h

theorem isName_typedMarker : Path.IsName typedMarker := by
  refine ⟨?_, ?_, ?_, ?_⟩ <;> decide

/-- Markers are left in these directories only, and only where nothing is. -/
theorem changesOnly_markTyped (setting : Setting) : ∀ (directories : List Text)
    (workspace : Workspace),
    workspace.ChangesOnly (fun location content => workspace.disk.item? location = none ∧
        content = [] ∧ ∃ directory ∈ directories,
          location = Path.place setting.root directory ++ [typedMarker])
      ((markTyped setting directories).run workspace).2
  | [], workspace => .refl workspace
  | directory :: rest, workspace => by
      let allowed (location : Location) (content : Bytes) : Prop :=
        workspace.disk.item? location = none ∧ content = [] ∧
          ∃ marked ∈ directory :: rest, location = Path.place setting.root marked ++ [typedMarker]
      have hrest : ∀ between : Workspace, workspace.ChangesOnly allowed between →
          workspace.ChangesOnly allowed ((markTyped setting rest).run between).2 := by
        intro between hfirst
        refine hfirst.trans ((changesOnly_markTyped setting rest between).mono ?_)
        rintro location content ⟨hnone, hempty, marked, hmarked, hlocation⟩
        exact ⟨hfirst.disk.item?_eq_none hnone, hempty, marked, List.mem_cons_of_mem _ hmarked,
          hlocation⟩
      rw [markTyped, run_bind_ok _ (run_disk workspace)]
      split
      · next hmissing =>
          have hwrite : workspace.ChangesOnly allowed
              ((writeFile setting (Path.join directory typedMarker) []).run workspace).2 := by
            refine changesOnly_run_writeFile fun location hlocate => ?_
            refine ⟨Disk.item?_place_of_not_exists (by simpa using hmissing) hlocate, rfl, directory,
              List.mem_cons_self .., ?_⟩
            rw [Disk.eq_place_of_locate hlocate, Path.place_join_name _ _ isName_typedMarker]
          cases hrun : (writeFile setting (Path.join directory typedMarker) []).run workspace with
          | mk outcome between =>
              rw [hrun] at hwrite
              cases outcome with
              | error failure => rw [run_bind_error _ hrun]; exact hwrite
              | ok value => rw [run_bind_ok _ hrun]; exact hrest between hwrite
      · exact hrest workspace (.refl workspace)

/-! ## Placed modules -/

/-- The directory that the layout of an output directory starts from. -/
def layoutBase (root : Text) (options : Options) (paths : List Text) : Option Text :=
  if options.outputDirectory.isEmpty then none else Placement.commonBase root options.paths paths

/-- The modules of readings, each with its place. -/
def layout (setting : Setting) (options : Options) (paths : List Text) (readings : List Reading) :
    List Placed :=
  readings.map (place setting options.outputDirectory (layoutBase setting.root options paths))

theorem writePhase_eq (setting : Setting) (options : Options) (paths : List Text)
    (readings : List Reading) : writePhase setting options paths readings = (do
      writeAll setting (!options.outputDirectory.isEmpty) (layout setting options paths readings)
      markTyped setting
        (sortedSet ((layout setting options paths readings).map Placed.directory))
      return (layout setting options paths readings).map Placed.path) := rfl

variable {paths : List Text} {readings : List Reading}

theorem mem_layout {placed : Placed} (h : placed ∈ layout setting options paths readings) :
    ∃ reading ∈ readings, placed.draft = reading.draft ∧
      placed.directory = Placement.outputDirectory setting.root options.outputDirectory
        (layoutBase setting.root options paths) reading.path ∧
      placed.path = Placement.outputPath placed.directory reading.path := by
  obtain ⟨reading, hreading, rfl⟩ := List.mem_map.mp h
  refine ⟨reading, hreading, ?_, ?_, ?_⟩
  · rw [place]
  · rw [place]
  · rw [place]

theorem isModulePlace_of_mem_layout {placed : Placed}
    (h : placed ∈ layout setting options paths readings) :
    IsModulePlace (Path.place setting.root placed.path) := by
  obtain ⟨reading, -, -, -, hpath⟩ := mem_layout h
  exact hpath ▸ isModulePlace_outputPath ..

/-- A directory that a module has been written for has received it. -/
theorem received_of_run_writeAll {makesDirectories : Bool}
    (h : (writeAll setting makesDirectories (layout setting options paths readings)).run before =
      (.ok (), after))
    {directory : Text} (hdirectory : directory ∈
      sortedSet ((layout setting options paths readings).map Placed.directory)) :
    Received setting.root after (Path.place setting.root directory) := by
  obtain ⟨placed, hplaced, rfl⟩ := List.mem_map.mp (mem_sortedSet.mp hdirectory)
  obtain ⟨hevent, hlocate⟩ := run_writeAll_eq_ok h placed hplaced
  obtain ⟨reading, -, -, -, hpath⟩ := mem_layout hplaced
  exact ⟨_, _, _, hevent, by rw [hlocate, hpath, place_outputPath]⟩

theorem leavesOutputs_writePhase (paths : List Text) (readings : List Reading) :
    LeavesOutputs setting (writePhase setting options paths readings) := by
  have hwrite : LeavesOutputs setting (writeAll setting (!options.outputDirectory.isEmpty)
      (layout setting options paths readings)) :=
    .ofModules (changesOnly_writeAll _ fun _ hplaced _ => isModulePlace_of_mem_layout hplaced)
  rw [writePhase_eq]
  refine hwrite.bind_run fun before _ between hrun => ?_
  have hmark := changesOnly_markTyped setting
    (sortedSet ((layout setting options paths readings).map Placed.directory)) between
  rw [LeavesOutputsOn, run_bind_pure]
  refine hmark.mono ?_
  rintro location content ⟨hnone, hempty, directory, hdirectory, hlocation⟩
  exact .inr ⟨hnone, hempty, _, hlocation, (received_of_run_writeAll hrun hdirectory).mono hmark⟩

theorem run_writePhase_eq_ok {written : List Text}
    (h : (writePhase setting options paths readings).run before = (.ok written, after)) :
    written = (layout setting options paths readings).map Placed.path := by
  rw [writePhase_eq] at h
  obtain ⟨⟨⟩, between, -, h⟩ := run_bind_eq_ok h
  obtain ⟨⟨⟩, marked, -, h⟩ := run_bind_eq_ok h
  cases h
  rfl

/-! ## The whole run -/

theorem onlyReads_readAll (importPaths : List Text) : ∀ paths : List Text,
    OnlyReads (readAll setting importPaths paths)
  | [] => .pure []
  | path :: rest => by
      rw [readAll]
      refine .bind (.report (by simp [Event.level])) fun _ => .bind (onlyReads_readDraft path) fun draft => ?_
      split
      · exact .bind (.report (by simp [Event.level])) fun _ => onlyReads_readAll importPaths rest
      · exact .bind (onlyReads_readAll importPaths rest) fun _ => .pure _

/-- What comes after the clean phase leaves outputs only. -/
theorem changesOnly_run (setting : Setting) (options : Options) (workspace : Workspace) :
    ((clean setting options).run workspace).2.ChangesOnly
      (IsNewOutput setting.root ((clean setting options).run workspace).2.disk
        ((run setting options).run workspace).2)
      ((run setting options).run workspace).2 := by
  rw [MessageForge.run]
  refine LeavesOutputs.behind _ (fun _ => ?_) workspace
  refine .bind (.ofReading .disk) fun onto => .bind (.ofReading (.ofFile _)) fun paths => ?_
  split
  · exact .ofReading (.report (by simp [Event.level]))
  · refine .bind (.ofReading (onlyReads_readAll _ paths)) fun readings => ?_
    refine (leavesOutputs_writePhase paths readings).bind_run fun before written between hwrite => ?_
    split
    · refine LeavesOutputs.ofModules (changesOnly_checkModules fun _ _ _ _ file hfile => ?_) between
      rw [run_writePhase_eq_ok hwrite] at hfile
      obtain ⟨placed, hplaced, rfl⟩ := List.mem_map.mp hfile
      exact isModulePlace_of_mem_layout hplaced
    · exact LeavesOutputs.ofReading (.pure ()) between

/-- The disk once the clean phase of a run is over, in whatever way it ends. -/
def cleanedDisk (setting : Setting) (arguments : List Text) (disk : Disk) : Disk :=
  match Options.ofArguments arguments with
  | .error _ => disk
  | .ok options =>
      ((clean setting options).run (logged { disk } [.workingFrom setting.root])).2.disk

/-- A file that a pattern of files to clean matches. -/
def IsMatchedToClean (root : Text) (arguments : List Text) (disk : Disk) (location : Location) :
    Prop :=
  ∃ options paths, ∃ path ∈ paths, Options.ofArguments arguments = .ok options ∧
    cleanedPaths disk root options = .ok paths ∧ disk.IsFileAt root path location

theorem exists_cleanedDisk_eq (setting : Setting) (arguments : List Text) (disk : Disk) :
    ∃ removed, (∀ location ∈ removed, IsMatchedToClean setting.root arguments disk location) ∧
      cleanedDisk setting arguments disk = disk.without removed := by
  rw [cleanedDisk]
  cases hoptions : Options.ofArguments arguments with
  | error fault => exact ⟨[], List.forall_mem_nil _, (Disk.without_nil disk).symm⟩
  | ok options =>
      obtain ⟨removed, hremoved, hdisk⟩ :=
        run_clean_disk setting options (logged { disk } [.workingFrom setting.root])
      refine ⟨removed, fun location hlocation => ?_, hdisk⟩
      obtain ⟨paths, path, hpath, hpaths, hfile⟩ := hremoved location hlocation
      exact ⟨options, paths, path, hpath, hoptions, hpaths, hfile⟩

theorem changesOnly_execute (setting : Setting) (arguments : List Text) (disk : Disk) :
    (cleanedDisk setting arguments disk).ChangesOnly
      (IsNewOutput setting.root (cleanedDisk setting arguments disk)
        (execute setting arguments disk).workspace)
      (execute setting arguments disk).workspace.disk := by
  rw [cleanedDisk]
  cases hoptions : Options.ofArguments arguments with
  | error fault =>
      rw [execute, hoptions]
      exact .refl disk
  | ok options =>
      obtain ⟨events, hexecute⟩ := exists_execute_workspace_eq setting disk hoptions
      have hrun := changesOnly_run setting options (logged { disk } [.workingFrom setting.root])
      have hlogged : ((run setting options).run
          (logged { disk } [.workingFrom setting.root])).2.ChangesOnly (fun _ _ => False)
            (execute setting arguments disk).workspace := hexecute ▸ .logged _ events
      have hafter := hrun.trans (hlogged.mono fun _ _ => False.elim)
      refine hafter.disk.mono ?_
      rintro location content (hmodule | ⟨hnone, hempty, directory, hlocation, hreceived⟩)
      · exact .inl hmodule
      · exact .inr ⟨hnone, hempty, directory, hlocation, hreceived.mono hlogged⟩

/-- A run removes files that it is asked to clean, and only these. Every other
file is there afterwards, with the same bytes unless it has the name of a
module; and a file that is not as it was before is a module or an empty marker
beside one. -/
theorem execute_touches_only_outputs (setting : Setting) (arguments : List Text) (disk : Disk) :
    ∃ removed : List Location,
      (∀ location ∈ removed, IsMatchedToClean setting.root arguments disk location) ∧
      cleanedDisk setting arguments disk = disk.without removed ∧
      (∀ location content, disk.item? location = some (.file content) → location ∉ removed →
        ∃ new, (execute setting arguments disk).workspace.disk.item? location = some (.file new) ∧
          (new = content ∨ IsModulePlace location)) ∧
      ∀ location content,
        (execute setting arguments disk).workspace.disk.item? location = some (.file content) →
          disk.item? location = some (.file content) ∨
          IsOutput setting.root (execute setting arguments disk).workspace location content := by
  obtain ⟨removed, hremoved, hcleaned⟩ := exists_cleanedDisk_eq setting arguments disk
  have hchange := changesOnly_execute setting arguments disk
  refine ⟨removed, hremoved, hcleaned, fun location content hbefore hkept => ?_,
    fun location content hafter => ?_⟩
  · have hstart : (cleanedDisk setting arguments disk).item? location = some (.file content) := by
      rw [hcleaned, Disk.item?_without_of_not_mem hkept, hbefore]
    obtain ⟨new, hnew⟩ := hchange.files hstart
    refine ⟨new, hnew, ?_⟩
    rcases hchange.changed hnew with hsame | hmodule | ⟨hnone, -⟩
    · rw [hstart] at hsame
      cases hsame
      exact .inl rfl
    · exact .inr hmodule
    · rw [hstart] at hnone
      cases hnone
  · rcases hchange.changed hafter with hsame | hmodule | ⟨-, hmarker⟩
    · exact .inl (Disk.item?_of_item?_without (hcleaned ▸ hsame))
    · exact .inr (.inl hmodule)
    · exact .inr (.inr hmarker)

def systemSource : Bytes :=
  Utf8.encode "define_message(\"System\")\n"

/-- A workspace with one declaration file. -/
def systemDisk : Disk :=
  { items := [(["main_messages.py"], .file systemSource)] }

theorem declaration_file_survives :
    (execute { root := "/" } ["-p", "main_messages.py"] systemDisk).workspace.disk.item?
      ["main_messages.py"] = some (.file systemSource) := by
  obtain ⟨removed, hremoved, -, hfiles, -⟩ :=
    execute_touches_only_outputs { root := "/" } ["-p", "main_messages.py"] systemDisk
  have hkept : (["main_messages.py"] : Location) ∉ removed := by
    intro hmem
    obtain ⟨options, paths, path, hpath, hoptions, hpaths, -⟩ := hremoved _ hmem
    have hread : Options.ofArguments ["-p", "main_messages.py"] =
        .ok { paths := ["main_messages.py"] } := by decide +kernel
    rw [hread] at hoptions
    cases hoptions
    have hnone : cleanedPaths systemDisk "/" { paths := ["main_messages.py"] } = .ok [] := by
      decide +kernel
    rw [hnone] at hpaths
    cases hpaths
    exact List.not_mem_nil hpath
  have hbefore : systemDisk.item? ["main_messages.py"] = some (.file systemSource) := by
    decide +kernel
  obtain ⟨new, hnew, hsame | ⟨directory, stem, hmodule⟩⟩ := hfiles _ _ hbefore hkept
  · rw [hnew, hsame]
  · have hlast : ("main_messages.py" : Text) =
        stem ++ (Placement.generatedSuffix ++ Placement.sourceExtension) := by
      simpa using congrArg List.getLast? hmodule
    have hsuffix : ¬ Placement.generatedSuffix ++ Placement.sourceExtension <:+
        ("main_messages.py" : Text) := by decide
    exact absurd ⟨stem, hlast.symm⟩ hsuffix

end MessageForge
