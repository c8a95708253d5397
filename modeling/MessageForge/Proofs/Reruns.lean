import MessageForge.Proofs.Imports
import MessageForge.Proofs.Replays

/-!
# Runs that are repeated

A run that has gone through leaves its outputs behind. If these do not count as
inputs, then the same run once more selects the same files and reads the same
declarations from them. So it goes through as well, and leaves every file as it
is.
-/

namespace MessageForge

open Job
open MessageForge.Path

variable {setting : Setting} {options : Options} {before after : Disk} {path : Text}
  {location : Location} {paths : List Text} {readings : List Reading}

/-! ## Reading again -/

/-- What two disks give alike is read alike. -/
theorem run_readDeclarations_again {importPaths : List Text}
    (hsource : after.read setting.root path = before.read setting.root path)
    (hschema : Text.endsWith Placement.schemaExtension path = true →
      Schema.compileFile setting.compiler after setting.root importPaths path =
        Schema.compileFile setting.compiler before setting.root importPaths path) :
    ((readDeclarations setting importPaths path).run { disk := after }).1 =
      ((readDeclarations setting importPaths path).run { disk := before }).1 := by
  rw [readDeclarations]
  split
  · next hends =>
      rw [readSchema, run_bind_ok _ (run_disk _), run_bind_ok _ (run_disk _)]
      dsimp only
      rw [hschema hends]
      cases Schema.compileFile setting.compiler before setting.root importPaths path with
      | error failure => rfl
      | ok schema =>
          rw [run_bind_ok _ (run_ofResult_ok schema _), run_bind_ok _ (run_ofResult_ok schema _)]
          cases setting.limits.schema schema <;> rfl
  · rw [readSource, run_bind_ok _ (run_disk _), run_bind_ok _ (run_disk _)]
    dsimp only
    rw [hsource]
    cases before.read setting.root path with
    | error fault => rfl
    | ok content =>
        rw [run_bind_ok _ (run_ofFile_ok content _), run_bind_ok _ (run_ofFile_ok content _)]
        cases Utf8.decode? content with
        | none => rfl
        | some text =>
            dsimp only
            cases setting.limits.source (Text.universalNewlines text) with
            | some cause => rfl
            | none =>
                cases Source.parseDeclarations setting.characters (Text.universalNewlines text) path with
                | error failure => rfl
                | ok file => rfl

theorem draftOutcome_eq (hgrows : before.Grows after)
    (hfile : before.IsFileAt setting.root path location)
    (hkept : before.item? location = after.item? location)
    (hschema : Text.endsWith Placement.schemaExtension path = true →
      setting.compiler.GivesAgain before after setting.root
        (options.importPaths.map (Path.join setting.root)) path) :
    draftOutcome setting options after path = draftOutcome setting options before path := by
  have hsource : after.read setting.root path = before.read setting.root path := by
    rw [Disk.read, Disk.read, hfile.1, hgrows.changes.directories.locate hfile.1, ok_bind, ok_bind,
      hkept]
  have hread := run_readDeclarations_again hsource fun hends =>
    Schema.compileFile_eq hgrows hfile (hschema hends)
  rw [draftOutcome, draftOutcome]
  cases hafter : (readDeclarations setting (options.importPaths.map (Path.join setting.root)) path).run
      { disk := after } with
  | mk outcome last =>
      cases hbefore : (readDeclarations setting
          (options.importPaths.map (Path.join setting.root)) path).run { disk := before } with
      | mk outcome' last' =>
          rw [hafter, hbefore] at hread
          obtain rfl : outcome = outcome' := hread
          rw [readDraft]
          cases outcome with
          | error failure => rw [run_bind_error _ hafter, run_bind_error _ hbefore]
          | ok file =>
              rw [run_bind_ok _ hafter, run_bind_ok _ hbefore]
              dsimp only
              rw [run_bind_ok _ (run_reportAll _ _), run_bind_ok _ (run_reportAll _ _)]
              cases (Draft.ofFile file).generateAll.2 <;> rfl

/-- Files that give the same drafts again are the same readings. -/
theorem run_readAll_again : ∀ {paths : List Text} {readings : List Reading} {first last : Workspace},
    (readAll setting (options.importPaths.map (Path.join setting.root)) paths).run first =
      (.ok readings, last) →
    ∀ second : Workspace,
      (∀ path ∈ paths, ∀ draft, draftOutcome setting options first.disk path = .ok draft →
        draftOutcome setting options second.disk path = .ok draft) →
      ∃ events, (readAll setting (options.importPaths.map (Path.join setting.root)) paths).run second =
        (.ok readings, logged second events)
  | [], readings, first, last, h, second, _ => by
      cases h
      exact ⟨[], by rw [logged_nil]; rfl⟩
  | path :: rest, readings, first, last, h, second, hsame => by
      obtain ⟨hpath, hrest⟩ := List.forall_mem_cons.mp hsame
      obtain ⟨draft, others, events, houtcome, hothers, rfl⟩ := run_readAll_cons_eq_ok h
      obtain ⟨events', -, hrun⟩ := run_readAll_cons_ok (hpath draft houtcome) rest
        (rfl : second.disk = second.disk)
      obtain ⟨more, hmore⟩ := run_readAll_again hothers (logged second events') hrest
      exact ⟨events' ++ more, by rw [hrun, run_bind_ok _ hmore, logged_logged]; rfl⟩

/-! ## After reading -/

/-- What a run does with its readings. -/
def writeAndCheck (setting : Setting) (options : Options) (paths : List Text)
    (readings : List Reading) : Job Unit := do
  let written ← writePhase setting options paths readings
  if !options.skipChecker then checkModules setting written

theorem run_clean_of_nil (hclean : options.clean = []) (workspace : Workspace) :
    (clean setting options).run workspace = (.ok (), workspace) := by
  have hnothing : cleanedPaths workspace.disk setting.root options = .ok [] := by
    rw [cleanedPaths, hclean]
    show Except.ok (sortedSet []) = _
    rw [sortedSet, List.eraseDups_nil, List.mergeSort_nil]
  rw [clean, run_bind_ok _ (run_disk workspace), hnothing]
  rfl

/-- A run that has nothing to clean goes through if all of its phases do. -/
theorem run_run_eq_ok_iff (hclean : options.clean = []) {first last : Workspace} :
    (run setting options).run first = (.ok (), last) ↔
      ∃ paths, selectedPaths first.disk setting.root options = .ok paths ∧
        (paths = [] ∧ last = logged first [.nothingFound] ∨
          paths ≠ [] ∧ ∃ readings read,
            (readAll setting (options.importPaths.map (Path.join setting.root)) paths).run first =
              (.ok readings, read) ∧
            (writeAndCheck setting options paths readings).run read = (.ok (), last)) := by
  rw [MessageForge.run, run_bind_ok _ (run_clean_of_nil hclean first), run_bind_ok _ (run_disk first)]
  cases hselected : selectedPaths first.disk setting.root options with
  | error fault =>
      constructor
      · intro h
        cases h
      · rintro ⟨paths, hpaths, -⟩
        cases hpaths
  | ok paths =>
      rw [run_bind_ok _ (run_ofFile_ok paths first)]
      simp only [Except.ok.injEq, exists_eq_left']
      by_cases hempty : paths = []
      · subst hempty
        show ((Except.ok (), logged first [.nothingFound]) : Except Failure Unit × Workspace) =
          (.ok (), last) ↔ _
        simp [eq_comm]
      · rw [if_neg fun h => hempty (List.isEmpty_iff.mp h)]
        simp only [hempty, false_and, false_or, ne_eq, not_false_eq_true, true_and]
        constructor
        · intro h
          obtain ⟨readings, read, hread, hrest⟩ := run_bind_eq_ok h
          exact ⟨readings, read, hread, hrest⟩
        · rintro ⟨readings, read, hread, hrest⟩
          rw [run_bind_ok _ hread]
          exact hrest

/-- What is left at the place of a module is the same whatever there was before. -/
theorem exists_item?_of_run_writeAndCheck {placed : Placed}
    (hplaced : placed ∈ layout setting options paths readings) : ∃ content,
    ∀ first last, (writeAndCheck setting options paths readings).run first = (.ok (), last) →
      last.disk.item? (Path.place setting.root placed.path) = some (.file content) := by
  obtain ⟨reading, hreading, rfl⟩ := List.mem_map.mp hplaced
  rw [place_path]
  obtain ⟨other, -, -, hwritten⟩ :=
    exists_item?_of_run_writePhase setting options paths reading hreading
  obtain ⟨new, hchecked⟩ := exists_item?_of_run_checkModules setting
    ((layout setting options paths readings).map Placed.path)
    (modulePlace setting options paths reading.path) (setting.programs.moduleBytes other.draft)
  have hphases : ∀ {first last : Workspace},
      (writeAndCheck setting options paths readings).run first = (.ok (), last) →
      ∃ between : Workspace, between.disk.item? (modulePlace setting options paths reading.path) =
          some (.file (setting.programs.moduleBytes other.draft)) ∧
        (if !options.skipChecker then
          checkModules setting ((layout setting options paths readings).map Placed.path)
          else pure ()).run between = (.ok (), last) := by
    intro first last h
    obtain ⟨files, between, hwrite, hcheck⟩ := run_bind_eq_ok h
    rw [run_writePhase_eq_ok hwrite] at hcheck
    exact ⟨between, hwritten _ _ _ hwrite, hcheck⟩
  cases hskip : options.skipChecker with
  | true =>
      refine ⟨setting.programs.moduleBytes other.draft, fun first last h => ?_⟩
      obtain ⟨between, hitem, hcheck⟩ := hphases h
      rw [hskip] at hcheck
      cases hcheck
      exact hitem
  | false =>
      refine ⟨new, fun first last h => ?_⟩
      obtain ⟨between, hitem, hcheck⟩ := hphases h
      rw [hskip] at hcheck
      exact hchecked between last hitem hcheck

theorem changesOnly_check (setting : Setting) (options : Options) (files : List Text) :
    ChangesOnly (fun _ _ => True)
      (if !options.skipChecker then checkModules setting files else pure ()) := by
  split
  · exact changesOnly_checkModules fun _ _ _ _ _ _ => trivial
  · exact .pure ()

/-- All modules are there once they have been written and checked. -/
theorem isSettled_of_run_writeAndCheck {first last : Workspace}
    (habsolute : ∀ reading ∈ readings, isAbsolute reading.path = true)
    (h : (writeAndCheck setting options paths readings).run first = (.ok (), last)) :
    ∀ placed ∈ layout setting options paths readings, IsSettled setting.root last.disk placed := by
  intro placed hplaced
  obtain ⟨files, written, hwritten, hcheck⟩ := run_bind_eq_ok h
  have hchecked := changesOnly_check setting options files written
  rw [hcheck] at hchecked
  refine IsSettled.mono ?_ hchecked.disk
  rw [writePhase_eq] at hwritten
  obtain ⟨⟨⟩, between, hwrite, hwritten⟩ := run_bind_eq_ok hwritten
  obtain ⟨⟨⟩, marked, hmark, hwritten⟩ := run_bind_eq_ok hwritten
  cases hwritten
  have hmarked := changesOnly_markTyped setting
    (sortedSet ((layout setting options paths readings).map Placed.directory)) between
  rw [hmark] at hmarked
  obtain ⟨-, hlocate⟩ := run_writeAll_eq_ok hwrite placed hplaced
  obtain ⟨other, -, -, hlast⟩ := exists_item?_of_run_writeAll _ placed hplaced
  obtain ⟨reading, hreading, -, hdirectory, hpath⟩ := mem_layout hplaced
  have hne : placed.directory ≠ [] := by
    rw [hdirectory]
    unfold Placement.outputDirectory
    split
    · intro hnil
      have hslash := (isAbsolute_directory reading.path).trans (habsolute reading hreading)
      rw [hnil] at hslash
      cases hslash
    · next houtput =>
        have hgiven : options.outputDirectory ≠ [] := fun hnil => houtput (List.isEmpty_iff.mpr hnil)
        split
        · exact hgiven
        · exact join_ne_nil_of_left hgiven _
  refine ⟨hmarked.disk.isFileAt ⟨hlocate, _, hlast _ _ hwrite⟩, hmarked.disk.isDirectory ?_, ?_⟩
  · have hname : IsName (Placement.generatedName (baseName reading.path)) :=
      Placement.isName_generatedName (not_mem_baseName reading.path)
    rw [hpath] at hlocate
    exact Disk.isDirectory_of_locate_join hne hname.isAbsolute hlocate
  · exact exists?_of_run_markTyped hmark _ (mem_sortedSet.mpr (List.mem_map_of_mem hplaced))

/-- Where all modules are there, the phases go through again and change no more
than modules. -/
theorem run_writeAndCheck_again {first last : Workspace}
    (h : (writeAndCheck setting options paths readings).run first = (.ok (), last))
    (second : Workspace)
    (hsettled : ∀ placed ∈ layout setting options paths readings,
      IsSettled setting.root second.disk placed) :
    ∃ later, (writeAndCheck setting options paths readings).run second = (.ok (), later) ∧
      Disk.Rewrites (fun location => ∃ placed ∈ layout setting options paths readings,
        location = Path.place setting.root placed.path) second.disk later.disk := by
  obtain ⟨files, written, hwritten, hcheck⟩ := run_bind_eq_ok h
  obtain rfl := run_writePhase_eq_ok hwritten
  rw [writePhase_eq] at hwritten
  obtain ⟨⟨⟩, between, hwrite, -⟩ := run_bind_eq_ok hwritten
  obtain ⟨again, hagain, hrewrites⟩ := run_writeAll_again setting
    (fun location => ∃ placed ∈ layout setting options paths readings,
      location = Path.place setting.root placed.path)
    (!options.outputDirectory.isEmpty) second (formats_of_run_writeAll hwrite)
    fun placed hplaced => ⟨hsettled placed hplaced, placed, hplaced, rfl⟩
  have hstill : ∀ placed ∈ layout setting options paths readings,
      IsSettled setting.root again.disk placed :=
    fun placed hplaced => (hsettled placed hplaced).mono hrewrites.changesOnly
  have hmark : (markTyped setting
      (sortedSet ((layout setting options paths readings).map Placed.directory))).run again =
        (.ok (), again) := run_markTyped_again again fun directory hdirectory => by
      obtain ⟨placed, hplaced, rfl⟩ := List.mem_map.mp (mem_sortedSet.mp hdirectory)
      exact (hstill placed hplaced).marker
  have hphase : (writePhase setting options paths readings).run second =
      (.ok ((layout setting options paths readings).map Placed.path), again) := by
    rw [writePhase_eq, run_bind_ok _ hagain, run_bind_ok _ hmark]
    rfl
  rw [writeAndCheck, run_bind_ok _ hphase]
  cases hskip : options.skipChecker with
  | true => exact ⟨again, rfl, hrewrites⟩
  | false =>
      rw [hskip] at hcheck
      obtain ⟨later, hrun, hchecked⟩ := run_checkModules_again (fun location =>
        ∃ placed ∈ layout setting options paths readings,
          location = Path.place setting.root placed.path) hcheck again fun file hfile => by
        obtain ⟨placed, hplaced, rfl⟩ := List.mem_map.mp hfile
        exact ⟨(hstill placed hplaced).module, placed, hplaced, rfl⟩
      exact ⟨later, hrun, hrewrites.trans hchecked⟩

/-! ## The same run once more -/

/-- What a run has left does not count as input for the next one: it is not
selected, and no schema that is selected rests on it, so that the compiler gives
the same for it. -/
structure OutputsAreNoInputs (setting : Setting) (options : Options) (before after : Disk) : Prop where
  searches : before.AddsNoInput after setting.root options
  schemas : ∀ paths, selectedPaths before setting.root options = .ok paths → ∀ path ∈ paths,
    Text.endsWith Placement.schemaExtension path = true →
      before.isFile setting.root path = true →
      setting.compiler.GivesAgain before after setting.root
        (options.importPaths.map (Path.join setting.root)) path

/-- For the compiler that is there it is enough that nothing is written to files
that are selected or that a selected schema rests on. -/
theorem OutputsAreNoInputs.of_keepsImports (hcompiler : setting.compiler = Schema.capnpCompiler)
    (hgrows : before.Grows after) (hsearches : before.AddsNoInput after setting.root options)
    (hkept : ∀ paths, selectedPaths before setting.root options = .ok paths → ∀ path ∈ paths,
      ∀ location, before.IsFileAt setting.root path location →
        before.item? location = after.item? location)
    (himports : ∀ paths, selectedPaths before setting.root options = .ok paths → ∀ path ∈ paths,
      Text.endsWith Placement.schemaExtension path = true → Schema.KeepsImports before after
        setting.root (options.importPaths.map (Path.join setting.root)) path) :
    OutputsAreNoInputs setting options before after where
  searches := hsearches
  schemas := fun paths hpaths path hpath hschema hisFile => by
    obtain ⟨location, hfile⟩ := Disk.isFileAt_of_isFile hisFile
    rw [hcompiler]
    exact Schema.capnpCompiler_givesAgain hgrows hfile (hkept paths hpaths path hpath location hfile)
      (himports paths hpaths path hpath hschema)

/-- A run without a clean phase adds outputs to the disk, and replaces modules only. -/
theorem changesOnly_execute_of_clean_nil (setting : Setting) {arguments : List Text}
    (hoptions : Options.ofArguments arguments = .ok options) (hclean : options.clean = [])
    (disk : Disk) : disk.ChangesOnly
      (fun location _ => IsModulePlace location ∨
        disk.item? location = none ∧ location.getLast? = some typedMarker)
      (execute setting arguments disk).workspace.disk := by
  have hchange := changesOnly_execute setting arguments disk
  rw [cleanedDisk, hoptions] at hchange
  dsimp only at hchange
  rw [run_clean_of_nil hclean] at hchange
  refine hchange.mono ?_
  rintro location content (hmodule | ⟨hnone, -, directory, rfl, -⟩)
  · exact .inl hmodule
  · exact .inr ⟨hnone, List.getLast?_concat⟩

theorem execute_exits_zero_iff {arguments : List Text} {disk : Disk}
    (hoptions : Options.ofArguments arguments = .ok options) :
    (execute setting arguments disk).ending = .exits 0 ↔ ∃ last,
      (run setting options).run (logged { disk } [.workingFrom setting.root]) = (.ok (), last) := by
  refine ⟨fun h => ⟨_, run_eq_ok_of_exits_zero hoptions h⟩, ?_⟩
  rintro ⟨last, hrun⟩
  rw [execute, hoptions]
  dsimp only
  rw [run_runReporting, hrun]

theorem grows_execute_of_clean_nil (setting : Setting) {arguments : List Text} {disk : Disk}
    (hoptions : Options.ofArguments arguments = .ok options) (hclean : options.clean = [])
    (htree : disk.IsTree) : disk.Grows (execute setting arguments disk).workspace.disk :=
  ⟨htree, htree.execute setting arguments,
    (changesOnly_execute_of_clean_nil setting hoptions hclean disk).mono fun _ _ _ => trivial⟩

theorem addsOutputs_execute_of_clean_nil (setting : Setting) {arguments : List Text}
    (hoptions : Options.ofArguments arguments = .ok options) (hclean : options.clean = [])
    (disk : Disk) : disk.AddsOutputs (execute setting arguments disk).workspace.disk := by
  intro location content hitem
  rcases (changesOnly_execute_of_clean_nil setting hoptions hclean disk).changed hitem with
    hsame | hmodule | ⟨-, hmarker⟩
  · exact .inl ⟨content, hsame⟩
  · exact .inr (.inl hmodule)
  · exact .inr (.inr hmarker)

/-- The workspace in which a run starts that has got its arguments. -/
def startOf (setting : Setting) (disk : Disk) : Workspace :=
  logged { disk } [.workingFrom setting.root]

/-- A selected file that no output is an input of gives the same draft after
the run. -/
theorem draftOutcome_execute {arguments : List Text} {disk : Disk}
    (hoptions : Options.ofArguments arguments = .ok options) (hclean : options.clean = [])
    (htree : disk.IsTree)
    (hapart : OutputsAreNoInputs setting options disk
      (execute setting arguments disk).workspace.disk)
    (hpaths : selectedPaths disk setting.root options = .ok paths) {path : Text}
    (hpath : path ∈ paths) {draft : Draft}
    (hdraft : draftOutcome setting options disk path = .ok draft) :
    draftOutcome setting options (execute setting arguments disk).workspace.disk path =
      .ok draft := by
  have hchange := changesOnly_execute_of_clean_nil setting hoptions hclean disk
  have hgrows := grows_execute_of_clean_nil setting hoptions hclean htree
  obtain ⟨location, hfile⟩ := isFileAt_of_draftOutcome hdraft
  obtain ⟨content, hcontent⟩ := hfile.2
  -- the file is neither a module, which is never selected, nor a marker, which is new
  have hkept := hchange.unchanged (fun new => ?_) hcontent
  · rw [draftOutcome_eq hgrows hfile (hcontent.trans hkept.symm)
      (fun hschema => hapart.schemas paths hpaths path hpath hschema
        (Disk.isFile_iff.mpr ⟨location, hfile⟩)), hdraft]
  · rintro (hmodule | ⟨hnone, -⟩)
    · have hgenerated := hfile.isGenerated hmodule
      rw [not_isGenerated_of_mem_selectedPaths hpaths hpath] at hgenerated
      cases hgenerated
    · rw [hcontent] at hnone
      cases hnone

/-- The second run goes through and leaves what the first one has left. -/
theorem exists_run_again {arguments : List Text} {disk : Disk}
    (hoptions : Options.ofArguments arguments = .ok options) (hclean : options.clean = [])
    (hroot : isAbsolute setting.root = true) (htree : disk.IsTree)
    (hending : (execute setting arguments disk).ending = .exits 0)
    (hapart : OutputsAreNoInputs setting options disk
      (execute setting arguments disk).workspace.disk)
    (hpaths : selectedPaths disk setting.root options = .ok paths)
    (hpaths' : selectedPaths (execute setting arguments disk).workspace.disk setting.root options =
      .ok paths) :
    ∃ last, (run setting options).run
        (startOf setting (execute setting arguments disk).workspace.disk) = (.ok (), last) ∧
      ∀ location, last.disk.item? location =
        (execute setting arguments disk).workspace.disk.item? location := by
  have hrun := run_eq_ok_of_exits_zero hoptions hending
  obtain ⟨selected, hselected, hphases⟩ := (run_run_eq_ok_iff hclean).mp hrun
  have hselected' : selectedPaths disk setting.root options = .ok selected := hselected
  obtain rfl := Except.ok.inj (hpaths.symm.trans hselected')
  rcases hphases with ⟨hempty, hlast⟩ | ⟨hne, readings, read, hread, hwrite⟩
  · exact ⟨_, (run_run_eq_ok_iff hclean).mpr ⟨paths, hpaths', .inl ⟨hempty, rfl⟩⟩, fun _ => rfl⟩
  · obtain ⟨events, hreadAgain⟩ := run_readAll_again hread
      (startOf setting (execute setting arguments disk).workspace.disk)
      fun path hpath draft hdraft =>
        draftOutcome_execute hoptions hclean htree hapart hpaths hpath hdraft
    have habsolute : ∀ reading ∈ readings, isAbsolute reading.path = true := fun reading hreading =>
      htree.isAbsolute_of_mem_selectedPaths hroot hpaths _
        (((run_readAll_eq_ok hread).2 reading).mp hreading).1
    have hsettled := isSettled_of_run_writeAndCheck habsolute hwrite
    obtain ⟨last, hlast, hrewrites⟩ := run_writeAndCheck_again hwrite
      (logged (startOf setting (execute setting arguments disk).workspace.disk) events) hsettled
    refine ⟨last, (run_run_eq_ok_iff hclean).mpr
      ⟨paths, hpaths', .inr ⟨hne, readings, _, hreadAgain, hlast⟩⟩, fun location => ?_⟩
    rcases hrewrites location with hkept | ⟨⟨placed, hplaced, rfl⟩, -⟩
    · exact hkept
    · obtain ⟨content, hcontent⟩ := exists_item?_of_run_writeAndCheck hplaced
      rw [hcontent _ _ hlast, hcontent _ _ hwrite]

/-- If the outputs of a run do not count as inputs, the same run once more goes
through, loads the same files and leaves all files as they are. -/
theorem rerun_changes_nothing {arguments : List Text} {disk : Disk}
    (hoptions : Options.ofArguments arguments = .ok options) (hclean : options.clean = [])
    (hroot : isAbsolute setting.root = true) (htree : disk.IsTree)
    (hending : (execute setting arguments disk).ending = .exits 0)
    (hapart : OutputsAreNoInputs setting options disk
      (execute setting arguments disk).workspace.disk) :
    let first := execute setting arguments disk
    let second := execute setting arguments first.workspace.disk
    second.ending = .exits 0 ∧ second.workspace.loaded = first.workspace.loaded ∧
      ∀ location, second.workspace.disk.item? location = first.workspace.disk.item? location := by
  intro first second
  have hcleaned : ∀ start : Disk, cleanedDisk setting arguments start = start := by
    intro start
    rw [cleanedDisk, hoptions]
    dsimp only
    rw [run_clean_of_nil hclean]
    rfl
  obtain ⟨paths, hselected, -⟩ :=
    (run_run_eq_ok_iff hclean).mp (run_eq_ok_of_exits_zero hoptions hending)
  have hpaths : selectedPaths disk setting.root options = .ok paths := hselected
  have hpaths' := (grows_execute_of_clean_nil setting hoptions hclean htree).selectedPaths_eq
    (addsOutputs_execute_of_clean_nil setting hoptions hclean disk) hapart.searches hroot hpaths
  obtain ⟨last, hlast, hitems⟩ :=
    exists_run_again hoptions hclean hroot htree hending hapart hpaths hpaths'
  have hsecond : second.ending = .exits 0 := (execute_exits_zero_iff hoptions).mpr ⟨last, hlast⟩
  have hworkspace : second.workspace = last := by
    have hends := run_eq_ok_of_exits_zero hoptions hsecond
    exact (Prod.mk.inj (hlast.symm.trans hends)).2.symm
  have hloaded := selectedPaths_eq_loaded hoptions hending
  have hloaded' := selectedPaths_eq_loaded hoptions hsecond
  rw [hcleaned, hpaths] at hloaded
  rw [hcleaned, hpaths'] at hloaded'
  refine ⟨hsecond, ?_, fun location => by rw [hworkspace, hitems location]⟩
  exact (Except.ok.inj hloaded').symm.trans (Except.ok.inj hloaded)

/-- To search a whole tree and to write into a new directory of this tree. -/
def treeArguments : List Text :=
  ["-p", ".", "-r", "-o", "out", "--no-pyright"]

theorem module_in_searched_tree_stays :
    let first := execute { root := "/" } treeArguments systemDisk
    let second := execute { root := "/" } treeArguments first.workspace.disk
    first.workspace.loaded = ["/./main_messages.py"] ∧
      (first.workspace.disk.item? ["out", "main_messages_derived.py"]).isSome = true ∧
      second.ending = .exits 0 ∧ second.workspace.loaded = ["/./main_messages.py"] ∧
      ∀ location, second.workspace.disk.item? location = first.workspace.disk.item? location := by
  intro first second
  have hoptions : Options.ofArguments treeArguments =
      .ok { paths := ["."], outputDirectory := "out", skipChecker := true, recursive := true } := by
    decide +kernel
  have htree : systemDisk.IsTree := Disk.isTree_of_items (by decide) (by decide)
  have hending : first.ending = .exits 0 := by decide +kernel
  have hloaded : first.workspace.loaded = ["/./main_messages.py"] := by decide +kernel
  have hmodule : (first.workspace.disk.item? ["out", "main_messages_derived.py"]).isSome = true := by
    decide +kernel
  have hapart : OutputsAreNoInputs { root := "/" }
      { paths := ["."], outputDirectory := "out", skipChecker := true, recursive := true }
      systemDisk first.workspace.disk := by
    refine ⟨⟨fun pattern hpattern hdirectory => ?_, fun pattern hpattern hwild => ?_⟩,
      fun paths hpaths path hpath hschema _ => ?_⟩
    · obtain rfl := List.mem_singleton.mp hpattern
      exact absurd hdirectory (by decide)
    · obtain rfl := List.mem_singleton.mp hpattern
      exact absurd hwild (by decide)
    · have hselected : selectedPaths systemDisk "/"
          { paths := ["."], outputDirectory := "out", skipChecker := true, recursive := true } =
            .ok ["/./main_messages.py"] := by decide +kernel
      rw [hselected] at hpaths
      cases hpaths
      obtain rfl := List.mem_singleton.mp hpath
      exact absurd hschema (by decide)
  obtain ⟨hends, hsame, hitems⟩ := rerun_changes_nothing hoptions rfl (by decide) htree hending hapart
  exact ⟨hloaded, hmodule, hends, hsame.trans hloaded, hitems⟩

end MessageForge
