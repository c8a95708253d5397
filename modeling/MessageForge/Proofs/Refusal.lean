import MessageForge.Command.Execution
import MessageForge.Proofs.Removal

/-!
# Refused runs

All files are read and derived before anything is written. A run that meets a
refused file leaves what its clean phase has left, reports the refusal as its
one error and has started no program, whatever else there was to generate.
-/

namespace MessageForge

open Job

/-! ## Events about files -/

/-- What is reported of a declaration file itself: no error, and nothing about
the course of the run. -/
def IsAboutFile (events : List Event) : Prop :=
  ∀ event ∈ events, event.level ≠ .error ∧ event.origin ≠ .run

namespace IsAboutFile

theorem singleton {event : Event} (hlevel : event.level ≠ .error) (horigin : event.origin ≠ .run) :
    IsAboutFile [event] :=
  List.forall_mem_singleton.mpr ⟨hlevel, horigin⟩

theorem append {front back : List Event} (hfront : IsAboutFile front) (hback : IsAboutFile back) :
    IsAboutFile (front ++ back) :=
  List.forall_mem_append.mpr ⟨hfront, hback⟩

theorem isNoError {events : List Event} (h : IsAboutFile events) : IsNoError events :=
  fun event hevent => (h event hevent).1

end IsAboutFile

/-! ## Events of a draft -/

theorem Derivation.isAboutFile_events (derivation : Derivation) : IsAboutFile derivation.events := by
  have hconstructor : ∀ name (role : RoleShape), IsAboutFile (constructorEvents name role) := by
    intro name role
    cases role with
    | stored field => exact .singleton (nofun) (nofun)
    | derived category => exact List.forall_mem_nil _
  have hinterface : ∀ name (role : RoleShape), IsAboutFile (interfaceEvents name role) :=
    fun name role => .singleton (nofun) (nofun)
  have hmissing : ∀ name category : Text, IsAboutFile
      (if category = name then [Event.suffixMissing name category] else []) := by
    intro name category
    split
    · exact .singleton (nofun) (nofun)
    · exact List.forall_mem_nil _
  exact ((hmissing _ _).append (hconstructor _ _)).append (hinterface _ _)

namespace Draft

theorem isAboutFile_report {draft : Draft} {events : List Event} (h : IsAboutFile draft.events)
    (hevents : IsAboutFile events) : IsAboutFile (draft.report events).events :=
  h.append hevents

theorem isAboutFile_addEntry {draft next : Draft} {entry : Entry} (h : IsAboutFile draft.events)
    (hadd : draft.addEntry entry = .ok next) : IsAboutFile next.events := by
  cases entry with
  | declaration declaration =>
      obtain ⟨derivation, -, hnext⟩ := bind_eq_ok_iff.mp hadd
      cases hnext
      exact h.append derivation.isAboutFile_events
  | definition definition =>
      obtain ⟨block, -, hnext⟩ := bind_eq_ok_iff.mp hadd
      cases hnext
      exact h

theorem isAboutFile_addEntries : ∀ (entries : List Entry) (draft : Draft),
    IsAboutFile draft.events → IsAboutFile (draft.addEntries entries).1.events
  | [], _, h => h
  | entry :: rest, draft, h => by
      rw [addEntries]
      cases hadd : draft.addEntry entry with
      | error diagnostic => exact h
      | ok next => exact isAboutFile_addEntries rest next (isAboutFile_addEntry h hadd)

theorem events_addImport (draft : Draft) (line : Text) :
    (draft.addImport line).events = draft.events := by
  rw [addImport]
  split <;> rfl

theorem events_addTypingName (draft : Draft) (name : Text) :
    (draft.addTypingName name).events = draft.events := by
  rw [addTypingName]
  split <;> rfl

theorem events_addImports : ∀ (lines : List Text) (draft : Draft),
    (draft.addImports lines).events = draft.events
  | [], _ => rfl
  | line :: rest, draft => (events_addImports rest (draft.addImport line)).trans
      (draft.events_addImport line)

theorem events_addModuleImports (draft : Draft) :
    draft.addModuleImports.events = draft.events := by
  rw [addModuleImports]
  split
  · rfl
  · rw [events_addImports, events_addImport, events_addTypingName, events_addImport]

theorem isAboutFile_generateAll (file : DeclarationFile) :
    IsAboutFile (ofFile file).generateAll.1.events := by
  have hentries := isAboutFile_addEntries file.entries (ofFile file) (List.forall_mem_nil _)
  rw [generateAll]
  cases hadd : (ofFile file).addEntries (ofFile file).file.entries with
  | mk draft refused =>
      have hadd' : (ofFile file).addEntries file.entries = (draft, refused) := hadd
      rw [hadd'] at hentries
      cases refused with
      | some diagnostic => exact hentries
      | none =>
          refine isAboutFile_report ?_ (.singleton (nofun) (nofun))
          rw [events_addModuleImports]
          exact hentries

end Draft

/-! ## Events of the front ends -/

namespace Schema

theorem isAboutFile_hint (nested : List NestedNode) : ∀ type : ValueType,
    IsAboutFile (type.hint nested).2
  | .plain _ | .enumeration _ | .record _ => List.forall_mem_nil _
  | .list element => isAboutFile_hint nested element
  | .interface _ | .anyPointer => .singleton (nofun) (nofun)

theorem isAboutFile_ofFields (nested : List NestedNode) : ∀ fields : List NodeField,
    IsAboutFile (SlotFields.ofFields nested fields).events
  | [] | .group _ :: _ => List.forall_mem_nil _
  | .slot _ type :: rest => (isAboutFile_hint nested type).append (isAboutFile_ofFields nested rest)

theorem isAboutFile_declarationOf (nested : List NestedNode) (source : Text) (node : Node) :
    IsAboutFile (declarationOf nested source node).2 := by
  unfold declarationOf
  split
  · next count fields hcontent =>
      unfold recordDeclaration
      dsimp only
      split
      · exact List.forall_mem_nil _
      · split
        · exact isAboutFile_ofFields nested fields
        · split <;> exact isAboutFile_ofFields nested fields
  all_goals exact List.forall_mem_nil _

theorem isAboutFile_declarationsOf (schema : CompiledSchema) (source : Text) :
    IsAboutFile (declarationsOf schema source).2 := by
  unfold declarationsOf
  dsimp only
  split
  · exact .singleton (nofun) (nofun)
  · refine IsAboutFile.append ?_ (.singleton (nofun) (nofun))
    intro event hevent
    obtain ⟨found, hfound, hevent⟩ := List.mem_flatMap.mp hevent
    obtain ⟨inner, -, rfl⟩ := List.mem_map.mp hfound
    exact isAboutFile_declarationOf _ source inner.node event hevent

end Schema

/-! ## Reading leaves the disk alone -/

variable {setting : Setting} {importPaths : List Text}

theorem onlyReads_readSource (path : Text) : OnlyReads (readSource setting path) := by
  refine .bind .disk fun onto => .bind (.ofFile _) fun content => ?_
  split
  · exact .throw _
  · refine .bind (.within _) fun _ => ?_
    split
    · exact .throw _
    · exact .bind (.reportAll (.singleton (nofun))) fun _ => .pure _

theorem onlyReads_readSchema (path : Text) : OnlyReads (readSchema setting importPaths path) :=
  .bind .disk fun _ => .bind (.ofResult _) fun schema => .bind (.within _) fun _ =>
    .bind (.reportAll (Schema.isAboutFile_declarationsOf schema path).isNoError) fun _ => .pure _

theorem onlyReads_readDraft (path : Text) : OnlyReads (readDraft setting importPaths path) := by
  have hread : OnlyReads (readDeclarations setting importPaths path) := by
    rw [readDeclarations]
    split
    · exact onlyReads_readSchema path
    · exact onlyReads_readSource path
  refine .bind hread fun file => .bind (.reportAll (Draft.isAboutFile_generateAll file).isNoError) fun _ => ?_
  split
  · exact .throw _
  · exact .pure _

/-- What comes of reading and deriving one file, which the disk alone decides. -/
def draftOutcome (setting : Setting) (options : Options) (disk : Disk) (path : Text) :
    Except Failure Draft :=
  ((readDraft setting (options.importPaths.map (Path.join setting.root)) path).run { disk }).1

theorem run_readDraft (options : Options) (path : Text) (workspace : Workspace) {disk : Disk}
    (hdisk : workspace.disk = disk) : ∃ events, IsNoError events ∧
      (readDraft setting (options.importPaths.map (Path.join setting.root)) path).run workspace =
        (draftOutcome setting options disk path, logged workspace events) :=
  (onlyReads_readDraft path).run_eq hdisk

variable {options : Options} {disk : Disk} {path : Text} {failure : Failure} {draft : Draft}

/-- A file that fails ends the loop. -/
theorem run_readAll_cons_error (h : draftOutcome setting options disk path = .error failure)
    (rest : List Text) {workspace : Workspace} (hdisk : workspace.disk = disk) :
    ∃ events, IsNoError events ∧
      (readAll setting (options.importPaths.map (Path.join setting.root)) (path :: rest)).run
        workspace = (.error failure, logged workspace events) := by
  obtain ⟨events, hevents, hrun⟩ := run_readDraft options path
    (logged workspace [.reading path]) hdisk
  rw [h, logged_logged] at hrun
  refine ⟨[.reading path] ++ events, .append (.singleton (nofun)) hevents, ?_⟩
  rw [readAll, run_bind_ok _ (run_report _ workspace), run_bind_error _ hrun]

/-- The readings with that of one more file in front, which is none if the file
declares nothing. -/
def readingsWith (path : Text) (draft : Draft) (others : List Reading) : List Reading :=
  if draft.typeNames.isEmpty then others else { path, draft } :: others

theorem mem_readingsWith {others : List Reading} {reading : Reading} :
    reading ∈ readingsWith path draft others ↔
      (reading = { path, draft } ∧ draft.typeNames ≠ []) ∨ reading ∈ others := by
  rw [readingsWith]
  split
  · next hempty =>
      rw [or_iff_right]
      exact fun h => h.2 (List.isEmpty_iff.mp hempty)
  · next hempty =>
      have hne : draft.typeNames ≠ [] := fun hnil => hempty (List.isEmpty_iff.mpr hnil)
      rw [List.mem_cons, and_iff_left hne]

/-- A file that is read and derived leaves the rest of the loop to the others. -/
theorem run_readAll_cons_ok (h : draftOutcome setting options disk path = .ok draft)
    (rest : List Text) {workspace : Workspace} (hdisk : workspace.disk = disk) :
    ∃ events, IsNoError events ∧
      (readAll setting (options.importPaths.map (Path.join setting.root)) (path :: rest)).run
        workspace =
      (readAll setting (options.importPaths.map (Path.join setting.root)) rest >>= fun others =>
        pure (readingsWith path draft others)).run (logged workspace events) := by
  obtain ⟨events, hevents, hrun⟩ := run_readDraft options path
    (logged workspace [.reading path]) hdisk
  rw [h, logged_logged] at hrun
  have hbefore : IsNoError ([.reading path] ++ events) := .append (.singleton (nofun)) hevents
  rw [readAll, run_bind_ok _ (run_report _ workspace), run_bind_ok _ hrun]
  by_cases hempty : draft.typeNames.isEmpty = true
  · have hnothing : IsNoError [.nothingDeclared path] := .singleton (nofun)
    refine ⟨[.reading path] ++ events ++ [.nothingDeclared path], hbefore.append hnothing, ?_⟩
    simp only [readingsWith, if_pos hempty, bind_pure]
    rw [run_bind_ok _ (run_report _ _), logged_logged]
  · refine ⟨[.reading path] ++ events, hbefore, ?_⟩
    simp only [readingsWith, if_neg hempty]

/-- What a loop that goes through has made of its first file. -/
theorem run_readAll_cons_eq_ok {rest : List Text} {readings : List Reading}
    {before after : Workspace}
    (h : (readAll setting (options.importPaths.map (Path.join setting.root)) (path :: rest)).run
      before = (.ok readings, after)) :
    ∃ draft others events, draftOutcome setting options before.disk path = .ok draft ∧
      (readAll setting (options.importPaths.map (Path.join setting.root)) rest).run
        (logged before events) = (.ok others, after) ∧
      readings = readingsWith path draft others := by
  cases houtcome : draftOutcome setting options before.disk path with
  | error failure =>
      obtain ⟨events, -, hrun⟩ := run_readAll_cons_error houtcome rest rfl
      rw [hrun] at h
      cases h
  | ok draft =>
      obtain ⟨events, -, hrun⟩ := run_readAll_cons_ok houtcome rest rfl
      rw [hrun] at h
      obtain ⟨others, last, hothers, h⟩ := run_bind_eq_ok h
      cases h
      exact ⟨draft, others, events, rfl, hothers, rfl⟩

/-- The loop over some files ends with a failure, and has reported no error. -/
def ReadingFails (setting : Setting) (options : Options) (disk : Disk) (failure : Failure)
    (paths : List Text) : Prop :=
  ∀ workspace : Workspace, workspace.disk = disk → ∃ events, IsNoError events ∧
    (readAll setting (options.importPaths.map (Path.join setting.root)) paths).run workspace =
      (.error failure, logged workspace events)

theorem ReadingFails.here (h : draftOutcome setting options disk path = .error failure)
    (rest : List Text) : ReadingFails setting options disk failure (path :: rest) :=
  fun _ hdisk => run_readAll_cons_error h rest hdisk

/-- A file that is read and derived keeps no failure behind it from coming. -/
theorem ReadingFails.later {rest : List Text}
    (h : draftOutcome setting options disk path = .ok draft)
    (hrest : ReadingFails setting options disk failure rest) :
    ReadingFails setting options disk failure (path :: rest) := by
  intro workspace hdisk
  obtain ⟨events, hevents, hrun⟩ := run_readAll_cons_ok h rest hdisk
  obtain ⟨events', hevents', hrun'⟩ := hrest (logged workspace events) hdisk
  exact ⟨events ++ events', hevents.append hevents',
    by rw [hrun, run_bind_error _ hrun', logged_logged]⟩

theorem readingFails_of_first (hpath : draftOutcome setting options disk path = .error failure)
    (rest : List Text) : ∀ {front : List Text},
      (∀ loaded ∈ front, ∃ draft, draftOutcome setting options disk loaded = .ok draft) →
      ReadingFails setting options disk failure (front ++ path :: rest)
  | [], _ => .here hpath rest
  | first :: _, hfront => by
      obtain ⟨draft, hdraft⟩ := hfront first (List.mem_cons_self ..)
      exact .later hdraft (readingFails_of_first hpath rest
        fun loaded hloaded => hfront loaded (List.mem_cons_of_mem _ hloaded))

/-! ## The whole run -/

theorem run_run_refused (cleaned : Workspace) {paths : List Text}
    (hselected : selectedPaths cleaned.disk setting.root options = .ok paths)
    (hne : paths ≠ []) (hfails : ReadingFails setting options cleaned.disk failure paths)
    {workspace : Workspace} (hclean : (clean setting options).run workspace = (.ok (), cleaned)) :
    ∃ events, IsNoError events ∧
      (run setting options).run workspace = (.error failure, logged cleaned events) := by
  obtain ⟨events, hevents, hrun⟩ := hfails cleaned rfl
  have hempty : ¬ paths.isEmpty = true := fun h => hne (List.isEmpty_iff.mp h)
  refine ⟨events, hevents, ?_⟩
  rw [MessageForge.run, run_bind_ok _ hclean, run_bind_ok _ (run_disk cleaned), hselected,
    run_bind_ok _ (run_ofFile_ok paths cleaned), if_neg hempty]
  exact run_bind_error _ hrun

/-- A refusal is reported once the run is over; every other failure goes on. -/
theorem run_runReporting (setting : Setting) (options : Options) (workspace : Workspace) :
    (runReporting setting options).run workspace =
      match (run setting options).run (logged workspace [.workingFrom setting.root]) with
      | (.ok (), after) => (.ok 0, after)
      | (.error (.refused diagnostic), after) => (.ok 1, logged after [.refused diagnostic])
      | (.error failure, after) => (.error failure, after) := by
  rw [runReporting, run_bind_ok _ (run_report _ workspace)]
  cases hrun : (run setting options).run (logged workspace [.workingFrom setting.root]) with
  | mk outcome after =>
      -- what is caught is seen only once the handler is applied to the run itself
      simp only [Job.run, ExceptT.run] at hrun
      simp only [tryCatch, tryCatchThe, MonadExceptOf.tryCatch, Job.run, ExceptT.run,
        ExceptT.tryCatch, bind, ExceptT.bind, ExceptT.mk, StateT.bind, ExceptT.bindCont]
      rw [hrun]
      cases outcome with
      | ok value => rfl
      | error failure => cases failure <;> rfl

/-- What an execution leaves is what its run leaves, with a refusal reported at most. -/
theorem exists_execute_workspace_eq (setting : Setting) (disk : Disk) {arguments : List Text}
    {options : Options} (hoptions : Options.ofArguments arguments = .ok options) :
    ∃ events, (execute setting arguments disk).workspace =
      logged ((run setting options).run (logged { disk } [.workingFrom setting.root])).2 events := by
  have hexecute : (execute setting arguments disk).workspace =
      ((runReporting setting options).run { disk }).2 := by rw [execute, hoptions]
  rw [hexecute, run_runReporting]
  split
  · next hrun => exact ⟨[], by rw [hrun, logged_nil]⟩
  · next hrun => exact ⟨_, by rw [hrun]⟩
  · next hrun => exact ⟨[], by rw [hrun, logged_nil]⟩

/-- A run that is executed with exit code 0 has gone through. -/
theorem run_eq_ok_of_exits_zero {setting : Setting} {disk : Disk} {arguments : List Text}
    {options : Options} (hoptions : Options.ofArguments arguments = .ok options)
    (h : (execute setting arguments disk).ending = .exits 0) :
    (run setting options).run (logged { disk } [.workingFrom setting.root]) =
      (.ok (), (execute setting arguments disk).workspace) := by
  rw [execute, hoptions] at h ⊢
  dsimp only at h ⊢
  rw [run_runReporting] at h ⊢
  cases hrun : (run setting options).run (logged { disk } [.workingFrom setting.root]) with
  | mk outcome after =>
      rw [hrun] at h
      cases outcome with
      | ok value => rfl
      | error failure => cases failure <;> cases h

theorem run_runReporting_refused {diagnostic : Diagnostic} {workspace after : Workspace}
    (h : (run setting options).run (logged workspace [.workingFrom setting.root]) =
      (.error (.refused diagnostic), after)) :
    (runReporting setting options).run workspace = (.ok 1, logged after [.refused diagnostic]) := by
  rw [run_runReporting, h]

/-- Where the first file that cannot be read and derived is refused, the run
exits with 1, that refusal is the one error it reports, no program is started,
and all that has changed is that the files to clean are gone. -/
theorem refused_file_leaves_no_output {setting : Setting} {arguments : List Text} {disk : Disk}
    {options : Options} {cleaned : Workspace} {front rest : List Text} {path : Text}
    {diagnostic : Diagnostic}
    (hoptions : Options.ofArguments arguments = .ok options)
    (hclean : (clean setting options).run { disk } = (.ok (), cleaned))
    (hselected : selectedPaths cleaned.disk setting.root options = .ok (front ++ path :: rest))
    (hfront : ∀ loaded ∈ front, ∃ draft,
      draftOutcome setting options cleaned.disk loaded = .ok draft)
    (hpath : draftOutcome setting options cleaned.disk path = .error (.refused diagnostic)) :
    (execute setting arguments disk).ending = .exits 1 ∧
    (execute setting arguments disk).workspace.events.filter (·.level = .error) =
      [.refused diagnostic] ∧
    (execute setting arguments disk).workspace.calls = [] ∧
    ∃ removed locations, cleanedPaths disk setting.root options = .ok removed ∧
      List.Forall₂ (disk.IsFileAt setting.root) removed locations ∧
      (execute setting arguments disk).workspace.disk = disk.without locations := by
  obtain ⟨removed, locations, hremoved, hfiles, hrun⟩ := run_clean_eq_ok hclean
  have hdisk : cleaned.disk = disk.without locations := by
    rw [hrun _ rfl] at hclean
    cases hclean
    rfl
  have hstart := hrun (logged { disk } [.workingFrom setting.root]) rfl
  have hfails := readingFails_of_first hpath rest hfront
  rw [hdisk] at hselected hfails
  have hne : front ++ path :: rest ≠ [] :=
    List.append_ne_nil_of_right_ne_nil _ (List.cons_ne_nil _ _)
  obtain ⟨events, hevents, hfailed⟩ := run_run_refused
    (cleared (logged { disk } [Event.workingFrom setting.root]) removed locations)
    hselected hne hfails hstart
  have hexecute : execute setting arguments disk =
      { ending := .exits 1
        workspace := logged (logged (cleared (logged { disk } [.workingFrom setting.root]) removed
          locations) events) [.refused diagnostic]
        isVerbose := options.verbose } := by
    rw [execute, hoptions]
    dsimp only
    rw [run_runReporting_refused hfailed]
  rw [hexecute]
  refine ⟨rfl, ?_, rfl, removed, locations, hremoved, hfiles, rfl⟩
  have hstarted : IsNoError [.workingFrom setting.root] := .singleton (nofun)
  have hbefore : IsNoError
      ([Event.workingFrom setting.root] ++ removed.map Event.removing ++ events) := by
    refine .append (.append hstarted fun event hevent => ?_) hevents
    obtain ⟨path, -, rfl⟩ := List.mem_map.mp hevent
    exact nofun
  show ([Event.workingFrom setting.root] ++ removed.map Event.removing ++ events ++
    [Event.refused diagnostic]).filter _ = _
  rw [List.filter_append, List.filter_eq_nil_iff.mpr fun event hevent => by
    simpa using hbefore event hevent]
  rfl

/-- A workspace with a module of an earlier run, a file without declarations
and a file that is no source text. -/
def brokenDisk : Disk :=
  { items := [(["old.py"], .file []), (["a.py"], .file []), (["b.py"], .file [41])] }

def brokenOptions : Options :=
  { clean := ["old.py"], paths := ["a.py", "b.py"] }

theorem broken_file_leaves_no_output :
    (execute { root := "/" } ["-c", "old.py", "-p", "a.py", "b.py"] brokenDisk).ending =
      .exits 1 ∧
    (execute { root := "/" } ["-c", "old.py", "-p", "a.py", "b.py"] brokenDisk).workspace.calls =
      [] := by
  let cleaned : Disk := { items := brokenDisk.items.drop 1 }
  have hoptions : Options.ofArguments ["-c", "old.py", "-p", "a.py", "b.py"] =
      .ok brokenOptions := by decide +kernel
  have hclean : (clean { root := "/" } brokenOptions).run { disk := brokenDisk } =
      (.ok (), { disk := cleaned, events := [.removing "/old.py"] }) := by decide +kernel
  have hsearched : searchedPaths cleaned "/" brokenOptions =
      .ok ["/a.py", "/b.py"] := by decide +kernel
  have hsorted : sortedSet ["/a.py", "/b.py"] = (["/a.py", "/b.py"] : List Text) := by
    rw [sortedSet, List.mergeSort_of_pairwise (by decide +kernel)]
    decide +kernel
  have hselected : selectedPaths cleaned "/" brokenOptions =
      .ok ([("/a.py" : Text)] ++ ("/b.py" : Text) :: []) := by
    rw [selectedPaths, hsearched]
    show Except.ok ((sortedSet ["/a.py", "/b.py"]).filter _) = _
    rw [hsorted]
    decide +kernel
  have hfront : draftOutcome { root := "/" } brokenOptions cleaned "/a.py" =
      .ok (Draft.ofFile { path := "/a.py" }).generateAll.1 := by decide +kernel
  have hpath : draftOutcome { root := "/" } brokenOptions cleaned "/b.py" =
      .error (.refused
        { complaint := .invalidSyntax, source := some "/b.py", line := some 1 }) := by
    decide +kernel
  have hrefused := refused_file_leaves_no_output hoptions hclean hselected
    (List.forall_mem_singleton.mpr ⟨_, hfront⟩) hpath
  exact ⟨hrefused.1, hrefused.2.2.1⟩

end MessageForge
