import MessageForge.Proofs.Reports

/-!
# Loading

The events of a run tell what it has loaded: the selected files in their order,
up to the first one that cannot be read and derived, and all of them if the run
succeeds.
-/

namespace MessageForge

open Job

/-- The declaration file that an event says is being read. -/
def Event.loadedPath? : Event → Option Text
  | .reading path => some path
  | _ => none

/-- The declaration files that have been read, in their order. -/
def Workspace.loaded (workspace : Workspace) : List Text :=
  workspace.events.filterMap Event.loadedPath?

variable {α β : Type} {setting : Setting} {options : Options} {arguments : List Text} {disk : Disk}
  {path : Text}

/-! ## Jobs that load nothing -/

theorem Event.IsRoutine.loadedPath?_eq_none {event : Event} (h : event.IsRoutine) :
    event.loadedPath? = none := by
  cases event with
  | reading path => exact absurd rfl (h.1 path)
  | _ => rfl

theorem Event.TellsOf.loadedPath?_eq_none {modules : List Placed} {event : Event}
    (h : event.TellsOf modules) : event.loadedPath? = none := by
  rcases h with hroutine | ⟨count, placed, -, rfl⟩
  · exact hroutine.loadedPath?_eq_none
  · rfl

theorem loaded_logged (workspace : Workspace) (events : List Event) :
    (logged workspace events).loaded = workspace.loaded ++ events.filterMap Event.loadedPath? :=
  List.filterMap_append

theorem loaded_logged_of_none {event : Event} (h : event.loadedPath? = none) (workspace : Workspace) :
    (logged workspace [event]).loaded = workspace.loaded := by
  rw [loaded_logged, List.filterMap_eq_nil_iff.mpr (List.forall_mem_singleton.mpr h), List.append_nil]

/-- A job that tells of no file being read has loaded none. -/
theorem loaded_of_reports {job : Job α} (h : Reports (·.loadedPath? = none) job)
    (workspace : Workspace) : (job.run workspace).2.loaded = workspace.loaded := by
  obtain ⟨events, hevents, hall⟩ := h workspace
  rw [Workspace.loaded, hevents, List.filterMap_append, List.filterMap_eq_nil_iff.mpr hall,
    List.append_nil, Workspace.loaded]

/-- What the first part has loaded is all, if the second loads nothing. -/
theorem loaded_bind (job : Job α) {next : α → Job β}
    (hnext : ∀ value, Reports (·.loadedPath? = none) (next value)) (workspace : Workspace) :
    ((job >>= next).run workspace).2.loaded = (job.run workspace).2.loaded := by
  cases hrun : job.run workspace with
  | mk outcome between =>
      cases outcome with
      | error failure => rw [run_bind_error next hrun]
      | ok value => rw [run_bind_ok next hrun]; exact loaded_of_reports (hnext value) between

/-! ## What is loaded -/

/-- The files are read in turn, up to one that fails. -/
theorem loaded_readAll (setting : Setting) (importPaths : List Text) :
    ∀ (paths : List Text) (workspace : Workspace),
    ∃ front, front <+: paths ∧
      ((readAll setting importPaths paths).run workspace).2.loaded = workspace.loaded ++ front ∧
      ∀ readings, ((readAll setting importPaths paths).run workspace).1 = .ok readings → front = paths
  | [], workspace => ⟨[], List.prefix_rfl, (List.append_nil _).symm, fun _ _ => rfl⟩
  | path :: rest, workspace => by
      have hreported : (logged workspace [.reading path]).loaded = workspace.loaded ++ [path] :=
        loaded_logged ..
      rw [readAll, run_bind_ok _ (run_report _ workspace)]
      have hdraft := loaded_of_reports ((reports_readDraft setting importPaths path).mono
        fun _ h => h.loadedPath?_eq_none) (logged workspace [.reading path])
      cases hrun : (readDraft setting importPaths path).run (logged workspace [.reading path]) with
      | mk outcome between =>
          rw [hrun, hreported] at hdraft
          cases outcome with
          | error failure =>
              rw [run_bind_error _ hrun]
              refine ⟨[path], ⟨rest, rfl⟩, hdraft, ?_⟩
              rintro _ ⟨⟩
          | ok draft =>
              rw [run_bind_ok _ hrun]
              -- whether or not the file declares messages, the others come behind it
              split
              · rw [run_bind_ok _ (run_report _ between)]
                obtain ⟨front, hfront, hloaded, hall⟩ := loaded_readAll setting importPaths rest
                  (logged between [.nothingDeclared path])
                rw [loaded_logged_of_none rfl, hdraft,
                  List.append_assoc] at hloaded
                exact ⟨path :: front, List.cons_prefix_cons.mpr ⟨rfl, hfront⟩, hloaded,
                  fun readings hok => congrArg _ (hall readings hok)⟩
              · obtain ⟨front, hfront, hloaded, hall⟩ := loaded_readAll setting importPaths rest between
                rw [hdraft, List.append_assoc] at hloaded
                refine ⟨path :: front, List.cons_prefix_cons.mpr ⟨rfl, hfront⟩, ?_, ?_⟩
                · rw [run_bind_pure]
                  exact hloaded
                · intro readings hok
                  cases hothers : (readAll setting importPaths rest).run between with
                  | mk outcome after =>
                      cases outcome with
                      | error failure => rw [run_bind_error _ hothers] at hok; cases hok
                      | ok others => exact congrArg _ (hall others (by rw [hothers]))

/-- Once the files are read none is loaded any more. -/
theorem loads_nothing_more (setting : Setting) (options : Options) (paths : List Text)
    (readings : List Reading) : Reports (·.loadedPath? = none)
      (writePhase setting options paths readings >>= fun written =>
        if !options.skipChecker then checkModules setting written else pure ()) := by
  refine .bind ((reports_writePhase paths readings).mono fun _ h => h.loadedPath?_eq_none)
    fun written => ?_
  split
  · exact (reports_checkModules written).mono fun _ h => h.loadedPath?_eq_none
  · exact .pure ()

/-- Of the files that are selected those up to one that fails are loaded. -/
theorem loaded_ofPaths (setting : Setting) (options : Options) (importPaths paths : List Text)
    (workspace : Workspace) :
    ∃ front, front <+: paths ∧
      ((readAll setting importPaths paths >>= fun readings =>
        writePhase setting options paths readings >>= fun written =>
          if !options.skipChecker then checkModules setting written else pure ()).run
        workspace).2.loaded = workspace.loaded ++ front ∧
      (((readAll setting importPaths paths >>= fun readings =>
        writePhase setting options paths readings >>= fun written =>
          if !options.skipChecker then checkModules setting written else pure ()).run
        workspace).1 = .ok () → front = paths) := by
  obtain ⟨front, hfront, hloaded, hall⟩ := loaded_readAll setting importPaths paths workspace
  refine ⟨front, hfront, ?_, fun hok => ?_⟩
  · exact (loaded_bind _ (loads_nothing_more setting options paths) workspace).trans hloaded
  · cases hread : (readAll setting importPaths paths).run workspace with
    | mk outcome after =>
        cases outcome with
        | error failure =>
            rw [run_bind_error _ hread] at hok
            cases hok
        | ok readings => exact hall readings (by rw [hread])

/-- What a run loads are files that it has selected, and all of these if the
run goes through. -/
theorem loaded_run (setting : Setting) (options : Options) (workspace : Workspace) :
    ∃ front, ((run setting options).run workspace).2.loaded = workspace.loaded ++ front ∧
      (∀ path ∈ front, ∃ paths, path ∈ paths ∧ selectedPaths
        ((clean setting options).run workspace).2.disk setting.root options = .ok paths) ∧
      (((run setting options).run workspace).1 = .ok () → selectedPaths
        ((clean setting options).run workspace).2.disk setting.root options = .ok front) := by
  have hclean := loaded_of_reports ((reports_clean setting options).mono
    fun _ h => h.loadedPath?_eq_none) workspace
  rw [MessageForge.run]
  cases hcleaned : (clean setting options).run workspace with
  | mk outcome cleaned =>
      rw [hcleaned] at hclean
      cases outcome with
      | error failure =>
          rw [run_bind_error _ hcleaned]
          refine ⟨[], by rw [hclean, List.append_nil], List.forall_mem_nil _, ?_⟩
          rintro ⟨⟩
      | ok value =>
          rw [run_bind_ok _ hcleaned, run_bind_ok _ (run_disk cleaned)]
          cases hselected : selectedPaths cleaned.disk setting.root options with
          | error fault =>
              refine ⟨[], by rw [← hclean, List.append_nil]; rfl, List.forall_mem_nil _, ?_⟩
              intro hok
              cases hok
          | ok paths =>
              rw [run_bind_ok _ (run_ofFile_ok paths cleaned)]
              split
              · next hempty =>
                  obtain rfl := List.isEmpty_iff.mp hempty
                  refine ⟨[], ?_, List.forall_mem_nil _, fun _ => rfl⟩
                  rw [List.append_nil, ← hclean]
                  exact loaded_logged_of_none rfl cleaned
              · obtain ⟨front, hfront, hloaded, hall⟩ := loaded_ofPaths setting options
                  (options.importPaths.map (Path.join setting.root)) paths cleaned
                exact ⟨front, hclean ▸ hloaded, fun path hpath => ⟨paths, hfront.subset hpath, rfl⟩,
                  fun hok => congrArg _ (hall hok).symm⟩

/-- Before the run proper nothing has been loaded, and a refusal loads nothing. -/
theorem loaded_execute (setting : Setting) (disk : Disk)
    (hoptions : Options.ofArguments arguments = .ok options) :
    (execute setting arguments disk).workspace.loaded =
      ((run setting options).run (logged { disk } [.workingFrom setting.root])).2.loaded := by
  rw [execute, hoptions]
  dsimp only
  rw [run_runReporting]
  split
  · next hrun => rw [hrun]
  · next hrun => rw [hrun]; exact loaded_logged_of_none rfl _
  · next hrun => rw [hrun]

/-- Whatever is loaded has been selected on the disk that the clean phase leaves. -/
theorem exists_selectedPaths_of_loaded
    (h : path ∈ (execute setting arguments disk).workspace.loaded) :
    ∃ options paths, Options.ofArguments arguments = .ok options ∧
      selectedPaths (cleanedDisk setting arguments disk) setting.root options = .ok paths ∧
      path ∈ paths := by
  cases hoptions : Options.ofArguments arguments with
  | error fault =>
      rw [execute, hoptions] at h
      cases h
  | ok options =>
      obtain ⟨front, hloaded, hmem, -⟩ :=
        loaded_run setting options (logged { disk } [.workingFrom setting.root])
      rw [loaded_execute setting disk hoptions, hloaded,
        loaded_logged_of_none rfl] at h
      obtain ⟨paths, hpath, hselected⟩ := hmem path h
      refine ⟨options, paths, rfl, ?_, hpath⟩
      rw [cleanedDisk, hoptions]
      exact hselected

/-- A successful run has loaded all that it has selected. -/
theorem selectedPaths_eq_loaded (hoptions : Options.ofArguments arguments = .ok options)
    (hending : (execute setting arguments disk).ending = .exits 0) :
    selectedPaths (cleanedDisk setting arguments disk) setting.root options =
      .ok (execute setting arguments disk).workspace.loaded := by
  have hrun := run_eq_ok_of_exits_zero hoptions hending
  obtain ⟨front, hloaded, -, hall⟩ :=
    loaded_run setting options (logged { disk } [.workingFrom setting.root])
  have hselected := hall (by rw [hrun])
  rw [← loaded_execute setting disk hoptions,
    loaded_logged_of_none rfl] at hloaded
  rw [cleanedDisk, hoptions]
  exact hloaded ▸ hselected

end MessageForge
