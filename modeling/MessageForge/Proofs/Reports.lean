import MessageForge.Proofs.Readings

/-!
# Reports

What a job reports stands behind what has been reported before, and most of it
is routine. Two kinds of events tell of files: one that a declaration file is
being read, and one that a module has been written. Each comes from one place
only, so that the events of a run tell which files these were.
-/

namespace MessageForge

namespace Job

variable {α β : Type} {holds more : Event → Prop}

/-- However the job ends, what it has reported is of some kind. -/
def Reports (holds : Event → Prop) (job : Job α) : Prop :=
  ∀ workspace : Workspace, ∃ events, (job.run workspace).2.events = workspace.events ++ events ∧
    ∀ event ∈ events, holds event

namespace Reports

/-- A job whose run leaves the events as they are. -/
theorem of_run {job : Job α} (h : ∀ workspace, (job.run workspace).2.events = workspace.events) :
    Reports holds job :=
  fun workspace => ⟨[], by rw [h, List.append_nil], List.forall_mem_nil _⟩

theorem pure (value : α) : Reports holds (Pure.pure value : Job α) :=
  of_run fun _ => rfl

theorem throw (failure : Failure) : Reports holds (MonadExcept.throw failure : Job α) :=
  of_run fun _ => rfl

theorem disk : Reports holds Job.disk :=
  of_run fun _ => rfl

theorem setDisk (disk : Disk) : Reports holds (Job.setDisk disk) :=
  of_run fun _ => rfl

theorem record (call : Call) : Reports holds (Job.record call) :=
  of_run fun _ => rfl

theorem ofResult (result : Except Failure α) : Reports holds (Job.ofResult result) := by
  cases result with
  | error failure => exact throw failure
  | ok value => exact pure value

theorem ofFile (result : Except FileFault α) : Reports holds (Job.ofFile result) := by
  cases result with
  | error fault => exact throw (.file fault)
  | ok value => exact pure value

theorem within (limit : Option Exhaustion) : Reports holds (Job.within limit) := by
  cases limit with
  | none => exact pure ()
  | some cause => exact throw (.exhausted cause)

theorem reportAll {events : List Event} (h : ∀ event ∈ events, holds event) :
    Reports holds (Job.reportAll events) :=
  fun _ => ⟨events, rfl, h⟩

theorem report {event : Event} (h : holds event) : Reports holds (Job.report event) :=
  reportAll (List.forall_mem_singleton.mpr h)

theorem bind {job : Job α} {next : α → Job β} (hjob : Reports holds job)
    (hnext : ∀ value, Reports holds (next value)) : Reports holds (job >>= next) := by
  intro workspace
  obtain ⟨events, hevents, hall⟩ := hjob workspace
  cases hrun : job.run workspace with
  | mk outcome between =>
      rw [hrun] at hevents
      cases outcome with
      | error failure => exact ⟨events, by rw [run_bind_error next hrun, hevents], hall⟩
      | ok value =>
          obtain ⟨others, hothers, hall'⟩ := hnext value between
          refine ⟨events ++ others, ?_, List.forall_mem_append.mpr ⟨hall, hall'⟩⟩
          rw [run_bind_ok next hrun, hothers, hevents, List.append_assoc]

theorem mono {job : Job α} (h : Reports holds job) (hmore : ∀ event, holds event → more event) :
    Reports more job := by
  intro workspace
  obtain ⟨events, hevents, hall⟩ := h workspace
  exact ⟨events, hevents, fun event hevent => hmore event (hall event hevent)⟩

theorem writeFile (setting : Setting) (path : Text) (content : Bytes) :
    Reports holds (Job.writeFile setting path content) :=
  bind disk fun _ => bind (ofFile _) fun _ => setDisk _

theorem removeFile (setting : Setting) (path : Text) :
    Reports holds (Job.removeFile setting path) :=
  bind disk fun _ => bind (ofFile _) fun _ => setDisk _

theorem makeDirectories (setting : Setting) (path : Text) :
    Reports holds (Job.makeDirectories setting path) := by
  refine bind disk fun onto => bind (setDisk _) fun _ => ?_
  split
  · exact pure ()
  · exact throw _

end Reports

end Job

open Job

/-! ## The phases of a run -/

/-- The event tells of no file that is read or written. -/
def Event.IsRoutine (event : Event) : Prop :=
  (∀ path, event ≠ .reading path) ∧ ∀ count path, event ≠ .wrote count path

variable {setting : Setting} {options : Options}

theorem Event.IsRoutine.of_origin {event : Event} (h : event.origin ≠ .run) : event.IsRoutine := by
  constructor
  · rintro path rfl
    exact h rfl
  · rintro count path rfl
    exact h rfl

theorem IsAboutFile.isRoutine {events : List Event} (h : IsAboutFile events) :
    ∀ event ∈ events, event.IsRoutine :=
  fun event hevent => .of_origin (h event hevent).2

theorem reports_readDraft (setting : Setting) (importPaths : List Text) (path : Text) :
    Reports Event.IsRoutine (readDraft setting importPaths path) := by
  have hread : Reports Event.IsRoutine (readDeclarations setting importPaths path) := by
    rw [readDeclarations]
    split
    · refine .bind .disk fun onto => .bind (.ofResult _) fun schema => .bind (.within _) fun _ => ?_
      have hevents := (Schema.isAboutFile_declarationsOf schema path).isRoutine
      exact .bind (.reportAll hevents) fun _ => .pure _
    · refine .bind .disk fun onto => .bind (.ofFile _) fun content => ?_
      split
      · exact .throw _
      · refine .bind (.within _) fun _ => ?_
        split
        · exact .throw _
        · refine .bind (.reportAll (List.forall_mem_singleton.mpr ?_)) fun _ => .pure _
          simp [Event.IsRoutine]
  refine .bind hread fun file => ?_
  refine .bind (.reportAll (Draft.isAboutFile_generateAll file).isRoutine) fun _ => ?_
  split
  · exact .throw _
  · exact .pure _

theorem reports_removeAll : ∀ paths : List Text,
    Reports Event.IsRoutine (removeAll setting paths)
  | [] => .pure ()
  | path :: rest => by
      have hreport : Reports Event.IsRoutine (report (.removing path)) := .report ⟨nofun, nofun⟩
      exact hreport.bind fun _ => .bind (.removeFile setting path) fun _ => reports_removeAll rest

theorem reports_clean (setting : Setting) (options : Options) :
    Reports Event.IsRoutine (clean setting options) :=
  .bind .disk fun _ => .bind (.ofFile _) fun paths => reports_removeAll paths

theorem reports_formatText (programs : Programs) (source : Text) :
    Reports Event.IsRoutine (formatText programs source) := by
  have hwithout : ∀ fault, Reports Event.IsRoutine (withoutFormatter source fault) := by
    intro fault
    cases fault with
    | missing => exact .bind (.report ⟨nofun, nofun⟩) fun _ => .pure _
    | system fault => exact .bind (.report ⟨nofun, nofun⟩) fun _ => .pure _
    | process fault => exact .throw _
  unfold formatText
  refine .bind (.record _) fun _ => ?_
  split
  · exact hwithout _
  · refine .bind (.record _) fun _ => ?_
    split
    · exact hwithout _
    · split
      · exact .ofResult _
      · exact .bind (.report ⟨nofun, nofun⟩) fun _ => .pure _

/-- The event is routine or tells of one of some modules being written. -/
def Event.TellsOf (modules : List Placed) (event : Event) : Prop :=
  event.IsRoutine ∨ ∃ count, ∃ placed ∈ modules, event = .wrote count placed.path

theorem reports_writeAll (makesDirectories : Bool) : ∀ modules : List Placed,
    Reports (Event.TellsOf modules) (writeAll setting makesDirectories modules)
  | [] => .pure ()
  | first :: rest => by
      have hfirst : Reports (Event.TellsOf (first :: rest))
          (writeModule setting first.draft first.path) := by
        refine .bind (.writeFile setting _ _) fun _ => ?_
        refine .bind ((reports_formatText _ _).mono fun _ => .inl) fun _ => ?_
        refine .bind (.writeFile setting _ _) fun _ => ?_
        exact .report (.inr ⟨_, first, List.mem_cons_self .., rfl⟩)
      have hrest : Reports (Event.TellsOf (first :: rest)) (writeAll setting makesDirectories rest) := by
        refine (reports_writeAll makesDirectories rest).mono fun event h => ?_
        rcases h with hroutine | ⟨count, placed, hplaced, rfl⟩
        · exact .inl hroutine
        · exact .inr ⟨count, placed, List.mem_cons_of_mem _ hplaced, rfl⟩
      rw [writeAll]
      split
      · exact .bind (.makeDirectories setting _) fun _ => hfirst.bind fun _ => hrest
      · exact hfirst.bind fun _ => hrest

theorem reports_markTyped : ∀ directories : List Text,
    Reports Event.IsRoutine (markTyped setting directories)
  | [] => .pure ()
  | directory :: rest => by
      have hrest := reports_markTyped rest
      refine .bind .disk fun onto => ?_
      split
      · exact .bind (.writeFile setting _ _) fun _ => hrest
      · exact hrest

theorem reports_writePhase (paths : List Text) (readings : List Reading) :
    Reports (Event.TellsOf (layout setting options paths readings))
      (writePhase setting options paths readings) := by
  rw [writePhase_eq]
  exact .bind (reports_writeAll _ _) fun _ =>
    .bind ((reports_markTyped _).mono fun _ => .inl) fun _ => .pure _

theorem reports_checkModules (files : List Text) :
    Reports Event.IsRoutine (checkModules setting files) := by
  have hjudge : ∀ exit, Reports Event.IsRoutine (judge exit) := by
    intro exit
    rw [judge]
    dsimp only
    split
    · exact .report (by simp [Event.IsRoutine])
    · exact .bind (.report (by simp [Event.IsRoutine])) fun _ => .throw _
  have hleave : ∀ written, Reports Event.IsRoutine (leaveContent setting files written) := by
    intro written
    unfold leaveContent
    split
    · refine .bind .disk fun onto => ?_
      split
      · exact .setDisk _
      · exact .throw _
      · exact .throw _
    · exact .pure _
  rw [checkModules]
  split
  · exact .report (by simp [Event.IsRoutine])
  · refine .bind (.report (by simp [Event.IsRoutine])) fun _ => .bind (.record _) fun _ => ?_
    split
    · exact .throw _
    · exact .throw _
    · exact .throw _
    · exact .bind (hleave _) fun _ => hjudge _

/-! ## What is written -/

/-- If the event tells of a module being written, it is one by its name. -/
def Event.TellsOfModule (root : Text) (event : Event) : Prop :=
  ∀ count path, event = .wrote count path → IsModulePlace (Path.place root path)

theorem Event.IsRoutine.tellsOfModule {event : Event} (h : event.IsRoutine) (root : Text) :
    event.TellsOfModule root :=
  fun count path heq => absurd heq (h.2 count path)

theorem reports_readAll (importPaths : List Text) : ∀ paths : List Text,
    Reports (Event.TellsOfModule setting.root) (readAll setting importPaths paths)
  | [] => .pure []
  | path :: rest => by
      rw [readAll]
      have hreading : Event.TellsOfModule setting.root (.reading path) := by
        simp [Event.TellsOfModule]
      refine .bind (.report hreading) fun _ => ?_
      refine .bind ((reports_readDraft setting importPaths path).mono
        fun _ h => h.tellsOfModule _) fun draft => ?_
      split
      · have hnothing : Event.TellsOfModule setting.root (.nothingDeclared path) := by
          simp [Event.TellsOfModule]
        exact .bind (.report hnothing) fun _ => reports_readAll importPaths rest
      · exact .bind (reports_readAll importPaths rest) fun _ => .pure _

/-- A run tells of files that have the names of modules only. -/
theorem reports_run (setting : Setting) (options : Options) :
    Reports (Event.TellsOfModule setting.root) (run setting options) := by
  have hroutine : ∀ event : Event, event.IsRoutine → event.TellsOfModule setting.root :=
    fun event h => h.tellsOfModule _
  refine .bind ((reports_clean setting options).mono hroutine) fun _ => ?_
  refine .bind .disk fun onto => .bind (.ofFile _) fun paths => ?_
  split
  · exact .report nofun
  · refine .bind (reports_readAll _ paths) fun readings => ?_
    refine .bind ((reports_writePhase paths readings).mono ?_) fun written => ?_
    · rintro event (h | ⟨count, placed, hplaced, rfl⟩)
      · exact h.tellsOfModule _
      · rintro _ _ ⟨⟩
        exact isModulePlace_of_mem_layout hplaced
    · split
      · exact (reports_checkModules written).mono hroutine
      · exact .pure ()

end MessageForge
