import Mathlib.Data.List.Basic
import MessageForge.Proofs.Outcome
import MessageForge.Workspace.Job

/-!
# Jobs that only read

What a job does is what its run makes of a workspace. Most jobs of a run only
read: their outcome depends on the disk alone, and all they leave is a number
of events behind those that are there.
-/

namespace MessageForge.Job

variable {α β : Type}

/-- A workspace with some events behind those that are there. -/
def logged (workspace : Workspace) (events : List Event) : Workspace :=
  { workspace with events := workspace.events ++ events }

/-! ## Runs -/

@[simp] theorem run_pure (value : α) (workspace : Workspace) :
    (pure value : Job α).run workspace = (.ok value, workspace) := rfl

@[simp] theorem run_throw (failure : Failure) (workspace : Workspace) :
    (throw failure : Job α).run workspace = (.error failure, workspace) := rfl

@[simp] theorem run_report (event : Event) (workspace : Workspace) :
    (report event).run workspace = (.ok (), logged workspace [event]) := rfl

@[simp] theorem run_reportAll (events : List Event) (workspace : Workspace) :
    (reportAll events).run workspace = (.ok (), logged workspace events) := rfl

@[simp] theorem run_disk (workspace : Workspace) :
    disk.run workspace = (.ok workspace.disk, workspace) := rfl

theorem run_bind_ok {job : Job α} {workspace after : Workspace} {value : α} (next : α → Job β)
    (h : job.run workspace = (.ok value, after)) :
    (job >>= next).run workspace = (next value).run after :=
  Stateful.run_bind_ok next h

theorem run_bind_error {job : Job α} {workspace after : Workspace} {failure : Failure}
    (next : α → Job β) (h : job.run workspace = (.error failure, after)) :
    (job >>= next).run workspace = (.error failure, after) :=
  Stateful.run_bind_error next h

/-- A sequence that gives a value has gone through both of its parts. -/
theorem run_bind_eq_ok {job : Job α} {next : α → Job β} {workspace after : Workspace} {value : β}
    (h : (job >>= next).run workspace = (.ok value, after)) :
    ∃ middle between, job.run workspace = (.ok middle, between) ∧
      (next middle).run between = (.ok value, after) :=
  Stateful.run_bind_eq_ok h

/-- To return a value changes nothing. -/
theorem run_bind_pure (job : Job α) (value : α → β) (workspace : Workspace) :
    ((job >>= fun result => pure (value result)).run workspace).2 = (job.run workspace).2 := by
  cases hrun : job.run workspace with
  | mk outcome after =>
      cases outcome with
      | error failure => rw [run_bind_error _ hrun]
      | ok result => rw [run_bind_ok _ hrun]; rfl

theorem run_ofFile_ok (value : α) (workspace : Workspace) :
    (ofFile (.ok value)).run workspace = (.ok value, workspace) := rfl

theorem run_ofFile_eq_ok {result : Except FileFault α} {workspace after : Workspace} {value : α}
    (h : (ofFile result).run workspace = (.ok value, after)) :
    result = .ok value ∧ after = workspace := by
  cases result with
  | error fault => cases h
  | ok found => cases h; exact ⟨rfl, rfl⟩

theorem run_ofResult_ok (value : α) (workspace : Workspace) :
    (ofResult (.ok value)).run workspace = (.ok value, workspace) := rfl

theorem run_ofResult_eq_ok {result : Except Failure α} {workspace after : Workspace} {value : α}
    (h : (ofResult result).run workspace = (.ok value, after)) :
    result = .ok value ∧ after = workspace := by
  cases result with
  | error failure => cases h
  | ok found => cases h; exact ⟨rfl, rfl⟩

/-! ## Jobs that only read -/

def IsNoError (events : List Event) : Prop :=
  ∀ event ∈ events, event.level ≠ .error

/-- The job has one outcome on a disk, leaves the disk and the calls as they
are, and adds no error to the events. -/
def OnlyReads (job : Job α) : Prop :=
  ∀ onto : Disk, ∃ outcome events, IsNoError events ∧
    ∀ workspace : Workspace, workspace.disk = onto →
      job.run workspace = (outcome, logged workspace events)

theorem logged_nil (workspace : Workspace) : logged workspace [] = workspace := by
  rw [logged, List.append_nil]

theorem logged_logged (workspace : Workspace) (front back : List Event) :
    logged (logged workspace front) back = logged workspace (front ++ back) := by
  rw [logged, logged, logged, List.append_assoc]

theorem IsNoError.singleton {event : Event} (h : event.level ≠ .error) : IsNoError [event] :=
  List.forall_mem_singleton.mpr h

theorem IsNoError.append {front back : List Event} (hfront : IsNoError front)
    (hback : IsNoError back) : IsNoError (front ++ back) := by
  intro event hevent
  rcases List.mem_append.mp hevent with h | h
  · exact hfront event h
  · exact hback event h

namespace OnlyReads

/-- A job whose run does not look at the workspace at all. -/
theorem of_run {job : Job α} {outcome : Except Failure α}
    (h : ∀ workspace : Workspace, job.run workspace = (outcome, workspace)) : OnlyReads job :=
  fun _ => ⟨outcome, [], List.forall_mem_nil _, fun workspace _ => by
    rw [h workspace, logged_nil]⟩

theorem pure (value : α) : OnlyReads (Pure.pure value : Job α) :=
  of_run fun workspace => run_pure value workspace

theorem throw (failure : Failure) : OnlyReads (MonadExcept.throw failure : Job α) :=
  of_run fun workspace => run_throw failure workspace

theorem ofFile (result : Except FileFault α) : OnlyReads (Job.ofFile result) := by
  cases result with
  | error fault => exact throw (.file fault)
  | ok value => exact pure value

theorem ofResult (result : Except Failure α) : OnlyReads (Job.ofResult result) := by
  cases result with
  | error failure => exact throw failure
  | ok value => exact pure value

theorem within (limit : Option Exhaustion) : OnlyReads (Job.within limit) := by
  cases limit with
  | none => exact pure ()
  | some cause => exact throw (.exhausted cause)

theorem disk : OnlyReads Job.disk :=
  fun onto => ⟨.ok onto, [], List.forall_mem_nil _, fun workspace h => by
    rw [run_disk, logged_nil, h]⟩

theorem reportAll {events : List Event} (h : IsNoError events) : OnlyReads (Job.reportAll events) :=
  fun _ => ⟨.ok (), events, h, fun workspace _ => run_reportAll events workspace⟩

theorem report {event : Event} (h : event.level ≠ .error) : OnlyReads (Job.report event) :=
  reportAll (IsNoError.singleton h)

theorem bind {job : Job α} {next : α → Job β} (hjob : OnlyReads job)
    (hnext : ∀ value, OnlyReads (next value)) : OnlyReads (job >>= next) := by
  intro onto
  obtain ⟨outcome, events, hevents, hrun⟩ := hjob onto
  cases outcome with
  | error failure =>
      exact ⟨.error failure, events, hevents, fun workspace h => run_bind_error _ (hrun workspace h)⟩
  | ok value =>
      obtain ⟨outcome', events', hevents', hrun'⟩ := hnext value onto
      refine ⟨outcome', events ++ events', hevents.append hevents', fun workspace h => ?_⟩
      rw [run_bind_ok _ (hrun workspace h), hrun' (logged workspace events) h, logged_logged]

/-- What a job that only reads gives on one workspace it gives on every other
with the same disk. -/
theorem run_eq {job : Job α} (h : OnlyReads job) {workspace other : Workspace}
    (hdisk : other.disk = workspace.disk) :
    ∃ events, IsNoError events ∧
      job.run other = ((job.run workspace).1, logged other events) := by
  obtain ⟨outcome, events, hevents, hrun⟩ := h workspace.disk
  exact ⟨events, hevents, by rw [hrun workspace rfl, hrun other hdisk]⟩

end OnlyReads

end MessageForge.Job
