import MessageForge.Proofs.Jobs
import MessageForge.Proofs.Removal

/-!
# Changes of a disk

A write changes one item and leaves all others as they are. Directories are
never taken away, so a path that has led somewhere leads there ever after, and
what several writes change together is only what one of them changes.
-/

namespace MessageForge

namespace Disk

variable {disk before between after : Disk} {location place : Location}

/-! ## Single items -/

theorem item?_root (disk : Disk) : disk.item? [] = some .directory :=
  if_pos rfl

theorem lookup_replace (items : List (Location × Item)) (item : Item) :
    (items.map fun (other, old) => (other, if other = location then item else old)).lookup place =
      if place = location then (items.lookup place).map fun _ => item else items.lookup place := by
  induction items with
  | nil => split <;> rfl
  | cons entry rest ih =>
      obtain ⟨other, old⟩ := entry
      rw [List.map_cons, List.lookup_cons, List.lookup_cons, ih]
      by_cases hother : place = other
      · subst hother
        rw [beq_self_eq_true]
        dsimp only
        split <;> rfl
      · rw [beq_eq_false_iff_ne.mpr hother]

theorem item?_put (hne : location ≠ []) (item : Item) :
    (disk.put location item).item? place =
      if place = location then some item else disk.item? place := by
  by_cases hroot : place = []
  · subst hroot
    rw [if_neg hne.symm, item?_root, item?_root]
  rw [item?, item?, if_neg hroot, if_neg hroot, put]
  by_cases hplace : place = location
  · subst hplace
    rw [if_pos rfl]
    cases hlookup : disk.items.lookup place with
    | none =>
        rw [if_neg (by simp), List.lookup_append, hlookup, List.lookup_cons_self, Option.none_or]
    | some old =>
        rw [Option.isSome_some, if_pos rfl, lookup_replace, if_pos rfl, hlookup, Option.map_some]
  · rw [if_neg hplace]
    split
    · rw [lookup_replace, if_neg hplace]
    · rw [List.lookup_append, List.lookup_cons, beq_eq_false_iff_ne.mpr hplace, List.lookup_nil,
        Option.or_none]

theorem item?_put_self (hne : location ≠ []) (item : Item) :
    (disk.put location item).item? location = some item := by
  rw [item?_put hne, if_pos rfl]

theorem item?_put_of_ne (hne : location ≠ []) (hplace : place ≠ location) (item : Item) :
    (disk.put location item).item? place = disk.item? place := by
  rw [item?_put hne, if_neg hplace]

/-! ## Ways -/

theorem locate_eq_ok_iff {root path : Text} :
    disk.locate root path = .ok location ↔
      path.any (·.toNat = 0) = false ∧ path ≠ [] ∧
        disk.walk [] (Text.split '/' (Path.join root path)) = .ok location := by
  rw [locate]
  cases hnull : path.any (·.toNat = 0) with
  | true => simp
  | false => cases path <;> simp

theorem find?_eq_of_locate {root path : Text} (h : disk.locate root path = .ok location) :
    disk.find? root path = disk.item? location := by
  rw [find?, h]

/-- Directories stay, so that a way through them leads where it led. -/
def KeepsDirectories (before after : Disk) : Prop :=
  ∀ location, before.item? location = some .directory → after.item? location = some .directory

theorem KeepsDirectories.walk (h : KeepsDirectories before after) {found : Location} :
    ∀ {parts : List Text} {location : Location},
      before.walk location parts = .ok found → after.walk location parts = .ok found
  | [], _, hwalk => hwalk
  | part :: rest, location, hwalk => by
      rw [Disk.walk] at hwalk ⊢
      split at hwalk
      · cases hwalk
      · cases hwalk
      · next hitem =>
          rw [h location hitem]
          dsimp only
          split at hwalk
          · next hstay => rw [if_pos hstay]; exact h.walk hwalk
          · next hmove =>
              rw [if_neg hmove]
              split at hwalk
              · next hup => rw [if_pos hup]; exact h.walk hwalk
              · next hdown => rw [if_neg hdown]; exact h.walk hwalk

theorem KeepsDirectories.locate (h : KeepsDirectories before after) {root path : Text}
    (hlocate : before.locate root path = .ok location) : after.locate root path = .ok location := by
  obtain ⟨hnull, hne, hwalk⟩ := locate_eq_ok_iff.mp hlocate
  exact locate_eq_ok_iff.mpr ⟨hnull, hne, h.walk hwalk⟩

/-! ## Changes of some kinds only -/

/-- Between two disks no file has been removed, and each file is as it was or
has been left there in an allowed way. -/
structure ChangesOnly (allowed : Location → Bytes → Prop) (before after : Disk) : Prop where
  directories : KeepsDirectories before after
  files : ∀ {location content}, before.item? location = some (.file content) →
    ∃ new, after.item? location = some (.file new)
  changed : ∀ {location content}, after.item? location = some (.file content) →
    before.item? location = some (.file content) ∨ allowed location content

variable {allowed : Location → Bytes → Prop}

namespace ChangesOnly

theorem refl (disk : Disk) : ChangesOnly allowed disk disk :=
  ⟨fun _ h => h, fun h => ⟨_, h⟩, .inl⟩

theorem trans (hfirst : ChangesOnly allowed before between)
    (hsecond : ChangesOnly allowed between after) : ChangesOnly allowed before after where
  directories := fun location h => hsecond.directories location (hfirst.directories location h)
  files := fun h => by
    obtain ⟨_, hbetween⟩ := hfirst.files h
    exact hsecond.files hbetween
  changed := fun h => (hsecond.changed h).elim hfirst.changed .inr

theorem mono {more : Location → Bytes → Prop} (h : ChangesOnly allowed before after)
    (hmore : ∀ location content, allowed location content → more location content) :
    ChangesOnly more before after :=
  ⟨h.directories, h.files, fun hafter => (h.changed hafter).imp_right (hmore _ _)⟩

/-- Where nothing is allowed, a file keeps its content. -/
theorem unchanged {content : Bytes} (h : ChangesOnly allowed before after)
    (hnot : ∀ new, ¬ allowed location new)
    (hbefore : before.item? location = some (.file content)) :
    after.item? location = some (.file content) := by
  obtain ⟨new, hafter⟩ := h.files hbefore
  rcases h.changed hafter with hsame | hallowed
  · rw [hafter, ← hsame, hbefore]
  · exact absurd hallowed (hnot new)

/-- What is not there afterwards was not there before. -/
theorem item?_eq_none (h : ChangesOnly allowed before after)
    (hafter : after.item? location = none) : before.item? location = none := by
  cases hbefore : before.item? location with
  | none => rfl
  | some item =>
      cases item with
      | directory => rw [h.directories location hbefore] at hafter; cases hafter
      | file content =>
          obtain ⟨new, hnew⟩ := h.files hbefore
          rw [hnew] at hafter
          cases hafter

theorem put_file {content : Bytes} (hitem : disk.item? location ≠ some .directory)
    (hallowed : allowed location content) :
    ChangesOnly allowed disk (disk.put location (.file content)) := by
  have hne : location ≠ [] := fun hnil => hitem (hnil ▸ item?_root disk)
  refine ⟨fun place hplace => ?_, fun {place _} hplace => ?_, fun {place _} hplace => ?_⟩
  · have hother : place ≠ location := fun heq => hitem (heq ▸ hplace)
    rw [item?_put_of_ne hne hother, hplace]
  · by_cases heq : place = location
    · exact ⟨content, by rw [heq, item?_put_self hne]⟩
    · exact ⟨_, by rw [item?_put_of_ne hne heq, hplace]⟩
  · by_cases heq : place = location
    · rw [heq, item?_put_self hne] at hplace
      cases hplace
      exact .inr (heq ▸ hallowed)
    · rw [item?_put_of_ne hne heq] at hplace
      exact .inl hplace

/-- A new directory is no file and takes the place of none. -/
theorem put_directory (hitem : disk.item? location = none) :
    ChangesOnly allowed disk (disk.put location .directory) := by
  have hne : location ≠ [] := fun hnil => by rw [hnil, item?_root] at hitem; cases hitem
  have hother : ∀ {place item}, disk.item? place = some item → place ≠ location := by
    intro place item hplace heq
    rw [heq, hitem] at hplace
    cases hplace
  refine ⟨fun place hplace => ?_, fun {place _} hplace => ?_, fun {place _} hplace => ?_⟩
  · rw [item?_put_of_ne hne (hother hplace), hplace]
  · exact ⟨_, by rw [item?_put_of_ne hne (hother hplace), hplace]⟩
  · by_cases heq : place = location
    · rw [heq, item?_put_self hne] at hplace
      cases hplace
    · rw [item?_put_of_ne hne heq] at hplace
      exact .inl hplace

end ChangesOnly

/-! ## Writes and new directories -/

theorem write_eq_ok_iff {root path : Text} {content : Bytes} :
    disk.write root path content = .ok after ↔
      ∃ location, disk.locate root path = .ok location ∧
        disk.item? location ≠ some .directory ∧ after = disk.put location (.file content) := by
  rw [write, bind_eq_ok_iff]
  refine exists_congr fun location => and_congr_right fun _ => ?_
  split
  · next hitem => exact ⟨fun h => (nomatch h), fun ⟨h, _⟩ => absurd hitem h⟩
  · next hitem => exact ⟨fun h => ⟨hitem, (Except.ok.inj h).symm⟩, fun ⟨_, h⟩ => congrArg _ h.symm⟩

theorem changesOnly_write {root path : Text} {content : Bytes}
    (hwrite : disk.write root path content = .ok after)
    (hallowed : ∀ location, disk.locate root path = .ok location → allowed location content) :
    ChangesOnly allowed disk after := by
  obtain ⟨location, hlocate, hitem, rfl⟩ := write_eq_ok_iff.mp hwrite
  exact .put_file hitem (hallowed location hlocate)

theorem keepsDirectories_write {root path : Text} {content : Bytes}
    (hwrite : disk.write root path content = .ok after) : disk.KeepsDirectories after := by
  have hchange : ChangesOnly (fun _ _ => True) disk after :=
    changesOnly_write hwrite fun _ _ => trivial
  exact hchange.directories

theorem changesOnly_makeDirectory {root path : Text}
    (h : disk.makeDirectory root path = .ok after) : ChangesOnly allowed disk after := by
  rw [makeDirectory] at h
  split at h
  · cases h
  · obtain ⟨location, -, h⟩ := bind_eq_ok_iff.mp h
    split at h
    · cases h
    · next hitem =>
        cases h
        exact .put_directory (by simpa using hitem)

theorem changesOnly_makeDirectoriesFrom (root : Text) :
    ∀ (fuel : Nat) (disk : Disk) (path : Text),
      ChangesOnly allowed disk (makeDirectoriesFrom root fuel disk path).1
  | 0, disk, _ => .refl disk
  | fuel + 1, disk, path => by
      rw [makeDirectoriesFrom]
      split
      -- what is above the path comes first, and then the path itself
      next between fault habove =>
      have hfirst : ChangesOnly allowed disk between := by
        split at habove
        · have hmade := changesOnly_makeDirectoriesFrom root fuel disk (parentPath path)
          rwa [habove] at hmade
        · cases habove
          exact .refl disk
      split
      · exact hfirst
      · split
        · exact hfirst
        · split
          · next hmade => exact hfirst.trans (changesOnly_makeDirectory hmade)
          · exact hfirst

theorem changesOnly_makeDirectories (root : Text) (disk : Disk) (path : Text) :
    ChangesOnly allowed disk (disk.makeDirectories root path).1 :=
  changesOnly_makeDirectoriesFrom root _ disk path

end Disk

/-! ## Changes by jobs -/

/-- A workspace after another: files have changed in allowed ways only, and new
events stand behind the old ones. -/
structure Workspace.ChangesOnly (allowed : Location → Bytes → Prop) (before after : Workspace) :
    Prop where
  disk : before.disk.ChangesOnly allowed after.disk
  events : before.events <+: after.events

namespace Workspace.ChangesOnly

variable {allowed : Location → Bytes → Prop} {before between after : Workspace}

theorem refl (workspace : Workspace) : ChangesOnly allowed workspace workspace :=
  ⟨.refl _, List.prefix_rfl⟩

theorem trans (hfirst : ChangesOnly allowed before between)
    (hsecond : ChangesOnly allowed between after) : ChangesOnly allowed before after :=
  ⟨hfirst.disk.trans hsecond.disk, hfirst.events.trans hsecond.events⟩

theorem mono {more : Location → Bytes → Prop} (h : ChangesOnly allowed before after)
    (hmore : ∀ location content, allowed location content → more location content) :
    ChangesOnly more before after :=
  ⟨h.disk.mono hmore, h.events⟩

theorem logged (workspace : Workspace) (events : List Event) :
    ChangesOnly allowed workspace (Job.logged workspace events) :=
  ⟨.refl _, List.prefix_append ..⟩

end Workspace.ChangesOnly

namespace Job

variable {α β : Type} {allowed : Location → Bytes → Prop}

theorem run_writeFile (setting : Setting) (path : Text) (content : Bytes) (workspace : Workspace) :
    (writeFile setting path content).run workspace =
      match workspace.disk.write setting.root path content with
      | .ok after => (.ok (), { workspace with disk := after })
      | .error fault => (.error (.file fault), workspace) := by
  have hrun : (writeFile setting path content).run workspace =
      (ofFile (workspace.disk.write setting.root path content) >>= setDisk).run workspace :=
    run_bind_ok _ (run_disk workspace)
  rw [hrun]
  cases workspace.disk.write setting.root path content <;> rfl

theorem changesOnly_run_writeFile {setting : Setting} {path : Text} {content : Bytes}
    {workspace : Workspace} (hallowed : ∀ location,
      workspace.disk.locate setting.root path = .ok location → allowed location content) :
    workspace.ChangesOnly allowed ((writeFile setting path content).run workspace).2 := by
  rw [run_writeFile]
  cases hwrite : workspace.disk.write setting.root path content with
  | error fault => exact .refl workspace
  | ok after => exact ⟨Disk.changesOnly_write hwrite hallowed, List.prefix_rfl⟩

/-- A second part is taken wherever the first has led, if it has led anywhere. -/
theorem changesOnly_run_bind {job : Job α} {next : α → Job β} {workspace : Workspace}
    (hjob : workspace.ChangesOnly allowed (job.run workspace).2)
    (hnext : ∀ value after, job.run workspace = (.ok value, after) →
      after.ChangesOnly allowed ((next value).run after).2) :
    workspace.ChangesOnly allowed ((job >>= next).run workspace).2 := by
  cases hrun : job.run workspace with
  | mk outcome after =>
      rw [hrun] at hjob
      cases outcome with
      | error failure => rw [run_bind_error next hrun]; exact hjob
      | ok value => rw [run_bind_ok next hrun]; exact hjob.trans (hnext value after hrun)

/-- However the job ends, it has changed files in allowed ways only. -/
def ChangesOnly (allowed : Location → Bytes → Prop) (job : Job α) : Prop :=
  ∀ workspace : Workspace, workspace.ChangesOnly allowed (job.run workspace).2

namespace ChangesOnly

theorem ofReading {job : Job α} (h : OnlyReads job) : ChangesOnly allowed job := by
  intro workspace
  obtain ⟨outcome, events, -, hrun⟩ := h workspace.disk
  rw [hrun workspace rfl]
  exact .logged workspace events

theorem pure (value : α) : ChangesOnly allowed (Pure.pure value : Job α) :=
  ofReading (.pure value)

theorem throw (failure : Failure) : ChangesOnly allowed (MonadExcept.throw failure : Job α) :=
  ofReading (.throw failure)

theorem report (event : Event) : ChangesOnly allowed (Job.report event) :=
  fun workspace => .logged workspace [event]

theorem record (call : Call) : ChangesOnly allowed (Job.record call) :=
  fun _ => ⟨.refl _, List.prefix_rfl⟩

theorem bind {job : Job α} {next : α → Job β} (hjob : ChangesOnly allowed job)
    (hnext : ∀ value, ChangesOnly allowed (next value)) : ChangesOnly allowed (job >>= next) :=
  fun workspace => changesOnly_run_bind (hjob workspace) fun value after _ => hnext value after

theorem writeFile {setting : Setting} {path : Text} {content : Bytes}
    (hallowed : ∀ (disk : Disk) location,
      disk.locate setting.root path = .ok location → allowed location content) :
    ChangesOnly allowed (Job.writeFile setting path content) :=
  fun workspace => changesOnly_run_writeFile (hallowed workspace.disk)

theorem makeDirectories (setting : Setting) (path : Text) :
    ChangesOnly allowed (Job.makeDirectories setting path) := by
  intro workspace
  have hmade : workspace.ChangesOnly allowed
      { workspace with disk := (workspace.disk.makeDirectories setting.root path).1 } :=
    ⟨Disk.changesOnly_makeDirectories setting.root workspace.disk path, List.prefix_rfl⟩
  cases hmake : workspace.disk.makeDirectories setting.root path with
  | mk made fault =>
      rw [hmake] at hmade
      have hrun : ((Job.makeDirectories setting path).run workspace).2 =
          { workspace with disk := made } := by
        rw [Job.makeDirectories, run_bind_ok _ (run_disk workspace), hmake]
        cases fault <;> rfl
      rw [hrun]
      exact hmade

end ChangesOnly

end Job

end MessageForge
