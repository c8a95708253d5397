import Mathlib.Data.List.Forall2
import MessageForge.Proofs.Jobs
import MessageForge.Proofs.Outcome
import MessageForge.Workspace.Run

/-!
# Removal of files

To remove a file changes nothing for other paths: what a path leads to is found
by walking through directories, and a file is none. So the paths that are
cleaned before a run are those of the disk as it was, and what is left is that
disk without them.
-/

namespace MessageForge

namespace Disk

/-- The disk without the items at some locations. -/
def without (disk : Disk) (locations : List Location) : Disk :=
  { items := disk.items.filter fun (place, _) => place ∉ locations }

/-- A path leads to a location at which there is a file. -/
def IsFileAt (disk : Disk) (root path : Text) (location : Location) : Prop :=
  disk.locate root path = .ok location ∧ ∃ content, disk.item? location = some (.file content)

variable {disk : Disk} {location : Location} {content : Bytes}

theorem lookup_filter (keeps : Location → Bool) (items : List (Location × Item)) :
    (items.filter fun (other, _) => keeps other).lookup location =
      if keeps location then items.lookup location else none := by
  induction items with
  | nil => split <;> rfl
  | cons entry rest ih =>
      obtain ⟨other, item⟩ := entry
      by_cases hother : location = other
      · subst hother
        cases hkeeps : keeps location with
        | true =>
            rw [List.filter_cons_of_pos (by simp [hkeeps]), List.lookup_cons_self, if_pos rfl,
              List.lookup_cons_self]
        | false => rw [List.filter_cons_of_neg (by simp [hkeeps]), ih, hkeeps]; rfl
      · have hne : (location == other) = false := beq_eq_false_iff_ne.mpr hother
        rw [List.lookup_cons, hne]
        cases hkeeps : keeps other with
        | true => rw [List.filter_cons_of_pos (by simp [hkeeps]), List.lookup_cons, hne, ih]
        | false => rw [List.filter_cons_of_neg (by simp [hkeeps]), ih]

theorem item?_erase_of_ne {place : Location} (h : place ≠ location) :
    (disk.erase location).item? place = disk.item? place := by
  rw [item?, item?, erase, lookup_filter (· ≠ location), if_pos (decide_eq_true h)]

theorem item?_erase_self (h : disk.item? location = some (.file content)) :
    (disk.erase location).item? location = none := by
  have hne : location ≠ [] := fun hnil => by
    rw [hnil, item?, if_pos rfl] at h
    cases h
  rw [item?, if_neg hne, erase, lookup_filter (· ≠ location), if_neg (by simp)]

theorem item?_without_of_not_mem {locations : List Location} (h : location ∉ locations) :
    (disk.without locations).item? location = disk.item? location := by
  rw [item?, item?, without, lookup_filter (· ∉ locations), if_pos (decide_eq_true h)]

theorem item?_of_item?_without {locations : List Location} {item : Item}
    (h : (disk.without locations).item? location = some item) :
    disk.item? location = some item := by
  rw [item?, without, lookup_filter (· ∉ locations)] at h
  rw [item?]
  split at h
  · next hroot => rw [if_pos hroot, h]
  · next hroot =>
      rw [if_neg hroot]
      split at h
      · exact h
      · cases h

/-- A walk goes through directories alone, so that a file is in no walk's way. -/
theorem walk_erase (h : disk.item? location = some (.file content)) (found : Location) :
    ∀ (parts : List Text) (place : Location),
      (disk.erase location).walk place parts = .ok found ↔ disk.walk place parts = .ok found
  | [], _ => Iff.rfl
  | part :: rest, place => by
      by_cases hplace : place = location
      · subst hplace
        rw [walk, walk, item?_erase_self h, h]
        exact ⟨fun hfalse => (nomatch hfalse), fun hfalse => (nomatch hfalse)⟩
      · rw [walk, walk, item?_erase_of_ne hplace]
        split
        · exact Iff.rfl
        · exact Iff.rfl
        · split
          · exact walk_erase h found rest place
          · split
            · exact walk_erase h found rest place.dropLast
            · exact walk_erase h found rest (place ++ [part])

theorem locate_erase (h : disk.item? location = some (.file content)) (root path : Text)
    (found : Location) :
    (disk.erase location).locate root path = .ok found ↔ disk.locate root path = .ok found := by
  rw [locate, locate]
  split
  · exact Iff.rfl
  · split
    · exact Iff.rfl
    · exact walk_erase h found _ []

/-- A file that is there after another has been removed was there before. -/
theorem IsFileAt.of_erase {root path : Text} {found : Location}
    (h : disk.item? location = some (.file content))
    (hfile : (disk.erase location).IsFileAt root path found) : disk.IsFileAt root path found := by
  obtain ⟨hlocate, kept, hkept⟩ := hfile
  have hne : found ≠ location := fun heq => by
    rw [heq, item?_erase_self h] at hkept
    cases hkept
  rw [item?_erase_of_ne hne] at hkept
  exact ⟨(locate_erase h root path found).mp hlocate, kept, hkept⟩

theorem without_nil (disk : Disk) : disk.without [] = disk := by
  rw [without, List.filter_eq_self.mpr (fun _ _ => by simp)]

theorem erase_without (disk : Disk) (location : Location) (locations : List Location) :
    (disk.erase location).without locations = disk.without (location :: locations) := by
  rw [without, without, erase, List.filter_filter]
  congr 1
  refine List.filter_congr fun entry _ => ?_
  simp [not_or, Bool.and_comm]

theorem remove_eq_ok_iff {root path : Text} {after : Disk} :
    disk.remove root path = .ok after ↔
      ∃ location, disk.IsFileAt root path location ∧ after = disk.erase location := by
  rw [remove, bind_eq_ok_iff]
  refine exists_congr fun location => ?_
  cases hitem : disk.item? location with
  | none => simp [IsFileAt, hitem]
  | some item =>
      cases item with
      | directory => simp [IsFileAt, hitem]
      | file content =>
          simp only [IsFileAt, hitem, Option.some.injEq, Item.file.injEq, exists_eq', and_true]
          exact and_congr_right fun _ => ⟨fun h => (Except.ok.inj h).symm, fun h => congrArg _ h.symm⟩

end Disk

open Job

/-! ## The paths that are cleaned -/

theorem run_removeFile_eq_ok {setting : Setting} {path : Text} {workspace after : Workspace}
    (h : (removeFile setting path).run workspace = (.ok (), after)) :
    ∃ location, workspace.disk.IsFileAt setting.root path location ∧
      ∀ other : Workspace, other.disk = workspace.disk → (removeFile setting path).run other =
        (.ok (), { other with disk := workspace.disk.erase location }) := by
  have hrun : ∀ other : Workspace, (removeFile setting path).run other =
      (ofFile (other.disk.remove setting.root path) >>= setDisk).run other := fun other =>
    run_bind_ok _ (run_disk other)
  rw [hrun] at h
  obtain ⟨removed, between, hremoved, hset⟩ := run_bind_eq_ok h
  obtain ⟨hok, rfl⟩ := run_ofFile_eq_ok hremoved
  obtain ⟨location, hfile, rfl⟩ := Disk.remove_eq_ok_iff.mp hok
  refine ⟨location, hfile, fun other hdisk => ?_⟩
  rw [hrun other, hdisk, hok]
  rfl

theorem run_removeFile (setting : Setting) (path : Text) (workspace : Workspace) :
    (removeFile setting path).run workspace =
      match workspace.disk.remove setting.root path with
      | .ok after => (.ok (), { workspace with disk := after })
      | .error fault => (.error (.file fault), workspace) := by
  have hrun : (removeFile setting path).run workspace =
      (ofFile (workspace.disk.remove setting.root path) >>= setDisk).run workspace :=
    run_bind_ok _ (run_disk workspace)
  rw [hrun]
  cases workspace.disk.remove setting.root path <;> rfl

/-- What is left of a workspace when the files at some locations are removed. -/
def cleared (workspace : Workspace) (paths : List Text) (locations : List Location) : Workspace :=
  { disk := workspace.disk.without locations
    events := workspace.events ++ paths.map .removing
    calls := workspace.calls }

theorem cleared_cons (workspace : Workspace) (path : Text) (rest : List Text) (location : Location)
    (locations : List Location) :
    cleared { logged workspace [.removing path] with disk := workspace.disk.erase location }
      rest locations = cleared workspace (path :: rest) (location :: locations) := by
  simp only [cleared, logged, Disk.erase_without, List.map_cons, List.append_assoc,
    List.singleton_append]

/-- If all of the paths can be removed, they led to files of the first disk,
and these are what the last disk is without. -/
theorem run_removeAll_eq_ok {setting : Setting} : ∀ {paths : List Text}
    {workspace after : Workspace}, (removeAll setting paths).run workspace = (.ok (), after) →
    ∃ locations, List.Forall₂ (workspace.disk.IsFileAt setting.root) paths locations ∧
      ∀ other : Workspace, other.disk = workspace.disk → (removeAll setting paths).run other =
        (.ok (), cleared other paths locations)
  | [], workspace, after, _ => by
      refine ⟨[], .nil, fun other hdisk => ?_⟩
      rw [removeAll, run_pure, cleared, Disk.without_nil, List.map_nil, List.append_nil]
  | path :: rest, workspace, after, h => by
      have hrun : ∀ other : Workspace, (removeAll setting (path :: rest)).run other =
          (removeFile setting path >>= fun _ => removeAll setting rest).run
            (logged other [.removing path]) := fun other => run_bind_ok _ (run_report _ other)
      rw [hrun] at h
      obtain ⟨⟨⟩, between, hfirst, hrest⟩ := run_bind_eq_ok h
      obtain ⟨location, hfile, hremove⟩ := run_removeFile_eq_ok hfirst
      have hbetween : between.disk = workspace.disk.erase location := by
        rw [hremove _ rfl] at hfirst
        cases hfirst
        rfl
      obtain ⟨locations, hfiles, hremoveAll⟩ := run_removeAll_eq_ok hrest
      obtain ⟨content, hitem⟩ := hfile.2
      refine ⟨location :: locations, .cons hfile (hfiles.imp fun _ _ hkept => ?_), fun other hdisk => ?_⟩
      · rw [hbetween] at hkept
        exact hkept.of_erase hitem
      · rw [hrun other, run_bind_ok _ (hremove (logged other [.removing path]) hdisk),
          hremoveAll _ hbetween.symm, ← cleared_cons, hdisk]
        rfl

/-- The paths that options ask to clean lead to files, and to clean the disk is
to leave these out; nothing but their names is reported. -/
theorem run_clean_eq_ok {setting : Setting} {options : Options} {workspace after : Workspace}
    (h : (clean setting options).run workspace = (.ok (), after)) :
    ∃ removed locations, cleanedPaths workspace.disk setting.root options = .ok removed ∧
      List.Forall₂ (workspace.disk.IsFileAt setting.root) removed locations ∧
      ∀ other : Workspace, other.disk = workspace.disk → (clean setting options).run other =
        (.ok (), cleared other removed locations) := by
  have hrun : ∀ other : Workspace, (clean setting options).run other =
      (ofFile (cleanedPaths other.disk setting.root options) >>= removeAll setting).run other :=
    fun other => run_bind_ok _ (run_disk other)
  rw [hrun] at h
  obtain ⟨removed, between, hremoved, hall⟩ := run_bind_eq_ok h
  obtain ⟨hok, rfl⟩ := run_ofFile_eq_ok hremoved
  obtain ⟨locations, hfiles, hremoveAll⟩ := run_removeAll_eq_ok hall
  refine ⟨removed, locations, hok, hfiles, fun other hdisk => ?_⟩
  rw [hrun other, hdisk, hok, run_bind_ok _ (run_ofFile_ok removed other), hremoveAll other hdisk]

/-! ## Unfinished removal -/

/-- Wherever removal stops, what is gone are files that some of the paths led to. -/
theorem run_removeAll_disk (setting : Setting) : ∀ (paths : List Text) (workspace : Workspace),
    ∃ locations, (∀ location ∈ locations, ∃ path ∈ paths,
        workspace.disk.IsFileAt setting.root path location) ∧
      ((removeAll setting paths).run workspace).2.disk = workspace.disk.without locations
  | [], workspace => ⟨[], List.forall_mem_nil _, (Disk.without_nil _).symm⟩
  | path :: rest, workspace => by
      have hremove := run_removeFile setting path (logged workspace [.removing path])
      rw [removeAll, run_bind_ok _ (run_report _ workspace)]
      cases hremoved : workspace.disk.remove setting.root path with
      | error fault =>
          rw [run_bind_error _ (hremove.trans (by rw [logged, hremoved]))]
          exact ⟨[], List.forall_mem_nil _, (Disk.without_nil _).symm⟩
      | ok after =>
          rw [run_bind_ok _ (hremove.trans (by rw [logged, hremoved]))]
          obtain ⟨location, hfile, rfl⟩ := Disk.remove_eq_ok_iff.mp hremoved
          obtain ⟨content, hitem⟩ := hfile.2
          obtain ⟨locations, hlocations, hdisk⟩ := run_removeAll_disk setting rest
            { logged workspace [.removing path] with disk := workspace.disk.erase location }
          refine ⟨location :: locations, List.forall_mem_cons.mpr ⟨⟨path, List.mem_cons_self .., hfile⟩,
            fun other hother => ?_⟩, hdisk.trans (Disk.erase_without ..)⟩
          obtain ⟨path', hpath', hkept⟩ := hlocations other hother
          exact ⟨path', List.mem_cons_of_mem _ hpath', hkept.of_erase hitem⟩

theorem run_clean_disk (setting : Setting) (options : Options) (workspace : Workspace) :
    ∃ locations, (∀ location ∈ locations, ∃ paths, ∃ path ∈ paths,
        cleanedPaths workspace.disk setting.root options = .ok paths ∧
        workspace.disk.IsFileAt setting.root path location) ∧
      ((clean setting options).run workspace).2.disk = workspace.disk.without locations := by
  rw [clean, run_bind_ok _ (run_disk workspace)]
  cases hpaths : cleanedPaths workspace.disk setting.root options with
  | error fault => exact ⟨[], List.forall_mem_nil _, (Disk.without_nil _).symm⟩
  | ok paths =>
      rw [run_bind_ok _ (run_ofFile_ok paths workspace)]
      obtain ⟨locations, hlocations, hdisk⟩ := run_removeAll_disk setting paths workspace
      refine ⟨locations, fun location hlocation => ?_, hdisk⟩
      obtain ⟨path, hpath, hfile⟩ := hlocations location hlocation
      exact ⟨paths, path, hpath, rfl, hfile⟩

end MessageForge
