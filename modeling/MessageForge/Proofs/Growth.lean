import MessageForge.Proofs.Trees

/-!
# Disks that grow

A run whose clean phase is over takes nothing away: directories stay, files
stay files, and what is new lies at the end of a path, so that the disk stays a
tree. Whatever a path leads to is of the same kind ever after.
-/

namespace MessageForge

open Job

namespace Disk

variable {disk after : Disk} {root path : Text} {location : Location} {content : Bytes}

/-! ## Trees -/

/-- What is put at the end of a path stands in a directory under a proper name. -/
theorem IsTree.put (htree : disk.IsTree) (hlocate : disk.locate root path = .ok location)
    (hitem : disk.item? location ≠ some .directory) (item : Item) :
    (disk.put location item).IsTree := by
  have hroot : location ≠ [] := fun hnil => hitem (hnil ▸ item?_root disk)
  have hreached := isReached_of_locate hlocate
  have hkept : ∀ place, disk.item? place = some .directory →
      (disk.put location item).item? place = some .directory := by
    intro place hplace
    rw [item?_put_of_ne hroot (fun heq => hitem (heq ▸ hplace)), hplace]
  constructor
  · intro place old hold above habove hne
    by_cases heq : place = location
    · exact hkept above (hreached above (heq ▸ habove) (heq ▸ hne))
    · rw [item?_put_of_ne hroot heq] at hold
      exact hkept above (htree.reached hold above habove hne)
  · intro place old hold name hname
    by_cases heq : place = location
    · obtain ⟨hisName, hfound⟩ := isName_baseName_of_locate hlocate hitem
      rw [heq, hfound] at hname
      rcases List.mem_append.mp hname with habove | hlast
      · have hdirectory : disk.item? (Path.place root (Path.directory path)) = some .directory :=
          hreached _ (hfound ▸ List.prefix_append ..) fun hsame => by simp [hfound] at hsame
        exact htree.names hdirectory name habove
      · obtain ⟨front, hpath⟩ := Path.exists_eq_append_baseName path
        have hnull := hasNull_of_locate hlocate
        rw [hpath, Text.hasNull_append, Bool.or_eq_false_iff] at hnull
        exact List.mem_singleton.mp hlast ▸ ⟨hisName, hnull.2⟩
    · rw [item?_put_of_ne hroot heq] at hold
      exact htree.names hold name hname

theorem IsTree.write (htree : disk.IsTree) (h : disk.write root path content = .ok after) :
    after.IsTree := by
  obtain ⟨location, hlocate, hitem, rfl⟩ := write_eq_ok_iff.mp h
  exact htree.put hlocate hitem _

theorem IsTree.makeDirectory (htree : disk.IsTree) (h : disk.makeDirectory root path = .ok after) :
    after.IsTree := by
  rw [Disk.makeDirectory] at h
  split at h
  · cases h
  · obtain ⟨location, hlocate, h⟩ := bind_eq_ok_iff.mp h
    split at h
    · cases h
    · next hitem =>
        cases h
        refine htree.put hlocate (fun hdirectory => hitem ?_) .directory
        rw [hdirectory]
        rfl

theorem IsTree.makeDirectoriesFrom (root : Text) : ∀ (fuel : Nat) {disk : Disk} (path : Text),
    disk.IsTree → (makeDirectoriesFrom root fuel disk path).1.IsTree
  | 0, _, _, htree => htree
  | fuel + 1, disk, path, htree => by
      rw [Disk.makeDirectoriesFrom]
      split
      next between fault habove =>
      have hfirst : between.IsTree := by
        split at habove
        · have hmade := IsTree.makeDirectoriesFrom root fuel (parentPath path) htree
          rwa [habove] at hmade
        · cases habove
          exact htree
      split
      · exact hfirst
      · split
        · exact hfirst
        · split
          · next hmade => exact hfirst.makeDirectory hmade
          · exact hfirst

end Disk

/-! ## Jobs on trees -/

namespace Job

variable {α β : Type}

/-- However the job ends, a disk that was a tree is still one. -/
def KeepsTree (job : Job α) : Prop :=
  ∀ workspace : Workspace, workspace.disk.IsTree → (job.run workspace).2.disk.IsTree

namespace KeepsTree

/-- A job whose run leaves the disk as it is. -/
theorem of_run {job : Job α} (h : ∀ workspace, (job.run workspace).2.disk = workspace.disk) :
    KeepsTree job :=
  fun workspace htree => (h workspace).symm ▸ htree

theorem ofReading {job : Job α} (h : OnlyReads job) : KeepsTree job := by
  refine of_run fun workspace => ?_
  obtain ⟨outcome, events, -, hrun⟩ := h workspace.disk
  rw [hrun workspace rfl]
  rfl

theorem pure (value : α) : KeepsTree (Pure.pure value : Job α) :=
  of_run fun _ => rfl

theorem throw (failure : Failure) : KeepsTree (MonadExcept.throw failure : Job α) :=
  of_run fun _ => rfl

theorem report (event : Event) : KeepsTree (Job.report event) :=
  of_run fun _ => rfl

theorem record (call : Call) : KeepsTree (Job.record call) :=
  of_run fun _ => rfl

theorem bind {job : Job α} {next : α → Job β} (hjob : KeepsTree job)
    (hnext : ∀ value, KeepsTree (next value)) : KeepsTree (job >>= next) := by
  intro workspace htree
  have hfirst := hjob workspace htree
  cases hrun : job.run workspace with
  | mk outcome between =>
      rw [hrun] at hfirst
      cases outcome with
      | error failure => rw [run_bind_error next hrun]; exact hfirst
      | ok value => rw [run_bind_ok next hrun]; exact hnext value between hfirst

theorem writeFile (setting : Setting) (path : Text) (content : Bytes) :
    KeepsTree (Job.writeFile setting path content) := by
  intro workspace htree
  rw [run_writeFile]
  cases hwrite : workspace.disk.write setting.root path content with
  | error fault => exact htree
  | ok after => exact htree.write hwrite

theorem makeDirectories (setting : Setting) (path : Text) :
    KeepsTree (Job.makeDirectories setting path) := by
  intro workspace htree
  have hmade := Disk.IsTree.makeDirectoriesFrom setting.root (path.length + 1) path htree
  rw [Job.makeDirectories, run_bind_ok _ (run_disk workspace), Disk.makeDirectories]
  split
  next made fault hmake =>
  rw [hmake] at hmade
  cases fault <;> exact hmade

end KeepsTree

end Job

variable {setting : Setting} {options : Options}

theorem keepsTree_writeModule (draft : Draft) (path : Text) :
    KeepsTree (writeModule setting draft path) := by
  have hformat : KeepsTree (formatText setting.programs draft.render) := .of_run fun workspace => by
    obtain ⟨after, hdisk, -, hrun⟩ := run_formatText setting.programs draft.render workspace
    rw [hrun, ← hdisk]
  exact .bind (.writeFile setting path []) fun _ => .bind hformat fun _ =>
    .bind (.writeFile setting path _) fun _ => .report _

theorem keepsTree_writeAll (makesDirectories : Bool) : ∀ modules : List Placed,
    KeepsTree (writeAll setting makesDirectories modules)
  | [] => .pure ()
  | first :: rest => by
      have hboth : KeepsTree (writeModule setting first.draft first.path >>= fun _ =>
          writeAll setting makesDirectories rest) :=
        .bind (keepsTree_writeModule _ _) fun _ => keepsTree_writeAll makesDirectories rest
      rw [writeAll]
      split
      · exact .bind (.makeDirectories setting first.directory) fun _ => hboth
      · exact hboth

theorem keepsTree_markTyped : ∀ directories : List Text, KeepsTree (markTyped setting directories)
  | [] => .pure ()
  | directory :: rest => by
      rw [markTyped]
      refine .bind (.ofReading .disk) fun onto => ?_
      split
      · exact .bind (.writeFile setting _ []) fun _ => keepsTree_markTyped rest
      · exact keepsTree_markTyped rest

theorem keepsTree_checkModules (files : List Text) : KeepsTree (checkModules setting files) := by
  have hleave : ∀ written, KeepsTree (leaveContent setting files written) := by
    intro written workspace htree
    unfold leaveContent
    cases files.getLast? with
    | none => exact htree
    | some file =>
        cases written with
        | none => exact htree
        | some content =>
            dsimp only
            rw [run_bind_ok _ (run_disk workspace)]
            cases hwrite : workspace.disk.write setting.root file content with
            | error fault => cases fault <;> exact htree
            | ok after => exact htree.write hwrite
  have hjudge : ∀ exit, KeepsTree (judge exit) := by
    intro exit
    rw [judge]
    dsimp only
    split
    · exact .report _
    · exact .bind (.report _) fun _ => .throw _
  rw [checkModules]
  split
  · exact .report _
  · refine .bind (.report _) fun _ => .bind (.record _) fun _ => ?_
    split
    · exact .throw _
    · exact .throw _
    · exact .throw _
    · exact .bind (hleave _) fun _ => hjudge _

theorem keepsTree_clean (setting : Setting) (options : Options) :
    KeepsTree (clean setting options) := by
  intro workspace htree
  obtain ⟨removed, hremoved, hdisk⟩ := run_clean_disk setting options workspace
  rw [hdisk]
  refine htree.without fun location hlocation => ?_
  obtain ⟨_, _, _, _, hfile⟩ := hremoved location hlocation
  exact hfile.2

/-- Whatever a run does, and however it ends, it leaves a tree. -/
theorem Disk.IsTree.execute {disk : Disk} (htree : disk.IsTree) (setting : Setting)
    (arguments : List Text) : (MessageForge.execute setting arguments disk).workspace.disk.IsTree := by
  cases hoptions : Options.ofArguments arguments with
  | error fault =>
      rw [MessageForge.execute, hoptions]
      exact htree
  | ok options =>
      obtain ⟨events, hworkspace⟩ := exists_execute_workspace_eq setting disk hoptions
      have hrun : KeepsTree (run setting options) := by
        rw [MessageForge.run]
        refine .bind (keepsTree_clean setting options) fun _ => .bind (.ofReading .disk) fun onto =>
          .bind (.ofReading (.ofFile _)) fun paths => ?_
        split
        · exact .report _
        · refine .bind (.ofReading (onlyReads_readAll _ paths)) fun readings => ?_
          have hwrite : KeepsTree (writePhase setting options paths readings) := by
            rw [writePhase_eq]
            exact .bind (keepsTree_writeAll _ _) fun _ => .bind (keepsTree_markTyped _) fun _ =>
              .pure _
          refine .bind hwrite fun written => ?_
          split
          · exact keepsTree_checkModules written
          · exact .pure ()
      rw [hworkspace]
      exact hrun _ htree

/-! ## Paths on a disk that grows -/

namespace Disk

namespace ChangesOnly

variable {allowed : Location → Bytes → Prop} {before after : Disk} {root path : Text}
  {location : Location}

theorem isFileAt (h : before.ChangesOnly allowed after) (hbefore : before.IsFileAt root path location) :
    after.IsFileAt root path location := by
  obtain ⟨hlocate, content, hitem⟩ := hbefore
  exact ⟨h.directories.locate hlocate, h.files hitem⟩

theorem isFile (h : before.ChangesOnly allowed after) (hbefore : before.isFile root path = true) :
    after.isFile root path = true := by
  obtain ⟨location, hfile⟩ := isFile_iff.mp hbefore
  exact isFile_iff.mpr ⟨location, h.isFileAt hfile⟩

theorem isDirectory (h : before.ChangesOnly allowed after)
    (hbefore : before.isDirectory root path = true) : after.isDirectory root path = true := by
  obtain ⟨location, hlocate, hitem⟩ := isDirectory_iff.mp hbefore
  exact isDirectory_iff.mpr ⟨location, h.directories.locate hlocate, h.directories location hitem⟩

/-- What is there is a file or a directory, and stays what it is. -/
theorem cases_of_exists? (h : before.ChangesOnly allowed after)
    (hbefore : before.exists? root path = true) :
    before.isFile root path = true ∧ after.isFile root path = true ∨
      before.isDirectory root path = true ∧ after.isDirectory root path = true := by
  cases hdirectory : before.isDirectory root path with
  | true => exact .inr ⟨rfl, h.isDirectory hdirectory⟩
  | false =>
      have hfile := isFile_iff_exists?.mpr ⟨hbefore, hdirectory⟩
      exact .inl ⟨hfile, h.isFile hfile⟩

theorem exists? (h : before.ChangesOnly allowed after) (hbefore : before.exists? root path = true) :
    after.exists? root path = true := by
  rcases h.cases_of_exists? hbefore with ⟨-, hfile⟩ | ⟨-, hdirectory⟩
  · exact (isFile_iff_exists?.mp hfile).1
  · exact exists?_of_isDirectory hdirectory

theorem isFile_of_exists? (h : before.ChangesOnly allowed after)
    (hafter : after.isFile root path = true) (hbefore : before.exists? root path = true) :
    before.isFile root path = true := by
  rcases h.cases_of_exists? hbefore with ⟨hfile, -⟩ | ⟨-, hdirectory⟩
  · exact hfile
  · rw [(isFile_iff_exists?.mp hafter).2] at hdirectory
    cases hdirectory

theorem isDirectory_of_exists? (h : before.ChangesOnly allowed after)
    (hafter : after.isDirectory root path = true) (hbefore : before.exists? root path = true) :
    before.isDirectory root path = true := by
  rcases h.cases_of_exists? hbefore with ⟨-, hfile⟩ | ⟨hdirectory, -⟩
  · rw [(isFile_iff_exists?.mp hfile).2] at hafter
    cases hafter
  · exact hdirectory

end ChangesOnly

/-- One tree comes after another, with all that was on it. -/
structure Grows (before after : Disk) : Prop where
  isTree : before.IsTree
  isTreeAfter : after.IsTree
  changes : before.ChangesOnly (fun _ _ => True) after

end Disk

end MessageForge
