import MessageForge.Proofs.Globs
import MessageForge.Proofs.Growth

/-!
# Writing again

After a run all its modules are there, in directories that have their markers.
To carry out the same writing phase once more makes nothing and removes
nothing: it goes through, and it changes no more than the content of the
modules.
-/

namespace MessageForge

open Job
open MessageForge.Path

/-! ## Directories that are there -/

namespace Path

variable {front back name : Text}

theorem exists_join_eq_append (front back : Text) : ∃ start, join front back = start ++ back := by
  cases hback : isAbsolute back with
  | true => exact ⟨[], by rw [join_of_isAbsolute hback, List.nil_append]⟩
  | false =>
      rw [join_of_relative hback]
      split
      · exact ⟨front, rfl⟩
      · exact ⟨front ++ "/", by rw [List.append_assoc]; rfl⟩

theorem join_ne_nil_of_left (h : front ≠ []) (back : Text) : join front back ≠ [] := by
  cases hback : isAbsolute back with
  | true =>
      rw [join_of_isAbsolute hback]
      rintro rfl
      cases hback
  | false =>
      rw [join_of_relative hback]
      split
      · exact List.append_ne_nil_of_left_ne_nil h _
      · exact List.append_ne_nil_of_left_ne_nil h _

theorem join_ne_nil_of_right (front : Text) (h : back ≠ []) : join front back ≠ [] := by
  obtain ⟨start, hstart⟩ := exists_join_eq_append front back
  rw [hstart]
  exact List.append_ne_nil_of_right_ne_nil _ h

/-- A relative path may be joined first or last. -/
theorem join_join (front : Text) (hback : back ≠ []) (hname : isAbsolute name = false) :
    join front (join back name) = join (join front back) name := by
  obtain ⟨start, hstart⟩ := exists_join_eq_append front back
  have hends : Text.endsWith "/" (join front back) = Text.endsWith "/" back := by
    rw [Bool.eq_iff_iff, endsWith_slash_iff, endsWith_slash_iff, hstart]
    constructor
    · rintro ⟨rest, hrest⟩
      have hlast := congrArg List.getLast? hrest
      rw [List.getLast?_append_of_ne_nil _ hback, List.getLast?_concat] at hlast
      exact ⟨_, (List.dropLast_append_getLast? _ hlast).symm⟩
    · rintro ⟨rest, rfl⟩
      exact ⟨start ++ rest, by rw [List.append_assoc]⟩
  have hne : join front back ≠ [] := join_ne_nil_of_right front hback
  rw [join_of_relative hname, join_of_relative hname, hends]
  by_cases hslash : Text.endsWith "/" back = true
  · rw [if_pos (.inr hslash), if_pos (.inr hslash), join_append _ _ hback]
  · rw [if_neg fun h => h.elim hback hslash, if_neg fun h => h.elim hne hslash,
      join_append _ _ hback]

end Path

namespace Disk

variable {disk before between after : Disk} {root path directory front back name : Text}
  {location : Location}

/-- What stands before a slash in a path that leads somewhere is a directory. -/
theorem isDirectory_of_locate_append (h : disk.locate root (front ++ '/' :: back) = .ok location)
    (hfront : front ≠ []) : disk.isDirectory root front = true := by
  obtain ⟨-, -, hwalk⟩ := locate_eq_ok_iff.mp h
  have hnull := hasNull_of_locate h
  rw [Text.hasNull_append, Bool.or_eq_false_iff] at hnull
  rw [join_append _ _ hfront, Text.split_append, walk_append] at hwalk
  obtain ⟨place, hplace, hrest⟩ := bind_eq_ok_iff.mp hwalk
  exact isDirectory_iff.mpr ⟨place, locate_eq_ok_iff.mpr ⟨hnull.1, hfront, hplace⟩,
    item?_directory_of_walk_split hrest⟩

theorem isDirectory_slashes {slashes : Text} (hne : slashes ≠ []) (h : ∀ c ∈ slashes, c = '/') :
    disk.isDirectory root slashes = true := by
  have habsolute : isAbsolute slashes = true := by
    cases slashes with
    | nil => exact absurd rfl hne
    | cons c rest => exact isAbsolute_iff.mpr ⟨rest, by rw [h c (List.mem_cons_self ..)]⟩
  have hnull : Text.hasNull slashes = false := by
    rw [Text.hasNull, List.any_eq_false]
    intro c hc
    rw [h c hc]
    decide
  refine isDirectory_iff.mpr ⟨[], ?_, item?_root disk⟩
  rw [locate_of_isAbsolute habsolute, hnull]
  exact walk_slashes h (item?_root disk)

theorem isDirectory_dropTrailingSlashes (h : disk.isDirectory root path = true)
    (hne : dropTrailingSlashes path ≠ []) :
    disk.isDirectory root (dropTrailingSlashes path) = true := by
  obtain ⟨slashes, hpath, hslashes⟩ := dropTrailingSlashes_append path
  cases slashes with
  | nil =>
      rw [List.append_nil] at hpath
      rwa [← hpath]
  | cons c rest =>
      obtain ⟨location, hlocate, -⟩ := isDirectory_iff.mp h
      rw [hpath, hslashes c (List.mem_cons_self ..)] at hlocate
      exact isDirectory_of_locate_append hlocate hne

/-- The directory of a path that leads somewhere is there. -/
theorem isDirectory_directory_of_locate (h : disk.locate root path = .ok location)
    (hne : Path.directory path ≠ []) : disk.isDirectory root (Path.directory path) = true := by
  by_cases hslash : '/' ∈ path
  · obtain ⟨front, tail, rfl, htail, -⟩ := exists_splitLast? hslash
    rw [directory_append front htail] at hne ⊢
    split at hne
    · next hall =>
        rw [if_pos hall]
        exact isDirectory_slashes hne fun c hc => of_decide_eq_true (List.all_eq_true.mp hall c hc)
    · next hall =>
        rw [if_neg hall] at ⊢
        have hfront : front ≠ [] := fun hnil => hall (by rw [hnil]; rfl)
        rw [dropTrailingSlashes_concat] at hne ⊢
        exact isDirectory_dropTrailingSlashes (isDirectory_of_locate_append h hfront) hne
  · exact absurd (directory_of_not_mem hslash) hne

theorem exists?_parentPath (h : disk.isDirectory root path = true) (hne : parentPath path ≠ []) :
    disk.exists? root (parentPath path) = true := by
  obtain ⟨location, hlocate, -⟩ := isDirectory_iff.mp h
  rw [parentPath] at hne ⊢
  split at hne
  · next hempty =>
      rw [if_pos hempty]
      have hdirectory : Path.directory path ≠ [] := fun hnil => by
        rw [hnil] at hne
        exact hne rfl
      obtain ⟨above, habove, -⟩ :=
        isDirectory_iff.mp (isDirectory_directory_of_locate hlocate hdirectory)
      exact exists?_of_isDirectory (isDirectory_directory_of_locate habove hne)
  · next hname =>
      rw [if_neg hname]
      exact exists?_of_isDirectory (isDirectory_directory_of_locate hlocate hne)

/-- A directory that is there cannot be made. -/
theorem makeDirectory_of_isDirectory (h : disk.isDirectory root path = true) (made : Disk) :
    disk.makeDirectory root path ≠ .ok made := by
  intro hmade
  rw [makeDirectory] at hmade
  split at hmade
  · cases hmade
  · next hslashes =>
      obtain ⟨location, hlocate, hmade⟩ := bind_eq_ok_iff.mp hmade
      have hne : dropTrailingSlashes path ≠ [] := (locate_eq_ok_iff.mp hlocate).2.1
      obtain ⟨place, hplace, hitem⟩ := isDirectory_iff.mp (isDirectory_dropTrailingSlashes h hne)
      cases hlocate.symm.trans hplace
      rw [hitem] at hmade
      cases hmade

theorem makeDirectories_of_isDirectory (h : disk.isDirectory root path = true) :
    disk.makeDirectories root path = (disk, none) := by
  have hnested : (!(parentPath path).isEmpty && !(lastName path).isEmpty &&
      !disk.exists? root (parentPath path)) = false := by
    by_cases hparent : parentPath path = []
    · rw [hparent]
      rfl
    · rw [exists?_parentPath h hparent, Bool.not_true, Bool.and_false]
  rw [makeDirectories, makeDirectoriesFrom]
  dsimp only
  rw [hnested, if_neg Bool.false_ne_true, Bool.false_and]
  cases hmade : disk.makeDirectory root path with
  | ok made => exact absurd hmade (makeDirectory_of_isDirectory h made)
  | error fault =>
      dsimp only
      rw [h, if_pos rfl]
      rfl

/-- A file is in the directory that its path has been joined to. -/
theorem isDirectory_of_locate_join (hdirectory : directory ≠ []) (hname : isAbsolute name = false)
    (h : disk.locate root (Path.join directory name) = .ok location) :
    disk.isDirectory root directory = true := by
  obtain ⟨-, -, hwalk⟩ := locate_eq_ok_iff.mp h
  have hnull := hasNull_of_locate h
  rw [hasNull_join hname, Bool.or_eq_false_iff] at hnull
  have hfront : Path.join root directory ≠ [] := join_ne_nil_of_right root hdirectory
  rw [join_join root hdirectory hname, walk_join hfront hname] at hwalk
  obtain ⟨place, hplace, hrest⟩ := bind_eq_ok_iff.mp hwalk
  exact isDirectory_iff.mpr ⟨place, locate_eq_ok_iff.mpr ⟨hnull.1, hdirectory, hplace⟩,
    item?_directory_of_walk_split hrest⟩

/-! ## Files whose content changes -/

/-- Nothing has changed from one disk to the other but what is in some files. -/
def Rewrites (places : Location → Prop) (before after : Disk) : Prop :=
  ∀ location, after.item? location = before.item? location ∨
    places location ∧ (∃ old, before.item? location = some (.file old)) ∧
      ∃ new, after.item? location = some (.file new)

variable {places : Location → Prop}

namespace Rewrites

theorem refl (disk : Disk) : Rewrites places disk disk :=
  fun _ => .inl rfl

theorem trans (hfirst : Rewrites places before between) (hsecond : Rewrites places between after) :
    Rewrites places before after := by
  intro location
  rcases hfirst location with hsame | ⟨hplace, hold, new, hnew⟩
  · rcases hsecond location with hsame' | hchanged
    · exact .inl (hsame'.trans hsame)
    · exact .inr (hsame ▸ hchanged)
  · rcases hsecond location with hsame' | ⟨-, -, newer, hnewer⟩
    · exact .inr ⟨hplace, hold, new, hsame'.trans hnew⟩
    · exact .inr ⟨hplace, hold, newer, hnewer⟩

theorem changesOnly (h : Rewrites places before after) :
    before.ChangesOnly (fun location _ => places location) after := by
  refine ⟨fun location hdirectory => ?_, fun {location content} hbefore => ?_,
    fun {location content} hafter => ?_⟩
  · rcases h location with hsame | ⟨-, ⟨old, hold⟩, -⟩
    · rw [hsame, hdirectory]
    · rw [hdirectory] at hold
      cases hold
  · rcases h location with hsame | ⟨-, -, hnew⟩
    · exact ⟨content, hsame.trans hbefore⟩
    · exact hnew
  · rcases h location with hsame | ⟨hplace, -, -⟩
    · exact .inl (hsame ▸ hafter)
    · exact .inr hplace

theorem put {content : Bytes} (hfile : ∃ old, disk.item? location = some (.file old))
    (hplace : places location) : Rewrites places disk (disk.put location (.file content)) := by
  obtain ⟨old, hold⟩ := hfile
  have hne : location ≠ [] := fun hnil => by
    rw [hnil, item?_root] at hold
    cases hold
  intro other
  by_cases heq : other = location
  · exact .inr ⟨heq ▸ hplace, ⟨old, heq ▸ hold⟩, content, by rw [heq, item?_put_self hne]⟩
  · exact .inl (item?_put_of_ne hne heq _)

end Rewrites

theorem exists_write (content : Bytes) (hfile : disk.IsFileAt root path location)
    (hplace : places location) :
    ∃ after, disk.write root path content = .ok after ∧ Rewrites places disk after ∧
      after.item? location = some (.file content) := by
  obtain ⟨hlocate, old, hold⟩ := hfile
  have hitem : disk.item? location ≠ some .directory := by
    rw [hold]
    exact nofun
  have hne : location ≠ [] := fun hnil => hitem (hnil ▸ item?_root disk)
  exact ⟨_, write_eq_ok_iff.mpr ⟨location, hlocate, hitem, rfl⟩, .put ⟨old, hold⟩ hplace,
    item?_put_self hne _⟩

end Disk

/-! ## Modules that are there -/

variable {setting : Setting} {places : Location → Prop} {root : Text} {before after : Disk}

/-- The module is there, in a directory that has its marker. -/
structure IsSettled (root : Text) (disk : Disk) (placed : Placed) : Prop where
  module : disk.IsFileAt root placed.path (Path.place root placed.path)
  directory : disk.isDirectory root placed.directory = true
  marker : disk.exists? root (Path.join placed.directory typedMarker) = true

theorem IsSettled.mono {allowed : Location → Bytes → Prop} {placed : Placed}
    (h : IsSettled root before placed) (hchange : before.ChangesOnly allowed after) :
    IsSettled root after placed :=
  ⟨hchange.isFileAt h.module, hchange.isDirectory h.directory, hchange.exists? h.marker⟩

theorem run_writeModule_again (draft : Draft) {path : Text} {location : Location}
    (hformats : ∀ failure, ¬ setting.programs.FormattingFails draft.render failure)
    (hplace : places location)
    (workspace : Workspace) (hfile : workspace.disk.IsFileAt setting.root path location) :
    ∃ after, (writeModule setting draft path).run workspace = (.ok (), after) ∧
      Disk.Rewrites places workspace.disk after.disk := by
  obtain ⟨opened, hopen, hrewrites, hempty⟩ := Disk.exists_write [] hfile hplace
  obtain ⟨after, found, hlocate, -, hdisk, -, hrun⟩ := run_writeModule_written draft hopen hformats
  obtain rfl : found = location := by
    rw [Disk.eq_place_of_locate hlocate, ← hfile.eq_place]
  refine ⟨after, hrun, hrewrites.trans ?_⟩
  rw [hdisk]
  exact .put ⟨[], hempty⟩ hplace

/-- Modules are written only if formatting fails for none of them. -/
theorem formats_of_run_writeAll {makesDirectories : Bool} {modules : List Placed}
    {before after : Workspace}
    (h : (writeAll setting makesDirectories modules).run before = (.ok (), after)) :
    ∀ placed ∈ modules, ∀ failure,
      ¬ setting.programs.FormattingFails placed.draft.render failure := by
  induction modules generalizing before with
  | nil => exact List.forall_mem_nil _
  | cons first rest ih =>
      obtain ⟨_, _, hfirst, hrest⟩ := run_writeAll_cons_eq_ok h
      obtain ⟨_, _, hformats, -⟩ := run_writeModule_eq_ok hfirst
      exact List.forall_mem_cons.mpr ⟨hformats, ih hrest⟩

theorem run_writeAll_again (setting : Setting) (places : Location → Prop) (makesDirectories : Bool) :
    ∀ {modules : List Placed} (workspace : Workspace),
      (∀ placed ∈ modules, ∀ failure,
        ¬ setting.programs.FormattingFails placed.draft.render failure) →
      (∀ placed ∈ modules, IsSettled setting.root workspace.disk placed ∧
        places (Path.place setting.root placed.path)) →
      ∃ after, (writeAll setting makesDirectories modules).run workspace = (.ok (), after) ∧
        Disk.Rewrites places workspace.disk after.disk
  | [], workspace, _, _ => ⟨workspace, rfl, .refl _⟩
  | first :: rest, workspace, hformats, h => by
      obtain ⟨hformat, hlater⟩ := List.forall_mem_cons.mp hformats
      obtain ⟨⟨hfirst, hplace⟩, hrest⟩ := List.forall_mem_cons.mp h
      obtain ⟨between, hwrite, hrewrites⟩ :=
        run_writeModule_again first.draft hformat hplace workspace hfirst.module
      obtain ⟨after, hothers, hrewritten⟩ := run_writeAll_again setting places makesDirectories between
        hlater fun placed hplaced => (hrest placed hplaced).imp_left (·.mono hrewrites.changesOnly)
      refine ⟨after, ?_, hrewrites.trans hrewritten⟩
      rw [writeAll]
      split
      · have hmake : (makeDirectories setting first.directory).run workspace = (.ok (), workspace) := by
          rw [makeDirectories, run_bind_ok _ (run_disk workspace),
            Disk.makeDirectories_of_isDirectory hfirst.directory]
          rfl
        rw [run_bind_ok _ hmake, run_bind_ok _ hwrite, hothers]
      · rw [run_bind_ok _ hwrite, hothers]

theorem exists?_of_run_markTyped : ∀ {directories : List Text} {before after : Workspace},
    (markTyped setting directories).run before = (.ok (), after) →
    ∀ directory ∈ directories,
      after.disk.exists? setting.root (Path.join directory typedMarker) = true
  | [], _, _, _, directory, hdirectory => absurd hdirectory List.not_mem_nil
  | first :: rest, before, after, h, directory, hdirectory => by
      -- once the first marker is there, the others leave it there
      have hlater : ∀ between : Workspace, (markTyped setting rest).run between = (.ok (), after) →
          between.disk.exists? setting.root (Path.join first typedMarker) = true →
          after.disk.exists? setting.root (Path.join directory typedMarker) = true := by
        intro between hrest hmarker
        rcases List.mem_cons.mp hdirectory with rfl | hmem
        · have hchange := changesOnly_markTyped setting rest between
          rw [hrest] at hchange
          exact hchange.disk.exists? hmarker
        · exact exists?_of_run_markTyped hrest directory hmem
      rw [markTyped, run_bind_ok _ (run_disk before)] at h
      split at h
      · obtain ⟨⟨⟩, between, hwrite, hrest⟩ := run_bind_eq_ok h
        refine hlater between hrest ?_
        rw [run_writeFile] at hwrite
        split at hwrite
        · next written hwritten =>
            cases hwrite
            obtain ⟨location, -, -, hitem, hlocate, -⟩ := Disk.write_of_write hwritten []
            exact Disk.exists?_iff.mpr ⟨location, _, hlocate, hitem⟩
        · cases hwrite
      · next hthere => exact hlater before h (by simpa using hthere)

theorem run_markTyped_again : ∀ {directories : List Text} (workspace : Workspace),
    (∀ directory ∈ directories,
      workspace.disk.exists? setting.root (Path.join directory typedMarker) = true) →
    (markTyped setting directories).run workspace = (.ok (), workspace)
  | [], _, _ => rfl
  | directory :: rest, workspace, h => by
      obtain ⟨hfirst, hrest⟩ := List.forall_mem_cons.mp h
      rw [markTyped, run_bind_ok _ (run_disk workspace), hfirst]
      exact run_markTyped_again workspace hrest

/-! ## Checks -/

theorem run_judge_again {outcome : Outcome} {before after : Workspace}
    (h : (judge outcome.toExit).run before = (.ok (), after)) (workspace : Workspace) :
    (judge outcome.toExit).run workspace = (.ok (), logged workspace [.checkPassed]) := by
  rw [judge] at h ⊢
  dsimp only at h ⊢
  split at h
  · next hpasses => rw [if_pos hpasses, run_report]
  · cases h

theorem judge_disk {outcome : Outcome} {before after : Workspace}
    (h : (judge outcome.toExit).run before = (.ok (), after)) : after.disk = before.disk := by
  rw [run_judge_again h] at h
  cases h
  rfl

/-- What a check that passes does with files. -/
theorem run_checkModules_eq_ok {files : List Text} {before after : Workspace} (hne : files ≠ [])
    (h : (checkModules setting files).run before = (.ok (), after)) :
    ∃ outcome between, setting.programs.checker = .ends outcome ∧
      (leaveContent setting files outcome.written).run
          { logged before [.checking files.length] with
            calls := before.calls ++ [.checking files] } = (.ok (), between) ∧
      (judge outcome.toExit).run between = (.ok (), after) := by
  rw [checkModules, if_neg fun hempty => hne (List.isEmpty_iff.mp hempty),
    run_bind_ok _ (run_report _ before)] at h
  obtain ⟨⟨⟩, recorded, hrecord, h⟩ := run_bind_eq_ok h
  cases hrecord
  split at h
  · cases h
  · cases h
  · cases h
  · next outcome hends =>
      obtain ⟨⟨⟩, between, hleave, hjudge⟩ := run_bind_eq_ok h
      exact ⟨outcome, between, hends, hleave, hjudge⟩

/-- What the checker leaves can be put into a file that is there. -/
theorem exists_run_leaveContent (places : Location → Prop) {files : List Text} (written : Option Bytes)
    (workspace : Workspace)
    (hfiles : ∀ file ∈ files, workspace.disk.IsFileAt setting.root file (Path.place setting.root file) ∧
      places (Path.place setting.root file)) :
    ∃ left, (leaveContent setting files written).run workspace = (.ok (), left) ∧
      Disk.Rewrites places workspace.disk left.disk := by
  unfold leaveContent
  cases hlast : files.getLast? with
  | none => exact ⟨workspace, rfl, .refl _⟩
  | some file =>
      cases written with
      | none => exact ⟨workspace, rfl, .refl _⟩
      | some content =>
          obtain ⟨hfile, hplace⟩ := hfiles file (List.mem_of_getLast? hlast)
          obtain ⟨changed, hwrite, hrewrites, -⟩ := Disk.exists_write content hfile hplace
          refine ⟨{ workspace with disk := changed }, ?_, hrewrites⟩
          dsimp only
          rw [run_bind_ok _ (run_disk workspace), hwrite]
          rfl

theorem run_checkModules_again (places : Location → Prop) {files : List Text} {before after : Workspace}
    (h : (checkModules setting files).run before = (.ok (), after)) (workspace : Workspace)
    (hfiles : ∀ file ∈ files, workspace.disk.IsFileAt setting.root file (Path.place setting.root file) ∧
      places (Path.place setting.root file)) :
    ∃ last, (checkModules setting files).run workspace = (.ok (), last) ∧
      Disk.Rewrites places workspace.disk last.disk := by
  by_cases hne : files = []
  · subst hne
    exact ⟨_, rfl, .refl _⟩
  · obtain ⟨outcome, between, hends, -, hjudge⟩ := run_checkModules_eq_ok hne h
    let started : Workspace := { logged workspace [.checking files.length] with
      calls := workspace.calls ++ [.checking files] }
    obtain ⟨left, hrun, hrewrites⟩ := exists_run_leaveContent places outcome.written started hfiles
    refine ⟨logged left [.checkPassed], ?_, hrewrites⟩
    rw [checkModules, if_neg fun hempty => hne (List.isEmpty_iff.mp hempty),
      run_bind_ok _ (run_report _ workspace)]
    have hrecord : (record (.checking files)).run (logged workspace [.checking files.length]) =
        (.ok (), started) := rfl
    rw [run_bind_ok _ hrecord, hends]
    dsimp only
    rw [run_bind_ok _ hrun, run_judge_again hjudge]

/-- What is in the file at a location once the checker has left something, if it
does, in the last file that it was given. -/
def leftIn (root file : Text) (location : Location) (content : Bytes) (outcome : Outcome) : Bytes :=
  match outcome.written with
  | some left => if Path.place root file = location then left else content
  | none => content

theorem item?_of_run_leaveContent {files : List Text} {file : Text} {location : Location}
    {content : Bytes} {outcome : Outcome} {before after : Workspace}
    (hlast : files.getLast? = some file) (hitem : before.disk.item? location = some (.file content))
    (h : (leaveContent setting files outcome.written).run before = (.ok (), after)) :
    after.disk.item? location =
      some (.file (leftIn setting.root file location content outcome)) := by
  unfold leaveContent at h
  rw [hlast] at h
  cases hwritten : outcome.written with
  | none =>
      rw [hwritten] at h
      cases h
      simpa only [leftIn, hwritten] using hitem
  | some left =>
      rw [hwritten] at h
      dsimp only at h
      rw [run_bind_ok _ (run_disk before)] at h
      cases hwrite : before.disk.write setting.root file left with
      | error fault =>
          rw [hwrite] at h
          cases fault <;> cases h
      | ok changed =>
          rw [hwrite] at h
          cases h
          obtain ⟨place, hlocate, hplace, rfl⟩ := Disk.write_eq_ok_iff.mp hwrite
          obtain rfl := Disk.eq_place_of_locate hlocate
          have hroot : Path.place setting.root file ≠ [] := fun hnil =>
            hplace (hnil ▸ Disk.item?_root _)
          simp only [leftIn, hwritten]
          show (before.disk.put _ _).item? location = _
          split
          · next heq => rw [← heq, Disk.item?_put_self hroot]
          · next heq => rw [Disk.item?_put_of_ne hroot (Ne.symm heq), hitem]

/-- What a check leaves in a file is settled by what was in it. -/
theorem exists_item?_of_run_checkModules (setting : Setting) (files : List Text)
    (location : Location) (content : Bytes) :
    ∃ new, ∀ before after : Workspace, before.disk.item? location = some (.file content) →
      (checkModules setting files).run before = (.ok (), after) →
      after.disk.item? location = some (.file new) := by
  by_cases hne : files = []
  · subst hne
    refine ⟨content, fun before after hitem h => ?_⟩
    cases h
    exact hitem
  · cases hlast : files.getLast? with
    | none => exact absurd (List.getLast?_eq_none_iff.mp hlast) hne
    | some file =>
        cases hchecker : setting.programs.checker with
        | refuses fault =>
            refine ⟨content, fun before after _ h => ?_⟩
            obtain ⟨_, _, hends, -⟩ := run_checkModules_eq_ok hne h
            rw [hchecker] at hends
            cases hends
        | ends outcome =>
            refine ⟨leftIn setting.root file location content outcome, fun before after hitem h => ?_⟩
            obtain ⟨other, between, hends, hrun, hjudge⟩ := run_checkModules_eq_ok hne h
            obtain rfl : outcome = other := Behaviour.ends.inj (hchecker.symm.trans hends)
            rw [judge_disk hjudge]
            refine item?_of_run_leaveContent hlast ?_ hrun
            exact hitem

end MessageForge
