import MessageForge.Proofs.Selections
import MessageForge.Proofs.Spellings

/-!
# Cleaning

The files to clean are a set of paths, and each path is removed once, in no
order that could be told. To remove one file leaves all other paths as they are,
so the order does not matter. What matters is that a file has many spellings: if
two of them are among the paths, the file is gone when it is to be removed for
the second time, and the run ends there.

Main statement: `cleaning_removes_matches_iff`.
-/

namespace MessageForge

open Job
open MessageForge.Path

/-! ## Removal in a row -/

namespace Disk

variable {disk : Disk} {root path : Text} {location place : Location} {content : Bytes}

/-- The path leads to a location at which there is no directory: a file, or
nothing any more. -/
def LeadsTo (disk : Disk) (root path : Text) (location : Location) : Prop :=
  disk.locate root path = .ok location ∧ disk.item? location ≠ some .directory

theorem IsFileAt.leadsTo (h : disk.IsFileAt root path location) :
    disk.LeadsTo root path location := by
  obtain ⟨hlocate, content, hitem⟩ := h
  exact ⟨hlocate, by rw [hitem]; exact nofun⟩

/-- Where one file is removed, all other ways lead where they led. -/
theorem LeadsTo.erase (hitem : disk.item? location = some (.file content))
    (h : disk.LeadsTo root path place) : (disk.erase location).LeadsTo root path place := by
  refine ⟨(locate_erase hitem root path place).mpr h.1, ?_⟩
  by_cases hplace : place = location
  · rw [hplace, item?_erase_self hitem]
    exact nofun
  · rw [item?_erase_of_ne hplace]
    exact h.2

theorem item?_without {locations : List Location} (hroot : [] ∉ locations) :
    (disk.without locations).item? location =
      if location ∈ locations then none else disk.item? location := by
  split
  · next hmem =>
      have hne : location ≠ [] := fun hnil => hroot (hnil ▸ hmem)
      rw [item?, if_neg hne, without, lookup_filter (· ∉ locations), if_neg (by simpa using hmem)]
  · next hmem => exact item?_without_of_not_mem hmem

theorem IsFileAt.ne_root (h : disk.IsFileAt root path location) : location ≠ [] := by
  rintro rfl
  obtain ⟨-, content, hitem⟩ := h
  rw [item?_root] at hitem
  cases hitem

theorem IsFileAt.erase (hitem : disk.item? location = some (.file content)) (hplace : place ≠ location)
    (h : disk.IsFileAt root path place) : (disk.erase location).IsFileAt root path place := by
  obtain ⟨hlocate, kept, hkept⟩ := h
  exact ⟨(locate_erase hitem root path place).mpr hlocate, kept,
    (item?_erase_of_ne hplace).trans hkept⟩

/-- What a disk is without depends on no order. -/
theorem without_congr {locations places : List Location}
    (h : ∀ location, location ∈ locations ↔ location ∈ places) :
    disk.without locations = disk.without places := by
  rw [without, without]
  congr 1
  exact List.filter_congr fun entry _ => by simp only [h]

end Disk

variable {setting : Setting} {options : Options} {disk : Disk} {root : Text}

theorem run_removeFile_of_isFileAt {path : Text} {location : Location} {workspace : Workspace}
    (h : workspace.disk.IsFileAt setting.root path location) :
    (removeFile setting path).run workspace =
      (.ok (), { workspace with disk := workspace.disk.erase location }) := by
  rw [run_removeFile, Disk.remove_eq_ok_iff.mpr ⟨location, h, rfl⟩]

theorem run_removeFile_of_missing {path : Text} {location : Location} {workspace : Workspace}
    (hlocate : workspace.disk.locate setting.root path = .ok location)
    (hitem : workspace.disk.item? location = none) :
    (removeFile setting path).run workspace = (.error (.file .missing), workspace) := by
  rw [run_removeFile, Disk.remove, hlocate, ok_bind, hitem]
  rfl

/-- Paths to different files are removed one after the other. -/
theorem run_removeAll : ∀ {paths : List Text} {locations : List Location} {workspace : Workspace},
    List.Forall₂ (workspace.disk.IsFileAt setting.root) paths locations → locations.Nodup →
    (removeAll setting paths).run workspace = (.ok (), cleared workspace paths locations)
  | [], _, workspace, .nil, _ => by
      rw [removeAll, run_pure, cleared, Disk.without_nil, List.map_nil, List.append_nil]
  | path :: rest, location :: locations, workspace, .cons hfile hfiles, hnodup => by
      obtain ⟨hfresh, hnodup⟩ := List.nodup_cons.mp hnodup
      obtain ⟨content, hitem⟩ := hfile.2
      let between : Workspace :=
        { logged workspace [.removing path] with disk := workspace.disk.erase location }
      have hremove : (removeFile setting path).run (logged workspace [.removing path]) =
          (.ok (), between) := run_removeFile_of_isFileAt hfile
      -- the other files are at other locations and so are still there
      have hrest : List.Forall₂ (between.disk.IsFileAt setting.root) rest locations :=
        List.forall₂_iff_get.mpr ⟨hfiles.length_eq, fun index hpath hplace =>
          Disk.IsFileAt.erase hitem
            (fun heq => hfresh (heq ▸ List.get_mem locations ⟨index, hplace⟩))
            (hfiles.get hpath hplace)⟩
      rw [removeAll, run_bind_ok _ (run_report _ workspace), run_bind_ok _ hremove,
        run_removeAll hrest hnodup, ← cleared_cons]

/-- Paths of which two lead to one file are not all removed, and neither are
those of which one leads to nothing. -/
theorem run_removeAll_missing : ∀ {paths : List Text} {locations : List Location}
    {workspace : Workspace},
    List.Forall₂ (workspace.disk.LeadsTo setting.root) paths locations →
    (¬ locations.Nodup ∨ ∃ location ∈ locations, workspace.disk.item? location = none) →
    ((removeAll setting paths).run workspace).1 = .error (.file .missing)
  | [], _, _, .nil, h => by
      rcases h with hnodup | ⟨_, hmem, -⟩
      · exact absurd List.nodup_nil hnodup
      · cases hmem
  | path :: rest, location :: locations, workspace, .cons hpath hpaths, h => by
      have hstart : (removeAll setting (path :: rest)).run workspace =
          (removeFile setting path >>= fun _ => removeAll setting rest).run
            (logged workspace [.removing path]) := run_bind_ok _ (run_report _ workspace)
      rw [hstart]
      cases hitem : workspace.disk.item? location with
      | none =>
          have hremove : (removeFile setting path).run (logged workspace [.removing path]) =
              (.error (.file .missing), logged workspace [.removing path]) :=
            run_removeFile_of_missing hpath.1 hitem
          rw [run_bind_error _ hremove]
      | some item =>
          cases item with
          | directory => exact absurd hitem hpath.2
          | file content =>
              have hfile : (logged workspace [.removing path]).disk.IsFileAt setting.root path
                  location := ⟨hpath.1, content, hitem⟩
              have hremove := run_removeFile_of_isFileAt hfile
              rw [run_bind_ok _ hremove]
              refine run_removeAll_missing (hpaths.imp fun _ _ hlater => hlater.erase hitem) ?_
              -- if the location comes again, it is by now the one with nothing at it
              by_cases hmem : location ∈ locations
              · exact .inr ⟨location, hmem, Disk.item?_erase_self hitem⟩
              rcases h with hnodup | ⟨missing, hmissing, hnone⟩
              · exact .inl fun hlater => hnodup (List.nodup_cons.mpr ⟨hmem, hlater⟩)
              · have hne : missing ≠ location := fun heq => by
                  rw [heq, hitem] at hnone
                  cases hnone
                exact .inr ⟨missing, (List.mem_cons.mp hmissing).resolve_left hne,
                  (Disk.item?_erase_of_ne hne).trans hnone⟩

/-- If paths can be removed in one order, they can in any other, and the same is
left of the disk. -/
theorem run_removeAll_perm {paths others : List Text} {before after : Workspace}
    (hperm : paths.Perm others) (h : (removeAll setting paths).run before = (.ok (), after)) :
    ∃ other, (removeAll setting others).run before = (.ok (), other) ∧
      other.disk = after.disk := by
  obtain ⟨locations, hfiles, hall⟩ := run_removeAll_eq_ok h
  have hnodup : locations.Nodup := by
    by_contra htwice
    have hfailed := run_removeAll_missing (hfiles.imp fun _ _ hfile => hfile.leadsTo) (.inl htwice)
    rw [h] at hfailed
    cases hfailed
  rw [hall before rfl] at h
  cases h
  have hplaces : paths.map (Path.place setting.root) = locations :=
    List.forall₂_eq_eq_eq ▸ List.forall₂_map_left_iff.mpr
      (hfiles.imp fun _ _ hfile => hfile.eq_place.symm)
  subst hplaces
  have hothers : List.Forall₂ (before.disk.IsFileAt setting.root) others
      (others.map (Path.place setting.root)) :=
    List.forall₂_map_right_iff.mpr (List.forall₂_same.mpr fun path hpath =>
      List.forall₂_same.mp (List.forall₂_map_right_iff.mp hfiles) path (hperm.mem_iff.mpr hpath))
  have hmap := hperm.map (Path.place setting.root)
  exact ⟨_, run_removeAll hothers (hmap.nodup_iff.mp hnodup),
    Disk.without_congr fun _ => hmap.mem_iff.symm⟩

/-! ## What is matched -/

namespace Disk

/-- The expressions for files to clean stand for the path, and there is
something at it. -/
def IsMatch (disk : Disk) (root : Text) (options : Options) (path : Text) : Prop :=
  ∃ pattern ∈ options.clean,
    Spells options.recursive (Path.join root pattern) path ∧ disk.exists? root path = true

/-- All matches, each of them once, in some order. -/
def ListsMatches (disk : Disk) (root : Text) (options : Options) (order : List Text) : Prop :=
  order.Nodup ∧ ∀ path, path ∈ order ↔ disk.IsMatch root options path

/-- No file is matched under two spellings of its path. -/
def SpellsMatchesOnce (disk : Disk) (root : Text) (options : Options) : Prop :=
  ∀ path other location, disk.IsMatch root options path → disk.IsMatch root options other →
    disk.IsFileAt root path location → disk.IsFileAt root other location → path = other

theorem IsTree.exists_cleanedPaths (htree : disk.IsTree) (hroot : isAbsolute root = true)
    (hnull : ∀ pattern ∈ options.clean, Text.hasNull (Path.join root pattern) = false) :
    ∃ paths, cleanedPaths disk root options = .ok paths ∧
      disk.ListsMatches root options paths := by
  have hsteps : ∀ pattern ∈ options.clean, ∃ found,
      disk.expand root options.recursive (Path.join root pattern) = .ok found :=
    fun pattern hpattern => htree.exists_expand_of_hasNull
      (isAbsolute_join_left hroot pattern) (hnull pattern hpattern)
  obtain ⟨groups, hgroups⟩ := exists_mapM_eq_ok hsteps
  refine ⟨sortedSet groups.flatten, by rw [cleanedPaths, hgroups]; rfl, nodup_sortedSet _,
    fun path => ?_⟩
  rw [mem_sortedSet, mem_flatten_of_mapM_eq_ok hgroups]
  constructor
  · rintro ⟨pattern, hpattern, group, hgroup, hpath⟩
    exact ⟨pattern, hpattern,
      (htree.mem_expand_iff (isAbsolute_join_left hroot pattern) hgroup).mp hpath⟩
  · rintro ⟨pattern, hpattern, hfound⟩
    obtain ⟨group, -, hgroup⟩ := exists_mem_of_mapM_eq_ok hgroups pattern hpattern
    exact ⟨pattern, hpattern, group, hgroup,
      (htree.mem_expand_iff (isAbsolute_join_left hroot pattern) hgroup).mpr hfound⟩

/-- Tidy expressions match files under their plain spellings only. -/
theorem spellsMatchesOnce_of_isTidy
    (htidy : ∀ pattern ∈ options.clean, IsTidy (Path.join root pattern)) :
    disk.SpellsMatchesOnce root options := by
  have hplain : ∀ path location, disk.IsMatch root options path →
      disk.IsFileAt root path location → path = spell location := by
    rintro path location ⟨pattern, hpattern, hspells, -⟩ hfile
    exact hfile.eq_spell (hspells.isTidy (htidy pattern hpattern))
  intro path other location hpath hother hfile hsame
  rw [hplain path location hpath hfile, hplain other location hother hsame]

theorem isFileAt_place {path : Text} (h : disk.isFile root path = true) :
    disk.IsFileAt root path (Path.place root path) := by
  obtain ⟨location, hfile⟩ := isFile_iff.mp h
  exact hfile.eq_place ▸ hfile

namespace ListsMatches

variable {order : List Text}

theorem forall₂_place (h : disk.ListsMatches root options order)
    (hfiles : ∀ path, disk.IsMatch root options path → disk.isFile root path = true) :
    List.Forall₂ (disk.IsFileAt root) order (order.map (Path.place root)) :=
  List.forall₂_map_right_iff.mpr (List.forall₂_same.mpr fun path hpath =>
    isFileAt_place (hfiles path ((h.2 path).mp hpath)))

theorem mem_map_place_iff {location : Location} (h : disk.ListsMatches root options order)
    (hfiles : ∀ path, disk.IsMatch root options path → disk.isFile root path = true) :
    location ∈ order.map (Path.place root) ↔
      ∃ path, disk.IsMatch root options path ∧ disk.IsFileAt root path location := by
  rw [List.mem_map]
  refine exists_congr fun path => ?_
  rw [h.2 path]
  refine and_congr_right fun hmatch => ⟨?_, fun hfile => hfile.eq_place.symm⟩
  rintro rfl
  exact isFileAt_place (hfiles path hmatch)

theorem nodup_map_place_iff (h : disk.ListsMatches root options order)
    (hfiles : ∀ path, disk.IsMatch root options path → disk.isFile root path = true) :
    (order.map (Path.place root)).Nodup ↔ disk.SpellsMatchesOnce root options := by
  rw [List.nodup_map_iff_inj_on h.1]
  constructor
  · intro hinjective path other location hpath hother hfile hsame
    exact hinjective path ((h.2 path).mpr hpath) other ((h.2 other).mpr hother)
      (hfile.eq_place.symm.trans hsame.eq_place)
  · intro honce path hpath other hother heq
    have hmatch := (h.2 path).mp hpath
    have hmatch' := (h.2 other).mp hother
    exact honce path other _ hmatch hmatch' (isFileAt_place (hfiles path hmatch))
      (heq ▸ isFileAt_place (hfiles other hmatch'))

end ListsMatches

end Disk

/-! ## Runs that clean -/

/-- The rest of a run, when the files to clean are gone. -/
def runCleaned (setting : Setting) (options : Options) : Job Unit := do
  let paths ← ofFile (selectedPaths (← Job.disk) setting.root options)
  if paths.isEmpty then report .nothingFound
  else
    let importPaths := options.importPaths.map (Path.join setting.root)
    let readings ← readAll setting importPaths paths
    let written ← writePhase setting options paths readings
    if !options.skipChecker then checkModules setting written

/-- A run that removes the files to clean in a given order. -/
def runInOrder (setting : Setting) (options : Options) (order : List Text) : Job Unit := do
  removeAll setting order
  runCleaned setting options

theorem run_run_of_cleanedPaths {workspace : Workspace} {order : List Text}
    (h : cleanedPaths workspace.disk setting.root options = .ok order) :
    (run setting options).run workspace = (runInOrder setting options order).run workspace := by
  have hclean : (clean setting options).run workspace = (removeAll setting order).run workspace := by
    rw [clean, run_bind_ok _ (run_disk workspace), h, run_bind_ok _ (run_ofFile_ok order workspace)]
  show (clean setting options >>= fun _ => runCleaned setting options).run workspace = _
  rw [runInOrder]
  cases hremove : (removeAll setting order).run workspace with
  | mk outcome after =>
      cases outcome with
      | error failure => rw [run_bind_error _ hremove, run_bind_error _ (hclean.trans hremove)]
      | ok value => rw [run_bind_ok _ hremove, run_bind_ok _ (hclean.trans hremove)]

/-- Where the expressions for files to clean match nothing but files, and none of
these under two spellings, all of the matched files and nothing else is removed,
in whatever order, and the run goes on with what is left. If a file is matched
under two spellings, the run ends when that file is missing, whatever the order,
and all that is gone are matched files. Tidy expressions, which are names and
wildcards behind slashes, match no file under two spellings. -/
theorem cleaning_removes_matches_iff (htree : disk.IsTree)
    (hroot : isAbsolute setting.root = true)
    (hnull : ∀ pattern ∈ options.clean, Text.hasNull (Path.join setting.root pattern) = false)
    (hfiles : ∀ path, disk.IsMatch setting.root options path →
      disk.isFile setting.root path = true) :
    (∃ paths, disk.ListsMatches setting.root options paths ∧
      ∀ workspace : Workspace, workspace.disk = disk →
        (run setting options).run workspace = (runInOrder setting options paths).run workspace) ∧
    ((∀ pattern ∈ options.clean, IsTidy (Path.join setting.root pattern)) →
      disk.SpellsMatchesOnce setting.root options) ∧
    ∃ places : List Location,
      (∀ location, location ∈ places ↔ ∃ path, disk.IsMatch setting.root options path ∧
        disk.IsFileAt setting.root path location) ∧
      (∀ location, (disk.without places).item? location =
        if location ∈ places then none else disk.item? location) ∧
      ∀ order, disk.ListsMatches setting.root options order →
        ∀ workspace : Workspace, workspace.disk = disk →
          ((∃ after, (removeAll setting order).run workspace = (.ok (), after)) ↔
            disk.SpellsMatchesOnce setting.root options) ∧
          (disk.SpellsMatchesOnce setting.root options →
            (removeAll setting order).run workspace = (.ok (), cleared workspace order places) ∧
            (runInOrder setting options order).run workspace =
              (runCleaned setting options).run (cleared workspace order places)) ∧
          (¬ disk.SpellsMatchesOnce setting.root options →
            ∃ after gone, (runInOrder setting options order).run workspace =
                (.error (.file .missing), after) ∧
              after.disk = disk.without gone ∧ ∀ location ∈ gone, location ∈ places) := by
  obtain ⟨paths, hpaths, hlists⟩ := htree.exists_cleanedPaths hroot hnull
  refine ⟨⟨paths, hlists, fun workspace hdisk => run_run_of_cleanedPaths (hdisk ▸ hpaths)⟩,
    Disk.spellsMatchesOnce_of_isTidy, paths.map (Path.place setting.root),
    fun location => hlists.mem_map_place_iff hfiles, fun location => Disk.item?_without ?_,
    fun order horder workspace hdisk => ?_⟩
  · intro htop
    obtain ⟨path, -, hfile⟩ := (hlists.mem_map_place_iff hfiles).mp htop
    exact hfile.ne_root rfl
  subst hdisk
  have hsame : ∀ location, location ∈ order.map (Path.place setting.root) ↔
      location ∈ paths.map (Path.place setting.root) := fun location => by
    rw [horder.mem_map_place_iff hfiles, hlists.mem_map_place_iff hfiles]
  have hremoves : workspace.disk.SpellsMatchesOnce setting.root options →
      (removeAll setting order).run workspace =
        (.ok (), cleared workspace order (paths.map (Path.place setting.root))) := by
    intro honce
    rw [run_removeAll (horder.forall₂_place hfiles) ((horder.nodup_map_place_iff hfiles).mpr honce),
      cleared, cleared, Disk.without_congr hsame]
  have hfails : ¬ workspace.disk.SpellsMatchesOnce setting.root options →
      ((removeAll setting order).run workspace).1 = .error (.file .missing) := by
    intro htwice
    exact run_removeAll_missing ((horder.forall₂_place hfiles).imp fun _ _ hfile => hfile.leadsTo)
      (.inl fun hnodup => htwice ((horder.nodup_map_place_iff hfiles).mp hnodup))
  refine ⟨⟨?_, fun honce => ⟨_, hremoves honce⟩⟩,
    fun honce => ⟨hremoves honce, run_bind_ok _ (hremoves honce)⟩, fun htwice => ?_⟩
  · rintro ⟨after, hafter⟩
    by_contra htwice
    have hfailed := hfails htwice
    rw [hafter] at hfailed
    cases hfailed
  · obtain ⟨gone, hgone, hdisk⟩ := run_removeAll_disk setting order workspace
    refine ⟨((removeAll setting order).run workspace).2, gone,
      run_bind_error _ (Prod.ext (hfails htwice) rfl), hdisk, fun location hlocation => ?_⟩
    obtain ⟨path, hpath, hfile⟩ := hgone location hlocation
    exact (hlists.mem_map_place_iff hfiles).mpr ⟨path, (horder.2 path).mp hpath, hfile⟩

/-- A workspace with a module of an earlier run, and an expression that repeats
another with a dot in front. -/
def oldDisk : Disk :=
  { items := [(["old.py"], .file [])] }

def repeatedOptions : Options :=
  { clean := ["old.py", "./old.py"] }

theorem repeated_expression_ends_cleaning :
    oldDisk.IsTree ∧ (∀ path, oldDisk.IsMatch "/" repeatedOptions path →
      oldDisk.isFile "/" path = true) ∧
    ((run { root := "/" } repeatedOptions).run { disk := oldDisk }).1 =
      .error (.file .missing) := by
  have htree : oldDisk.IsTree := Disk.isTree_of_items (by decide) (by decide)
  have hmatch : ∀ pattern ∈ repeatedOptions.clean,
      oldDisk.IsMatch "/" repeatedOptions (Path.join "/" pattern) :=
    List.forall_mem_cons.mpr ⟨⟨_, List.mem_cons_self .., .literal (by decide), by decide +kernel⟩,
      List.forall_mem_singleton.mpr
        ⟨_, List.mem_cons_of_mem _ (List.mem_cons_self ..), .literal (by decide), by decide +kernel⟩⟩
  have hfiles : ∀ path, oldDisk.IsMatch "/" repeatedOptions path →
      oldDisk.isFile "/" path = true := by
    rintro path ⟨pattern, hpattern, hspells, -⟩
    have hliteral : ∀ pattern ∈ repeatedOptions.clean,
        Placement.isPattern (Path.join "/" pattern) = false ∧
          oldDisk.isFile "/" (Path.join "/" pattern) = true := by decide +kernel
    rw [Disk.Spells.eq_of_literal hspells (hliteral pattern hpattern).1]
    exact (hliteral pattern hpattern).2
  have htwice : ¬ oldDisk.SpellsMatchesOnce "/" repeatedOptions := fun honce =>
    absurd (honce (Path.join "/" "old.py") (Path.join "/" "./old.py") ["old.py"]
      (hmatch "old.py" (by decide)) (hmatch "./old.py" (by decide))
      ⟨by decide +kernel, [], by decide +kernel⟩ ⟨by decide +kernel, [], by decide +kernel⟩)
      (by decide +kernel)
  obtain ⟨⟨paths, hlists, hrun⟩, -, places, -, -, horders⟩ :=
    @cleaning_removes_matches_iff { root := "/" } repeatedOptions _ htree (by decide) (by decide) hfiles
  obtain ⟨-, -, hfails⟩ := horders paths hlists { disk := oldDisk } rfl
  obtain ⟨after, gone, hfailed, -⟩ := hfails htwice
  exact ⟨htree, hfiles, by rw [hrun _ rfl, hfailed]⟩

end MessageForge
