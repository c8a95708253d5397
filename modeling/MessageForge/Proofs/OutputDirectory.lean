import MessageForge.Proofs.Readings
import MessageForge.Proofs.Searches

/-!
# Output directories

Where an output directory is asked for, everything is left inside it, and each
module lies there as its declaration file lies below one directory above all
of them. That directory is found from the patterns alone: one that starts with
a wildcard or names a file beside the root has no base and does not count,
which is of no harm as long as what it finds is below the bases that do.
-/

namespace MessageForge

open MessageForge.Path

variable {setting : Setting} {options : Options} {root path : Text} {paths : List Text} {disk : Disk}

/-! ## Directories above files -/

theorem eq_nil_or_mem_of_mem_split_directory {part : Text}
    (h : part ∈ Text.split '/' (Path.directory path)) : part = [] ∨ part ∈ Text.split '/' path := by
  by_cases hpath : '/' ∈ path
  · obtain ⟨front, tail, rfl, htail, -⟩ := exists_splitLast? hpath
    obtain ⟨slashes, hdirectory, hslashes⟩ := exists_directory_append_eq front htail
    have hmem := Disk.mem_split_append_slashes hslashes h
    rw [← hdirectory, Text.split_append] at hmem
    rw [Text.split_append]
    rcases List.mem_append.mp hmem with hmem | hmem
    · exact .inr (List.mem_append_left _ hmem)
    · exact .inl (List.mem_singleton.mp hmem)
  · rw [directory_of_not_mem hpath] at h
    exact .inl (List.mem_singleton.mp h)

/-- The common directory of the directories of several paths is at or above
each of the paths. -/
theorem place_common_directories_isPrefix (hroot : isAbsolute root = true) :
    ∀ path ∈ paths,
      Path.place root (common (paths.map fun path => Path.directory (absolute root path))) <+:
        Path.place root path := by
  intro path hpath
  have hdirectories : ∀ directory ∈ paths.map fun path => Path.directory (absolute root path),
      isAbsolute directory = true ∧ (".." : Text) ∉ Text.split '/' directory := by
    intro directory hdirectory
    obtain ⟨other, -, rfl⟩ := List.mem_map.mp hdirectory
    refine ⟨(isAbsolute_directory _).trans (isAbsolute_absolute hroot other), fun hmem => ?_⟩
    exact (eq_nil_or_mem_of_mem_split_directory hmem).elim (by decide)
      (not_mem_split_absolute hroot other)
  have habove := place_common_isPrefix root hdirectories _ (List.mem_map_of_mem hpath)
  have hlast : (".." : Text) ∉ [baseName (absolute root path)] := by
    obtain ⟨front, hsplit⟩ := exists_split_eq_concat (absolute root path)
    intro hmem
    have hup := not_mem_split_absolute hroot path
    rw [hsplit] at hup
    exact hup (List.mem_append_right _ hmem)
  rw [← place_absolute hroot path, place_directory root (absolute root path)]
  exact habove.trans (prefix_follow hlast)

/-- The bases that count. -/
def basesOf (patterns : List Text) : List Text :=
  (patterns.map Placement.patternBase).filter (!·.isEmpty)

theorem mem_basesOf {patterns : List Text} {base : Text} :
    base ∈ basesOf patterns ↔ base ≠ [] ∧ ∃ pattern ∈ patterns, Placement.patternBase pattern = base := by
  simp [basesOf, and_comm]

theorem commonBase_of_bases {patterns : List Text} (h : basesOf patterns ≠ []) (found : List Text) :
    Placement.commonBase root patterns found =
      some (common ((basesOf patterns).map fun base => absolute root (Path.join root base))) := by
  have hne : (basesOf patterns).isEmpty = false := by rwa [← Bool.not_eq_true, List.isEmpty_iff]
  show (if !(basesOf patterns).isEmpty then _ else _) = _
  rw [hne]
  rfl

theorem commonBase_of_no_bases {patterns : List Text} (h : basesOf patterns = []) (found : List Text) :
    Placement.commonBase root patterns found = if found.isEmpty then none
      else some (common (found.map fun path => Path.directory (absolute root path))) := by
  show (if !(basesOf patterns).isEmpty then _ else _) = _
  rw [h]
  rfl

/-- The common base is at or above each of the bases that count. -/
theorem place_common_bases_isPrefix {patterns : List Text} (hroot : isAbsolute root = true) :
    ∀ base ∈ basesOf patterns,
      Path.place root (common ((basesOf patterns).map fun base => absolute root (Path.join root base)))
        <+: Path.place root base := by
  intro base hbase
  have hbases : ∀ directory ∈ (basesOf patterns).map fun base => absolute root (Path.join root base),
      isAbsolute directory = true ∧ (".." : Text) ∉ Text.split '/' directory := by
    intro directory hdirectory
    obtain ⟨other, -, rfl⟩ := List.mem_map.mp hdirectory
    exact ⟨isAbsolute_absolute hroot _, not_mem_split_absolute hroot _⟩
  have habove := place_common_isPrefix root hbases _ (List.mem_map_of_mem hbase)
  rwa [place_absolute hroot, place_join_self hroot] at habove

/-- What a pattern without a base finds is below the common base of the others:
either there are no others, or that base is at or above the root. -/
def KeepsBase (root : Text) (patterns : List Text) : Prop :=
  ∀ base, Placement.commonBase root patterns [] = some base →
    ∀ pattern ∈ patterns, Placement.patternBase pattern = [] →
      isAbsolute pattern = false ∧ Path.place root base <+: Path.place root []

/-! ## Runs with an output directory -/

/-- The search of a run starts from where the layout does: paths are followed
from a root that is no pattern itself, patterns do not go up behind a wildcard,
and those without a base do not count. -/
structure KeepsLayout (setting : Setting) (options : Options) (disk : Disk) : Prop where
  absolute : isAbsolute setting.root = true
  plain : Placement.isPattern setting.root = false
  names : disk.HasNames
  stays : ∀ pattern ∈ options.paths, StaysBelow pattern
  bases : KeepsBase setting.root options.paths

/-- All files that are selected lie below the directory that the layout starts from. -/
theorem KeepsLayout.isBelowBase (h : KeepsLayout setting options disk)
    (hselected : selectedPaths disk setting.root options = .ok paths) :
    IsBelowBase disk setting.root options paths := by
  intro base hbase path hpath location hfile
  rw [hfile.eq_place]
  rw [Option.mem_def, layoutBase] at hbase
  split at hbase
  · cases hbase
  by_cases hbases : basesOf options.paths = []
  · rw [commonBase_of_no_bases hbases] at hbase
    split at hbase
    · cases hbase
    · cases hbase
      exact place_common_directories_isPrefix h.absolute path hpath
  · rw [commonBase_of_bases hbases] at hbase
    cases hbase
    obtain ⟨found, hfound, hmem⟩ := mem_searchedPaths_of_mem_selectedPaths hselected
    obtain ⟨pattern, hpattern, hbelow⟩ := prefix_of_mem_searchedPaths h.names h.absolute h.plain
      h.stays hfound path (hmem path hpath)
    by_cases hempty : Placement.patternBase pattern = []
    · obtain ⟨hrelative, habove⟩ :=
        h.bases _ (commonBase_of_bases hbases []) pattern hpattern hempty
      rw [hempty] at hbelow
      exact habove.trans (hbelow (.inr hrelative))
    · have hcounts := mem_basesOf.mpr ⟨hempty, pattern, hpattern, rfl⟩
      exact (place_common_bases_isPrefix h.absolute _ hcounts).trans (hbelow (.inl hempty))

theorem KeepsLayout.cleaned (h : KeepsLayout setting options disk) (arguments : List Text) :
    KeepsLayout setting options (cleanedDisk setting arguments disk) := by
  obtain ⟨removed, -, hcleaned⟩ := exists_cleanedDisk_eq setting arguments disk
  exact { h with names := hcleaned ▸ h.names.without removed }

/-- Everything that a run leaves lies in the output directory. There is one
directory above all files that are selected, and the module of each lies in the
output directory as the file lies below that directory. -/
theorem execute_keeps_layout {arguments : List Text}
    (hoptions : Options.ofArguments arguments = .ok options) (houtput : options.outputDirectory ≠ [])
    (hlayout : KeepsLayout setting options disk) :
    (∀ location content,
      (execute setting arguments disk).workspace.disk.item? location = some (.file content) →
        (cleanedDisk setting arguments disk).item? location = some (.file content) ∨
        Path.place setting.root options.outputDirectory <+: location) ∧
    ∀ paths,
      selectedPaths (cleanedDisk setting arguments disk) setting.root options = .ok paths →
      ∃ base : Location, ∀ path ∈ paths, ∀ location,
        (cleanedDisk setting arguments disk).IsFileAt setting.root path location →
          base <+: location.dropLast ∧
          modulePlace setting options paths path =
            Path.place setting.root options.outputDirectory ++
              (location.dropLast.drop base.length ++
                [Placement.generatedName (Path.baseName path)]) ∧
          ∀ draft, Declares setting options (cleanedDisk setting arguments disk) path draft →
            (execute setting arguments disk).ending = .exits 0 →
            ∃ content, (execute setting arguments disk).workspace.disk.item?
              (modulePlace setting options paths path) = some (.file content) := by
  have hcleaned := hlayout.cleaned arguments
  constructor
  · have hchange : (cleanedDisk setting arguments disk).ChangesOnly
        (fun location _ => Path.place setting.root options.outputDirectory <+: location)
        (execute setting arguments disk).workspace.disk := by
      refine changesOnly_execute_of_allowed setting arguments disk
        fun others hothers paths hselected path hpath draft hdeclares => ?_
      obtain rfl : options = others := Except.ok.inj (hoptions.symm.trans hothers)
      obtain ⟨base, target, htarget, hfiles⟩ :=
        exists_layout hlayout.absolute (hcleaned.isBelowBase hselected)
      obtain ⟨location, hfile⟩ := hdeclares.isFileAt
      obtain ⟨-, hmodule⟩ := hfiles path hpath location hfile
      rw [htarget houtput, ← List.append_assoc] at hmodule
      rw [AllowsModule, hmodule, List.dropLast_concat, List.append_assoc, List.append_assoc]
      exact ⟨fun _ => List.prefix_append .., List.prefix_append ..⟩
    exact fun location content hafter => hchange.changed hafter
  · intro paths hselected
    obtain ⟨base, target, htarget, hfiles⟩ :=
      exists_layout hlayout.absolute (hcleaned.isBelowBase hselected)
    refine ⟨base, fun path hpath location hfile => ?_⟩
    obtain ⟨habove, hmodule⟩ := hfiles path hpath location hfile
    refine ⟨habove, htarget houtput ▸ hmodule, fun draft hdeclares hending => ?_⟩
    obtain ⟨_, -, _, -, -, content, hcontent, -⟩ :=
      exists_module_of_exits_zero hoptions hending hselected hpath hdeclares
    exact ⟨content, hcontent⟩

/-- A workspace with a declaration file in a directory. -/
def nestedDisk : Disk :=
  { items := [(["sub"], .directory), (["sub", "main_messages.py"], .file systemSource)] }

def nestedOptions : Options :=
  { paths := ["sub"], outputDirectory := "out" }

theorem nested_file_keeps_layout :
    (∀ location content,
      (execute { root := "/" } ["-p", "sub", "-o", "out"] nestedDisk).workspace.disk.item? location =
          some (.file content) →
        (cleanedDisk { root := "/" } ["-p", "sub", "-o", "out"] nestedDisk).item? location =
          some (.file content) ∨ [("out" : Text)] <+: location) ∧
    ∃ base : Location, base <+: ["sub"] ∧
      modulePlace { root := "/" } nestedOptions ["/sub/main_messages.py"] "/sub/main_messages.py" =
        (["out"] : Location) ++
          ((["sub"] : Location).drop base.length ++ (["main_messages_derived.py"] : Location)) := by
  have hoptions : Options.ofArguments ["-p", "sub", "-o", "out"] = .ok nestedOptions := by
    decide +kernel
  have hlayout : KeepsLayout { root := "/" } nestedOptions nestedDisk :=
    { absolute := by decide
      plain := by decide
      names := by unfold Disk.HasNames; decide
      stays := by unfold StaysBelow; decide
      bases := by
        intro base hbase pattern hpattern hempty
        rw [List.mem_singleton.mp hpattern] at hempty
        exact absurd hempty (by decide) }
  obtain ⟨hinside, hplaces⟩ := execute_keeps_layout hoptions (List.cons_ne_nil _ _) hlayout
  refine ⟨hinside, ?_⟩
  have hselected : selectedPaths (cleanedDisk { root := "/" } ["-p", "sub", "-o", "out"] nestedDisk)
      "/" nestedOptions = .ok ["/sub/main_messages.py"] := by decide +kernel
  have hfile : (cleanedDisk { root := "/" } ["-p", "sub", "-o", "out"] nestedDisk).IsFileAt "/"
      "/sub/main_messages.py" ["sub", "main_messages.py"] :=
    ⟨by decide +kernel, systemSource, by decide +kernel⟩
  obtain ⟨base, hbase⟩ := hplaces _ hselected
  obtain ⟨habove, hmodule, -⟩ := hbase _ (List.mem_singleton_self _) _ hfile
  exact ⟨base, habove, hmodule⟩

end MessageForge
