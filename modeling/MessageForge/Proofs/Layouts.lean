import MessageForge.Proofs.AbsolutePaths
import MessageForge.Proofs.Outputs

/-!
# Layouts

Modules keep the layout of their declaration files. Where the directory that
the layout starts from is above all of them, each module lies below the output
directory as its declaration file lies below that directory.
-/

namespace MessageForge

open Job

/-- The location of the module for a declaration file. -/
def modulePlace (setting : Setting) (options : Options) (paths : List Text) (path : Text) : Location :=
  Path.place setting.root (Placement.outputPath
    (Placement.outputDirectory setting.root options.outputDirectory
      (layoutBase setting.root options paths) path) path)

variable {setting : Setting} {options : Options} {paths : List Text} {path : Text} {disk : Disk}
  {location : Location}

theorem modulePlace_eq (setting : Setting) (options : Options) (paths : List Text) (path : Text) :
    modulePlace setting options paths path =
      Path.place setting.root (Placement.outputDirectory setting.root options.outputDirectory
        (layoutBase setting.root options paths) path) ++
          [Placement.generatedName (Path.baseName path)] :=
  place_outputPath ..

/-! ## Files and their directories -/

namespace Disk.IsFileAt

theorem eq_place {root : Text} (h : disk.IsFileAt root path location) :
    location = Path.place root path :=
  Disk.eq_place_of_locate h.1

theorem isReached {root : Text} (h : disk.IsFileAt root path location) : disk.IsReached location :=
  Disk.isReached_of_locate h.1

theorem eq_concat {root : Text} (h : disk.IsFileAt root path location) :
    location = Path.place root (Path.directory path) ++ [Path.baseName path] := by
  obtain ⟨content, hcontent⟩ := h.2
  exact (Disk.isName_baseName_of_file h.1 hcontent).2

theorem dropLast_eq {root : Text} (h : disk.IsFileAt root path location) :
    location.dropLast = Path.place root (Path.directory path) := by
  rw [h.eq_concat, List.dropLast_concat]

/-- A file has nothing below it. -/
theorem eq_of_isPrefix {root other : Text} {below : Location} (h : disk.IsFileAt root path location)
    (hbelow : disk.IsFileAt root other below) (habove : location <+: below) : below = location := by
  by_contra hne
  obtain ⟨content, hcontent⟩ := h.2
  have hdirectory := hbelow.isReached location habove (Ne.symm hne)
  rw [hcontent] at hdirectory
  cases hdirectory

end Disk.IsFileAt

/-! ## The mirrored layout -/

/-- The directory that the layout starts from is above all files among paths. -/
def IsBelowBase (disk : Disk) (root : Text) (options : Options) (paths : List Text) : Prop :=
  ∀ base ∈ layoutBase root options paths, ∀ path ∈ paths, ∀ location,
    disk.IsFileAt root path location → Path.place root base <+: location

theorem outputDirectory_below {output : Text} (h : output ≠ []) (root base path : Text) :
    Placement.outputDirectory root output (some base) path =
      Path.join output (Path.directory (Path.relative root path base)) :=
  if_neg fun hempty => h (List.isEmpty_iff.mp hempty)

theorem exists_layoutBase (root : Text) (houtput : options.outputDirectory ≠ []) (hne : paths ≠ []) :
    ∃ base, layoutBase root options paths = some base := by
  have hempty : options.outputDirectory.isEmpty = false := by
    rwa [← Bool.not_eq_true, List.isEmpty_iff]
  have hfound : paths.isEmpty = false := by rwa [← Bool.not_eq_true, List.isEmpty_iff]
  rw [layoutBase, hempty, if_neg Bool.false_ne_true, Placement.commonBase, hfound]
  split
  · exact ⟨_, rfl⟩
  · exact ⟨_, rfl⟩

/-- What lies below a location lies there as it does seen from a directory that
is above it. -/
theorem modulePlace_of_append {base : Text} {below : Location}
    (hroot : Path.isAbsolute setting.root = true) (houtput : options.outputDirectory ≠ [])
    (hbase : layoutBase setting.root options paths = some base)
    (h : Path.place setting.root path = Path.place setting.root base ++ below) :
    modulePlace setting options paths path =
      Path.place setting.root options.outputDirectory ++
        (below.dropLast ++ [Placement.generatedName (Path.baseName path)]) := by
  rw [modulePlace_eq, hbase, outputDirectory_below houtput,
    Path.place_join_directory_relative _ hroot h, List.append_assoc]

/-- There are one directory above all files and one below which all modules lie
as their files lie below the first. -/
theorem exists_layout (hroot : Path.isAbsolute setting.root = true)
    (hbelow : IsBelowBase disk setting.root options paths) :
    ∃ base target : Location,
      (options.outputDirectory ≠ [] →
        target = Path.place setting.root options.outputDirectory) ∧
      ∀ path ∈ paths, ∀ location, disk.IsFileAt setting.root path location →
        base <+: location.dropLast ∧
        modulePlace setting options paths path = target ++
          (location.dropLast.drop base.length ++ [Placement.generatedName (Path.baseName path)]) := by
  by_cases houtput : options.outputDirectory = []
  · refine ⟨[], [], fun hne => absurd houtput hne, fun path hpath location hfile =>
      ⟨List.nil_prefix, ?_⟩⟩
    rw [modulePlace_eq, houtput, hfile.dropLast_eq]
    rfl
  by_cases hne : paths = []
  · exact ⟨[], _, fun _ => rfl, fun path hpath => by rw [hne] at hpath; cases hpath⟩
  obtain ⟨base, hbase⟩ := exists_layoutBase setting.root houtput hne
  have hfiles := hbelow base hbase
  -- a pattern for a single file without an extension has that file as its base
  by_cases hfile : ∃ path ∈ paths, disk.IsFileAt setting.root path (Path.place setting.root base)
  · obtain ⟨single, -, hsingle⟩ := hfile
    refine ⟨(Path.place setting.root base).dropLast, _, fun _ => rfl,
      fun path hpath location hlocation => ?_⟩
    have heq := hsingle.eq_of_isPrefix hlocation (hfiles path hpath location hlocation)
    subst heq
    refine ⟨List.prefix_rfl, ?_⟩
    rw [modulePlace_of_append hroot houtput hbase
      (by rw [← hlocation.eq_place, List.append_nil]), List.drop_length]
    rfl
  · refine ⟨Path.place setting.root base, _, fun _ => rfl, fun path hpath location hlocation => ?_⟩
    obtain ⟨below, heq⟩ := hfiles path hpath location hlocation
    have hne : below ≠ [] := by
      intro hnil
      rw [hnil, List.append_nil] at heq
      exact hfile ⟨path, hpath, heq ▸ hlocation⟩
    rw [← heq, List.dropLast_append_of_ne_nil hne, List.drop_left]
    exact ⟨List.prefix_append .., modulePlace_of_append hroot houtput hbase
      (by rw [← hlocation.eq_place, heq])⟩

end MessageForge
