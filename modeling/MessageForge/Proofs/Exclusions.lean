import MessageForge.Proofs.Loading
import MessageForge.Proofs.Spellings

/-!
# Exclusions

What is excluded is taken off what is found, path by path. Expressions are
looked up alike on both sides, but for two cases: one that names a directory
stands for the declaration files in it only where files are searched for, and
one that names a file stands for nothing else only where files are excluded.
Apart from these no path is read that the excluding expressions would find, and
no file either if all expressions are tidy.
-/

namespace MessageForge

variable {setting : Setting} {options : Options} {disk : Disk} {root : Text} {arguments alone : List Text}

/-- The same options, to search for what they exclude. -/
def Options.forExcluded (options : Options) : Options :=
  { options with paths := options.excludes, excludes := [] }

/-- No excluding expression names a directory, and none that names a file has a
wildcard. -/
def ExcludesWhatItFinds (disk : Disk) (root : Text) (options : Options) : Prop :=
  ∀ pattern ∈ options.excludes,
    disk.isDirectory root (Path.join root pattern) = false ∧
    (disk.isFile root (Path.join root pattern) = true →
      Placement.isPattern (Path.join root pattern) = false)

theorem mem_excludedPaths (h : ExcludesWhatItFinds disk root options) {excluded found : List Text}
    (hexcluded : excludedPaths disk root options = .ok excluded)
    (hfound : searchedPaths disk root options.forExcluded = .ok found) :
    ∀ path ∈ found, path ∈ excluded := by
  intro path hpath
  obtain ⟨groups, hgroups, hfound⟩ := bind_eq_ok_iff.mp hfound
  cases hfound
  obtain ⟨group, hgroup, hpath⟩ := List.mem_flatten.mp hpath
  obtain ⟨pattern, hpattern, hsearch⟩ := mem_of_mapM_eq_ok hgroups group hgroup
  obtain ⟨others, hothers, hexcluded⟩ := bind_eq_ok_iff.mp hexcluded
  cases hexcluded
  obtain ⟨other, hother, hexclude⟩ := exists_mem_of_mapM_eq_ok hothers pattern hpattern
  obtain ⟨hdirectory, hliteral⟩ := h pattern hpattern
  refine List.mem_flatten.mpr ⟨other, hother, ?_⟩
  dsimp only at hsearch hexclude
  rw [hdirectory, if_neg Bool.false_ne_true] at hsearch
  split at hexclude
  · next hfile =>
      cases hexclude
      rw [Disk.eq_of_mem_expandFrom (hliteral hfile) hsearch path hpath]
      exact List.mem_singleton_self _
  · have hsame : options.forExcluded.recursive = options.recursive := rfl
    rw [hsame, hexclude] at hsearch
    cases hsearch
    exact hpath

theorem not_mem_selectedPaths (h : ExcludesWhatItFinds disk root options) {paths found : List Text}
    (hpaths : selectedPaths disk root options = .ok paths)
    (hfound : selectedPaths disk root options.forExcluded = .ok found) :
    ∀ path ∈ found, path ∉ paths := by
  intro path hpath hboth
  obtain ⟨searched, hsearched, hmem⟩ := mem_searchedPaths_of_mem_selectedPaths hfound
  obtain ⟨excluded, hexcluded, hpaths⟩ := bind_eq_ok_iff.mp hpaths
  obtain ⟨others, -, hpaths⟩ := bind_eq_ok_iff.mp hpaths
  cases hpaths
  have hout := mem_excludedPaths h hexcluded hsearched path (hmem path hpath)
  have hkept := (Bool.and_eq_true_iff.mp (List.mem_filter.mp hboth).2).1
  simp [hout] at hkept

/-! ## Files as files -/

/-- All expressions are tidy where they are looked up. -/
def HasTidyPatterns (root : Text) (options : Options) : Prop :=
  ∀ pattern ∈ options.paths ++ options.excludes, Path.IsTidy (Path.join root pattern)

theorem isTidy_of_mem_selectedPaths (htree : disk.IsTree)
    (htidy : ∀ pattern ∈ options.paths, Path.IsTidy (Path.join root pattern)) {paths : List Text}
    (h : selectedPaths disk root options = .ok paths) : ∀ path ∈ paths, Path.IsTidy path := by
  obtain ⟨searched, hsearched, hmem⟩ := mem_searchedPaths_of_mem_selectedPaths h
  exact fun path hpath => isTidy_of_mem_searchedPaths htree htidy hsearched path (hmem path hpath)

/-- To search for what is excluded cleans the same files before. -/
theorem cleanedDisk_forExcluded (setting : Setting) (disk : Disk)
    (hoptions : Options.ofArguments arguments = .ok options)
    (halone : Options.ofArguments alone = .ok options.forExcluded) :
    cleanedDisk setting alone disk = cleanedDisk setting arguments disk := by
  rw [cleanedDisk, cleanedDisk, hoptions, halone]
  rfl

/-- A run that excludes some expressions loads no path that it would load if it
searched for them instead, and with tidy expressions no file either. -/
theorem excluded_files_are_not_loaded (hoptions : Options.ofArguments arguments = .ok options)
    (halone : Options.ofArguments alone = .ok options.forExcluded)
    (hexcludes : ExcludesWhatItFinds (cleanedDisk setting arguments disk) setting.root options) :
    (∀ path ∈ (execute setting alone disk).workspace.loaded,
      path ∉ (execute setting arguments disk).workspace.loaded) ∧
    (disk.IsTree → HasTidyPatterns setting.root options →
      ∀ path ∈ (execute setting alone disk).workspace.loaded,
      ∀ other ∈ (execute setting arguments disk).workspace.loaded, ∀ location,
        (cleanedDisk setting arguments disk).IsFileAt setting.root path location →
        ¬ (cleanedDisk setting arguments disk).IsFileAt setting.root other location) := by
  have hcleaned := cleanedDisk_forExcluded setting disk hoptions halone
  have hselected : ∀ {arguments : List Text} {options : Options},
      Options.ofArguments arguments = .ok options →
      ∀ path ∈ (execute setting arguments disk).workspace.loaded, ∃ paths, path ∈ paths ∧
        selectedPaths (cleanedDisk setting arguments disk) setting.root options = .ok paths := by
    intro arguments options hoptions path hpath
    obtain ⟨others, paths, hothers, hpaths, hmem⟩ := exists_selectedPaths_of_loaded hpath
    obtain rfl : options = others := Except.ok.inj (hoptions.symm.trans hothers)
    exact ⟨paths, hmem, hpaths⟩
  have happart : ∀ path ∈ (execute setting alone disk).workspace.loaded,
      path ∉ (execute setting arguments disk).workspace.loaded := by
    intro path hpath hboth
    obtain ⟨found, hmem, hfound⟩ := hselected halone path hpath
    obtain ⟨paths, hother, hpaths⟩ := hselected hoptions path hboth
    rw [hcleaned] at hfound
    exact not_mem_selectedPaths hexcludes hpaths hfound path hmem hother
  refine ⟨happart, fun htree htidy path hpath other hother location hfile hsame => ?_⟩
  obtain ⟨found, hmem, hfound⟩ := hselected halone path hpath
  obtain ⟨paths, hotherMem, hpaths⟩ := hselected hoptions other hother
  rw [hcleaned] at hfound
  have hcleanedTree := htree.cleanedDisk setting arguments
  -- both paths are the plain spelling of the one location
  have hpathTidy : Path.IsTidy path := isTidy_of_mem_selectedPaths hcleanedTree
    (fun pattern hpattern => htidy pattern (List.mem_append_right _ hpattern)) hfound path hmem
  have hotherTidy : Path.IsTidy other := isTidy_of_mem_selectedPaths hcleanedTree
    (fun pattern hpattern => htidy pattern (List.mem_append_left _ hpattern)) hpaths other hotherMem
  rw [hsame.eq_spell hotherTidy, ← hfile.eq_spell hpathTidy] at hother
  exact happart path hpath hother

def exclusiveOptions : Options :=
  { paths := ["*.py"], excludes := ["main_messages.py"], skipChecker := true }

theorem excluded_file_is_not_loaded :
    (execute { root := "/" } ["-p", "main_messages.py", "--no-pyright"]
        systemDisk).workspace.loaded = ["/main_messages.py"] ∧
    ∀ other ∈ (execute { root := "/" } ["-p", "*.py", "-e", "main_messages.py", "--no-pyright"]
        systemDisk).workspace.loaded,
      ¬ (cleanedDisk { root := "/" } ["-p", "*.py", "-e", "main_messages.py", "--no-pyright"]
        systemDisk).IsFileAt "/" other ["main_messages.py"] := by
  have hoptions : Options.ofArguments
      ["-p", "*.py", "-e", "main_messages.py", "--no-pyright"] = .ok exclusiveOptions := by
    decide +kernel
  have halone : Options.ofArguments ["-p", "main_messages.py", "--no-pyright"] =
      .ok exclusiveOptions.forExcluded := by decide +kernel
  have hexcludes : ExcludesWhatItFinds (cleanedDisk { root := "/" }
      ["-p", "*.py", "-e", "main_messages.py", "--no-pyright"] systemDisk) "/" exclusiveOptions := by
    unfold ExcludesWhatItFinds
    decide +kernel
  have htree : systemDisk.IsTree := Disk.isTree_of_items (by decide) (by decide)
  have htidy : HasTidyPatterns "/" exclusiveOptions := by
    intro pattern hpattern
    have hname : Path.IsName pattern := by
      revert pattern hpattern
      decide
    have htop : Path.IsTidy "/" := .spell (List.forall_mem_nil _)
    exact htop.join_name hname
  have hloaded : (execute { root := "/" } ["-p", "main_messages.py", "--no-pyright"]
      systemDisk).workspace.loaded = ["/main_messages.py"] := by decide +kernel
  have hfile : (cleanedDisk { root := "/" }
      ["-p", "*.py", "-e", "main_messages.py", "--no-pyright"] systemDisk).IsFileAt "/"
      "/main_messages.py" ["main_messages.py"] :=
    ⟨by decide +kernel, systemSource, by decide +kernel⟩
  obtain ⟨-, hfiles⟩ := excluded_files_are_not_loaded hoptions halone hexcludes
  exact ⟨hloaded, fun other hother =>
    hfiles htree htidy _ (hloaded ▸ List.mem_singleton_self _) other hother _ hfile⟩

end MessageForge
