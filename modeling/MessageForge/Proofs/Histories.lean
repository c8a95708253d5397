import MessageForge.Proofs.Loading

/-!
# Histories

Runs follow one another on a disk, each with arguments and a directory of its
own. The modules that one of them writes are known to all of them by their
names, however these are spelled and whatever is searched for: none is loaded
as a declaration file. So what is loaded in the course of a history has been
there from the start, but for empty markers.
-/

namespace MessageForge

open Job

/-! ## Names that are filtered out -/

namespace Placement

/-- A file with the name of a module is filtered out, whatever its directory. -/
theorem isGenerated_of_baseName {path stem : Text}
    (h : Path.baseName path = stem ++ (generatedSuffix ++ sourceExtension)) :
    isGenerated path = true := by
  have hname : Path.baseName path = (stem ++ generatedSuffix) ++ '.' :: ("py" : Text) := by
    rw [h, List.append_assoc]
    rfl
  have hsplit : Path.splitLast? '.' (Path.baseName path) =
      some (stem ++ generatedSuffix, ("py" : Text)) := by
    rw [hname]
    exact Path.splitLast?_append _ (by decide)
  have hdots : (stem ++ generatedSuffix).all (· = '.') = false := by
    rw [List.all_append]
    have hsuffix : generatedSuffix.all (· = '.') = false := by decide
    rw [hsuffix, Bool.and_false]
  obtain ⟨front, hpath⟩ := Path.exists_eq_append_baseName path
  have htake : path.take (path.length - ("py" : Text).length - 1) = (front ++ stem) ++ generatedSuffix := by
    have hlength : path.length - ("py" : Text).length - 1 =
        ((front ++ stem) ++ generatedSuffix).length := by
      rw [hpath, hname]
      simp
      omega
    rw [hlength]
    conv_lhs => rw [hpath, hname, ← List.append_assoc, ← List.append_assoc]
    exact List.take_left ..
  have hstem : (Path.splitExtension path).1 = (front ++ stem) ++ generatedSuffix := by
    rw [Path.splitExtension, hsplit]
    dsimp only
    rw [hdots, if_neg Bool.false_ne_true, htake]
  rw [isGenerated, hstem]
  exact Text.endsWith_append ..

/-- What is written for a file is filtered out wherever it is put. -/
theorem isGenerated_outputPath (directory fileName : Text) :
    isGenerated (outputPath directory fileName) = true := by
  have hname : '/' ∉ generatedName (Path.baseName fileName) :=
    not_mem_generatedName (Path.not_mem_baseName fileName)
  have hbase : Path.baseName (outputPath directory fileName) =
      Text.replaceChar '-' '_' (keptStem (Path.baseName fileName)) ++
        (generatedSuffix ++ sourceExtension) := by
    rw [outputPath, Path.baseName_join, Path.baseName_of_not_mem hname, generatedName_eq]
  exact isGenerated_of_baseName hbase

end Placement

variable {disk : Disk} {root path : Text} {location : Location} {setting : Setting}
  {arguments : List Text}

theorem Disk.IsFileAt.isGenerated (h : disk.IsFileAt root path location)
    (hmodule : IsModulePlace location) : Placement.isGenerated path = true := by
  obtain ⟨directory, stem, rfl⟩ := hmodule
  have hname : Path.baseName path =
      stem ++ (Placement.generatedSuffix ++ Placement.sourceExtension) := by
    have hlast := congrArg List.getLast? h.eq_concat
    simpa using hlast.symm
  exact Placement.isGenerated_of_baseName hname

theorem not_isGenerated_of_mem_selectedPaths {options : Options} {paths : List Text}
    (h : selectedPaths disk root options = .ok paths) (hpath : path ∈ paths) :
    Placement.isGenerated path = false := by
  obtain ⟨excluded, -, h⟩ := bind_eq_ok_iff.mp h
  obtain ⟨found, -, h⟩ := bind_eq_ok_iff.mp h
  cases h
  have hkept := (Bool.and_eq_true_iff.mp (List.mem_filter.mp hpath).2).2
  simpa using hkept

/-- No file that a run loads has the name of a module. -/
theorem not_isModulePlace_of_loaded (h : path ∈ (execute setting arguments disk).workspace.loaded)
    (hfile : (cleanedDisk setting arguments disk).IsFileAt setting.root path location) :
    ¬ IsModulePlace location := by
  intro hmodule
  obtain ⟨options, paths, -, hselected, hpath⟩ := exists_selectedPaths_of_loaded h
  have hkept := not_isGenerated_of_mem_selectedPaths hselected hpath
  rw [hfile.isGenerated hmodule] at hkept
  cases hkept

/-! ## Runs in a row -/

/-- One run of a history, with the disk that it has found. -/
structure Turn where
  setting : Setting
  arguments : List Text
  found : Disk

namespace Turn

def execution (turn : Turn) : Execution :=
  execute turn.setting turn.arguments turn.found

/-- The disk that the turn leaves. -/
def left (turn : Turn) : Disk :=
  turn.execution.workspace.disk

/-- The turn loads the file at a location, which then holds these bytes. -/
def Loads (turn : Turn) (location : Location) (content : Bytes) : Prop :=
  ∃ path ∈ turn.execution.workspace.loaded,
    (cleanedDisk turn.setting turn.arguments turn.found).IsFileAt turn.setting.root path location ∧
    (cleanedDisk turn.setting turn.arguments turn.found).item? location = some (.file content)

/-- The turn writes a module at a location: it says so, or it leaves a file
there that it has not found and that is no empty marker. -/
def WritesModule (turn : Turn) (location : Location) : Prop :=
  (∃ count path, .wrote count path ∈ turn.execution.workspace.events ∧
    location = Path.place turn.setting.root path) ∨
  ∃ content, turn.left.item? location = some (.file content) ∧
    turn.found.item? location ≠ some (.file content) ∧
    ¬ (content = [] ∧ location.getLast? = some typedMarker)

end Turn

/-- The runs that are asked for, one after another. -/
def turns (disk : Disk) : List (Setting × List Text) → List Turn
  | [] => []
  | (setting, arguments) :: rest =>
      let turn : Turn := { setting, arguments, found := disk }
      turn :: turns turn.left rest

/-- The run tells of modules only where these are by their names. -/
theorem isModulePlace_of_wrote {count : Nat}
    (h : .wrote count path ∈ (execute setting arguments disk).workspace.events) :
    IsModulePlace (Path.place setting.root path) := by
  cases hoptions : Options.ofArguments arguments with
  | error fault =>
      rw [execute, hoptions] at h
      cases h
  | ok options =>
      obtain ⟨events, hevents, hall⟩ :=
        reports_run setting options (logged { disk } [.workingFrom setting.root])
      have hrun : Event.wrote count path ∈
          ((run setting options).run (logged { disk } [.workingFrom setting.root])).2.events := by
        rw [execute, hoptions] at h
        dsimp only at h
        rw [run_runReporting] at h
        split at h
        · next hrun => rw [hrun]; exact h
        · next hrun =>
            rcases List.mem_append.mp h with hbefore | hrefused
            · rw [hrun]; exact hbefore
            · cases List.mem_singleton.mp hrefused
        · next hrun => rw [hrun]; exact h
      rw [hevents] at hrun
      rcases List.mem_append.mp hrun with hstart | hwritten
      · cases List.mem_singleton.mp hstart
      · exact hall _ hwritten count path rfl

/-- What a turn leaves where no module is has been found there, or it is an
empty marker. -/
theorem Turn.item?_left (turn : Turn) (hmodule : ¬ IsModulePlace location) {content : Bytes}
    (h : turn.left.item? location = some (.file content)) :
    turn.found.item? location = some (.file content) ∨
      content = [] ∧ location.getLast? = some typedMarker := by
  rcases (changesOnly_execute turn.setting turn.arguments turn.found).changed h with
    hsame | hplace | ⟨-, hempty, directory, rfl, -⟩
  · obtain ⟨removed, -, hcleaned⟩ := exists_cleanedDisk_eq turn.setting turn.arguments turn.found
    exact .inl (Disk.item?_of_item?_without (hcleaned ▸ hsame))
  · exact absurd hplace hmodule
  · exact .inr ⟨hempty, List.getLast?_concat⟩

theorem Turn.WritesModule.isModulePlace {turn : Turn} (h : turn.WritesModule location) :
    IsModulePlace location := by
  rcases h with ⟨count, path, hwrote, rfl⟩ | ⟨content, hleft, hfound, hmarker⟩
  · rw [Turn.execution] at hwrote
    exact isModulePlace_of_wrote hwrote
  · by_contra hmodule
    rcases turn.item?_left hmodule hleft with hbefore | hempty
    · exact hfound hbefore
    · exact hmarker hempty

/-- However far a history has come, what is on the disk where no module can be
is what was there at the start, or an empty marker. -/
theorem item?_found_of_mem_turns (hmodule : ¬ IsModulePlace location) :
    ∀ {runs : List (Setting × List Text)} {start : Disk} {turn : Turn}, turn ∈ turns start runs →
      ∀ {content}, turn.found.item? location = some (.file content) →
        start.item? location = some (.file content) ∨
          content = [] ∧ location.getLast? = some typedMarker := by
  intro runs
  induction runs with
  | nil =>
      intro start turn hturn
      cases hturn
  | cons first rest ih =>
      intro start turn hturn content h
      rw [turns] at hturn
      rcases List.mem_cons.mp hturn with rfl | hlater
      · exact .inl h
      · rcases ih hlater h with hleft | hmarker
        · exact Turn.item?_left _ hmodule hleft
        · exact .inr hmarker

theorem Turn.Loads.not_isModulePlace {turn : Turn} {content : Bytes}
    (h : turn.Loads location content) : ¬ IsModulePlace location := by
  obtain ⟨path, hpath, hfile, -⟩ := h
  exact not_isModulePlace_of_loaded hpath hfile

theorem Turn.Loads.item?_found {turn : Turn} {content : Bytes} (h : turn.Loads location content) :
    turn.found.item? location = some (.file content) := by
  obtain ⟨path, -, -, hitem⟩ := h
  obtain ⟨removed, -, hcleaned⟩ := exists_cleanedDisk_eq turn.setting turn.arguments turn.found
  exact Disk.item?_of_item?_without (hcleaned ▸ hitem)

/-- In every history of runs no run loads a module that another run or itself
has written: whatever is written for a file in whatever directory has a name
that is filtered out. What is loaded are files of the start, byte by byte, or
empty markers. -/
theorem modules_are_never_loaded (start : Disk) (runs : List (Setting × List Text)) :
    (∀ writer ∈ turns start runs, ∀ loader ∈ turns start runs, ∀ location,
      writer.WritesModule location → ∀ content, ¬ loader.Loads location content) ∧
    (∀ loader ∈ turns start runs, ∀ location content, loader.Loads location content →
      start.item? location = some (.file content) ∨
        content = [] ∧ location.getLast? = some typedMarker) ∧
    ∀ directory fileName,
      Placement.isGenerated (Placement.outputPath directory fileName) = true := by
  refine ⟨?_, ?_, Placement.isGenerated_outputPath⟩
  · intro writer _ loader _ location hwrites content hloads
    exact hloads.not_isModulePlace hwrites.isModulePlace
  · intro loader hloader location content hloads
    exact item?_found_of_mem_turns hloads.not_isModulePlace hloader hloads.item?_found

/-- A run for one file, and then one for every source file beside it. -/
def repeatedRuns : List (Setting × List Text) :=
  [({ root := "/" }, ["-p", "main_messages.py", "--no-pyright"]),
    ({ root := "/" }, ["-p", "*.py", "--no-pyright"])]

theorem written_module_is_not_loaded :
    (∃ writer ∈ turns systemDisk repeatedRuns, writer.WritesModule ["main_messages_derived.py"]) ∧
    ∀ loader ∈ turns systemDisk repeatedRuns, ∀ content,
      ¬ loader.Loads ["main_messages_derived.py"] content := by
  let first : Turn :=
    { setting := { root := "/" }, arguments := ["-p", "main_messages.py", "--no-pyright"],
      found := systemDisk }
  have hfirst : first ∈ turns systemDisk repeatedRuns := List.mem_cons_self ..
  have hwrites : first.WritesModule ["main_messages_derived.py"] :=
    .inl ⟨1, "/main_messages_derived.py", by decide +kernel, by decide +kernel⟩
  obtain ⟨hmodules, -, -⟩ := modules_are_never_loaded systemDisk repeatedRuns
  exact ⟨⟨first, hfirst, hwrites⟩, fun loader hloader content =>
    hmodules first hfirst loader hloader _ hwrites content⟩

end MessageForge
