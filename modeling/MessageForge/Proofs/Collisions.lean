import MessageForge.Proofs.Readings

/-!
# Modules of different files

The name of a module keeps less than the name of its declaration file: the
extension is dropped and hyphens become underscores. Files in one directory
that differ in nothing else have one module, and it is the last of them that
is left. All other files have modules of their own.
-/

namespace MessageForge

open Job

variable {setting : Setting} {options : Options} {paths : List Text} {path : Text} {disk : Disk}
  {draft : Draft}

/-- What the place of a module depends on: the directory of the file, and what
is kept of its name. -/
def moduleKey (root path : Text) : Location × Text :=
  ((Path.place root path).dropLast,
    Text.replaceChar '-' '_' (Placement.keptStem (Path.baseName path)))

theorem generatedName_eq_iff {first second : Text} :
    Placement.generatedName first = Placement.generatedName second ↔
      Text.replaceChar '-' '_' (Placement.keptStem first) =
        Text.replaceChar '-' '_' (Placement.keptStem second) := by
  rw [Placement.generatedName_eq, Placement.generatedName_eq, List.append_left_inj]

/-- Below a common directory nothing else brings two modules together. -/
theorem modulePlace_eq_iff (hroot : Path.isAbsolute setting.root = true)
    (hbelow : IsBelowBase disk setting.root options paths) {first second : Text}
    {firstLocation secondLocation : Location} (hfirst : first ∈ paths) (hsecond : second ∈ paths)
    (hfirstFile : disk.IsFileAt setting.root first firstLocation)
    (hsecondFile : disk.IsFileAt setting.root second secondLocation) :
    modulePlace setting options paths first = modulePlace setting options paths second ↔
      moduleKey setting.root first = moduleKey setting.root second := by
  obtain ⟨base, target, -, hfiles⟩ := exists_layout hroot hbelow
  obtain ⟨hfirstBase, hfirstModule⟩ := hfiles first hfirst _ hfirstFile
  obtain ⟨hsecondBase, hsecondModule⟩ := hfiles second hsecond _ hsecondFile
  obtain ⟨firstBelow, hfirstBelow⟩ := hfirstBase
  obtain ⟨secondBelow, hsecondBelow⟩ := hsecondBase
  rw [← hfirstBelow, List.drop_left] at hfirstModule
  rw [← hsecondBelow, List.drop_left] at hsecondModule
  rw [hfirstModule, hsecondModule, moduleKey, moduleKey, ← hfirstFile.eq_place,
    ← hsecondFile.eq_place, ← hfirstBelow, ← hsecondBelow, Prod.mk.injEq, List.append_cancel_left_eq,
    List.append_cancel_left_eq, ← generatedName_eq_iff]
  constructor
  · intro h
    obtain ⟨hdirectory, hname⟩ := List.append_inj' h rfl
    exact ⟨hdirectory, List.singleton_inj.mp hname⟩
  · rintro ⟨hdirectory, hname⟩
    rw [hdirectory, hname]

/-- Two files that declare messages have one module exactly if they lie in one
directory and their names keep the same. After a successful run each file that
shares its module with no other file has it, and with all that was drafted. -/
theorem modules_are_kept_apart {arguments : List Text}
    (hoptions : Options.ofArguments arguments = .ok options)
    (hroot : Path.isAbsolute setting.root = true)
    (hselected : selectedPaths (cleanedDisk setting arguments disk) setting.root options = .ok paths)
    (hbelow : IsBelowBase (cleanedDisk setting arguments disk) setting.root options paths) :
    (∀ first ∈ paths, ∀ second ∈ paths, ∀ firstDraft secondDraft,
      Declares setting options (cleanedDisk setting arguments disk) first firstDraft →
      Declares setting options (cleanedDisk setting arguments disk) second secondDraft →
        (modulePlace setting options paths first = modulePlace setting options paths second ↔
          moduleKey setting.root first = moduleKey setting.root second)) ∧
    (setting.programs.LeavesFiles → (execute setting arguments disk).ending = .exits 0 →
      ∀ path ∈ paths, ∀ draft,
        Declares setting options (cleanedDisk setting arguments disk) path draft →
        (∀ other ∈ paths, ∀ otherDraft,
          Declares setting options (cleanedDisk setting arguments disk) other otherDraft →
          moduleKey setting.root other = moduleKey setting.root path →
          Path.place setting.root other = Path.place setting.root path) →
        ∃ spelling ∈ paths, ∃ spelled,
          Path.place setting.root spelling = Path.place setting.root path ∧
          Declares setting options (cleanedDisk setting arguments disk) spelling spelled ∧
          (execute setting arguments disk).workspace.disk.item?
              (modulePlace setting options paths path) =
            some (.file (setting.programs.moduleBytes spelled))) := by
  have happart : ∀ first ∈ paths, ∀ second ∈ paths, ∀ firstDraft secondDraft,
      Declares setting options (cleanedDisk setting arguments disk) first firstDraft →
      Declares setting options (cleanedDisk setting arguments disk) second secondDraft →
        (modulePlace setting options paths first = modulePlace setting options paths second ↔
          moduleKey setting.root first = moduleKey setting.root second) := by
    intro first hfirst second hsecond _ _ hfirstDeclares hsecondDeclares
    obtain ⟨_, hfirstFile⟩ := hfirstDeclares.isFileAt
    obtain ⟨_, hsecondFile⟩ := hsecondDeclares.isFileAt
    exact modulePlace_eq_iff hroot hbelow hfirst hsecond hfirstFile hsecondFile
  refine ⟨happart, fun hleaves hending path hpath draft hdeclares halone => ?_⟩
  obtain ⟨other, hother, otherDraft, hotherDeclares, hplace, content, hcontent, hbytes⟩ :=
    exists_module_of_exits_zero hoptions hending hselected hpath hdeclares
  have hkey := (happart other hother path hpath _ _ hotherDeclares hdeclares).mp hplace
  exact ⟨other, hother, otherDraft, halone other hother _ hotherDeclares hkey, hotherDeclares,
    hbytes hleaves ▸ hcontent⟩

def systemOptions : Options :=
  { paths := ["main_messages.py"], skipChecker := true }

theorem single_file_has_module :
    ∃ draft, Declares { root := "/" } systemOptions systemDisk "/main_messages.py" draft ∧
      (execute { root := "/" } ["-p", "main_messages.py", "--no-pyright"]
        systemDisk).workspace.disk.item? ["main_messages_derived.py"] =
          some (.file (Utf8.encode draft.render)) := by
  have hoptions : Options.ofArguments ["-p", "main_messages.py", "--no-pyright"] =
      .ok systemOptions := by decide +kernel
  have hcleaned : cleanedDisk { root := "/" } ["-p", "main_messages.py", "--no-pyright"] systemDisk =
      systemDisk := by decide +kernel
  have hselected : selectedPaths systemDisk "/" systemOptions = .ok ["/main_messages.py"] := by
    decide +kernel
  have hdeclares : declaresMessages { root := "/" } systemOptions systemDisk "/main_messages.py" =
      true := by decide +kernel
  have hending : (execute { root := "/" } ["-p", "main_messages.py", "--no-pyright"]
      systemDisk).ending = .exits 0 := by decide +kernel
  have hbelow : IsBelowBase systemDisk "/" systemOptions ["/main_messages.py"] :=
    fun base hbase => nomatch hbase
  obtain ⟨draft, hdraft⟩ := declaresMessages_iff.mp hdeclares
  rw [← hcleaned] at hselected hdraft hbelow
  obtain ⟨-, hmodules⟩ := modules_are_kept_apart hoptions (by decide) hselected hbelow
  obtain ⟨spelling, hspelling, spelled, -, hspelled, hmodule⟩ :=
    hmodules nofun hending _ (List.mem_singleton_self _) draft hdraft fun other hother _ _ _ => by
      rw [List.mem_singleton.mp hother]
  obtain rfl := List.mem_singleton.mp hspelling
  have hplace : modulePlace { root := "/" } systemOptions ["/main_messages.py"]
      "/main_messages.py" = ["main_messages_derived.py"] := by decide +kernel
  rw [hplace] at hmodule
  exact ⟨spelled, hcleaned ▸ hspelled, hmodule⟩

/-- Two files whose names differ in a hyphen only. -/
def twinDisk : Disk :=
  { items := [(["chat-log_messages.py"], .file systemSource),
      (["chat_log_messages.py"], .file systemSource)] }

def twinOptions : Options :=
  { paths := ["*_messages.py"] }

theorem twin_files_share_module :
    Options.ofArguments ["-p", "*_messages.py"] = .ok twinOptions ∧
    selectedPaths (cleanedDisk { root := "/" } ["-p", "*_messages.py"] twinDisk) "/" twinOptions =
      .ok ["/chat-log_messages.py", "/chat_log_messages.py"] ∧
    (∃ draft, Declares { root := "/" } twinOptions
      (cleanedDisk { root := "/" } ["-p", "*_messages.py"] twinDisk) "/chat-log_messages.py" draft) ∧
    (∃ draft, Declares { root := "/" } twinOptions
      (cleanedDisk { root := "/" } ["-p", "*_messages.py"] twinDisk) "/chat_log_messages.py" draft) ∧
    Path.place "/" "/chat-log_messages.py" ≠ Path.place "/" "/chat_log_messages.py" ∧
    modulePlace { root := "/" } twinOptions ["/chat-log_messages.py", "/chat_log_messages.py"]
        "/chat-log_messages.py" =
      modulePlace { root := "/" } twinOptions ["/chat-log_messages.py", "/chat_log_messages.py"]
        "/chat_log_messages.py" := by
  have hcleaned : cleanedDisk { root := "/" } ["-p", "*_messages.py"] twinDisk = twinDisk := by
    decide +kernel
  have hsearched : searchedPaths twinDisk "/" twinOptions =
      .ok ["/chat-log_messages.py", "/chat_log_messages.py"] := by decide +kernel
  have hsorted : sortedSet ["/chat-log_messages.py", "/chat_log_messages.py"] =
      (["/chat-log_messages.py", "/chat_log_messages.py"] : List Text) := by
    rw [sortedSet, List.mergeSort_of_pairwise (by decide +kernel)]
    decide +kernel
  rw [hcleaned]
  refine ⟨by decide +kernel, ?_, declaresMessages_iff.mp (by decide +kernel),
    declaresMessages_iff.mp (by decide +kernel), by decide +kernel, by decide +kernel⟩
  rw [selectedPaths, hsearched]
  show Except.ok ((sortedSet ["/chat-log_messages.py", "/chat_log_messages.py"]).filter _) = _
  rw [hsorted]
  decide +kernel

end MessageForge
