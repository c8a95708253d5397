import MessageForge.Proofs.Disks

/-!
# Formatted modules

The file of a module is opened, which empties it, before its text is
formatted. A formatter that is missing, breaks or reports a failure costs
nothing: the text stays as it was drafted. One that fails while it is being
started takes the file with it, and so do formatters that both succeed and leave
no text.
-/

namespace MessageForge

open Job

/-! ## What the formatters make of a text -/

namespace Programs

/-- The failure of the first formatter that fails while it is being started. -/
def startFault? (programs : Programs) (source : Text) : Option Text :=
  match programs.sorter (some (Utf8.encode source)) with
  | .refuses (.process fault) => some fault
  | .refuses _ => none
  | .ends sorted =>
      match programs.layouter (sortedFile source sorted) with
      | .refuses (.process fault) => some fault
      | _ => none

/-- How the formatters end if they both succeed. The exit code of the first is
about the code it was given, so that only the second can report a failure. -/
def formatting? (programs : Programs) (source : Text) : Option (Formatting × Formatting) :=
  match programs.sorter (some (Utf8.encode source)) with
  | .refuses _ => none
  | .ends sorted =>
      match programs.layouter (sortedFile source sorted) with
      | .refuses _ => none
      | .ends laid => if laid.exitCode = 0 then some (sorted, laid) else none

/-- What comes of formatting depends on the programs and the text alone. -/
def formatted (programs : Programs) (source : Text) : Except Failure Text :=
  match programs.startFault? source with
  | some fault => .error (.programFailed fault)
  | none =>
      match programs.formatting? source with
      | some (sorted, laid) => readLeft (leftFile source sorted laid)
      | none => .ok source

/-- The text that the formatters leave if they both succeed, else the text that
they were given. -/
def moduleText (programs : Programs) (source : Text) : Text :=
  (programs.formatted source).toOption.getD source

/-- What a module file holds when it is complete. -/
def moduleBytes (programs : Programs) (draft : Draft) : Bytes :=
  Utf8.encode (programs.moduleText draft.render)

/-- The ways in which formatting fails: a formatter fails while it is being
started, or both succeed and have taken the file away, or have left something in
it that is no text. -/
inductive FormattingFails (programs : Programs) (source : Text) : Failure → Prop
  | unstarted {fault : Text} (h : programs.startFault? source = some fault) :
      FormattingFails programs source (.programFailed fault)
  | removed {sorted laid : Formatting} (h : programs.formatting? source = some (sorted, laid))
      (hleft : leftFile source sorted laid = none) :
      FormattingFails programs source (.file .missing)
  | foreign {sorted laid : Formatting} {content : Bytes}
      (h : programs.formatting? source = some (sorted, laid))
      (hleft : leftFile source sorted laid = some content)
      (hcontent : Utf8.decode? content = none) : FormattingFails programs source .notUtf8

variable {programs : Programs} {source : Text}

theorem startFault?_eq_none_of_formatting? {pair : Formatting × Formatting}
    (h : programs.formatting? source = some pair) : programs.startFault? source = none := by
  rw [formatting?] at h
  rw [startFault?]
  split at h
  · cases h
  · next sorted hsorter =>
      rw [hsorter]
      dsimp only
      split at h
      · cases h
      · next laid hlayouter => rw [hlayouter]

theorem readLeft_eq_error_iff {file : Option Bytes} {failure : Failure} :
    readLeft file = .error failure ↔ (file = none ∧ failure = .file .missing) ∨
      ∃ content, file = some content ∧ Utf8.decode? content = none ∧ failure = .notUtf8 := by
  cases file with
  | none => simp [readLeft, eq_comm]
  | some content => cases hcontent : Utf8.decode? content <;> simp [readLeft, hcontent, eq_comm]

theorem formatted_eq_error_iff {failure : Failure} :
    programs.formatted source = .error failure ↔ programs.FormattingFails source failure := by
  constructor
  · intro h
    rw [formatted] at h
    split at h
    · next hstart =>
        cases h
        exact .unstarted hstart
    · split at h
      · next sorted laid hends =>
          rcases readLeft_eq_error_iff.mp h with ⟨hleft, rfl⟩ | ⟨content, hleft, hcontent, rfl⟩
          · exact .removed hends hleft
          · exact .foreign hends hleft hcontent
      · cases h
  · rintro (hstart | ⟨hends, hleft⟩ | ⟨hends, hleft, hcontent⟩)
    · rw [formatted, hstart]
    · rw [formatted, startFault?_eq_none_of_formatting? hends, hends]
      exact readLeft_eq_error_iff.mpr (.inl ⟨hleft, rfl⟩)
    · rw [formatted, startFault?_eq_none_of_formatting? hends, hends]
      exact readLeft_eq_error_iff.mpr (.inr ⟨_, hleft, hcontent, rfl⟩)

/-- What does not fail gives the text of the module. -/
theorem formatted_eq_ok (h : ∀ failure, ¬ programs.FormattingFails source failure) :
    programs.formatted source = .ok (programs.moduleText source) := by
  rw [moduleText]
  cases hformatted : programs.formatted source with
  | ok text => rfl
  | error failure => exact absurd (formatted_eq_error_iff.mp hformatted) (h failure)

end Programs

theorem run_formatText (programs : Programs) (source : Text) (workspace : Workspace) :
    ∃ after : Workspace, after.disk = workspace.disk ∧ workspace.events <+: after.events ∧
      (formatText programs source).run workspace = (programs.formatted source, after) := by
  refine ⟨((formatText programs source).run workspace).2, ?_⟩
  unfold formatText Programs.formatted Programs.startFault? Programs.formatting?
  generalize programs.sorter (some (Utf8.encode source)) = sorter
  cases sorter with
  | refuses fault =>
      cases fault with
      | missing => exact ⟨rfl, List.prefix_append .., rfl⟩
      | system fault => exact ⟨rfl, List.prefix_append .., rfl⟩
      | process fault => exact ⟨rfl, List.prefix_rfl, rfl⟩
  | ends sorted =>
      dsimp only
      generalize programs.layouter (sortedFile source sorted) = layouter
      cases layouter with
      | refuses fault =>
          cases fault with
          | missing => exact ⟨rfl, List.prefix_append .., rfl⟩
          | system fault => exact ⟨rfl, List.prefix_append .., rfl⟩
          | process fault => exact ⟨rfl, List.prefix_rfl, rfl⟩
      | ends laid =>
          dsimp only
          by_cases hlaid : laid.exitCode = 0
          · rw [if_pos hlaid, if_pos hlaid]
            dsimp only
            cases readLeft (leftFile source sorted laid) with
            | ok text => exact ⟨rfl, List.prefix_rfl, rfl⟩
            | error failure => exact ⟨rfl, List.prefix_rfl, rfl⟩
          · rw [if_neg hlaid, if_neg hlaid]
            exact ⟨rfl, List.prefix_append .., rfl⟩

/-! ## Writing a module -/

namespace Disk

variable {disk opened : Disk} {root path : Text} {content : Bytes}

/-- What can be written once can be written again. -/
theorem write_of_write (h : disk.write root path content = .ok opened) (new : Bytes) :
    ∃ location, disk.locate root path = .ok location ∧ location ≠ [] ∧
      opened.item? location = some (.file content) ∧ opened.locate root path = .ok location ∧
      opened.write root path new = .ok (opened.put location (.file new)) := by
  obtain ⟨location, hlocate, hitem, rfl⟩ := write_eq_ok_iff.mp h
  have hne : location ≠ [] := fun hnil => hitem (hnil ▸ item?_root disk)
  have hopened : (disk.put location (.file content)).item? location = some (.file content) :=
    item?_put_self hne _
  have hkept : (disk.put location (.file content)).locate root path = .ok location :=
    (keepsDirectories_write h).locate hlocate
  refine ⟨location, hlocate, hne, hopened, hkept, write_eq_ok_iff.mpr ⟨location, hkept, ?_, rfl⟩⟩
  rw [hopened]
  exact nofun

end Disk

variable {setting : Setting} (draft : Draft) {path : Text} {before : Workspace}

theorem run_writeModule_unwritable {fault : FileFault}
    (h : before.disk.write setting.root path [] = .error fault) :
    (writeModule setting draft path).run before = (.error (.file fault), before) := by
  rw [writeModule]
  exact run_bind_error _ (by rw [run_writeFile, h])

/-- The text is never there to be written, and the file is left empty. -/
theorem run_writeModule_unformatted {opened : Disk} {failure : Failure}
    (hopen : before.disk.write setting.root path [] = .ok opened)
    (hfails : setting.programs.FormattingFails draft.render failure) :
    ∃ after : Workspace, after.disk = opened ∧
      (writeModule setting draft path).run before = (.error failure, after) := by
  have hopened : (writeFile setting path []).run before = (.ok (), { before with disk := opened }) := by
    rw [run_writeFile, hopen]
  obtain ⟨after, hdisk, -, hformat⟩ :=
    run_formatText setting.programs draft.render { before with disk := opened }
  rw [Programs.formatted_eq_error_iff.mpr hfails] at hformat
  refine ⟨after, hdisk, ?_⟩
  rw [writeModule, run_bind_ok _ hopened]
  exact run_bind_error _ hformat

theorem run_writeModule_written {opened : Disk}
    (hopen : before.disk.write setting.root path [] = .ok opened)
    (hformats : ∀ failure, ¬ setting.programs.FormattingFails draft.render failure) :
    ∃ (after : Workspace) (location : Location),
      after.disk.locate setting.root path = .ok location ∧ location ≠ [] ∧
      after.disk = opened.put location (.file (setting.programs.moduleBytes draft)) ∧
      .wrote draft.typeNames.length path ∈ after.events ∧
      (writeModule setting draft path).run before = (.ok (), after) := by
  have hopened : (writeFile setting path []).run before = (.ok (), { before with disk := opened }) := by
    rw [run_writeFile, hopen]
  obtain ⟨formatted, hdisk, -, hformat⟩ :=
    run_formatText setting.programs draft.render { before with disk := opened }
  rw [Programs.formatted_eq_ok hformats] at hformat
  obtain ⟨location, -, hne, -, hlocate, hwrite⟩ :=
    Disk.write_of_write hopen (setting.programs.moduleBytes draft)
  let written : Workspace :=
    { formatted with disk := opened.put location (.file (setting.programs.moduleBytes draft)) }
  have hwritten : (writeFile setting path (setting.programs.moduleBytes draft)).run formatted =
      (.ok (), written) := by
    rw [run_writeFile, hdisk, hwrite]
  refine ⟨logged written [.wrote draft.typeNames.length path], location,
    (Disk.keepsDirectories_write hwrite).locate hlocate, hne, rfl,
    List.mem_append_right _ (List.mem_singleton_self _), ?_⟩
  rw [writeModule, run_bind_ok _ hopened, run_bind_ok _ hformat]
  exact run_bind_ok _ hwritten

/-! ## What becomes of the file -/

/-- The file of a module holds its whole text if the job succeeds, and what it
held before if the job fails. -/
def OutputSurvives (setting : Setting) (draft : Draft) (path : Text) (before : Workspace) : Prop :=
  match (writeModule setting draft path).run before with
  | (.ok _, after) => after.disk.find? setting.root path =
      some (.file (setting.programs.moduleBytes draft))
  | (.error _, after) => after.disk.find? setting.root path = before.disk.find? setting.root path

/-- The file is lost exactly if formatting fails and the file could be opened; it
is not lost if it was empty anyway. -/
theorem outputSurvives_iff (setting : Setting) (draft : Draft) (path : Text) (before : Workspace) :
    OutputSurvives setting draft path before ↔
      (∀ failure, ¬ setting.programs.FormattingFails draft.render failure) ∨
      before.disk.find? setting.root path = some (.file []) ∨
      ∃ fault, before.disk.write setting.root path [] = .error fault := by
  rw [OutputSurvives]
  cases hopen : before.disk.write setting.root path [] with
  | error fault =>
      rw [run_writeModule_unwritable draft hopen]
      exact ⟨fun _ => .inr (.inr ⟨fault, rfl⟩), fun _ => rfl⟩
  | ok opened =>
      by_cases hformats : ∀ failure, ¬ setting.programs.FormattingFails draft.render failure
      · obtain ⟨after, location, hlocate, hne, hdisk, -, hrun⟩ :=
          run_writeModule_written draft hopen hformats
        rw [hrun]
        refine ⟨fun _ => .inl hformats, fun _ => ?_⟩
        show after.disk.find? setting.root path = _
        rw [Disk.find?_eq_of_locate hlocate, hdisk, Disk.item?_put_self hne]
      · obtain ⟨failure, hfails⟩ := not_forall_not.mp hformats
        obtain ⟨after, hdisk, hrun⟩ := run_writeModule_unformatted draft hopen hfails
        have hlost : after.disk.find? setting.root path = some (.file []) := by
          obtain ⟨location, -, -, hempty, hlocate, -⟩ := Disk.write_of_write hopen []
          rw [hdisk, Disk.find?_eq_of_locate hlocate, hempty]
        rw [hrun]
        show after.disk.find? setting.root path = before.disk.find? setting.root path ↔ _
        rw [hlost]
        constructor
        · exact fun h => .inr (.inl h.symm)
        · rintro (h | h | ⟨fault, h⟩)
          · exact absurd h hformats
          · exact h.symm
          · cases h

end MessageForge
