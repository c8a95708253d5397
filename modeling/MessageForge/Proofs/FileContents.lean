import MessageForge.Proofs.Faults
import MessageForge.Proofs.Growth
import MessageForge.Proofs.Readings

/-!
# File contents

A declaration file may hold anything. A schema that the compiler refuses and a
source text that is not well formed are refused as malformed, which a run
reports. Other failures are not caught: bytes that are no text in UTF-8, a text
for whose parts there is no text to print, a compiler that breaks off, and a
text or a schema that takes more memory or stack than there is. These end the
run.
-/

namespace MessageForge

open Job

/-! ## Loading one file -/

/-- What comes of loading one file, which the disk alone decides. -/
def loadOutcome (setting : Setting) (importPaths : List Text) (disk : Disk) (path : Text) :
    Except Failure DeclarationFile :=
  ((readDeclarations setting importPaths path).run { disk }).1

/-- The declarations of the file are returned, or the file is refused as
malformed, in both cases under its path. -/
def IsLoadedOrRefused (path : Text) : Except Failure DeclarationFile → Prop
  | .ok file => file.path = path
  | .error (.refused diagnostic) =>
      diagnostic.complaint.kind = .malformed ∧ diagnostic.source = some path
  | .error _ => False

/-- How the reading of a file breaks off. -/
inductive Breaks (setting : Setting) (importPaths : List Text) (disk : Disk) (path : Text)
    (content : Bytes) : Failure → Prop where
  | compiler {fault : Text} (hschema : Text.endsWith Placement.schemaExtension path = true)
      (hcompile : setting.compiler disk setting.root importPaths path = .error (.broken fault)) :
      Breaks setting importPaths disk path content (.compilerBroken fault)
  | schema {schema : Schema.CompiledSchema} {cause : Exhaustion}
      (hschema : Text.endsWith Placement.schemaExtension path = true)
      (hcompile : setting.compiler disk setting.root importPaths path = .ok schema)
      (hlimit : setting.limits.schema schema = some cause) :
      Breaks setting importPaths disk path content (.exhausted cause)
  | foreign (hsource : ¬ Text.endsWith Placement.schemaExtension path = true)
      (hdecode : Utf8.decode? content = none) :
      Breaks setting importPaths disk path content .notUtf8
  | source {text : Text} {cause : Exhaustion}
      (hsource : ¬ Text.endsWith Placement.schemaExtension path = true)
      (hdecode : Utf8.decode? content = some text)
      (hlimit : setting.limits.source (Text.universalNewlines text) = some cause) :
      Breaks setting importPaths disk path content (.exhausted cause)
  | unwritten {text : Text} (hsource : ¬ Text.endsWith Placement.schemaExtension path = true)
      (hdecode : Utf8.decode? content = some text)
      (hlimit : setting.limits.source (Text.universalNewlines text) = none)
      (hfails : Source.FailsUnwritten setting.characters (Text.universalNewlines text)) :
      Breaks setting importPaths disk path content .unprintable

/-- Nothing breaks the reading of the file off. -/
def IsReadable (setting : Setting) (importPaths : List Text) (disk : Disk) (path : Text)
    (content : Bytes) : Prop :=
  ∀ failure, ¬ Breaks setting importPaths disk path content failure

variable {setting : Setting} {importPaths : List Text} {disk : Disk} {path : Text}
  {content : Bytes} {failure : Failure}

/-- Reading a source file is decoding and parsing it. -/
theorem loadOutcome_source (hsource : ¬ Text.endsWith Placement.schemaExtension path = true)
    (hcontent : disk.read setting.root path = .ok content) :
    loadOutcome setting importPaths disk path =
      match Utf8.decode? content with
      | none => .error .notUtf8
      | some text =>
          match setting.limits.source (Text.universalNewlines text) with
          | some cause => .error (.exhausted cause)
          | none =>
              Source.parseDeclarations setting.characters (Text.universalNewlines text) path := by
  rw [loadOutcome, readDeclarations, if_neg hsource, readSource, run_bind_ok _ (run_disk _),
    hcontent, run_bind_ok _ (run_ofFile_ok content _)]
  cases Utf8.decode? content with
  | none => rfl
  | some text =>
      dsimp only
      cases setting.limits.source (Text.universalNewlines text) with
      | some cause => rfl
      | none =>
          cases Source.parseDeclarations setting.characters (Text.universalNewlines text) path with
          | error failure => rfl
          | ok file => rfl

/-- Reading a schema is compiling it and going through its nodes. -/
theorem loadOutcome_schema (hschema : Text.endsWith Placement.schemaExtension path = true)
    (hcontent : disk.read setting.root path = .ok content) :
    loadOutcome setting importPaths disk path =
      match setting.compiler disk setting.root importPaths path with
      | .error .refused => .error (.refused { complaint := .invalidSchema, source := some path })
      | .error (.broken fault) => .error (.compilerBroken fault)
      | .ok schema =>
          match setting.limits.schema schema with
          | some cause => .error (.exhausted cause)
          | none => .ok (Schema.declarationsOf schema path).1 := by
  have hfile : disk.isFile setting.root path = true :=
    Disk.isFile_iff.mpr (Disk.isFileAt_of_read hcontent)
  rw [loadOutcome, readDeclarations, if_pos hschema, readSchema, run_bind_ok _ (run_disk _),
    Schema.compileFile, if_neg (by simp [hfile])]
  cases setting.compiler disk setting.root importPaths path with
  | error fault => cases fault <;> rfl
  | ok schema =>
      dsimp only
      rw [run_bind_ok _ (run_ofResult_ok schema _)]
      cases setting.limits.schema schema <;> rfl

theorem Schema.path_declarationsOf (schema : CompiledSchema) (source : Text) :
    (declarationsOf schema source).1.path = source := by
  unfold declarationsOf
  dsimp only
  split <;> rfl

/-- A source text is read under the path, refused under the path, or has no
text for what is read of it. -/
theorem isLoadedOrRefused_parseDeclarations {characters : Source.CharacterNames} {text : Text} :
    IsLoadedOrRefused path (Source.parseDeclarations characters text path) ↔
      ¬ Source.FailsUnwritten characters text := by
  rw [← Source.parseDeclarations_eq_unprintable_iff path]
  cases hparse : Source.parseDeclarations characters text path with
  | ok file =>
      obtain ⟨statements, -, hfile⟩ := Source.isFileOf_parseDeclarations hparse
      exact iff_of_true hfile.path nofun
  | error failure =>
      rcases Source.parseDeclarations_eq_error hparse with rfl | ⟨diagnostic, rfl, hkind, hsource⟩
      · exact iff_of_false not_false fun h => h rfl
      · exact iff_of_true ⟨hkind, hsource⟩ nofun

/-- What breaks the reading off is what loading fails with. -/
theorem Breaks.loadOutcome_eq (h : Breaks setting importPaths disk path content failure)
    (hcontent : disk.read setting.root path = .ok content) :
    loadOutcome setting importPaths disk path = .error failure := by
  cases h with
  | compiler hschema hcompile => rw [loadOutcome_schema hschema hcontent, hcompile]
  | schema hschema hcompile hlimit =>
      rw [loadOutcome_schema hschema hcontent, hcompile]
      dsimp only
      rw [hlimit]
  | foreign hsource hdecode => rw [loadOutcome_source hsource hcontent, hdecode]
  | source hsource hdecode hlimit =>
      rw [loadOutcome_source hsource hcontent, hdecode]
      dsimp only
      rw [hlimit]
  | unwritten hsource hdecode hlimit hfails =>
      rw [loadOutcome_source hsource hcontent, hdecode]
      dsimp only
      rw [hlimit]
      exact (Source.parseDeclarations_eq_unprintable_iff path).mpr hfails

theorem Breaks.not_isLoadedOrRefused (h : Breaks setting importPaths disk path content failure) :
    ¬ IsLoadedOrRefused path (.error failure) := by
  cases h <;> exact not_false

/-- Where nothing breaks the reading off, it ends in one of two ways. -/
theorem IsReadable.isLoadedOrRefused (h : IsReadable setting importPaths disk path content)
    (hcontent : disk.read setting.root path = .ok content) :
    IsLoadedOrRefused path (loadOutcome setting importPaths disk path) := by
  by_cases hschema : Text.endsWith Placement.schemaExtension path = true
  · rw [loadOutcome_schema hschema hcontent]
    cases hcompile : setting.compiler disk setting.root importPaths path with
    | error fault =>
        cases fault with
        | refused => exact ⟨rfl, rfl⟩
        | broken fault => exact (h _ (.compiler hschema hcompile)).elim
    | ok schema =>
        cases hlimit : setting.limits.schema schema with
        | some cause => exact (h _ (.schema hschema hcompile hlimit)).elim
        | none =>
            dsimp only
            rw [hlimit]
            exact Schema.path_declarationsOf schema path
  · rw [loadOutcome_source hschema hcontent]
    cases hdecode : Utf8.decode? content with
    | none => exact (h _ (.foreign hschema hdecode)).elim
    | some text =>
        cases hlimit : setting.limits.source (Text.universalNewlines text) with
        | some cause => exact (h _ (.source hschema hdecode hlimit)).elim
        | none =>
            dsimp only
            rw [hlimit]
            exact isLoadedOrRefused_parseDeclarations.mpr fun hfails =>
              h _ (.unwritten hschema hdecode hlimit hfails)

theorem isLoadedOrRefused_iff (hcontent : disk.read setting.root path = .ok content) :
    IsLoadedOrRefused path (loadOutcome setting importPaths disk path) ↔
      IsReadable setting importPaths disk path content := by
  refine ⟨fun h failure hbreaks => ?_, fun h => h.isLoadedOrRefused hcontent⟩
  rw [hbreaks.loadOutcome_eq hcontent] at h
  exact hbreaks.not_isLoadedOrRefused h

/-! ## The run -/

/-- How an execution ends whose run fails. -/
def Failure.ending : Failure → Ending
  | .refused _ => .exits 1
  | failure => .fails failure

/-- What an execution whose run fails reports of it. -/
def Failure.reported : Failure → List Event
  | .refused diagnostic => [.refused diagnostic]
  | _ => []

/-- Only the refusal of a readable file is reported by an exit code. -/
theorem ending_eq_exits_iff (hcontent : disk.read setting.root path = .ok content)
    (h : loadOutcome setting importPaths disk path = .error failure) :
    failure.ending = .exits 1 ↔ IsReadable setting importPaths disk path content := by
  rw [← isLoadedOrRefused_iff hcontent, h]
  constructor
  · intro hending
    by_contra hnot
    have hbreaks : ∃ other, Breaks setting importPaths disk path content other := by
      by_contra hnone
      refine hnot ?_
      rw [← h, isLoadedOrRefused_iff hcontent]
      exact fun other hother => hnone ⟨other, hother⟩
    obtain ⟨other, hother⟩ := hbreaks
    cases h.symm.trans (hother.loadOutcome_eq hcontent)
    cases hother <;> cases hending
  · intro hrefused
    cases failure with
    | refused diagnostic => rfl
    | _ => exact hrefused.elim

variable {options : Options}

/-- A file that is not loaded is not derived either. -/
theorem draftOutcome_of_loadOutcome_error
    (h : loadOutcome setting (options.importPaths.map (Path.join setting.root)) disk path =
      .error failure) :
    draftOutcome setting options disk path = .error failure := by
  cases hrun : (readDeclarations setting
      (options.importPaths.map (Path.join setting.root)) path).run { disk } with
  | mk outcome after =>
      rw [loadOutcome, hrun] at h
      cases h
      rw [draftOutcome, readDraft, run_bind_error _ hrun]

/-- The first file that cannot be read and derived decides how an execution
ends and which error it reports. -/
theorem execute_of_first {arguments : List Text} {cleaned : Workspace} {front rest : List Text}
    (hoptions : Options.ofArguments arguments = .ok options)
    (hclean : (clean setting options).run { disk } = (.ok (), cleaned))
    (hselected : selectedPaths cleaned.disk setting.root options = .ok (front ++ path :: rest))
    (hfront : ∀ loaded ∈ front, ∃ draft,
      draftOutcome setting options cleaned.disk loaded = .ok draft)
    (hpath : draftOutcome setting options cleaned.disk path = .error failure) :
    (execute setting arguments disk).ending = failure.ending ∧
    (execute setting arguments disk).workspace.events.filter (·.level = .error) =
      failure.reported := by
  obtain ⟨removed, locations, -, -, hrun⟩ := run_clean_eq_ok hclean
  have hdisk : cleaned.disk = disk.without locations := by
    rw [hrun _ rfl] at hclean
    cases hclean
    rfl
  have hfails := readingFails_of_first hpath rest hfront
  rw [hdisk] at hselected hfails
  obtain ⟨events, hevents, hfailed⟩ := run_run_refused
    (cleared (logged { disk } [Event.workingFrom setting.root]) removed locations)
    hselected (List.append_ne_nil_of_right_ne_nil _ (List.cons_ne_nil _ _)) hfails
    (hrun (logged { disk } [.workingFrom setting.root]) rfl)
  have hbefore : IsNoError
      ([Event.workingFrom setting.root] ++ removed.map Event.removing ++ events) := by
    refine .append (.append (.singleton nofun) fun event hevent => ?_) hevents
    obtain ⟨path, -, rfl⟩ := List.mem_map.mp hevent
    exact nofun
  -- so the only error there can be is the one that the failure is reported with
  have hquiet : ([Event.workingFrom setting.root] ++ removed.map Event.removing ++ events).filter
      (·.level = .error) = [] :=
    List.filter_eq_nil_iff.mpr fun event hevent => by simpa using hbefore event hevent
  have hexecute : execute setting arguments disk =
      { ending := failure.ending
        workspace := logged (logged (cleared (logged { disk } [.workingFrom setting.root]) removed
          locations) events) failure.reported
        isVerbose := options.verbose } := by
    rw [execute, hoptions]
    dsimp only
    rw [run_runReporting, hfailed]
    cases failure with
    | refused diagnostic => rfl
    | _ => simp only [Failure.reported, logged_nil]; rfl
  rw [hexecute]
  refine ⟨rfl, ?_⟩
  show ([Event.workingFrom setting.root] ++ removed.map Event.removing ++ events ++
    failure.reported).filter _ = _
  rw [List.filter_append, hquiet]
  cases failure <;> rfl

/-- A file that is there is loaded or refused under its path just if nothing
breaks its reading off, whatever it holds, and otherwise fails with what does. If
it is the first selected file that is not loaded, the execution exits with 1 and
reports that refusal and no other error just if the file is readable, and
otherwise ends with the failure. -/
theorem loaded_or_refused_iff_readable (setting : Setting)
    (hcontent : disk.read setting.root path = .ok content) :
    (∀ importPaths,
      (IsLoadedOrRefused path (loadOutcome setting importPaths disk path) ↔
        IsReadable setting importPaths disk path content) ∧
      ∀ failure, Breaks setting importPaths disk path content failure →
        loadOutcome setting importPaths disk path = .error failure) ∧
    ∀ (options : Options) (failure : Failure),
      loadOutcome setting (options.importPaths.map (Path.join setting.root)) disk path =
        .error failure →
      ∀ (arguments : List Text) (initial : Disk) (cleaned : Workspace) (front rest : List Text),
        Options.ofArguments arguments = .ok options →
        (clean setting options).run { disk := initial } = (.ok (), cleaned) →
        cleaned.disk = disk →
        selectedPaths disk setting.root options = .ok (front ++ path :: rest) →
        (∀ other ∈ front, ∃ draft, draftOutcome setting options disk other = .ok draft) →
        ((execute setting arguments initial).ending = .exits 1 ↔
          IsReadable setting (options.importPaths.map (Path.join setting.root)) disk path content) ∧
        (execute setting arguments initial).ending = failure.ending ∧
        (execute setting arguments initial).workspace.events.filter (·.level = .error) =
          failure.reported := by
  refine ⟨fun importPaths => ⟨isLoadedOrRefused_iff hcontent,
    fun failure hbreaks => hbreaks.loadOutcome_eq hcontent⟩, ?_⟩
  intro options failure hfailure arguments initial cleaned front rest hoptions hclean hdisk
    hselected hfront
  subst hdisk
  obtain ⟨hending, hreported⟩ := execute_of_first hoptions hclean hselected hfront
    (draftOutcome_of_loadOutcome_error hfailure)
  exact ⟨hending ▸ ending_eq_exits_iff hcontent hfailure, hending, hreported⟩

/-- A workspace with a file without declarations and a file that is no text in
UTF-8. -/
def foreignDisk : Disk :=
  { items := [(["a.py"], .file []), (["b.py"], .file [255])] }

def foreignOptions : Options :=
  { paths := ["a.py", "b.py"] }

theorem foreign_bytes_end_execution :
    foreignDisk.read "/" "/b.py" = .ok [255] ∧
      ¬ IsReadable { root := "/" } (foreignOptions.importPaths.map (Path.join "/")) foreignDisk
        "/b.py" [255] ∧
      (execute { root := "/" } ["-p", "a.py", "b.py"] foreignDisk).ending = .fails .notUtf8 ∧
      (execute { root := "/" } ["-p", "a.py", "b.py"] foreignDisk).workspace.events.filter
        (·.level = .error) = [] := by
  have hcontent : foreignDisk.read "/" "/b.py" = .ok [255] := by decide +kernel
  have hoptions : Options.ofArguments ["-p", "a.py", "b.py"] = .ok foreignOptions := by
    decide +kernel
  have hclean : (clean { root := "/" } foreignOptions).run { disk := foreignDisk } =
      (.ok (), { disk := foreignDisk }) := by decide +kernel
  have hsearched : searchedPaths foreignDisk "/" foreignOptions = .ok ["/a.py", "/b.py"] := by
    decide +kernel
  have hsorted : sortedSet ["/a.py", "/b.py"] = (["/a.py", "/b.py"] : List Text) := by
    rw [sortedSet, List.mergeSort_of_pairwise (by decide +kernel)]
    decide +kernel
  have hselected : selectedPaths foreignDisk "/" foreignOptions =
      .ok ([("/a.py" : Text)] ++ ("/b.py" : Text) :: []) := by
    rw [selectedPaths, hsearched]
    show Except.ok ((sortedSet ["/a.py", "/b.py"]).filter _) = _
    rw [hsorted]
    decide +kernel
  have hfront : draftOutcome { root := "/" } foreignOptions foreignDisk "/a.py" =
      .ok (Draft.ofFile { path := "/a.py" }).generateAll.1 := by decide +kernel
  have hloaded : loadOutcome { root := "/" } (foreignOptions.importPaths.map (Path.join "/"))
      foreignDisk "/b.py" = .error .notUtf8 := by decide +kernel
  obtain ⟨hread, hexecution⟩ := loaded_or_refused_iff_readable { root := "/" } hcontent
  obtain ⟨-, hending, hreported⟩ := hexecution foreignOptions _ hloaded ["-p", "a.py", "b.py"]
    foreignDisk { disk := foreignDisk } ["/a.py"] [] hoptions hclean rfl hselected
    (List.forall_mem_singleton.mpr ⟨_, hfront⟩)
  have hnot := (hread (foreignOptions.importPaths.map (Path.join "/"))).1
  rw [hloaded] at hnot
  exact ⟨hcontent, hnot.not.mp not_false, hending, hreported⟩

/-- An annotation is not printed if it takes a backslash inside a formatted
text, here for a control character. -/
example : Source.parseDeclarations Source.namelessCharacters
      "@derive_base_message\nclass Chat:\n    x: f\"\x7b'\x01'\x7d\"\n" "chat.py" =
    .error .unprintable := by
  decide +kernel

end MessageForge
