import Mathlib.Data.List.Infix
import MessageForge.Proofs.Jobs
import MessageForge.Proofs.Lines
import MessageForge.Workspace.Checking

/-!
# Checks

The verdict on written modules rests on two signals of the checker: its exit
code, and the lines of its output that show an error. Where it cannot be started
there is nothing to judge. If it is not found, or starting it is what fails, the
modules count as refused; any other fault of the system is not caught and ends the
run.

Main statement: `check_passes_or_refuses_iff`.
-/

namespace MessageForge

namespace Text

/-! ## Parts of a text -/

theorem startsWith_iff {start text : Text} : startsWith start text = true ↔ start <+: text := by
  rw [startsWith, Option.isSome_iff_exists]
  constructor
  · rintro ⟨rest, h⟩
    exact ⟨rest, (eq_append_of_stripPrefix? h).symm⟩
  · rintro ⟨rest, rfl⟩
    exact ⟨rest, stripPrefix?_append start rest⟩

theorem hasPart_iff {part : Text} : ∀ {text : Text}, hasPart part text = true ↔ part <:+: text
  | [] => by rw [hasPart, List.isEmpty_iff, List.infix_nil]
  | c :: rest => by
      rw [hasPart, Bool.or_eq_true, startsWith_iff, hasPart_iff, List.infix_cons_iff]

/-! ## Lines -/

/-- No character of the line ends it. -/
def IsUnbroken (line : Text) : Prop :=
  ∀ c ∈ line, isLineBoundary c = false

/-- What ends a line: a carriage return with a line feed, or a single boundary
that is not the first half of such a pair. -/
def IsLineEnd (ending rest : Text) : Prop :=
  ending = ['\r', '\n'] ∨
    ∃ c, ending = [c] ∧ isLineBoundary c = true ∧ (c = '\r' → rest.head? ≠ some '\n')

/-- The text consists of these lines with their ends. Only the last line may
lack one, and then it is not empty. -/
inductive CutsInto : Text → List Text → Prop
  | nil : CutsInto [] []
  | last {line : Text} (hne : line ≠ []) (hline : IsUnbroken line) : CutsInto line [line]
  | ended {line ending rest : Text} {lines : List Text} (hline : IsUnbroken line)
      (hend : IsLineEnd ending rest) (hrest : CutsInto rest lines) :
      CutsInto (line ++ (ending ++ rest)) (line :: lines)

theorem IsUnbroken.cons {c : Char} {line : Text} (hc : isLineBoundary c = false)
    (h : IsUnbroken line) : IsUnbroken (c :: line) :=
  List.forall_mem_cons.mpr ⟨hc, h⟩

theorem IsUnbroken.reverse {line : Text} (h : IsUnbroken line) : IsUnbroken line.reverse :=
  fun c hc => h c (List.mem_reverse.mp hc)

/-- A character that ends no line is added to the line that is being read. -/
theorem linesFrom_cons {c : Char} (hc : isLineBoundary c = false) (current rest : Text) :
    linesFrom current (c :: rest) = linesFrom (c :: current) rest := by
  have hreturn : c ≠ '\r' := by
    rintro rfl
    cases hc
  rw [linesFrom, if_neg (by simp [hc])]
  rintro tail heq -
  exact hreturn heq

theorem linesFrom_append : ∀ {line : Text}, IsUnbroken line → ∀ current rest : Text,
    linesFrom current (line ++ rest) = linesFrom (line.reverse ++ current) rest
  | [], _, _, _ => rfl
  | c :: line, h, current, rest => by
      obtain ⟨hc, hline⟩ := List.forall_mem_cons.mp h
      rw [List.cons_append, linesFrom_cons hc, linesFrom_append hline, List.reverse_cons,
        List.append_assoc, List.singleton_append]

theorem linesFrom_lineEnd {ending rest : Text} (h : IsLineEnd ending rest) (current : Text) :
    linesFrom current (ending ++ rest) = current.reverse :: linesFrom [] rest := by
  rcases h with rfl | ⟨c, rfl, hc, hpair⟩
  · rfl
  · rw [List.singleton_append, linesFrom, if_pos hc]
    rintro tail rfl rfl
    exact hpair rfl rfl

theorem CutsInto.eq_lines {text : Text} {lines : List Text} (h : CutsInto text lines) :
    lines = Text.lines text := by
  induction h with
  | nil => rfl
  | @last line hne hline =>
      have hlines := linesFrom_append hline [] []
      rw [List.append_nil, List.append_nil, linesFrom, if_neg (by simpa using hne),
        List.reverse_reverse] at hlines
      exact hlines.symm
  | ended hline hend _ ih =>
      rw [Text.lines, linesFrom_append hline, linesFrom_lineEnd hend, List.append_nil,
        List.reverse_reverse, ih, Text.lines]

/-- What has been read of a line so far belongs to its first line. -/
theorem cutsInto_linesFrom {current text : Text} (h : IsUnbroken current) :
    CutsInto (current.reverse ++ text) (linesFrom current text) := by
  fun_induction linesFrom current text with
  | case1 current hempty =>
      rw [List.isEmpty_iff.mp hempty]
      exact .nil
  | case2 current hne =>
      rw [List.append_nil]
      exact .last (by simpa using hne) h.reverse
  | case3 current rest ih => exact .ended h.reverse (.inl rfl) (ih (List.forall_mem_nil _))
  | case4 current c rest hpair hc ih =>
      have hend : IsLineEnd [c] rest := by
        refine .inr ⟨c, rfl, hc, ?_⟩
        rintro rfl hhead
        obtain ⟨tail, rfl⟩ := List.head?_eq_some_iff.mp hhead
        exact hpair tail rfl rfl
      exact .ended h.reverse hend (ih (List.forall_mem_nil _))
  | case5 current c rest hpair hc ih =>
      have hrest := ih (h.cons (Bool.eq_false_iff.mpr hc))
      rwa [List.reverse_cons, List.append_assoc, List.singleton_append] at hrest

theorem cutsInto_iff {text : Text} {lines : List Text} :
    CutsInto text lines ↔ lines = Text.lines text := by
  refine ⟨CutsInto.eq_lines, ?_⟩
  rintro rfl
  exact cutsInto_linesFrom (List.forall_mem_nil _)

end Text

open Job

/-! ## The verdict -/

/-- What comes of starting the checker. -/
inductive CheckStart where
  | missing
  | unstarted (fault : Text)
  | broken (failure : Failure)
  | ended (outcome : Outcome)

/-- What comes of starting the checker on some files. A file that it is to leave
something in and that cannot be written counts as a fault of the system. -/
def startCheck (setting : Setting) (disk : Disk) (files : List Text) : CheckStart :=
  match setting.programs.checker with
  | .refuses .missing => .missing
  | .refuses (.process fault) => .unstarted fault
  | .refuses (.system fault) => .broken (.programBroken fault)
  | .ends outcome =>
      match files.getLast?, outcome.written with
      | some file, some content =>
          match disk.write setting.root file content with
          | .ok _ => .ended outcome
          | .error .missing => .missing
          | .error fault => .broken (.file fault)
      | _, _ => .ended outcome

/-- The line shows an error. -/
def ShowsError (line : Text) : Prop :=
  errorMark <:+: line

instance (line : Text) : Decidable (ShowsError line) :=
  decidable_of_iff _ Text.hasPart_iff

/-- The checker ends without complaint, and no line of its output shows an error. -/
def Exit.Passes (exit : Exit) : Prop :=
  exit.exitCode = 0 ∧
    ∀ lines, exit.output.CutsInto lines → ∀ line ∈ lines, ¬ ShowsError line

theorem countErrors_eq {output : Text} {lines : List Text} (h : output.CutsInto lines) :
    countErrors output = lines.countP (ShowsError ·) := by
  rw [countErrors, ← h.eq_lines]
  exact List.countP_congr fun line _ => by rw [decide_eq_true_iff, ShowsError, Text.hasPart_iff]

theorem passes_iff {exit : Exit} :
    exit.Passes ↔ countErrors exit.output = 0 ∧ exit.exitCode = 0 := by
  have hlines : exit.output.CutsInto (Text.lines exit.output) := Text.cutsInto_iff.mpr rfl
  rw [Exit.Passes, and_comm, countErrors_eq hlines, List.countP_eq_zero]
  refine and_congr_left fun _ => ⟨fun h line hline => ?_, fun h lines hcut => ?_⟩
  · rw [decide_eq_true_iff]
    exact h _ hlines line hline
  · rw [hcut.eq_lines]
    simpa using h

variable {setting : Setting} {files : List Text} {workspace : Workspace}

/-- What is made of it: only faults of the system are passed on as they are. -/
def CheckStart.verdict : CheckStart → Except Failure Unit
  | .missing => .error (.checkRefused checkerMissing)
  | .unstarted fault => .error (.checkRefused (checkerUnstarted fault))
  | .broken failure => .error failure
  | .ended outcome =>
      if countErrors outcome.output = 0 ∧ outcome.exitCode = 0 then .ok ()
      else .error (.checkRefused (checkFailure (countErrors outcome.output) outcome.output))

theorem CheckStart.verdict_ended_of_passes {outcome : Outcome} (h : outcome.Passes) :
    verdict (.ended outcome) = .ok () :=
  if_pos (passes_iff.mp h)

theorem CheckStart.verdict_ended_of_not_passes {outcome : Outcome} (h : ¬ outcome.Passes) :
    verdict (.ended outcome) =
      .error (.checkRefused (checkFailure (countErrors outcome.output) outcome.output)) :=
  if_neg fun hpasses => h (passes_iff.mpr hpasses)

/-- A fault of the system is none of the refusals that a check makes. -/
theorem ne_checkRefused_of_broken {disk : Disk} {failure : Failure}
    (h : startCheck setting disk files = .broken failure) (message : Text) :
    failure ≠ .checkRefused message := by
  rintro rfl
  rw [startCheck] at h
  split at h
  · cases h
  · cases h
  · cases h
  · split at h
    · split at h <;> cases h
    · cases h

theorem run_leaveContent_none (setting : Setting) (files : List Text) (workspace : Workspace) :
    (leaveContent setting files none).run workspace = (.ok (), workspace) := by
  unfold leaveContent
  cases files.getLast? <;> rfl

theorem run_leaveContent_some (setting : Setting) (hne : files ≠ []) (content : Bytes)
    (workspace : Workspace) : (leaveContent setting files (some content)).run workspace =
      match workspace.disk.write setting.root (files.getLast hne) content with
      | .ok changed => (.ok (), { workspace with disk := changed })
      | .error .missing => (.error (.checkRefused checkerMissing), workspace)
      | .error fault => (.error (.file fault), workspace) := by
  unfold leaveContent
  rw [List.getLast?_eq_some_getLast hne]
  dsimp only
  rw [run_bind_ok _ (run_disk workspace)]
  cases workspace.disk.write setting.root (files.getLast hne) content with
  | ok changed => rfl
  | error fault => cases fault <;> rfl

theorem run_judge (outcome : Outcome) (workspace : Workspace) : ∃ after : Workspace,
    after.calls = workspace.calls ∧
    (judge outcome.toExit).run workspace = ((CheckStart.ended outcome).verdict, after) := by
  by_cases hpasses : outcome.Passes
  · refine ⟨logged workspace [.checkPassed], rfl, ?_⟩
    obtain ⟨hcount, hcode⟩ := passes_iff.mp hpasses
    rw [CheckStart.verdict_ended_of_passes hpasses, judge]
    simp only [hcount, hcode, decide_true, Bool.and_self, if_true]
    rfl
  · let message := checkFailure (countErrors outcome.output) outcome.output
    refine ⟨logged workspace [.checkRefused message], rfl, ?_⟩
    have hfails : ¬ (decide (countErrors outcome.output = 0) && decide (outcome.exitCode = 0)) =
        true := by simpa using passes_iff.not.mp hpasses
    rw [CheckStart.verdict_ended_of_not_passes hpasses, judge]
    simp only [if_neg hfails]
    rfl

/-- A check of some files starts the checker once, with all of them. What comes of
it depends on the disk alone. -/
theorem run_checkModules (setting : Setting) (hne : files ≠ []) (workspace : Workspace) :
    ∃ after : Workspace, after.calls = workspace.calls ++ [.checking files] ∧
      (checkModules setting files).run workspace =
        ((startCheck setting workspace.disk files).verdict, after) := by
  -- the call is recorded before the checker is tried, so a refusal has it as well
  let asked : Workspace :=
    { workspace with
      events := workspace.events ++ [.checking files.length]
      calls := workspace.calls ++ [.checking files] }
  have hrun : (checkModules setting files).run workspace =
      (match setting.programs.checker with
        | .refuses .missing => throw (.checkRefused checkerMissing)
        | .refuses (.process fault) => throw (.checkRefused (checkerUnstarted fault))
        | .refuses (.system fault) => throw (.programBroken fault)
        | .ends outcome => do
            leaveContent setting files outcome.written
            judge outcome.toExit : Job Unit).run asked := by
    rw [checkModules, if_neg fun hempty => hne (List.isEmpty_iff.mp hempty)]
    rfl
  rw [hrun, startCheck]
  split
  · exact ⟨asked, rfl, rfl⟩
  · exact ⟨asked, rfl, rfl⟩
  · exact ⟨asked, rfl, rfl⟩
  · next outcome _ =>
      rw [List.getLast?_eq_some_getLast hne]
      cases hwritten : outcome.written with
      | none =>
          rw [run_bind_ok _ (run_leaveContent_none setting files asked)]
          exact run_judge outcome asked
      | some content =>
          have hleave := run_leaveContent_some setting hne content asked
          dsimp only
          split
          · next changed hwrite =>
              have hset : (leaveContent setting files (some content)).run asked =
                  (.ok (), { asked with disk := changed }) := by rw [hleave, hwrite]
              rw [run_bind_ok _ hset]
              exact run_judge outcome { asked with disk := changed }
          · next hwrite => exact ⟨asked, rfl, run_bind_error _ (by rw [hleave, hwrite])⟩
          · next fault hmissing hwrite =>
              refine ⟨asked, rfl, run_bind_error _ ?_⟩
              rw [hleave, hwrite]
              cases fault with
              | missing => exact absurd rfl hmissing
              | _ => rfl

/-- Modules pass just if there are none, or the checker ends with exit code 0
and no line of its output shows an error. In all other cases they are refused,
unless a fault of the system keeps the checker from being started: that fault,
and no other, ends the check in a third way. A refusal tells how many lines show
an error. -/
theorem check_passes_or_refuses_iff (setting : Setting) (files : List Text)
    (workspace : Workspace) :
    let start := startCheck setting workspace.disk files
    let check := (checkModules setting files).run workspace
    (check.1 = .ok () ↔ files = [] ∨ ∃ outcome, start = .ended outcome ∧ outcome.Passes) ∧
    ((check.1 = .ok () ∨ ∃ message, check.1 = .error (.checkRefused message)) ↔
      files = [] ∨ ∀ failure, start ≠ .broken failure) ∧
    (files ≠ [] → ∀ failure, start = .broken failure → check.1 = .error failure) ∧
    (files ≠ [] → ∀ outcome, start = .ended outcome → ¬ outcome.Passes →
      ∀ lines, outcome.output.CutsInto lines → check.1 =
        .error (.checkRefused (checkFailure (lines.countP (ShowsError ·)) outcome.output))) := by
  intro start check
  -- without files the checker is not even asked
  by_cases hempty : files = []
  · have hcheck : check = (.ok (), logged workspace [.nothingGenerated]) := by
      show (checkModules setting files).run workspace = _
      rw [checkModules, hempty]
      rfl
    simp [hcheck, hempty]
  obtain ⟨after, -, hrun⟩ := run_checkModules setting hempty workspace
  have hcheck : check = (start.verdict, after) := hrun
  rw [hcheck]
  simp only [hempty, false_or, ne_eq, not_false_eq_true, true_implies]
  cases hstart : start with
  | missing => simp [CheckStart.verdict]
  | unstarted fault => simp [CheckStart.verdict]
  | broken failure =>
      have hfault := ne_checkRefused_of_broken hstart
      simpa [CheckStart.verdict] using hfault
  | ended outcome =>
      by_cases hpasses : outcome.Passes
      · simp [CheckStart.verdict_ended_of_passes hpasses, hpasses]
      · rw [CheckStart.verdict_ended_of_not_passes hpasses]
        refine ⟨by simpa using hpasses, by simp, ?_, ?_⟩
        · rintro failure hbroken
          cases hbroken
        · rintro _ ⟨⟩ - lines hlines
          rw [countErrors_eq hlines]

/-- A checker that cannot be started for a reason of the system is neither
passed nor refused. -/
theorem broken_checker_ends_check :
    ((checkModules { root := "/", programs := { checker := .refuses (.system "tool is broken") } }
      ["a_derived.py"]).run { disk := {} }).1 = .error (.programBroken "tool is broken") := by
  obtain ⟨-, -, hbroken, -⟩ := check_passes_or_refuses_iff
    { root := "/", programs := { checker := .refuses (.system "tool is broken") } }
    ["a_derived.py"] { disk := {} }
  exact hbroken (List.cons_ne_nil _ _) _ rfl

end MessageForge
