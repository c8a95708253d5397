import Mathlib.Data.List.Forall2
import MessageForge.Proofs.Faults
import MessageForge.Proofs.Movement

/-!
# Texts in a row

Each statement of a text contributes by itself. Where the statements of two
texts in a row are those of the first and, further down, those of the second,
the declarations are those of the first and then those of the second, and the
first failure in that order is the failure of the whole.
-/

namespace MessageForge

/-! ## Outcomes that correspond -/

/-- Both succeed, with values that are related, or both fail, the second one
with the moved failure. -/
inductive Corresponds {ε α β : Type} (move : ε → ε) (related : α → β → Prop) :
    Except ε α → Except ε β → Prop where
  | ok {value : α} {other : β} (h : related value other) :
      Corresponds move related (.ok value) (.ok other)
  | error (failure : ε) : Corresponds move related (.error failure) (.error (move failure))

namespace Corresponds

variable {ε α β γ δ : Type} {move : ε → ε} {related : α → β → Prop} {further : γ → δ → Prop}

theorem bind {first : Except ε α} {second : Except ε β} {next : α → Except ε γ}
    {following : β → Except ε δ} (h : Corresponds move related first second)
    (hnext : ∀ value other, related value other →
      Corresponds move further (next value) (following other)) :
    Corresponds move further (first >>= next) (second >>= following) := by
  cases h with
  | ok h => exact hnext _ _ h
  | error failure => exact .error failure

theorem of_ok {value : α} {second : Except ε β} (h : Corresponds move related (.ok value) second) :
    ∃ other, second = .ok other ∧ related value other := by
  cases h with
  | ok h => exact ⟨_, rfl, h⟩

theorem of_error {failure : ε} {second : Except ε β}
    (h : Corresponds move related (.error failure) second) : second = .error (move failure) := by
  cases h
  rfl

theorem mapM {f : α → Except ε γ} {g : β → Except ε δ} :
    ∀ {items : List α} {others : List β},
      List.Forall₂ (fun item other => Corresponds move further (f item) (g other)) items others →
      Corresponds move (List.Forall₂ further) (items.mapM f) (others.mapM g)
  | _, _, .nil => .ok .nil
  | _, _, .cons h hrest => by
      rw [List.mapM_cons, List.mapM_cons]
      exact h.bind fun value other hvalue => (mapM hrest).bind fun values others hvalues =>
        .ok (.cons hvalue hvalues)

end Corresponds

/-! ## Moved results -/

/-- The reason of a class with something else in its body, which quotes a line. -/
def otherStatementReason (line : Nat) : Text :=
  "line " ++ Text.ofNat line ++ " is not a field declaration"

/-- The reason with the line that it quotes, if it quotes one, further down. -/
inductive ReasonMoved (n : Nat) : Text → Text → Prop where
  | quoted (line : Nat) :
      ReasonMoved n (otherStatementReason line) (otherStatementReason (line + n))
  | kept {reason : Text} (h : ∀ line, reason ≠ otherStatementReason line) :
      ReasonMoved n reason reason

/-- The entry is the same, apart from its line and a line in its reason. -/
inductive Entry.MovedBy (n : Nat) : Entry → Entry → Prop where
  | definition (definition : Definition) :
      MovedBy n (.definition definition)
        (.definition { definition with line := definition.line.map (· + n) })
  | declaration (declaration : Declaration) {reason : Text}
      (h : ReasonMoved n declaration.reason reason) :
      MovedBy n (.declaration declaration)
        (.declaration { declaration with line := declaration.line.map (· + n), reason })

/-- A refusal is the same at a line further down. -/
def Failure.moved (n : Nat) : Failure → Failure
  | .refused diagnostic =>
      .refused { diagnostic with line := diagnostic.line.map (· + n) }
  | failure => failure

namespace Source

variable {n : Nat}

/-- Only reasons that quote a line begin as they do. -/
theorem reasonMoved_of_head? {reason : Text} (h : reason.head? ≠ some 'l') :
    ReasonMoved n reason reason := by
  refine .kept fun line heq => h ?_
  rw [heq]
  rfl

/-- The shape and the fields are the same, and the reason apart from its line. -/
def Classification.MovedBy (n : Nat) (found other : Classification) : Prop :=
  other.shape = found.shape ∧ other.fields = found.fields ∧ ReasonMoved n found.reason other.reason

inductive Contribution.MovedBy (n : Nat) : Contribution → Contribution → Prop where
  | importLine (line : Text) : MovedBy n (.importLine line) (.importLine line)
  | entry {declared other : Entry} (h : Entry.MovedBy n declared other) :
      MovedBy n (.entry declared) (.entry other)
  | nothing : MovedBy n .nothing .nothing

/-! ## Moved classes -/

theorem corresponds_printed (e : Expr) :
    Corresponds (Failure.moved n) Eq (printed e) (printed (e.moved n)) := by
  rw [printed_moved, printed]
  cases e.text with
  | none => exact .error Failure.unprintable
  | some text => exact .ok rfl

theorem corresponds_mapM_printed (list : List Expr) :
    Corresponds (Failure.moved n) Eq (list.mapM printed) ((movedAll n list).mapM printed) := by
  have heach : List.Forall₂
      (fun e other => Corresponds (Failure.moved n) Eq (printed e) (printed other)) list
      (list.map (Expr.moved n)) :=
    List.forall₂_map_right_iff.mpr (List.forall₂_same.mpr fun e _ => corresponds_printed e)
  have hall := Corresponds.mapM heach
  rwa [List.forall₂_eq_eq_eq, ← movedAll_eq_map] at hall

theorem corresponds_other {reason : Text} (h : reason.head? ≠ some 'l') :
    Corresponds (Failure.moved n) (Classification.MovedBy n) (.ok (.other reason))
      (.ok (.other reason)) :=
  .ok ⟨rfl, rfl, reasonMoved_of_head? h⟩

theorem corresponds_classifyBody (fields : List Field) (body : List Stmt) :
    Corresponds (Failure.moved n) (Classification.MovedBy n) (classifyBody fields body)
      (classifyBody fields (movedBody n body)) := by
  induction body generalizing fields with
  | nil =>
      rw [movedBody, classifyBody]
      split
      · exact .ok ⟨rfl, rfl, reasonMoved_of_head? (by decide)⟩
      · exact .ok ⟨rfl, rfl, reasonMoved_of_head? (show none ≠ some 'l' by decide)⟩
  | cons stmt rest ih =>
      obtain ⟨line, node⟩ := stmt
      -- what is neither skipped nor annotated ends the body with its line
      have hother : Corresponds (Failure.moved n) (Classification.MovedBy n)
          (.ok (.other (otherStatementReason line)))
          (.ok (.other (otherStatementReason (line + n)))) :=
        .ok ⟨rfl, rfl, .quoted line⟩
      cases node with
      | pass => exact ih fields
      | expression value =>
          cases value with
          | literal value => exact ih fields
          | _ => exact hother
      | annotated target type value =>
          cases target with
          | name id =>
              rw [movedBody, Stmt.moved, Node.moved, Expr.moved, classifyBody_annotated,
                classifyBody_annotated, isPseudoField_moved, isSome_movedOptional]
              split
              · exact corresponds_other (show some '\'' ≠ some 'l' by decide)
              · split
                · exact corresponds_other (show some 'f' ≠ some 'l' by decide)
                · split
                  · exact corresponds_other (show some 'f' ≠ some 'l' by decide)
                  · refine (corresponds_printed type).bind ?_
                    rintro text _ rfl
                    exact ih _
          | _ => exact hother
      | _ => exact hother

theorem corresponds_classify (bases : List Expr) (body : List Stmt) :
    Corresponds (Failure.moved n) (Classification.MovedBy n) (classify bases body)
      (classify (movedAll n bases) (movedBody n body)) := by
  rw [classify, classify, any_namedAmong_movedAll, any_namedAmong_movedAll,
    filter_namedAmong_movedAll]
  split
  · exact .ok ⟨rfl, rfl, reasonMoved_of_head? (by decide)⟩
  · split
    · exact .ok ⟨rfl, rfl, reasonMoved_of_head? (by decide)⟩
    · refine (corresponds_mapM_printed _).bind ?_
      rintro others _ rfl
      split
      · exact corresponds_classifyBody [] body
      · exact corresponds_other (show some 'i' ≠ some 'l' by decide)

/-! ## Moved statements -/

variable {source : Option Text}

theorem line_moved (line n : Nat) :
    some ((line + n : Nat) : Int) = (some (line : Int)).map (· + (n : Int)) := by
  rw [Option.map_some, Int.natCast_add]

theorem moved_refusedAt (source : Option Text) (line : Nat) (complaint : Complaint) :
    (refusedAt source line complaint).moved n = refusedAt source (line + n) complaint := by
  rw [refusedAt, refusedAt, Failure.moved, line_moved]

theorem corresponds_classDeclaration (line : Nat) (name : Text) (bases : List Expr)
    (body : List Stmt) :
    Corresponds (Failure.moved n)
      (fun declaration other => Entry.MovedBy n (.declaration declaration) (.declaration other))
      (classDeclaration source line name bases body)
      (classDeclaration source (line + n) name (movedAll n bases) (movedBody n body)) := by
  refine (corresponds_classify bases body).bind ?_
  rintro found ⟨shape, reason, fields⟩ ⟨hshape, hfields, hreason⟩
  cases hshape
  cases hfields
  rw [line_moved]
  exact .ok (.declaration _ hreason)

theorem corresponds_definitionOfCall (line : Nat) (arguments : List Expr)
    (keywords : List Argument) :
    Corresponds (Failure.moved n)
      (fun definition other => Entry.MovedBy n (.definition definition) (.definition other))
      (definitionOfCall source line arguments keywords)
      (definitionOfCall source (line + n) (movedAll n arguments) (movedArguments n keywords)) := by
  by_cases hcount : arguments.length = 1 ∧ keywords = []
  · obtain ⟨hlength, rfl⟩ := hcount
    obtain ⟨argument, rfl⟩ := List.length_eq_one_iff.mp hlength
    rw [movedAll, movedAll, movedArguments, definitionOfCall_singleton, definitionOfCall_singleton,
      categoryText?_moved]
    cases argument.categoryText? with
    | none => exact .error Failure.unprintable
    | some text =>
        dsimp only
        cases Category.normalize text with
        | error complaint =>
            show Corresponds _ _ (.error (refusedAt source line complaint))
              (.error (refusedAt source (line + n) complaint))
            rw [← moved_refusedAt]
            exact .error _
        | ok category =>
            show Corresponds _ _ (.ok _) (.ok ({ category, source, line := some _ } : Definition))
            rw [line_moved]
            exact .ok (.definition _)
  · have hmoved : ¬ ((movedAll n arguments).length = 1 ∧ movedArguments n keywords = []) := by
      rwa [movedAll_eq_map, List.length_map, movedArguments_eq_nil_iff]
    rw [definitionOfCall_of_not_singleton hcount, definitionOfCall_of_not_singleton hmoved,
      ← moved_refusedAt]
    exact .error _

/-- A statement contributes further down what it contributes where it is. -/
theorem corresponds_contribution (stmt : Stmt) :
    Corresponds (Failure.moved n) (Contribution.MovedBy n) (contribution source stmt)
      (contribution source (Stmt.moved n stmt)) := by
  obtain ⟨line, node⟩ := stmt
  cases node with
  | imports names => exact .ok (.importLine _)
  | importsFrom level module names =>
      rw [Stmt.moved, Node.moved, contribution, contribution]
      split
      · exact .ok .nothing
      · exact .ok (.importLine _)
  | classDef name decorators bases keywords body =>
      rw [Stmt.moved, Node.moved, contribution, contribution, isMarked, isMarked,
        any_namedAmong_movedAll]
      split
      · exact (corresponds_classDeclaration line name bases body).bind fun _ _ h => .ok (.entry h)
      · exact .ok .nothing
  | expression value =>
      cases value with
      | call callee arguments keywords line =>
          rw [Stmt.moved, Node.moved, Expr.moved, contribution, contribution, namedAmong_moved]
          split
          · exact (corresponds_definitionOfCall line arguments keywords).bind fun _ _ h =>
              .ok (.entry h)
          · exact .ok .nothing
      | _ => exact .ok .nothing
  | _ => exact .ok .nothing

/-! ## Files -/

variable {characters : CharacterNames} {source : Text}

/-- The file with the entries and imports of both. -/
def joinedFile (first second : DeclarationFile) : DeclarationFile :=
  { path := first.path, imports := first.imports ++ second.imports,
    entries := first.entries ++ second.entries }

/-- The same imports and, further down, the same entries. -/
structure FileMoved (n : Nat) (file other : DeclarationFile) : Prop where
  path : other.path = file.path
  imports : other.imports = file.imports
  entries : List.Forall₂ (Entry.MovedBy n) file.entries other.entries

theorem FileMoved.of_contributions {given others : List Contribution}
    (h : List.Forall₂ (Contribution.MovedBy n) given others) :
    FileMoved n
      { path := source, imports := given.filterMap Contribution.importLine?,
        entries := given.filterMap Contribution.entry? }
      { path := source, imports := others.filterMap Contribution.importLine?,
        entries := others.filterMap Contribution.entry? } where
  path := rfl
  imports := by
    have himports : List.Forall₂ Eq (given.filterMap Contribution.importLine?)
        (others.filterMap Contribution.importLine?) := by
      refine List.rel_filterMap (fun given other h => ?_) h
      cases h with
      | importLine line => exact .some rfl
      | _ => exact .none
    rw [List.forall₂_eq_eq_eq] at himports
    exact himports.symm
  entries := by
    refine List.rel_filterMap (fun given other h => ?_) h
    cases h with
    | entry h => exact .some h
    | _ => exact .none

/-- Statements further down are read as they are read where they are. -/
theorem corresponds_fileOf (statements : List Stmt) :
    Corresponds (Failure.moved n) (FileMoved n) (fileOf source statements)
      (fileOf source (statements.map (Stmt.moved n))) := by
  have heach : List.Forall₂ (fun stmt other => Corresponds (Failure.moved n)
      (Contribution.MovedBy n) (contribution (some source) stmt) (contribution (some source) other))
      statements (statements.map (Stmt.moved n)) :=
    List.forall₂_map_right_iff.mpr (List.forall₂_same.mpr fun stmt _ =>
      corresponds_contribution stmt)
  exact (Corresponds.mapM heach).bind fun _ _ h => .ok (.of_contributions h)

/-- What is read of statements in a row is read of the first and then of the
others. -/
theorem fileOf_append (first second : List Stmt) :
    fileOf source (first ++ second) =
      fileOf source first >>= fun front => fileOf source second >>= fun back =>
        .ok (joinedFile front back) := by
  rw [fileOf, fileOf, fileOf, List.mapM_append]
  cases first.mapM (contribution (some source)) with
  | error failure => rfl
  | ok front =>
      cases second.mapM (contribution (some source)) with
      | error failure => rfl
      | ok back =>
          simp only [ok_bind, pure, Except.pure, List.filterMap_append, joinedFile]

/-! ## Statements without a part in a file -/

open Vocabulary

/-- Imports, marked classes and calls that ask for a class. -/
inductive IsDeclarative : Stmt → Prop where
  | imports (line : Nat) (names : List Alias) : IsDeclarative (line, .imports names)
  | importsFrom (line level : Nat) (module : Option Text) (names : List Alias) :
      IsDeclarative (line, .importsFrom level module names)
  | marked {line : Nat} {name : Text} {decorators bases : List Expr} {keywords : List Argument}
      {body : List Stmt} (h : ∃ decorator ∈ decorators, decorator.EndsIn deriveDecorator) :
      IsDeclarative (line, .classDef name decorators bases keywords body)
  | call {line callLine : Nat} {callee : Expr} {arguments : List Expr} {keywords : List Argument}
      (h : callee.EndsIn defineCall) :
      IsDeclarative (line, .expression (.call callee arguments keywords callLine))

theorem contribution_of_not_isDeclarative {source : Option Text} {stmt : Stmt}
    (h : ¬ IsDeclarative stmt) : contribution source stmt = .ok .nothing := by
  obtain ⟨line, node⟩ := stmt
  cases node with
  | imports names => exact absurd (.imports line names) h
  | importsFrom level module names => exact absurd (.importsFrom line level module names) h
  | classDef name decorators bases keywords body =>
      rw [contribution, if_neg fun hmarked => h (.marked (isMarked_iff.mp hmarked))]
      rfl
  | expression value =>
      cases value with
      | call callee arguments keywords callLine =>
          rw [contribution, if_neg fun hcallee => h (.call (namedAmong_singleton_iff.mp hcallee))]
          rfl
      | _ => rfl
  | _ => rfl

theorem fileOf_of_not_isDeclarative {stmt : Stmt} (h : ¬ IsDeclarative stmt)
    (before after : List Stmt) :
    fileOf source (before ++ stmt :: after) = fileOf source (before ++ after) := by
  have hstmt : fileOf source [stmt] = .ok { path := source } := by
    rw [fileOf, List.mapM_cons, contribution_of_not_isDeclarative h]
    rfl
  have hafter : fileOf source (stmt :: after) = fileOf source after := by
    rw [← List.singleton_append, fileOf_append, hstmt, ok_bind]
    cases hfile : fileOf source after with
    | error failure => rfl
    | ok file =>
        obtain ⟨contributions, -, hfile⟩ := bind_eq_ok_iff.mp hfile
        cases hfile
        rfl
  rw [fileOf_append, fileOf_append, hafter]

/-! ## Texts -/

/-- The number of lines of a text that ends with a line. -/
def lineCount (text : Text) : Nat :=
  (Text.universalNewlines text).count '\n'

/-- The statements of two texts in a row are those of the first, and then those
of the second, further down by the lines of the first. -/
structure ReadsInRow (characters : CharacterNames) (source front back : Text)
    (first second : List Stmt) : Prop where
  readsFront : readStatements characters (some source) front = .ok first
  readsBack : readStatements characters (some source) back = .ok second
  readsRow : readStatements characters (some source) (front ++ back) =
    .ok (first ++ second.map (Stmt.moved (lineCount front)))

/-- Where statements are read in a row, the declarations of both texts are those
of the first and then those of the second, which are the same apart from the
lines. A failure of the first text is the failure of both, and one of the second
alone is their failure further down. Statements other than imports, marked
classes and calls that ask for a class may as well not be there. -/
theorem declarations_in_row {front back : Text} {first second : List Stmt}
    (h : ReadsInRow characters source front back first second) :
    (∀ file other, parseDeclarations characters front source = .ok file →
      parseDeclarations characters back source = .ok other →
      ∃ moved, FileMoved (lineCount front) other moved ∧
        parseDeclarations characters (front ++ back) source = .ok (joinedFile file moved)) ∧
    (∀ failure, parseDeclarations characters front source = .error failure →
      parseDeclarations characters (front ++ back) source = .error failure) ∧
    (∀ file failure, parseDeclarations characters front source = .ok file →
      parseDeclarations characters back source = .error failure →
      parseDeclarations characters (front ++ back) source =
        .error (failure.moved (lineCount front))) ∧
    ∀ text before stmt after,
      readStatements characters (some source) text = .ok (before ++ stmt :: after) →
      ¬ IsDeclarative stmt →
        parseDeclarations characters text source = fileOf source (before ++ after) := by
  have hfront : parseDeclarations characters front source = fileOf source first := by
    rw [parseDeclarations_eq, h.readsFront, ok_bind]
  have hback : parseDeclarations characters back source = fileOf source second := by
    rw [parseDeclarations_eq, h.readsBack, ok_bind]
  have hrow : parseDeclarations characters (front ++ back) source =
      fileOf source (first ++ second.map (Stmt.moved (lineCount front))) := by
    rw [parseDeclarations_eq, h.readsRow, ok_bind]
  -- what the second text gives by itself settles what its statements give further down
  have hmoved : Corresponds (Failure.moved (lineCount front)) (FileMoved (lineCount front))
      (fileOf source second) (fileOf source (second.map (Stmt.moved (lineCount front)))) :=
    corresponds_fileOf second
  rw [hfront, hback, hrow, fileOf_append]
  refine ⟨fun file other hfile hother => ?_, fun failure hfailure => ?_,
    fun file failure hfile hfailure => ?_, fun text before stmt after hread hstmt => ?_⟩
  · rw [hother] at hmoved
    obtain ⟨moved, heq, hfiles⟩ := hmoved.of_ok
    exact ⟨moved, hfiles, by rw [hfile, ok_bind, heq, ok_bind]⟩
  · rw [hfailure, error_bind]
  · rw [hfailure] at hmoved
    rw [hfile, ok_bind, hmoved.of_error, error_bind]
  · rw [parseDeclarations_eq, hread, ok_bind]
    exact fileOf_of_not_isDeclarative hstmt before after

/-! ## Two texts in a row -/

/-- The same name, the same literal, or calls in the same line of the same with
the same single argument. -/
def Expr.isSame : Expr → Expr → Bool
  | .name a, .name b => a = b
  | .literal a, .literal b => a = b
  | .call f [a] [] line, .call g [b] [] line' => f.isSame g && a.isSame b && line = line'
  | _, _ => false

theorem Expr.eq_of_isSame {a b : Expr} (h : a.isSame b = true) : a = b := by
  fun_induction Expr.isSame a b with
  | case1 a b => rw [of_decide_eq_true h]
  | case2 a b => rw [of_decide_eq_true h]
  | case3 f a line g b line' ihcallee ihargument =>
      simp only [Bool.and_eq_true, decide_eq_true_eq] at h
      rw [ihcallee h.1.1, ihargument h.1.2, h.2]
  | case4 => cases h

/-- In the same lines the same imports, expressions, or classes with one
decorator and one statement that is not kept. -/
def areSame : List Stmt → List Stmt → Bool
  | [], [] => true
  | (line, .imports a) :: rest, (line', .imports b) :: rest' =>
      line = line' && a = b && areSame rest rest'
  | (line, .expression a) :: rest, (line', .expression b) :: rest' =>
      line = line' && a.isSame b && areSame rest rest'
  | (line, .classDef a [d] [] [] [(inner, .other)]) :: rest,
      (line', .classDef b [e] [] [] [(inner', .other)]) :: rest' =>
      line = line' && a = b && d.isSame e && inner = inner' && areSame rest rest'
  | _, _ => false

theorem eq_of_areSame {first second : List Stmt} (h : areSame first second = true) :
    first = second := by
  fun_induction areSame first second with
  | case1 => rfl
  | case2 line a rest line' b rest' ih =>
      simp only [Bool.and_eq_true, decide_eq_true_eq] at h
      rw [h.1.1, h.1.2, ih h.2]
  | case3 line a rest line' b rest' ih =>
      simp only [Bool.and_eq_true, decide_eq_true_eq] at h
      rw [h.1.1, Expr.eq_of_isSame h.1.2, ih h.2]
  | case4 line a d inner rest line' b e inner' rest' ih =>
      simp only [Bool.and_eq_true, decide_eq_true_eq] at h
      rw [h.1.1.1.1, h.1.1.1.2, Expr.eq_of_isSame h.1.1.2, h.1.2, ih h.2]
  | case5 => cases h

theorem readStatements_of_areSame {source : Option Text} {text : Text} {statements : List Stmt}
    (h : (readStatements characters source text).toOption.any (areSame statements) = true) :
    readStatements characters source text = .ok statements := by
  cases hread : readStatements characters source text with
  | error failure => rw [hread] at h; cases h
  | ok found => rw [hread] at h; rw [eq_of_areSame h]

def chatText : Text := "import os\ndefine_message('Chat')\n"

def chatStatements : List Stmt :=
  [(1, .imports [{ name := "os" }]),
    (2, .expression (.call (.name "define_message") [.literal (.text (codesOf "Chat") false)] []
      2))]

def chatFile : DeclarationFile where
  path := "chat.py"
  imports := ["import os"]
  entries := [.definition { category := "Chat", source := some "chat.py", line := some 2 }]

def toolText : Text := "@derive_base_message\nclass Tool:\n    def call(self): pass\n"

def toolStatements : List Stmt :=
  [(2, .classDef "Tool" [.name "derive_base_message"] [] [] [(3, .other)])]

/-- A class that is declared in a line, with another statement in the next one. -/
def toolFile (line : Nat) : DeclarationFile where
  path := "chat.py"
  entries := [.declaration { name := "Tool", shape := .other,
                             reason := otherStatementReason (line + 1),
                             source := some "chat.py", line := some line }]

theorem tool_behind_chat :
    ∃ moved, FileMoved 2 (toolFile 2) moved ∧
      parseDeclarations namelessCharacters (chatText ++ toolText) "chat.py" =
        .ok (joinedFile chatFile moved) := by
  have hreads : ReadsInRow namelessCharacters "chat.py" chatText toolText chatStatements
      toolStatements :=
    { readsFront := readStatements_of_areSame (by decide +kernel)
      readsBack := readStatements_of_areSame (by decide +kernel)
      readsRow := readStatements_of_areSame (by decide +kernel) }
  have hchat : parseDeclarations namelessCharacters chatText "chat.py" = .ok chatFile :=
    parseDeclarations_of_parts (by decide +kernel)
  have htool : parseDeclarations namelessCharacters toolText "chat.py" = .ok (toolFile 2) :=
    parseDeclarations_of_parts (by decide +kernel)
  exact (declarations_in_row hreads).1 chatFile (toolFile 2) hchat htool

example : parseDeclarations namelessCharacters (chatText ++ toolText) "chat.py" =
    .ok (joinedFile chatFile (toolFile 4)) :=
  parseDeclarations_of_parts (by decide +kernel)

end Source

end MessageForge
