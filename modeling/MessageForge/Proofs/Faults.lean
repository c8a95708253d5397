import MessageForge.Proofs.Classification
import MessageForge.Proofs.Contributions

/-!
# Faults of statements

A statement of a declaration file can fail in two ways. A call that asks for a
class gives no category, and is refused at its own line. Or something that is
read of the statement has no text, and then nothing is reported of the file at
all. A statement that does neither is read, and of several that fail the first
one decides.
-/

namespace MessageForge

/-! ## Categories -/

theorem Category.normalize_eq_error_iff {text : Text} {complaint : Complaint} :
    normalize text = .error complaint ↔
      Text.isIdentifier (meant text) = false ∧ complaint = .notCategory text := by
  rw [normalize, ← meant]
  split
  · next hidentifier =>
      constructor
      · intro h
        cases h
      · rintro ⟨hmeant, -⟩
        rw [hidentifier] at hmeant
        cases hmeant
  · next hidentifier =>
      rw [Bool.not_eq_true] at hidentifier
      exact ⟨fun h => ⟨hidentifier, (Except.error.inj h).symm⟩, fun h => h.2 ▸ rfl⟩

namespace Source

open Vocabulary

/-! ## Ways to fail -/

/-- What is wrong with a call that asks for a class, and the line of the call. -/
inductive Misasks : Stmt → Nat → Complaint → Prop where
  | count {line callLine : Nat} {callee : Expr} {arguments : List Expr} {keywords : List Argument}
      (hcallee : callee.EndsIn defineCall)
      (hcount : ¬ (arguments.length = 1 ∧ keywords = [])) :
      Misasks (line, .expression (.call callee arguments keywords callLine)) callLine
        .argumentCount
  | category {line callLine : Nat} {callee argument : Expr} {text : Text}
      (hcallee : callee.EndsIn defineCall) (htext : argument.categoryText? = some text)
      (hmeant : Text.isIdentifier (Category.meant text) = false) :
      Misasks (line, .expression (.call callee [argument] [] callLine)) callLine
        (.notCategory text)

/-- Something that is read of the statement has no text. -/
inductive IsUnwritable : Stmt → Prop where
  | marked {line : Nat} {name : Text} {decorators bases : List Expr} {keywords : List Argument}
      {body : List Stmt} (hmarked : ∃ decorator ∈ decorators, decorator.EndsIn deriveDecorator)
      (h : ¬ IsPrintable bases body) :
      IsUnwritable (line, .classDef name decorators bases keywords body)
  | call {line callLine : Nat} {callee argument : Expr} (hcallee : callee.EndsIn defineCall)
      (htext : argument.categoryText? = none) :
      IsUnwritable (line, .expression (.call callee [argument] [] callLine))

/-- The statement keeps its file from being read. -/
def IsFaulty (stmt : Stmt) : Prop :=
  (∃ line complaint, Misasks stmt line complaint) ∨ IsUnwritable stmt

/-! ## Classes and calls -/

theorem isMarked_iff {decorators : List Expr} :
    isMarked decorators = true ↔ ∃ decorator ∈ decorators, decorator.EndsIn deriveDecorator := by
  rw [isMarked, List.any_eq_true]
  exact exists_congr fun decorator => and_congr_right fun _ => namedAmong_singleton_iff

variable {source : Option Text} {failure : Failure}

/-- The declaration of a class that is found to be so. -/
def Classification.declaration (found : Classification) (source : Option Text) (line : Nat)
    (name : Text) : Declaration :=
  { name, fields := found.fields, shape := found.shape, reason := found.reason, source,
    line := some line }

theorem classDeclaration_eq_error_iff {line : Nat} {name : Text} {bases : List Expr}
    {body : List Stmt} :
    classDeclaration source line name bases body = .error failure ↔
      ¬ IsPrintable bases body ∧ failure = .unprintable := by
  by_cases hprintable : IsPrintable bases body
  · obtain ⟨found, h⟩ := exists_classifies hprintable
    rw [classDeclaration, h.classify_eq hprintable, ok_bind]
    constructor
    · intro h
      cases h
    · rintro ⟨hnot, -⟩
      exact absurd hprintable hnot
  · rw [classDeclaration, classify_eq_error hprintable, error_bind]
    exact ⟨fun h => ⟨hprintable, (Except.error.inj h).symm⟩, fun h => h.2 ▸ rfl⟩

theorem classDeclaration_eq_ok_iff {line : Nat} {name : Text} {bases : List Expr}
    {body : List Stmt} {declaration : Declaration} :
    classDeclaration source line name bases body = .ok declaration ↔
      IsPrintable bases body ∧ ∃ found, Classifies bases body found ∧
        declaration = found.declaration source line name := by
  constructor
  · intro h
    have hprintable : IsPrintable bases body := by
      by_contra hnot
      cases h.symm.trans (classDeclaration_eq_error_iff.mpr ⟨hnot, rfl⟩)
    obtain ⟨found, hfound⟩ := exists_classifies hprintable
    rw [classDeclaration, hfound.classify_eq hprintable] at h
    exact ⟨hprintable, found, hfound, (Except.ok.inj h).symm⟩
  · rintro ⟨hprintable, found, hfound, rfl⟩
    rw [classDeclaration, hfound.classify_eq hprintable]
    rfl

theorem definitionOfCall_of_not_singleton {line : Nat} {arguments : List Expr}
    {keywords : List Argument} (hcount : ¬ (arguments.length = 1 ∧ keywords = [])) :
    definitionOfCall source line arguments keywords =
      .error (refusedAt source line .argumentCount) := by
  unfold definitionOfCall
  split
  · exact absurd ⟨rfl, rfl⟩ hcount
  · rfl

theorem definitionOfCall_singleton_eq_error_iff {line : Nat} {argument : Expr} :
    definitionOfCall source line [argument] [] = .error failure ↔
      argument.categoryText? = none ∧ failure = .unprintable ∨
        ∃ text, argument.categoryText? = some text ∧
          Text.isIdentifier (Category.meant text) = false ∧
          failure = refusedAt source line (.notCategory text) := by
  rw [definitionOfCall_singleton]
  cases argument.categoryText? with
  | none =>
      constructor
      · exact fun h => .inl ⟨rfl, (Except.error.inj h).symm⟩
      · rintro (⟨-, rfl⟩ | ⟨text, hsome, -⟩)
        · rfl
        · cases hsome
  | some text =>
      constructor
      · intro h
        rcases bind_eq_error_iff.mp h with h | ⟨category, -, h⟩
        · obtain ⟨complaint, hrefused, rfl⟩ := mapError_eq_error_iff.mp h
          obtain ⟨hmeant, rfl⟩ := Category.normalize_eq_error_iff.mp hrefused
          exact .inr ⟨text, rfl, hmeant, rfl⟩
        · cases h
      · rintro (⟨hnone, -⟩ | ⟨_, ⟨⟩, hmeant, rfl⟩)
        · cases hnone
        · dsimp only
          rw [Category.normalize_eq_error_iff.mpr ⟨hmeant, rfl⟩]
          rfl

theorem definitionOfCall_eq_error_iff {line : Nat} {arguments : List Expr}
    {keywords : List Argument} :
    definitionOfCall source line arguments keywords = .error failure ↔
      ¬ (arguments.length = 1 ∧ keywords = []) ∧
          failure = refusedAt source line .argumentCount ∨
        ∃ argument, arguments = [argument] ∧ keywords = [] ∧
          (argument.categoryText? = none ∧ failure = .unprintable ∨
            ∃ text, argument.categoryText? = some text ∧
              Text.isIdentifier (Category.meant text) = false ∧
              failure = refusedAt source line (.notCategory text)) := by
  by_cases hcount : arguments.length = 1 ∧ keywords = []
  · obtain ⟨hlength, rfl⟩ := hcount
    obtain ⟨argument, rfl⟩ := List.length_eq_one_iff.mp hlength
    rw [definitionOfCall_singleton_eq_error_iff]
    constructor
    · exact fun hfault => .inr ⟨argument, rfl, rfl, hfault⟩
    · rintro (⟨hcount, -⟩ | ⟨_, ⟨⟩, -, hfault⟩)
      · exact absurd ⟨rfl, rfl⟩ hcount
      · exact hfault
  · rw [definitionOfCall_of_not_singleton hcount]
    constructor
    · intro h
      exact .inl ⟨hcount, (Except.error.inj h).symm⟩
    · rintro (⟨-, rfl⟩ | ⟨argument, rfl, rfl, -⟩)
      · rfl
      · exact absurd ⟨rfl, rfl⟩ hcount

/-! ## Statements -/

/-- A statement fails in just these ways, each with its own failure. -/
theorem contribution_eq_error_iff {stmt : Stmt} :
    contribution source stmt = .error failure ↔
      (∃ line complaint, Misasks stmt line complaint ∧
        failure = refusedAt source line complaint) ∨
      IsUnwritable stmt ∧ failure = .unprintable := by
  constructor
  · intro h
    unfold contribution at h
    split at h
    · cases h
    · split at h <;> cases h
    · split at h
      · next hmarked =>
          rcases bind_eq_error_iff.mp h with h | ⟨declaration, -, h⟩
          · obtain ⟨hprintable, rfl⟩ := classDeclaration_eq_error_iff.mp h
            exact .inr ⟨.marked (isMarked_iff.mp hmarked) hprintable, rfl⟩
          · cases h
      · cases h
    · split at h
      · next hcall =>
          have hcallee := namedAmong_singleton_iff.mp hcall
          rcases bind_eq_error_iff.mp h with h | ⟨definition, -, h⟩
          · rcases definitionOfCall_eq_error_iff.mp h with ⟨hcount, rfl⟩ |
              ⟨argument, rfl, rfl, ⟨htext, rfl⟩ | ⟨text, htext, hmeant, rfl⟩⟩
            · exact .inl ⟨_, _, .count hcallee hcount, rfl⟩
            · exact .inr ⟨.call hcallee htext, rfl⟩
            · exact .inl ⟨_, _, .category hcallee htext hmeant, rfl⟩
          · cases h
      · cases h
    · cases h
  · -- both kinds of call fail in the definition that is read of them
    have hcalled {line callLine : Nat} {callee : Expr} {arguments : List Expr}
        {keywords : List Argument} (hcallee : callee.EndsIn defineCall)
        (h : definitionOfCall source callLine arguments keywords = .error failure) :
        contribution source (line, .expression (.call callee arguments keywords callLine)) =
          .error failure := by
      rw [contribution, if_pos (namedAmong_singleton_iff.mpr hcallee), h, error_bind]
    rintro (⟨line, complaint, h, rfl⟩ | ⟨h, rfl⟩)
    · cases h with
      | count hcallee hcount =>
          exact hcalled hcallee (definitionOfCall_eq_error_iff.mpr (.inl ⟨hcount, rfl⟩))
      | category hcallee htext hmeant =>
          exact hcalled hcallee (definitionOfCall_eq_error_iff.mpr
            (.inr ⟨_, rfl, rfl, .inr ⟨_, htext, hmeant, rfl⟩⟩))
    · cases h with
      | marked hmarked hprintable =>
          rw [contribution, if_pos (isMarked_iff.mpr hmarked),
            classDeclaration_eq_error_iff.mpr ⟨hprintable, rfl⟩, error_bind]
      | call hcallee htext =>
          exact hcalled hcallee (definitionOfCall_eq_error_iff.mpr
            (.inr ⟨_, rfl, rfl, .inl ⟨htext, rfl⟩⟩))

/-- All other statements are read. -/
theorem exists_contribution_iff (source : Option Text) {stmt : Stmt} :
    (∃ given, contribution source stmt = .ok given) ↔ ¬ IsFaulty stmt := by
  constructor
  · rintro ⟨given, hgiven⟩ (⟨line, complaint, h⟩ | h)
    · cases hgiven.symm.trans (contribution_eq_error_iff.mpr (.inl ⟨line, complaint, h, rfl⟩))
    · cases hgiven.symm.trans (contribution_eq_error_iff.mpr (.inr ⟨h, rfl⟩))
  · intro h
    cases hresult : contribution source stmt with
    | ok given => exact ⟨given, rfl⟩
    | error failure =>
        rcases contribution_eq_error_iff.mp hresult with ⟨line, complaint, hmisasks, -⟩ | ⟨hnone, -⟩
        · exact absurd (.inl ⟨line, complaint, hmisasks⟩) h
        · exact absurd (.inr hnone) h

/-- Declared types come from marked classes only. -/
theorem contribution_eq_declaration_iff {stmt : Stmt} {declaration : Declaration} :
    contribution source stmt = .ok (.entry (.declaration declaration)) ↔
      ∃ line name decorators bases keywords body,
        stmt = (line, .classDef name decorators bases keywords body) ∧
        (∃ decorator ∈ decorators, decorator.EndsIn deriveDecorator) ∧
        classDeclaration source line name bases body = .ok declaration := by
  constructor
  · intro h
    unfold contribution at h
    split at h
    · cases h
    · split at h <;> cases h
    · split at h
      · next hmarked =>
          obtain ⟨found, hfound, h⟩ := bind_eq_ok_iff.mp h
          cases h
          exact ⟨_, _, _, _, _, _, rfl, isMarked_iff.mp hmarked, hfound⟩
      · cases h
    · split at h
      · obtain ⟨definition, -, h⟩ := bind_eq_ok_iff.mp h
        cases h
      · cases h
    · cases h
  · rintro ⟨line, name, decorators, bases, keywords, body, rfl, hmarked, hfound⟩
    rw [contribution, if_pos (isMarked_iff.mpr hmarked), hfound]
    rfl

/-- The entry that a statement gives. -/
def entryGiven? (source : Text) (stmt : Stmt) : Option Entry :=
  (contribution (some source) stmt).toOption.bind Contribution.entry?

theorem entryGiven?_eq_declaration_iff {source : Text} {stmt : Stmt} {declaration : Declaration} :
    entryGiven? source stmt = some (.declaration declaration) ↔
      contribution (some source) stmt = .ok (.entry (.declaration declaration)) := by
  rw [entryGiven?]
  cases contribution (some source) stmt with
  | error failure => exact iff_of_false nofun nofun
  | ok given => cases given <;> simp [Except.toOption, Contribution.entry?]

/-! ## Texts -/

variable {characters : CharacterNames}

/-- What is read of statements if none of them fails. -/
def fileOf (source : Text) (statements : List Stmt) : Except Failure DeclarationFile := do
  let contributions ← statements.mapM (contribution (some source))
  return { path := source
           imports := contributions.filterMap Contribution.importLine?
           entries := contributions.filterMap Contribution.entry? }

theorem parseDeclarations_eq (text source : Text) :
    parseDeclarations characters text source =
      readStatements characters (some source) text >>= fileOf source :=
  rfl

theorem fileOf_eq_error_iff {source : Text} {statements : List Stmt} :
    fileOf source statements = .error failure ↔
      ∃ before stmt after, statements = before ++ stmt :: after ∧
        (∀ other ∈ before, ¬ IsFaulty other) ∧
        contribution (some source) stmt = .error failure := by
  simp only [← exists_contribution_iff (some source)]
  constructor
  · intro h
    rcases bind_eq_error_iff.mp h with h | ⟨contributions, -, h⟩
    · exact exists_of_mapM_eq_error h
    · cases h
  · rintro ⟨before, stmt, after, rfl, hbefore, hstmt⟩
    rw [fileOf, mapM_eq_error hstmt hbefore, error_bind]

theorem exists_fileOf_iff {source : Text} {statements : List Stmt} :
    (∃ file, fileOf source statements = .ok file) ↔ ∀ stmt ∈ statements, ¬ IsFaulty stmt := by
  simp only [← exists_contribution_iff (some source)]
  constructor
  · rintro ⟨file, h⟩ stmt hstmt
    obtain ⟨contributions, hcontributions, -⟩ := bind_eq_ok_iff.mp h
    obtain ⟨given, -, hgiven⟩ := exists_mem_of_mapM_eq_ok hcontributions stmt hstmt
    exact ⟨given, hgiven⟩
  · intro h
    obtain ⟨contributions, hcontributions⟩ := exists_mapM_eq_ok h
    exact ⟨_, by rw [fileOf, hcontributions]; rfl⟩

theorem entries_of_fileOf {source : Text} {statements : List Stmt} {file : DeclarationFile}
    (h : fileOf source statements = .ok file) :
    file.entries = statements.filterMap (entryGiven? source) := by
  obtain ⟨contributions, hcontributions, h⟩ := bind_eq_ok_iff.mp h
  cases h
  refine filterMap_of_mapM_eq_ok (fun stmt given hgiven => ?_) hcontributions
  rw [entryGiven?, hgiven]
  rfl

/-- What is read of a text can be told part by part. -/
theorem parseDeclarations_of_parts {text source : Text} {file : DeclarationFile}
    (h : ((parseDeclarations characters text source).toOption.any fun found =>
      found.path = file.path ∧ found.imports = file.imports ∧ found.entries = file.entries) = true) :
    parseDeclarations characters text source = .ok file := by
  cases hparse : parseDeclarations characters text source with
  | error failure => rw [hparse] at h; cases h
  | ok found =>
      obtain ⟨path, imports, entries⟩ := found
      rw [hparse] at h
      obtain ⟨rfl, rfl, rfl⟩ := of_decide_eq_true h
      rfl

theorem any_null_iff {text : Text} :
    text.any (·.toNat = 0) = true ↔ ∃ c ∈ text, c.toNat = 0 := by
  simp only [List.any_eq_true, decide_eq_true_eq]

theorem readStatements_eq_ok_iff {text : Text} {statements : List Stmt} :
    readStatements characters source text = .ok statements ↔
      (∀ c ∈ text, c.toNat ≠ 0) ∧ parseModule characters text = .ok statements := by
  rw [readStatements]
  by_cases hnull : ∃ c ∈ text, c.toNat = 0
  · rw [if_pos (any_null_iff.mpr hnull)]
    obtain ⟨c, hmem, hc⟩ := hnull
    exact iff_of_false nofun fun h => h.1 c hmem hc
  · rw [if_neg (mt any_null_iff.mp hnull), and_iff_right fun c hmem hc => hnull ⟨c, hmem, hc⟩]
    cases parseModule characters text with
    | ok found => simp
    | error line => simp

theorem readStatements_eq_error_iff {text : Text} :
    readStatements characters source text = .error failure ↔
      (∃ c ∈ text, c.toNat = 0) ∧ failure = .refused { complaint := .invalidSyntax, source } ∨
        (∀ c ∈ text, c.toNat ≠ 0) ∧ ∃ line, parseModule characters text = .error line ∧
          failure = refusedAt source line .invalidSyntax := by
  rw [readStatements]
  by_cases hnull : ∃ c ∈ text, c.toNat = 0
  · rw [if_pos (any_null_iff.mpr hnull)]
    constructor
    · intro h
      exact .inl ⟨hnull, (Except.error.inj h).symm⟩
    · rintro (⟨-, rfl⟩ | ⟨hnone, -⟩)
      · rfl
      · obtain ⟨c, hmem, hc⟩ := hnull
        exact absurd hc (hnone c hmem)
  · rw [if_neg (mt any_null_iff.mp hnull)]
    constructor
    · intro h
      refine .inr ⟨fun c hmem hc => hnull ⟨c, hmem, hc⟩, ?_⟩
      cases hparse : parseModule characters text with
      | ok statements => rw [hparse] at h; cases h
      | error line => rw [hparse] at h; exact ⟨line, rfl, (Except.error.inj h).symm⟩
    · rintro (⟨h, -⟩ | ⟨-, line, hparse, rfl⟩)
      · exact absurd h hnull
      · rw [hparse]

/-! ## Texts without a text -/

/-- Of the statements that fail in a text, the first has no text for something
that is read of it. -/
def FailsUnwritten (characters : CharacterNames) (text : Text) : Prop :=
  (∀ c ∈ text, c.toNat ≠ 0) ∧ ∃ before stmt after,
    parseModule characters text = .ok (before ++ stmt :: after) ∧
      (∀ other ∈ before, ¬ IsFaulty other) ∧ IsUnwritable stmt

theorem parseDeclarations_eq_unprintable_iff {text : Text} (source : Text) :
    parseDeclarations characters text source = .error .unprintable ↔
      FailsUnwritten characters text := by
  rw [parseDeclarations_eq, bind_eq_error_iff]
  constructor
  · rintro (h | ⟨statements, hread, h⟩)
    · rcases readStatements_eq_error_iff.mp h with ⟨-, h⟩ | ⟨-, line, -, h⟩ <;> cases h
    · obtain ⟨hnull, hparse⟩ := readStatements_eq_ok_iff.mp hread
      obtain ⟨before, stmt, after, rfl, hbefore, hstmt⟩ := fileOf_eq_error_iff.mp h
      rcases contribution_eq_error_iff.mp hstmt with ⟨line, complaint, -, h⟩ | ⟨h, -⟩
      · cases h
      · exact ⟨hnull, before, stmt, after, hparse, hbefore, h⟩
  · rintro ⟨hnull, before, stmt, after, hparse, hbefore, h⟩
    exact .inr ⟨_, readStatements_eq_ok_iff.mpr ⟨hnull, hparse⟩, fileOf_eq_error_iff.mpr
      ⟨before, stmt, after, rfl, hbefore, contribution_eq_error_iff.mpr (.inr ⟨h, rfl⟩)⟩⟩

theorem Misasks.kind_eq {stmt : Stmt} {line : Nat} {complaint : Complaint}
    (h : Misasks stmt line complaint) : complaint.kind = .malformed := by
  cases h <;> rfl

/-- Whatever else keeps a text from being read is refused as malformed under
the name of its source. -/
theorem parseDeclarations_eq_error {text source : Text}
    (h : parseDeclarations characters text source = .error failure) :
    failure = .unprintable ∨ ∃ diagnostic, failure = .refused diagnostic ∧
      diagnostic.complaint.kind = .malformed ∧ diagnostic.source = some source := by
  rw [parseDeclarations_eq] at h
  rcases bind_eq_error_iff.mp h with h | ⟨statements, -, h⟩
  · rcases readStatements_eq_error_iff.mp h with ⟨-, rfl⟩ | ⟨-, line, -, rfl⟩
    · exact .inr ⟨_, rfl, rfl, rfl⟩
    · exact .inr ⟨_, rfl, rfl, rfl⟩
  · obtain ⟨before, stmt, after, -, -, hstmt⟩ := fileOf_eq_error_iff.mp h
    rcases contribution_eq_error_iff.mp hstmt with ⟨line, complaint, hmisasks, rfl⟩ | ⟨-, rfl⟩
    · exact .inr ⟨_, rfl, hmisasks.kind_eq, rfl⟩
    · exact .inl rfl

end Source

end MessageForge
