import MessageForge.Proofs.Derivability
import MessageForge.Proofs.Faults
import MessageForge.Proofs.Headers

/-!
# Places of diagnostics

Whatever is reported of a source text names the source and a line in it. A text
that is no module comes before all else, then the first call that gives no
category, wherever it stands, and only then the first class that cannot be
derived. Definitions that have been read are never refused afterwards, so that
nothing is reported without a place.
-/

namespace MessageForge

open Vocabulary

/-! ## Refusals of entries -/

/-- What is reported of an entry when its class is generated. -/
def Entry.refusal? : Entry → Option Diagnostic
  | .declaration d =>
      match d.derive with
      | .ok _ => none
      | .error diagnostic => some diagnostic
  | .definition d =>
      match Category.normalize d.category with
      | .ok _ => none
      | .error complaint => some { complaint }

theorem Entry.refusal?_declaration_eq_some_iff {declaration : Declaration}
    {diagnostic : Diagnostic} :
    (Entry.declaration declaration).refusal? = some diagnostic ↔
      ∃ complaint, declaration.FirstFault complaint ∧
        diagnostic = declaration.refuse complaint := by
  rw [← Declaration.derive_eq_error_iff, refusal?]
  cases declaration.derive <;> simp

theorem Entry.refusal?_definition {definition : Definition} {category : Text}
    (h : Category.normalize definition.category = .ok category) :
    (Entry.definition definition).refusal? = none := by
  rw [refusal?, h]

namespace Draft

theorem addEntry_eq_error_iff {draft : Draft} {entry : Entry} {diagnostic : Diagnostic} :
    draft.addEntry entry = .error diagnostic ↔ entry.refusal? = some diagnostic := by
  cases entry with
  | declaration declaration =>
      rw [addEntry, addDeclaration, Entry.refusal?]
      cases declaration.derive with
      | ok derivation => constructor <;> · intro h; cases h
      | error refused => simp
  | definition definition =>
      rw [addEntry, addDefinition, definitionLines, Entry.refusal?]
      cases Category.normalize definition.category with
      | ok category => constructor <;> · intro h; cases h
      | error complaint => simp [Except.mapError]

/-- What is reported of entries is what is reported of the first one refused. -/
theorem refused_addEntries (entries : List Entry) (draft : Draft) :
    (draft.addEntries entries).2 = entries.findSome? Entry.refusal? := by
  induction entries generalizing draft with
  | nil => rfl
  | cons entry rest ih =>
      rw [addEntries, List.findSome?_cons]
      cases hadd : draft.addEntry entry with
      | error diagnostic => rw [addEntry_eq_error_iff.mp hadd]
      | ok next =>
          have hnone : entry.refusal? = none := by
            refine Option.eq_none_iff_forall_ne_some.mpr fun diagnostic hrefused => ?_
            cases hadd.symm.trans (addEntry_eq_error_iff.mpr hrefused)
          rw [hnone]
          exact ih next

theorem refused_generateAll (file : DeclarationFile) :
    (ofFile file).generateAll.2 = file.entries.findSome? Entry.refusal? := by
  rw [← refused_addEntries file.entries (ofFile file), generateAll]
  cases hadd : (ofFile file).addEntries (ofFile file).file.entries with
  | mk draft refused =>
      have hentries : (ofFile file).addEntries file.entries = (draft, refused) := hadd
      rw [hentries]
      cases refused <;> rfl

end Draft

namespace Source

/-! ## Refusals of statements -/

/-- Why a marked class cannot be derived, and the line of its header. -/
inductive Misdeclares (source : Text) : Stmt → Nat → Complaint → Prop where
  | mk {line : Nat} {name : Text} {decorators bases : List Expr} {keywords : List Argument}
      {body : List Stmt} {found : Classification} {complaint : Complaint}
      (hmarked : ∃ decorator ∈ decorators, decorator.EndsIn deriveDecorator)
      (hfound : Classifies bases body found)
      (hfault : (found.declaration (some source) line name).FirstFault complaint) :
      Misdeclares source (line, .classDef name decorators bases keywords body) line complaint

variable {text source : Text} {diagnostic : Diagnostic}

/-- A statement that is read has its entry refused just if it is a class that
cannot be derived. -/
theorem refusal?_entryGiven?_eq_some_iff {stmt : Stmt} (hread : ¬ IsFaulty stmt) :
    (entryGiven? source stmt).bind Entry.refusal? = some diagnostic ↔
      ∃ line complaint, Misdeclares source stmt line complaint ∧
        diagnostic = { complaint, source := some source, line := some line } := by
  constructor
  · obtain ⟨given, hgiven⟩ := (exists_contribution_iff (some source)).mpr hread
    rw [entryGiven?, hgiven]
    intro h
    obtain ⟨entry, hsome, hrefused⟩ := Option.bind_eq_some_iff.mp h
    cases given with
    | entry declared =>
        cases hsome
        cases entry with
        | declaration declaration =>
            obtain ⟨line, name, decorators, bases, keywords, body, rfl, hmarked, hdeclared⟩ :=
              contribution_eq_declaration_iff.mp hgiven
            obtain ⟨-, found, hfound, rfl⟩ := classDeclaration_eq_ok_iff.mp hdeclared
            obtain ⟨complaint, hfault, rfl⟩ :=
              Entry.refusal?_declaration_eq_some_iff.mp hrefused
            exact ⟨line, complaint, .mk hmarked hfound hfault, rfl⟩
        | definition definition =>
            rw [Entry.refusal?_definition (normalize_of_contribution hgiven)] at hrefused
            cases hrefused
    | _ => cases hsome
  · rintro ⟨line, complaint, hmisdeclares, rfl⟩
    cases hmisdeclares with
    | @mk _ name decorators bases keywords body found _ hmarked hfound hfault =>
        have hprintable : IsPrintable bases body := by
          by_contra hnot
          exact hread (.inr (.marked hmarked hnot))
        have hdeclared : classDeclaration (some source) line name bases body =
            .ok (found.declaration (some source) line name) :=
          classDeclaration_eq_ok_iff.mpr ⟨hprintable, found, hfound, rfl⟩
        have hgiven := contribution_eq_declaration_iff.mpr
          ⟨line, name, decorators, bases, keywords, body, rfl, hmarked, hdeclared⟩
        rw [entryGiven?, hgiven]
        exact Entry.refusal?_declaration_eq_some_iff.mpr ⟨complaint, hfault, rfl⟩

/-- What is refused of a file that is read is its first class that cannot be
derived. -/
theorem refused_generateAll_fileOf {statements : List Stmt} {file : DeclarationFile}
    (h : fileOf source statements = .ok file) :
    (Draft.ofFile file).generateAll.2 = some diagnostic ↔
      ∃ before stmt after line complaint, statements = before ++ stmt :: after ∧
        (∀ other ∈ before, ∀ line complaint, ¬ Misdeclares source other line complaint) ∧
        Misdeclares source stmt line complaint ∧
        diagnostic = { complaint, source := some source, line := some line } := by
  have hread := exists_fileOf_iff.mp ⟨file, h⟩
  have hnone {stmt : Stmt} (hstmt : stmt ∈ statements) :
      (entryGiven? source stmt).bind Entry.refusal? = none ↔
        ∀ line complaint, ¬ Misdeclares source stmt line complaint := by
    rw [Option.eq_none_iff_forall_ne_some]
    constructor
    · intro hall line complaint hmisdeclares
      exact hall _ ((refusal?_entryGiven?_eq_some_iff (hread stmt hstmt)).mpr
        ⟨line, complaint, hmisdeclares, rfl⟩)
    · intro hall diagnostic hrefused
      obtain ⟨line, complaint, hmisdeclares, -⟩ :=
        (refusal?_entryGiven?_eq_some_iff (hread stmt hstmt)).mp hrefused
      exact hall line complaint hmisdeclares
  -- the search through the entries is one through the statements that give them
  rw [Draft.refused_generateAll, entries_of_fileOf h, ← List.head?_filterMap,
    List.filterMap_filterMap, List.head?_filterMap, List.findSome?_eq_some_iff]
  constructor
  · rintro ⟨before, stmt, after, rfl, hstmt, hbefore⟩
    obtain ⟨line, complaint, hmisdeclares, hplace⟩ := (refusal?_entryGiven?_eq_some_iff
      (hread stmt (List.mem_append_right _ (List.mem_cons_self ..)))).mp hstmt
    exact ⟨before, stmt, after, line, complaint, rfl, fun other hother =>
      (hnone (List.mem_append_left _ hother)).mp (hbefore other hother), hmisdeclares, hplace⟩
  · rintro ⟨before, stmt, after, line, complaint, rfl, hbefore, hmisdeclares, hplace⟩
    exact ⟨before, stmt, after, rfl, (refusal?_entryGiven?_eq_some_iff
      (hread stmt (List.mem_append_right _ (List.mem_cons_self ..)))).mpr
        ⟨line, complaint, hmisdeclares, hplace⟩,
      fun other hother => (hnone (List.mem_append_left _ hother)).mpr (hbefore other hother)⟩

/-! ## Texts -/

variable {characters : CharacterNames}

/-- What is reported of a text, with its place: the first of these that there
is. -/
inductive Diagnosed (characters : CharacterNames) (text source : Text) : Diagnostic → Prop where
  | nullCharacter (hnull : ∃ c ∈ text, c.toNat = 0) :
      Diagnosed characters text source
        { complaint := .invalidSyntax, source := some source, line := none }
  | unreadable {line : Nat} (hnull : ∀ c ∈ text, c.toNat ≠ 0)
      (h : parseModule characters text = .error line) :
      Diagnosed characters text source
        { complaint := .invalidSyntax, source := some source, line := some line }
  /-- Classes in front of the call do not matter, derivable or not. -/
  | call {before after : List Stmt} {stmt : Stmt} {line : Nat} {complaint : Complaint}
      (hread : readStatements characters (some source) text = .ok (before ++ stmt :: after))
      (hbefore : ∀ other ∈ before, ¬ IsFaulty other) (h : Misasks stmt line complaint) :
      Diagnosed characters text source { complaint, source := some source, line := some line }
  | marked {before after : List Stmt} {stmt : Stmt} {line : Nat} {complaint : Complaint}
      (hread : readStatements characters (some source) text = .ok (before ++ stmt :: after))
      (hall : ∀ other ∈ before ++ stmt :: after, ¬ IsFaulty other)
      (hbefore : ∀ other ∈ before, ∀ line complaint, ¬ Misdeclares source other line complaint)
      (h : Misdeclares source stmt line complaint) :
      Diagnosed characters text source { complaint, source := some source, line := some line }

/-- What is reported when a text is read. -/
theorem parseDeclarations_eq_refused_iff :
    parseDeclarations characters text source = .error (.refused diagnostic) ↔
      readStatements characters (some source) text = .error (.refused diagnostic) ∨
        ∃ before stmt after line complaint,
          readStatements characters (some source) text = .ok (before ++ stmt :: after) ∧
          (∀ other ∈ before, ¬ IsFaulty other) ∧ Misasks stmt line complaint ∧
          diagnostic = { complaint, source := some source, line := some line } := by
  rw [parseDeclarations_eq, bind_eq_error_iff]
  refine or_congr_right ⟨?_, ?_⟩
  · rintro ⟨statements, hread, h⟩
    obtain ⟨before, stmt, after, rfl, hbefore, hstmt⟩ := fileOf_eq_error_iff.mp h
    rcases contribution_eq_error_iff.mp hstmt with ⟨line, complaint, hmisasks, hplace⟩ | ⟨-, h⟩
    · exact ⟨before, stmt, after, line, complaint, hread, hbefore, hmisasks,
        Failure.refused.inj hplace⟩
    · cases h
  · rintro ⟨before, stmt, after, line, complaint, hread, hbefore, hmisasks, rfl⟩
    exact ⟨_, hread, fileOf_eq_error_iff.mpr ⟨before, stmt, after, rfl, hbefore,
      contribution_eq_error_iff.mpr (.inl ⟨line, complaint, hmisasks, rfl⟩)⟩⟩

/-- What is reported of the classes of a text that is read. -/
theorem refused_generateAll_iff :
    (∃ file, parseDeclarations characters text source = .ok file ∧
        (Draft.ofFile file).generateAll.2 = some diagnostic) ↔
      ∃ before stmt after line complaint,
        readStatements characters (some source) text = .ok (before ++ stmt :: after) ∧
        (∀ other ∈ before ++ stmt :: after, ¬ IsFaulty other) ∧
        (∀ other ∈ before, ∀ line complaint, ¬ Misdeclares source other line complaint) ∧
        Misdeclares source stmt line complaint ∧
        diagnostic = { complaint, source := some source, line := some line } := by
  simp only [parseDeclarations_eq, bind_eq_ok_iff]
  constructor
  · rintro ⟨file, ⟨statements, hread, hfile⟩, hrefused⟩
    obtain ⟨before, stmt, after, line, complaint, rfl, hbefore, hmisdeclares, hplace⟩ :=
      (refused_generateAll_fileOf hfile).mp hrefused
    exact ⟨before, stmt, after, line, complaint, hread, exists_fileOf_iff.mp ⟨file, hfile⟩,
      hbefore, hmisdeclares, hplace⟩
  · rintro ⟨before, stmt, after, line, complaint, hread, hall, hbefore, hmisdeclares, hplace⟩
    obtain ⟨file, hfile⟩ := exists_fileOf_iff.mpr hall
    exact ⟨file, ⟨_, hread, hfile⟩, (refused_generateAll_fileOf hfile).mpr
      ⟨before, stmt, after, line, complaint, rfl, hbefore, hmisdeclares, hplace⟩⟩

theorem diagnosed_iff :
    Diagnosed characters text source diagnostic ↔
      parseDeclarations characters text source = .error (.refused diagnostic) ∨
        ∃ file, parseDeclarations characters text source = .ok file ∧
          (Draft.ofFile file).generateAll.2 = some diagnostic := by
  rw [parseDeclarations_eq_refused_iff, refused_generateAll_iff, readStatements_eq_error_iff]
  constructor
  · intro h
    cases h with
    | nullCharacter hnull => exact .inl (.inl (.inl ⟨hnull, rfl⟩))
    | unreadable hnull h => exact .inl (.inl (.inr ⟨hnull, _, h, rfl⟩))
    | call hread hbefore h => exact .inl (.inr ⟨_, _, _, _, _, hread, hbefore, h, rfl⟩)
    | marked hread hall hbefore h => exact .inr ⟨_, _, _, _, _, hread, hall, hbefore, h, rfl⟩
  · rintro (((⟨hnull, heq⟩ | ⟨hnull, line, h, heq⟩) |
      ⟨before, stmt, after, line, complaint, hread, hbefore, h, rfl⟩) |
      ⟨before, stmt, after, line, complaint, hread, hall, hbefore, h, rfl⟩)
    · cases heq
      exact .nullCharacter hnull
    · cases heq
      exact .unreadable hnull h
    · exact .call hread hbefore h
    · exact .marked hread hall hbefore h

theorem Diagnosed.source_eq (h : Diagnosed characters text source diagnostic) :
    diagnostic.source = some source := by
  cases h <;> rfl

/-! ## Definitions -/

/-- The class of a definition whose category is plain is added to every draft,
and named by that category. -/
theorem addDefinition_of_normalize {definition : Definition}
    (h : Category.normalize definition.category = .ok definition.category) (draft : Draft) :
    ∃ block, draft.addDefinition definition =
        .ok (draft.addBlock block (Category.typeName definition.category)) ∧
      headerName? block = some (Category.typeName definition.category) := by
  refine ⟨templateLines definition.category, ?_, ?_⟩
  · rw [Draft.addDefinition, definitionLines, h]
    rfl
  · have hbare : (bareDerivation definition.category).declaration.IsBare definition.category :=
      ⟨rfl, rfl, rfl⟩
    have hlines := hbare.classLines (Category.newline_not_mem h)
    exact hlines ▸ headerName?_lines ⟨bareDerivation definition.category, []⟩

/-- Just what has a place is reported of a text, when it is read or when the
classes of its file are generated, and always under the name of its source. A
category is its own normal spelling, so that the classes of definitions, which
are named by it, are never refused. -/
theorem diagnostics_have_places (characters : CharacterNames) (text source : Text) :
    (∀ diagnostic, (parseDeclarations characters text source = .error (.refused diagnostic) ∨
        ∃ file, parseDeclarations characters text source = .ok file ∧
          (Draft.ofFile file).generateAll.2 = some diagnostic) ↔
      Diagnosed characters text source diagnostic) ∧
    (∀ diagnostic, Diagnosed characters text source diagnostic → diagnostic.source = some source) ∧
    (∀ given category : Text, Category.normalize given = .ok category →
      Category.normalize category = .ok category) ∧
    ∀ file, parseDeclarations characters text source = .ok file →
      ∀ definition, Entry.definition definition ∈ file.entries → ∀ draft : Draft,
        ∃ block, draft.addDefinition definition =
            .ok (draft.addBlock block (definition.category ++ messageSuffix)) ∧
          headerName? block = some (definition.category ++ messageSuffix) := by
  refine ⟨fun _ => diagnosed_iff.symm, fun _ => Diagnosed.source_eq, fun given category h => ?_,
    fun file hfile definition hdefinition => ?_⟩
  · exact Category.normalize_of_isIdentifier (Category.isIdentifier_of_normalize h)
  · obtain ⟨statements, -, hcontents⟩ := isFileOf_parseDeclarations hfile
    exact addDefinition_of_normalize (hcontents.definitions definition hdefinition)

/-- The call in the fifth line is reported, not the class in front of it that
cannot be derived. -/
example : parseDeclarations namelessCharacters
      ("@derive_base_message\nclass Chat(Base):\n    role: str\n\n" ++
        "define_message('chat', 'tool')\n") "chat.py" =
    .error (.refused
      { complaint := .argumentCount, source := some "chat.py", line := some 5 }) := by
  decide +kernel

end Source

end MessageForge
