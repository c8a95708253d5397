import MessageForge.Proofs.CarriedNames
import MessageForge.Proofs.Executions
import MessageForge.Proofs.Faults

/-!
# Pseudo-fields

A dataclass takes three annotations for no field of its instances: class
variables, parameters of the initializer, and the marker behind which fields are
given by keyword. A name in an annotation means what the imports of its module
bind it to, while a class is read by the last names of its annotations alone. So
a class variable is found under its own name, in whatever module it is looked
up, and goes unnoticed under another one. The dataclass of the module knows
annotations by how their texts begin, and sees one in whatever begins like it.
-/

namespace MessageForge.Source

open Vocabulary Session

/-! ## What annotations denote -/

def classVar : Referent := .member 0 (some "typing") "ClassVar"
def initVar : Referent := .member 0 (some "dataclasses") "InitVar"
def keywordOnly : Referent := .member 0 (some "dataclasses") "KW_ONLY"

section Denotations

variable (exports : Exports) (imports : List Import)

/-- What a dotted name means behind imports. -/
def Expr.referent? : Expr → Option Referent
  | .name id => meaning? exports imports id
  | .attribute value id =>
      match value.referent? with
      | some (.module path) => some (.member 0 (some path) id)
      | _ => none
  | _ => none

def Expr.unsubscripted : Expr → Expr
  | .subscript value _ => value
  | type => type

/-- What an annotation denotes, bare or subscripted. -/
def denoted? (type : Expr) : Option Referent :=
  type.unsubscripted.referent? exports imports

/-- An annotation denotes a class variable or a parameter of the initializer,
and under its own name. -/
def DenotesByName (type : Expr) : Prop :=
  (denoted? exports imports type = some classVar ∧ type.unsubscripted.EndsIn "ClassVar") ∨
    (denoted? exports imports type = some initVar ∧ type.unsubscripted.EndsIn "InitVar")

def Referent.memberName? : Referent → Option Text
  | .module _ => none
  | .member _ _ name => some name

/-- The imports bind members of such names to no other names. -/
def KeepsNames (names : List Text) : Prop :=
  ∀ given ∈ imports, ∀ binding ∈ given.bindings exports, ∀ name ∈ names,
    binding.2.memberName? = some name → binding.1 = name

end Denotations

variable {exports : Exports} {imports : List Import}

/-- What is a member of such a name ends in the name, unless it is renamed. -/
theorem endsIn_of_referent? {level : Nat} {module : Option Text} {name : Text} {e : Expr}
    (hkeeps : KeepsNames exports imports pseudoFields)
    (h : e.referent? exports imports = some (.member level module name))
    (hname : name ∈ pseudoFields) : e.EndsIn name := by
  unfold Expr.referent? at h
  split at h
  · next id =>
      -- some import binds the name, and none binds it to another member
      obtain ⟨given, hgiven, hbound⟩ := exists_binds_of_meaning? h
      have hid : id = name := hkeeps given hgiven _ hbound name hname rfl
      exact hid ▸ .name id
  · split at h
    · cases h
      exact .member _ _
    · cases h
  · cases h

theorem isPseudo_of_endsIn {type : Expr} {name : Text} (h : type.unsubscripted.EndsIn name)
    (hname : name ∈ pseudoFields) : IsPseudo type := by
  cases type with
  | subscript value index => exact .subscripted index ⟨name, hname, h⟩
  | _ => exact .bare ⟨name, hname, h⟩

theorem DenotesByName.isPseudo {type : Expr} (h : DenotesByName exports imports type) :
    IsPseudo type := by
  rcases h with ⟨-, h⟩ | ⟨-, h⟩
  · exact isPseudo_of_endsIn h (by decide)
  · exact isPseudo_of_endsIn h (by decide)

/-- Without renamings nothing else can be denoted. -/
theorem denotesByName_of_keeps {type : Expr} (hkeeps : KeepsNames exports imports pseudoFields)
    (h : denoted? exports imports type = some classVar ∨
      denoted? exports imports type = some initVar) :
    DenotesByName exports imports type := by
  rcases h with h | h
  · exact .inl ⟨h, endsIn_of_referent? hkeeps h (by decide)⟩
  · exact .inr ⟨h, endsIn_of_referent? hkeeps h (by decide)⟩

/-! ## Imports of the module -/

theorem mem_importBlock {carried : List Import} {given : Import}
    (h : given ∈ importBlock carried) :
    given ∈ [futureImport, dataclassImport, runtimeImport] ∨ given ∈ carried ∨
      given = typingImport := by
  rw [importBlock, List.mem_cons, List.mem_append, List.mem_eraseDups, List.mem_cons, List.mem_cons,
    List.mem_singleton] at h
  rcases h with rfl | (rfl | rfl | h) | rfl
  · exact .inl (List.mem_cons_self ..)
  · exact .inl (List.mem_cons_of_mem _ (List.mem_cons_self ..))
  · exact .inl (List.mem_cons_of_mem _ (List.mem_cons_of_mem _ (List.mem_singleton_self _)))
  · exact .inr (.inl h)
  · exact .inr (.inr rfl)

/-- The imports that a module has of itself rename nothing. -/
theorem keepsNames_importBlock {statements : List Stmt}
    (h : KeepsNames exports (importsOf statements) pseudoFields) :
    KeepsNames exports (importBlock (carriedOf statements)) pseudoFields := by
  have hown : ∀ binding ∈ lastBinding :: ownBindings, ∀ name ∈ pseudoFields,
      binding.2.memberName? = some name → binding.1 = name := by decide +kernel
  rw [List.forall_mem_cons] at hown
  intro given hgiven binding hbinding
  rcases mem_importBlock hgiven with hgiven | hgiven | rfl
  · refine hown.2 binding ?_
    rw [← flatMap_bindings_own exports]
    exact List.mem_flatMap.mpr ⟨given, hgiven, hbinding⟩
  · exact h given (mem_carried.mp hgiven).1 binding hbinding
  · rw [bindings_typingImport, List.mem_singleton] at hbinding
    exact hbinding ▸ hown.1

/-! ## Records -/

/-- A record has a clean body, and its fields are what the body annotates. -/
theorem prints_of_record {source : Option Text} {line : Nat} {name : Text} {bases : List Expr}
    {body : List Stmt} {declaration : Declaration}
    (h : classDeclaration source line name bases body = .ok declaration)
    (hrecord : declaration.shape = .record) :
    IsClean body ∧ List.Forall₂ Prints (declared body) declaration.fields := by
  obtain ⟨-, found, hfound, rfl⟩ := classDeclaration_eq_ok_iff.mp h
  cases hfound with
  | record hbases hclean hdeclared hfields => exact ⟨hclean, hfields⟩
  | _ => cases hrecord

theorem IsClean.not_isPseudo {body : List Stmt} (h : IsClean body) {entry : Text × Expr}
    (hentry : entry ∈ declared body) : ¬ IsPseudo entry.2 := by
  obtain ⟨stmt, hstmt, hdeclared⟩ := List.mem_filterMap.mp hentry
  have hplain := h.plain stmt hstmt
  obtain ⟨line, node⟩ := stmt
  cases hplain with
  | field hnot =>
      cases hdeclared
      exact hnot
  | _ => cases hdeclared

/-! ## Classes of a text -/

/-- The annotated names in the body of a class. -/
def classAnnotations : Stmt → List (Text × Expr)
  | (_, .classDef _ _ _ _ body) => declared body
  | _ => []

/-- A statement of a text is a marked class that gives the declaration. -/
structure Gives (characters : CharacterNames) (text source : Text) (statements : List Stmt)
    (stmt : Stmt) (declaration : Declaration) : Prop where
  reads : readStatements characters (some source) text = .ok statements
  mem : stmt ∈ statements
  gives : entryGiven? source stmt = some (.declaration declaration)

variable {characters : CharacterNames} {text source : Text} {statements : List Stmt} {stmt : Stmt}
  {declaration : Declaration}

theorem Gives.of_record (h : Gives characters text source statements stmt declaration)
    (hrecord : declaration.shape = .record) :
    (∀ entry ∈ classAnnotations stmt, ¬ IsPseudo entry.2) ∧
      List.Forall₂ Prints (classAnnotations stmt) declaration.fields := by
  obtain ⟨line, name, decorators, bases, keywords, body, rfl, -, hdeclared⟩ :=
    contribution_eq_declaration_iff.mp (entryGiven?_eq_declaration_iff.mp h.gives)
  obtain ⟨hclean, hprints⟩ := prints_of_record hdeclared hrecord
  exact ⟨fun entry hentry => hclean.not_isPseudo hentry, hprints⟩

/-! ## Classes of the module -/

/-- The names by which pseudo-fields are known. -/
def pseudoNames : List Text :=
  [PseudoField.classVariable, .initializerOnly, .keywordMarker].map PseudoField.ownName

/-- No module holds a pseudo-field under another name. -/
def KeepsOwnNames (surroundings : Surroundings) : Prop :=
  ∀ referent kind, surroundings.pseudoField? referent = some kind →
    referent.memberName? = some kind.ownName

theorem keepsOwnNames_plain : KeepsOwnNames .plain := by
  intro referent kind h
  change [PseudoField.classVariable, .initializerOnly, .keywordMarker].find?
    (fun kind => referent = .member 0 (some kind.home) kind.ownName) = some kind at h
  have hkind := List.find?_some h
  obtain rfl := of_decide_eq_true hkind
  rfl

/-- Without renamings, what is taken for a pseudo-field begins with its name. -/
theorem leadingWords_of_pseudoField? {surroundings : Surroundings} {imports : List Import}
    {names : List Text} {hint : Text} {kind : PseudoField} (hown : KeepsOwnNames surroundings)
    (hkeeps : KeepsNames surroundings.exports imports pseudoNames)
    (h : pseudoField? surroundings imports names hint = some kind) :
    (leadingWords hint).2 = kind.ownName := by
  have hname : kind.ownName ∈ pseudoNames := by cases kind <;> decide
  rw [pseudoField?] at h
  dsimp only at h
  split at h
  · next word hwords =>
      -- the module itself has the word, so some import binds it
      obtain ⟨referent, hreferent, hkind⟩ := Option.bind_eq_some_iff.mp h
      split at hreferent
      · cases hreferent
      · obtain ⟨given, hgiven, hbound⟩ := exists_binds_of_meaning? hreferent
        rw [hwords]
        exact hkeeps given hgiven _ hbound _ hname (hown _ _ hkind)
  · next owner word hwords =>
      obtain ⟨referent, -, h⟩ := Option.bind_eq_some_iff.mp h
      obtain ⟨path, -, h⟩ := Option.bind_eq_some_iff.mp h
      obtain ⟨found, hfound, h⟩ := Option.bind_eq_some_iff.mp h
      split at h
      · cases h
        rw [hwords]
        exact Option.some.inj (hown _ _ hfound)
      · cases h

/-- What the class of a declaration takes for fields in a module with these
imports, behind classes of these names. -/
structure Takes (surroundings : Surroundings) (imports : List Import) (names : List Text)
    (declaration : Declaration) (type : MessageClass) : Prop where
  name : type.name = declaration.name
  /-- Just what is declared, unless an annotation is taken for something else. -/
  stored : type.stored = declaration.fieldNames.map (privateName declaration.name) ↔
    ∀ field ∈ declaration.fields, pseudoField? surroundings imports names field.type = none
  /-- Without renamings, such an annotation begins with the name of what it is
  taken for. -/
  begins : KeepsOwnNames surroundings → KeepsNames surroundings.exports imports pseudoNames →
    ∀ field ∈ declaration.fields, ∀ kind,
      pseudoField? surroundings imports names field.type = some kind →
        (leadingWords field.type).2 = kind.ownName

theorem takes_readClass {surroundings : Surroundings} {imports : List Import} {names : List Text}
    {derivation : Derivation} (hderive : declaration.derive = .ok derivation) :
    Takes surroundings imports names declaration
      (readClass derivation (pseudoField? surroundings imports names)) := by
  obtain ⟨-, -, -, rfl, -⟩ := Declaration.derive_eq_ok_iff.mp hderive
  exact ⟨rfl, stored_readClass_eq_fields_iff,
    fun hown hkeeps _ _ _ htaken => leadingWords_of_pseudoField? hown hkeeps htaken⟩

theorem Gives.mem_entries {file : DeclarationFile}
    (h : Gives characters text source statements stmt declaration)
    (hfile : parseDeclarations characters text source = .ok file) :
    .declaration declaration ∈ file.entries := by
  rw [parseDeclarations_eq, h.reads] at hfile
  rw [entries_of_fileOf hfile]
  exact List.mem_filterMap.mpr ⟨stmt, h.mem, h.gives⟩

/-- A marked class with an annotation that denotes a class variable or a
parameter of the initializer under its own name is no record. Its fields are
what a record annotates, and where the imports of the text do not rename these
two, no annotation of them denotes one of them, neither behind these imports nor
behind those of the module. The class of the module has just these fields,
unless it takes an annotation for something else, and without renamings only
what begins with the name of a pseudo-field is taken for one. -/
theorem pseudo_fields_are_found_by_name (surroundings : Surroundings)
    (h : Gives surroundings.characters text source statements stmt declaration) :
    ((∃ entry ∈ classAnnotations stmt,
        DenotesByName surroundings.exports (importsOf statements) entry.2) →
      declaration.shape ≠ .record) ∧
    (declaration.shape = .record →
      List.Forall₂ Prints (classAnnotations stmt) declaration.fields ∧
      (KeepsNames surroundings.exports (importsOf statements) pseudoFields →
        ∀ imports, imports = importsOf statements ∨ imports = importBlock (carriedOf statements) →
          ∀ entry ∈ classAnnotations stmt,
            denoted? surroundings.exports imports entry.2 ≠ some classVar ∧
            denoted? surroundings.exports imports entry.2 ≠ some initVar) ∧
      ∀ file classes, parseDeclarations surroundings.characters text source = .ok file →
        executed? surroundings file = .ok classes →
          ∃ front type back, classes = front ++ type :: back ∧
            Takes surroundings (moduleImports surroundings.characters file)
              (front.map MessageClass.name) declaration type) := by
  constructor
  · rintro ⟨entry, hentry, hdenotes⟩ hrecord
    exact (h.of_record hrecord).1 entry hentry hdenotes.isPseudo
  · intro hrecord
    obtain ⟨hproper, hprints⟩ := h.of_record hrecord
    refine ⟨hprints, fun hkeeps imports himports => ?_, fun file classes hfile hclasses => ?_⟩
    · have hnames : KeepsNames surroundings.exports imports pseudoFields := by
        rcases himports with rfl | rfl
        · exact hkeeps
        · exact keepsNames_importBlock hkeeps
      exact fun entry hentry => not_or.mp fun hdenoted =>
        hproper entry hentry (denotesByName_of_keeps hnames hdenoted).isPseudo
    · obtain ⟨derivation, front, back, hderive, hread⟩ :=
        exists_readClass_of_executed? hclasses (h.mem_entries hfile)
      exact ⟨front, _, back, hread, takes_readClass hderive⟩

/-! ## Class variables under two names -/

instance (exports : Exports) (imports : List Import) (type : Expr) :
    Decidable (DenotesByName exports imports type) :=
  inferInstanceAs (Decidable (_ ∨ _))

instance (exports : Exports) (imports : List Import) (names : List Text) :
    Decidable (KeepsNames exports imports names) :=
  inferInstanceAs (Decidable (∀ _ ∈ _, _))

/-- What can be computed of a text shows a class that it declares. -/
theorem exists_gives (characters : CharacterNames) (text source : Text) (declaration : Declaration)
    (P : List Import → List (Text × Expr) → Prop)
    [∀ imports entries, Decidable (P imports entries)]
    (h : (readStatements characters (some source) text).toOption.any (fun statements =>
      statements.any fun stmt => entryGiven? source stmt = some (.declaration declaration) ∧
        P (importsOf statements) (classAnnotations stmt)) = true) :
    ∃ statements stmt, Gives characters text source statements stmt declaration ∧
      P (importsOf statements) (classAnnotations stmt) := by
  cases hread : readStatements characters (some source) text with
  | error failure => rw [hread] at h; cases h
  | ok statements =>
      rw [hread] at h
      obtain ⟨stmt, hstmt, hboth⟩ := List.any_eq_true.mp h
      obtain ⟨hgiven, hholds⟩ := of_decide_eq_true hboth
      exact ⟨statements, stmt, ⟨hread, hstmt, hgiven⟩, hholds⟩

/-- A class variable that is looked up in its module. -/
def countedText : Text :=
  "import typing as t\n\n" ++
    "@derive_base_message\nclass CountedMessage:\n    instances: t.ClassVar[int]\n"

def countedDeclaration : Declaration where
  name := "CountedMessage"
  shape := .other
  reason := "'instances' is not an instance field"
  source := some "chat.py"
  line := some 4

def notedText : Text :=
  "from typing import ClassVar\n\n" ++
    "@derive_base_message\nclass NoteMessage:\n    base: BaseMessageFields\n    note: str\n"

def notedDeclaration : Declaration where
  name := "NoteMessage"
  fields := [⟨"base", "BaseMessageFields"⟩, ⟨"note", "str"⟩]
  source := some "chat.py"
  line := some 4

def notedDerivation : Derivation :=
  { declaration := notedDeclaration, category := "Note", role := .derived "Note" }

def notedFile : DeclarationFile :=
  soleFile "chat.py" ["from typing import ClassVar"] notedDeclaration

theorem derive_notedDeclaration : notedDeclaration.derive = .ok notedDerivation := by
  rw [Declaration.derive_eq_ok_iff]
  decide +kernel

theorem hasValidModule_notedFile : hasValidModule namelessCharacters notedFile = true := by
  refine hasValidModule_soleFile [("typing", "ClassVar")] (by decide +kernel) (by decide +kernel)
    (by decide +kernel) (by decide +kernel) (by decide +kernel) ⟨?_, ?_, ?_⟩ <;> decide +kernel

theorem executed?_notedFile :
    executed? .plain notedFile = .ok [.ofDerivation notedDerivation] := by
  have htakes : TakesAllFields .plain notedFile notedDeclaration := by
    unfold TakesAllFields
    decide +kernel
  have hsole : soleClass .plain notedFile notedDerivation = .ofDerivation notedDerivation :=
    soleClass_eq_self htakes
  have hpossible : (MessageClass.ofDerivation notedDerivation).fault? = none := by decide +kernel
  exact (executed?_soleFile derive_notedDeclaration).mpr ⟨hasValidModule_notedFile,
    (congrArg MessageClass.fault? hsole).trans hpossible,
    congrArg (fun type => [type]) hsole.symm⟩

theorem typing_class_variable_is_found :
    (∃ statements stmt,
      Gives namelessCharacters countedText "chat.py" statements stmt countedDeclaration ∧
      (∃ entry ∈ classAnnotations stmt,
        DenotesByName noExports (importsOf statements) entry.2) ∧
      countedDeclaration.shape ≠ .record) ∧
    ∃ statements stmt,
      Gives namelessCharacters notedText "chat.py" statements stmt notedDeclaration ∧
      KeepsNames noExports (importsOf statements) pseudoFields ∧
      (∀ entry ∈ classAnnotations stmt,
        denoted? noExports (importsOf statements) entry.2 ≠ some classVar) ∧
      parseDeclarations namelessCharacters notedText "chat.py" = .ok notedFile ∧
      executed? .plain notedFile = .ok [.ofDerivation notedDerivation] ∧
      ∃ front type back, [.ofDerivation notedDerivation] = front ++ type :: back ∧
        Takes .plain (moduleImports namelessCharacters notedFile) (front.map MessageClass.name)
          notedDeclaration type := by
  constructor
  · obtain ⟨statements, stmt, hgives, hdenotes⟩ := exists_gives namelessCharacters countedText
      "chat.py" countedDeclaration (fun imports entries => ∃ entry ∈ entries,
        DenotesByName noExports imports entry.2) (by decide +kernel)
    exact ⟨statements, stmt, hgives, hdenotes,
      (pseudo_fields_are_found_by_name .plain hgives).1 hdenotes⟩
  · obtain ⟨statements, stmt, hgives, hkeeps⟩ := exists_gives namelessCharacters notedText
      "chat.py" notedDeclaration (fun imports _ => KeepsNames noExports imports pseudoFields)
      (by decide +kernel)
    obtain ⟨-, hproper, htakes⟩ := (pseudo_fields_are_found_by_name .plain hgives).2 rfl
    have hfile : parseDeclarations namelessCharacters notedText "chat.py" = .ok notedFile := by
      decide +kernel
    exact ⟨statements, stmt, hgives, hkeeps,
      fun entry hentry => (hproper hkeeps _ (.inl rfl) entry hentry).1, hfile,
      executed?_notedFile, htakes _ _ hfile executed?_notedFile⟩

/-- A class variable under another name. -/
def sharedText : Text :=
  "from typing import ClassVar as Shared\n\n" ++
    "@derive_base_message\nclass CountedMessage:\n" ++
    "    base: BaseMessageFields\n    instances: Shared[int]\n"

def sharedDeclaration : Declaration where
  name := "CountedMessage"
  fields := [⟨"base", "BaseMessageFields"⟩, ⟨"instances", "Shared[int]"⟩]
  source := some "chat.py"
  line := some 4

/-- The marker behind which fields are given by keyword. -/
def markerText : Text :=
  "from dataclasses import KW_ONLY\n\n" ++
    "@derive_base_message\nclass NoteMessage:\n" ++
    "    base: BaseMessageFields\n    _: KW_ONLY\n    note: str\n"

def markerDeclaration : Declaration where
  name := "NoteMessage"
  fields := [⟨"base", "BaseMessageFields"⟩, ⟨"_", "KW_ONLY"⟩, ⟨"note", "str"⟩]
  source := some "chat.py"
  line := some 4

/-- What can be a class variable or nothing. -/
def unionText : Text :=
  "from typing import ClassVar\n\n" ++
    "@derive_base_message\nclass CountedMessage:\n" ++
    "    base: BaseMessageFields\n    instances: ClassVar | None\n"

def unionDeclaration : Declaration where
  name := "CountedMessage"
  fields := [⟨"base", "BaseMessageFields"⟩, ⟨"instances", "ClassVar | None"⟩]
  source := some "chat.py"
  line := some 4

def unionDerivation : Derivation :=
  { declaration := unionDeclaration, category := "Counted", role := .derived "Counted" }

/-- All of them are taken for records, with the annotated name among their
fields. No annotation of the last one denotes a pseudo-field, and still its
class has only the first of the two fields. -/
theorem renamed_class_variable_is_missed :
    (∃ statements stmt,
      Gives namelessCharacters sharedText "chat.py" statements stmt sharedDeclaration ∧
      sharedDeclaration.shape = .record ∧ ∃ entry ∈ classAnnotations stmt,
        denoted? noExports (importsOf statements) entry.2 = some classVar) ∧
    (∃ statements stmt,
      Gives namelessCharacters markerText "chat.py" statements stmt markerDeclaration ∧
      markerDeclaration.shape = .record ∧ ∃ entry ∈ classAnnotations stmt,
        denoted? noExports (importsOf statements) entry.2 = some keywordOnly) ∧
    ∃ statements stmt,
      Gives namelessCharacters unionText "chat.py" statements stmt unionDeclaration ∧
      unionDeclaration.shape = .record ∧
      (∀ entry ∈ classAnnotations stmt, ∀ referent ∈ [classVar, initVar, keywordOnly],
        denoted? noExports (importsOf statements) entry.2 ≠ some referent) ∧
      unionDeclaration.derive = .ok unionDerivation ∧
      (readClass unionDerivation
        (pseudoField? .plain (importBlock (carriedOf statements)) [])).stored = [baseField] := by
  refine ⟨?_, ?_, ?_⟩
  · obtain ⟨statements, stmt, hgives, hdenotes⟩ := exists_gives namelessCharacters sharedText
      "chat.py" sharedDeclaration (fun imports entries => ∃ entry ∈ entries,
        denoted? noExports imports entry.2 = some classVar) (by decide +kernel)
    exact ⟨statements, stmt, hgives, rfl, hdenotes⟩
  · obtain ⟨statements, stmt, hgives, hdenotes⟩ := exists_gives namelessCharacters markerText
      "chat.py" markerDeclaration (fun imports entries => ∃ entry ∈ entries,
        denoted? noExports imports entry.2 = some keywordOnly) (by decide +kernel)
    exact ⟨statements, stmt, hgives, rfl, hdenotes⟩
  · obtain ⟨statements, stmt, hgives, hnone, hstored⟩ := exists_gives namelessCharacters unionText
      "chat.py" unionDeclaration (fun imports entries =>
        (∀ entry ∈ entries, ∀ referent ∈ [classVar, initVar, keywordOnly],
          denoted? noExports imports entry.2 ≠ some referent) ∧
        (readClass unionDerivation
          (pseudoField? .plain (importBlock (imports.filter (!·.isOwn))) [])).stored = [baseField])
      (by decide +kernel)
    refine ⟨statements, stmt, hgives, rfl, hnone, ?_, hstored⟩
    rw [Declaration.derive_eq_ok_iff]
    decide +kernel

end MessageForge.Source
