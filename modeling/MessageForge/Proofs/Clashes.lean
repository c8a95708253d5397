import MessageForge.Proofs.Creation
import MessageForge.Proofs.Headers
import MessageForge.Proofs.Validity

/-!
# Clashes of class names

Two statements of a declaration file clash if their classes have one name,
which may come from the name of a marked class or from the category of a call
in any of its spellings. Nothing keeps them from it: a module lists both, and
once it is executed the name leads to the class of the later one.
-/

namespace MessageForge

open Vocabulary Source

/-! ## Clashing statements -/

/-- The statement is a marked class of this name. -/
def Marks (stmt : Stmt) (name : Text) : Prop :=
  ∃ line decorators bases keywords body,
    stmt = (line, .classDef name decorators bases keywords body) ∧ isMarked decorators = true

/-- The statement is a call whose one argument means this category. -/
def Requests (stmt : Stmt) (category : Text) : Prop :=
  ∃ line callee argument callLine text,
    stmt = (line, .expression (.call callee [argument] [] callLine)) ∧
      namedAmong [defineCall] callee = true ∧ argument.categoryText? = some text ∧
      category = Category.meant text

/-- The ways in which two statements come to the same class name. -/
inductive Clash (first second : Stmt) : Prop where
  | classes {name : Text} (hfirst : Marks first name) (hsecond : Marks second name)
  | calls {category : Text} (hfirst : Requests first category) (hsecond : Requests second category)
  | callThenClass {category : Text} (hfirst : Requests first category)
      (hsecond : Marks second (Category.typeName category))
  | classThenCall {category : Text} (hfirst : Marks first (Category.typeName category))
      (hsecond : Requests second category)

theorem givenName?_eq_some_iff {stmt : Stmt} {name : Text} :
    givenName? stmt = some name ↔
      Marks stmt name ∨ ∃ category, Requests stmt category ∧ name = Category.typeName category := by
  constructor
  · intro h
    unfold givenName? at h
    split at h
    · next line found decorators bases keywords body =>
        obtain ⟨hmarked, heq⟩ := Option.ite_none_right_eq_some.mp h
        cases heq
        exact .inl ⟨line, decorators, bases, keywords, body, rfl, hmarked⟩
    · next line callee argument callLine =>
        obtain ⟨hcall, hgiven⟩ := Option.ite_none_right_eq_some.mp h
        obtain ⟨text, htext, rfl⟩ := Option.map_eq_some_iff.mp hgiven
        exact .inr ⟨_, ⟨line, callee, argument, callLine, text, rfl, hcall, htext, rfl⟩, rfl⟩
    · cases h
  · rintro (⟨line, decorators, bases, keywords, body, rfl, hmarked⟩ |
      ⟨category, ⟨line, callee, argument, callLine, text, rfl, hcall, htext, rfl⟩, rfl⟩)
    · exact if_pos hmarked
    · rw [givenName?, if_pos hcall, htext]
      rfl

theorem Category.typeName_inj {first second : Text} :
    typeName first = typeName second ↔ first = second :=
  List.append_left_inj _

theorem clash_iff {first second : Stmt} :
    Clash first second ↔ ∃ name, givenName? first = some name ∧ givenName? second = some name := by
  simp only [givenName?_eq_some_iff]
  constructor
  · rintro (⟨hfirst, hsecond⟩ | ⟨hfirst, hsecond⟩ | ⟨hfirst, hsecond⟩ | ⟨hfirst, hsecond⟩)
    · exact ⟨_, .inl hfirst, .inl hsecond⟩
    · exact ⟨_, .inr ⟨_, hfirst, rfl⟩, .inr ⟨_, hsecond, rfl⟩⟩
    · exact ⟨_, .inr ⟨_, hfirst, rfl⟩, .inl hsecond⟩
    · exact ⟨_, .inl hfirst, .inr ⟨_, hsecond, rfl⟩⟩
  · rintro ⟨name, hfirst | ⟨category, hfirst, rfl⟩, hsecond | ⟨other, hsecond, heq⟩⟩
    · exact .classes hfirst hsecond
    · exact .classThenCall (heq ▸ hfirst) hsecond
    · exact .callThenClass hfirst hsecond
    · exact .calls hfirst (Category.typeName_inj.mp heq ▸ hsecond)

/-- Names are distinct if no two statements give the same. -/
theorem nodup_givenNames_iff (statements : List Stmt) :
    (statements.filterMap givenName?).Nodup ↔
      statements.Pairwise fun first second => ¬ Clash first second := by
  rw [List.Nodup, List.pairwise_filterMap]
  -- a clash names both orders, so that it is enough to look at pairs as they stand in the text
  refine iff_of_eq (congrArg (statements.Pairwise ·) (funext₂ fun first second => ?_))
  refine propext ⟨fun h hclash => ?_, fun h name hname other hother heq => ?_⟩
  · obtain ⟨name, hfirst, hsecond⟩ := clash_iff.mp hclash
    exact h name hfirst name hsecond rfl
  · exact h (clash_iff.mpr ⟨name, hname, heq ▸ hother⟩)

/-! ## Listed names -/

theorem Draft.typeNames_generateAll {file : DeclarationFile} {draft : Draft}
    (h : (Draft.ofFile file).generateAll = (draft, none)) :
    draft.typeNames = file.entries.map Entry.className := by
  obtain ⟨classes, hgenerates⟩ := Draft.generates_of_generateAll h
  exact hgenerates.typeNames.trans (map_listed_eq hgenerates.entries)

/-! ## Classes that are left -/

namespace Session

/-- The names that every class statement looks up when it is executed. -/
def decoratorNames : List Text :=
  ["dataclass", "classmethod", "property"]

/-- The module of the file can be executed, which leaves these classes: it is a
valid one, all of its classes can be made, and none hides what the others are
decorated with. -/
structure IsExecuted (file : DeclarationFile) (classes : Classes) : Prop where
  made : classesOf? file = some classes
  usable : ∀ entry ∈ file.entries, entry.IsUsable
  undisturbed : ∀ name ∈ decoratorNames, find? classes name = none

/-- The class of an entry has its name and the names of its fields, as they are
known outside of the class. -/
theorem ofEntry?_eq_some {entry : Entry} {type : MessageClass}
    (h : MessageClass.ofEntry? entry = some type)
    (hcategory : ∀ definition, entry = .definition definition →
      Category.normalize definition.category = .ok definition.category) :
    type.name = entry.className ∧
      type.fields = entry.fieldNames.map (privateName entry.className) := by
  cases entry with
  | declaration declaration =>
      rw [MessageClass.ofEntry?] at h
      cases hderive : declaration.derive with
      | error diagnostic => rw [hderive] at h; cases h
      | ok derivation =>
          rw [hderive] at h
          cases h
          obtain ⟨-, -, -, hsame, -⟩ := Declaration.derive_eq_ok_iff.mp hderive
          rw [MessageClass.ofDerivation, hsame]
          exact ⟨rfl, rfl⟩
  | definition definition =>
      rw [MessageClass.ofEntry?, hcategory definition rfl] at h
      cases h
      refine ⟨rfl, ?_⟩
      rw [Entry.fieldNames, List.map_singleton, privateName_of_not_private _ (by decide)]
      rfl

theorem forall₂_of_mapM_eq_some {α β : Type} {f : α → Option β} : ∀ {items : List α}
    {results : List β}, items.mapM f = some results →
      List.Forall₂ (fun item result => f item = some result) items results
  | [], _, h => by cases h; exact .nil
  | item :: rest, results, h => by
      rw [List.mapM_cons] at h
      obtain ⟨first, hfirst, h⟩ := Option.bind_eq_some_iff.mp h
      obtain ⟨others, hothers, h⟩ := Option.bind_eq_some_iff.mp h
      cases h
      exact .cons hfirst (forall₂_of_mapM_eq_some hothers)

theorem ofEntry?_of_classesOf? {file : DeclarationFile} {classes : Classes}
    (h : classesOf? file = some classes) :
    List.Forall₂ (fun entry type => MessageClass.ofEntry? entry = some type)
      file.entries classes := by
  rw [classesOf?] at h
  obtain ⟨made, hmade, h⟩ := Option.bind_eq_some_iff.mp h
  split at h
  · cases h
    exact forall₂_of_mapM_eq_some hmade
  · cases h

/-- A name leads to the class of the last entry that has it. -/
theorem find?_eq_of_classesOf? {file : DeclarationFile} {classes : Classes}
    (h : classesOf? file = some classes)
    (hdefinitions : ∀ definition, Entry.definition definition ∈ file.entries →
      Category.normalize definition.category = .ok definition.category) (name : Text) :
    find? classes name =
      (file.entries.reverse.find? (·.className = name)).bind MessageClass.ofEntry? := by
  have hnamed : ∀ entry ∈ file.entries.reverse, ∀ type, MessageClass.ofEntry? entry = some type →
      type.name = entry.className := by
    intro entry hentry type htype
    refine (ofEntry?_eq_some htype fun definition heq => ?_).1
    exact hdefinitions definition (heq ▸ List.mem_reverse.mp hentry)
  have hclasses := List.forall₂_reverse_iff.mpr (ofEntry?_of_classesOf? h)
  rw [find?]
  -- the last class comes first, so that the induction is on the reversed lists
  generalize file.entries.reverse = entries at hnamed hclasses
  generalize classes.reverse = made at hclasses
  induction hclasses with
  | nil => rfl
  | @cons entry type entries made hfirst _ ih =>
      have hname := hnamed entry (List.mem_cons_self ..) type hfirst
      rw [List.find?_cons, List.find?_cons, hname]
      split
      · exact hfirst.symm
      · exact ih fun other hother => hnamed other (List.mem_cons_of_mem _ hother)

end Session

/-- The names that a module lists are those that the statements of its text ask
for, in order, and they are distinct just if no two of the statements clash.
When the module is executed, each name leads to the class of the last entry of
this name, so that every entry has its own class if the names are distinct. -/
theorem class_names_are_distinct_iff {characters : CharacterNames} {text source : Text}
    {file : DeclarationFile} {draft : Draft}
    (hfile : parseDeclarations characters text source = .ok file)
    (hdraft : (Draft.ofFile file).generateAll = (draft, none)) :
    ∃ statements, readStatements characters (some source) text = .ok statements ∧
      draft.typeNames = statements.filterMap givenName? ∧
      (draft.typeNames.Nodup ↔ statements.Pairwise fun first second => ¬ Clash first second) ∧
      ∀ classes, Session.IsExecuted file classes →
        (∀ name, Session.find? classes name =
          (file.entries.reverse.find? (·.className = name)).bind Session.MessageClass.ofEntry?) ∧
        (∀ entry ∈ file.entries, ∀ type, Session.MessageClass.ofEntry? entry = some type →
          type.name = entry.className ∧
            type.fields = entry.fieldNames.map (Session.privateName entry.className)) ∧
        (draft.typeNames.Nodup → ∀ entry ∈ file.entries, ∃ type,
          Session.MessageClass.ofEntry? entry = some type ∧
            Session.find? classes entry.className = some type) := by
  obtain ⟨statements, hread, hcontents⟩ := isFileOf_parseDeclarations hfile
  have hlisted := Draft.typeNames_generateAll hdraft
  have hnames : draft.typeNames = statements.filterMap givenName? := hlisted.trans hcontents.names
  refine ⟨statements, hread, hnames, hnames ▸ nodup_givenNames_iff statements,
    fun classes hclasses => ?_⟩
  have hfind := Session.find?_eq_of_classesOf? hclasses.made hcontents.definitions
  refine ⟨hfind, fun entry hentry type htype => ?_, fun hnodup entry hentry => ?_⟩
  · exact Session.ofEntry?_eq_some htype fun definition heq =>
      hcontents.definitions definition (heq ▸ hentry)
  · obtain ⟨type, -, htype⟩ := exists_left_of_forall₂
      (Session.ofEntry?_of_classesOf? hclasses.made).flip entry hentry
    have hdistinct : (file.entries.reverse.map Entry.className).Nodup := by
      rw [List.map_reverse, List.nodup_reverse, ← hlisted]
      exact hnodup
    refine ⟨type, htype, ?_⟩
    rw [hfind, Session.find?_name_of_mem hdistinct (List.mem_reverse.mpr hentry)]
    exact htype

def mixedText : Text :=
  "@derive_base_message\nclass HumanMessage:\n    role: str\n    base: BaseMessageFields\n\n" ++
    "define_message(\"System\")\n"

def mixedFile : DeclarationFile where
  path := "chat.py"
  entries := [
    .declaration { name := "HumanMessage"
                   fields := [⟨"role", "str"⟩, ⟨"base", "BaseMessageFields"⟩]
                   source := some "chat.py", line := some 2 },
    .definition { category := "System", source := some "chat.py", line := some 6 }]

theorem human_and_system_have_own_classes :
    ∃ draft classes, (Draft.ofFile mixedFile).generateAll = (draft, none) ∧
      Session.IsExecuted mixedFile classes ∧ draft.typeNames = ["HumanMessage", "SystemMessage"] ∧
      ∀ entry ∈ mixedFile.entries, ∃ type, Session.MessageClass.ofEntry? entry = some type ∧
        Session.find? classes entry.className = some type := by
  have hfile : parseDeclarations namelessCharacters mixedText "chat.py" = .ok mixedFile := by
    decide +kernel
  have hdraft : (Draft.ofFile mixedFile).generateAll =
      ((Draft.ofFile mixedFile).generateAll.1, none) := Prod.ext rfl (by decide +kernel)
  have hnames : (Draft.ofFile mixedFile).generateAll.1.typeNames =
      ["HumanMessage", "SystemMessage"] := by decide +kernel
  obtain ⟨classes, hmade⟩ := Option.isSome_iff_exists.mp
    (by decide +kernel : (Session.classesOf? mixedFile).isSome = true)
  have hdefinitions : ∀ definition, Entry.definition definition ∈ mixedFile.entries →
      Category.normalize definition.category = .ok definition.category := by
    intro definition hmem
    rcases List.mem_cons.mp hmem with heq | hmem
    · cases heq
    · cases List.mem_singleton.mp hmem
      decide +kernel
  have hsystem : Category.normalize "System" = .ok "System" := by decide +kernel
  have hexecuted : Session.IsExecuted mixedFile classes := by
    refine ⟨hmade, List.forall_mem_cons.mpr ⟨?_, List.forall_mem_singleton.mpr ⟨_, hsystem, ?_⟩⟩,
      fun name hname => ?_⟩
    · exact ⟨by decide +kernel, by decide +kernel, by decide +kernel⟩
    · exact ⟨by decide +kernel, by decide +kernel, by decide +kernel⟩
    · have hnone : ∀ name ∈ Session.decoratorNames,
          mixedFile.entries.reverse.find? (·.className = name) = none := by decide +kernel
      rw [Session.find?_eq_of_classesOf? hmade hdefinitions, hnone name hname]
      rfl
  obtain ⟨statements, -, -, -, hclasses⟩ := class_names_are_distinct_iff hfile hdraft
  exact ⟨_, classes, hdraft, hexecuted, hnames,
    (hclasses classes hexecuted).2.2 (hnames ▸ by decide +kernel)⟩

/-- A class and a call for the category in its name, which are both accepted. -/
def clashingText : Text :=
  "@derive_base_message\nclass SystemMessage:\n    note: str\n    base: BaseMessageFields\n\n" ++
    "define_message(\"MessageType.System\")\n"

def clashingFile : DeclarationFile where
  path := "chat.py"
  entries := [
    .declaration { name := "SystemMessage"
                   fields := [⟨"note", "str"⟩, ⟨"base", "BaseMessageFields"⟩]
                   source := some "chat.py", line := some 2 },
    .definition { category := "System", source := some "chat.py", line := some 6 }]

theorem clashing_class_is_lost :
    parseDeclarations namelessCharacters clashingText "chat.py" = .ok clashingFile ∧
    (Draft.ofFile clashingFile).generateAll.2 = none ∧
    ¬ (Draft.ofFile clashingFile).generateAll.1.typeNames.Nodup ∧
    ((Session.classesOf? clashingFile).bind fun classes =>
      (Session.find? classes "SystemMessage").map Session.MessageClass.fields) =
        some [baseField] :=
  ⟨by decide +kernel, by decide +kernel, by decide +kernel, by decide +kernel⟩

end MessageForge
