import Mathlib.Data.List.Forall2
import MessageForge.Proofs.Generation
import MessageForge.Proofs.ModuleRows

/-!
# Validity of generated modules

A module that is generated without a refusal is read as exactly the classes
that it lists, unless a name stands in the way: a keyword can name neither a
class nor a category, and a class has the normal form of the name under which
it is written. What is carried over into a module, its import lines and the
types of its fields, is taken to be readable by itself.
-/

namespace MessageForge

open Vocabulary Source

/-! ## Readable files -/

/-- A type is read by itself, as one expression, whatever names characters have. -/
def IsReadableType (type : Text) : Prop :=
  ∃ kinds, SpellsType type kinds

/-- A declared name is an identifier, and the fields have names and types that
can be read. -/
structure Declaration.IsReadable (declaration : Declaration) : Prop where
  name : Text.isIdentifier declaration.name = true
  fieldNames : ∀ field ∈ declaration.fields, isNameWord field.name = true
  fieldTypes : ∀ field ∈ declaration.fields, IsReadableType field.type

/-- What a file gives for its module can be read: its name leaves the docstring
one literal, and its import lines and declarations are readable by themselves. -/
structure DeclarationFile.IsReadable (file : DeclarationFile) : Prop where
  unquoted : IsUnquoted (Path.name file.path)
  unbroken : '\r' ∉ Path.name file.path
  imports : ∀ line ∈ file.imports, ∃ kinds, ReadsLine line kinds
  declarations : ∀ declaration ∈ file.declarations, declaration.IsReadable

theorem isPiece_word {word : Text} (h : isWord word = true) : IsPiece word [wordKind word] where
  unbroken := not_mem_of_isWord h (by decide)
  spells indents openers rest more _ hends hrest := by
    refine hrest.word h ?_
    cases rest with
    | nil => rfl
    | cons c rest =>
        have hc : c = '\n' ∨ c = ',' ∨ c = ')' := by
          simpa [endsPiece, or_assoc] using hends
        rcases hc with rfl | rfl | rfl
        all_goals rfl

/-- A type that is a single name. -/
theorem isReadableType_word {word : Text} (h : isNameWord word = true) : IsReadableType word := by
  refine ⟨_, isPiece_word (isWord_of_isNameWord h), ?_⟩
  rw [wordKind_of_isNameWord h]
  exact (takesExpression_name _).mono (Nat.le_add_left ..)

/-! ## Rows of a written class -/

namespace WrittenClass

/-- All parts of the class can be read, though its name and its category may be
keywords. -/
structure IsReadable (spellType : Text → List TokenKind) (written : WrittenClass) : Prop where
  name : isWord written.name = true
  category : isWord written.category = true
  nonempty : written.fields ≠ []
  fields : ∀ field ∈ written.fields, ReadsField spellType field

def firstField (written : WrittenClass) : Field :=
  written.fields.headD ⟨baseField, baseRecord⟩

def rows (spellType : Text → List TokenKind) (written : WrittenClass) : ClassRows :=
  messageRows spellType written.derivation written.firstField written.fields.tail

variable {spellType : Text → List TokenKind} {written : WrittenClass}

theorem fields_eq (h : written.fields ≠ []) :
    written.fields = written.firstField :: written.fields.tail := by
  rw [firstField]
  cases hfields : written.fields with
  | nil => exact absurd hfields h
  | cons first rest => rfl

namespace IsReadable

variable (h : written.IsReadable spellType)
include h

theorem reads : ∀ field ∈ written.firstField :: written.fields.tail, ReadsField spellType field :=
  fields_eq h.nonempty ▸ h.fields

theorem lines_rows : (written.rows spellType).lines = written.lines :=
  lines_messageRows (fields_eq h.nonempty) h.category h.reads

theorem isWritten_rows : (written.rows spellType).IsWritten :=
  isWritten_messageRows h.category h.reads h.name

end IsReadable

/-- Whether neither the class nor its category is named by a keyword. -/
def isNamed (written : WrittenClass) : Bool :=
  (Keyword.ofText? written.name).isNone && (Keyword.ofText? written.category).isNone

theorem IsReadable.takesChunk {need : Nat} (h : written.IsReadable spellType)
    (hnamed : written.isNamed = true) (hneed : Suffices need written.fields) :
    TakesStatement (need + 2) 3 (ModuleRows.classChunk (written.rows spellType)).names
      (ModuleRows.classChunk (written.rows spellType)).kinds := by
  rw [isNamed, Bool.and_eq_true] at hnamed
  rw [fields_eq h.nonempty] at hneed
  exact takesStatement_messageRows hneed h.reads (Bool.and_eq_true_iff.mpr ⟨h.name, hnamed.1⟩)
    (Bool.and_eq_true_iff.mpr ⟨h.category, hnamed.2⟩)

theorem wordKind_of_ofText? {word : Text} {keyword : Keyword}
    (h : Keyword.ofText? word = some keyword) : wordKind word = .keyword keyword := by
  rw [wordKind, h]

/-- A class is refused for the keyword in its name or in its category. -/
theorem IsReadable.refuses {need depth nesting : Nat} (h : written.IsReadable spellType)
    (hnamed : written.isNamed = false) (hneed : Suffices need written.fields)
    (hdepth : need + 2 ≤ depth) (hnesting : 2 ≤ nesting) (tail : List TokenKind) :
    Refuses (statementAt (partsAt depth) (nesting + 1)) ((written.rows spellType).kinds ++ tail) := by
  rw [fields_eq h.nonempty] at hneed
  cases hname : Keyword.ofText? written.name with
  | some keyword =>
      exact refuses_messageRows_name (wordKind_of_ofText? hname) (by omega)
  | none =>
      have hword : isNameWord written.name = true := by
        rw [isNameWord, h.name, hname]
        rfl
      cases hcategory : Keyword.ofText? written.category with
      | some keyword =>
          exact refuses_messageRows_category hneed h.reads hword (wordKind_of_ofText? hcategory)
            hdepth hnesting
      | none =>
          rw [isNamed, hname, hcategory] at hnamed
          cases hnamed

end WrittenClass

/-! ## Readable classes -/

theorem Text.isIdentifier_of_append {front back : Text} (hne : front ≠ [])
    (h : isIdentifier (front ++ back) = true) : isIdentifier front = true := by
  cases front with
  | nil => exact absurd rfl hne
  | cons c front =>
      rw [List.cons_append, isIdentifier, List.all_append, Bool.and_eq_true, Bool.and_eq_true] at h
      rw [isIdentifier, h.1, h.2.1]
      rfl

theorem Text.isIdentifier_append {front back : Text} (h : isIdentifier front = true)
    (hback : back.all isIdentifierContinue = true) : isIdentifier (front ++ back) = true := by
  cases front with
  | nil => exact absurd h Bool.false_ne_true
  | cons c front =>
      rw [isIdentifier, Bool.and_eq_true] at h
      rw [List.cons_append, isIdentifier, List.all_append, h.1, h.2, hback]
      rfl

theorem isWord_typeName {category : Text} (h : Text.isIdentifier category = true) :
    isWord (Category.typeName category) = true :=
  isWord_of_isIdentifier (Text.isIdentifier_append h (by decide +kernel))

theorem isWord_ofTypeName {typeName : Text} (h : Text.isIdentifier typeName = true)
    (hne : Category.ofTypeName typeName ≠ []) : isWord (Category.ofTypeName typeName) = true := by
  refine isWord_of_isIdentifier ?_
  rcases Text.dropSuffix_cases messageSuffix typeName with heq | heq
  · exact (heq ▸ h : Text.isIdentifier (Text.dropSuffix messageSuffix typeName) = true)
  · have happend : Text.isIdentifier (Category.ofTypeName typeName ++ messageSuffix) = true :=
      heq ▸ h
    exact Text.isIdentifier_of_append hne happend

section Entries

variable {spellType : Text → List TokenKind}
  (hspell : ∀ type, IsReadableType type → SpellsType type (spellType type))
include hspell

theorem isReadable_derived {declaration : Declaration} {derivation : Derivation}
    (hderive : declaration.derive = .ok derivation) (h : declaration.IsReadable) (listed : Text) :
    WrittenClass.IsReadable spellType ⟨derivation, listed⟩ := by
  obtain ⟨-, hfields, hcategory, hsame, -⟩ := Declaration.derive_eq_ok_iff.mp hderive
  obtain ⟨hcategory, hne⟩ := checkCategory_eq_ok_iff.mp hcategory
  have hbase := (checkFields_eq_ok_iff.mp hfields).1
  refine ⟨?_, ?_, ?_, ?_⟩
  · show isWord derivation.declaration.name = true
    rw [hsame]
    exact isWord_of_isIdentifier h.name
  · show isWord derivation.category = true
    rw [← hcategory]
    exact isWord_ofTypeName h.name (hcategory ▸ hne)
  · show derivation.declaration.fields ≠ []
    rw [hsame]
    intro hnil
    rw [hnil] at hbase
    cases hbase
  · show ∀ field ∈ derivation.declaration.fields, ReadsField spellType field
    rw [hsame]
    exact fun field hfield => ⟨h.fieldNames field hfield, hspell _ (h.fieldTypes field hfield)⟩

theorem isReadable_bare {category : Text} (h : Text.isIdentifier category = true) (listed : Text) :
    WrittenClass.IsReadable spellType ⟨bareDerivation category, listed⟩ where
  name := isWord_typeName h
  category := isWord_of_isIdentifier h
  nonempty := List.cons_ne_nil _ _
  fields := List.forall_mem_singleton.mpr
    ⟨(by decide +kernel : isNameWord baseField = true),
      hspell _ (isReadableType_word (by decide +kernel : isNameWord baseRecord = true))⟩

theorem Entry.IsWrittenAs.isReadable {entry : Entry} {written : WrittenClass}
    (h : entry.IsWrittenAs written)
    (hentry : ∀ declaration, entry = .declaration declaration → declaration.IsReadable) :
    written.IsReadable spellType := by
  cases h with
  | declaration hderive => exact isReadable_derived hspell hderive (hentry _ rfl) _
  | definition hnormal =>
      exact isReadable_bare hspell (Category.isIdentifier_of_normalize hnormal) _

end Entries

/-! ## Rows of a draft -/

def docstringFront : Text := "This is an automatically generated module for \x60"

def docstringBack : Text := "\x60."

/-- What stands between the quotes of the docstring. -/
def docstringBody (fileName : Text) : Text :=
  docstringFront ++ (fileName ++ docstringBack)

theorem docstring_eq (draft : Draft) :
    draft.docstring = threeQuotes ++ (docstringBody draft.fileName ++ threeQuotes) := by
  have hfront : ("\"\"\"This is an automatically generated module for \x60" : Text) =
      threeQuotes ++ docstringFront := by decide +kernel
  have hback : ("\x60.\"\"\"" : Text) = docstringBack ++ threeQuotes := by decide +kernel
  calc draft.docstring
    _ = threeQuotes ++ docstringFront ++ draft.fileName ++ (docstringBack ++ threeQuotes) :=
        congrArg₂ (fun front back => front ++ draft.fileName ++ back) hfront hback
    _ = threeQuotes ++ (docstringBody draft.fileName ++ threeQuotes) := by
        simp only [docstringBody, List.append_assoc]

theorem isUnquoted_docstringBody {fileName : Text} (h : IsUnquoted fileName) :
    IsUnquoted (docstringBody fileName) := by
  have hplain : (docstringFront ++ docstringBack).all (fun c => c ≠ '"' && c ≠ '\\') = true := by
    decide +kernel
  have hboth : IsUnquoted (docstringFront ++ docstringBack) := fun c hc => by
    simpa using List.all_eq_true.mp hplain c hc
  rw [IsUnquoted, List.forall_mem_append] at hboth
  exact IsUnquoted.append hboth.1 (h.append hboth.2)

theorem unbroken_docstringBody {fileName : Text} (h : '\r' ∉ fileName) :
    '\r' ∉ docstringBody fileName := by
  have hfront : '\r' ∉ docstringFront := by decide +kernel
  have hback : '\r' ∉ docstringBack := by decide +kernel
  simp only [docstringBody, List.mem_append, not_or]
  exact ⟨hfront, h, hback⟩

/-- The import lines of a generator in rows. -/
def ownImportRows : List Row :=
  [importRow "__future__" "annotations", importRow "dataclasses" "dataclass", runtimeRow,
    importRow "typing" "Self"]

theorem text_ownImportRows : ownImportRows.map Row.text = Draft.ownImportLines := by
  have hself : sortedSet (["Self"] : List Text) = ["Self"] := by
    rw [sortedSet]
    exact List.mergeSort_singleton _
  rw [Draft.ownImportLines, hself]
  decide +kernel

theorem readable_ownImportLines :
    ∀ line ∈ Draft.ownImportLines, ∃ kinds, ReadsLine line kinds := by
  rw [← text_ownImportRows]
  intro line hline
  obtain ⟨row, hrow, rfl⟩ := List.mem_map.mp hline
  refine ⟨row.kinds, ?_⟩
  simp only [ownImportRows, List.mem_cons, List.not_mem_nil, or_false] at hrow
  rcases hrow with rfl | rfl | rfl | rfl
  · exact readsLine_importRow (by decide +kernel) (by decide +kernel)
  · exact readsLine_importRow (by decide +kernel) (by decide +kernel)
  · exact readsLine_runtimeRow
  · exact readsLine_importRow (by decide +kernel) (by decide +kernel)

/-- The rows of a draft with these classes. -/
def moduleRows (spellType spellLine : Text → List TokenKind) (draft : Draft)
    (classes : List WrittenClass) : ModuleRows where
  body := docstringBody draft.fileName
  imports := draft.importLines.map fun line => (line, spellLine line)
  classes := classes.map (WrittenClass.rows spellType)

section Generated

variable {file : DeclarationFile} {draft : Draft} {classes : List WrittenClass}
  {spellType spellLine : Text → List TokenKind}

theorem text_moduleRows (hblocks : draft.blocks = classes.map WrittenClass.lines)
    (hclasses : ∀ written ∈ classes, written.IsReadable spellType) :
    (moduleRows spellType spellLine draft classes).text = draft.render := by
  have himports : (draft.importLines.map fun line => (line, spellLine line)).map Prod.fst =
      draft.importLines := by
    rw [List.map_map]
    exact List.map_id draft.importLines
  have hblock : (classes.map (WrittenClass.rows spellType)).flatMap
      (fun shape => [] :: [] :: shape.lines) = draft.blocks.flatMap fun block => [] :: [] :: block := by
    rw [hblocks, List.flatMap_map, List.flatMap_map]
    exact List.flatMap_congr fun written hwritten => by rw [(hclasses written hwritten).lines_rows]
  have hlines : (moduleRows spellType spellLine draft classes).lines = draft.lines := by
    rw [ModuleRows.lines, Draft.lines, docstring_eq]
    exact congrArg₂ (fun imports blocks => _ :: [] :: (imports ++ blocks)) himports hblock
  rw [ModuleRows.text, Draft.render, hlines]
  rfl

theorem isWritten_moduleRows (hfile : file.IsReadable) (h : draft.Generates file classes)
    (hclasses : ∀ written ∈ classes, written.IsReadable spellType)
    (hspell : ∀ line, (∃ kinds, ReadsLine line kinds) → ReadsLine line (spellLine line)) :
    (moduleRows spellType spellLine draft classes).IsWritten where
  unquoted := isUnquoted_docstringBody (h.fileName ▸ hfile.unquoted)
  unbroken := unbroken_docstringBody (h.fileName ▸ hfile.unbroken)
  imports := List.forall_mem_map.mpr fun line hline => hspell line <|
    (h.imports line hline).elim (hfile.imports line) (readable_ownImportLines line)
  classes := List.forall_mem_map.mpr fun written hwritten => (hclasses written hwritten).isWritten_rows

/-- The text of a module is long enough for all that it holds. -/
theorem suffices_moduleRows (spellLine : Text → List TokenKind) (draft : Draft)
    {written : WrittenClass} (hmem : written ∈ classes)
    (hwritten : written.IsReadable spellType) :
    Suffices ((moduleRows spellType spellLine draft classes).text.length - 1) written.fields := by
  have hline : ∀ line ∈ (written.rows spellType).lines,
      line.length < (moduleRows spellType spellLine draft classes).text.length := by
    intro line hline
    refine ModuleRows.length_lt_of_mem_lines (List.mem_cons_of_mem _ (List.mem_cons_of_mem _
      (List.mem_append_right _ (List.mem_flatMap.mpr ⟨_, List.mem_map_of_mem hmem, ?_⟩))))
    exact List.mem_cons_of_mem _ (List.mem_cons_of_mem _ hline)
  have hlength : (decoratorRow "dataclass").text.length = 10 := by decide +kernel
  have hdecorator := hline (decoratorRow "dataclass").text
    (List.mem_append_left _ (List.mem_cons_self ..))
  refine ⟨by omega, fun field hfield => ?_⟩
  rw [WrittenClass.fields_eq hwritten.nonempty] at hfield
  have hmap : (written.rows spellType).first :: (written.rows spellType).fields =
      (written.firstField :: written.fields.tail).map (fieldRow spellType) := rfl
  have hrow := hline (spaces 4 ++ (fieldRow spellType field).row.text)
    (List.mem_append_left _ (List.mem_cons_of_mem _ (List.mem_cons_of_mem _
      (hmap ▸ List.mem_map_of_mem (List.mem_map_of_mem hfield)))))
  have htype : field.type.length + 4 ≤ (spaces 4 ++ (fieldRow spellType field).row.text).length := by
    simp [spaces, fieldRow, TypedRow.row, Row.text, Glyph.text, Mark.text]
    omega
  omega

end Generated

/-! ## Valid modules -/

/-- The names with which a class is read under the name that is listed for it. -/
structure NamesClass (typeName category listed : Text) : Prop where
  class_free : Keyword.ofText? typeName = none
  category_free : Keyword.ofText? category = none
  normal : Text.normalForm typeName = listed

/-- Nothing in the names of the entry stands in the way of its class. -/
def Entry.IsUsable : Entry → Prop
  | .declaration d => NamesClass d.name (Category.ofTypeName d.name) d.name
  | .definition d => ∃ category, Category.normalize d.category = .ok category ∧
      NamesClass (Category.typeName category) category (Category.typeName d.category)

theorem Entry.IsWrittenAs.isUsable_iff {entry : Entry} {written : WrittenClass}
    (h : entry.IsWrittenAs written) :
    entry.IsUsable ↔ written.isNamed = true ∧ Text.normalForm written.name = written.listed := by
  have hnames : NamesClass written.name written.category written.listed ↔
      written.isNamed = true ∧ Text.normalForm written.name = written.listed := by
    rw [WrittenClass.isNamed, Bool.and_eq_true, Option.isNone_iff_eq_none, Option.isNone_iff_eq_none]
    exact ⟨fun h => ⟨⟨h.class_free, h.category_free⟩, h.normal⟩, fun h => ⟨h.1.1, h.1.2, h.2⟩⟩
  rw [← hnames]
  cases h with
  | declaration hderive =>
      obtain ⟨-, -, hcategory, hsame, -⟩ := Declaration.derive_eq_ok_iff.mp hderive
      rw [Entry.IsUsable, WrittenClass.name, WrittenClass.category, hsame,
        (checkCategory_eq_ok_iff.mp hcategory).1]
  | definition hnormal =>
      constructor
      · rintro ⟨category, hcategory, hnames⟩
        cases hnormal.symm.trans hcategory
        exact hnames
      · exact fun hnames => ⟨_, hnormal, hnames⟩

/-- A choice of tokens for every text that has some. -/
theorem exists_spelling (good : Text → List TokenKind → Prop) :
    ∃ spell : Text → List TokenKind, ∀ text, (∃ kinds, good text kinds) → good text (spell text) :=
  ⟨fun text => Classical.epsilon (good text), fun _ => Classical.epsilon_spec⟩

section Modules

variable {file : DeclarationFile} {draft : Draft} {classes : List WrittenClass}
  {spellType spellLine : Text → List TokenKind}

theorem Draft.Generates.areReadable (h : draft.Generates file classes) (hfile : file.IsReadable)
    (hspell : ∀ type, IsReadableType type → SpellsType type (spellType type)) :
    ∀ written ∈ classes, written.IsReadable spellType := by
  intro written hwritten
  obtain ⟨entry, hentry, hwrittenAs⟩ := exists_left_of_forall₂ h.entries written hwritten
  refine hwrittenAs.isReadable hspell fun declaration heq => ?_
  exact hfile.declarations declaration (List.mem_filterMap.mpr ⟨entry, hentry, heq ▸ rfl⟩)

theorem Draft.Generates.areUsable_iff (h : draft.Generates file classes) :
    (∀ entry ∈ file.entries, entry.IsUsable) ↔ ∀ written ∈ classes,
      written.isNamed = true ∧ Text.normalForm written.name = written.listed := by
  constructor
  · intro husable written hwritten
    obtain ⟨entry, hentry, hwrittenAs⟩ := exists_left_of_forall₂ h.entries written hwritten
    exact hwrittenAs.isUsable_iff.mp (husable entry hentry)
  · intro hclasses entry hentry
    have hflip : List.Forall₂ (flip Entry.IsWrittenAs) classes file.entries := h.entries.flip
    obtain ⟨written, hwritten, hwrittenAs⟩ := exists_left_of_forall₂ hflip entry hentry
    exact (Entry.IsWrittenAs.isUsable_iff hwrittenAs).mpr (hclasses written hwritten)

/-- Classes that no keyword names are all read. -/
theorem takesChunks_classes (spellLine : Text → List TokenKind) (draft : Draft)
    (hclasses : ∀ written ∈ classes, written.IsReadable spellType)
    {front : List WrittenClass} (hfront : ∀ written ∈ front, written ∈ classes)
    (hnamed : ∀ written ∈ front, written.isNamed = true) :
    TakesChunks ((moduleRows spellType spellLine draft classes).text.length + 1) 3
      ((front.map (WrittenClass.rows spellType)).map ModuleRows.classChunk) := by
  rw [List.map_map]
  refine List.forall_mem_map.mpr fun written hwritten => ?_
  have hmem := hfront written hwritten
  have hsuffices := suffices_moduleRows spellLine draft hmem
    (hclasses written hmem)
  have hmembers := hsuffices.members
  exact ((hclasses written hmem).takesChunk (hnamed written hwritten) hsuffices).mono
    (by omega) (Nat.le_refl 3)

end Modules

/-- A module that is generated without a refusal from a readable file is read as
exactly the classes that it lists, if and only if nothing in the names of its
entries stands in the way. -/
theorem module_has_listed_classes_iff {characters : CharacterNames} {file : DeclarationFile}
    {draft : Draft} (hfile : file.IsReadable) (hdraft : (Draft.ofFile file).generateAll = (draft, none)) :
    (∃ statements, parseModule characters draft.render = .ok statements ∧
      classNames statements = draft.typeNames) ↔ ∀ entry ∈ file.entries, entry.IsUsable := by
  obtain ⟨spellType, htype⟩ := exists_spelling SpellsType
  obtain ⟨spellLine, hline⟩ := exists_spelling ReadsLine
  obtain ⟨classes, hgenerates⟩ := Draft.generates_of_generateAll hdraft
  have hclasses := hgenerates.areReadable hfile htype
  have hrows := isWritten_moduleRows hfile hgenerates hclasses hline
  have htext : (moduleRows spellType spellLine draft classes).text = draft.render :=
    text_moduleRows hgenerates.blocks hclasses
  rw [hgenerates.areUsable_iff, ← htext]
  cases hkeyword : classes.find? (!·.isNamed) with
  | none =>
      have hnamed : ∀ written ∈ classes, written.isNamed = true := fun written hwritten => by
        simpa using List.find?_eq_none.mp hkeyword written hwritten
      obtain ⟨statements, hparse, hnames⟩ :=
        hrows.parseModule (takesChunks_classes spellLine draft hclasses (fun _ => id) hnamed)
      have hnormal : classNames statements =
          classes.map fun written => Text.normalForm written.name :=
        hnames.trans (List.map_map ..)
      constructor
      · rintro ⟨others, hothers, hlisted⟩
        cases hparse.symm.trans hothers
        have hmap := hnormal.symm.trans (hlisted.trans hgenerates.typeNames)
        exact fun written hwritten =>
          ⟨hnamed written hwritten, List.map_inj_left.mp hmap written hwritten⟩
      · intro husable
        refine ⟨statements, hparse, ?_⟩
        rw [hnormal, hgenerates.typeNames]
        exact List.map_congr_left fun written hwritten => (husable written hwritten).2
  | some written =>
      obtain ⟨hkept, front, back, rfl, hfront⟩ := List.find?_eq_some_iff_append.mp hkeyword
      have hnamed : written.isNamed = false := by simpa using hkept
      have hmem : written ∈ front ++ written :: back :=
        List.mem_append_right _ (List.mem_cons_self ..)
      have htakes := takesChunks_classes spellLine draft hclasses
        (fun _ => List.mem_append_left _) fun other hother => by simpa using hfront other hother
      have hsuffices := suffices_moduleRows spellLine draft hmem
        (hclasses written hmem)
      have hmembers := hsuffices.members
      obtain ⟨line, hrefused⟩ := hrows.parseModule_refused List.map_append htakes
        fun nesting tail hnesting =>
          (hclasses written hmem).refuses hnamed hsuffices (by omega) hnesting tail
      constructor
      · rintro ⟨statements, hparse, -⟩
        rw [hrefused] at hparse
        cases hparse
      · intro husable
        rw [(husable written hmem).1] at hnamed
        cases hnamed

/-- A file with a declared note and a definition of the category. -/
def noteFile (category : Text) : DeclarationFile where
  path := "src/notes.py"
  imports := ["from decimal import Decimal"]
  entries := [.declaration { name := "NoteMessage"
                             fields := [⟨"base", "BaseMessageFields"⟩, ⟨"price", "Decimal"⟩] },
    .definition { category }]

theorem isReadable_noteFile (category : Text) : (noteFile category).IsReadable where
  unquoted c hc := by
    have hplain : (Path.name "src/notes.py").all (fun c => c ≠ '"' && c ≠ '\\') = true := by
      decide +kernel
    simpa using List.all_eq_true.mp hplain c hc
  unbroken := (by decide +kernel : '\r' ∉ Path.name "src/notes.py")
  imports := by
    have hmodule : isNameWord "decimal" = true := by decide +kernel
    have hname : isNameWord "Decimal" = true := by decide +kernel
    exact List.forall_mem_singleton.mpr ⟨_, readsLine_importRow hmodule hname⟩
  declarations := List.forall_mem_singleton.mpr
    { name := by decide +kernel
      fieldNames := List.forall_mem_cons.mpr
        ⟨by decide +kernel, List.forall_mem_singleton.mpr (by decide +kernel)⟩
      fieldTypes := List.forall_mem_cons.mpr ⟨isReadableType_word (by decide +kernel),
        List.forall_mem_singleton.mpr (isReadableType_word (by decide +kernel))⟩ }

/-- The module of the file is a module for the category of humans, while the
name of the absent value, which is an identifier as well, leads to none. -/
theorem notes_are_valid_without_keyword :
    (∃ statements, parseModule namelessCharacters
        (Draft.ofFile (noteFile "Human")).generateAll.1.render = .ok statements ∧
      classNames statements = ["NoteMessage", "HumanMessage"]) ∧
    ¬ ∃ statements, parseModule namelessCharacters
        (Draft.ofFile (noteFile "None")).generateAll.1.render = .ok statements ∧
        classNames statements = (Draft.ofFile (noteFile "None")).generateAll.1.typeNames := by
  have hhuman : (Draft.ofFile (noteFile "Human")).generateAll =
      ((Draft.ofFile (noteFile "Human")).generateAll.1, none) := Prod.ext rfl (by decide +kernel)
  have hnone : (Draft.ofFile (noteFile "None")).generateAll =
      ((Draft.ofFile (noteFile "None")).generateAll.1, none) := Prod.ext rfl (by decide +kernel)
  have hnames : (Draft.ofFile (noteFile "Human")).generateAll.1.typeNames =
      ["NoteMessage", "HumanMessage"] := by decide +kernel
  constructor
  · rw [← hnames]
    refine (module_has_listed_classes_iff (isReadable_noteFile "Human") hhuman).mpr ?_
    have hnormal : Category.normalize "Human" = .ok "Human" := by decide +kernel
    refine List.forall_mem_cons.mpr ⟨?_, List.forall_mem_singleton.mpr ⟨_, hnormal, ?_⟩⟩
    · exact ⟨by decide +kernel, by decide +kernel, by decide +kernel⟩
    · exact ⟨by decide +kernel, by decide +kernel, by decide +kernel⟩
  · rw [module_has_listed_classes_iff (isReadable_noteFile "None") hnone]
    intro husable
    obtain ⟨category, hcategory, hnames⟩ :=
      husable (.definition { category := "None" }) (List.mem_cons_of_mem _ (List.mem_cons_self ..))
    have hnormal : Category.normalize "None" = .ok "None" := by decide +kernel
    cases hnormal.symm.trans hcategory
    exact absurd hnames.category_free (by decide +kernel)

end MessageForge
