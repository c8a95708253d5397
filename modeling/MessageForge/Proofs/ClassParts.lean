import MessageForge.Proofs.ClassRows
import MessageForge.Proofs.Independence

/-!
# Parts of generated classes

Four rows of a generated class follow its fields: the dataclass fields themselves,
the parameters of both constructors, the names that the first constructor passes
on and the initializers of the second. Everything else in the class is settled
by its name, its category and its role. A field behind all others therefore adds
one item at the end of each row, and calls that pass fields by position stay
as they are.

Main statement: `exists_extended_class`.
-/

namespace MessageForge

open Vocabulary

/-- The rows of a class that follow its fields, with what stands around them. -/
structure ClassParts where
  name : Text
  category : Text
  fields : List Text
  parameters : List Text
  passed : List Text
  initializers : List Text
  others : List Text

namespace ClassParts

/-- The constructor that passes everything on. -/
def short (parts : ClassParts) : List Text :=
  ["@classmethod",
    "def new(" ++ Text.join ", " (shortParameters ++ parts.parameters) ++ ") -> Self:",
    "    return cls.new_with_example(" ++ Text.join ", " (passedArguments ++ parts.passed) ++ ")"]

/-- The constructor that initializes a message, with one initializer a line. -/
def full (parts : ClassParts) : List Text :=
  ("@classmethod" : Text) ::
    ("def new_with_example(" ++ Text.join ", " (fullParameters ++ parts.parameters) ++ ") -> Self:") ::
    Code.indent 1 (("return cls(" : Text) ::
      Code.indent 1 (baseLines parts.category ++ parts.initializers.map Code.withComma) ++ [[')']])

/-- The lines of the class: its fields, both constructors and its other members. -/
def lines (parts : ClassParts) : List Text :=
  Code.decorator "dataclass" [] :: Code.classHeader parts.name [] ::
    Code.indent 1 (parts.fields ++ [] :: parts.short ++ [] :: parts.full ++ parts.others)

def ofDerivation (derivation : Derivation) : ClassParts where
  name := derivation.declaration.name
  category := derivation.category
  fields := parameterTexts derivation.declaration.fields
  parameters := parameterTexts (extraFields derivation.declaration.fields)
  passed := (extraFields derivation.declaration.fields).map Field.name
  initializers := (extraFields derivation.declaration.fields).map initializerText
  others := ((mutators ++ derivation.interface).map Method.lines).flatMap ([] :: ·)

/-- One more item at the end of each row. -/
def extended (parts : ClassParts) (field : Field) : ClassParts :=
  { parts with
    fields := parts.fields ++ [field.name ++ ": " ++ field.type]
    parameters := parts.parameters ++ [field.name ++ ": " ++ field.type]
    passed := parts.passed ++ [field.name]
    initializers := parts.initializers ++ [initializerText field] }

end ClassParts

/-! ## Classes by their parts -/

/-- The names in a declaration can stand in a line. -/
structure Declaration.IsPlain (declaration : Declaration) : Prop where
  name : '\n' ∉ declaration.name
  fields : ∀ field ∈ declaration.fields, field.name ≠ [] ∧ '\n' ∉ field.name

/-- The declaration with a field more, at the end. -/
def Declaration.extended (declaration : Declaration) (field : Field) : Declaration :=
  { declaration with fields := declaration.fields ++ [field] }

variable {declaration : Declaration} {derivation derivation' : Derivation} {field : Field}

theorem newline_not_mem_category (hderive : declaration.derive = .ok derivation)
    (hname : '\n' ∉ declaration.name) : '\n' ∉ derivation.category := by
  obtain ⟨-, -, hcategory, -, -⟩ := Declaration.derive_eq_ok_iff.mp hderive
  obtain ⟨hcategory, -⟩ := checkCategory_eq_ok_iff.mp hcategory
  rw [← hcategory]
  intro hmem
  apply hname
  rcases Text.dropSuffix_cases messageSuffix declaration.name with hsame | hlonger
  · rw [hsame]
    exact hmem
  · rw [hlonger]
    exact List.mem_append_left _ hmem

/-- A class is made of its parts. -/
theorem classLines_eq_parts (hderive : declaration.derive = .ok derivation)
    (hplain : declaration.IsPlain) :
    classLines declaration derivation.lines = (ClassParts.ofDerivation derivation).lines := by
  have hcategory := newline_not_mem_category hderive hplain.name
  obtain ⟨-, hfields, -, rfl, -⟩ := Declaration.derive_eq_ok_iff.mp hderive
  obtain ⟨hbase, -⟩ := checkFields_eq_ok_iff.mp hfields
  have hsome : derivation.declaration.fields ≠ [] := by
    intro hnil
    rw [hnil] at hbase
    cases hbase
  have hextra : ∀ field ∈ extraFields derivation.declaration.fields,
      field.name ≠ [] ∧ '\n' ∉ field.name := fun field hfield =>
    hplain.fields field (List.mem_of_mem_filter hfield)
  have hmembers : (derivation.members.map Method.lines).flatMap ([] :: ·) =
      [] :: (ClassParts.ofDerivation derivation).short ++
        [] :: (ClassParts.ofDerivation derivation).full ++
          (ClassParts.ofDerivation derivation).others := by
    rw [Derivation.members, List.append_assoc, Derivation.constructors, constructors, List.map_append,
      List.flatMap_append, List.map_cons, List.map_cons, List.map_nil, List.flatMap_cons,
      List.flatMap_cons, List.flatMap_nil, List.append_nil,
      lines_shortConstructor fun field hfield => (hextra field hfield).1,
      lines_fullConstructor hcategory fun field hfield => (hextra field hfield).2]
    rfl
  rw [classLines_eq hsome, hmembers, ClassParts.lines]
  simp only [List.append_assoc, List.cons_append]
  rfl

theorem extraFields_concat (fields : List Field) (hbase : field.name ≠ baseField) :
    extraFields (fields ++ [field]) = extraFields fields ++ [field] := by
  rw [extraFields, includedFields, List.filter_append]
  refine congrArg (extraFields fields ++ ·) (List.filter_cons_of_pos ?_)
  simpa using hbase

theorem roleField?_concat (hrole : field.name ≠ roleField) :
    (declaration.extended field).roleField? = declaration.roleField? := by
  rw [Declaration.roleField?, Declaration.roleField?, Declaration.extended, List.find?_append]
  have hnone : [field].find? (·.name = roleField) = none := by
    rw [List.find?_singleton, if_neg (by simpa using hrole)]
  rw [hnone, Option.or_none]

/-- A field more at the end gives the class one item more at the end of each row. -/
theorem ofDerivation_extended (hderive : declaration.derive = .ok derivation)
    (hderive' : (declaration.extended field).derive = .ok derivation')
    (hbase : field.name ≠ baseField) (hrole : field.name ≠ roleField) :
    ClassParts.ofDerivation derivation' = (ClassParts.ofDerivation derivation).extended field := by
  obtain ⟨-, -, hcategory, hdeclaration, hshape⟩ := Declaration.derive_eq_ok_iff.mp hderive
  obtain ⟨-, -, hcategory', hdeclaration', hshape'⟩ := Declaration.derive_eq_ok_iff.mp hderive'
  have hsame : derivation'.category = derivation.category := by
    rw [← (checkCategory_eq_ok_iff.mp hcategory).1, ← (checkCategory_eq_ok_iff.mp hcategory').1,
      Declaration.extended]
  have hinterface : derivation'.interface = derivation.interface := by
    rw [Derivation.interface, Derivation.interface, hshape, hshape', hsame, Declaration.roleShape,
      Declaration.roleShape, roleField?_concat hrole]
  have hextra := extraFields_concat declaration.fields hbase
  rw [ClassParts.ofDerivation, ClassParts.ofDerivation, ClassParts.extended, hinterface, hsame,
    hdeclaration, hdeclaration', Declaration.extended, hextra, parameterTexts, parameterTexts,
    parameterTexts, parameterTexts, List.map_append, List.map_append, List.map_append, List.map_append]
  rfl

/-! ## Modules with a longer class -/

/-- The lines of classes one after another, each behind two blank lines. -/
def writtenLines (classes : List WrittenClass) : List Text :=
  classes.flatMap fun written => [] :: [] :: written.lines

/-- The class of one entry stands between those of the entries around it. -/
theorem lines_around {file : DeclarationFile} {draft : Draft} {before behind : List Entry} {entry : Entry}
    {front back : List WrittenClass} {written : WrittenClass}
    (h : (Draft.ofFile file).generateAll = (draft, none))
    (hentries : file.entries = before ++ entry :: behind)
    (hfront : List.Forall₂ Entry.IsWrittenAs before front) (hwritten : entry.IsWrittenAs written)
    (hback : List.Forall₂ Entry.IsWrittenAs behind back) :
    draft.lines = draft.docstring :: [] :: draft.importLines ++ (writtenLines front ++ [[], []]) ++
      written.lines ++ writtenLines back := by
  obtain ⟨classes, hgenerates⟩ := Draft.generates_of_generateAll h
  have hunique : Relator.RightUnique Entry.IsWrittenAs := fun _ _ _ => Entry.IsWrittenAs.unique
  have hclasses : classes = front ++ written :: back := by
    have hall := hgenerates.entries
    rw [hentries] at hall
    exact List.right_unique_forall₂' hunique hall (List.rel_append hfront (.cons hwritten hback))
  rw [Draft.lines, hgenerates.blocks, hclasses, List.flatMap_map, writtenLines, writtenLines]
  simp only [List.flatMap_append, List.flatMap_cons, List.append_assoc, List.cons_append,
    List.nil_append]

/-- Where one record of a file is exchanged for another, one class of its module is
exchanged, and all other lines are the same. -/
theorem exists_lines_around {file file' : DeclarationFile} {before behind : List Entry}
    {declaration' : Declaration} {draft draft' : Draft}
    (h : (Draft.ofFile file).generateAll = (draft, none))
    (h' : (Draft.ofFile file').generateAll = (draft', none))
    (hpath : file.path = file'.path) (himports : file.imports = file'.imports)
    (hentries : file.entries = before ++ .declaration declaration :: behind)
    (hentries' : file'.entries = before ++ .declaration declaration' :: behind) :
    ∃ front back derivation derivation', declaration.derive = .ok derivation ∧
      declaration'.derive = .ok derivation' ∧
      draft.lines = front ++ classLines declaration derivation.lines ++ back ∧
      draft'.lines = front ++ classLines declaration' derivation'.lines ++ back := by
  have hhead := Draft.sameHead_generateAll (congrArg Prod.snd h) (congrArg Prod.snd h') hpath himports
    (by rw [hentries, hentries']; cases before <;> rfl)
  rw [h, h'] at hhead
  have haccepted := (Draft.generateAll_eq_none_iff file).mp (congrArg Prod.snd h)
  have haccepted' := (Draft.generateAll_eq_none_iff file').mp (congrArg Prod.snd h')
  rw [hentries, List.forall_mem_append, List.forall_mem_cons] at haccepted
  rw [hentries', List.forall_mem_append, List.forall_mem_cons] at haccepted'
  obtain ⟨hbefore, ⟨written, hwritten⟩, hbehind⟩ := haccepted
  obtain ⟨-, ⟨written', hwritten'⟩, -⟩ := haccepted'
  -- what stands before and behind is written in one way only, in either file
  obtain ⟨front, hfront⟩ := Draft.exists_generates
    ((Draft.generateAll_eq_none_iff { file with entries := before }).mpr hbefore)
  obtain ⟨back, hback⟩ := Draft.exists_generates
    ((Draft.generateAll_eq_none_iff { file with entries := behind }).mpr hbehind)
  have hlines := lines_around h hentries hfront.entries hwritten hback.entries
  have hlines' := lines_around h' hentries' hfront.entries hwritten' hback.entries
  rw [← hhead.docstring, ← hhead.importLines] at hlines'
  cases hwritten with
  | @declaration _ derivation hderive =>
      cases hwritten' with
      | @declaration _ derivation' hderive' =>
          rw [WrittenClass.lines, (Declaration.derive_eq_ok_iff.mp hderive).2.2.2.1] at hlines
          rw [WrittenClass.lines, (Declaration.derive_eq_ok_iff.mp hderive').2.2.2.1] at hlines'
          exact ⟨_, _, derivation, derivation', hderive, hderive', hlines, hlines'⟩

/-- If one record of a file has got a field more at the end, then one class of its
module has got one item more in each row, and all other lines are the same. -/
theorem exists_extended_class {file file' : DeclarationFile} {before behind : List Entry}
    {draft draft' : Draft} (h : (Draft.ofFile file).generateAll = (draft, none))
    (h' : (Draft.ofFile file').generateAll = (draft', none))
    (hpath : file.path = file'.path) (himports : file.imports = file'.imports)
    (hentries : file.entries = before ++ .declaration declaration :: behind)
    (hentries' : file'.entries = before ++ .declaration (declaration.extended field) :: behind)
    (hplain : (declaration.extended field).IsPlain) (hfresh : field.name ∉ declaration.fieldNames)
    (hrole : field.name ≠ roleField) :
    ∃ front back derivation, declaration.derive = .ok derivation ∧
      draft.lines = front ++ (ClassParts.ofDerivation derivation).lines ++ back ∧
      draft'.lines = front ++ ((ClassParts.ofDerivation derivation).extended field).lines ++ back := by
  obtain ⟨front, back, derivation, derivation', hderive, hderive', hlines, hlines'⟩ :=
    exists_lines_around h h' hpath himports hentries hentries'
  have hplain' : declaration.IsPlain :=
    ⟨hplain.name, fun other hother => hplain.fields other (List.mem_append_left _ hother)⟩
  have hbase : field.name ≠ baseField := by
    obtain ⟨-, hfields, -⟩ := Declaration.derive_eq_ok_iff.mp hderive
    obtain ⟨hmem, -⟩ := checkFields_eq_ok_iff.mp hfields
    exact fun heq => hfresh (heq ▸ hmem)
  refine ⟨front, back, derivation, hderive, ?_, ?_⟩
  · rw [hlines, classLines_eq_parts hderive hplain']
  · rw [hlines', classLines_eq_parts hderive' hplain,
      ofDerivation_extended hderive hderive' hbase hrole]

end MessageForge
