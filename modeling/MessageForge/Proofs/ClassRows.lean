import MessageForge.Draft
import MessageForge.Proofs.ConstructorRows
import MessageForge.Proofs.Interchange

/-!
# Classes in rows

A derived class has its fields in the order of the declaration, then the
constructors, the mutators and the accessors, each member behind an empty
line. Written as rows, the class has the lines of the generated block, and a
parser reads it as one class with the name of the declaration.
-/

namespace MessageForge

open Vocabulary

theorem Method.lines_ne_nil (method : Method) : method.lines ≠ [] := by
  rw [Method.lines]
  cases method.kind
  all_goals exact List.cons_ne_nil _ _

/-- The members of a class, one behind another. -/
theorem MemberLines.lines_eq_separate (derivation : Derivation) :
    derivation.lines.lines = Code.separate (derivation.members.map Method.lines) := by
  show Code.separate [methodLines derivation.constructors, methodLines MessageForge.mutators,
    methodLines derivation.interface] = _
  rw [Derivation.members, List.map_append, List.map_append, ← Code.separate_append,
    ← Code.separate_append, Code.separate_assoc, Code.separate_nested]
  rfl

/-- The lines of a derived class: its fields, then each member behind an empty
line. -/
theorem classLines_eq {derivation : Derivation} (hfields : derivation.declaration.fields ≠ []) :
    classLines derivation.declaration derivation.lines =
      Code.decorator "dataclass" [] :: Code.classHeader derivation.declaration.name [] ::
        Code.indent 1 (parameterTexts derivation.declaration.fields ++
          (derivation.members.map Method.lines).flatMap ([] :: ·)) := by
  have hlines : ∀ lines ∈ derivation.members.map Method.lines, lines ≠ [] :=
    List.forall_mem_map.mpr fun method _ => method.lines_ne_nil
  have hblock : parameterTexts derivation.declaration.fields ≠ [] :=
    fun hnil => hfields (List.map_eq_nil_iff.mp hnil)
  rw [← Code.separate_of_ne_nil hblock hlines, ← Code.separate_nested,
    ← MemberLines.lines_eq_separate]
  rfl

namespace Source

/-! ## All members of a class -/

def mutatorMembers : List MethodRows :=
  [mutatorRows "set_content" "new_content" "content" (wordType "str"),
    mutatorRows "set_example" "example" "example" (wordType "bool"),
    mutatorRows "set_id" "id" "id" optionalType,
    mutatorRows "set_name" "name" "name" optionalType]

def accessorMembers : List MethodRows :=
  [accessorRows "content" "content" (wordType "str"),
    accessorRows "message_type" "message_type" (wordType "MessageType"),
    accessorRows "is_example" "example" (wordType "bool"),
    accessorRows "additional_kwargs" "additional_kwargs" tableType,
    accessorRows "response_metadata" "response_metadata" tableType,
    accessorRows "id" "id" optionalType,
    accessorRows "name" "name" optionalType]

def roleMembers : RoleShape → List MethodRows
  | .stored _ => []
  | .derived _ => [roleRows]

/-- The members behind the constructors. -/
def plainMembers (role : RoleShape) : List MethodRows :=
  mutatorMembers ++ (accessorMembers ++ roleMembers role)

def memberRows (category : Text) (role : RoleShape) (extra : List TypedRow) : List MethodRows :=
  shortRows extra :: fullRows category extra :: plainMembers role

/-- The member as it stands in the class. -/
def indentedLines (method : Method) : List Text :=
  Code.indent 1 method.lines

theorem lines_mutatorMembers :
    mutatorMembers.map MethodRows.lines = mutators.map indentedLines := by
  have hbool : (wordType "bool").text = "bool" := by decide +kernel
  have hstr : (wordType "str").text = "str" := by decide +kernel
  have hoptional : optionalType.text = "str | None" := by decide +kernel
  simp only [mutatorMembers, List.map_cons, List.map_nil, lines_mutatorRows, hbool, hstr,
    hoptional]
  rfl

theorem lines_accessorMembers :
    accessorMembers.map MethodRows.lines = accessors.map indentedLines := by
  have hbool : (wordType "bool").text = "bool" := by decide +kernel
  have hstr : (wordType "str").text = "str" := by decide +kernel
  have henum : (wordType "MessageType").text = "MessageType" := by decide +kernel
  have htable : tableType.text = "dict[str, str]" := by decide +kernel
  have hoptional : optionalType.text = "str | None" := by decide +kernel
  simp only [accessorMembers, List.map_cons, List.map_nil, lines_accessorRows, hbool, hstr,
    henum, htable, hoptional]
  rfl

theorem lines_roleMembers (role : RoleShape) :
    (roleMembers role).map MethodRows.lines = (roleAccessor role).map indentedLines := by
  cases role with
  | stored _ => rfl
  | derived category => exact (lines_roleRows category).trans (List.map_map ..)

theorem lines_plainMembers (role : RoleShape) :
    (plainMembers role).map MethodRows.lines =
      (mutators ++ interfaceMembers role).map indentedLines := by
  rw [plainMembers, interfaceMembers, List.map_append, List.map_append, List.map_append,
    List.map_append, lines_mutatorMembers, lines_accessorMembers, lines_roleMembers]

/-- A member that is written and read as its rows say. -/
structure IsMember (need : Nat) (method : MethodRows) : Prop where
  written : method.IsWritten
  read : method.shape.IsRead need

theorem isType_optional : Row.IsType optionalType where
  sound := givesType_optional.sound
  apart := by
    rintro mark (rfl | rfl)
    · rfl
    · rfl
  alone := rfl
  nest openers _ := by
    have hbar : Source.nest (.binary .bitOr) openers = some openers := by
      show some ((openers.map fun opener => (opener, 0)).map Prod.fst) = _
      rw [List.map_map]
      exact congrArg some (List.map_id openers)
    show (Source.nest (.binary .bitOr) openers).bind some = _
    rw [hbar]
    rfl

theorem isMember_mutator {name parameter member : Text} {type : Row}
    (hnames : [name, parameter, member].all isNameWord = true) (htype : type.IsType)
    (htakes : TakesExpression 2 type.kinds) : IsMember 2 (mutatorRows name parameter member type) := by
  simp only [List.all_cons, List.all_nil, Bool.and_true, Bool.and_eq_true] at hnames
  obtain ⟨hname, hparameter, hmember⟩ := hnames
  exact ⟨isWritten_mutatorRows hname hparameter hmember htype,
    isRead_mutatorRows hparameter hmember htakes⟩

theorem isMember_accessor {name member : Text} {type : Row}
    (hnames : [name, member].all isNameWord = true) (htype : GivesType type) :
    IsMember 2 (accessorRows name member type) := by
  simp only [List.all_cons, List.all_nil, Bool.and_true, Bool.and_eq_true] at hnames
  exact ⟨isWritten_accessorRows hnames.1 hnames.2 htype, isRead_accessorRows hnames.2 htype⟩

theorem isMember_plainMembers (role : RoleShape) :
    ∀ method ∈ plainMembers role, IsMember 2 method := by
  have hstr : GivesType (wordType "str") := givesType_word (by decide +kernel)
  have hbool : GivesType (wordType "bool") := givesType_word (by decide +kernel)
  have henum : GivesType (wordType "MessageType") := givesType_word (by decide +kernel)
  have hboolType : Row.IsType (wordType "bool") := Row.isType_word (by decide +kernel)
  intro method hmethod
  rcases List.mem_append.mp hmethod with hmethod | hmethod
  · simp only [mutatorMembers, List.mem_cons, List.not_mem_nil, or_false] at hmethod
    rcases hmethod with rfl | rfl | rfl | rfl
    · exact isMember_mutator (by decide +kernel) isType_str hstr.takes
    · exact isMember_mutator (by decide +kernel) hboolType hbool.takes
    · exact isMember_mutator (by decide +kernel) isType_optional givesType_optional.takes
    · exact isMember_mutator (by decide +kernel) isType_optional givesType_optional.takes
  rcases List.mem_append.mp hmethod with hmethod | hmethod
  · simp only [accessorMembers, List.mem_cons, List.not_mem_nil, or_false] at hmethod
    rcases hmethod with rfl | rfl | rfl | rfl | rfl | rfl | rfl
    · exact isMember_accessor (by decide +kernel) hstr
    · exact isMember_accessor (by decide +kernel) henum
    · exact isMember_accessor (by decide +kernel) hbool
    · exact isMember_accessor (by decide +kernel) givesType_table
    · exact isMember_accessor (by decide +kernel) givesType_table
    · exact isMember_accessor (by decide +kernel) givesType_optional
    · exact isMember_accessor (by decide +kernel) givesType_optional
  · cases role with
    | stored _ => cases hmethod
    | derived _ =>
        obtain rfl := List.mem_singleton.mp hmethod
        exact ⟨isWritten_roleRows, isRead_roleRows⟩

/-! ## Fields -/

/-- The text of a type is spelled with these tokens wherever a type may stand,
and they are read as one expression. -/
structure SpellsType (text : Text) (kinds : List TokenKind) : Prop where
  piece : IsPiece text kinds
  takes : TakesExpression (text.length + 1) kinds

/-- A field whose name is one and whose type is read by itself. -/
structure ReadsField (spellType : Text → List TokenKind) (field : Field) : Prop where
  name : isNameWord field.name = true
  type : SpellsType field.type (spellType field.type)

section Fields

variable {spellType : Text → List TokenKind} {field : Field} {need : Nat}

theorem ReadsField.isWritten (h : ReadsField spellType field) :
    (fieldRow spellType field).IsWritten :=
  ⟨isWord_of_isNameWord h.name, Row.isType_piece h.type.piece⟩

theorem ReadsField.isRead (h : ReadsField spellType field) (hneed : field.type.length + 1 ≤ need) :
    (fieldRow spellType field).shape.IsRead need where
  kind := ⟨_, wordKind_of_isNameWord h.name⟩
  type := by
    show TakesExpression need (spellType field.type ++ [])
    rw [List.append_nil]
    exact h.type.takes.mono hneed

end Fields

/-! ## Classes -/

/-- The class that is derived for a declaration with these fields. -/
def messageRows (spellType : Text → List TokenKind) (derivation : Derivation) (first : Field)
    (rest : List Field) : ClassRows where
  name := derivation.declaration.name
  first := fieldRow spellType first
  fields := rest.map (fieldRow spellType)
  methods := memberRows derivation.category derivation.role
    ((extraFields (first :: rest)).map (fieldRow spellType))

theorem mem_of_mem_extraFields {field : Field} {fields : List Field}
    (h : field ∈ extraFields fields) : field ∈ fields :=
  (List.mem_filter.mp h).1

theorem indent_parameterTexts (spellType : Text → List TokenKind) (fields : List Field) :
    Code.indent 1 (parameterTexts fields) =
      (fields.map (fieldRow spellType)).map fun typed => spaces 4 ++ typed.row.text := by
  induction fields with
  | nil => rfl
  | cons field fields ih =>
      have hunit : Code.indentUnit = spaces 4 := by decide +kernel
      have htext : field.name ++ ": " ++ field.type = (fieldRow spellType field).row.text := by
        simp [fieldRow, TypedRow.row, Row.text, Glyph.text, Mark.text]
      have hne : (field.name ++ ": " ++ field.type : Text) ≠ [] :=
        parameter_text_ne_nil ⟨field.name, field.type⟩
      rw [parameterTexts, List.map_cons, Code.indent_one_cons _ hne, htext, hunit]
      exact congrArg (_ :: ·) ih

theorem indent_behindEmptyLines (blocks : List (List Text)) :
    Code.indent 1 (blocks.flatMap ([] :: ·)) =
      (blocks.map (Code.indent 1)).flatMap ([] :: ·) := by
  induction blocks with
  | nil => rfl
  | cons block blocks ih =>
      rw [List.flatMap_cons, Code.indent_append, ih]
      rfl

section Message

variable {spellType : Text → List TokenKind} {derivation : Derivation} {first : Field}
  {rest : List Field} (hfields : derivation.declaration.fields = first :: rest)
  (hcategory : isWord derivation.category = true)
  (hreads : ∀ field ∈ first :: rest, ReadsField spellType field)
include hfields hcategory hreads

theorem lines_memberRows :
    (memberRows derivation.category derivation.role
        ((extraFields (first :: rest)).map (fieldRow spellType))).map MethodRows.lines =
      derivation.members.map indentedLines := by
  have hnames : ∀ field ∈ extraFields (first :: rest), isWord field.name = true :=
    fun field hfield => isWord_of_isNameWord (hreads field (mem_of_mem_extraFields hfield)).name
  rw [memberRows, List.map_cons, List.map_cons, lines_plainMembers,
    lines_shortRows spellType fun field hfield => ne_nil_of_isWord (hnames field hfield),
    lines_fullRows spellType (not_mem_of_isWord hcategory (by decide))
      fun field hfield => not_mem_of_isWord (hnames field hfield) (by decide),
    ← hfields]
  show _ = ((constructors derivation.declaration.fields derivation.category ++ mutators) ++
    interfaceMembers derivation.role).map indentedLines
  rw [List.append_assoc, List.map_append]
  rfl

/-- The rows are those of the generated block. -/
theorem lines_messageRows :
    (messageRows spellType derivation first rest).lines =
      classLines derivation.declaration derivation.lines := by
  have hdecorator : (decoratorRow "dataclass").text = Code.decorator "dataclass" [] := by
    decide +kernel
  have hhead : (messageRows spellType derivation first rest).head.text =
      Code.classHeader derivation.declaration.name [] := by
    simp [messageRows, ClassRows.head, Row.text, Glyph.text, Mark.text, Code.classHeader,
      Code.withParameters]
  rw [classLines_eq (hfields ▸ List.cons_ne_nil _ _), Code.indent_append, hfields,
    indent_parameterTexts spellType, indent_behindEmptyLines, ClassRows.lines,
    hdecorator, hhead]
  have hmethods : (messageRows spellType derivation first rest).methods.flatMap
      (fun method => [] :: method.lines) =
        ((derivation.members.map Method.lines).map (Code.indent 1)).flatMap ([] :: ·) := by
    have hlines := congrArg (List.flatMap (([] : Text) :: ·))
      (lines_memberRows hfields hcategory hreads)
    rw [List.flatMap_map] at hlines
    rw [List.map_map]
    exact hlines
  rw [hmethods]
  rfl

omit hfields in
theorem isWritten_messageRows (hname : isWord derivation.declaration.name = true) :
    (messageRows spellType derivation first rest).IsWritten := by
  have hwritten : ∀ typed ∈ (extraFields (first :: rest)).map (fieldRow spellType),
      typed.IsWritten :=
    List.forall_mem_map.mpr fun field hfield => (hreads field (mem_of_mem_extraFields hfield)).isWritten
  refine ⟨hname, (hreads first (List.mem_cons_self ..)).isWritten, ?_, ?_⟩
  · exact List.forall_mem_map.mpr fun field hfield =>
      (hreads field (List.mem_cons_of_mem _ hfield)).isWritten
  · intro method hmethod
    rcases List.mem_cons.mp hmethod with rfl | hmethod
    · exact isWritten_shortRows hwritten
    rcases List.mem_cons.mp hmethod with rfl | hmethod
    · exact isWritten_fullRows hcategory hwritten
    · exact (isMember_plainMembers derivation.role method hmethod).written

end Message

/-! ## Reading of classes -/

section Reading

variable {spellType : Text → List TokenKind} {derivation : Derivation} {first : Field}
  {rest : List Field} {need : Nat}

theorem takesStatement_fieldChunk {field : Field} (h : ReadsField spellType field)
    (hneed : field.type.length + 2 ≤ need) :
    TakesStatement need 2 [] (ClassRows.fieldChunk (fieldRow spellType field)).kinds :=
  (takesStatement_field (h.isRead (Nat.le_refl _))).mono hneed (by decide)

theorem takesStatement_methodChunk {method : MethodRows} (h : method.shape.IsRead need) :
    TakesStatement (need + 1) 2 [] (ClassRows.methodChunk method).kinds := by
  show TakesStatement (need + 1) 2 [] method.kinds
  rw [MethodRows.kinds]
  cases method.decorator with
  | none => exact (takesStatement_method h).mono (Nat.le_succ need) (Nat.le_refl 2)
  | some decorator => exact takesStatement_decorated _ h

/-- The fields of a class with its short constructor, which do not depend on
the category. -/
def openingChunks (spellType : Text → List TokenKind) (first : Field) (rest : List Field) :
    List Chunk :=
  rest.map (fun field => ClassRows.fieldChunk (fieldRow spellType field)) ++
    [ClassRows.methodChunk (shortRows ((extraFields (first :: rest)).map (fieldRow spellType)))]

/-- The depth that the fields of a class and its members need. -/
structure Suffices (need : Nat) (fields : List Field) : Prop where
  members : 4 ≤ need
  types : ∀ field ∈ fields, field.type.length + 1 ≤ need

theorem areRead_extraFields (hneed : Suffices need (first :: rest))
    (hreads : ∀ field ∈ first :: rest, ReadsField spellType field) :
    AreRead need ((extraFields (first :: rest)).map (fieldRow spellType)) :=
  List.forall_mem_map.mpr fun field hfield =>
    (hreads field (mem_of_mem_extraFields hfield)).isRead
      (hneed.types field (mem_of_mem_extraFields hfield))

theorem takesChunks_opening (hneed : Suffices need (first :: rest))
    (hreads : ∀ field ∈ first :: rest, ReadsField spellType field) :
    TakesChunks (need + 1) 2
      (ClassRows.fieldChunk (fieldRow spellType first) :: openingChunks spellType first rest) := by
  have hfield : ∀ field ∈ first :: rest, TakesStatement (need + 1) 2 []
      (ClassRows.fieldChunk (fieldRow spellType field)).kinds := fun field hfield =>
    takesStatement_fieldChunk (hreads field hfield) (Nat.succ_le_succ (hneed.types field hfield))
  intro chunk hchunk
  rcases List.mem_cons.mp hchunk with rfl | hchunk
  · exact hfield first (List.mem_cons_self ..)
  rcases List.mem_append.mp hchunk with hchunk | hchunk
  · obtain ⟨field, hmem, rfl⟩ := List.mem_map.mp hchunk
    exact hfield field (List.mem_cons_of_mem _ hmem)
  · obtain rfl := List.mem_singleton.mp hchunk
    exact takesStatement_methodChunk (isRead_shortRows (Nat.le_of_succ_le (Nat.le_of_succ_le
      hneed.members)) (areRead_extraFields hneed hreads))

theorem chunks_messageRows :
    (messageRows spellType derivation first rest).chunks =
      openingChunks spellType first rest ++
        ClassRows.methodChunk (fullRows derivation.category
          ((extraFields (first :: rest)).map (fieldRow spellType))) ::
        (plainMembers derivation.role).map ClassRows.methodChunk := by
  rw [ClassRows.chunks, openingChunks, List.append_assoc, messageRows, List.map_map]
  rfl

/-- A class whose name and category are names is read as this class. -/
theorem takesStatement_messageRows (hneed : Suffices need (first :: rest))
    (hreads : ∀ field ∈ first :: rest, ReadsField spellType field)
    (hname : isNameWord derivation.declaration.name = true)
    (hcategory : isNameWord derivation.category = true) :
    TakesStatement (need + 2) 3 [Text.normalForm derivation.declaration.name]
      (messageRows spellType derivation first rest).kinds := by
  have hchunks : TakesChunks (need + 1) 2 (ClassRows.fieldChunk (fieldRow spellType first) ::
      (messageRows spellType derivation first rest).chunks) := by
    rw [chunks_messageRows, ← List.cons_append]
    intro chunk hchunk
    rcases List.mem_append.mp hchunk with hchunk | hchunk
    · exact takesChunks_opening hneed hreads chunk hchunk
    rcases List.mem_cons.mp hchunk with rfl | hchunk
    · exact takesStatement_methodChunk (isRead_fullRows hneed.members hcategory
        (areRead_extraFields hneed hreads))
    · obtain ⟨method, hmethod, rfl⟩ := List.mem_map.mp hchunk
      have hread := (isMember_plainMembers derivation.role method hmethod).read
      exact (takesStatement_methodChunk hread).mono (by have := hneed.members; omega) (by decide)
  rw [ClassRows.kinds]
  show TakesStatement _ _ _ (classKinds "dataclass" (wordKind derivation.declaration.name) _)
  rw [wordKind_of_isNameWord hname]
  exact takesStatement_class "dataclass" _ hchunks

/-- A class named by a keyword is none. -/
theorem refuses_messageRows_name {word : Keyword} {depth nesting : Nat} {tail : List TokenKind}
    (hname : wordKind derivation.declaration.name = .keyword word) (hdepth : 0 < depth) :
    Refuses (statementAt (partsAt depth) (nesting + 1))
      ((messageRows spellType derivation first rest).kinds ++ tail) := by
  rw [ClassRows.kinds, classKinds, List.append_assoc]
  show Refuses _ (_ ++ .keyword .classWord :: wordKind derivation.declaration.name :: _)
  rw [hname]
  exact Refuses.decoratedClass "dataclass" hdepth Refuses.className

/-- A class whose category is a keyword is refused with its full constructor,
after all fields have been read. -/
theorem refuses_messageRows_category {word : Keyword} {depth nesting : Nat}
    {tail : List TokenKind} (hneed : Suffices need (first :: rest))
    (hreads : ∀ field ∈ first :: rest, ReadsField spellType field)
    (hname : isNameWord derivation.declaration.name = true)
    (hcategory : wordKind derivation.category = .keyword word) (hdepth : need + 2 ≤ depth)
    (hnesting : 2 ≤ nesting) :
    Refuses (statementAt (partsAt depth) (nesting + 1))
      ((messageRows spellType derivation first rest).kinds ++ tail) := by
  obtain ⟨inner, rfl⟩ : ∃ inner, nesting = inner + 1 := ⟨nesting - 1, by omega⟩
  have hmembers := hneed.members
  let extra := (extraFields (first :: rest)).map (fieldRow spellType)
  have htyped : ∀ parameter ∈ (fullRows derivation.category extra).shape.typed,
      parameter.IsRead need :=
    List.forall_mem_cons.mpr ⟨isRead_content.mono (by omega), List.forall_mem_cons.mpr
      ⟨isRead_example.mono (by omega), List.forall_mem_map.mpr (areRead_extraFields hneed hreads)⟩⟩
  have hreturns : TakesExpression need (fullRows derivation.category extra).shape.returns :=
    (givesType_word (by decide +kernel : isNameWord "Self" = true)).takes.mono (by omega)
  have hfull : Refuses (statementAt (partsAt depth) (inner + 1))
      ((ClassRows.methodChunk (fullRows derivation.category extra)).kinds ++
        (bodyKinds ((plainMembers derivation.role).map ClassRows.methodChunk) ++ .dedent :: tail)) :=
    Refuses.decoratedMethod _ (by omega) (Refuses.defStatement htyped hreturns (by omega)
      (refuses_fullRows hcategory (by omega) (by omega)))
  have hfront : frontKind ((ClassRows.methodChunk (fullRows derivation.category extra)).kinds ++
      (bodyKinds ((plainMembers derivation.role).map ClassRows.methodChunk) ++ .dedent :: tail)) =
        .symbol (.binary .matrix) := rfl
  have hblock := Refuses.block (takesChunks_opening hneed hreads) (by omega : need + 1 ≤ depth)
    (by omega : 2 ≤ inner + 1) (by rw [hfront]; exact TokenKind.noConfusion) hfull
  have hbody : bodyKinds (ClassRows.fieldChunk (fieldRow spellType first) ::
      (messageRows spellType derivation first rest).chunks) =
        bodyKinds (ClassRows.fieldChunk (fieldRow spellType first) ::
          openingChunks spellType first rest) ++
            ((ClassRows.methodChunk (fullRows derivation.category extra)).kinds ++
              bodyKinds ((plainMembers derivation.role).map ClassRows.methodChunk)) := by
    rw [chunks_messageRows, ← List.cons_append, bodyKinds, List.flatMap_append, List.flatMap_cons]
    rfl
  rw [ClassRows.kinds, classKinds, List.append_assoc]
  show Refuses _ (_ ++ .keyword .classWord :: wordKind derivation.declaration.name :: .symbol .colon ::
    .newline :: .indent :: ((bodyKinds (ClassRows.fieldChunk (fieldRow spellType first) ::
      (messageRows spellType derivation first rest).chunks) ++ [.dedent]) ++ tail))
  rw [wordKind_of_isNameWord hname, hbody]
  refine Refuses.decoratedClass "dataclass" (by omega) fun decorators =>
    Refuses.classBody decorators ?_
  simpa only [List.append_assoc, List.cons_append, List.nil_append] using hblock

end Reading

end Source

end MessageForge
