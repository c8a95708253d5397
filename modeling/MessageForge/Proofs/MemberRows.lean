import MessageForge.Proofs.Methods

/-!
# Members in rows

The accessors and mutators of generated classes are written as rows here, each
with the lines that the class has for it and with the tokens that a parser
reads.
-/

namespace MessageForge.Source

open Vocabulary

/-! ## Rows of words and marks -/

/-- Whether a glyph is no piece, and a word if it should be one. -/
def Glyph.isPlain : Glyph → Bool
  | .word w => isWord w
  | .piece _ _ => false
  | _ => true

theorem Row.isSound_of_isPlain {row : Row} (h : row.all Glyph.isPlain = true) : row.IsSound := by
  intro glyph hglyph
  have hplain := List.all_eq_true.mp h glyph hglyph
  cases glyph with
  | blank | mark _ => trivial
  | word word => exact hplain
  | piece _ _ => cases hplain

/-- A line without pieces that closes its brackets. -/
theorem Row.isWritten_of_isPlain {row : Row} (hplain : row.all Glyph.isPlain = true)
    (hapart : row.isApart = true) (hcode : row.isCode = true) (hnest : row.nest [] = some []) :
    Paragraph.IsWritten ⟨row, []⟩ where
  sound := List.forall_mem_singleton.mpr (isSound_of_isPlain hplain)
  apart := List.forall_mem_singleton.mpr hapart
  code := List.forall_mem_singleton.mpr hcode
  closed := by
    rw [Paragraph.isClosed, hnest]
    rfl

/-! ## Types of members -/

/-- The row of a type that a member gives. -/
structure GivesType (row : Row) : Prop where
  sound : row.IsSound
  apart : Row.isApart (row ++ [.mark .colon]) = true
  nest : row.nest [] = some []
  takes : TakesExpression 2 row.kinds

def wordType (word : Text) : Row :=
  [.word word]

def optionalType : Row :=
  [.word "str", .blank, .mark .bar, .blank, .word "None"]

def tableType : Row :=
  [.word "dict", .mark .openBracket, .word "str", .mark .comma, .blank, .word "str",
    .mark .closeBracket]

theorem TakesExpression.mono {need more : Nat} {kinds : List TokenKind}
    (h : TakesExpression need kinds) (hle : need ≤ more) : TakesExpression more kinds :=
  ⟨h.starts, fun depth hdepth => h.reads depth (Nat.le_trans hle hdepth)⟩

theorem TakesStatement.mono {need more level higher : Nat} {names : List Text}
    {kinds : List TokenKind} (h : TakesStatement need level names kinds) (hle : need ≤ more)
    (hlevel : level ≤ higher) : TakesStatement more higher names kinds :=
  ⟨h.goesOn, fun depth hdepth nesting hnesting =>
    h.reads depth (Nat.le_trans hle hdepth) nesting (Nat.le_trans hlevel hnesting)⟩

theorem TypedName.IsRead.mono {need more : Nat} {typed : TypedName} (h : typed.IsRead need)
    (hle : need ≤ more) : typed.IsRead more :=
  ⟨h.kind, h.type.mono hle⟩

theorem GivenValue.IsRead.mono {need more : Nat} {given : GivenValue} (h : given.IsRead need)
    (hle : need ≤ more) : given.IsRead more :=
  ⟨h.name, h.value.mono hle⟩

theorem kinds_wordType {word : Text} (h : isNameWord word = true) :
    (wordType word).kinds = [.name (Text.normalForm word)] := by
  rw [← wordKind_of_isNameWord h]
  rfl

theorem givesType_word {word : Text} (h : isNameWord word = true) : GivesType (wordType word) where
  sound := List.forall_mem_singleton.mpr (isWord_of_isNameWord h)
  apart := rfl
  nest := rfl
  takes := by
    rw [kinds_wordType h]
    exact (takesExpression_name _).mono (by decide)

theorem givesType_optional : GivesType optionalType where
  sound := Row.isSound_of_isPlain (by decide +kernel)
  apart := rfl
  nest := rfl
  takes := by
    have hkinds : optionalType.kinds =
        [.name "str", .symbol (.binary .bitOr), .keyword .noneWord] := by decide +kernel
    rw [hkinds]
    exact (takesExpression_optional "str").mono (by decide)

theorem givesType_table : GivesType tableType where
  sound := Row.isSound_of_isPlain (by decide +kernel)
  apart := rfl
  nest := rfl
  takes := by
    have hkinds : tableType.kinds = [.name "dict", .symbol .openBracket, .name "str",
        .symbol .comma, .name "str", .symbol .closeBracket] := by decide +kernel
    rw [hkinds]
    exact takesExpression_pair "dict" "str" "str"

/-! ## Accessors and mutators -/

/-- A member of the base record as a row. -/
def onBaseRow (member : Text) : Row :=
  [.word "self", .mark .dot, .word "base", .mark .dot, .word member]

def accessorRows (name member : Text) (type : Row) : MethodRows :=
  { decorator := some "property", name, first := "self", returns := type
    body := { first := .word "return" :: .blank :: onBaseRow member } }

theorem isWritten_accessorRows {name member : Text} {type : Row} (hname : isNameWord name = true)
    (hmember : isNameWord member = true) (htype : GivesType type) :
    (accessorRows name member type).IsWritten where
  decorator := (by decide +kernel : isNameWord "property" = true)
  name := hname
  first := (by decide +kernel : isNameWord "self" = true)
  parameters := List.forall_mem_nil _
  sound := htype.sound
  apart := htype.apart
  nest := htype.nest
  body := by
    refine Row.isWritten_of_isPlain ?_ rfl rfl rfl
    have hplain : [Glyph.word "return", .blank, .word "self", .mark .dot, .word "base",
        .mark .dot].all Glyph.isPlain = true := by decide +kernel
    show ([Glyph.word "return", .blank, .word "self", .mark .dot, .word "base", .mark .dot] ++
      [Glyph.word member]).all Glyph.isPlain = true
    rw [List.all_append, hplain]
    simpa [Glyph.isPlain] using isWord_of_isNameWord hmember

/-- The statement that gives a member of the base record. -/
theorem takesStatement_giving {member : Text} (hmember : isNameWord member = true) :
    TakesStatement 2 1 [] (Paragraph.kinds ⟨.word "return" :: .blank :: onBaseRow member, []⟩ ++
      [.newline]) := by
  have hreturn : wordKind "return" = .keyword .returnWord := by decide +kernel
  have hself : wordKind "self" = .name "self" := by decide +kernel
  have hbase : wordKind "base" = .name "base" := by decide +kernel
  show TakesStatement 2 1 [] [wordKind "return", wordKind "self", .symbol .dot, wordKind "base",
    .symbol .dot, wordKind member, .newline]
  rw [hreturn, hself, hbase, wordKind_of_isNameWord hmember]
  exact takesStatement_return ((takesExpression_member "self" "base" _).mono (by decide))

theorem isRead_accessorRows {name member : Text} {type : Row} (hmember : isNameWord member = true)
    (htype : GivesType type) : (accessorRows name member type).shape.IsRead 2 where
  typed := List.forall_mem_nil _
  returns := htype.takes
  body := takesStatement_giving hmember

theorem lines_accessorRows (name member : Text) (type : Row) :
    (accessorRows name member type).lines =
      Code.indent 1 (accessor name type.text member).lines := by
  rw [lines_accessor, Code.indent_one_cons _ (by simp), Code.indent_one_cons _ (by simp),
    Code.indent_one_cons _ (by simp)]
  simp only [MethodRows.lines, accessorRows, MethodRows.head, Option.elim_some, decoratorRow,
    Row.text, List.flatMap_cons, List.flatMap_append, List.flatMap_nil, Glyph.text, Mark.text,
    parameterRow, onBaseRow, Code.indentUnit]
  repeat rw [Text.ofString_ofList]
  simp [spaces]
  rfl

def mutatorRows (name parameter member : Text) (type : Row) : MethodRows :=
  { name, first := "self", parameters := [⟨parameter, type⟩], returns := wordType "None"
    body := { first := onBaseRow member ++ [.blank, .mark .assign, .blank, .word parameter] } }

theorem givesType_none : GivesType (wordType "None") where
  sound := Row.isSound_of_isPlain (by decide +kernel)
  apart := rfl
  nest := rfl
  takes := by
    have hkinds : (wordType "None").kinds = [.keyword .noneWord] := by decide +kernel
    rw [hkinds]
    exact takesExpression_none.mono (by decide)

theorem isWritten_mutatorRows {name parameter member : Text} {type : Row}
    (hname : isNameWord name = true) (hparameter : isNameWord parameter = true)
    (hmember : isNameWord member = true) (htype : type.IsType) :
    (mutatorRows name parameter member type).IsWritten where
  decorator := rfl
  name := hname
  first := (by decide +kernel : isNameWord "self" = true)
  parameters := List.forall_mem_singleton.mpr ⟨isWord_of_isNameWord hparameter, htype⟩
  sound := givesType_none.sound
  apart := rfl
  nest := rfl
  body := by
    refine Row.isWritten_of_isPlain ?_ rfl rfl rfl
    have hplain : [Glyph.word "self", .mark .dot, .word "base", .mark .dot].all Glyph.isPlain =
        true := by decide +kernel
    show ([Glyph.word "self", .mark .dot, .word "base", .mark .dot] ++ [Glyph.word member, .blank,
      .mark .assign, .blank, .word parameter]).all Glyph.isPlain = true
    rw [List.all_append, hplain]
    simpa [Glyph.isPlain] using ⟨isWord_of_isNameWord hmember, isWord_of_isNameWord hparameter⟩

theorem isRead_mutatorRows {name parameter member : Text} {type : Row}
    (hparameter : isNameWord parameter = true) (hmember : isNameWord member = true)
    (htype : TakesExpression 2 type.kinds) :
    (mutatorRows name parameter member type).shape.IsRead 2 where
  typed := List.forall_mem_singleton.mpr ⟨⟨_, wordKind_of_isNameWord hparameter⟩, htype⟩
  returns := givesType_none.takes
  body := by
    have hself : wordKind "self" = .name "self" := by decide +kernel
    have hbase : wordKind "base" = .name "base" := by decide +kernel
    show TakesStatement 2 1 [] [wordKind "self", .symbol .dot, wordKind "base", .symbol .dot,
      wordKind member, .symbol .assign, wordKind parameter, .newline]
    rw [hself, hbase, wordKind_of_isNameWord hmember, wordKind_of_isNameWord hparameter]
    exact (takesStatement_setting "self" "base" _ _ (by decide)).mono (by decide) (Nat.le_refl _)

theorem lines_mutatorRows (name parameter member : Text) (type : Row) :
    (mutatorRows name parameter member type).lines =
      Code.indent 1 (mutator name ⟨parameter, type.text⟩ member).lines := by
  rw [lines_mutator, Code.indent_one_cons _ (by simp), Code.indent_one_cons _ (by simp)]
  simp only [MethodRows.lines, mutatorRows, MethodRows.head, Option.elim_none, wordType,
    Row.text, List.flatMap_cons, List.flatMap_append, List.flatMap_nil, Glyph.text, Mark.text,
    parameterRow, TypedRow.row, onBaseRow, Code.indentUnit, Parameter.text]
  repeat rw [Text.ofString_ofList]
  simp [spaces]
  rfl

/-! ## The role -/

def roleRows : MethodRows :=
  { decorator := some "property", name := "role", first := "self", returns := wordType "str"
    body :=
      { first := .word "return" :: .blank :: .word "str" :: .mark .openParen ::
          (onBaseRow "message_type" ++ [.mark .closeParen]) } }

theorem isWritten_roleRows : roleRows.IsWritten where
  decorator := by decide +kernel
  name := by decide +kernel
  first := by decide +kernel
  parameters := List.forall_mem_nil _
  sound := Row.isSound_of_isPlain (by decide +kernel)
  apart := rfl
  nest := rfl
  body := Row.isWritten_of_isPlain (by decide +kernel) rfl rfl rfl

theorem isRead_roleRows : roleRows.shape.IsRead 2 where
  typed := List.forall_mem_nil _
  returns := (givesType_word (by decide +kernel)).takes
  body := by
    have hkinds : roleRows.shape.body = .keyword .returnWord :: ([.name "str", .symbol .openParen,
        .name "self", .symbol .dot, .name "base", .symbol .dot, .name "message_type",
        .symbol .closeParen] ++ [.newline]) := by decide +kernel
    rw [hkinds]
    refine takesStatement_return (.of_run rfl fun _ => forall_expressionEnds.mpr ?_)
    exact ⟨fun _ _ => ⟨_, rfl⟩, fun _ _ => ⟨_, rfl⟩, fun _ _ => ⟨_, rfl⟩, fun _ _ => ⟨_, rfl⟩⟩

theorem lines_roleRows (category : Text) :
    [roleRows.lines] =
      ((roleAccessor (.derived category)).map Method.lines).map (Code.indent 1) := by
  rw [lines_roleAccessor]
  decide +kernel

end MessageForge.Source
