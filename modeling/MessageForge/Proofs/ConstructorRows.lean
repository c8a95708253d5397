import MessageForge.Proofs.MemberRows

/-!
# Constructors in rows

The constructors of a generated class take the extra fields along: as typed
parameters, as names that are passed on, and as arguments that stand on lines
of their own. The full constructor is the only member that goes over several
lines and the only one that names the category.
-/

namespace MessageForge.Source

open Vocabulary

/-! ## The short constructor -/

/-- Further names behind commas, as the short constructor passes them on. -/
def passedRow (extra : List TypedRow) : Row :=
  extra.flatMap fun typed => [.mark .comma, .blank, .word typed.name]

def shortRows (extra : List TypedRow) : MethodRows :=
  { decorator := some "classmethod", name := "new", first := "cls"
    parameters := ⟨"content", wordType "str"⟩ :: extra, returns := wordType "Self"
    body :=
      { first := .word "return" :: .blank :: .word "cls" :: .mark .dot ::
          .word "new_with_example" :: .mark .openParen :: .word "content" :: .mark .comma ::
          .blank :: .word "False" :: (passedRow extra ++ [.mark .closeParen]) } }

theorem isType_str : Row.IsType (wordType "str") :=
  Row.isType_word (by decide +kernel)

section Short

variable {extra : List TypedRow}

theorem isPlain_passedRow (h : ∀ typed ∈ extra, typed.IsWritten) :
    (passedRow extra).all Glyph.isPlain = true := by
  rw [List.all_eq_true]
  intro glyph hglyph
  obtain ⟨typed, htyped, hmem⟩ := List.mem_flatMap.mp hglyph
  simp only [List.mem_cons, List.not_mem_nil, or_false] at hmem
  rcases hmem with rfl | rfl | rfl
  · rfl
  · rfl
  · exact (h typed htyped).name

theorem isApart_passedRow (extra : List TypedRow) (word : Text) :
    Row.isApart (.word word :: (passedRow extra ++ [.mark .closeParen])) = true := by
  induction extra generalizing word with
  | nil => rfl
  | cons typed rest ih => exact ih typed.name

theorem nest_passedRow (extra : List TypedRow) :
    Row.nest (passedRow extra ++ [.mark .closeParen]) [.openParen] = some [] := by
  induction extra with
  | nil => rfl
  | cons typed rest ih => exact ih

theorem isWritten_shortRows (h : ∀ typed ∈ extra, typed.IsWritten) :
    (shortRows extra).IsWritten where
  decorator := (by decide +kernel : isNameWord "classmethod" = true)
  name := (by decide +kernel : isNameWord "new" = true)
  first := (by decide +kernel : isNameWord "cls" = true)
  parameters := List.forall_mem_cons.mpr
    ⟨⟨(by decide +kernel : isWord "content" = true), isType_str⟩, h⟩
  sound := (givesType_word (by decide +kernel : isNameWord "Self" = true)).sound
  apart := rfl
  nest := rfl
  body := by
    refine Row.isWritten_of_isPlain ?_ (isApart_passedRow extra "False") rfl
      (nest_passedRow extra)
    have hplain : [Glyph.word "return", .blank, .word "cls", .mark .dot, .word "new_with_example",
        .mark .openParen, .word "content", .mark .comma, .blank, .word "False"].all Glyph.isPlain =
          true := by decide +kernel
    show ([Glyph.word "return", .blank, .word "cls", .mark .dot, .word "new_with_example",
      .mark .openParen, .word "content", .mark .comma, .blank, .word "False"] ++
        (passedRow extra ++ [Glyph.mark .closeParen])).all Glyph.isPlain = true
    rw [List.all_append, List.all_append, hplain, isPlain_passedRow h]
    rfl

theorem kinds_passedRow (extra : List TypedRow) :
    (passedRow extra).kinds =
      (extra.map fun typed => wordKind typed.name).flatMap (behindComma fun kind => [kind]) := by
  induction extra with
  | nil => rfl
  | cons typed rest ih =>
      rw [passedRow, List.flatMap_cons, Row.kinds_append, List.map_cons, List.flatMap_cons, ← ih]
      rfl

theorem body_shortRows (extra : List TypedRow) :
    (shortRows extra).shape.body = .keyword .returnWord ::
      (passingKinds "cls" "new_with_example" "content" (extra.map fun typed => wordKind typed.name) ++
        [.newline]) := by
  have hkinds : [Glyph.word "return", .blank, .word "cls", .mark .dot, .word "new_with_example",
      .mark .openParen, .word "content", .mark .comma, .blank, .word "False"].flatMap Glyph.kinds =
        .keyword .returnWord :: [.name "cls", .symbol .dot, .name "new_with_example",
          .symbol .openParen, .name "content", .symbol .comma, .keyword .falseWord] := by
    decide +kernel
  show (Row.kinds ([Glyph.word "return", .blank, .word "cls", .mark .dot,
    .word "new_with_example", .mark .openParen, .word "content", .mark .comma, .blank,
    .word "False"] ++ (passedRow extra ++ [.mark .closeParen])) ++ []) ++ [.newline] = _
  rw [Row.kinds_append, Row.kinds_append, kinds_passedRow, passingKinds, Row.kinds, hkinds]
  simp [behindComma, Row.kinds, Glyph.kinds, Mark.symbol]

/-- The extra fields of a class are names, and their types are read. -/
def AreRead (need : Nat) (fields : List TypedRow) : Prop :=
  ∀ typed ∈ fields, typed.shape.IsRead need

theorem AreRead.kinds_isName {need : Nat} (h : AreRead need extra) :
    ∀ kind ∈ extra.map (fun typed => wordKind typed.name), kind.IsName := by
  intro kind hkind
  obtain ⟨typed, htyped, rfl⟩ := List.mem_map.mp hkind
  exact (h typed htyped).kind

theorem isRead_content : (TypedRow.mk "content" (wordType "str")).shape.IsRead 2 where
  kind := ⟨"content", by decide +kernel⟩
  type := (givesType_word (by decide +kernel)).takes

theorem isRead_shortRows {need : Nat} (hneed : 2 ≤ need) (h : AreRead need extra) :
    (shortRows extra).shape.IsRead need where
  typed := List.forall_mem_cons.mpr ⟨isRead_content.mono hneed, List.forall_mem_map.mpr h⟩
  returns := (givesType_word (by decide +kernel : isNameWord "Self" = true)).takes.mono hneed
  body := by
    rw [body_shortRows]
    exact takesStatement_return ((takesExpression_passing _ _ _ h.kinds_isName).mono hneed)

end Short

/-- A field as a name with its type, of which the tokens are known. -/
def fieldRow (spellType : Text → List TokenKind) (field : Field) : TypedRow :=
  ⟨field.name, [.piece field.type (spellType field.type)]⟩

variable (spellType : Text → List TokenKind)

theorem text_parameterRow (fields : List Field) :
    (parameterRow (fields.map (fieldRow spellType))).text =
      (parameterTexts fields).flatMap ([',', ' '] ++ ·) := by
  induction fields with
  | nil => rfl
  | cons field fields ih =>
      rw [List.map_cons, parameterRow, List.flatMap_cons, Row.text_append, parameterTexts,
        List.map_cons, List.flatMap_cons]
      rw [parameterRow] at ih
      rw [ih]
      repeat rw [Text.ofString_ofList]
      simp [Row.text, TypedRow.row, fieldRow, Glyph.text, Mark.text, parameterTexts]

theorem text_passedRow (fields : List Field) :
    (passedRow (fields.map (fieldRow spellType))).text =
      (fields.map Field.name).flatMap ([',', ' '] ++ ·) := by
  induction fields with
  | nil => rfl
  | cons field fields ih =>
      rw [List.map_cons, passedRow, List.flatMap_cons, Row.text_append, List.map_cons,
        List.flatMap_cons]
      rw [passedRow] at ih
      rw [ih]
      simp [Row.text, fieldRow, Glyph.text, Mark.text]

theorem lines_shortRows {fields : List Field} (hnames : ∀ field ∈ fields, field.name ≠ []) :
    (shortRows (fields.map (fieldRow spellType))).lines =
      Code.indent 1 (shortConstructor fields).lines := by
  have hparameters : Text.join ", " (shortParameters ++ parameterTexts fields) =
      ("cls, content: str" : Text) ++ (parameterRow (fields.map (fieldRow spellType))).text := by
    rw [text_parameterRow, shortParameters, List.cons_append, Text.join_eq_flatMap]
    repeat rw [Text.ofString_ofList]
    simp
  have hpassed : Text.join ", " (passedArguments ++ fields.map Field.name) =
      ("content, False" : Text) ++ (passedRow (fields.map (fieldRow spellType))).text := by
    rw [text_passedRow, passedArguments, List.cons_append, Text.join_eq_flatMap]
    repeat rw [Text.ofString_ofList]
    simp
  rw [lines_shortConstructor hnames, hparameters, hpassed, Code.indent_one_cons _ (by simp),
    Code.indent_one_cons _ (by simp), Code.indent_one_cons _ (by simp)]
  generalize fields.map (fieldRow spellType) = extra
  have hhead : (shortRows extra).head.text = ("def new(" : Text) ++ (("cls, content: str" : Text) ++
      (parameterRow extra).text) ++ (") -> Self:" : Text) := by
    show Row.text ([Glyph.word "def", .blank, .word "new", .mark .openParen, .word "cls", .mark .comma,
      .blank, .word "content", .mark .colon, .blank, .word "str"] ++ (parameterRow extra ++
        [Glyph.mark .closeParen, .blank, .mark .arrow, .blank, .word "Self", .mark .colon])) = _
    rw [Row.text_append, Row.text_append]
    simp only [Row.text, List.flatMap_cons, List.flatMap_nil, Glyph.text, Mark.text]
    repeat rw [Text.ofString_ofList]
    simp
  have hbody : spaces 8 ++ (shortRows extra).body.first.text = Code.indentUnit ++
      (("    return cls.new_with_example(" : Text) ++ (("content, False" : Text) ++
        (passedRow extra).text) ++ (")" : Text)) := by
    show spaces 8 ++ Row.text ([Glyph.word "return", .blank, .word "cls", .mark .dot,
      .word "new_with_example", .mark .openParen, .word "content", .mark .comma, .blank,
      .word "False"] ++ (passedRow extra ++ [Glyph.mark .closeParen])) = _
    rw [Row.text_append, Row.text_append, Code.indentUnit]
    simp only [Row.text, List.flatMap_cons, List.flatMap_nil, Glyph.text, Mark.text]
    repeat rw [Text.ofString_ofList]
    simp [spaces]
  have hdecorator : spaces 4 ++ (decoratorRow "classmethod").text =
      Code.indentUnit ++ ("@classmethod" : Text) := by decide +kernel
  have hunit : spaces 4 = Code.indentUnit := by decide +kernel
  rw [← hbody, ← hhead, ← hdecorator, ← hunit]
  rfl

/-! ## Lines with margins -/

/-- Rows with their margins as they stand in a text. -/
def written (rows : List (Nat × Row)) : List Text :=
  rows.map fun line => spaces line.1 ++ line.2.text

/-- The rows one level further in. -/
def inwards (rows : List (Nat × Row)) : List (Nat × Row) :=
  rows.map fun line => (line.1 + 4, line.2)

theorem Row.text_ne_nil {row : Row} {mark : Mark} (h : .mark mark ∈ row) : row.text ≠ [] := by
  intro hnil
  have hmark : mark.text = [] := List.flatMap_eq_nil_iff.mp hnil _ h
  cases mark
  all_goals cases hmark

theorem spaces_add (m n : Nat) : spaces (m + n) = spaces n ++ spaces m := by
  rw [spaces, Nat.add_comm, List.replicate_add]
  rfl

theorem indent_written {rows : List (Nat × Row)} (h : ∀ line ∈ rows, ∃ mark, .mark mark ∈ line.2) :
    Code.indent 1 (written rows) = written (inwards rows) := by
  induction rows with
  | nil => rfl
  | cons line rest ih =>
      obtain ⟨⟨mark, hmark⟩, hrest⟩ := List.forall_mem_cons.mp h
      have hne : spaces line.1 ++ line.2.text ≠ [] := fun hnil =>
        Row.text_ne_nil hmark (List.append_eq_nil_iff.mp hnil).2
      have hunit : Code.indentUnit = spaces 4 := by decide +kernel
      show Code.indent 1 (_ :: written rest) = (spaces (line.1 + 4) ++ line.2.text) :: _
      rw [Code.indent_one_cons _ hne, ih hrest, spaces_add, hunit, List.append_assoc]
      rfl

theorem written_append (front back : List (Nat × Row)) :
    written (front ++ back) = written front ++ written back :=
  List.map_append

theorem inwards_append (front back : List (Nat × Row)) :
    inwards (front ++ back) = inwards front ++ inwards back :=
  List.map_append

/-! ## The full constructor -/

/-- An argument that stands alone on its line. -/
def argumentRow (name : Text) (value : Row) : Row :=
  .word name :: .mark .assign :: (value ++ [.mark .comma])

/-- What the base record of a new message is made of, up to the category. -/
def givenRows : List Row :=
  [argumentRow "content" [.word "content"], argumentRow "example" [.word "example"]]

def memberRow (category : Text) : Row :=
  argumentRow "message_type" [.word "MessageType", .mark .dot, .word category]

def emptyRows : List Row :=
  [argumentRow "additional_kwargs" [.mark .openBrace, .mark .closeBrace],
    argumentRow "response_metadata" [.mark .openBrace, .mark .closeBrace],
    argumentRow "id" [.word "None"], argumentRow "name" [.word "None"]]

def baseRows (category : Text) : List Row :=
  givenRows ++ memberRow category :: emptyRows

def extraRows (extra : List TypedRow) : List Row :=
  extra.map fun typed => argumentRow typed.name [.word typed.name]

def atMargin (n : Nat) (rows : List Row) : List (Nat × Row) :=
  rows.map fun row => (n, row)

theorem forall_mem_atMargin {p : Row → Prop} {n : Nat} {rows : List Row}
    (h : ∀ row ∈ rows, p row) : ∀ line ∈ atMargin n rows, p line.2 :=
  List.forall_mem_map.mpr h

def constructionHead : Row :=
  [.word "return", .blank, .word "cls", .mark .openParen]

def baseHead : Row :=
  [.word "base", .mark .assign, .word "BaseMessageFields", .mark .openParen]

/-- What a message is constructed of, at the given margin: the base record and
the extra fields. -/
def initializerRows (n : Nat) (category : Text) (extra : List TypedRow) : List (Nat × Row) :=
  (n, baseHead) :: (atMargin (n + 4) (baseRows category) ++
    (n, [.mark .closeParen, .mark .comma]) :: atMargin n (extraRows extra))

/-- The construction of a message over several lines. -/
def construction (category : Text) (extra : List TypedRow) : Paragraph where
  first := constructionHead
  more := initializerRows 12 category extra ++ [(8, [.mark .closeParen])]

def fullRows (category : Text) (extra : List TypedRow) : MethodRows :=
  { decorator := some "classmethod", name := "new_with_example", first := "cls"
    parameters := ⟨"content", wordType "str"⟩ :: ⟨"example", wordType "bool"⟩ :: extra
    returns := wordType "Self", body := construction category extra }

section Full

variable {category : Text} {extra : List TypedRow}

/-- A row that is read by itself within the construction. -/
structure IsInner (row : Row) : Prop where
  plain : row.all Glyph.isPlain = true
  apart : row.isApart = true
  code : row.isCode = true

theorem isInner_baseRows (h : isWord category = true) :
    ∀ row ∈ baseRows category, IsInner row := by
  have hmember : (memberRow category).all Glyph.isPlain = true := by
    have hplain : [Glyph.word "message_type", .mark .assign, .word "MessageType",
        .mark .dot].all Glyph.isPlain = true := by decide +kernel
    show ([Glyph.word "message_type", .mark .assign, .word "MessageType", .mark .dot] ++
      [Glyph.word category, .mark .comma]).all Glyph.isPlain = true
    rw [List.all_append, hplain]
    simpa [Glyph.isPlain] using h
  have hplain : ∀ row ∈ givenRows ++ emptyRows, row.all Glyph.isPlain = true :=
    List.all_eq_true.mp (by decide +kernel)
  intro row hrow
  rcases List.mem_append.mp hrow with hrow | hrow
  · refine ⟨hplain row (List.mem_append_left _ hrow), ?_, ?_⟩
    all_goals
      simp only [givenRows, List.mem_cons, List.not_mem_nil, or_false] at hrow
      rcases hrow with rfl | rfl
      all_goals rfl
  rcases List.mem_cons.mp hrow with rfl | hrow
  · exact ⟨hmember, rfl, rfl⟩
  · refine ⟨hplain row (List.mem_append_right _ hrow), ?_, ?_⟩
    all_goals
      simp only [emptyRows, List.mem_cons, List.not_mem_nil, or_false] at hrow
      rcases hrow with rfl | rfl | rfl | rfl
      all_goals rfl

theorem isInner_extraRows (h : ∀ typed ∈ extra, typed.IsWritten) :
    ∀ row ∈ extraRows extra, IsInner row := by
  intro row hrow
  obtain ⟨typed, htyped, rfl⟩ := List.mem_map.mp hrow
  have hname := (h typed htyped).name
  exact ⟨by simp [argumentRow, Glyph.isPlain, hname], rfl, rfl⟩

theorem isInner_construction (hcategory : isWord category = true)
    (hextra : ∀ typed ∈ extra, typed.IsWritten) :
    ∀ row ∈ (construction category extra).rows, IsInner row := by
  intro row hrow
  rcases List.mem_cons.mp hrow with rfl | hrow
  · exact ⟨(by decide +kernel : constructionHead.all Glyph.isPlain = true), rfl, rfl⟩
  obtain ⟨line, hline, rfl⟩ := List.mem_map.mp hrow
  simp only [construction, initializerRows, List.mem_cons, List.mem_append, List.not_mem_nil,
    or_false] at hline
  rcases hline with (rfl | hline | rfl | hline) | rfl
  · exact ⟨(by decide +kernel : baseHead.all Glyph.isPlain = true), rfl, rfl⟩
  · exact forall_mem_atMargin (isInner_baseRows hcategory) line hline
  · exact ⟨rfl, rfl, rfl⟩
  · exact forall_mem_atMargin (isInner_extraRows hextra) line hline
  · exact ⟨rfl, rfl, rfl⟩

theorem nestMore_extraRows (n : Nat) (extra : List TypedRow) (back : List (Nat × Row)) :
    Paragraph.nestMore (atMargin n (extraRows extra) ++ back) [.openParen] =
      Paragraph.nestMore back [.openParen] := by
  induction extra with
  | nil => rfl
  | cons typed rest ih => exact ih

theorem isWritten_construction (hcategory : isWord category = true)
    (hextra : ∀ typed ∈ extra, typed.IsWritten) : (construction category extra).IsWritten where
  sound row hrow := Row.isSound_of_isPlain (isInner_construction hcategory hextra row hrow).plain
  apart row hrow := (isInner_construction hcategory hextra row hrow).apart
  code row hrow := (isInner_construction hcategory hextra row hrow).code
  closed := by
    have hback := nestMore_extraRows 12 extra [(8, [.mark .closeParen])]
    have hall : ((construction category extra).first.nest []).bind
        (Paragraph.nestMore (construction category extra).more) =
          Paragraph.nestMore (atMargin 12 (extraRows extra) ++ [(8, [.mark .closeParen])])
            [.openParen] := rfl
    rw [Paragraph.isClosed, hall, hback]
    rfl

theorem isWritten_fullRows (hcategory : isWord category = true)
    (hextra : ∀ typed ∈ extra, typed.IsWritten) : (fullRows category extra).IsWritten where
  decorator := (by decide +kernel : isNameWord "classmethod" = true)
  name := (by decide +kernel : isNameWord "new_with_example" = true)
  first := (by decide +kernel : isNameWord "cls" = true)
  parameters := List.forall_mem_cons.mpr
    ⟨⟨(by decide +kernel : isWord "content" = true), isType_str⟩, List.forall_mem_cons.mpr
      ⟨⟨(by decide +kernel : isWord "example" = true), Row.isType_word (by decide +kernel)⟩,
        hextra⟩⟩
  sound := (givesType_word (by decide +kernel : isNameWord "Self" = true)).sound
  apart := rfl
  nest := rfl
  body := isWritten_construction hcategory hextra

end Full

/-! ### Its tokens -/

theorem flatMap_atMargin (n : Nat) (rows : List Row) :
    (atMargin n rows).flatMap (fun line => line.2.kinds) = rows.flatMap Row.kinds :=
  List.flatMap_map ..

theorem kinds_extraRows (extra : List TypedRow) :
    .symbol .comma :: (extraRows extra).flatMap Row.kinds =
      (extra.map fun typed => selfGiven (wordKind typed.name)).flatMap
        (behindComma GivenValue.spell) ++ [.symbol .comma] := by
  induction extra with
  | nil => rfl
  | cons typed rest ih =>
      rw [List.map_cons, List.flatMap_cons, List.append_assoc, ← ih]
      rfl

/-- The base record with the category in it. -/
theorem kinds_baseRows (category : Text) :
    .name "BaseMessageFields" :: .symbol .openParen ::
        ((baseRows category).flatMap Row.kinds ++ [.symbol .closeParen]) =
      baseKinds (wordKind category) := by
  have hgiven : givenRows.flatMap Row.kinds =
      [.name "content", .symbol .assign, .name "content", .symbol .comma,
        .name "example", .symbol .assign, .name "example", .symbol .comma] := by
    decide +kernel
  have hmember : (memberRow category).kinds = [.name "message_type", .symbol .assign,
      .name "MessageType", .symbol .dot, wordKind category, .symbol .comma] := by
    have hfront : [wordKind "message_type", wordKind "MessageType"] =
        [.name "message_type", .name "MessageType"] := by decide +kernel
    obtain ⟨hfield, htype, -⟩ := by simpa only [List.cons.injEq] using hfront
    show [wordKind "message_type", _, wordKind "MessageType", _, wordKind category, _] = _
    rw [hfield, htype]
    rfl
  have hempty : emptyRows.flatMap Row.kinds =
      [.name "additional_kwargs", .symbol .assign, .symbol .openBrace, .symbol .closeBrace,
        .symbol .comma, .name "response_metadata", .symbol .assign, .symbol .openBrace,
        .symbol .closeBrace, .symbol .comma, .name "id", .symbol .assign, .keyword .noneWord,
        .symbol .comma, .name "name", .symbol .assign, .keyword .noneWord, .symbol .comma] := by
    decide +kernel
  rw [baseRows, List.flatMap_append, List.flatMap_cons, hgiven, hmember, hempty]
  rfl

theorem body_fullRows (category : Text) (extra : List TypedRow) :
    (fullRows category extra).shape.body = .keyword .returnWord ::
      (callKinds "cls" ⟨.name "base", baseKinds (wordKind category)⟩
        (extra.map fun typed => selfGiven (wordKind typed.name)) ++ [.newline]) := by
  have hhead : constructionHead.kinds =
      [.keyword .returnWord, .name "cls", .symbol .openParen] := by decide +kernel
  have hbase : baseHead.kinds = [.name "base", .symbol .assign, .name "BaseMessageFields",
      .symbol .openParen] := by decide +kernel
  have hextra := kinds_extraRows extra
  show (Row.kinds constructionHead ++ (initializerRows 12 category extra ++
    [((8 : Nat), [Glyph.mark .closeParen])]).flatMap fun (line : Nat × Row) => line.2.kinds) ++
      [.newline] = _
  rw [initializerRows, List.flatMap_append, List.flatMap_cons, List.flatMap_append,
    flatMap_atMargin, List.flatMap_cons, flatMap_atMargin, hhead, hbase, callKinds,
    GivenValue.spell, ← kinds_baseRows]
  have hclose : Row.kinds [.mark .closeParen, .mark .comma] =
      [TokenKind.symbol .closeParen, .symbol .comma] := rfl
  have hlast : Row.kinds [.mark .closeParen] = [TokenKind.symbol .closeParen] := rfl
  have hnames : (extra.map fun typed => selfGiven (wordKind typed.name)).flatMap
      (behindComma GivenValue.spell) ++ [TokenKind.symbol .comma, .symbol .closeParen] =
        .symbol .comma :: ((extraRows extra).flatMap Row.kinds ++ [.symbol .closeParen]) := by
    rw [← List.cons_append, hextra, List.append_assoc]
    rfl
  rw [hnames, hclose, List.flatMap_singleton, hlast]
  simp only [List.append_assoc, List.cons_append, List.nil_append]

theorem isRead_example : (TypedRow.mk "example" (wordType "bool")).shape.IsRead 2 where
  kind := ⟨"example", by decide +kernel⟩
  type := (givesType_word (by decide +kernel)).takes

theorem isRead_fullRows {need : Nat} {category : Text} {extra : List TypedRow} (hneed : 4 ≤ need)
    (hcategory : isNameWord category = true) (h : AreRead need extra) :
    (fullRows category extra).shape.IsRead need where
  typed := List.forall_mem_cons.mpr
    ⟨isRead_content.mono (by omega), List.forall_mem_cons.mpr
      ⟨isRead_example.mono (by omega), List.forall_mem_map.mpr h⟩⟩
  returns := (givesType_word (by decide +kernel : isNameWord "Self" = true)).takes.mono (by omega)
  body := by
    rw [body_fullRows, wordKind_of_isNameWord hcategory]
    have hbase : GivenValue.IsRead 2 ⟨.name "base", baseKinds (.name (Text.normalForm category))⟩ :=
      ⟨⟨_, rfl⟩, takesExpression_base _⟩
    have hextra : ∀ given ∈ extra.map fun typed => selfGiven (wordKind typed.name),
        GivenValue.IsRead 2 given := List.forall_mem_map.mpr fun typed htyped =>
      (isRead_selfGiven (h typed htyped).kind).mono (by decide)
    exact takesStatement_return ((takesExpression_call "cls" (List.forall_mem_cons.mpr
      ⟨hbase, hextra⟩)).mono (by omega))

/-- The construction up to the category. -/
def givenKinds : List TokenKind :=
  [.keyword .returnWord, .name "cls", .symbol .openParen, .name "base", .symbol .assign,
    .name "BaseMessageFields", .symbol .openParen,
    .name "content", .symbol .assign, .name "content", .symbol .comma,
    .name "example", .symbol .assign, .name "example", .symbol .comma,
    .name "message_type", .symbol .assign, .name "MessageType", .symbol .dot]

set_option maxRecDepth 4000 in
theorem Refuses.construction (word : Keyword) (depth nesting : Nat) (rest : List TokenKind) :
    Refuses (statementAt (partsAt (depth + 4)) (nesting + 1))
      (givenKinds ++ .keyword word :: rest) := by
  have hrefuses : Refuses (statementAt (partsAt (depth + 4)) (nesting + 1))
      ((givenKinds ++ [.keyword word]) ++ rest) :=
    Refuses.of_run _ fun _ _ => ⟨_, rfl⟩
  rw [List.append_assoc] at hrefuses
  exact hrefuses

/-- A category that is a keyword is no member of anything. -/
theorem refuses_fullRows {category : Text} {word : Keyword} {extra : List TypedRow}
    {depth nesting : Nat} {rest : List TokenKind} (hcategory : wordKind category = .keyword word)
    (hdepth : 4 ≤ depth) (hnesting : 0 < nesting) :
    Refuses (statementAt (partsAt depth) nesting)
      ((fullRows category extra).shape.body ++ rest) := by
  obtain ⟨inner, rfl⟩ : ∃ inner, depth = inner + 4 := ⟨depth - 4, by omega⟩
  obtain ⟨less, rfl⟩ : ∃ less, nesting = less + 1 := ⟨nesting - 1, by omega⟩
  rw [body_fullRows, hcategory]
  exact Refuses.construction word inner less _

/-! ### Its lines -/

section Lines

variable (spellType : Text → List TokenKind)

theorem written_baseRows (category : Text) :
    written (atMargin 0 (baseRows category)) = (baseArguments category).map Code.withComma := by
  simp only [written, atMargin, baseRows, givenRows, memberRow, emptyRows, argumentRow,
    List.cons_append, List.nil_append, List.map_cons, List.map_nil, Row.text, List.flatMap_cons,
    List.flatMap_nil, Glyph.text, Mark.text, baseArguments, Code.withComma]
  repeat rw [Text.ofString_ofList]
  simp [spaces]

theorem written_extraRows (fields : List Field) :
    written (atMargin 0 (extraRows (fields.map (fieldRow spellType)))) =
      (fields.map initializerText).map Code.withComma := by
  simp only [written, atMargin, extraRows, List.map_map]
  refine List.map_congr_left fun field _ => ?_
  simp [argumentRow, fieldRow, Row.text, Glyph.text, Mark.text, initializerText, Code.withComma,
    spaces]

theorem exists_mark_baseRows (category : Text) :
    ∀ row ∈ baseRows category, ∃ mark, .mark mark ∈ row := by
  have hmark : ∀ name value, ∃ mark, .mark mark ∈ argumentRow name value := fun _ _ =>
    ⟨.assign, List.mem_cons_of_mem _ (List.mem_cons_self ..)⟩
  simp only [baseRows, givenRows, emptyRows, List.cons_append, List.nil_append,
    List.forall_mem_cons]
  exact ⟨hmark _ _, hmark _ _, hmark _ _, hmark _ _, hmark _ _, hmark _ _, hmark _ _,
    List.forall_mem_nil _⟩

theorem exists_mark_extraRows (extra : List TypedRow) :
    ∀ row ∈ extraRows extra, ∃ mark, .mark mark ∈ row := by
  intro row hrow
  obtain ⟨typed, -, rfl⟩ := List.mem_map.mp hrow
  exact ⟨.assign, List.mem_cons_of_mem _ (List.mem_cons_self ..)⟩

theorem exists_mark_initializerRows (n : Nat) (category : Text) (extra : List TypedRow) :
    ∀ line ∈ initializerRows n category extra, ∃ mark, .mark mark ∈ line.2 := by
  intro line hline
  simp only [initializerRows, List.mem_cons, List.mem_append] at hline
  rcases hline with rfl | hline | rfl | hline
  · exact ⟨.assign, List.mem_cons_of_mem _ (List.mem_cons_self ..)⟩
  · exact forall_mem_atMargin (exists_mark_baseRows category) line hline
  · exact ⟨.comma, List.mem_cons_of_mem _ (List.mem_cons_self ..)⟩
  · exact forall_mem_atMargin (exists_mark_extraRows extra) line hline

theorem inwards_atMargin (n : Nat) (rows : List Row) :
    inwards (atMargin n rows) = atMargin (n + 4) rows :=
  List.map_map ..

theorem indent_initializerRows (n : Nat) (category : Text) (extra : List TypedRow) :
    Code.indent 1 (written (initializerRows n category extra)) =
      written (initializerRows (n + 4) category extra) := by
  rw [indent_written (exists_mark_initializerRows n category extra)]
  show written ((n + 4, baseHead) :: inwards (_ ++ (n, _) :: atMargin n (extraRows extra))) = _
  rw [inwards_append, inwards_atMargin]
  show written (_ :: (_ ++ (n + 4, _) :: inwards (atMargin n (extraRows extra)))) = _
  rw [inwards_atMargin]
  rfl

/-- The initializers of a message as the lines of the call have them. -/
theorem written_initializerRows (category : Text) (fields : List Field) :
    written (initializerRows 0 category (fields.map (fieldRow spellType))) =
      baseLines category ++ (fields.map initializerText).map Code.withComma := by
  have hbase : Code.indent 1 ((baseArguments category).map Code.withComma) =
      written (atMargin 4 (baseRows category)) := by
    rw [← written_baseRows, indent_written (forall_mem_atMargin (exists_mark_baseRows category)),
      inwards_atMargin]
  have hhead : ("base=BaseMessageFields(" : Text) = spaces 0 ++ baseHead.text := by
    decide +kernel
  rw [baseLines, hbase, hhead, ← written_extraRows spellType]
  show _ :: written (_ ++ _ :: _) = (_ :: (written _ ++ [_])) ++ written _
  rw [written_append, List.cons_append, List.append_assoc]
  rfl

theorem lines_fullRows {category : Text} {fields : List Field} (hcategory : '\n' ∉ category)
    (hnames : ∀ field ∈ fields, '\n' ∉ field.name) :
    (fullRows category (fields.map (fieldRow spellType))).lines =
      Code.indent 1 (fullConstructor fields category).lines := by
  have hparameters : Text.join ", " (fullParameters ++ parameterTexts fields) =
      ("cls, content: str, example: bool" : Text) ++
        (parameterRow (fields.map (fieldRow spellType))).text := by
    rw [text_parameterRow, fullParameters, List.cons_append, Text.join_eq_flatMap]
    repeat rw [Text.ofString_ofList]
    simp
  have hinner : Code.indent 1 (Code.indent 1 (constructionLines fields category)) =
      (Code.indentUnit ++ (Code.indentUnit ++ ("return cls(" : Text))) ::
        (written (initializerRows 12 category (fields.map (fieldRow spellType))) ++
          [Code.indentUnit ++ (Code.indentUnit ++ [')'])]) := by
    rw [constructionLines, ← written_initializerRows spellType, indent_initializerRows,
      List.cons_append, Code.indent_one_cons _ (by simp), Code.indent_append,
      indent_initializerRows, Code.indent_one_cons _ (by simp [Code.indentUnit]),
      Code.indent_append, indent_initializerRows]
    rfl
  rw [lines_fullConstructor hcategory hnames, hparameters, Code.indent_one_cons _ (by simp),
    Code.indent_one_cons _ (by simp), hinner]
  generalize fields.map (fieldRow spellType) = extra
  have hhead : (fullRows category extra).head.text = ("def new_with_example(" : Text) ++
      (("cls, content: str, example: bool" : Text) ++ (parameterRow extra).text) ++
        (") -> Self:" : Text) := by
    show Row.text ([Glyph.word "def", .blank, .word "new_with_example", .mark .openParen,
      .word "cls", .mark .comma, .blank, .word "content", .mark .colon, .blank, .word "str",
      .mark .comma, .blank, .word "example", .mark .colon, .blank, .word "bool"] ++
        (parameterRow extra ++ [Glyph.mark .closeParen, .blank, .mark .arrow, .blank,
          .word "Self", .mark .colon])) = _
    rw [Row.text_append, Row.text_append]
    simp only [Row.text, List.flatMap_cons, List.flatMap_nil, Glyph.text, Mark.text]
    repeat rw [Text.ofString_ofList]
    simp
  have hfirst : spaces 8 ++ constructionHead.text =
      Code.indentUnit ++ (Code.indentUnit ++ ("return cls(" : Text)) := by decide +kernel
  have hlast : spaces 8 ++ Row.text [.mark .closeParen] =
      Code.indentUnit ++ (Code.indentUnit ++ [')']) := by decide +kernel
  have hdecorator : spaces 4 ++ (decoratorRow "classmethod").text =
      Code.indentUnit ++ ("@classmethod" : Text) := by decide +kernel
  have hunit : spaces 4 = Code.indentUnit := by decide +kernel
  have hmore : (construction category extra).more.map (fun line => spaces line.1 ++ line.2.text) =
      written (initializerRows 12 category extra) ++
        [Code.indentUnit ++ (Code.indentUnit ++ [')'])] := by
    rw [← hlast]
    exact written_append _ _
  rw [← hhead, ← hfirst, ← hmore, ← hdecorator, ← hunit]
  rfl

end Lines

end MessageForge.Source
