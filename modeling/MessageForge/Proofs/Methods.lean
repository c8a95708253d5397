import MessageForge.Proofs.Members
import MessageForge.Proofs.Rows
import MessageForge.Proofs.Statements

/-!
# Methods in rows

A generated method is written as rows: its decorator, its head with the
parameters in it, and a body of one statement. What is said here of all methods
of this form holds of each member, whatever its names and types are.
-/

namespace MessageForge.Source

/-! ## Rows behind rows -/

namespace Row

theorem text_append (front back : Row) : (front ++ back).text = front.text ++ back.text :=
  List.flatMap_append

theorem kinds_append (front back : Row) : (front ++ back).kinds = front.kinds ++ back.kinds :=
  List.flatMap_append

/-- Whether a row can be read so far depends on the next glyph only. -/
theorem isApart_append_cons (glyph : Glyph) (back : Row) : ∀ front : Row,
    isApart (front ++ glyph :: back) = (isApart (front ++ [glyph]) && isApart (glyph :: back))
  | [] => by
      have hlast : glyph.isApart [] = true := by cases glyph <;> rfl
      show _ = ((glyph.isApart [] && true) && _)
      rw [hlast]
      rfl
  | [first] => by
      have hfirst : first.isApart (glyph :: back) = first.isApart [glyph] := by
        cases first <;> cases glyph <;> rfl
      have hlast : glyph.isApart [] = true := by cases glyph <;> rfl
      show (first.isApart (glyph :: back) && isApart (glyph :: back)) =
        ((first.isApart [glyph] && (glyph.isApart [] && true)) && _)
      rw [hfirst, hlast, Bool.and_true, Bool.and_true]
  | first :: second :: front => by
      have hfirst : first.isApart (second :: front ++ glyph :: back) =
          first.isApart (second :: front ++ [glyph]) := by
        cases first <;> cases second <;> rfl
      show (first.isApart (second :: front ++ glyph :: back) &&
          isApart (second :: front ++ glyph :: back)) =
        ((first.isApart (second :: front ++ [glyph]) && isApart (second :: front ++ [glyph])) && _)
      rw [hfirst, isApart_append_cons glyph back (second :: front), Bool.and_assoc]

theorem nest_append (front back : Row) (openers : List Symbol) :
    Row.nest (front ++ back) openers = (Row.nest front openers).bind (Row.nest back) := by
  induction front generalizing openers with
  | nil => rfl
  | cons glyph front ih =>
      show (glyph.nest openers).bind (Row.nest (front ++ back)) = _
      rw [funext ih]
      exact (Option.bind_assoc (glyph.nest openers) (Row.nest front) (Row.nest back)).symm

/-- The row of a type: it can be read where fields and parameters have it. -/
structure IsType (row : Row) : Prop where
  sound : row.IsSound
  apart : ∀ mark : Mark, mark = .comma ∨ mark = .closeParen →
    (row ++ [Glyph.mark mark]).isApart = true
  alone : row.isApart = true
  nest : ∀ openers : List Symbol, openers.length ≤ 1 → row.nest openers = some openers

theorem isType_word {word : Text} (h : isWord word = true) : IsType [.word word] where
  sound := List.forall_mem_singleton.mpr h
  apart := by
    rintro mark (rfl | rfl)
    · rfl
    · rfl
  alone := rfl
  nest _ _ := rfl

theorem isType_piece {piece : Text} {kinds : List TokenKind} (h : IsPiece piece kinds) :
    IsType [.piece piece kinds] where
  sound := List.forall_mem_singleton.mpr h
  apart := by
    rintro mark (rfl | rfl)
    · rfl
    · rfl
  alone := rfl
  nest openers hlength := by
    show (if openers.length ≤ 1 then some openers else none).bind some = _
    rw [if_pos hlength]
    rfl

end Row

/-! ## Names with types -/

/-- A name with the row of its type. -/
structure TypedRow where
  name : Text
  type : Row

namespace TypedRow

def row (typed : TypedRow) : Row :=
  .word typed.name :: .mark .colon :: .blank :: typed.type

/-- What a parser sees of a typed name. -/
def shape (typed : TypedRow) : TypedName :=
  ⟨wordKind typed.name, typed.type.kinds⟩

structure IsWritten (typed : TypedRow) : Prop where
  name : isWord typed.name = true
  type : typed.type.IsType

end TypedRow

/-- The parameters behind the first one. -/
def parameterRow (parameters : List TypedRow) : Row :=
  parameters.flatMap fun typed => .mark .comma :: .blank :: typed.row

theorem kinds_parameterRow (parameters : List TypedRow) :
    (parameterRow parameters).kinds =
      (parameters.map TypedRow.shape).flatMap (behindComma TypedName.spell) := by
  induction parameters with
  | nil => rfl
  | cons typed rest ih =>
      rw [parameterRow, List.flatMap_cons, Row.kinds_append, List.map_cons, List.flatMap_cons, ← ih]
      rfl

section ParameterRows

variable {parameters : List TypedRow} (h : ∀ typed ∈ parameters, typed.IsWritten)
include h

theorem isSound_parameterRow : (parameterRow parameters).IsSound := by
  intro glyph hglyph
  obtain ⟨typed, htyped, hmem⟩ := List.mem_flatMap.mp hglyph
  obtain ⟨hname, htype⟩ := h typed htyped
  simp only [TypedRow.row, List.mem_cons] at hmem
  rcases hmem with rfl | rfl | rfl | rfl | rfl | hmem
  · trivial
  · trivial
  · exact hname
  · trivial
  · trivial
  · exact htype.sound glyph hmem

theorem isApart_parameterRow {back : Row}
    (hback : Row.isApart (.mark .closeParen :: back) = true) :
    Row.isApart (parameterRow parameters ++ .mark .closeParen :: back) = true := by
  induction parameters with
  | nil => exact hback
  | cons typed rest ih =>
      obtain ⟨-, htype⟩ := h typed (List.mem_cons_self ..)
      have hrest := ih fun other hother => h other (List.mem_cons_of_mem _ hother)
      obtain ⟨mark, more, hmore, hmark⟩ : ∃ mark more,
          parameterRow rest ++ .mark .closeParen :: back = .mark mark :: more ∧
            (mark = .comma ∨ mark = .closeParen) := by
        cases rest with
        | nil => exact ⟨_, _, rfl, .inr rfl⟩
        | cons next others => exact ⟨_, _, rfl, .inl rfl⟩
      have hall : Row.isApart (typed.type ++ (parameterRow rest ++ .mark .closeParen :: back)) =
          true := by
        rw [hmore] at hrest ⊢
        rw [Row.isApart_append_cons, htype.apart mark hmark, hrest]
        rfl
      rw [parameterRow, List.flatMap_cons, List.append_assoc]
      exact hall

theorem nest_parameterRow : (parameterRow parameters).nest [.openParen] = some [.openParen] := by
  induction parameters with
  | nil => rfl
  | cons typed rest ih =>
      obtain ⟨-, htype⟩ := h typed (List.mem_cons_self ..)
      have hrest := ih fun other hother => h other (List.mem_cons_of_mem _ hother)
      have htyped : Row.nest (.mark .comma :: .blank :: typed.row) [.openParen] =
          some [.openParen] := htype.nest _ (Nat.le_refl _)
      rw [parameterRow, List.flatMap_cons, Row.nest_append, htyped]
      exact hrest

end ParameterRows

/-! ## Methods -/

/-- A word that is read as a name. -/
def isNameWord (word : Text) : Bool :=
  isWord word && (Keyword.ofText? word).isNone

theorem isWord_of_isNameWord {word : Text} (h : isNameWord word = true) : isWord word = true :=
  (Bool.and_eq_true_iff.mp h).1

theorem wordKind_of_isNameWord {word : Text} (h : isNameWord word = true) :
    wordKind word = .name (Text.normalForm word) := by
  have hnone := Option.isNone_iff_eq_none.mp (Bool.and_eq_true_iff.mp h).2
  rw [wordKind, hnone]

structure MethodRows where
  decorator : Option Text := none
  name : Text
  first : Text
  parameters : List TypedRow := []
  returns : Row
  body : Paragraph

def decoratorRow (decorator : Text) : Row :=
  [.mark .at, .word decorator]

namespace MethodRows

def head (method : MethodRows) : Row :=
  .word "def" :: .blank :: .word method.name :: .mark .openParen :: .word method.first ::
    (parameterRow method.parameters ++ (.mark .closeParen :: .blank :: .mark .arrow :: .blank ::
      (method.returns ++ [.mark .colon])))

structure IsWritten (method : MethodRows) : Prop where
  decorator : method.decorator.all isNameWord = true
  name : isNameWord method.name = true
  first : isNameWord method.first = true
  parameters : ∀ typed ∈ method.parameters, typed.IsWritten
  sound : method.returns.IsSound
  apart : Row.isApart (method.returns ++ [.mark .colon]) = true
  nest : method.returns.nest [] = some []
  body : method.body.IsWritten

/-- What a parser sees of a method. -/
def shape (method : MethodRows) : MethodShape where
  name := Text.normalForm method.name
  first := Text.normalForm method.first
  typed := method.parameters.map TypedRow.shape
  returns := method.returns.kinds
  body := method.body.kinds ++ [.newline]

def kinds (method : MethodRows) : List TokenKind :=
  method.decorator.elim [] (fun decorator => decoratorKinds (Text.normalForm decorator)) ++
    method.shape.spell

/-- The lines of a method in its class. -/
def lines (method : MethodRows) : List Text :=
  method.decorator.elim [] (fun decorator => [spaces 4 ++ (decoratorRow decorator).text]) ++
    (spaces 4 ++ method.head.text) :: (spaces 8 ++ method.body.first.text) ::
      method.body.more.map fun line => spaces line.1 ++ line.2.text

end MethodRows

/-- Lines as they stand in a text, each with its line feed. -/
def ended (lines : List Text) : Text :=
  lines.flatMap (· ++ ['\n'])

theorem ended_cons (line : Text) (lines : List Text) (rest : Text) :
    ended (line :: lines) ++ rest = line ++ '\n' :: (ended lines ++ rest) := by
  rw [ended, List.flatMap_cons, List.append_assoc, List.append_assoc]
  rfl

theorem ended_append (front back : List Text) : ended (front ++ back) = ended front ++ ended back :=
  List.flatMap_append

/-- The lines of a paragraph are its text. -/
theorem ended_paragraph (n : Nat) (paragraph : Paragraph) (rest : Text) :
    ended ((spaces n ++ paragraph.first.text) ::
        paragraph.more.map fun line => spaces line.1 ++ line.2.text) ++ rest =
      spaces n ++ (paragraph.text ++ '\n' :: rest) := by
  have hmore : ∀ more : List (Nat × Row),
      '\n' :: (ended (more.map fun line => spaces line.1 ++ line.2.text) ++ rest) =
        Paragraph.moreText more ++ '\n' :: rest := by
    intro more
    induction more with
    | nil => rfl
    | cons line more ih =>
        rw [List.map_cons, ended_cons, ih]
        simp only [Paragraph.moreText, List.flatMap_cons, List.append_assoc, List.cons_append]
  rw [ended_cons, hmore, Paragraph.text, List.append_assoc, List.append_assoc]

/-- A line at the margin of a block that is a statement by itself. -/
theorem Continues.row {indents : List (Nat × Nat)} {n : Nat} {row : Row} {text : Text}
    {kinds : List TokenKind} (hwritten : Paragraph.IsWritten ⟨row, []⟩)
    (hhead : indents.headD (0, 0) = (n, n)) (h : Spells (.start indents []) text kinds) :
    Continues indents (spaces n ++ row.text ++ '\n' :: text) (row.kinds ++ .newline :: kinds) := by
  have hline := Continues.paragraph hwritten hhead h
  rw [Paragraph.text, Paragraph.kinds, Paragraph.moreText, List.flatMap_nil, List.flatMap_nil,
    List.append_nil, List.append_nil] at hline
  rw [List.append_assoc]
  exact hline

theorem isWritten_decoratorRow {decorator : Text} (h : isNameWord decorator = true) :
    Paragraph.IsWritten ⟨decoratorRow decorator, []⟩ where
  sound := List.forall_mem_singleton.mpr fun glyph hglyph => by
    rcases List.mem_pair.mp hglyph with rfl | rfl
    · trivial
    · exact isWord_of_isNameWord h
  apart := List.forall_mem_singleton.mpr rfl
  code := List.forall_mem_singleton.mpr rfl
  closed := rfl

theorem kinds_decoratorRow {decorator : Text} (h : isNameWord decorator = true) :
    (decoratorRow decorator).kinds ++ [.newline] =
      decoratorKinds (Text.normalForm decorator) := by
  show [.symbol (.binary .matrix), wordKind decorator, .newline] = _
  rw [wordKind_of_isNameWord h]
  rfl

namespace MethodRows.IsWritten

variable {method : MethodRows} (h : method.IsWritten)
include h

theorem head : Paragraph.IsWritten ⟨method.head, []⟩ where
  sound := List.forall_mem_singleton.mpr fun glyph hglyph => by
    simp only [MethodRows.head, List.mem_cons, List.mem_append, List.not_mem_nil, or_false]
      at hglyph
    rcases hglyph with rfl | rfl | rfl | rfl | rfl | hglyph | rfl | rfl | rfl | rfl | hglyph | rfl
    · exact (by decide +kernel : isWord "def" = true)
    · trivial
    · exact isWord_of_isNameWord h.name
    · trivial
    · exact isWord_of_isNameWord h.first
    · exact isSound_parameterRow h.parameters glyph hglyph
    · trivial
    · trivial
    · trivial
    · trivial
    · exact h.sound glyph hglyph
    · trivial
  apart := List.forall_mem_singleton.mpr <| by
    have hback : Row.isApart (.mark .closeParen :: .blank :: .mark .arrow :: .blank ::
        (method.returns ++ [.mark .colon])) = true := h.apart
    have hall := isApart_parameterRow h.parameters hback
    obtain ⟨mark, more, hmore⟩ : ∃ mark more, parameterRow method.parameters ++
        .mark .closeParen :: .blank :: .mark .arrow :: .blank :: (method.returns ++ [.mark .colon]) =
          .mark mark :: more := by
      cases method.parameters with
      | nil => exact ⟨_, _, rfl⟩
      | cons typed rest => exact ⟨_, _, rfl⟩
    rw [MethodRows.head, hmore]
    rw [hmore] at hall
    exact hall
  code := List.forall_mem_singleton.mpr rfl
  closed := by
    have hback : Row.nest (.mark .closeParen :: .blank :: .mark .arrow :: .blank ::
        (method.returns ++ [.mark .colon])) [.openParen] = some [] := by
      show Row.nest (method.returns ++ [.mark .colon]) [] = _
      rw [Row.nest_append, h.nest]
      rfl
    have hnest : method.head.nest [] = some [] := by
      show Row.nest (parameterRow method.parameters ++ _) [.openParen] = _
      rw [Row.nest_append, nest_parameterRow h.parameters]
      exact hback
    rw [Paragraph.isClosed, hnest]
    rfl

theorem kinds_head : method.head.kinds = .keyword .defWord ::
    .name (Text.normalForm method.name) :: .symbol .openParen ::
      .name (Text.normalForm method.first) ::
        ((method.parameters.map TypedRow.shape).flatMap (behindComma TypedName.spell) ++
          (.symbol .closeParen :: .symbol .arrow :: (method.returns.kinds ++ [.symbol .colon]))) := by
  have hword : wordKind "def" = .keyword .defWord := by decide +kernel
  rw [← kinds_parameterRow, ← wordKind_of_isNameWord h.name, ← wordKind_of_isNameWord h.first,
    ← hword]
  show _ :: _ :: _ :: _ :: Row.kinds (parameterRow method.parameters ++ (.mark .closeParen ::
    .blank :: .mark .arrow :: .blank :: (method.returns ++ [.mark .colon]))) = _
  rw [Row.kinds_append]
  show _ :: _ :: _ :: _ :: (_ ++ (_ :: _ :: Row.kinds (method.returns ++ [.mark .colon]))) = _
  rw [Row.kinds_append]
  rfl

/-- In its class a method is read as its tokens, whatever follows it. -/
theorem continues {text : Text} {kinds : List TokenKind} (hrest : Continues [(4, 4)] text kinds) :
    Continues [(4, 4)] (ended method.lines ++ text) (method.kinds ++ kinds) := by
  have hbody : Spells (.start [(4, 4)] []) (spaces 8 ++ (method.body.text ++ '\n' :: text))
      (.indent :: (method.body.kinds ++ .newline :: .dedent :: kinds)) :=
    Spells.openBlock h.body rfl (by decide) (by decide) (hrest.outwards (by decide)).spells
  have hhead : Continues [(4, 4)] (ended ((spaces 4 ++ method.head.text) ::
      (spaces 8 ++ method.body.first.text) ::
        method.body.more.map fun line => spaces line.1 ++ line.2.text) ++ text)
      (method.shape.spell ++ kinds) := by
    rw [ended_cons, ended_paragraph]
    have hkinds : method.shape.spell ++ kinds = method.head.kinds ++ .newline ::
        .indent :: (method.body.kinds ++ .newline :: .dedent :: kinds) := by
      rw [h.kinds_head]
      simp [MethodShape.spell, MethodRows.shape]
    rw [hkinds]
    exact Continues.row h.head rfl hbody
  rw [MethodRows.lines, MethodRows.kinds, ended_append, List.append_assoc, List.append_assoc]
  cases hdecorator : method.decorator with
  | none => exact hhead
  | some decorator =>
      have hname : isNameWord decorator = true := by
        have hall := h.decorator
        rw [hdecorator] at hall
        exact hall
      rw [Option.elim_some, Option.elim_some, ended_cons, ← kinds_decoratorRow hname,
        List.append_assoc]
      exact Continues.row (isWritten_decoratorRow hname) rfl hhead.spells

end MethodRows.IsWritten

/-! ## Classes -/

structure ClassRows where
  name : Text
  first : TypedRow
  fields : List TypedRow
  methods : List MethodRows

namespace ClassRows

def head (shape : ClassRows) : Row :=
  [.word "class", .blank, .word shape.name, .mark .colon]

structure IsWritten (shape : ClassRows) : Prop where
  name : isWord shape.name = true
  first : shape.first.IsWritten
  fields : ∀ typed ∈ shape.fields, typed.IsWritten
  methods : ∀ method ∈ shape.methods, method.IsWritten

def fieldChunk (typed : TypedRow) : Chunk :=
  { kinds := typed.shape.spell ++ [.newline] }

def methodChunk (method : MethodRows) : Chunk :=
  { kinds := method.kinds }

def chunks (shape : ClassRows) : List Chunk :=
  shape.fields.map fieldChunk ++ shape.methods.map methodChunk

/-- What a parser sees of a class. -/
def kinds (shape : ClassRows) : List TokenKind :=
  classKinds "dataclass" (wordKind shape.name) (bodyKinds (fieldChunk shape.first :: shape.chunks))

/-- Methods stand apart from what is before them. -/
def lines (shape : ClassRows) : List Text :=
  (decoratorRow "dataclass").text :: shape.head.text ::
    ((shape.first :: shape.fields).map fun typed => spaces 4 ++ typed.row.text) ++
      shape.methods.flatMap fun method => [] :: method.lines

end ClassRows

theorem TypedRow.IsWritten.row {typed : TypedRow} (h : typed.IsWritten) :
    Paragraph.IsWritten ⟨typed.row, []⟩ where
  sound := List.forall_mem_singleton.mpr fun glyph hglyph => by
    simp only [TypedRow.row, List.mem_cons] at hglyph
    rcases hglyph with rfl | rfl | rfl | hglyph
    · exact h.name
    · trivial
    · trivial
    · exact h.type.sound glyph hglyph
  apart := List.forall_mem_singleton.mpr h.type.alone
  code := List.forall_mem_singleton.mpr rfl
  closed := by
    have hnest : typed.row.nest [] = some [] := h.type.nest [] (Nat.zero_le 1)
    rw [Paragraph.isClosed, hnest]
    rfl

namespace ClassRows.IsWritten

variable {shape : ClassRows} {text : Text} {kinds : List TokenKind}

theorem head (h : shape.IsWritten) : Paragraph.IsWritten ⟨shape.head, []⟩ where
  sound := List.forall_mem_singleton.mpr fun glyph hglyph => by
    simp only [ClassRows.head, List.mem_cons, List.not_mem_nil, or_false] at hglyph
    rcases hglyph with rfl | rfl | rfl | rfl
    · exact (by decide +kernel : isWord "class" = true)
    · trivial
    · exact h.name
    · trivial
  apart := List.forall_mem_singleton.mpr rfl
  code := List.forall_mem_singleton.mpr rfl
  closed := rfl

theorem methods_continue {methods : List MethodRows} (h : ∀ method ∈ methods, method.IsWritten)
    (hrest : Continues [(4, 4)] text kinds) :
    Continues [(4, 4)] (ended (methods.flatMap fun method => [] :: method.lines) ++ text)
      (bodyKinds (methods.map methodChunk) ++ kinds) := by
  induction methods with
  | nil => exact hrest
  | cons method methods ih =>
      have hbehind := ih fun other hother => h other (List.mem_cons_of_mem _ hother)
      have hmethod := (h method (List.mem_cons_self ..)).continues hbehind
      rw [List.flatMap_cons, List.cons_append, ended_cons, ended_append, List.append_assoc,
        List.map_cons, bodyKinds, List.flatMap_cons, List.append_assoc]
      exact hmethod.emptyLine

theorem fields_continue {fields : List TypedRow} (h : ∀ typed ∈ fields, typed.IsWritten)
    (hrest : Continues [(4, 4)] text kinds) :
    Continues [(4, 4)] (ended (fields.map fun typed => spaces 4 ++ typed.row.text) ++ text)
      (bodyKinds (fields.map fieldChunk) ++ kinds) := by
  induction fields with
  | nil => exact hrest
  | cons typed fields ih =>
      have hbehind := ih fun other hother => h other (List.mem_cons_of_mem _ hother)
      have hrow := Continues.row (h typed (List.mem_cons_self ..)).row rfl hbehind.spells
      have hkinds : bodyKinds ((typed :: fields).map fieldChunk) ++ kinds =
          typed.row.kinds ++ .newline :: (bodyKinds (fields.map fieldChunk) ++ kinds) := by
        rw [List.map_cons, bodyKinds, List.flatMap_cons, fieldChunk, List.append_assoc,
          List.append_assoc]
        rfl
      rw [hkinds, List.map_cons, ended_cons]
      exact hrow

/-- A class is read as its tokens, whatever follows it. -/
theorem continues (h : shape.IsWritten) (hrest : Continues [] text kinds) :
    Continues [] (ended shape.lines ++ text) (shape.kinds ++ kinds) := by
  have hdataclass : isNameWord "dataclass" = true := by decide +kernel
  have hnormal : Text.normalForm "dataclass" = "dataclass" := by decide +kernel
  have hword : wordKind "class" = .keyword .classWord := by decide +kernel
  have hmethods := methods_continue h.methods
    (hrest.outwards (by decide) : Continues [(4, 4)] text (.dedent :: kinds))
  have hfirst : Spells (.start [] []) (spaces 4 ++ (Paragraph.text ⟨shape.first.row, []⟩ ++ '\n' ::
      (ended (shape.fields.map fun typed => spaces 4 ++ typed.row.text) ++
        (ended (shape.methods.flatMap fun method => [] :: method.lines) ++ text)))) _ :=
    Spells.openBlock h.first.row rfl (by decide) (by decide)
      (fields_continue h.fields hmethods).spells
  have hhead := Continues.row h.head rfl hfirst
  have hall := Continues.row (isWritten_decoratorRow hdataclass) rfl hhead.spells
  have htext : ended shape.lines ++ text = spaces 0 ++ (decoratorRow "dataclass").text ++ '\n' ::
      (spaces 0 ++ shape.head.text ++ '\n' :: (spaces 4 ++ (Paragraph.text ⟨shape.first.row, []⟩ ++
        '\n' :: (ended (shape.fields.map fun typed => spaces 4 ++ typed.row.text) ++
          (ended (shape.methods.flatMap fun method => [] :: method.lines) ++ text))))) := by
    rw [ClassRows.lines, ended_append, List.append_assoc, ended_cons, ended_cons, List.map_cons,
      ended_cons, Paragraph.text, Paragraph.moreText, List.flatMap_nil, List.append_nil,
      List.append_assoc (spaces 4)]
    rfl
  have hkinds : shape.kinds ++ kinds = (decoratorRow "dataclass").kinds ++ .newline ::
      (shape.head.kinds ++ .newline :: .indent :: (Paragraph.kinds ⟨shape.first.row, []⟩ ++
        .newline :: (bodyKinds (shape.fields.map fieldChunk) ++
          (bodyKinds (shape.methods.map methodChunk) ++ .dedent :: kinds)))) := by
    have hdecorator := kinds_decoratorRow hdataclass
    rw [hnormal] at hdecorator
    have hname : shape.head.kinds = [.keyword .classWord, wordKind shape.name, .symbol .colon] := by
      rw [← hword]
      rfl
    have hrow : Paragraph.kinds ⟨shape.first.row, []⟩ = shape.first.shape.spell :=
      List.append_nil _
    rw [ClassRows.kinds, classKinds, ← hdecorator, hname, hrow]
    simp [bodyKinds, ClassRows.chunks, fieldChunk]
  rw [htext, hkinds]
  exact hall

end ClassRows.IsWritten

end MessageForge.Source
