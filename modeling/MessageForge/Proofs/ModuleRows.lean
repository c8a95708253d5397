import MessageForge.Proofs.ClassRows
import MessageForge.Proofs.Literals

/-!
# Modules in rows

A module is a docstring, import lines and classes, each of which is read as
statements of its own at the margin. Since every line of it is known, the whole
text is: what a parser makes of the module follows from what it makes of the
parts.
-/

namespace MessageForge.Source

open Reader

variable {characters : CharacterNames}

section Lines

variable {text : Text} {kinds : List TokenKind}

/-! ## Line ends -/

theorem unbroken_margin {n : Nat} {row : Row} (h : row.IsSound) :
    '\r' ∉ spaces n ++ row.text := by
  rw [List.mem_append, not_or]
  exact ⟨fun hmem => absurd (List.eq_of_mem_replicate hmem) (by decide), h.unbroken⟩

theorem MethodRows.IsWritten.unbroken {method : MethodRows} (h : method.IsWritten) :
    ∀ line ∈ method.lines, '\r' ∉ line := by
  have hbody := h.body.sound
  intro line hline
  rcases List.mem_append.mp hline with hline | hline
  · cases hdecorator : method.decorator with
    | none =>
        rw [hdecorator] at hline
        cases hline
    | some decorator =>
        have hname := h.decorator
        rw [hdecorator] at hline hname
        obtain rfl := List.mem_singleton.mp hline
        exact unbroken_margin ((isWritten_decoratorRow hname).sound _ (List.mem_cons_self ..))
  rcases List.mem_cons.mp hline with rfl | hline
  · exact unbroken_margin (h.head.sound _ (List.mem_cons_self ..))
  rcases List.mem_cons.mp hline with rfl | hline
  · exact unbroken_margin (hbody _ (List.mem_cons_self ..))
  · obtain ⟨row, hrow, rfl⟩ := List.mem_map.mp hline
    exact unbroken_margin (hbody _ (List.mem_cons_of_mem _ (List.mem_map_of_mem hrow)))

theorem ClassRows.IsWritten.unbroken {shape : ClassRows} (h : shape.IsWritten) :
    ∀ line ∈ shape.lines, '\r' ∉ line := by
  have hdecorator : '\r' ∉ (decoratorRow "dataclass").text := by decide +kernel
  have hfields : ∀ typed ∈ shape.first :: shape.fields, typed.IsWritten :=
    List.forall_mem_cons.mpr ⟨h.first, h.fields⟩
  intro line hline
  rcases List.mem_append.mp hline with hline | hline
  · rcases List.mem_cons.mp hline with rfl | hline
    · exact hdecorator
    rcases List.mem_cons.mp hline with rfl | hline
    · exact (h.head.sound _ (List.mem_cons_self ..)).unbroken
    · obtain ⟨typed, htyped, rfl⟩ := List.mem_map.mp hline
      exact unbroken_margin ((hfields typed htyped).row.sound _ (List.mem_cons_self ..))
  · obtain ⟨method, hmethod, hline⟩ := List.mem_flatMap.mp hline
    rcases List.mem_cons.mp hline with rfl | hline
    · exact List.not_mem_nil
    · exact (h.methods method hmethod).unbroken line hline

theorem universalNewlines_eq_self : ∀ {text : Text}, '\r' ∉ text → Text.universalNewlines text = text
  | [], _ => rfl
  | c :: rest, h => by
      rw [List.mem_cons, not_or] at h
      have ih := universalNewlines_eq_self h.2
      unfold Text.universalNewlines
      split
      · next heq => cases heq
      · next heq => exact absurd (List.cons.inj heq).1.symm h.1
      · next heq => exact absurd (List.cons.inj heq).1.symm h.1
      · next heq =>
          obtain ⟨rfl, rfl⟩ := List.cons.inj heq
          rw [ih]

/-- Lines that are joined, with a line feed behind the last one. -/
theorem joinLines_newline (line : Text) (lines : List Text) :
    Text.joinLines (line :: lines) ++ ['\n'] = ended (line :: lines) := by
  induction lines generalizing line with
  | nil => exact (List.append_nil _).symm
  | cons next lines ih =>
      rw [ended, List.flatMap_cons, ← ended, ← ih next, Text.joinLines,
        Text.join_cons _ _ (List.cons_ne_nil _ _), List.append_assoc, List.append_assoc,
        List.append_assoc]
      rfl

/-- The tokens of a text whose last line ends. -/
theorem kinds_of_spells (characters : CharacterNames) (h : Spells (.start [] []) text kinds)
    (hlast : text.getLast? = some '\n') (hunbroken : '\r' ∉ text) :
    (tokensOf characters text).map Token.kind = kinds := by
  have hend : withFinalNewline text = text := by rw [withFinalNewline, if_pos hlast]
  rw [tokensOf, tokenize, universalNewlines_eq_self hunbroken, hend, List.map_map]
  exact h characters { line := 1 } ⟨rfl, rfl⟩ _ (Nat.le_refl _)

/-! ## Lines at the margin of a module -/

/-- A line that is read as a statement of its own, whatever lines follow it. -/
structure ReadsLine (line : Text) (kinds : List TokenKind) : Prop where
  unbroken : '\r' ∉ line
  continues : ∀ {text : Text} {more : List TokenKind}, Continues [] text more →
    Continues [] (line ++ '\n' :: text) (kinds ++ .newline :: more)
  takes : TakesStatement (line.length + 1) 1 [] (kinds ++ [.newline])

/-- The chunk that a line is. -/
def lineChunk (line : Text × List TokenKind) : Chunk :=
  { kinds := line.2 ++ [.newline] }

theorem lines_continue {lines : List (Text × List TokenKind)}
    (h : ∀ line ∈ lines, ReadsLine line.1 line.2) (hrest : Continues [] text kinds) :
    Continues [] (ended (lines.map Prod.fst) ++ text) (bodyKinds (lines.map lineChunk) ++ kinds) := by
  induction lines with
  | nil => exact hrest
  | cons line lines ih =>
      obtain ⟨hline, hlines⟩ := List.forall_mem_cons.mp h
      have hall := hline.continues (ih hlines)
      rw [List.map_cons, ended_cons, List.map_cons, bodyKinds, List.flatMap_cons, lineChunk,
        List.append_assoc, List.append_assoc]
      exact hall

theorem readsLine_row {row : Row} (hwritten : Paragraph.IsWritten ⟨row, []⟩)
    (htakes : TakesStatement 0 1 [] (row.kinds ++ [.newline])) : ReadsLine row.text row.kinds where
  unbroken := (hwritten.sound row (List.mem_cons_self ..)).unbroken
  continues {text more} h := by
    show Continues [] (spaces 0 ++ row.text ++ '\n' :: text) (row.kinds ++ .newline :: more)
    exact Continues.row hwritten rfl h.spells
  takes := htakes.mono (Nat.zero_le _) (Nat.le_refl 1)

/-! ## Import lines -/

theorem takesStatement_import (h : ∀ rest, Reads importFromStatement
      (.keyword .fromWord :: (kinds ++ .newline :: rest)) (.newline :: rest)
      fun node => node.className? = none) :
    TakesStatement 0 1 [] (.keyword .fromWord :: (kinds ++ [.newline])) := by
  refine .of_front TokenKind.noConfusion TokenKind.noConfusion fun _ _ _ _ rest => ?_
  rw [List.cons_append, List.append_assoc]
  refine Reads.bind Reads.nextLine fun _ _ => Reads.bind Reads.peek fun kind hkind => ?_
  rw [hkind]
  refine (Reads.simpleStatements_of ?_).mono fun _ => classNames_of_isPlain
  refine Reads.bind Reads.nextLine fun _ _ => Reads.bind Reads.peek fun kind hkind => ?_
  rw [hkind]
  exact Reads.bind (h rest) fun node hnode => Reads.pure hnode

def importRow (module name : Text) : Row :=
  [.word "from", .blank, .word module, .blank, .word "import", .blank, .word name]

theorem readsLine_importRow {module name : Text} (hmodule : isNameWord module = true)
    (hname : isNameWord name = true) :
    ReadsLine (importRow module name).text (importRow module name).kinds := by
  have hfrom : wordKind "from" = .keyword .fromWord := by decide +kernel
  have himport : wordKind "import" = .keyword .importWord := by decide +kernel
  have hkinds : (importRow module name).kinds = .keyword .fromWord ::
      [.name (Text.normalForm module), .keyword .importWord, .name (Text.normalForm name)] := by
    rw [← hfrom, ← himport, ← wordKind_of_isNameWord hmodule, ← wordKind_of_isNameWord hname]
    rfl
  have hplain : (importRow module name).all Glyph.isPlain = true := by
    have hwords : isWord "from" = true ∧ isWord "import" = true := by decide +kernel
    simp only [importRow, Glyph.isPlain, List.all_cons, List.all_nil, Bool.and_true,
      Bool.and_eq_true]
    exact ⟨hwords.1, trivial, isWord_of_isNameWord hmodule, trivial, hwords.2, trivial,
      isWord_of_isNameWord hname⟩
  refine readsLine_row (Row.isWritten_of_isPlain hplain rfl rfl rfl) ?_
  rw [hkinds]
  refine takesStatement_import fun rest => ?_
  exact Reads.of_run [.keyword .fromWord, .name (Text.normalForm module), .keyword .importWord,
    .name (Text.normalForm name), .newline] 4 fun _ _ => ⟨_, rfl, rfl⟩

/-- The import of the names that all generated classes refer to. -/
def runtimeRow : Row :=
  [.word "from", .blank, .word "base_message_generator", .mark .dot, .word "messages", .blank,
    .word "import", .blank, .word "BaseMessageFields", .mark .comma, .blank, .word "MessageType"]

theorem readsLine_runtimeRow : ReadsLine runtimeRow.text runtimeRow.kinds := by
  have hkinds : runtimeRow.kinds = .keyword .fromWord :: [.name "base_message_generator",
      .symbol .dot, .name "messages", .keyword .importWord, .name "BaseMessageFields",
      .symbol .comma, .name "MessageType"] := by decide +kernel
  refine readsLine_row (Row.isWritten_of_isPlain (by decide +kernel) rfl rfl rfl) ?_
  rw [hkinds]
  refine takesStatement_import fun rest => ?_
  exact Reads.of_run [.keyword .fromWord, .name "base_message_generator", .symbol .dot,
    .name "messages", .keyword .importWord, .name "BaseMessageFields", .symbol .comma,
    .name "MessageType", .newline] 8 fun _ _ => ⟨_, rfl, rfl⟩

end Lines

/-! ## Modules -/

/-- A module with the body of its docstring, its import lines with the tokens
of each, and its classes. -/
structure ModuleRows where
  body : Text
  imports : List (Text × List TokenKind)
  classes : List ClassRows

namespace ModuleRows

def lines (rows : ModuleRows) : List Text :=
  (threeQuotes ++ (rows.body ++ threeQuotes)) :: [] :: (rows.imports.map Prod.fst ++
    rows.classes.flatMap fun shape => [] :: [] :: shape.lines)

/-- The text of the module, which ends with a line feed. -/
def text (rows : ModuleRows) : Text :=
  Text.joinLines rows.lines ++ ['\n']

def docstringChunk (rows : ModuleRows) : Chunk :=
  { kinds := [.string { body := rows.body }, .newline] }

/-- The chunks before the classes. -/
def frontChunks (rows : ModuleRows) : List Chunk :=
  rows.docstringChunk :: rows.imports.map lineChunk

/-- What a parser sees of a module. -/
def kinds (rows : ModuleRows) : List TokenKind :=
  bodyKinds rows.frontChunks ++ (rows.classes.flatMap ClassRows.kinds ++ [.finish])

def classChunk (shape : ClassRows) : Chunk :=
  { kinds := shape.kinds, names := [Text.normalForm shape.name] }

theorem length_lt_of_mem_lines {rows : ModuleRows} {line : Text} (h : line ∈ rows.lines) :
    line.length < rows.text.length := by
  obtain ⟨front, back, hlines⟩ := List.append_of_mem h
  have htext : rows.text = ended rows.lines := joinLines_newline _ _
  rw [htext, hlines, ended_append, ended, ended, List.flatMap_cons]
  simp only [List.length_append, List.length_singleton]
  omega

structure IsWritten (rows : ModuleRows) : Prop where
  unquoted : IsUnquoted rows.body
  unbroken : '\r' ∉ rows.body
  imports : ∀ line ∈ rows.imports, ReadsLine line.1 line.2
  classes : ∀ shape ∈ rows.classes, shape.IsWritten

end ModuleRows

theorem classes_continue {classes : List ClassRows} {text : Text} {kinds : List TokenKind}
    (h : ∀ shape ∈ classes, shape.IsWritten) (hrest : Continues [] text kinds) :
    Continues [] (ended (classes.flatMap fun shape => [] :: [] :: shape.lines) ++ text)
      (classes.flatMap ClassRows.kinds ++ kinds) := by
  induction classes with
  | nil => exact hrest
  | cons shape classes ih =>
      obtain ⟨hshape, hclasses⟩ := List.forall_mem_cons.mp h
      have hall := (hshape.continues (ih hclasses)).emptyLine.emptyLine
      rw [List.flatMap_cons, List.cons_append, List.cons_append, ended_cons, ended_cons, ended_append,
        List.append_assoc, List.flatMap_cons, List.append_assoc]
      exact hall

theorem unbroken_ended {lines : List Text} (h : ∀ line ∈ lines, '\r' ∉ line) :
    '\r' ∉ ended lines := by
  intro hmem
  obtain ⟨line, hline, hmem⟩ := List.mem_flatMap.mp hmem
  rcases List.mem_append.mp hmem with hmem | hmem
  · exact h line hline hmem
  · exact absurd hmem (by decide)

namespace ModuleRows.IsWritten

variable {rows : ModuleRows} (h : rows.IsWritten)
include h

theorem unbroken_lines : ∀ line ∈ rows.lines, '\r' ∉ line := by
  have hquotes : '\r' ∉ threeQuotes := by decide
  intro line hline
  rcases List.mem_cons.mp hline with rfl | hline
  · simp only [List.mem_append, not_or]
    exact ⟨hquotes, h.unbroken, hquotes⟩
  rcases List.mem_cons.mp hline with rfl | hline
  · exact List.not_mem_nil
  rcases List.mem_append.mp hline with hline | hline
  · obtain ⟨line, hmem, rfl⟩ := List.mem_map.mp hline
    exact (h.imports line hmem).unbroken
  · obtain ⟨shape, hshape, hline⟩ := List.mem_flatMap.mp hline
    rcases List.mem_cons.mp hline with rfl | hline
    · exact List.not_mem_nil
    rcases List.mem_cons.mp hline with rfl | hline
    · exact List.not_mem_nil
    · exact (h.classes shape hshape).unbroken line hline

theorem spells : Spells (.start [] []) (ended rows.lines) rows.kinds := by
  have hclasses := classes_continue h.classes Continues.finish
  have himports := (lines_continue h.imports hclasses).emptyLine.spells.lineEnd
  have hdocstring := Continues.inside (n := 0) (by decide) rfl
    (Spells.literal h.unquoted himports)
  have htext : ended rows.lines = spaces 0 ++ (threeQuotes ++ (rows.body ++ (threeQuotes ++ '\n' ::
      '\n' :: (ended (rows.imports.map Prod.fst) ++
        (ended (rows.classes.flatMap fun shape => [] :: [] :: shape.lines) ++ []))))) := by
    rw [ModuleRows.lines, ← List.append_nil (ended _), ended_cons, ended_cons, ended_append,
      List.append_assoc, List.append_assoc, List.append_assoc]
    rfl
  rw [htext]
  exact hdocstring.spells

theorem kinds_tokensOf : (tokensOf characters rows.text).map Token.kind = rows.kinds := by
  have htext : rows.text = ended rows.lines := joinLines_newline _ _
  refine kinds_of_spells characters (htext ▸ h.spells) (List.getLast?_concat ..) ?_
  rw [htext]
  exact unbroken_ended h.unbroken_lines

/-! ## Reading of modules -/

/-- The docstring and the import lines are statements that define no class. -/
theorem takesChunks_front : TakesChunks (rows.text.length + 1) 3 rows.frontChunks := by
  intro chunk hchunk
  rcases List.mem_cons.mp hchunk with rfl | hchunk
  · exact (takesStatement_literal h.unquoted).mono (Nat.le_add_left ..) (by decide)
  · obtain ⟨line, hline, rfl⟩ := List.mem_map.mp hchunk
    have hmem : line.1 ∈ rows.lines := List.mem_cons_of_mem _ (List.mem_cons_of_mem _
      (List.mem_append_left _ (List.mem_map_of_mem hline)))
    have hlength := length_lt_of_mem_lines hmem
    exact (h.imports line hline).takes.mono (by omega) (by decide)

theorem nesting_le (characters : CharacterNames) :
    3 ≤ (tokensOf characters rows.text).length + 1 := by
  rw [← List.length_map (f := Token.kind), h.kinds_tokensOf]
  exact Nat.le_add_left 3 _

/-- A module whose classes can be read has these classes. -/
theorem parseModule (hclasses : TakesChunks (rows.text.length + 1) 3 (rows.classes.map classChunk)) :
    ∃ statements, Source.parseModule characters rows.text = .ok statements ∧
      classNames statements = rows.classes.map fun shape => Text.normalForm shape.name := by
  have hchunks : TakesChunks (rows.text.length + 1) 3
      (rows.frontChunks ++ rows.classes.map classChunk) :=
    List.forall_mem_append.mpr ⟨h.takesChunks_front, hclasses⟩
  have hreads := Reads.moduleReader hchunks (Nat.le_refl _) (h.nesting_le characters)
  have hkinds : rows.kinds = bodyKinds (rows.frontChunks ++ rows.classes.map classChunk) ++
      [.finish] := by
    rw [ModuleRows.kinds, bodyKinds, bodyKinds, List.flatMap_append, List.flatMap_map,
      List.append_assoc]
    rfl
  obtain ⟨statements, rest, hrun, -, hnames⟩ := hreads _ (h.kinds_tokensOf.trans hkinds)
  refine ⟨statements, ?_, ?_⟩
  · rw [Source.parseModule, hrun]
  · rw [hnames, List.flatMap_append, List.flatMap_map]
    have hnone : ∀ chunk ∈ rows.frontChunks, chunk.names = [] :=
      List.forall_mem_cons.mpr ⟨rfl, List.forall_mem_map.mpr fun _ _ => rfl⟩
    rw [List.flatMap_eq_nil_iff.mpr hnone, List.map_eq_flatMap]
    rfl

/-- A module is refused with the first of its classes that cannot be read. -/
theorem parseModule_refused {front back : List ClassRows} {shape : ClassRows}
    (hclasses : rows.classes = front ++ shape :: back)
    (hfront : TakesChunks (rows.text.length + 1) 3 (front.map classChunk))
    (hrefuses : ∀ nesting tail, 2 ≤ nesting →
      Refuses (statementAt (partsAt (rows.text.length + 1)) (nesting + 1)) (shape.kinds ++ tail)) :
    ∃ line, Source.parseModule characters rows.text = .error line := by
  have hchunks : TakesChunks (rows.text.length + 1) 3 (rows.frontChunks ++ front.map classChunk) :=
    List.forall_mem_append.mpr ⟨h.takesChunks_front, hfront⟩
  have hkinds : rows.kinds = bodyKinds (rows.frontChunks ++ front.map classChunk) ++
      (shape.kinds ++ (back.flatMap ClassRows.kinds ++ [.finish])) := by
    rw [ModuleRows.kinds, hclasses]
    simp [bodyKinds, List.flatMap_map, classChunk]
  have hnesting := h.nesting_le characters
  have hfrontKind : frontKind (shape.kinds ++ (back.flatMap ClassRows.kinds ++ [.finish])) ≠
      .finish := by
    show TokenKind.symbol (.binary .matrix) ≠ .finish
    exact TokenKind.noConfusion
  obtain ⟨refusal, hrun⟩ := Refuses.moduleReader hchunks (Nat.le_refl _) hnesting hfrontKind
    (hrefuses (tokensOf characters rows.text).length _ (by omega)) _ (h.kinds_tokensOf.trans hkinds)
  refine ⟨refusal.reportedLine, ?_⟩
  rw [Source.parseModule, hrun]

end ModuleRows.IsWritten

end MessageForge.Source
