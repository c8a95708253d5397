import MessageForge.Proofs.Lexing

/-!
# Rows of glyphs

A line of generated code is a margin and a row of glyphs: words, marks, blanks
and pieces of given text. The glyphs tell both the text of the line and the
kinds of its tokens. Lines follow each other at the margin of a block, and a
block ends where the next line of code stands further out.
-/

namespace MessageForge.Source

/-! ## Glyphs -/

/-- The symbols that generated code is written with. -/
inductive Mark where
  | openParen | closeParen | openBracket | closeBracket | openBrace | closeBrace
  | comma | colon | dot | assign | arrow | bar | at
  deriving DecidableEq, Repr

def Mark.symbol : Mark → Symbol
  | openParen => .openParen
  | closeParen => .closeParen
  | openBracket => .openBracket
  | closeBracket => .closeBracket
  | openBrace => .openBrace
  | closeBrace => .closeBrace
  | comma => .comma
  | colon => .colon
  | dot => .dot
  | assign => .assign
  | arrow => .arrow
  | bar => .binary .bitOr
  | «at» => .binary .matrix

def Mark.text : Mark → Text
  | openParen => ['(']
  | closeParen => [')']
  | openBracket => ['[']
  | closeBracket => [']']
  | openBrace => ['\x7b']
  | closeBrace => ['\x7d']
  | comma => [',']
  | colon => [':']
  | dot => ['.']
  | assign => ['=']
  | arrow => ['-', '>']
  | bar => ['|']
  | «at» => ['@']

/-- What stands behind a piece of given text. -/
def endsPiece (text : Text) : Bool :=
  text.head?.any fun c => c = '\n' || c = ',' || c = ')'

/-- The text is read as tokens of these kinds wherever a type may stand, which
is within the brackets of a parameter list at most. -/
structure IsPiece (text : Text) (kinds : List TokenKind) : Prop where
  unbroken : '\r' ∉ text
  spells : ∀ (indents : List (Nat × Nat)) (openers : List Symbol) (rest : Text)
    (more : List TokenKind), openers.length ≤ 1 → endsPiece rest = true →
    Spells (.inside indents openers) rest more →
    Spells (.inside indents openers) (text ++ rest) (kinds ++ more)

inductive Glyph where
  | blank
  | word (word : Text)
  | mark (mark : Mark)
  | piece (text : Text) (kinds : List TokenKind)

namespace Glyph

def text : Glyph → Text
  | .blank => [' ']
  | .word w => w
  | .mark m => m.text
  | .piece t _ => t

def kinds : Glyph → List TokenKind
  | .blank => []
  | .word w => [wordKind w]
  | .mark m => [.symbol m.symbol]
  | .piece _ kinds => kinds

def IsSound : Glyph → Prop
  | .blank => True
  | .word w => isWord w = true
  | .mark _ => True
  | .piece text kinds => IsPiece text kinds

/-- Whether a glyph is kept apart from what follows it in a row. -/
def isApart : Glyph → List Glyph → Bool
  | .word _, .word _ :: _ => false
  | .word _, .piece _ _ :: _ => false
  | .mark _, .mark next :: _ => next ≠ .assign && next ≠ .dot
  | .mark _, .piece _ _ :: _ => false
  | .piece _ _, .mark next :: _ => next = .comma || next = .closeParen
  | .piece _ _, _ :: _ => false
  | _, _ => true

def nest (glyph : Glyph) (openers : List Symbol) : Option (List Symbol) :=
  match glyph with
  | .mark m => Source.nest m.symbol openers
  | .piece _ _ => if openers.length ≤ 1 then some openers else none
  | _ => some openers

end Glyph

abbrev Row := List Glyph

namespace Row

def text (row : Row) : Text :=
  row.flatMap Glyph.text

def kinds (row : Row) : List TokenKind :=
  row.flatMap Glyph.kinds

def isApart : Row → Bool
  | [] => true
  | glyph :: rest => glyph.isApart rest && isApart rest

/-- The open brackets behind a row. -/
def nest : Row → List Symbol → Option (List Symbol)
  | [], openers => some openers
  | glyph :: rest, openers => (glyph.nest openers).bind (nest rest)

def IsSound (row : Row) : Prop :=
  ∀ glyph ∈ row, glyph.IsSound

/-- Whether a row begins with a word or a mark, so that its margin is known. -/
def isCode : Row → Bool
  | .word _ :: _ | .mark _ :: _ => true
  | _ => false

end Row

/-! ## Statements over several lines -/

/-- A statement that goes on within brackets over further lines, each with its
margin. -/
structure Paragraph where
  first : Row
  more : List (Nat × Row) := []

namespace Paragraph

/-- The text of further lines, each with the line feed before it. -/
def moreText (more : List (Nat × Row)) : Text :=
  more.flatMap fun line => '\n' :: (spaces line.1 ++ line.2.text)

def text (paragraph : Paragraph) : Text :=
  paragraph.first.text ++ moreText paragraph.more

def kinds (paragraph : Paragraph) : List TokenKind :=
  paragraph.first.kinds ++ paragraph.more.flatMap fun line => line.2.kinds

/-- The open brackets behind further lines, each of which stands within some. -/
def nestMore : List (Nat × Row) → List Symbol → Option (List Symbol)
  | [], openers => some openers
  | _ :: _, [] => none
  | line :: rest, opener :: openers => (line.2.nest (opener :: openers)).bind (nestMore rest)

def isClosed (paragraph : Paragraph) : Bool :=
  (paragraph.first.nest []).bind (nestMore paragraph.more) = some []

def rows (paragraph : Paragraph) : List Row :=
  paragraph.first :: paragraph.more.map Prod.snd

/-- All rows can be read, and all brackets are closed at the end only. -/
structure IsWritten (paragraph : Paragraph) : Prop where
  sound : ∀ row ∈ paragraph.rows, row.IsSound
  apart : ∀ row ∈ paragraph.rows, row.isApart = true
  code : ∀ row ∈ paragraph.rows, row.isCode = true
  closed : paragraph.isClosed = true

end Paragraph

/-! ## Reading of rows -/

variable {indents : List (Nat × Nat)} {openers openers' : List Symbol} {text : Text}
  {kinds : List TokenKind} {row : Row}

theorem endsMark_word {word : Text} (hword : isWord word = true) :
    endsMark (word ++ text) = true := by
  simp only [isWord, Bool.and_eq_true] at hword
  obtain ⟨⟨hall, hhead⟩, -⟩ := hword
  cases word with
  | nil => simp at hhead
  | cons c rest =>
      have hc : isNameChar c = true := List.all_eq_true.mp hall c (List.mem_cons_self ..)
      have hextends : c ∉ extendingCharacters := fun hmem => by
        have hnone : ∀ d ∈ extendingCharacters, (!isNameChar d) = true :=
          List.all_eq_true.mp (by decide)
        exact absurd hc (by simpa using hnone c hmem)
      simp only [List.head?_cons, Option.any_some] at hhead
      simp [endsMark, hextends, hhead]

/-- Rows hold no line ends of another kind. -/
theorem Row.IsSound.unbroken (h : row.IsSound) : '\r' ∉ row.text := by
  intro hmem
  obtain ⟨glyph, hglyph, hmem⟩ := List.mem_flatMap.mp hmem
  have hsound := h glyph hglyph
  cases glyph with
  | blank => exact absurd hmem (by decide)
  | word w => exact not_mem_of_isWord hsound (by decide) hmem
  | mark m =>
      cases m
      all_goals exact absurd hmem (by decide)
  | piece text kinds => exact hsound.unbroken hmem

/-- Behind a glyph that is kept apart its token ends. -/
theorem Glyph.ends_of_isApart {glyph : Glyph} (hsound : row.IsSound)
    (hapart : glyph.isApart row = true) (text : Text) :
    (∀ word, glyph = .word word → endsWord (row.text ++ '\n' :: text) = true) ∧
      (∀ mark, glyph = .mark mark → endsMark (row.text ++ '\n' :: text) = true) ∧
      (∀ piece kinds, glyph = .piece piece kinds → endsPiece (row.text ++ '\n' :: text) = true) := by
  cases row with
  | nil => exact ⟨fun _ _ => rfl, fun _ _ => rfl, fun _ _ _ => rfl⟩
  | cons next rest =>
      have hnext := hsound next (List.mem_cons_self ..)
      refine ⟨?_, ?_, ?_⟩
      · rintro word rfl
        cases next with
        | blank => rfl
        | word _ | piece _ _ => cases hapart
        | mark mark => cases mark <;> rfl
      · rintro mark rfl
        cases next with
        | blank => rfl
        | word word => 
            show endsMark (word ++ Row.text rest ++ _) = true
            rw [List.append_assoc]
            exact endsMark_word hnext
        | piece _ _ => cases hapart
        | mark other => cases other <;> first | rfl | cases hapart
      · rintro piece kinds rfl
        cases next with
        | blank | word _ | piece _ _ => cases hapart
        | mark mark => cases mark <;> first | rfl | cases hapart

theorem readSymbol_arrow (text : Text) : readSymbol ('-' :: '>' :: text) = some (.arrow, text) := by
  cases text with
  | nil => rfl
  | cons c rest =>
      have hnone : symbolOf3 '-' '>' c = none := by
        unfold symbolOf3
        split <;> rfl
      rw [readSymbol, hnone]
      rfl

theorem Spells.markGlyph (mark : Mark) (hends : endsMark text = true)
    (hnest : nest mark.symbol openers = some openers')
    (h : Spells (.inside indents openers') text kinds) :
    Spells (.inside indents openers) (mark.text ++ text) (.symbol mark.symbol :: kinds) := by
  have hdigit : text.head?.any Text.isAsciiDigit = false := by
    cases text with
    | nil => rfl
    | cons c rest =>
        simp only [endsMark, List.head?_cons, Option.all_some, Bool.and_eq_true,
          Bool.not_eq_true'] at hends
        exact hends.2
  cases mark
  case arrow => exact Spells.mark (by decide) rfl (readSymbol_arrow text) (Nat.le_succ _) hnest h
  all_goals
    exact Spells.mark (by decide) hdigit (readSymbol_mark rfl hends) (Nat.le_refl _) hnest h

/-- A row is read glyph by glyph. -/
theorem Spells.glyphs : ∀ {row : Row} {openers : List Symbol}, row.IsSound → row.isApart = true →
    row.nest openers = some openers' → Spells (.inside indents openers') ('\n' :: text) kinds →
    Spells (.inside indents openers) (row.text ++ '\n' :: text) (row.kinds ++ kinds)
  | [], openers, _, _, hnest, h => by
      obtain rfl := Option.some.inj hnest
      exact h
  | glyph :: rest, openers, hsound, hapart, hnest, h => by
      rw [Row.isApart, Bool.and_eq_true] at hapart
      obtain ⟨between, hglyph, hrest⟩ := Option.bind_eq_some_iff.mp hnest
      have hsoundRest : Row.IsSound rest := fun g hg => hsound g (List.mem_cons_of_mem _ hg)
      have hnow := hsound glyph (List.mem_cons_self ..)
      have hbehind := Spells.glyphs hsoundRest hapart.2 hrest h
      obtain ⟨hword, hmark, hpiece⟩ := Glyph.ends_of_isApart hsoundRest hapart.1 text
      show Spells _ (glyph.text ++ Row.text rest ++ _) (glyph.kinds ++ Row.kinds rest ++ _)
      rw [List.append_assoc, List.append_assoc]
      cases glyph with
      | blank =>
          obtain rfl := Option.some.inj hglyph
          exact hbehind.blank
      | word w =>
          obtain rfl := Option.some.inj hglyph
          exact hbehind.word hnow (hword w rfl)
      | mark m => exact Spells.markGlyph m (hmark m rfl) hglyph hbehind
      | piece piece kinds =>
          obtain ⟨hlength, heq⟩ := Option.ite_none_right_eq_some.mp hglyph
          obtain rfl := Option.some.inj heq
          exact hnow.spells _ _ _ _ hlength (hpiece piece kinds rfl) hbehind

theorem Row.exists_cons (hsound : row.IsSound) (hcode : row.isCode = true) :
    ∃ c rest, row.text = c :: rest ∧ c ∉ marginCharacters := by
  cases row with
  | nil => cases hcode
  | cons glyph rest =>
      cases glyph with
      | blank | piece _ _ => cases hcode
      | word w =>
          have hword : isWord w = true := hsound _ (List.mem_cons_self ..)
          simp only [isWord, Bool.and_eq_true] at hword
          cases w with
          | nil => simp at hword
          | cons c more =>
              refine ⟨c, more ++ Row.text rest, rfl, fun hmem => ?_⟩
              have hc : isNameChar c = true :=
                List.all_eq_true.mp hword.1.1 c (List.mem_cons_self ..)
              have hnone : ∀ d ∈ marginCharacters, (!isNameChar d) = true :=
                List.all_eq_true.mp (by decide)
              exact absurd hc (by simpa using hnone c hmem)
      | mark m =>
          cases m
          all_goals exact ⟨_, _, rfl, by decide⟩

/-! ## Reading of statements -/

/-- Further lines are read within the brackets that are open before them. -/
theorem Spells.moreLines : ∀ {more : List (Nat × Row)} {row : Row} {openers between : List Symbol},
    (∀ row' ∈ row :: more.map Prod.snd, row'.IsSound ∧ row'.isApart = true ∧ row'.isCode = true) →
    row.nest openers = some between → Paragraph.nestMore more between = some [] →
    Spells (.start indents []) text kinds →
    Spells (.inside indents openers) (row.text ++ (Paragraph.moreText more ++ '\n' :: text))
      (row.kinds ++ ((more.flatMap fun line => line.2.kinds) ++ .newline :: kinds))
  | [], row, openers, between, hrows, hnest, hmore, h => by
      obtain ⟨hsound, hapart, -⟩ := hrows row (List.mem_cons_self ..)
      obtain rfl := Option.some.inj hmore
      exact Spells.glyphs hsound hapart hnest h.lineEnd
  | line :: rest, row, openers, [], _, _, hmore, _ => nomatch hmore
  | line :: rest, row, openers, opener :: between, hrows, hnest, hmore, h => by
      obtain ⟨hsound, hapart, -⟩ := hrows row (List.mem_cons_self ..)
      obtain ⟨behind, hline, hrest⟩ := Option.bind_eq_some_iff.mp hmore
      have hbehind := Spells.moreLines (fun row' hrow' => hrows row' (List.mem_cons_of_mem _ hrow'))
        hline hrest h
      obtain ⟨hsound', -, hcode⟩ :=
        hrows line.2 (List.mem_cons_of_mem _ (List.mem_cons_self ..))
      obtain ⟨c, back, htext, hc⟩ := Row.exists_cons hsound' hcode
      rw [htext, List.cons_append] at hbehind
      have hstart := hbehind.innerMargin line.1 hc
      rw [← List.cons_append, ← htext] at hstart
      have hall := Spells.glyphs hsound hapart hnest hstart.innerLineEnd
      simpa only [Paragraph.moreText, List.flatMap_cons, List.append_assoc, List.cons_append]
        using hall

theorem Paragraph.IsWritten.spells {paragraph : Paragraph} (hwritten : paragraph.IsWritten)
    (h : Spells (.start indents []) text kinds) :
    Spells (.inside indents []) (paragraph.text ++ '\n' :: text)
      (paragraph.kinds ++ .newline :: kinds) := by
  obtain ⟨between, hfirst, hmore⟩ :=
    Option.bind_eq_some_iff.mp (of_decide_eq_true hwritten.closed)
  rw [Paragraph.text, Paragraph.kinds, List.append_assoc, List.append_assoc]
  exact Spells.moreLines (fun row hrow => ⟨hwritten.sound row hrow, hwritten.apart row hrow,
    hwritten.code row hrow⟩) hfirst hmore h

theorem Paragraph.IsWritten.exists_cons {paragraph : Paragraph} (h : paragraph.IsWritten) :
    ∃ c rest, paragraph.text = c :: rest ∧ c ∉ marginCharacters := by
  obtain ⟨c, rest, htext, hc⟩ := Row.exists_cons (h.sound _ (List.mem_cons_self ..))
    (h.code _ (List.mem_cons_self ..))
  refine ⟨c, rest ++ Paragraph.moreText paragraph.more, ?_, hc⟩
  rw [Paragraph.text, htext, List.cons_append]

/-! ## Blocks -/

/-- The next line of code stands at the innermost of these indentations, so
that all deeper blocks end before it. -/
def Continues (indents : List (Nat × Nat)) (text : Text) (kinds : List TokenKind) : Prop :=
  ∀ deeper : List (Nat × Nat), (∀ level ∈ deeper, (indents.headD (0, 0)).1 < level.1) →
    Spells (.start (deeper ++ indents) []) text (List.replicate deeper.length .dedent ++ kinds)

theorem Continues.spells (h : Continues indents text kinds) :
    Spells (.start indents []) text kinds :=
  h [] (List.forall_mem_nil _)

theorem Continues.emptyLine (h : Continues indents text kinds) :
    Continues indents ('\n' :: text) kinds :=
  fun deeper hdeeper => (h deeper hdeeper).emptyLine

theorem Continues.finish : Continues [] [] [.finish] := by
  intro deeper _
  have hkinds := Spells.finish deeper
  rw [List.map_const'] at hkinds
  rw [List.append_nil]
  exact hkinds

/-- What goes on further out ends the innermost block. -/
theorem Continues.outwards {level : Nat × Nat} (hlevel : (indents.headD (0, 0)).1 < level.1)
    (h : Continues indents text kinds) : Continues (level :: indents) text (.dedent :: kinds) := by
  intro deeper hdeeper
  have hall := h (deeper ++ [level]) fun other hother => by
    rcases List.mem_append.mp hother with hother | hother
    · exact Nat.lt_trans hlevel (hdeeper other hother)
    · rw [List.mem_singleton.mp hother]
      exact hlevel
  rw [List.append_assoc, List.singleton_append, List.length_append, List.length_singleton,
    List.replicate_succ', List.append_assoc, List.singleton_append] at hall
  exact hall

theorem changeIndent_outwards {n : Nat} (deeper : List (Nat × Nat))
    (hhead : indents.headD (0, 0) = (n, n)) (hdeeper : ∀ level ∈ deeper, n < level.1) :
    changeIndent n n (deeper ++ indents) =
      some (indents, List.replicate deeper.length .dedent) := by
  cases deeper with
  | nil =>
      unfold changeIndent
      dsimp only
      rw [List.nil_append, hhead, if_pos rfl, if_pos rfl]
      rfl
  | cons level rest =>
      have hlevel := hdeeper level (List.mem_cons_self ..)
      have hkept : (level :: rest ++ indents).dropWhile (fun other => n < other.1) = indents := by
        rw [List.dropWhile_append_of_pos fun other hother => by simpa using hdeeper other hother]
        cases indents with
        | nil => rfl
        | cons first more =>
            have hfirst : first = (n, n) := hhead
            rw [hfirst, List.dropWhile_cons]
            simp
      have hlength : (level :: rest ++ indents).length - indents.length = rest.length + 1 := by
        simp only [List.cons_append, List.length_cons, List.length_append]
        omega
      unfold changeIndent
      dsimp only
      rw [hkept, hhead, if_pos rfl, hlength]
      rw [List.cons_append, List.headD_cons, if_neg (Nat.ne_of_lt hlevel),
        if_neg (Nat.not_lt_of_gt hlevel)]
      rfl

/-- What is read within a line is read at the margin of a block. -/
theorem Continues.inside {n : Nat} {c : Char} {rest : Text} (hc : c ∉ marginCharacters)
    (hhead : indents.headD (0, 0) = (n, n))
    (h : Spells (.inside indents []) (c :: rest) kinds) :
    Continues indents (spaces n ++ c :: rest) kinds := by
  intro deeper hdeeper
  rw [hhead] at hdeeper
  exact h.margin n hc (changeIndent_outwards deeper hhead hdeeper)

/-- A statement at the margin of a block. -/
theorem Continues.paragraph {n : Nat} {paragraph : Paragraph} (hwritten : paragraph.IsWritten)
    (hhead : indents.headD (0, 0) = (n, n)) (h : Spells (.start indents []) text kinds) :
    Continues indents (spaces n ++ (paragraph.text ++ '\n' :: text))
      (paragraph.kinds ++ .newline :: kinds) := by
  have hline := hwritten.spells h
  obtain ⟨c, rest, htext, hc⟩ := hwritten.exists_cons
  rw [htext, List.cons_append] at hline ⊢
  exact Continues.inside hc hhead hline

/-- The first statement of a block. -/
theorem Spells.openBlock {m n : Nat} {paragraph : Paragraph} (hwritten : paragraph.IsWritten)
    (hhead : indents.headD (0, 0) = (m, m)) (hdeeper : m < n)
    (hlimit : indents.length + 1 < indentLimit)
    (h : Spells (.start ((n, n) :: indents) []) text kinds) :
    Spells (.start indents []) (spaces n ++ (paragraph.text ++ '\n' :: text))
      (.indent :: (paragraph.kinds ++ .newline :: kinds)) := by
  have hline := hwritten.spells h
  obtain ⟨c, rest, htext, hc⟩ := hwritten.exists_cons
  have hchange : changeIndent n n indents = some ((n, n) :: indents, [.indent]) := by
    unfold changeIndent
    dsimp only
    rw [hhead, if_neg (Nat.ne_of_gt hdeeper), if_pos hdeeper, if_neg]
    simpa using ⟨hlimit, hdeeper⟩
  rw [htext, List.cons_append] at hline ⊢
  exact hline.margin n hc hchange

end MessageForge.Source
