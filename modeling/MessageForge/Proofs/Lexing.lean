import Mathlib.Data.List.Basic
import MessageForge.Proofs.Category
import MessageForge.Source.Characters
import MessageForge.Source.Lexer

/-!
# Spelled text

What a text is read as depends on the place where it stands: on the open
indentations and brackets, and on whether a line begins. Given this stage, the
kinds of the tokens of a text are known from its front: each rule below reads
one piece of text and leaves the rest to the stage behind it. Lines are not
told apart, since no rule of the grammar asks for them.
-/

namespace MessageForge.Source

/-! ## Stages -/

/-- A place without its lines. -/
structure Stage where
  lineStart : Bool
  indents : List (Nat × Nat)
  openers : List Symbol

/-- Within a line, with the given indentations and brackets open. -/
abbrev Stage.inside (indents : List (Nat × Nat)) (openers : List Symbol) : Stage :=
  ⟨false, indents, openers⟩

abbrev Stage.start (indents : List (Nat × Nat)) (openers : List Symbol) : Stage :=
  ⟨true, indents, openers⟩

structure Place.IsAt (place : Place) (stage : Stage) : Prop where
  indents : place.indents = stage.indents
  openers : place.openers.map Prod.fst = stage.openers

/-- Twice the length, and one or two for the line. -/
def Stage.fuel (stage : Stage) (text : Text) : Nat :=
  2 * text.length + if stage.lineStart then 2 else 1

/-- At this stage the text is read as tokens of these kinds, whatever names
characters have. -/
def Spells (stage : Stage) (text : Text) (kinds : List TokenKind) : Prop :=
  ∀ (characters : CharacterNames) (place : Place), place.IsAt stage →
    ∀ fuel, stage.fuel text ≤ fuel →
      (lexFrom fuel stage.lineStart place text).map (TokenKind.spelled characters ∘ Token.kind) =
        kinds

variable {indents : List (Nat × Nat)} {openers : List Symbol} {text : Text}
  {kinds : List TokenKind}

theorem Place.IsAt.openers_isEmpty {place : Place} {stage : Stage} (h : place.IsAt stage) :
    place.openers.isEmpty = stage.openers.isEmpty := by
  rw [← h.openers]
  cases place.openers <;> rfl

/-! ## Words -/

/-- A word that is read as one token. -/
def isWord (word : Text) : Bool :=
  word.all isNameChar && word.head?.any (!Text.isAsciiDigit ·) &&
    (word.all (·.toNat < 128) || Text.isIdentifier word)

/-- What is not part of a word before it and does not make it the front of a
literal. -/
def endsWord (text : Text) : Bool :=
  text.head?.all fun c => !isNameChar c && c ≠ '\'' && c ≠ '"'

theorem isNameChar_of_isIdentifierContinue {c : Char} (h : Text.isIdentifierContinue c = true) :
    isNameChar c = true := by
  simp only [Text.isIdentifierContinue, isNameChar, Bool.or_eq_true, Bool.and_eq_true,
    decide_eq_true_eq] at h ⊢
  rcases h with h | h
  · exact Or.inl h
  · exact Or.inr h.1

theorem isAsciiDigit_of_isIdentifierStart {c : Char} (h : Text.isIdentifierStart c = true) :
    Text.isAsciiDigit c = false := by
  rw [Bool.eq_false_iff]
  intro hdigit
  simp only [Text.isIdentifierStart, Text.isAsciiLetter, Text.isAsciiDigit, Bool.or_eq_true,
    Bool.and_eq_true, decide_eq_true_eq, Char.le_def, UInt32.le_iff_toNat_le] at h hdigit
  have hnine : c.val.toNat ≤ 57 := hdigit.2
  rcases h with ((⟨hletter, -⟩ | ⟨hletter, -⟩) | rfl) | ⟨hwide, -⟩
  · have hbig : 97 ≤ c.val.toNat := hletter
    omega
  · have hbig : 65 ≤ c.val.toNat := hletter
    omega
  · exact absurd hnine (by decide)
  · have hbig : 128 ≤ c.val.toNat := hwide
    omega

theorem isWord_of_isIdentifier {word : Text} (h : Text.isIdentifier word = true) :
    isWord word = true := by
  have hall : word.all isNameChar = true := by
    rw [List.all_eq_true]
    intro c hc
    rcases Text.continues_of_mem_identifier h hc with hcontinue | hwide
    · exact isNameChar_of_isIdentifierContinue hcontinue
    · simp [isNameChar, hwide]
  have hhead : word.head?.any (!Text.isAsciiDigit ·) = true := by
    cases word with
    | nil => exact absurd h Bool.false_ne_true
    | cons c rest =>
        rw [Text.isIdentifier, Bool.and_eq_true] at h
        simp [isAsciiDigit_of_isIdentifierStart h.1]
  rw [isWord, hall, hhead, h, Bool.or_true]
  rfl

theorem not_mem_of_isWord {word : Text} {c : Char} (h : isWord word = true)
    (hc : isNameChar c = false) : c ∉ word := by
  intro hmem
  simp only [isWord, Bool.and_eq_true, List.all_eq_true] at h
  rw [h.1.1 c hmem] at hc
  cases hc

theorem ne_nil_of_isWord {word : Text} (h : isWord word = true) : word ≠ [] := by
  rintro rfl
  cases h

/-- A word ends where the text behind it says so. -/
theorem takeWhile_word {word : Text} (hall : word.all isNameChar = true) (hends : endsWord text = true) :
    (word ++ text).takeWhile isNameChar = word ∧ (word ++ text).dropWhile isNameChar = text := by
  have hstop : text.takeWhile isNameChar = [] ∧ text.dropWhile isNameChar = text := by
    cases text with
    | nil => exact ⟨rfl, rfl⟩
    | cons c rest =>
        have hc : isNameChar c = false := by
          simp only [endsWord, List.head?_cons, Option.all_some, Bool.and_eq_true,
            Bool.not_eq_true'] at hends
          exact hends.1.1
        rw [List.takeWhile_cons, List.dropWhile_cons, hc]
        exact ⟨rfl, rfl⟩
  rw [List.all_eq_true] at hall
  rw [List.takeWhile_append_of_pos hall, List.dropWhile_append_of_pos hall, hstop.1, hstop.2,
    List.append_nil]
  exact ⟨rfl, rfl⟩

theorem readWord_append {word : Text} (place : Place) (hword : isWord word = true)
    (hends : endsWord text = true) :
    readWord place (word ++ text) = .token (wordKind word) 0 text := by
  simp only [isWord, Bool.and_eq_true] at hword
  obtain ⟨⟨hall, -⟩, hplain⟩ := hword
  obtain ⟨htake, hdrop⟩ := takeWhile_word hall hends
  rw [readWord, htake, hdrop, if_pos hplain]
  split
  · simp [endsWord] at hends
  · simp [endsWord] at hends
  · rfl

/-- The characters that begin blanks, comments, line ends and literals. -/
def specialCharacters : List Char :=
  ['\n', '\\', '"', '\'', '#', ' ', '\t', '\x0c']

theorem skipBlanks_plain {c : Char} (rest : Text) (hc : c ∉ specialCharacters) :
    skipBlanks (c :: rest) = c :: rest := by
  have hspace : isSpace c = false := by
    simp only [specialCharacters, List.mem_cons, not_or] at hc
    simp [isSpace, hc]
  rw [skipBlanks, List.dropWhile_cons, hspace]
  split
  · next heq => exact absurd (List.cons.inj heq).1 fun h => hc (h ▸ by decide)
  · rfl

theorem not_mem_specialCharacters {c : Char} (hc : isNameChar c = true) :
    c ∉ specialCharacters := by
  intro hmem
  have hnone : ∀ d ∈ specialCharacters, (!isNameChar d) = true := List.all_eq_true.mp (by decide)
  exact absurd hc (by simpa using hnone c hmem)

theorem readToken_nameChar {c : Char} (place : Place) (rest : Text) (hc : isNameChar c = true)
    (hdigit : Text.isAsciiDigit c = false) :
    readToken place (c :: rest) = readWord place (c :: rest) := by
  have hspecial := not_mem_specialCharacters hc
  have hdot : c ≠ '.' := fun h => by
    rw [h] at hc
    exact absurd hc (by decide)
  unfold readToken
  split
  · next heq => cases heq
  all_goals first
    | next heq => exact absurd (List.cons.inj heq).1 fun h => hspecial (h ▸ by decide)
    | next heq =>
        obtain ⟨rfl, rfl⟩ := List.cons.inj heq
        simp [hdigit, hdot, hc]

/-- A word is read as a whole, in whatever place it stands. -/
theorem readToken_word {word : Text} (place : Place) (hword : isWord word = true)
    (hends : endsWord text = true) :
    readToken place (skipBlanks (word ++ text)) = .token (wordKind word) 0 text := by
  have hread := readWord_append place hword hends
  simp only [isWord, Bool.and_eq_true] at hword
  cases word with
  | nil => simp at hword
  | cons c rest =>
      have hc : isNameChar c = true := by
        have hall := hword.1.1
        rw [List.all_cons, Bool.and_eq_true] at hall
        exact hall.1
      have hdigit : Text.isAsciiDigit c = false := by simpa using hword.1.2
      rw [List.cons_append, skipBlanks_plain _ (not_mem_specialCharacters hc),
        readToken_nameChar place _ hc hdigit]
      exact hread

/-! ## Marks -/

/-- The characters that make a longer symbol of one before them. -/
def extendingCharacters : List Char :=
  ['*', '/', '<', '>', '=', '.']

/-- What neither extends a symbol before it nor makes it the front of a
numeral. -/
def endsMark (text : Text) : Bool :=
  text.head?.all fun c => !extendingCharacters.contains c && !Text.isAsciiDigit c

theorem symbolOf2_eq_none {a b : Char} (hb : b ∉ extendingCharacters) : symbolOf2 a b = none := by
  unfold symbolOf2
  split
  all_goals first | exact absurd (by decide) hb | rfl

theorem symbolOf3_eq_none {a b : Char} (c : Char) (hb : b ∉ extendingCharacters) :
    symbolOf3 a b c = none := by
  unfold symbolOf3
  split
  · split
    all_goals first | exact absurd (by decide) hb | rfl
  · split
    · next h =>
        simp only [Bool.and_eq_true, decide_eq_true_eq] at h
        exact absurd (h.1.2 ▸ by decide) hb
    · rfl

theorem readSymbol_mark {c : Char} {symbol : Symbol} (hsymbol : symbolOf1 c = some symbol)
    (hends : endsMark text = true) : readSymbol (c :: text) = some (symbol, text) := by
  cases text with
  | nil => simp [readSymbol, hsymbol]
  | cons b rest =>
      have hb : b ∉ extendingCharacters := by
        simp only [endsMark, List.head?_cons, Option.all_some, Bool.and_eq_true,
          Bool.not_eq_true', List.contains_eq_mem, decide_eq_false_iff_not] at hends
        exact hends.1
      cases rest with
      | nil => simp [readSymbol, symbolOf2_eq_none hb, hsymbol]
      | cons d rest => simp [readSymbol, symbolOf2_eq_none hb, symbolOf3_eq_none d hb, hsymbol]

/-- A character that begins a symbol and nothing else. -/
def isMarkChar (c : Char) : Bool :=
  !specialCharacters.contains c && !isNameChar c

theorem readToken_mark {c : Char} {symbol : Symbol} {rest after : Text} (place : Place)
    (hc : isMarkChar c = true) (hdot : rest.head?.any Text.isAsciiDigit = false)
    (hsymbol : readSymbol (c :: rest) = some (symbol, after)) :
    readToken place (skipBlanks (c :: rest)) = .token (.symbol symbol) 0 after := by
  simp only [isMarkChar, Bool.and_eq_true, Bool.not_eq_true', List.contains_eq_mem,
    decide_eq_false_iff_not] at hc
  obtain ⟨hspecial, hname⟩ := hc
  have hdigit : Text.isAsciiDigit c = false := by
    simp only [isNameChar, Bool.or_eq_false_iff] at hname
    exact hname.1.1.2
  rw [skipBlanks_plain _ hspecial]
  unfold readToken
  split
  · next heq => cases heq
  all_goals first
    | next heq => exact absurd (List.cons.inj heq).1 fun h => hspecial (h ▸ by decide)
    | next heq =>
        obtain ⟨rfl, rfl⟩ := List.cons.inj heq
        simp [hdigit, hdot, hname, hsymbol]

/-- What a symbol does to the open brackets, of which only the kinds count. -/
def nest (symbol : Symbol) (openers : List Symbol) : Option (List Symbol) :=
  (changeNesting symbol 0 (openers.map fun opener => (opener, 0))).map (List.map Prod.fst)

theorem changeNesting_eq_nest (symbol : Symbol) (line : Nat) (openers : List (Symbol × Nat)) :
    (changeNesting symbol line openers).map (List.map Prod.fst) =
      nest symbol (openers.map Prod.fst) := by
  have hfst : (openers.map Prod.fst).map (fun opener => (opener, 0)) =
      openers.map fun opener => (opener.1, 0) := List.map_map
  have hkinds : (openers.map fun opener => (opener.1, 0)).map Prod.fst = openers.map Prod.fst :=
    List.map_map
  rw [nest, hfst]
  cases symbol
  case openParen | openBracket | openBrace =>
    simp only [changeNesting, List.length_map]
    split
    · simp only [Option.map_some, List.map_cons, hkinds]
    · rfl
  case closeParen | closeBracket | closeBrace =>
    cases openers with
    | nil => rfl
    | cons opener rest =>
        simp only [changeNesting, List.map_cons]
        split
        · simp only [Option.map_some, List.map_map]
          rfl
        · rfl
  all_goals simp only [changeNesting, Option.map_some, hkinds]

theorem Place.take_symbol {place : Place} {symbol : Symbol} {openers' : List Symbol}
    (hplace : place.IsAt (.inside indents openers)) (hnest : nest symbol openers = some openers') :
    ∃ after token, place.take (.symbol symbol) 0 = .ok (after, token) ∧
      after.IsAt (.inside indents openers') ∧ token.kind = .symbol symbol := by
  have hopeners : place.openers.map Prod.fst = openers := hplace.openers
  have hchange := changeNesting_eq_nest symbol place.line place.openers
  rw [hopeners, hnest] at hchange
  obtain ⟨after, hafter, hkinds⟩ := Option.map_eq_some_iff.mp hchange
  refine ⟨{ place with openers := after },
    Place.token { place with openers := after } (.symbol symbol), ?_,
    ⟨hplace.indents, hkinds⟩, rfl⟩
  rw [take, hafter]

/-! ## Rules within a line -/

theorem lexFrom_token {place after : Place} {kind : TokenKind} {token : Token} {rest : Text}
    (fuel : Nat) (hread : readToken place (skipBlanks text) = .token kind 0 rest)
    (htake : place.take kind 0 = .ok (after, token)) :
    lexFrom (fuel + 1) false place text = token :: lexFrom fuel false after rest := by
  rw [lexFrom, hread]
  simp only [htake]

theorem Stage.fuel_succ {i : List (Nat × Nat)} {o : List Symbol} {rest : Text}
    {fuel : Nat} (hlength : rest.length < text.length)
    (hfuel : (Stage.inside indents openers).fuel text ≤ fuel) :
    ∃ less, fuel = less + 1 ∧ (Stage.start i o).fuel rest ≤ less ∧
      (Stage.inside i o).fuel rest ≤ less := by
  simp only [Stage.fuel] at hfuel
  exact ⟨fuel - 1, by simp at hfuel; omega, by simp [Stage.fuel] at hfuel ⊢; omega,
    by simp [Stage.fuel] at hfuel ⊢; omega⟩

theorem spelled_wordKind (characters : CharacterNames) (word : Text) :
    (wordKind word).spelled characters = wordKind word := by
  unfold wordKind
  split <;> rfl

theorem Spells.word {word : Text} (hword : isWord word = true) (hends : endsWord text = true)
    (h : Spells (.inside indents openers) text kinds) :
    Spells (.inside indents openers) (word ++ text) (wordKind word :: kinds) := by
  intro characters place hplace fuel hfuel
  have hlength : text.length < (word ++ text).length := by
    cases word with
    | nil => exact absurd hword (by decide)
    | cons c rest => simp only [List.cons_append, List.length_cons, List.length_append]; omega
  obtain ⟨less, rfl, -, hless⟩ := Stage.fuel_succ (i := indents) (o := openers)
    hlength hfuel
  have htake : place.take (wordKind word) 0 = .ok (place, place.token (wordKind word)) := by
    unfold wordKind
    split <;> rfl
  rw [lexFrom_token less (readToken_word place hword hends) htake, List.map_cons,
    h characters place hplace less hless, Function.comp_apply]
  exact congrArg (· :: kinds) (spelled_wordKind characters word)

theorem Spells.mark {c : Char} {symbol : Symbol} {rest after : Text} {openers' : List Symbol}
    (hc : isMarkChar c = true) (hdot : rest.head?.any Text.isAsciiDigit = false)
    (hsymbol : readSymbol (c :: rest) = some (symbol, after))
    (hlength : after.length ≤ rest.length) (hnest : nest symbol openers = some openers')
    (h : Spells (.inside indents openers') after kinds) :
    Spells (.inside indents openers) (c :: rest) (.symbol symbol :: kinds) := by
  intro characters place hplace fuel hfuel
  obtain ⟨less, rfl, -, hless⟩ := Stage.fuel_succ (i := indents) (o := openers')
    (Nat.lt_succ_of_le hlength) hfuel
  obtain ⟨next, token, htake, hnext, hkind⟩ := Place.take_symbol hplace hnest
  rw [lexFrom_token less (readToken_mark place hc hdot hsymbol) htake, List.map_cons,
    h characters next hnext less hless, Function.comp_apply, hkind]
  rfl

theorem Spells.blank (h : Spells (.inside indents openers) text kinds) :
    Spells (.inside indents openers) (' ' :: text) kinds := by
  intro characters place hplace fuel hfuel
  have hskip : skipBlanks (' ' :: text) = skipBlanks text := rfl
  have hless : (Stage.inside indents openers).fuel text ≤ fuel := by
    simp only [Stage.fuel, List.length_cons] at hfuel ⊢
    omega
  rw [← h characters place hplace fuel hless]
  cases fuel with
  | zero => rfl
  | succ fuel => rw [lexFrom, lexFrom, hskip]

/-! ## Rules for line ends -/

/-- A line that ends outside of brackets is a token. -/
theorem Spells.lineEnd (h : Spells (.start indents []) text kinds) :
    Spells (.inside indents []) ('\n' :: text) (.newline :: kinds) := by
  intro characters place hplace fuel hfuel
  obtain ⟨less, rfl, hless, -⟩ := Stage.fuel_succ (i := indents) (o := [])
    (Nat.lt_succ_self text.length) hfuel
  have hopen : place.openers.isEmpty = true := hplace.openers_isEmpty
  have hnext : place.nextLine.IsAt (.start indents []) := ⟨hplace.indents, hplace.openers⟩
  have hread : readToken place (skipBlanks ('\n' :: text)) = .lineEnd text := rfl
  rw [lexFrom, hread]
  simp only [hopen, if_true, List.map_cons]
  rw [h characters place.nextLine hnext less hless]
  rfl

theorem Spells.innerLineEnd {opener : Symbol}
    (h : Spells (.start indents (opener :: openers)) text kinds) :
    Spells (.inside indents (opener :: openers)) ('\n' :: text) kinds := by
  intro characters place hplace fuel hfuel
  obtain ⟨less, rfl, hless, -⟩ := Stage.fuel_succ (i := indents)
    (o := opener :: openers) (Nat.lt_succ_self text.length) hfuel
  have hopen : place.openers.isEmpty = false := hplace.openers_isEmpty
  have hnext : place.nextLine.IsAt (.start indents (opener :: openers)) :=
    ⟨hplace.indents, hplace.openers⟩
  have hread : readToken place (skipBlanks ('\n' :: text)) = .lineEnd text := rfl
  rw [lexFrom, hread]
  simp only [hopen, Bool.false_eq_true, if_false]
  exact h characters place.nextLine hnext less hless

/-! ## Rules for line starts -/

def spaces (n : Nat) : Text :=
  List.replicate n ' '

/-- The characters before which a margin is not over, or that make it none. -/
def marginCharacters : List Char :=
  [' ', '\t', '\x0c', '\\', '\n', '#']

theorem margin_spaces {c : Char} {rest : Text} (hc : c ∉ marginCharacters) (n columns lines : Nat) :
    margin columns columns 0 lines (spaces n ++ c :: rest) =
      .measured (columns + n) (columns + n) lines (c :: rest) := by
  induction n generalizing columns with
  | zero =>
      show margin columns columns 0 lines (c :: rest) = _
      unfold margin
      split
      all_goals first
        | next heq => exact absurd (List.cons.inj heq).1 fun h => hc (h ▸ by decide)
        | rfl
  | succ n ih =>
      have hfront : spaces (n + 1) ++ c :: rest = ' ' :: (spaces n ++ c :: rest) := rfl
      rw [hfront, margin, ih, Nat.add_assoc, Nat.add_comm 1 n]

theorem Spells.emptyLine (h : Spells (.start indents openers) text kinds) :
    Spells (.start indents openers) ('\n' :: text) kinds := by
  intro characters place hplace fuel hfuel
  obtain ⟨less, rfl⟩ : ∃ less, fuel = less + 1 :=
    ⟨fuel - 1, by simp only [Stage.fuel, if_true] at hfuel; omega⟩
  have hless : (Stage.start indents openers).fuel text ≤ less := by
    simp only [Stage.fuel, List.length_cons] at hfuel ⊢
    omega
  have hnext : (place.advance 0).nextLine.IsAt (.start indents openers) :=
    ⟨hplace.indents, hplace.openers⟩
  have hmargin : margin 0 0 0 0 ('\n' :: text) = .measured 0 0 0 ('\n' :: text) := rfl
  rw [lexFrom, hmargin]
  exact h characters _ hnext less hless

theorem Spells.innerMargin {c : Char} {rest : Text} {opener : Symbol} (n : Nat)
    (hc : c ∉ marginCharacters)
    (h : Spells (.inside indents (opener :: openers)) (c :: rest) kinds) :
    Spells (.start indents (opener :: openers)) (spaces n ++ c :: rest) kinds := by
  intro characters place hplace fuel hfuel
  obtain ⟨less, rfl⟩ : ∃ less, fuel = less + 1 :=
    ⟨fuel - 1, by simp only [Stage.fuel, if_true] at hfuel; omega⟩
  have hless : (Stage.inside indents (opener :: openers)).fuel (c :: rest) ≤ less := by
    simp [Stage.fuel] at hfuel ⊢
    omega
  have hopen : (place.advance 0).openers.isEmpty = false := hplace.openers_isEmpty
  have hnext : (place.advance 0).IsAt (.inside indents (opener :: openers)) :=
    ⟨hplace.indents, hplace.openers⟩
  rw [lexFrom, margin_spaces hc]
  dsimp only
  split
  · next heq => cases heq
  · next heq => exact absurd (List.cons.inj heq).1 fun h => hc (h ▸ by decide)
  · next heq => exact absurd (List.cons.inj heq).1 fun h => hc (h ▸ by decide)
  · rw [hopen, if_neg Bool.false_ne_true]
    exact h characters _ hnext less hless

theorem spelled_change (characters : CharacterNames) {columns tabsAsOne : Nat}
    {indents' : List (Nat × Nat)} {changes : List TokenKind}
    (hchange : changeIndent columns tabsAsOne indents = some (indents', changes)) :
    ∀ kind ∈ changes, kind.spelled characters = kind := by
  simp only [changeIndent] at hchange
  intro kind hkind
  split at hchange
  · split at hchange <;> cases hchange
    cases hkind
  split at hchange
  · split at hchange <;> cases hchange
    obtain rfl := List.mem_singleton.mp hkind
    rfl
  · split at hchange <;> cases hchange
    obtain rfl := List.eq_of_mem_replicate hkind
    rfl

theorem Spells.margin {c : Char} {rest : Text} {indents' : List (Nat × Nat)}
    {changes : List TokenKind} (n : Nat) (hc : c ∉ marginCharacters)
    (hchange : changeIndent n n indents = some (indents', changes))
    (h : Spells (.inside indents' []) (c :: rest) kinds) :
    Spells (.start indents []) (spaces n ++ c :: rest) (changes ++ kinds) := by
  intro characters place hplace fuel hfuel
  obtain ⟨less, rfl⟩ : ∃ less, fuel = less + 1 :=
    ⟨fuel - 1, by simp only [Stage.fuel, if_true] at hfuel; omega⟩
  have hless : (Stage.inside indents' []).fuel (c :: rest) ≤ less := by
    simp [Stage.fuel] at hfuel ⊢
    omega
  have hopen : (place.advance 0).openers.isEmpty = true := hplace.openers_isEmpty
  have hindents : (place.advance 0).indents = indents := hplace.indents
  have hnext : Place.IsAt { place.advance 0 with indents := indents' } (.inside indents' []) :=
    ⟨rfl, hplace.openers⟩
  rw [lexFrom, margin_spaces hc]
  dsimp only
  split
  · next heq => cases heq
  · next heq => exact absurd (List.cons.inj heq).1 fun h => hc (h ▸ by decide)
  · next heq => exact absurd (List.cons.inj heq).1 fun h => hc (h ▸ by decide)
  · rw [hopen, if_pos rfl, hindents, Nat.zero_add, hchange]
    dsimp only
    rw [List.map_append, h characters _ hnext less hless, List.map_map]
    have hkinds : changes.map ((TokenKind.spelled characters ∘ Token.kind) ∘
        Place.token { place.advance 0 with indents := indents' }) = changes :=
      (List.map_congr_left fun kind hkind =>
        spelled_change characters hchange kind hkind).trans (List.map_id changes)
    rw [hkinds]

theorem Spells.finish (indents : List (Nat × Nat)) :
    Spells (.start indents []) [] (indents.map (fun _ => .dedent) ++ [.finish]) := by
  intro characters place hplace fuel hfuel
  obtain ⟨less, rfl⟩ : ∃ less, fuel = less + 1 :=
    ⟨fuel - 1, by simp only [Stage.fuel, if_true] at hfuel; omega⟩
  have hopen : (place.advance 0).openers.isEmpty = true := hplace.openers_isEmpty
  have hindents : (place.advance 0).indents = indents := hplace.indents
  have hmargin : MessageForge.Source.margin 0 0 0 0 [] = .measured 0 0 0 [] := rfl
  rw [lexFrom, hmargin]
  dsimp only
  rw [hopen, if_pos rfl, hindents, List.map_append, List.map_map]
  rfl

end MessageForge.Source
