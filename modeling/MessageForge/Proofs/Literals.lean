import MessageForge.Proofs.Rows
import MessageForge.Proofs.Statements

/-!
# Literals in three quotes

A text in three quotes that holds neither quotes nor backslashes is one token,
whatever lines it goes over and whatever names characters have, and stands as
an expression of its own. In other literals an escape by name stands for the
character of this name.
-/

namespace MessageForge.Source

open Reader

variable {indents : List (Nat × Nat)} {openers : List Symbol} {text body : Text}
  {kinds rest : List TokenKind} {next : TokenKind} {depth : Nat}

/-- No character of the text ends or escapes anything within a literal. -/
def IsUnquoted (text : Text) : Prop :=
  ∀ c ∈ text, c ≠ '"' ∧ c ≠ '\\'

theorem IsUnquoted.append {front back : Text} (hfront : IsUnquoted front)
    (hback : IsUnquoted back) : IsUnquoted (front ++ back) :=
  List.forall_mem_append.mpr ⟨hfront, hback⟩

/-! ## The token -/

def threeQuotes : Text := ['"', '"', '"']

theorem longBody_append (h : IsUnquoted body) :
    longBody '"' (body ++ (threeQuotes ++ text)) = some (body, text) := by
  induction body with
  | nil => rfl
  | cons c body ih =>
      obtain ⟨⟨hquote, hescape⟩, hbody⟩ := List.forall_mem_cons.mp h
      rw [List.cons_append]
      unfold longBody
      split
      · next heq => cases heq
      · next heq => exact absurd (List.cons.inj heq).1 hescape
      · next heq =>
          obtain ⟨rfl, rfl⟩ := List.cons.inj heq
          rw [if_neg (by simp [hquote]), ih hbody]
          rfl

theorem spellNames_unquoted (characters : CharacterNames) (fuel : Nat) (hbody : IsUnquoted body) :
    spellNames characters fuel body = body := by
  induction fuel generalizing body with
  | zero => rfl
  | succ fuel ih =>
      cases body with
      | nil => rfl
      | cons c body =>
          obtain ⟨⟨-, hescape⟩, hbody⟩ := List.forall_mem_cons.mp hbody
          rw [spellNames, ih hbody]
          · exact fun _ heq => absurd heq hescape
          · exact fun _ _ heq => absurd heq hescape

theorem spelled_unquoted (characters : CharacterNames) (hbody : IsUnquoted body) :
    (TokenKind.string { body }).spelled characters = .string { body } := by
  show TokenKind.string { body := spellNames characters (body.length + 1) body } = _
  rw [spellNames_unquoted characters _ hbody]

theorem Spells.literal (hbody : IsUnquoted body)
    (h : Spells (.inside indents openers) text kinds) :
    Spells (.inside indents openers) (threeQuotes ++ (body ++ (threeQuotes ++ text)))
      (.string { body } :: kinds) := by
  intro characters place hplace fuel hfuel
  have hlength : text.length < (threeQuotes ++ (body ++ (threeQuotes ++ text))).length := by
    simp only [List.length_append, threeQuotes, List.length_cons, List.length_nil]
    omega
  obtain ⟨less, rfl, -, hless⟩ := Stage.fuel_succ (i := indents) (o := openers) hlength hfuel
  have hread : readToken place (skipBlanks (threeQuotes ++ (body ++ (threeQuotes ++ text)))) =
      .token (.string { body }) (lineEnds body) text := by
    show readString place {} '"' ('"' :: '"' :: (body ++ (threeQuotes ++ text))) = _
    have hlong : stringBody '"' ('"' :: '"' :: (body ++ (threeQuotes ++ text))) =
        some (body, text) := longBody_append hbody
    rw [readString, hlong]
  have hplace' : (place.advance (lineEnds body)).IsAt (.inside indents openers) :=
    ⟨hplace.indents, hplace.openers⟩
  rw [lexFrom, hread]
  show _ :: (lexFrom less false (place.advance (lineEnds body)) text).map _ = _
  rw [h characters _ hplace' less hless]
  exact congrArg (· :: kinds) (spelled_unquoted characters hbody)

theorem decodeTextFrom_unquoted : ∀ {body : Text} {fuel : Nat}, IsUnquoted body →
    body.length < fuel → decodeTextFrom fuel body = some (body.map Char.toNat)
  | _, 0, _, hfuel => absurd hfuel (Nat.not_lt_zero _)
  | [], fuel + 1, _, _ => rfl
  | c :: body, fuel + 1, h, hfuel => by
      obtain ⟨⟨-, hescape⟩, hbody⟩ := List.forall_mem_cons.mp h
      have ih := decodeTextFrom_unquoted hbody (Nat.lt_of_succ_lt_succ hfuel)
      unfold decodeTextFrom
      split
      · next heq => exact absurd (List.cons.inj heq).1 hescape
      · next heq => exact absurd (List.cons.inj heq).1 hescape
      · next hfuel heq =>
          obtain ⟨rfl, rfl⟩ := List.cons.inj heq
          cases hfuel
          rw [ih]
          rfl
      · next hnone => exact absurd rfl (hnone fuel c body rfl)

/-! ## The expression -/

/-- One literal by itself, before a token that is none. -/
theorem Reads.stringTokens {token : StringToken} (hnext : next ∈ expressionEnds) :
    Reads Source.stringTokens (.string token :: next :: rest) (next :: rest)
      fun found => ∃ line, found = [(line, token)] := by
  have hmany : Reads Source.stringTokens ([()].flatMap (fun _ => [.string token]) ++ next :: rest)
      (next :: rest) (List.Forall₂ (fun (_ : Unit) found => found.2 = token) [()]) := by
    refine Reads.many (fun _ _ => List.cons_ne_nil _ _) (TakesEach.cons ⟨?_, ?_⟩ TakesEach.nil) ?_
    · refine Reads.bind Reads.peek fun kind hkind => ?_
      rw [hkind]
      exact Reads.pure rfl
    · refine Reads.bind Reads.nextLine fun line _ => Reads.bind Reads.peek fun kind hkind => ?_
      rw [hkind]
      exact Reads.bind Reads.skip fun _ _ => Reads.pure rfl
    · refine Reads.bind Reads.peek fun kind hkind => ?_
      rw [hkind]
      rcases cases_expressionEnds hnext with rfl | rfl | rfl | rfl
      all_goals exact Reads.pure rfl
  refine hmany.mono fun found hfound => ?_
  cases hfound with
  | cons hfirst hrest =>
      cases hrest
      exact ⟨_, congrArg (fun token => [(_, token)]) hfirst⟩

theorem Reads.literal {parts : Parts} (hbody : IsUnquoted body) (hnext : next ∈ expressionEnds) :
    Reads (primary parts) (.string { body } :: next :: rest) (next :: rest) fun _ => True := by
  have hdecode : decodeText false body = some (body.map Char.toNat) :=
    decodeTextFrom_unquoted hbody (Nat.lt_succ_self _)
  have hpieces : ∀ line, Reads (literalPieces (Source.starExpressions parts) line { body })
      (next :: rest) (next :: rest) fun _ => True := by
    intro line
    rw [literalPieces, if_neg Bool.false_ne_true, hdecode]
    exact Reads.pure trivial
  have hatom : Reads (atom parts) (.string { body } :: next :: rest) (next :: rest)
      fun _ => True := by
    refine Reads.bind Reads.nextLine fun _ _ => Reads.bind Reads.peek fun kind hkind => ?_
    rw [hkind]
    refine Reads.bind (Reads.stringTokens hnext) fun tokens htokens => ?_
    obtain ⟨line, rfl⟩ := htokens
    have hall : Reads (allPieces (Source.starExpressions parts) [(line, { body })])
        (next :: rest) (next :: rest) fun _ => True :=
      Reads.bind (hpieces line) fun first _ =>
        Reads.bind (show Reads _ _ (next :: rest) (fun _ => True) from Reads.pure trivial)
          fun _ _ => Reads.pure trivial
    have hjoined : Reads (joinLiterals (Source.starExpressions parts) [(line, { body })])
        (next :: rest) (next :: rest) fun _ => True :=
      Reads.bind hall fun pieces _ => Reads.pure trivial
    exact Reads.bind hjoined fun expr _ => Reads.pure trivial
  exact Reads.bind hatom fun operand _ =>
    (Reads.extend_none (Reads.suffix_none hnext)).mono fun _ _ => trivial

theorem takesExpression_literal (hbody : IsUnquoted body) :
    TakesExpression 1 [.string { body }] := by
  refine ⟨rfl, fun depth hdepth next hnext rest => ?_⟩
  obtain ⟨less, rfl⟩ : ∃ less, depth = less + 1 := ⟨depth - 1, by omega⟩
  exact (Reads.literal hbody hnext).expression_of_primary (.inr ⟨_, rfl⟩) hnext

/-- A literal that stands alone is a statement. -/
theorem takesStatement_literal (hbody : IsUnquoted body) :
    TakesStatement 1 1 [] [.string { body }, .newline] := by
  refine .of_front TokenKind.noConfusion TokenKind.noConfusion fun depth hdepth _ _ rest => ?_
  have hassigned : Reads (assigned (partsAt depth)) (.string { body } :: .newline :: rest)
      (.newline :: rest) fun _ => True := by
    refine Reads.bind Reads.nextIsWord fun value hvalue => ?_
    rw [hvalue]
    exact Reads.bind (Reads.starExpressions (takesExpression_literal hbody) hdepth
      (by simp [expressionEnds]) (by simp)) fun _ _ => Reads.pure trivial
  have hnode : Reads (expressionStatement (partsAt depth)) (.string { body } :: .newline :: rest)
      (.newline :: rest) fun node => node.className? = none := by
    refine Reads.bind hassigned fun found _ => ?_
    obtain ⟨operand, isYield⟩ := found
    refine Reads.bind Reads.peek fun kind hkind => ?_
    rw [hkind]
    exact Reads.pure rfl
  refine Reads.bind Reads.nextLine fun _ _ => Reads.bind Reads.peek fun kind hkind => ?_
  rw [hkind]
  refine (Reads.simpleStatements_of ?_).mono fun _ => classNames_of_isPlain
  refine Reads.bind Reads.nextLine fun _ _ => Reads.bind Reads.peek fun kind hkind => ?_
  rw [hkind]
  exact Reads.bind hnode fun node hnode => Reads.pure hnode

/-! ## Escapes by name -/

theorem hexEscape_add (first second value : Nat) (text : Text) :
    hexEscape (first + second) value text =
      (hexEscape first value text).bind fun found => hexEscape second found.1 found.2 := by
  induction first generalizing value text with
  | zero => rw [Nat.zero_add]; rfl
  | succ first ih =>
      rw [Nat.succ_add]
      cases text with
      | nil => rfl
      | cons c rest =>
          rw [hexEscape, hexEscape]
          cases Text.hexDigitValue? c with
          | none => rfl
          | some digit => exact ih (16 * value + digit) rest

/-- Hexadecimal digits are read as what they were written for. -/
theorem hexEscape_hexDigits (width value n : Nat) (rest : Text) :
    hexEscape width value (Text.hexDigits width n ++ rest) =
      some (Nat.pow 16 width * value + n % Nat.pow 16 width, rest) := by
  induction width generalizing n rest with
  | zero =>
      show some (value, rest) = some (1 * value + n % 1, rest)
      rw [Nat.one_mul, Nat.mod_one, Nat.add_zero]
  | succ width ih =>
      have hdigit : ∀ digit < 16, Text.hexDigitValue? (Text.hexDigit digit) = some digit := by
        decide
      have hpow : Nat.pow 16 (width + 1) = 16 * Nat.pow 16 width := Nat.mul_comm ..
      rw [Text.hexDigits, List.append_assoc, hexEscape_add, ih, Option.bind_some,
        List.singleton_append, hexEscape, hdigit _ (Nat.mod_lt n (by decide)), hpow, Nat.mod_mul,
        Nat.mul_assoc, Nat.add_comm (n % 16), ← Nat.add_assoc, ← Nat.mul_add]
      rfl

/-- An escape by a name that is known stands for the character of this name. -/
theorem decodeTextFrom_named {characters : CharacterNames} {name : Text} {c : Char}
    (hname : ∀ d ∈ name, d ≠ '\x7d') (hknown : characters name = some c) (fuel count : Nat)
    (rest : Text) :
    decodeTextFrom (count + 1) (spellNames characters (fuel + 1)
      ('\\' :: 'N' :: '\x7b' :: (name ++ '\x7d' :: rest))) =
      (decodeTextFrom count (spellNames characters fuel rest)).map (c.toNat :: ·) := by
  have htake : (name ++ '\x7d' :: rest).takeWhile (· ≠ '\x7d') = name := by
    rw [List.takeWhile_append_of_pos fun d hd => decide_eq_true (hname d hd)]
    simp
  have hvalid : c.toNat < 0x110000 := by
    have h := c.valid
    simp only [UInt32.isValidChar, Nat.isValidChar] at h
    show c.val.toNat < _
    omega
  have hsmall : c.toNat % Nat.pow 16 8 = c.toNat :=
    Nat.mod_eq_of_lt (Nat.lt_trans hvalid (by decide))
  rw [spellNames, htake, List.drop_left, hknown]
  show ((hexEscape 8 0 (Text.hexDigits 8 c.toNat ++ spellNames characters fuel rest)).bind
    fun found => if found.1 < 0x110000 then
      (decodeTextFrom count found.2).map (found.1 :: ·) else none) = _
  rw [hexEscape_hexDigits, Nat.mul_zero, Nat.zero_add, hsmall]
  exact if_pos hvalid

/-- The bullet in a literal, under its name. -/
example : decodeText false (StringToken.spelled
    (fun name => if name = "BULLET" then some '•' else none)
    { body := "a \\N\x7bBULLET\x7d" }).body = some [0x61, 0x20, 0x2022] := by
  decide +kernel

end MessageForge.Source
