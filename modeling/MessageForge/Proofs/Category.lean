import MessageForge.Message.Category
import MessageForge.Proofs.Lines

/-!
# Categories

A category is an identifier, which holds neither blanks nor dots nor line
feeds, so that it is its own normal spelling. The type name of a category
names exactly this category.
-/

namespace MessageForge

open Vocabulary

namespace Text

theorem isIdentifierContinue_of_isIdentifierStart {c : Char} (h : isIdentifierStart c = true) :
    isIdentifierContinue c = true ∨ 128 ≤ c.toNat := by
  simp only [isIdentifierStart, isIdentifierContinue, Bool.or_eq_true, Bool.and_eq_true,
    decide_eq_true_eq] at h ⊢
  rcases h with (h | h) | h
  · exact Or.inl (Or.inl (Or.inl (Or.inl h)))
  · exact Or.inl (Or.inl (Or.inr h))
  · exact Or.inr h.1

theorem ne_nil_of_isIdentifier {text : Text} (h : isIdentifier text = true) : text ≠ [] := by
  rintro rfl
  exact Bool.noConfusion h

/-- The ASCII characters of an identifier can all stand behind its first one. -/
theorem continues_of_mem_identifier {text : Text} (h : isIdentifier text = true) {c : Char}
    (hc : c ∈ text) : isIdentifierContinue c = true ∨ 128 ≤ c.toNat := by
  cases text with
  | nil => exact absurd h Bool.false_ne_true
  | cons first rest =>
      rw [isIdentifier, Bool.and_eq_true, List.all_eq_true] at h
      rcases List.mem_cons.mp hc with rfl | hmem
      · exact isIdentifierContinue_of_isIdentifierStart h.1
      · exact Or.inl (h.2 c hmem)

theorem not_mem_identifier {text : Text} (h : isIdentifier text = true) {c : Char}
    (hbreak : isIdentifierContinue c = false) (hascii : c.toNat < 128) : c ∉ text := by
  intro hc
  rcases continues_of_mem_identifier h hc with hcont | hwide
  · rw [hcont] at hbreak
    exact Bool.noConfusion hbreak
  · exact absurd hwide (Nat.not_le.mpr hascii)

/-! ## Blanks -/

/-- The blanks among the characters of a text, by their code points. -/
def blankCodes : List Nat :=
  [0x09, 0x0a, 0x0b, 0x0c, 0x0d, 0x1c, 0x1d, 0x1e, 0x1f, 0x20, 0x85, 0xa0, 0x1680, 0x2000, 0x2001,
    0x2002, 0x2003, 0x2004, 0x2005, 0x2006, 0x2007, 0x2008, 0x2009, 0x200a, 0x2028, 0x2029, 0x202f,
    0x205f, 0x3000]

theorem mem_blankCodes {c : Char} (h : isBlank c = true) : c.toNat ∈ blankCodes := by
  simp only [isBlank, Bool.or_eq_true, Bool.and_eq_true, decide_eq_true_eq] at h
  simp only [blankCodes, List.mem_cons, List.not_mem_nil, or_false]
  omega

theorem not_isIdentifier_of_isBlank {c : Char} (h : isBlank c = true) :
    isIdentifierStart c = false ∧ isIdentifierContinue c = false := by
  have hall : ∀ n ∈ blankCodes, isIdentifierStart (Char.ofNat n) = false ∧
      isIdentifierContinue (Char.ofNat n) = false := by decide +kernel
  have hc := hall _ (mem_blankCodes h)
  rwa [Char.ofNat_toNat] at hc

/-- An identifier has no blank at either end. -/
theorem trim_of_isIdentifier {text : Text} (h : isIdentifier text = true) : trim text = text := by
  have hplain : ∀ c ∈ text, isBlank c = false := by
    intro c hc
    rw [Bool.eq_false_iff]
    intro hblank
    obtain ⟨hstart, hcontinue⟩ := not_isIdentifier_of_isBlank hblank
    cases text with
    | nil => cases hc
    | cons first rest =>
        rw [isIdentifier, Bool.and_eq_true, List.all_eq_true] at h
        rcases List.mem_cons.mp hc with rfl | hmem
        · rw [h.1] at hstart
          cases hstart
        · rw [h.2 c hmem] at hcontinue
          cases hcontinue
  have hleft : ∀ text : Text, (∀ c ∈ text, isBlank c = false) → trimLeft text = text := by
    intro text htext
    cases text with
    | nil => rfl
    | cons first rest =>
        rw [trimLeft, List.dropWhile_cons, htext first (List.mem_cons_self ..)]
        rfl
  rw [trim, hleft text hplain, hleft text.reverse fun c hc => hplain c (List.mem_reverse.mp hc),
    List.reverse_reverse]

end Text

namespace Category

theorem ofTypeName_typeName (category : Text) : ofTypeName (typeName category) = category :=
  Text.dropSuffix_append category messageSuffix

theorem typeName_ne (category : Text) : category ≠ typeName category := by
  intro h
  have hlen := congrArg List.length h
  rw [typeName, List.length_append] at hlen
  have hpos : 0 < messageSuffix.length := by decide
  omega

theorem isIdentifier_of_normalize {text category : Text} (h : normalize text = .ok category) :
    Text.isIdentifier category = true := by
  unfold normalize at h
  dsimp only at h
  split at h
  · next hid =>
      cases h
      exact hid
  · cases h

/-- An identifier has no qualification in front and is its own normal spelling. -/
theorem normalize_of_isIdentifier {category : Text} (h : Text.isIdentifier category = true) :
    normalize category = .ok category := by
  have hplain : Text.dropPrefix (messageTypeEnum ++ ".") category = category := by
    rw [Text.dropPrefix]
    cases hstrip : Text.stripPrefix? (messageTypeEnum ++ ".") category with
    | none => rfl
    | some rest =>
        have hdot : '.' ∈ category := by
          rw [Text.eq_append_of_stripPrefix? hstrip]
          simp
        exact absurd hdot (Text.not_mem_identifier h (by decide) (by decide))
  rw [normalize, Text.trim_of_isIdentifier h, hplain, if_pos h]

theorem newline_not_mem {text category : Text} (h : normalize text = .ok category) :
    '\n' ∉ category :=
  Text.not_mem_identifier (isIdentifier_of_normalize h) (by decide) (by decide)

end Category

end MessageForge
