import Mathlib.Data.List.Basic
import MessageForge.Message.Derivation
import MessageForge.Proofs.Outcome

/-!
# Accepted declarations

A declaration is derived if it is a record with a base field, none of its
fields has a name that the generated class needs for itself, and its name
leaves a category. The derivation then says nothing but what the declaration
says.
-/

namespace MessageForge

open Vocabulary

/-! ## Sorted sets of names -/

theorem mem_sortedSet {texts : List Text} {text : Text} : text ∈ sortedSet texts ↔ text ∈ texts := by
  rw [sortedSet, (List.mergeSort_perm _ _).mem_iff, List.mem_eraseDups]

theorem sortedSet_isEmpty_iff {texts : List Text} : (sortedSet texts).isEmpty = true ↔ texts = [] := by
  rw [List.isEmpty_iff, List.eq_nil_iff_forall_not_mem, List.eq_nil_iff_forall_not_mem]
  exact forall_congr' fun text => not_congr mem_sortedSet

theorem namesAmong_isEmpty_iff {names taken : List Text} :
    (namesAmong names taken).isEmpty = true ↔ ∀ name ∈ names, name ∉ taken := by
  rw [namesAmong, sortedSet_isEmpty_iff, List.filter_eq_nil_iff]
  simp only [List.contains_iff_mem]

/-! ## Fields -/

/-- The parameters of the constructors that are no members of the class. -/
def ownParameters : List Text :=
  constructorParameters.filter (!generatedMembers.contains ·)

/-- The names that no field of a derived record has. -/
def reservedNames : List Text :=
  generatedMembers ++ ownParameters

theorem checkFields_eq_ok_iff {declaration : Declaration} {fields : List Field} :
    checkFields declaration fields = .ok () ↔
      baseField ∈ fields.map Field.name ∧ ∀ name ∈ fields.map Field.name, name ∉ reservedNames := by
  have hreserved : (∀ name ∈ fields.map Field.name, name ∉ reservedNames) ↔
      (namesAmong (fields.map Field.name) generatedMembers).isEmpty = true ∧
        (namesAmong (fields.map Field.name) ownParameters).isEmpty = true := by
    rw [namesAmong_isEmpty_iff, namesAmong_isEmpty_iff]
    simp only [reservedNames, List.mem_append, not_or, forall_and]
  rw [hreserved]
  rw [← List.contains_iff_mem]
  show (if !(fields.map Field.name).contains baseField then _
    else if !(namesAmong (fields.map Field.name) generatedMembers).isEmpty then _
    else if !(namesAmong (fields.map Field.name) ownParameters).isEmpty then _ else _) = _ ↔ _
  constructor
  · intro h
    split at h
    · cases h
    · next hbase =>
        split at h
        · cases h
        · next hconflicts =>
            split at h
            · cases h
            · next hrepeats =>
                exact ⟨by simpa using hbase, by simpa using hconflicts, by simpa using hrepeats⟩
  · rintro ⟨hbase, hconflicts, hrepeats⟩
    rw [hbase, hconflicts, hrepeats]
    rfl

theorem checkCategory_eq_ok_iff {declaration : Declaration} {category : Text} :
    checkCategory declaration = .ok category ↔
      Category.ofTypeName declaration.name = category ∧ category ≠ [] := by
  unfold checkCategory
  dsimp only
  split
  · next hempty =>
      constructor
      · intro h
        cases h
      · rintro ⟨rfl, hne⟩
        exact absurd (List.isEmpty_iff.mp hempty) hne
  · next hempty =>
      constructor
      · intro h
        cases h
        exact ⟨rfl, fun hnil => hempty (List.isEmpty_iff.mpr hnil)⟩
      · rintro ⟨rfl, -⟩
        rfl

/-! ## Declarations -/

namespace Declaration

/-- Exactly these declarations are derived, and into nothing else. -/
theorem derive_eq_ok_iff {declaration : Declaration} {derivation : Derivation} :
    declaration.derive = .ok derivation ↔
      declaration.shape = .record ∧
      checkFields declaration declaration.fields = .ok () ∧
      checkCategory declaration = .ok derivation.category ∧
      derivation.declaration = declaration ∧
      derivation.role = declaration.roleShape derivation.category := by
  have hderive : declaration.derive = (declaration.recordFields >>= fun fields =>
      (checkFields declaration fields).mapError declaration.refuse >>= fun _ =>
      (checkCategory declaration).mapError declaration.refuse >>= fun category =>
      pure { declaration, category, role := declaration.roleShape category }) := rfl
  rw [hderive, recordFields]
  by_cases hshape : declaration.shape = .record
  · rw [if_pos hshape, ok_bind]
    constructor
    · intro h
      obtain ⟨_, hfields, h⟩ := bind_eq_ok_iff.mp h
      obtain ⟨category, hcategory, h⟩ := bind_eq_ok_iff.mp h
      cases h
      exact ⟨hshape, mapError_eq_ok_iff.mp hfields, mapError_eq_ok_iff.mp hcategory, rfl, rfl⟩
    · rintro ⟨-, hfields, hcategory, hdeclaration, hrole⟩
      rw [mapError_eq_ok_iff.mpr hfields, ok_bind, mapError_eq_ok_iff.mpr hcategory, ok_bind,
        ← hrole, ← hdeclaration]
      rfl
  · rw [if_neg hshape, error_bind]
    exact ⟨fun h => (nomatch h), fun ⟨h, _⟩ => absurd h hshape⟩

end Declaration

end MessageForge
