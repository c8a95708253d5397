import Mathlib.Data.List.Basic
import MessageForge.Code.Layout

/-!
# Groups of blocks

Blocks of lines stand with one empty line between them, and blocks that are empty
do not count. Classes are put together in several layers of this kind; as it does
not matter how blocks are grouped, a class looks as if all its members had been
put in one row.

Main statement: `separation_ignores_grouping`.
-/

namespace MessageForge.Code

variable {block next : List Text}

/-! ## Blocks in a row -/

theorem separate_single (block : List Text) : separate [block] = block := by
  cases block with
  | nil => rfl
  | cons line rest => rfl

/-- An empty block leaves no trace. -/
theorem separate_nil_cons (blocks : List (List Text)) : separate ([] :: blocks) = separate blocks :=
  rfl

theorem separate_cons_ne_nil (blocks : List (List Text)) (h : block ≠ []) :
    separate (block :: blocks) ≠ [] := by
  rw [separate, if_neg fun hempty => h (List.isEmpty_iff.mp hempty)]
  split
  · exact h
  · exact fun hnil => h (List.append_eq_nil_iff.mp hnil).1

theorem separate_cons (blocks : List (List Text)) (hblock : block ≠ []) (hnext : next ≠ []) :
    separate (block :: next :: blocks) = block ++ [] :: separate (next :: blocks) := by
  rw [separate, if_neg fun hempty => hblock (List.isEmpty_iff.mp hempty),
    if_neg fun hempty => separate_cons_ne_nil blocks hnext (List.isEmpty_iff.mp hempty)]

/-- Blocks none of which is empty stand with one empty line between them. -/
theorem separate_of_ne_nil {blocks : List (List Text)} (hblock : block ≠ [])
    (hblocks : ∀ other ∈ blocks, other ≠ []) :
    separate (block :: blocks) = block ++ blocks.flatMap ([] :: ·) := by
  induction blocks generalizing block with
  | nil => rw [separate_single, List.flatMap_nil, List.append_nil]
  | cons next rest ih =>
      obtain ⟨hnext, hrest⟩ := List.forall_mem_cons.mp hblocks
      rw [separate_cons rest hblock hnext, ih hnext hrest]
      rfl

/-- Only the blocks that are not empty count. -/
theorem separate_filter (blocks : List (List Text)) :
    separate (blocks.filter (· ≠ [])) = separate blocks := by
  induction blocks with
  | nil => rfl
  | cons block rest ih =>
      by_cases hblock : block = []
      · subst hblock
        exact ih
      · rw [List.filter_cons_of_pos (by simpa using hblock), separate, ih, separate]

theorem separate_eq_intercalate_of_ne_nil : ∀ {blocks : List (List Text)},
    (∀ block ∈ blocks, block ≠ []) → separate blocks = List.intercalate [[]] blocks
  | [], _ => rfl
  | [block], _ => by
      rw [separate_single, List.intercalate_singleton]
  | block :: next :: rest, h => by
      obtain ⟨hblock, hnext⟩ := List.forall_mem_cons.mp h
      have hrest := separate_eq_intercalate_of_ne_nil hnext
      rw [separate_cons rest hblock (hnext next (List.mem_cons_self ..)), hrest,
        List.intercalate_cons_cons]
      simp

/-- What is there stands in order, with one empty line between neighbours. -/
theorem separate_eq_intercalate (blocks : List (List Text)) :
    separate blocks = List.intercalate [[]] (blocks.filter (· ≠ [])) := by
  rw [← separate_filter]
  apply separate_eq_intercalate_of_ne_nil
  intro block hblock
  simpa using List.of_mem_filter hblock

/-! ## Groups -/

theorem separate_nested (block : List Text) (blocks : List (List Text)) :
    separate [block, separate blocks] = separate (block :: blocks) := by
  rw [separate, separate_single, separate]

theorem separate_assoc (first second third : List Text) :
    separate [separate [first, second], third] = separate [first, separate [second, third]] := by
  cases first with
  | nil =>
      show separate [separate [second], third] = separate [separate [second, third]]
      rw [separate_single, separate_single]
  | cons line more =>
      cases second with
      | nil => cases third <;> rfl
      | cons next rest => cases third <;> simp [separate]

/-- Two groups one behind the other. -/
theorem separate_append (front back : List (List Text)) :
    separate [separate front, separate back] = separate (front ++ back) := by
  induction front with
  | nil => exact separate_single (separate back)
  | cons block front ih =>
      rw [List.cons_append, ← separate_nested block front, separate_assoc, ih, separate_nested]

theorem separate_groups (groups : List (List (List Text))) :
    separate (groups.map separate) = separate groups.flatten := by
  induction groups with
  | nil => rfl
  | cons group rest ih =>
      rw [List.map_cons, ← separate_nested, ih, separate_append, List.flatten_cons]

/-- A group leaves no trace exactly if none of its blocks does. -/
theorem separate_ne_nil_iff {group : List (List Text)} :
    separate group ≠ [] ↔ ∃ block ∈ group, block ≠ [] := by
  induction group with
  | nil => simp [separate]
  | cons block rest ih =>
      rw [List.exists_mem_cons_iff, ← ih]
      by_cases hblock : block = []
      · subst hblock
        simp [separate_nil_cons]
      · simp [hblock, separate_cons_ne_nil rest hblock]

theorem separate_groups_filter (groups : List (List (List Text))) :
    separate ((groups.filter fun group => ∃ block ∈ group, block ≠ []).map separate) =
      separate (groups.map separate) := by
  have hfilter : (groups.filter fun group => ∃ block ∈ group, block ≠ []).map separate =
      (groups.map separate).filter (· ≠ []) := by
    rw [List.filter_map]
    congr 2
    funext group
    exact (decide_eq_decide.mpr separate_ne_nil_iff).symm
  rw [hfilter, separate_filter]

/-! ## Indentation -/

theorem indent_isEmpty (levels : Int) (lines : List Text) :
    (indent levels lines).isEmpty = lines.isEmpty :=
  List.isEmpty_map

/-- The empty lines between blocks stay empty when they are indented. -/
theorem indent_separate (levels : Int) (blocks : List (List Text)) :
    indent levels (separate blocks) = separate (blocks.map (indent levels)) := by
  induction blocks with
  | nil => rfl
  | cons block rest ih =>
      rw [List.map_cons, separate, separate, ← ih, indent_isEmpty, indent_isEmpty]
      split
      · rfl
      · split
        · rfl
        · simp [indent]

/-- Blocks can be put in one row or in groups first: either way those that are
not empty stand in order, with one empty line between neighbours and no trace of
the others, and so they do once they are indented. -/
theorem separation_ignores_grouping (groups : List (List (List Text))) (blocks : List (List Text))
    (levels : Int) :
    separate (groups.map separate) = separate groups.flatten ∧
      separate blocks = List.intercalate [[]] (blocks.filter (· ≠ [])) ∧
      separate blocks = separate (blocks.filter (· ≠ [])) ∧
      separate (groups.map separate) =
        separate ((groups.filter fun group => ∃ block ∈ group, block ≠ []).map separate) ∧
      indent levels (separate blocks) = separate (blocks.map (indent levels)) :=
  ⟨separate_groups groups, separate_eq_intercalate blocks, (separate_filter blocks).symm,
    (separate_groups_filter groups).symm, indent_separate levels blocks⟩

end MessageForge.Code
