import Mathlib.Data.List.Perm.Basic
import MessageForge.Proofs.Globs
import MessageForge.Proofs.Growth
import MessageForge.Proofs.Histories

/-!
# Selections

What a run selects is settled path by path: it is what the expressions to
search for find, without what is excluded and without modules. So a disk that
has grown gives the same selection, if nothing new is found on it that is not
filtered out. In directories that have been searched before nothing new is
found at all: what a run adds to them is no declaration file.
-/

namespace MessageForge

open MessageForge.Path

/-! ## Sorted sets -/

namespace Text

theorem le_total : ∀ first second : Text, (le first second || le second first) = true
  | [], _ => rfl
  | _ :: _, [] => rfl
  | a :: as, b :: bs => by
      have ih := le_total as bs
      rw [Bool.or_eq_true] at ih
      rw [le, le, Bool.or_eq_true, Bool.or_eq_true, Bool.or_eq_true, decide_eq_true_eq,
        decide_eq_true_eq, Bool.and_eq_true, Bool.and_eq_true, decide_eq_true_eq, decide_eq_true_eq]
      rcases Nat.lt_trichotomy a.toNat b.toNat with hlt | heq | hgt
      · exact .inl (.inl hlt)
      · have hsame : a = b := Char.toNat_inj.mp heq
        exact ih.imp (fun h => .inr ⟨hsame, h⟩) fun h => .inr ⟨hsame.symm, h⟩
      · exact .inr (.inl hgt)

theorem le_cons_iff {a b : Char} {as bs : Text} :
    le (a :: as) (b :: bs) = true ↔ a.toNat < b.toNat ∨ a = b ∧ le as bs = true := by
  simp [le]

theorem le_trans : ∀ first second third : Text, le first second = true → le second third = true →
    le first third = true
  | [], _, _, _, _ => rfl
  | _ :: _, [], _, hfirst, _ => nomatch hfirst
  | _ :: _, _ :: _, [], _, hsecond => nomatch hsecond
  | a :: as, b :: bs, c :: cs, hfirst, hsecond => by
      rw [le_cons_iff] at hfirst hsecond ⊢
      rcases hfirst with hab | ⟨rfl, hrest⟩
      · rcases hsecond with hbc | ⟨rfl, -⟩
        · exact .inl (hab.trans hbc)
        · exact .inl hab
      · rcases hsecond with hbc | ⟨rfl, hrest'⟩
        · exact .inl hbc
        · exact .inr ⟨rfl, le_trans as bs cs hrest hrest'⟩

theorem le_antisymm : ∀ first second : Text, le first second = true → le second first = true →
    first = second
  | [], [], _, _ => rfl
  | [], _ :: _, _, hsecond => nomatch hsecond
  | _ :: _, [], hfirst, _ => nomatch hfirst
  | a :: as, b :: bs, hfirst, hsecond => by
      rw [le_cons_iff] at hfirst hsecond
      rcases hfirst with hab | ⟨rfl, hrest⟩
      · rcases hsecond with hba | ⟨rfl, -⟩
        · exact absurd hba hab.asymm
        · exact absurd hab (Nat.lt_irrefl _)
      · rcases hsecond with haa | ⟨-, hrest'⟩
        · exact absurd haa (Nat.lt_irrefl _)
        · rw [le_antisymm as bs hrest hrest']

end Text

theorem nodup_eraseDups {α : Type} [BEq α] [LawfulBEq α] : ∀ items : List α, items.eraseDups.Nodup
  | [] => List.nodup_nil
  | first :: rest => by
      have hshorter : (rest.filter fun other => !other == first).length < rest.length + 1 :=
        Nat.lt_succ_of_le (List.length_filter_le _ _)
      rw [List.eraseDups_cons, List.nodup_cons, List.mem_eraseDups, List.mem_filter]
      exact ⟨fun h => by simp at h, nodup_eraseDups _⟩
termination_by items => items.length

theorem nodup_sortedSet (texts : List Text) : (sortedSet texts).Nodup :=
  (List.mergeSort_perm _ _).nodup_iff.mpr (nodup_eraseDups texts)

theorem pairwise_sortedSet (texts : List Text) :
    (sortedSet texts).Pairwise fun first second => Text.le first second = true :=
  List.pairwise_mergeSort Text.le_trans Text.le_total _

/-- What is kept of a sorted set is settled by its members. -/
theorem filter_sortedSet_congr {first second : List Text} {keeps keeps' : Text → Bool}
    (h : ∀ text, text ∈ first ∧ keeps text = true ↔ text ∈ second ∧ keeps' text = true) :
    (sortedSet first).filter keeps = (sortedSet second).filter keeps' := by
  have hperm : ((sortedSet first).filter keeps).Perm ((sortedSet second).filter keeps') := by
    rw [List.perm_ext_iff_of_nodup ((nodup_sortedSet first).filter _)
      ((nodup_sortedSet second).filter _)]
    intro text
    rw [List.mem_filter, List.mem_filter, mem_sortedSet, mem_sortedSet]
    exact h text
  exact hperm.eq_of_pairwise (fun a b _ _ => Text.le_antisymm a b)
    ((pairwise_sortedSet first).filter _) ((pairwise_sortedSet second).filter _)

/-! ## What expressions find -/

namespace Disk

variable {disk before after : Disk} {root pattern path : Text} {recursive : Bool}

/-- What an expression to search for stands for on a disk. -/
def Finds (disk : Disk) (root : Text) (recursive : Bool) (pattern path : Text) : Prop :=
  if disk.isDirectory root pattern then
    ∃ names, names ≠ [] ∧ (recursive = false → names.length = 1) ∧ (∀ name ∈ names, IsName name) ∧
      path = Path.join pattern (Text.join "/" names) ∧ disk.IsDeclarationFile root path
  else Spells recursive pattern path ∧ disk.exists? root path = true

/-- What an expression to exclude stands for on a disk. -/
def Excludes (disk : Disk) (root : Text) (recursive : Bool) (pattern path : Text) : Prop :=
  if disk.isFile root pattern then path = pattern
  else Spells recursive pattern path ∧ disk.exists? root path = true

theorem Finds.exists? (h : disk.Finds root recursive pattern path) :
    disk.exists? root path = true := by
  rw [Finds] at h
  split at h
  · obtain ⟨_, -, -, -, -, hfile, -⟩ := h
    exact (isFile_iff_exists?.mp hfile).1
  · exact h.2

theorem Finds.isAbsolute (h : disk.Finds root recursive pattern path)
    (hpattern : isAbsolute pattern = true) : isAbsolute path = true := by
  rw [Finds] at h
  split at h
  · obtain ⟨names, -, -, -, rfl, -⟩ := h
    exact isAbsolute_join_left hpattern _
  · exact h.1.isAbsolute hpattern

end Disk

section Searches

variable {disk other : Disk} {root path : Text} {options : Options} {found : List Text}

theorem Disk.IsTree.mem_searchedPaths_iff (htree : disk.IsTree) (hroot : isAbsolute root = true)
    (h : searchedPaths disk root options = .ok found) : path ∈ found ↔
      ∃ pattern ∈ options.paths, disk.Finds root options.recursive (Path.join root pattern) path := by
  obtain ⟨groups, hgroups, h⟩ := bind_eq_ok_iff.mp h
  cases h
  have hstep : ∀ pattern group, (do
      let path := Path.join root pattern
      if disk.isDirectory root path then disk.declarationFiles root options.recursive path
      else disk.expand root options.recursive path) = .ok group →
      (path ∈ group ↔ disk.Finds root options.recursive (Path.join root pattern) path) := by
    intro pattern group hgroup
    have hpattern := isAbsolute_join_left hroot pattern
    rw [Disk.Finds]
    dsimp only at hgroup
    split at hgroup
    · next hdirectory =>
        rw [if_pos hdirectory]
        exact htree.mem_declarationFiles_iff hpattern hgroup
    · next hfile =>
        rw [if_neg hfile]
        exact htree.mem_expand_iff hpattern hgroup
  rw [mem_flatten_of_mapM_eq_ok hgroups]
  constructor
  · rintro ⟨pattern, hpattern, group, hgroup, hpath⟩
    exact ⟨pattern, hpattern, (hstep pattern group hgroup).mp hpath⟩
  · rintro ⟨pattern, hpattern, hfinds⟩
    obtain ⟨group, -, hgroup⟩ := exists_mem_of_mapM_eq_ok hgroups pattern hpattern
    exact ⟨pattern, hpattern, group, hgroup, (hstep pattern group hgroup).mpr hfinds⟩

theorem Disk.IsTree.isAbsolute_of_mem_selectedPaths (htree : disk.IsTree)
    (hroot : isAbsolute root = true) (h : selectedPaths disk root options = .ok found) :
    ∀ path ∈ found, isAbsolute path = true := by
  intro path hpath
  obtain ⟨searched, hsearched, hmem⟩ := mem_searchedPaths_of_mem_selectedPaths h
  obtain ⟨pattern, -, hfinds⟩ := (htree.mem_searchedPaths_iff hroot hsearched).mp (hmem path hpath)
  exact hfinds.isAbsolute (isAbsolute_join_left hroot pattern)

theorem Disk.IsTree.mem_excludedPaths_iff (htree : disk.IsTree) (hroot : isAbsolute root = true)
    (h : excludedPaths disk root options = .ok found) : path ∈ found ↔
      ∃ pattern ∈ options.excludes,
        disk.Excludes root options.recursive (Path.join root pattern) path := by
  obtain ⟨groups, hgroups, h⟩ := bind_eq_ok_iff.mp h
  cases h
  have hstep : ∀ pattern group, (do
      let path := Path.join root pattern
      if disk.isFile root path then return [path] else disk.expand root options.recursive path) =
        .ok group →
      (path ∈ group ↔ disk.Excludes root options.recursive (Path.join root pattern) path) := by
    intro pattern group hgroup
    rw [Disk.Excludes]
    dsimp only at hgroup
    split at hgroup
    · next hfile =>
        cases hgroup
        rw [if_pos hfile, List.mem_singleton]
    · next hfile =>
        rw [if_neg hfile]
        exact htree.mem_expand_iff (isAbsolute_join_left hroot pattern) hgroup
  rw [mem_flatten_of_mapM_eq_ok hgroups]
  constructor
  · rintro ⟨pattern, hpattern, group, hgroup, hpath⟩
    exact ⟨pattern, hpattern, (hstep pattern group hgroup).mp hpath⟩
  · rintro ⟨pattern, hpattern, hexcludes⟩
    obtain ⟨group, -, hgroup⟩ := exists_mem_of_mapM_eq_ok hgroups pattern hpattern
    exact ⟨pattern, hpattern, group, hgroup, (hstep pattern group hgroup).mpr hexcludes⟩

/-- What is selected is found by an expression, by none that excludes it, and
has not the name of a module. -/
theorem Disk.IsTree.selectedPaths_congr (htree : disk.IsTree) (hother : other.IsTree)
    (hroot : isAbsolute root = true) {paths paths' : List Text}
    (h : selectedPaths disk root options = .ok paths)
    (h' : selectedPaths other root options = .ok paths')
    (hsame : ∀ path, Placement.isGenerated path = false →
      (((∃ pattern ∈ options.paths,
            disk.Finds root options.recursive (Path.join root pattern) path) ∧
          ¬ ∃ pattern ∈ options.excludes,
            disk.Excludes root options.recursive (Path.join root pattern) path) ↔
        (∃ pattern ∈ options.paths,
            other.Finds root options.recursive (Path.join root pattern) path) ∧
          ¬ ∃ pattern ∈ options.excludes,
            other.Excludes root options.recursive (Path.join root pattern) path)) :
    paths = paths' := by
  obtain ⟨excluded, hexcluded, h⟩ := bind_eq_ok_iff.mp h
  obtain ⟨searched, hsearched, h⟩ := bind_eq_ok_iff.mp h
  obtain ⟨excluded', hexcluded', h'⟩ := bind_eq_ok_iff.mp h'
  obtain ⟨searched', hsearched', h'⟩ := bind_eq_ok_iff.mp h'
  cases h
  cases h'
  refine filter_sortedSet_congr fun path => ?_
  cases hgenerated : Placement.isGenerated path with
  | true => simp
  | false =>
      have hkept : ∀ texts : List Text,
          (!texts.contains path && !false) = true ↔ path ∉ texts := fun texts => by simp
      rw [hkept, hkept, htree.mem_searchedPaths_iff hroot hsearched,
        htree.mem_excludedPaths_iff hroot hexcluded, hother.mem_searchedPaths_iff hroot hsearched',
        hother.mem_excludedPaths_iff hroot hexcluded']
      exact hsame path hgenerated

end Searches

/-! ## Selections on a disk that has grown -/

namespace Disk

variable {before after : Disk} {root pattern path : Text} {options : Options}

/-- A search is refused for its pattern alone, so that it goes through again. -/
theorem Grows.exists_excludedPaths (hgrows : before.Grows after) (hroot : isAbsolute root = true)
    {paths : List Text} (h : excludedPaths before root options = .ok paths) :
    ∃ paths', excludedPaths after root options = .ok paths' := by
  obtain ⟨groups, hgroups, -⟩ := bind_eq_ok_iff.mp h
  have hsteps : ∀ pattern ∈ options.excludes, ∃ group, (do
      let path := Path.join root pattern
      if after.isFile root path then return [path] else after.expand root options.recursive path) =
        (.ok group : Except FileFault (List Text)) := by
    intro pattern hpattern
    dsimp only
    split
    · exact ⟨_, rfl⟩
    · next hnot =>
        obtain ⟨group, -, hgroup⟩ := exists_mem_of_mapM_eq_ok hgroups pattern hpattern
        dsimp only at hgroup
        rw [if_neg fun hfile => hnot (hgrows.changes.isFile hfile)] at hgroup
        exact hgrows.isTreeAfter.exists_expand hgrows.isTree (isAbsolute_join_left hroot pattern) hgroup
  obtain ⟨excluded, hexcluded⟩ := exists_mapM_eq_ok hsteps
  refine ⟨excluded.flatten, ?_⟩
  rw [excludedPaths]
  dsimp only at hexcluded ⊢
  rw [hexcluded]
  rfl

/-- What has become a directory is searched as one. -/
theorem Grows.exists_searchedPaths (hgrows : before.Grows after) (hroot : isAbsolute root = true)
    {paths : List Text} (h : searchedPaths before root options = .ok paths) :
    ∃ paths', searchedPaths after root options = .ok paths' := by
  obtain ⟨groups, hgroups, -⟩ := bind_eq_ok_iff.mp h
  have hsteps : ∀ pattern ∈ options.paths, ∃ group, (do
      let path := Path.join root pattern
      if after.isDirectory root path then after.declarationFiles root options.recursive path
      else after.expand root options.recursive path) =
        (.ok group : Except FileFault (List Text)) := by
    intro pattern hpattern
    dsimp only
    split
    · next hdirectory =>
        exact hgrows.isTreeAfter.exists_declarationFiles _ (isAbsolute_join_left hroot pattern)
          hdirectory
    · next hnot =>
        obtain ⟨group, -, hgroup⟩ := exists_mem_of_mapM_eq_ok hgroups pattern hpattern
        dsimp only at hgroup
        rw [if_neg fun hdirectory => hnot (hgrows.changes.isDirectory hdirectory)] at hgroup
        exact hgrows.isTreeAfter.exists_expand hgrows.isTree (isAbsolute_join_left hroot pattern) hgroup
  obtain ⟨searched, hsearched⟩ := exists_mapM_eq_ok hsteps
  refine ⟨searched.flatten, ?_⟩
  rw [searchedPaths]
  dsimp only at hsearched ⊢
  rw [hsearched]
  rfl

theorem Grows.exists_selectedPaths (hgrows : before.Grows after) (hroot : isAbsolute root = true)
    {paths : List Text} (h : selectedPaths before root options = .ok paths) :
    ∃ paths', selectedPaths after root options = .ok paths' := by
  obtain ⟨excluded, hexcluded, h⟩ := bind_eq_ok_iff.mp h
  obtain ⟨searched, hsearched, -⟩ := bind_eq_ok_iff.mp h
  obtain ⟨excluded', hexcluded'⟩ := hgrows.exists_excludedPaths hroot hexcluded
  obtain ⟨searched', hsearched'⟩ := hgrows.exists_searchedPaths hroot hsearched
  rw [selectedPaths, hexcluded', ok_bind, hsearched', ok_bind]
  exact ⟨_, rfl⟩

/-- By names a way leads down to every item. -/
theorem IsTree.walk_names (htree : before.IsTree) : ∀ {names : List Text} {location : Location}
    {item : Item}, (∀ name ∈ names, IsName name) → before.item? (location ++ names) = some item →
      before.walk location names = .ok (location ++ names)
  | [], location, _, _, _ => by rw [walk, List.append_nil]
  | name :: rest, location, item, hnames, hitem => by
      obtain ⟨hname, hrest⟩ := List.forall_mem_cons.mp hnames
      have hdirectory : before.item? location = some .directory :=
        htree.reached hitem location (List.prefix_append ..) (by simp)
      have hstep := walk_name hname hdirectory
      rw [hname.split] at hstep
      have hbelow : before.item? (location ++ [name] ++ rest) = some item := by
        rwa [List.append_assoc]
      show before.walk location ([name] ++ rest) = .ok (location ++ ([name] ++ rest))
      rw [walk_append, hstep, ok_bind, ← List.append_assoc]
      exact htree.walk_names hrest hbelow

/-- Every file has been there before, or it is a module or a marker. -/
def AddsOutputs (before after : Disk) : Prop :=
  ∀ location content, after.item? location = some (.file content) →
    (∃ old, before.item? location = some (.file old)) ∨ IsModulePlace location ∨
      location.getLast? = some typedMarker

/-- In a directory that was there before, a declaration file was there too. -/
theorem Grows.isFile_of_isDeclarationFile (hgrows : before.Grows after)
    (hadds : before.AddsOutputs after) {directory : Text} {names : List Text}
    (hroot : isAbsolute directory = true) (hdirectory : before.isDirectory root directory = true)
    (hnames : ∀ name ∈ names, IsName name) (hpath : path = Path.join directory (Text.join "/" names))
    (hfile : after.IsDeclarationFile root path) (hkept : Placement.isGenerated path = false) :
    before.isFile root path = true := by
  obtain ⟨location, hfileAt⟩ := isFile_iff.mp hfile.1
  obtain ⟨content, hcontent⟩ := hfileAt.2
  have hlast : location.getLast? = some (baseName path) := by
    rw [hfileAt.eq_concat, List.getLast?_concat]
  obtain ⟨place, hplace, hitem⟩ := isDirectory_iff.mp hdirectory
  have hlocation : location = place ++ names := by
    rw [eq_place_of_locate hfileAt.1, hpath, place_join_names root directory hnames,
      eq_place_of_locate hplace]
  rcases hadds location content hcontent with ⟨old, hold⟩ | hmodule | hmarker
  · refine isFile_iff.mpr ⟨location, ?_, old, hold⟩
    have hnull := hasNull_of_locate hfileAt.1
    rw [hpath, hasNull_join (isAbsolute_join_names hnames), Bool.or_eq_false_iff] at hnull
    rw [hpath, locate_join hroot (isAbsolute_join_names hnames) hnull.2, hplace, ok_bind]
    by_cases hempty : names = []
    · subst hempty
      rw [hlocation, List.append_nil, hitem] at hold
      cases hold
    · rw [split_join_names hnames hempty, hlocation]
      exact hgrows.isTree.walk_names hnames (hlocation ▸ hold)
  · rw [hfileAt.isGenerated hmodule] at hkept
    cases hkept
  · rw [hlast, Option.some_inj] at hmarker
    have hdeclares := hfile.2
    rw [hmarker] at hdeclares
    exact absurd hdeclares (by decide)

/-- Nothing new counts as input: an expression that is not the name of a
directory finds what was there before, or what is filtered out; and one with a
wildcard is not itself the name of something new. -/
structure AddsNoInput (before after : Disk) (root : Text) (options : Options) : Prop where
  found : ∀ pattern ∈ options.paths, before.isDirectory root (Path.join root pattern) = false →
    ∀ path, after.Finds root options.recursive (Path.join root pattern) path →
      before.exists? root path = true ∨ Placement.isGenerated path = true ∨
      ∃ excluding ∈ options.excludes,
        after.Excludes root options.recursive (Path.join root excluding) path
  named : ∀ pattern ∈ options.paths ++ options.excludes,
    Placement.isPattern (Path.join root pattern) = true →
    after.exists? root (Path.join root pattern) = true →
    before.exists? root (Path.join root pattern) = true

/-- A literal expression stands for nothing but itself. -/
theorem Spells.eq_of_literal {recursive : Bool} (h : Spells recursive pattern path)
    (hliteral : Placement.isPattern pattern = false) : path = pattern := by
  cases h with
  | literal => rfl
  | component hpattern =>
      rw [hliteral] at hpattern
      cases hpattern

/-- What was there before is excluded now just if it was excluded then. -/
theorem Grows.excludes_iff (hgrows : before.Grows after) {recursive : Bool}
    (hnamed : Placement.isPattern pattern = true → after.exists? root pattern = true →
      before.exists? root pattern = true)
    (hpath : before.exists? root path = true) :
    after.Excludes root recursive pattern path ↔ before.Excludes root recursive pattern path := by
  have hafter := hgrows.changes.exists? hpath
  rw [Excludes, Excludes]
  cases hfile : before.isFile root pattern with
  | true => rw [if_pos rfl, if_pos (hgrows.changes.isFile hfile)]
  | false =>
      rw [if_neg Bool.false_ne_true]
      cases hnew : after.isFile root pattern with
      | false => rw [if_neg Bool.false_ne_true, hpath, hafter]
      | true =>
          -- the expression is the name of a new file, and so it is literal
          have hmissing : before.exists? root pattern = false := by
            rw [Bool.eq_false_iff]
            intro hexists
            rw [hgrows.changes.isFile_of_exists? hnew hexists] at hfile
            cases hfile
          have hliteral : Placement.isPattern pattern = false := by
            rw [Bool.eq_false_iff]
            intro hpattern
            rw [hnamed hpattern (isFile_iff_exists?.mp hnew).1] at hmissing
            cases hmissing
          have hother : path ≠ pattern := by
            rintro rfl
            rw [hpath] at hmissing
            cases hmissing
          rw [if_pos rfl]
          exact iff_of_false hother fun h => hother (Spells.eq_of_literal h.1 hliteral)

/-- What was found before is found now. -/
theorem Grows.finds (hgrows : before.Grows after) {recursive : Bool}
    (hnamed : Placement.isPattern pattern = true → after.exists? root pattern = true →
      before.exists? root pattern = true)
    (h : before.Finds root recursive pattern path) : after.Finds root recursive pattern path := by
  have hpath := h.exists?
  rw [Finds] at h ⊢
  cases hdirectory : before.isDirectory root pattern with
  | true =>
      rw [hdirectory, if_pos rfl] at h
      rw [if_pos (hgrows.changes.isDirectory hdirectory)]
      obtain ⟨names, hne, hlength, hnames, heq, hfile, hdeclares⟩ := h
      exact ⟨names, hne, hlength, hnames, heq, hgrows.changes.isFile hfile, hdeclares⟩
  | false =>
      rw [hdirectory, if_neg Bool.false_ne_true] at h
      have hstays : after.isDirectory root pattern = false := by
        rw [Bool.eq_false_iff]
        intro hnew
        have hmissing : ¬ before.exists? root pattern = true := fun hexists => by
          rw [hgrows.changes.isDirectory_of_exists? hnew hexists] at hdirectory
          cases hdirectory
        cases hpattern : Placement.isPattern pattern with
        | true => exact hmissing (hnamed hpattern (exists?_of_isDirectory hnew))
        | false => exact hmissing (Spells.eq_of_literal h.1 hpattern ▸ hpath)
      rw [hstays, if_neg Bool.false_ne_true]
      exact ⟨h.1, hgrows.changes.exists? hpath⟩

/-- What is found now, and was there before, was found before. -/
theorem Grows.finds_before (hgrows : before.Grows after) {recursive : Bool}
    (hpattern : isAbsolute pattern = true) (h : after.Finds root recursive pattern path)
    (hpath : before.exists? root path = true) : before.Finds root recursive pattern path := by
  rw [Finds] at h ⊢
  cases hdirectory : after.isDirectory root pattern with
  | true =>
      rw [hdirectory, if_pos rfl] at h
      obtain ⟨names, hne, hlength, hnames, heq, hfile, hdeclares⟩ := h
      have habove : before.isDirectory root pattern = true :=
        isDirectory_of_exists?_join hpattern (isAbsolute_join_names hnames) (heq ▸ hpath)
      rw [if_pos habove]
      exact ⟨names, hne, hlength, hnames, heq, hgrows.changes.isFile_of_exists? hfile hpath, hdeclares⟩
  | false =>
      rw [hdirectory, if_neg Bool.false_ne_true] at h
      rw [if_neg fun hbefore => by rw [hgrows.changes.isDirectory hbefore] at hdirectory; cases hdirectory]
      exact ⟨h.1, hpath⟩

/-- If a disk has grown by outputs that do not count as inputs, what is selected
on it has been selected before. -/
theorem Grows.selectedPaths_eq (hgrows : before.Grows after) (hadds : before.AddsOutputs after)
    (hapart : before.AddsNoInput after root options) (hroot : isAbsolute root = true)
    {paths : List Text} (h : selectedPaths before root options = .ok paths) :
    selectedPaths after root options = .ok paths := by
  obtain ⟨paths', h'⟩ := hgrows.exists_selectedPaths hroot h
  rw [h', ← hgrows.isTree.selectedPaths_congr hgrows.isTreeAfter hroot h h']
  intro path hkept
  have hexcludes : before.exists? root path = true →
      ((∃ pattern ∈ options.excludes,
          after.Excludes root options.recursive (Path.join root pattern) path) ↔
        ∃ pattern ∈ options.excludes,
          before.Excludes root options.recursive (Path.join root pattern) path) := fun hpath =>
    exists_congr fun pattern => and_congr_right fun hpattern =>
      hgrows.excludes_iff (hapart.named pattern (List.mem_append_right _ hpattern)) hpath
  constructor
  · rintro ⟨⟨pattern, hpattern, hfinds⟩, hnot⟩
    refine ⟨⟨pattern, hpattern,
      hgrows.finds (hapart.named pattern (List.mem_append_left _ hpattern)) hfinds⟩, ?_⟩
    rwa [hexcludes hfinds.exists?]
  · rintro ⟨⟨pattern, hpattern, hfinds⟩, hnot⟩
    have habsolute := isAbsolute_join_left hroot pattern
    have hpath : before.exists? root path = true := by
      cases hdirectory : before.isDirectory root (Path.join root pattern) with
      | true =>
          rw [Finds, if_pos (hgrows.changes.isDirectory hdirectory)] at hfinds
          obtain ⟨names, -, -, hnames, heq, hfile⟩ := hfinds
          exact (isFile_iff_exists?.mp (hgrows.isFile_of_isDeclarationFile hadds habsolute hdirectory
            hnames heq hfile hkept)).1
      | false =>
          rcases hapart.found pattern hpattern hdirectory path hfinds with hold | hmodule | hexcluded
          · exact hold
          · rw [hkept] at hmodule
            cases hmodule
          · exact absurd hexcluded hnot
    refine ⟨⟨pattern, hpattern, hgrows.finds_before habsolute hfinds hpath⟩, ?_⟩
    rwa [← hexcludes hpath]

end Disk

end MessageForge
