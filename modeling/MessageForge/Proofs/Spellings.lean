import MessageForge.Proofs.Globs

/-!
# Spellings

One location has many spellings, and one of them is plain: a slash before each
of its names. Patterns that are tidy, with names and wildcards alone between
their slashes, find files under their plain spellings only, so that what is
found in different ways is the same file just if it is the same text.
-/

namespace MessageForge

namespace Path

variable {location : Location} {root path name : Text}

/-! ## Plain spellings -/

/-- The plain absolute path to a location. -/
def spell (location : Location) : Text :=
  '/' :: Text.join "/" location

/-- The path is plain, but for a slash that may stand behind it. -/
def IsTidy (path : Text) : Prop :=
  ∃ location : Location, (∀ name ∈ location, IsName name) ∧
    (path = spell location ∨ location ≠ [] ∧ path = spell location ++ ['/'])

theorem isAbsolute_spell (location : Location) : isAbsolute (spell location) = true :=
  isAbsolute_iff.mpr ⟨_, rfl⟩

theorem place_spell (root : Text) (h : ∀ name ∈ location, IsName name) :
    place root (spell location) = location := by
  have hslash : ∀ c ∈ ['/'], c = '/' := fun c hc => List.mem_singleton.mp hc
  have hfollow : follow [] (Text.split '/' (['/'] ++ Text.join "/" location)) = [] ++ location := by
    rw [follow_slashes_append hslash, follow_join_names h]
  rw [place_of_isAbsolute root (isAbsolute_spell location)]
  exact hfollow

theorem spell_append {names : List Text} (hlocation : location ≠ []) (hnames : names ≠ []) :
    spell (location ++ names) = spell location ++ '/' :: Text.join "/" names := by
  rw [spell, Text.join_append _ hnames hlocation]
  rfl

theorem spell_concat (h : location ≠ []) (name : Text) :
    spell (location ++ [name]) = spell location ++ '/' :: name :=
  spell_append h (List.cons_ne_nil _ _)

/-- Behind a location other than the top a name needs a slash in front of it. -/
theorem endsWith_slash_spell (hne : location ≠ []) (h : ∀ name ∈ location, IsName name) :
    Text.endsWith "/" (spell location) = false := by
  rw [Bool.eq_false_iff]
  intro hends
  obtain ⟨rest, hrest⟩ := endsWith_slash_iff.mp hends
  obtain ⟨front, last, rfl⟩ := (List.eq_nil_or_concat' location).resolve_left hne
  obtain ⟨hlast, -, -, hslash⟩ := h last (by simp)
  have hend : (spell (front ++ [last])).getLast? = last.getLast? := by
    by_cases hfront : front = []
    · subst hfront
      show ('/' :: last).getLast? = _
      rw [List.getLast?_cons_of_ne_nil hlast]
    · rw [spell_concat hfront, List.getLast?_append_of_ne_nil _ (List.cons_ne_nil _ _),
        List.getLast?_cons_of_ne_nil hlast]
  rw [hrest, List.getLast?_concat] at hend
  exact hslash (List.mem_of_getLast? hend.symm)

theorem directory_spell_append {back : Text} (hne : location ≠ []) (h : ∀ name ∈ location, IsName name)
    (hback : '/' ∉ back) : directory (spell location ++ '/' :: back) = spell location := by
  have hends : ∀ hspell : spell location ≠ [], ¬ decide ((spell location).getLast hspell = '/') = true := by
    intro hspell hslash
    have hfalse := endsWith_slash_spell hne h
    rw [endsWith_slash_iff.mpr ⟨(spell location).dropLast, ?_⟩] at hfalse
    · cases hfalse
    · rw [← of_decide_eq_true hslash, List.dropLast_append_getLast]
  have hdrop : dropTrailingSlashes (spell location ++ ['/']) = spell location := by
    show List.rdropWhile _ _ = _
    rw [List.rdropWhile_concat_pos _ _ _ (by rfl)]
    exact List.rdropWhile_eq_self_iff.mpr hends
  have hname : ¬ (spell location ++ ['/']).all (· = '/') = true := by
    intro hall
    have hlast := List.all_eq_true.mp hall _
      (List.mem_append_left _ (List.getLast_mem (l := spell location) (List.cons_ne_nil _ _)))
    exact hends (List.cons_ne_nil _ _) hlast
  rw [directory_append _ hback, if_neg hname, hdrop]

namespace IsTidy

variable {names : List Text}

theorem spell (h : ∀ name ∈ location, IsName name) : IsTidy (spell location) :=
  ⟨location, h, .inl rfl⟩

theorem isAbsolute (h : IsTidy path) : isAbsolute path = true := by
  obtain ⟨location, -, rfl | ⟨-, rfl⟩⟩ := h
  · exact isAbsolute_spell location
  · exact isAbsolute_iff.mpr ⟨_, rfl⟩

/-- Behind a tidy path names are spelled plainly. -/
theorem exists_join_eq (h : IsTidy path) (hne : names ≠ []) (hnames : ∀ name ∈ names, IsName name) :
    ∃ location, (∀ name ∈ location, IsName name) ∧
      join path (Text.join "/" names) = Path.spell (location ++ names) := by
  obtain ⟨location, hlocation, hpath⟩ := h
  refine ⟨location, hlocation, ?_⟩
  rw [join_of_relative (isAbsolute_join_names hnames)]
  rcases hpath with rfl | ⟨hlocationNe, rfl⟩
  · by_cases htop : location = []
    · subst htop
      rfl
    · rw [if_neg, spell_append htop hne]
      rintro (hnil | hends)
      · cases hnil
      · rw [endsWith_slash_spell htop hlocation] at hends
        cases hends
  · rw [if_pos (.inr (endsWith_slash_iff.mpr ⟨_, rfl⟩)), spell_append hlocationNe hne, List.append_assoc]
    rfl

theorem join_names (h : IsTidy path) (hne : names ≠ []) (hnames : ∀ name ∈ names, IsName name) :
    IsTidy (join path (Text.join "/" names)) := by
  obtain ⟨location, hlocation, heq⟩ := h.exists_join_eq hne hnames
  exact heq ▸ spell (List.forall_mem_append.mpr ⟨hlocation, hnames⟩)

theorem join_name (h : IsTidy path) (hname : IsName name) : IsTidy (join path name) :=
  h.join_names (List.cons_ne_nil name []) (List.forall_mem_singleton.mpr hname)

/-- To join nothing is to put a slash behind, if there is none. -/
theorem join_nil (h : IsTidy path) : IsTidy (join path []) := by
  obtain ⟨location, hlocation, rfl | ⟨hne, rfl⟩⟩ := h
  · rw [join_of_relative rfl]
    split
    · rw [List.append_nil]
      exact spell hlocation
    · next hends =>
        refine ⟨location, hlocation, .inr ⟨fun hnil => hends (.inr ?_), rfl⟩⟩
        rw [hnil]
        rfl
  · rw [join_of_relative rfl, if_pos (.inr (endsWith_slash_iff.mpr ⟨_, rfl⟩)), List.append_nil]
    exact ⟨location, hlocation, .inr ⟨hne, rfl⟩⟩

theorem directory (h : IsTidy path) : IsTidy (Path.directory path) := by
  obtain ⟨location, hlocation, rfl | ⟨hne, rfl⟩⟩ := h
  · rcases List.eq_nil_or_concat' location with rfl | ⟨front, last, rfl⟩
    · exact spell (List.forall_mem_nil _)
    · obtain ⟨hfront, hlast⟩ := List.forall_mem_append.mp hlocation
      have hslash : '/' ∉ last := (hlast last (List.mem_singleton_self _)).2.2.2
      by_cases hempty : front = []
      · subst hempty
        have htop : Path.directory (Path.spell [last]) = Path.spell [] :=
          directory_append [] hslash
        rw [List.nil_append, htop]
        exact spell (List.forall_mem_nil _)
      · rw [spell_concat hempty, directory_spell_append hempty hfront hslash]
        exact spell hfront
  · rw [directory_spell_append hne hlocation List.not_mem_nil]
    exact spell hlocation

theorem baseName (h : IsTidy path) : baseName path = [] ∨ IsName (baseName path) := by
  obtain ⟨location, hlocation, rfl | ⟨-, rfl⟩⟩ := h
  · rcases List.eq_nil_or_concat' location with rfl | ⟨front, last, rfl⟩
    · exact .inl rfl
    · have hlast : IsName last := hlocation last (by simp)
      have hbase : Path.baseName (Path.spell (front ++ [last])) = last := by
        by_cases hempty : front = []
        · subst hempty
          exact baseName_append [] hlast.2.2.2
        · rw [spell_concat hempty]
          exact baseName_append _ hlast.2.2.2
      rw [hbase]
      exact .inr hlast
  · exact .inl (baseName_append _ List.not_mem_nil)

end IsTidy

end Path

/-! ## What tidy patterns find -/

open MessageForge.Path

variable {disk : Disk} {root pattern path : Text} {recursive : Bool}

/-- A tidy pattern stands for tidy paths only. -/
theorem Spells.isTidy (h : Spells recursive pattern path) (htidy : IsTidy pattern) :
    IsTidy path := by
  induction h with
  | literal => exact htidy
  | component hpattern hdirectory hname ih =>
      have habove := ih htidy.directory
      rw [Matches] at hname
      split at hname
      · subst hname
        rcases htidy.baseName with hempty | hcomponent
        · rw [hempty]
          exact habove.join_nil
        · exact habove.join_name hcomponent
      · split at hname
        · rcases hname with rfl | ⟨names, hne, hnames, rfl⟩
          · exact habove.join_nil
          · exact habove.join_names hne fun name hname => (hnames name hname).1
        · exact habove.join_name hname.1

theorem isTidy_of_mem_searchedPaths {options : Options} {found : List Text} (htree : disk.IsTree)
    (htidy : ∀ pattern ∈ options.paths, IsTidy (Path.join root pattern))
    (h : searchedPaths disk root options = .ok found) : ∀ path ∈ found, IsTidy path := by
  intro path hpath
  obtain ⟨groups, hgroups, h⟩ := bind_eq_ok_iff.mp h
  cases h
  obtain ⟨pattern, hpattern, group, hstep, hpath⟩ := (mem_flatten_of_mapM_eq_ok hgroups).mp hpath
  have hsearched := htidy pattern hpattern
  dsimp only at hstep
  split at hstep
  · obtain ⟨names, hne, -, hnames, rfl, -⟩ :=
      (htree.mem_declarationFiles_iff hsearched.isAbsolute hstep).mp hpath
    exact hsearched.join_names hne hnames
  · exact ((htree.mem_expand_iff hsearched.isAbsolute hstep).mp hpath).1.isTidy hsearched

/-- A file is found under the plain spelling of its place, if under a tidy one. -/
theorem Disk.IsFileAt.eq_spell {location : Location} (hfile : disk.IsFileAt root path location)
    (h : IsTidy path) : path = spell location := by
  obtain ⟨names, hnames, rfl | ⟨-, rfl⟩⟩ := h
  · rw [hfile.eq_place, Path.place_spell root hnames]
  · obtain ⟨content, hcontent⟩ := hfile.2
    obtain ⟨hempty, -⟩ := (Disk.isName_baseName_of_file hfile.1 hcontent).1
    exact absurd (Path.baseName_append _ List.not_mem_nil) hempty

end MessageForge
