import MessageForge.Proofs.Acceptance
import MessageForge.Proofs.AbsolutePaths
import MessageForge.Workspace.Search

/-!
# Searches

What a pattern matches lies below its leading components without a wildcard,
as long as the pattern does not go up behind them: wildcards stand for names,
and to follow names is to go down.
-/

namespace MessageForge

open MessageForge.Path

/-- The items of a disk have names, as those of a file system do. -/
def Disk.HasNames (disk : Disk) : Prop :=
  ∀ entry ∈ disk.items, ∀ name ∈ entry.1, IsName name

theorem Disk.HasNames.without {disk : Disk} (h : disk.HasNames) (locations : List Location) :
    (disk.without locations).HasNames :=
  fun entry hentry => h entry (List.mem_of_mem_filter hentry)

/-- A relative path that goes down from wherever it starts. -/
def Descends (path : Text) : Prop :=
  isAbsolute path = false ∧ ∀ location, location <+: follow location (Text.split '/' path)

namespace Descends

variable {root directory front back name : Text}

theorem empty : Descends [] :=
  ⟨rfl, fun _ => List.prefix_rfl⟩

/-- A single component goes down or stays, unless it is the one that goes up. -/
theorem single (hslash : '/' ∉ name) (hup : name ≠ "..") : Descends name := by
  refine ⟨?_, fun location => ?_⟩
  · rw [Bool.eq_false_iff]
    intro habsolute
    obtain ⟨rest, rfl⟩ := isAbsolute_iff.mp habsolute
    exact hslash (List.mem_cons_self ..)
  · rw [Text.split_of_not_mem hslash]
    exact prefix_follow fun hmem => hup (List.mem_singleton.mp hmem).symm

theorem ofName (h : IsName name) : Descends name :=
  single h.2.2.2 h.2.2.1

theorem join (hfront : Descends front) (hback : Descends back) : Descends (Path.join front back) := by
  refine ⟨by rw [isAbsolute_join, hfront.1, hback.1]; rfl, fun location => ?_⟩
  rw [follow_split_join hback.1]
  exact (hfront.2 location).trans (hback.2 _)

theorem place_isPrefix (h : Descends name) (root directory : Text) :
    Path.place root directory <+: Path.place root (Path.join directory name) := by
  rw [place_join root directory h.1]
  exact h.2 _

end Descends

/-! ## What is in a directory -/

namespace Disk

variable {disk : Disk} {root directory : Text} {names : List Text}

theorem isName_of_mem_namesIn (hdisk : disk.HasNames) {location : Location} {name : Text}
    (h : name ∈ disk.namesIn location) : IsName name := by
  obtain ⟨⟨place, item⟩, hentry, hname⟩ := List.mem_filterMap.mp h
  dsimp only at hname
  split at hname
  · exact hdisk _ hentry name (List.mem_of_getLast? hname)
  · cases hname

theorem isName_of_mem_list (hdisk : disk.HasNames) (h : disk.list root directory = .ok names) :
    ∀ name ∈ names, IsName name := by
  obtain ⟨location, -, h⟩ := bind_eq_ok_iff.mp h
  split at h
  · cases h
  · cases h
  · cases h
    exact fun name => isName_of_mem_namesIn hdisk

theorem isName_of_mem_entries (hdisk : disk.HasNames) (h : disk.entries root directory = .ok names) :
    ∀ name ∈ names, IsName name := by
  rw [entries] at h
  split at h
  · cases h
  · cases h
    exact List.forall_mem_nil _
  · next hlist =>
      cases h
      exact isName_of_mem_list hdisk hlist

theorem descends_of_mem_descendants (hdisk : disk.HasNames) (directoriesOnly : Bool) :
    ∀ {fuel : Nat} {directory : Text} {found : List Text},
      disk.descendants root directoriesOnly fuel directory = .ok found →
      ∀ path ∈ found, Descends path
  | 0, _, found, h, path, hpath => by
      cases h
      cases hpath
  | fuel + 1, directory, found, h, path, hpath => by
      rw [descendants] at h
      obtain ⟨names, hnames, h⟩ := bind_eq_ok_iff.mp h
      obtain ⟨below, hbelow, h⟩ := bind_eq_ok_iff.mp h
      cases h
      obtain ⟨group, hgroup, hpath⟩ := List.mem_flatten.mp hpath
      obtain ⟨name, hname, hstep⟩ := mem_of_mapM_eq_ok hbelow group hgroup
      have hentry : Descends name :=
        .ofName (isName_of_mem_entries hdisk hnames name (List.mem_of_mem_filter hname))
      obtain ⟨deeper, hdeeper, hstep⟩ := bind_eq_ok_iff.mp hstep
      cases hstep
      rcases List.mem_append.mp hpath with hkept | hmapped
      · split at hkept
        · exact List.mem_singleton.mp hkept ▸ hentry
        · cases hkept
      · obtain ⟨rest, hrest, rfl⟩ := List.mem_map.mp hmapped
        exact hentry.join (descends_of_mem_descendants hdisk directoriesOnly hdeeper rest hrest)

theorem descends_of_mem_matchesIn (hdisk : disk.HasNames) {recursive directoriesOnly : Bool}
    {component : Text} (hslash : '/' ∉ component) (hup : component ≠ "..")
    (h : disk.matchesIn root recursive directoriesOnly directory component = .ok names) :
    ∀ name ∈ names, Descends name := by
  have hcomponent : ∀ found : Bool, ∀ name ∈ if found then [component] else [], Descends name := by
    intro found name hname
    split at hname
    · exact List.mem_singleton.mp hname ▸ .single hslash hup
    · cases hname
  rw [matchesIn] at h
  split at h
  · split at h
    · cases h
      exact hcomponent _
    · cases h
      exact hcomponent _
  · split at h
    · obtain ⟨below, hbelow, h⟩ := bind_eq_ok_iff.mp h
      cases h
      intro name hname
      rcases List.mem_append.mp hname with hhere | hname
      · split at hhere
        · exact List.mem_singleton.mp hhere ▸ .empty
        · cases hhere
      · exact descends_of_mem_descendants hdisk _ hbelow name hname
    · obtain ⟨inside, hinside, h⟩ := bind_eq_ok_iff.mp h
      cases h
      exact fun name hname =>
        .ofName (isName_of_mem_entries hdisk hinside name (List.mem_of_mem_filter hname))

/-! ## Expanded patterns -/

/-- A path without a wildcard matches itself at most. -/
theorem eq_of_mem_expandFrom {recursive directoriesOnly : Bool} {fuel : Nat} {pattern : Text}
    {found : List Text} (hpattern : Placement.isPattern pattern = false)
    (h : disk.expandFrom root recursive fuel directoriesOnly pattern = .ok found) :
    ∀ path ∈ found, path = pattern := by
  have hself : ∀ isFound : Bool, ∀ path ∈ if isFound then [pattern] else [], path = pattern := by
    intro isFound path hpath
    split at hpath
    · exact List.mem_singleton.mp hpath
    · cases hpath
  cases fuel with
  | zero =>
      cases h
      exact List.forall_mem_nil _
  | succ fuel =>
      rw [expandFrom, hpattern] at h
      cases h
      exact hself _

/-- What is found is what a component of a pattern matches in some directories,
none of which is refused. -/
structure IsFoundIn (disk : Disk) (root : Text) (recursive directoriesOnly : Bool) (component : Text)
    (directories found : List Text) : Prop where
  inside : ∀ directory ∈ directories, ∃ names,
    disk.matchesIn root recursive directoriesOnly directory component = .ok names
  mem_iff : ∀ path, path ∈ found ↔ ∃ directory ∈ directories, ∃ names, ∃ name ∈ names,
    disk.matchesIn root recursive directoriesOnly directory component = .ok names ∧
      path = Path.join directory name

theorem isFoundIn_flatten {recursive directoriesOnly : Bool} {component : Text}
    {directories : List Text} {groups : List (List Text)}
    (h : (directories.mapM fun place => do
      let names ← disk.matchesIn root recursive directoriesOnly place component
      return names.map (Path.join place)) = (.ok groups : Except FileFault (List (List Text)))) :
    disk.IsFoundIn root recursive directoriesOnly component directories groups.flatten where
  inside := by
    intro directory hdirectory
    obtain ⟨group, -, hstep⟩ := exists_mem_of_mapM_eq_ok h directory hdirectory
    obtain ⟨names, hnames, -⟩ := bind_eq_ok_iff.mp hstep
    exact ⟨names, hnames⟩
  mem_iff := by
    intro path
    rw [mem_flatten_of_mapM_eq_ok h]
    refine exists_congr fun directory => and_congr_right fun _ => ?_
    constructor
    · rintro ⟨group, hstep, hpath⟩
      obtain ⟨names, hnames, hstep⟩ := bind_eq_ok_iff.mp hstep
      cases hstep
      obtain ⟨name, hname, rfl⟩ := List.mem_map.mp hpath
      exact ⟨names, name, hname, hnames, rfl⟩
    · rintro ⟨names, name, hname, hnames, rfl⟩
      exact ⟨_, by rw [hnames]; rfl, List.mem_map_of_mem hname⟩

/-- What a pattern matches is what its last component matches in directories
that are found by the rest of it. -/
theorem expandFrom_eq_ok {recursive directoriesOnly : Bool} {fuel : Nat} {pattern : Text}
    {found : List Text} (hpattern : Placement.isPattern pattern = true)
    (h : disk.expandFrom root recursive (fuel + 1) directoriesOnly pattern = .ok found) :
    ∃ directories, (if Placement.isPattern (Path.directory pattern) then
        disk.expandFrom root recursive fuel true (Path.directory pattern)
      else .ok [Path.directory pattern]) = .ok directories ∧
      disk.IsFoundIn root recursive directoriesOnly (baseName pattern) directories found := by
  rw [expandFrom, hpattern] at h
  split
  · next hnested =>
      dsimp only at h
      rw [if_neg (by decide), if_pos hnested] at h
      obtain ⟨directories, hdirectories, h⟩ := bind_eq_ok_iff.mp h
      obtain ⟨groups, hgroups, h⟩ := bind_eq_ok_iff.mp h
      cases h
      exact ⟨directories, hdirectories, isFoundIn_flatten hgroups⟩
  · next hnested =>
      dsimp only at h
      rw [if_neg (by decide), if_neg hnested, pure_bind] at h
      obtain ⟨groups, hgroups, h⟩ := bind_eq_ok_iff.mp h
      cases h
      exact ⟨_, rfl, isFoundIn_flatten hgroups⟩

theorem isPattern_append (front back : Text) : Placement.isPattern (front ++ back) =
    (Placement.isPattern front || Placement.isPattern back) :=
  List.any_append

/-- What is a pattern goes further than a front that is none. -/
theorem exists_eq_append_of_isPattern {front directory slashes middle : Text}
    (hfront : Placement.isPattern front = false) (h : Placement.isPattern directory = true)
    (heq : front ++ '/' :: middle = directory ++ slashes) :
    ∃ rest, directory = front ++ '/' :: rest ∧ middle = rest ++ slashes := by
  rcases List.append_eq_append_iff.mp heq with ⟨rest, hdirectory, hrest⟩ | ⟨rest, hfronteq, -⟩
  · cases rest with
    | nil =>
        rw [hdirectory, List.append_nil, hfront] at h
        cases h
    | cons c rest =>
        obtain ⟨rfl, hmiddle⟩ := List.cons.inj hrest
        exact ⟨rest, hdirectory, hmiddle⟩
  · rw [hfronteq, isPattern_append, h, Bool.true_or] at hfront
    cases hfront

theorem mem_split_append_slashes {text slashes part : Text} (hslashes : ∀ c ∈ slashes, c = '/')
    (h : part ∈ Text.split '/' text) : part ∈ Text.split '/' (text ++ slashes) := by
  cases slashes with
  | nil => rwa [List.append_nil]
  | cons c rest =>
      rw [hslashes c (List.mem_cons_self ..), Text.split_append]
      exact List.mem_append_left _ h

/-- Where a directory is still a pattern, it has the same front. -/
theorem exists_directory_eq {front back : Text} (hfront : Placement.isPattern front = false)
    (h : Placement.isPattern (Path.directory (front ++ '/' :: back)) = true) :
    ∃ rest, Path.directory (front ++ '/' :: back) = front ++ '/' :: rest ∧
      ∀ part ∈ Text.split '/' rest, part = [] ∨ part ∈ Text.split '/' back := by
  by_cases hback : '/' ∈ back
  · obtain ⟨middle, tail, rfl, htail, -⟩ := exists_splitLast? hback
    have heq : front ++ '/' :: (middle ++ '/' :: tail) = (front ++ '/' :: middle) ++ '/' :: tail := by
      simp
    obtain ⟨slashes, hdirectory, hslashes⟩ := exists_directory_append_eq (front ++ '/' :: middle) htail
    rw [← heq, List.append_assoc, List.cons_append] at hdirectory
    obtain ⟨rest, hrest, hmiddle⟩ := exists_eq_append_of_isPattern hfront h hdirectory
    refine ⟨rest, hrest, fun part hpart => ?_⟩
    have hsplit := mem_split_append_slashes hslashes hpart
    rw [← hmiddle, Text.split_append] at hsplit
    rw [Text.split_append]
    rcases List.mem_append.mp hsplit with hmem | hmem
    · exact .inr (List.mem_append_left _ hmem)
    · exact .inl (List.mem_singleton.mp hmem)
  · obtain ⟨slashes, hdirectory, -⟩ := exists_directory_append_eq front hback
    obtain ⟨rest, hrest, hmiddle⟩ := exists_eq_append_of_isPattern hfront h hdirectory
    obtain ⟨rfl, -⟩ := List.append_eq_nil_iff.mp hmiddle.symm
    exact ⟨[], hrest, fun part hpart => .inl (List.mem_singleton.mp hpart)⟩

theorem follow_prefix_directory {front back : Text} (hup : (".." : Text) ∉ Text.split '/' back) :
    follow [] (Text.split '/' front) <+:
      follow [] (Text.split '/' (Path.directory (front ++ '/' :: back))) := by
  by_cases h : '/' ∈ back
  · obtain ⟨middle, tail, rfl, htail, -⟩ := exists_splitLast? h
    have heq : front ++ '/' :: (middle ++ '/' :: tail) = (front ++ '/' :: middle) ++ '/' :: tail := by
      simp
    rw [Text.split_append] at hup
    rw [heq, follow_directory_append _ htail, Text.split_append, follow_append]
    exact prefix_follow fun hmem => hup (List.mem_append_left _ hmem)
  · exact (follow_directory_append front h).symm ▸ List.prefix_rfl

/-- What a pattern matches lies below its front, where the front has no
wildcard and nothing behind it goes up. -/
theorem prefix_of_mem_expandFrom (hdisk : disk.HasNames) {recursive : Bool} {front : Text}
    (hfront : Placement.isPattern front = false) :
    ∀ {fuel : Nat} {directoriesOnly : Bool} {back : Text} {found : List Text},
      isAbsolute (front ++ '/' :: back) = true → (".." : Text) ∉ Text.split '/' back →
      disk.expandFrom root recursive fuel directoriesOnly (front ++ '/' :: back) = .ok found →
      ∀ path ∈ found, follow [] (Text.split '/' front) <+: Path.place root path
  | 0, _, _, found, _, _, h, path, hpath => by
      cases h
      cases hpath
  | fuel + 1, directoriesOnly, back, found, habsolute, hup, h, path, hpath => by
      cases hpattern : Placement.isPattern (front ++ '/' :: back) with
      | false =>
          rw [eq_of_mem_expandFrom hpattern h path hpath, place_of_isAbsolute root habsolute,
            Text.split_append, follow_append]
          exact prefix_follow hup
      | true =>
          obtain ⟨directories, hdirectories, hfound⟩ := expandFrom_eq_ok hpattern h
          obtain ⟨directory, hdirectory, names, name, hname, hnames, rfl⟩ := (hfound.mem_iff path).mp hpath
          have hcomponent : baseName (front ++ '/' :: back) ≠ ".." := by
            obtain ⟨before, hsplit⟩ := exists_split_eq_concat back
            intro heq
            rw [baseName_append_slash] at heq
            exact hup (by simp [hsplit, heq])
          have hdescends : Descends name :=
            descends_of_mem_matchesIn hdisk (not_mem_baseName _) hcomponent hnames name hname
          have hbelow : follow [] (Text.split '/' front) <+: Path.place root directory := by
            split at hdirectories
            · next hnested =>
                obtain ⟨rest, heq, hparts⟩ := exists_directory_eq hfront hnested
                rw [heq] at hdirectories
                refine prefix_of_mem_expandFrom hdisk hfront ?_ ?_ hdirectories directory hdirectory
                · rw [← heq, isAbsolute_directory, habsolute]
                · exact fun hmem => (hparts _ hmem).elim (by decide) hup
            · cases hdirectories
              rw [List.mem_singleton.mp hdirectory,
                place_of_isAbsolute root ((isAbsolute_directory _).trans habsolute)]
              exact follow_prefix_directory hup
          exact hbelow.trans (hdescends.place_isPrefix root directory)

/-! ## Declaration files in directories -/

theorem prefix_of_mem_declarationFilesBelow (hdisk : disk.HasNames) :
    ∀ {fuel : Nat} {directory : Text} {found : List Text},
      disk.declarationFilesBelow root fuel directory = .ok found →
      ∀ path ∈ found, Path.place root directory <+: Path.place root path
  | 0, _, found, h, path, hpath => by
      cases h
      cases hpath
  | fuel + 1, directory, found, h, path, hpath => by
      rw [declarationFilesBelow] at h
      obtain ⟨names, hnames, h⟩ := bind_eq_ok_iff.mp h
      obtain ⟨groups, hgroups, h⟩ := bind_eq_ok_iff.mp h
      cases h
      obtain ⟨group, hgroup, hpath⟩ := List.mem_flatten.mp hpath
      obtain ⟨name, hname, hstep⟩ := mem_of_mapM_eq_ok hgroups group hgroup
      have hentry : Path.place root directory <+: Path.place root (Path.join directory name) :=
        (Descends.ofName (isName_of_mem_entries hdisk hnames name hname)).place_isPrefix root directory
      dsimp only at hstep
      split at hstep
      · exact hentry.trans (prefix_of_mem_declarationFilesBelow hdisk hstep path hpath)
      · split at hstep
        · cases hstep
          exact List.mem_singleton.mp hpath ▸ hentry
        · cases hstep
          cases hpath

theorem prefix_of_mem_declarationFiles (hdisk : disk.HasNames) {recursive : Bool} {found : List Text}
    (h : disk.declarationFiles root recursive directory = .ok found) :
    ∀ path ∈ found, Path.place root directory <+: Path.place root path := by
  rw [declarationFiles] at h
  split at h
  · exact prefix_of_mem_declarationFilesBelow hdisk h
  · obtain ⟨names, hnames, h⟩ := bind_eq_ok_iff.mp h
    cases h
    intro path hpath
    obtain ⟨name, hname, rfl⟩ := List.mem_map.mp (List.mem_of_mem_filter hpath)
    exact (Descends.ofName (isName_of_mem_list hdisk hnames name hname)).place_isPrefix root directory

end Disk

/-! ## Bases of patterns -/

/-- No component of the pattern goes up behind its first wildcard. -/
def StaysBelow (pattern : Text) : Prop :=
  (".." : Text) ∉ (Text.split '/' pattern).dropWhile (!Placement.isPattern ·)

theorem isPattern_join_slashes : ∀ parts : List Text,
    Placement.isPattern (Text.join "/" parts) = parts.any Placement.isPattern
  | [] => rfl
  | [part] => by rw [List.any_cons, List.any_nil, Bool.or_false, Text.join]
  | part :: next :: rest => by
      have hslash : Placement.isPattern ("/" : Text) = false := by decide
      rw [Text.join_cons _ _ (List.cons_ne_nil _ _), Disk.isPattern_append, Disk.isPattern_append,
        hslash, Bool.false_or, isPattern_join_slashes (next :: rest)]
      rfl

/-- The last component of a path with the extension of a declaration file does
not go up. -/
theorem baseName_ne_up {path : Text}
    (h : Placement.isDeclarationExtension (Path.splitExtension path).2 = true) :
    baseName path ≠ ".." := by
  intro hup
  have hextension : (Path.splitExtension path).2 = [] := by
    rw [splitExtension, hup]
    rfl
  rw [hextension] at h
  exact absurd h (by decide)

/-- The components of a pattern in front of its first wildcard. -/
def literalParts (pattern : Text) : List Text :=
  (Text.split '/' pattern).takeWhile (!Placement.isPattern ·)

/-- The components of a pattern from its first wildcard on. -/
def wildParts (pattern : Text) : List Text :=
  (Text.split '/' pattern).dropWhile (!Placement.isPattern ·)

theorem literalParts_append (pattern : Text) :
    literalParts pattern ++ wildParts pattern = Text.split '/' pattern :=
  List.takeWhile_append_dropWhile

theorem isPattern_join_of_subset {pattern : Text} {parts : List Text}
    (hparts : parts ⊆ literalParts pattern) : Placement.isPattern (Text.join "/" parts) = false := by
  rw [isPattern_join_slashes, List.any_eq_false]
  exact fun part hpart => by simpa using List.mem_takeWhile_imp (hparts hpart)

theorem patternBase_eq (pattern : Text) : Placement.patternBase pattern =
    if (literalParts pattern).length = (Text.split '/' pattern).length &&
      Placement.isDeclarationExtension (Path.splitExtension pattern).2
    then Text.join "/" (literalParts pattern).dropLast else Text.join "/" (literalParts pattern) :=
  rfl

/-- The base of a pattern without wildcards is the pattern, or the directory of
a declaration file. -/
theorem patternBase_cases_of_literal {pattern : Text} (hwild : wildParts pattern = []) :
    Placement.patternBase pattern = pattern ∧ Placement.isPattern pattern = false ∨
    Placement.patternBase pattern = [] ∧ (".." : Text) ∉ Text.split '/' pattern ∨
    ∃ back, pattern = Placement.patternBase pattern ++ '/' :: back ∧
      Placement.isPattern (Placement.patternBase pattern) = false ∧
      (".." : Text) ∉ Text.split '/' back := by
  have hliteral : literalParts pattern = Text.split '/' pattern := by
    rw [← literalParts_append, hwild, List.append_nil]
  have hjoin := Text.join_split '/' pattern
  have hbase := patternBase_eq pattern
  cases hextension : Placement.isDeclarationExtension (Path.splitExtension pattern).2 with
  | false =>
      rw [hextension, Bool.and_false, if_neg Bool.false_ne_true, hliteral] at hbase
      have hplain := isPattern_join_of_subset (List.Subset.refl (literalParts pattern))
      rw [hliteral] at hplain
      exact .inl ⟨hbase.trans hjoin, hjoin ▸ hplain⟩
  | true =>
      -- the last component is the name of a file, and its directory is the base
      have hlast := baseName_ne_up hextension
      obtain ⟨front, hfront⟩ := exists_split_eq_concat pattern
      rw [hextension, hliteral, decide_eq_true rfl, Bool.and_self, if_pos rfl, hfront,
        List.dropLast_concat] at hbase
      by_cases hempty : front = []
      · rw [hempty] at hbase hfront
        refine .inr (.inl ⟨hbase, ?_⟩)
        rw [hfront]
        exact fun hmem => hlast (List.mem_singleton.mp hmem).symm
      · have hsubset : front ⊆ literalParts pattern := by
          rw [hliteral, hfront]
          exact List.subset_append_left ..
        refine .inr (.inr ⟨baseName pattern, ?_, hbase ▸ isPattern_join_of_subset hsubset, ?_⟩)
        · rw [hbase]
          conv_lhs => rw [← hjoin, hfront, Text.join_append _ (List.cons_ne_nil _ _) hempty]
          rfl
        · rw [Text.split_of_not_mem (not_mem_baseName pattern)]
          exact fun hmem => hlast (List.mem_singleton.mp hmem).symm

/-- The base of a pattern with wildcards is what stands in front of the first of them. -/
theorem patternBase_of_wild {pattern : Text} (hwild : wildParts pattern ≠ []) :
    Placement.patternBase pattern = Text.join "/" (literalParts pattern) := by
  have hlength : ¬ (literalParts pattern).length = (Text.split '/' pattern).length := by
    rw [← literalParts_append pattern, List.length_append]
    have := List.length_pos_iff.mpr hwild
    omega
  rw [patternBase_eq, decide_eq_false hlength, Bool.false_and, if_neg Bool.false_ne_true]

/-- A pattern is its base, or it goes on behind it without going up. A base
that is empty is there for patterns of one component and those that start at
the top or with a wildcard. -/
theorem patternBase_cases {pattern : Text} (h : StaysBelow pattern) :
    Placement.patternBase pattern = pattern ∧ Placement.isPattern pattern = false ∨
    Placement.patternBase pattern = [] ∧ (".." : Text) ∉ Text.split '/' pattern ∨
    ∃ back, pattern = Placement.patternBase pattern ++ '/' :: back ∧
      Placement.isPattern (Placement.patternBase pattern) = false ∧
      (".." : Text) ∉ Text.split '/' back := by
  by_cases hwild : wildParts pattern = []
  · exact patternBase_cases_of_literal hwild
  have hsplit := literalParts_append pattern
  have hbase := patternBase_of_wild hwild
  by_cases hempty : literalParts pattern = []
  · rw [hempty] at hbase hsplit
    exact .inr (.inl ⟨hbase, hsplit ▸ h⟩)
  · have hpieces : ∀ part ∈ wildParts pattern, '/' ∉ part := fun part hpart =>
      Text.not_mem_of_mem_split (hsplit ▸ List.mem_append_right _ hpart)
    have hback : Text.split '/' (Text.join "/" (wildParts pattern)) = wildParts pattern :=
      Text.split_join hwild hpieces
    refine .inr (.inr ⟨Text.join "/" (wildParts pattern), ?_,
      hbase ▸ isPattern_join_of_subset (List.Subset.refl _), hback.symm ▸ h⟩)
    rw [hbase]
    conv_lhs => rw [← Text.join_split '/' pattern, ← hsplit, Text.join_append _ hwild hempty]
    rfl

/-! ## What is found lies below the bases -/

variable {disk : Disk} {root : Text} {options : Options}

theorem isPattern_join {front back : Text} (hfront : Placement.isPattern front = false)
    (hback : Placement.isPattern back = false) : Placement.isPattern (Path.join front back) = false := by
  have hslash : Placement.isPattern ('/' :: back) = false := hback
  cases habsolute : isAbsolute back with
  | true => rwa [join_of_isAbsolute habsolute]
  | false =>
      rw [join_of_relative habsolute]
      split
      · rw [Disk.isPattern_append, hfront, hback, Bool.or_self]
      · rw [Disk.isPattern_append, hfront, hslash, Bool.or_self]

/-- Joined to a root without a wildcard, a pattern is searched from its base. -/
theorem exists_join_eq {pattern : Text} (hroot : isAbsolute root = true)
    (hplain : Placement.isPattern root = false) (hstays : StaysBelow pattern)
    (hbase : Placement.patternBase pattern ≠ [] ∨ isAbsolute pattern = false) :
    (Placement.patternBase pattern = pattern ∧
      Placement.isPattern (Path.join root pattern) = false) ∨
    ∃ front back, Path.join root pattern = front ++ '/' :: back ∧
      Placement.isPattern front = false ∧ (".." : Text) ∉ Text.split '/' back ∧
      follow [] (Text.split '/' front) = Path.place root (Placement.patternBase pattern) := by
  rcases patternBase_cases hstays with ⟨heq, hpattern⟩ | ⟨hempty, hup⟩ | ⟨back, heq, hfront, hup⟩
  · exact .inl ⟨heq, isPattern_join hplain hpattern⟩
  · have hrelative := hbase.resolve_left fun hne => hne hempty
    have hstart : Path.place root (Placement.patternBase pattern) =
        follow [] (Text.split '/' root) := by
      rw [hempty, place_of_relative root rfl]
      rfl
    rcases join_cases root hrelative with ⟨rfl, -⟩ | ⟨rest, rfl, hjoin⟩ | hjoin
    · cases hroot
    · rw [Disk.isPattern_append, Bool.or_eq_false_iff] at hplain
      refine .inr ⟨rest, pattern, hjoin, hplain.1, hup, ?_⟩
      rw [hstart, Text.split_append, follow_append]
      rfl
    · exact .inr ⟨root, pattern, hjoin, hplain, hup, hstart.symm⟩
  · have hne : Placement.patternBase pattern ≠ [] := by
      rcases hbase with hne | hrelative
      · exact hne
      · intro hnil
        rw [hnil] at heq
        rw [heq] at hrelative
        cases hrelative
    refine .inr ⟨Path.join root (Placement.patternBase pattern), back, ?_,
      isPattern_join hplain hfront, hup, rfl⟩
    conv_lhs => rw [heq, join_append _ _ hne]

theorem prefix_of_mem_searchedPaths (hdisk : disk.HasNames) (hroot : isAbsolute root = true)
    (hplain : Placement.isPattern root = false) (hstays : ∀ pattern ∈ options.paths, StaysBelow pattern)
    {found : List Text} (h : searchedPaths disk root options = .ok found) :
    ∀ path ∈ found, ∃ pattern ∈ options.paths,
      (Placement.patternBase pattern ≠ [] ∨ isAbsolute pattern = false →
        Path.place root (Placement.patternBase pattern) <+: Path.place root path) := by
  intro path hpath
  obtain ⟨groups, hgroups, h⟩ := bind_eq_ok_iff.mp h
  cases h
  obtain ⟨group, hgroup, hpath⟩ := List.mem_flatten.mp hpath
  obtain ⟨pattern, hpattern, hstep⟩ := mem_of_mapM_eq_ok hgroups group hgroup
  refine ⟨pattern, hpattern, fun hbase => ?_⟩
  have hjoin := isAbsolute_join_left hroot pattern
  have hself := place_join_self hroot pattern
  dsimp only at hstep
  rcases exists_join_eq hroot hplain (hstays pattern hpattern) hbase with
    ⟨heq, hliteral⟩ | ⟨front, back, heq, hfront, hup, hstart⟩
  · rw [heq, ← hself]
    split at hstep
    · exact Disk.prefix_of_mem_declarationFiles hdisk hstep path hpath
    · exact (Disk.eq_of_mem_expandFrom hliteral hstep path hpath) ▸ List.prefix_rfl
  · rw [← hstart]
    rw [heq] at hjoin
    split at hstep
    · refine List.IsPrefix.trans ?_ (Disk.prefix_of_mem_declarationFiles hdisk hstep path hpath)
      rw [heq, place_of_isAbsolute root hjoin, Text.split_append, follow_append]
      exact prefix_follow hup
    · rw [heq] at hstep
      exact Disk.prefix_of_mem_expandFrom hdisk hfront hjoin hup hstep path hpath

theorem mem_searchedPaths_of_mem_selectedPaths {paths : List Text}
    (h : selectedPaths disk root options = .ok paths) : ∃ found,
      searchedPaths disk root options = .ok found ∧ ∀ path ∈ paths, path ∈ found := by
  obtain ⟨excluded, -, h⟩ := bind_eq_ok_iff.mp h
  obtain ⟨found, hfound, h⟩ := bind_eq_ok_iff.mp h
  cases h
  exact ⟨found, hfound, fun path hpath => mem_sortedSet.mp (List.mem_of_mem_filter hpath)⟩

end MessageForge
