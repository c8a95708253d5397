import MessageForge.Proofs.Trees

/-!
# What searches find

On a tree the result of a search can be said path by path, without the way in
which it is found: below a directory are the paths of names behind which there
is something, at whatever depth.
-/

namespace MessageForge

open MessageForge.Path

namespace Path

variable {front back name : Text} {names : List Text}

/-- A path with a name behind it ends with that name. -/
theorem join_ne_and_not_endsWith (front : Text) (hname : IsName name) :
    ¬ (join front name = [] ∨ Text.endsWith "/" (join front name) = true) := by
  have hbase : baseName (join front name) = name := by
    rw [baseName_join, baseName_of_not_mem hname.2.2.2]
  rintro (hnil | hends)
  · rw [hnil] at hbase
    exact hname.1 hbase.symm
  · obtain ⟨rest, hrest⟩ := endsWith_slash_iff.mp hends
    rw [hrest, baseName_append _ List.not_mem_nil] at hbase
    exact hname.1 hbase.symm

theorem join_join_name (front : Text) (hname : IsName name) (hback : isAbsolute back = false) :
    join (join front name) back = join front (join name back) := by
  have hself : ¬ (name = [] ∨ Text.endsWith "/" name = true) := by
    have hends := join_ne_and_not_endsWith [] hname
    rwa [join_of_relative hname.isAbsolute, if_pos (.inl rfl), List.nil_append] at hends
  rw [join_of_relative hback, if_neg (join_ne_and_not_endsWith front hname), join_of_relative hback,
    if_neg hself, join_append _ _ hname.1]

theorem join_join_names (hname : IsName name) (hne : names ≠ [])
    (hnames : ∀ name ∈ names, IsName name) :
    join name (Text.join "/" names) = Text.join "/" (name :: names) := by
  have hends := join_ne_and_not_endsWith [] hname
  rw [join_of_relative hname.isAbsolute, if_pos (.inl rfl), List.nil_append] at hends
  rw [join_of_relative (isAbsolute_join_names hnames), if_neg hends, Text.join_cons _ _ hne]
  rfl

/-- To go down by names is to go down by the first of them and then by the others. -/
theorem join_join_cons (front : Text) (hname : IsName name) (hne : names ≠ [])
    (hnames : ∀ name ∈ names, IsName name) :
    join front (Text.join "/" (name :: names)) = join (join front name) (Text.join "/" names) := by
  rw [join_join_name front hname (isAbsolute_join_names hnames), join_join_names hname hne hnames]

theorem place_join_names (root front : Text) (hnames : ∀ name ∈ names, IsName name) :
    place root (join front (Text.join "/" names)) = place root front ++ names := by
  rw [place_join root front (isAbsolute_join_names hnames), follow_join_names hnames]

theorem dropTrailingSlashes_concat (front : Text) :
    dropTrailingSlashes (front ++ ['/']) = dropTrailingSlashes front :=
  List.rdropWhile_concat_pos _ _ _ (by rfl)

theorem length_dropTrailingSlashes_le (path : Text) :
    (dropTrailingSlashes path).length ≤ path.length := by
  obtain ⟨slashes, hpath, -⟩ := dropTrailingSlashes_append path
  conv_rhs => rw [hpath, List.length_append]
  exact Nat.le_add_right ..

/-- A directory that is still a pattern is shorter than the pattern. -/
theorem length_directory_lt {path : Text} (h : Placement.isPattern (directory path) = true) :
    (directory path).length < path.length := by
  by_cases hslash : '/' ∈ path
  · obtain ⟨front, tail, rfl, htail, -⟩ := exists_splitLast? hslash
    rw [directory_append front htail] at h ⊢
    split
    · next hall =>
        rw [if_pos hall] at h
        obtain ⟨c, hc, hwild⟩ := List.any_eq_true.mp h
        have heq := of_decide_eq_true (List.all_eq_true.mp hall c hc)
        subst heq
        exact absurd hwild (by decide)
    · rw [dropTrailingSlashes_concat, List.length_append, List.length_cons]
      have hlength := length_dropTrailingSlashes_le front
      omega
  · rw [directory_of_not_mem hslash] at h
    cases h

/-- A path that ends with a slash is its directory with slashes behind it. -/
theorem exists_eq_directory_append {path : Text} (hpath : isAbsolute path = true)
    (hempty : baseName path = []) :
    ∃ slashes : Text, (∀ c ∈ slashes, c = '/') ∧ path = directory path ++ slashes := by
  obtain ⟨rest, rfl⟩ := isAbsolute_iff.mp hpath
  have hslash : '/' ∈ '/' :: rest := List.mem_cons_self
  obtain ⟨front, tail, heq, htail, -⟩ := exists_splitLast? hslash
  rw [heq, baseName_append front htail] at hempty
  subst hempty
  obtain ⟨slashes, hdirectory, hslashes⟩ := exists_directory_append_eq front htail
  exact ⟨slashes, hslashes, by rw [heq, ← hdirectory]⟩

theorem hasNull_directory {path : Text} (hpath : isAbsolute path = true)
    (hnull : Text.hasNull path = false) : Text.hasNull (directory path) = false := by
  obtain ⟨rest, rfl⟩ := isAbsolute_iff.mp hpath
  obtain ⟨front, tail, heq, htail, -⟩ := exists_splitLast? (List.mem_cons_self : '/' ∈ '/' :: rest)
  obtain ⟨slashes, hdirectory, -⟩ := exists_directory_append_eq front htail
  rw [heq] at hnull ⊢
  have hfront : Text.hasNull (front ++ ['/']) = false := by
    rw [List.append_cons, Text.hasNull_append, Bool.or_eq_false_iff] at hnull
    exact hnull.1
  rw [hdirectory, Text.hasNull_append, Bool.or_eq_false_iff] at hfront
  exact hfront.1

end Path

variable {disk : Disk} {root directory path component pattern name : Text} {recursive : Bool}

/-! ## Patterns -/

/-- What a component of a pattern can stand for. -/
def Matches (recursive : Bool) (component name : Text) : Prop :=
  if !Placement.isPattern component then name = component
  else if recursive && component = anyDepth then
    name = [] ∨ ∃ names, names ≠ [] ∧ (∀ name ∈ names, IsName name ∧ isHidden name = false) ∧
      name = Text.join "/" names
  else IsName name ∧ (isHidden component || !isHidden name) = true ∧
    matchesPattern component name = true

/-- The paths that a pattern stands for, wherever they lead: what its last
component stands for behind what the rest of it does. -/
inductive Spells (recursive : Bool) : (pattern path : Text) → Prop
  | literal {pattern : Text} (hpattern : Placement.isPattern pattern = false) :
      Spells recursive pattern pattern
  | component {pattern directory name : Text} (hpattern : Placement.isPattern pattern = true)
      (hdirectory : Spells recursive (Path.directory pattern) directory)
      (hname : Matches recursive (Path.baseName pattern) name) :
      Spells recursive pattern (Path.join directory name)

theorem Matches.isRelative (h : Matches recursive component name) (hslash : '/' ∉ component) :
    isAbsolute name = false := by
  rw [Matches] at h
  split at h
  · subst h
    rw [Bool.eq_false_iff]
    intro habsolute
    obtain ⟨rest, rfl⟩ := isAbsolute_iff.mp habsolute
    exact hslash (List.mem_cons_self ..)
  · split at h
    · rcases h with rfl | ⟨names, -, hnames, rfl⟩
      · rfl
      · exact isAbsolute_join_names fun name hname => (hnames name hname).1
    · exact h.1.isAbsolute

theorem Spells.isAbsolute {path : Text} (h : Spells recursive pattern path)
    (hpattern : isAbsolute pattern = true) : isAbsolute path = true := by
  induction h with
  | literal => exact hpattern
  | component _ _ _ ih =>
      exact isAbsolute_join_left (ih ((isAbsolute_directory _).trans hpattern)) _

theorem Spells.eq_of_not_isPattern {path : Text} (h : Spells recursive pattern path)
    (hpattern : Placement.isPattern pattern = false) : path = pattern := by
  cases h with
  | literal => rfl
  | component hwild =>
      rw [hpattern] at hwild
      cases hwild

namespace Disk

/-- A path leads somewhere, and to a directory if only those count. -/
def IsFound (disk : Disk) (root : Text) (directoriesOnly : Bool) (path : Text) : Prop :=
  disk.exists? root path = true ∧ (directoriesOnly = true → disk.isDirectory root path = true)

/-! ## Below a directory -/

theorem IsTree.length_le_of_exists? (htree : disk.IsTree) {names : List Text}
    (hnames : ∀ name ∈ names, IsName name)
    (h : disk.exists? root (Path.join directory (Text.join "/" names)) = true) :
    names.length ≤ disk.depthBound := by
  obtain ⟨location, item, hlocate, hitem⟩ := exists?_iff.mp h
  have hlength := htree.length_le hitem
  rw [eq_place_of_locate hlocate, place_join_names root directory hnames, List.length_append] at hlength
  rw [depthBound]
  omega

/-- What lies behind several names lies in a directory at the first of them. -/
theorem isDirectory_of_exists?_names {names : List Text} (hdirectory : isAbsolute directory = true)
    (hname : IsName name) (hne : names ≠ []) (hnames : ∀ name ∈ names, IsName name)
    (h : disk.exists? root (Path.join directory (Text.join "/" (name :: names))) = true) :
    disk.isDirectory root (Path.join directory name) = true := by
  rw [join_join_cons directory hname hne hnames] at h
  exact isDirectory_of_exists?_join (isAbsolute_join_left hdirectory name)
    (isAbsolute_join_names hnames) h

theorem IsTree.exists_names_of_mem_descendants (htree : disk.IsTree) {directoriesOnly : Bool} :
    ∀ {fuel : Nat} {directory : Text} {found : List Text}, isAbsolute directory = true →
      disk.descendants root directoriesOnly fuel directory = .ok found → ∀ path ∈ found,
        ∃ names, names ≠ [] ∧ (∀ name ∈ names, IsName name ∧ isHidden name = false) ∧
          path = Text.join "/" names ∧ disk.IsFound root directoriesOnly (Path.join directory path)
  | 0, directory, found, _, h, path, hpath => by
      cases h
      cases hpath
  | fuel + 1, directory, found, hdirectory, h, path, hpath => by
      rw [descendants] at h
      obtain ⟨entries, hentries, h⟩ := bind_eq_ok_iff.mp h
      obtain ⟨groups, hgroups, h⟩ := bind_eq_ok_iff.mp h
      cases h
      obtain ⟨name, hname, group, hstep, hpath⟩ := (mem_flatten_of_mapM_eq_ok hgroups).mp hpath
      obtain ⟨hentry, hvisible⟩ := List.mem_filter.mp hname
      obtain ⟨hisName, hexists⟩ := (htree.mem_entries_iff hdirectory hentries).mp hentry
      have hvisible : isHidden name = false := by simpa using hvisible
      obtain ⟨deeper, hdeeper, hstep⟩ := bind_eq_ok_iff.mp hstep
      cases hstep
      rcases List.mem_append.mp hpath with hkept | hmapped
      · rw [List.mem_ite_nil_right] at hkept
        obtain ⟨hkeeps, hself⟩ := hkept
        obtain rfl := List.mem_singleton.mp hself
        refine ⟨[path], List.cons_ne_nil _ _, List.forall_mem_singleton.mpr ⟨hisName, hvisible⟩,
          rfl, hexists, fun honly => ?_⟩
        simpa [honly] using hkeeps
      · obtain ⟨rest, hrest, rfl⟩ := List.mem_map.mp hmapped
        obtain ⟨names, hne, hnames, rfl, hfound⟩ := htree.exists_names_of_mem_descendants
          (isAbsolute_join_left hdirectory name) hdeeper rest hrest
        have hnames' : ∀ name ∈ names, IsName name := fun name hmem => (hnames name hmem).1
        refine ⟨name :: names, List.cons_ne_nil _ _,
          List.forall_mem_cons.mpr ⟨⟨hisName, hvisible⟩, hnames⟩,
          join_join_names hisName hne hnames', ?_⟩
        rwa [← join_join_name directory hisName (isAbsolute_join_names hnames')]

theorem IsTree.mem_descendants (htree : disk.IsTree) {directoriesOnly : Bool} :
    ∀ {fuel : Nat} {directory : Text} {found names : List Text}, isAbsolute directory = true →
      disk.descendants root directoriesOnly fuel directory = .ok found →
      names ≠ [] → names.length ≤ fuel →
      (∀ name ∈ names, IsName name ∧ isHidden name = false) →
      disk.IsFound root directoriesOnly (Path.join directory (Text.join "/" names)) →
      Text.join "/" names ∈ found
  | _, _, _, [], _, _, hne, _, _, _ => absurd rfl hne
  | 0, _, _, _ :: _, _, _, _, hlength, _, _ => absurd hlength (Nat.not_succ_le_zero _)
  | fuel + 1, directory, found, name :: names, hdirectory, h, _, hlength, hnames, hfound => by
      rw [descendants] at h
      obtain ⟨entries, hentries, h⟩ := bind_eq_ok_iff.mp h
      obtain ⟨groups, hgroups, h⟩ := bind_eq_ok_iff.mp h
      cases h
      obtain ⟨⟨hisName, hvisible⟩, hrest⟩ := List.forall_mem_cons.mp hnames
      have hnames' : ∀ name ∈ names, IsName name := fun name hmem => (hrest name hmem).1
      -- the last name is found itself, and those before it are directories
      have hexists : disk.exists? root (Path.join directory name) = true := by
        by_cases hlast : names = []
        · subst hlast
          exact hfound.1
        · exact exists?_of_isDirectory
            (isDirectory_of_exists?_names hdirectory hisName hlast hnames' hfound.1)
      have hentry : name ∈ entries.filter (!isHidden ·) := List.mem_filter.mpr
        ⟨(htree.mem_entries_iff hdirectory hentries).mpr ⟨hisName, hexists⟩, by simp [hvisible]⟩
      obtain ⟨group, -, hstep⟩ := exists_mem_of_mapM_eq_ok hgroups name hentry
      refine (mem_flatten_of_mapM_eq_ok hgroups).mpr ⟨name, hentry, group, hstep, ?_⟩
      obtain ⟨deeper, hdeeper, hstep⟩ := bind_eq_ok_iff.mp hstep
      cases hstep
      by_cases hlast : names = []
      · subst hlast
        refine List.mem_append_left _ (List.mem_ite_nil_right.mpr ⟨?_, List.mem_singleton_self _⟩)
        cases honly : directoriesOnly with
        | false => rfl
        | true => exact hfound.2 honly
      · refine List.mem_append_right _ (List.mem_map.mpr ⟨Text.join "/" names, ?_, ?_⟩)
        · refine htree.mem_descendants (isAbsolute_join_left hdirectory name) hdeeper hlast
            (Nat.succ_le_succ_iff.mp hlength) hrest ?_
          rwa [← join_join_cons directory hisName hlast hnames']
        · exact join_join_names hisName hlast hnames'

theorem IsTree.exists_descendants (htree : disk.IsTree) (root : Text) (directoriesOnly : Bool) :
    ∀ (fuel : Nat) {directory : Text}, isAbsolute directory = true →
      Text.hasNull directory = false →
      ∃ found, disk.descendants root directoriesOnly fuel directory = .ok found
  | 0, _, _, _ => ⟨[], rfl⟩
  | fuel + 1, directory, hdirectory, hnull => by
      obtain ⟨entries, hentries⟩ := (exists_entries_iff disk root hdirectory).mpr hnull
      have hsteps : ∀ name ∈ entries.filter (!isHidden ·), ∃ group, (do
          let deeper ← disk.descendants root directoriesOnly fuel (Path.join directory name)
          return (if !directoriesOnly || disk.isDirectory root (Path.join directory name)
            then [name] else []) ++ deeper.map (Path.join name)) =
          (.ok group : Except FileFault (List Text)) := by
        intro name hname
        obtain ⟨-, hexists⟩ :=
          (htree.mem_entries_iff hdirectory hentries).mp (List.mem_of_mem_filter hname)
        have hbelow := isAbsolute_join_left hdirectory name
        obtain ⟨deeper, hdeeper⟩ :=
          htree.exists_descendants root directoriesOnly fuel hbelow (hasNull_of_exists? hexists)
        exact ⟨_, by rw [hdeeper]; rfl⟩
      obtain ⟨groups, hgroups⟩ := exists_mapM_eq_ok hsteps
      refine ⟨groups.flatten, ?_⟩
      rw [descendants, hentries, ok_bind]
      dsimp only
      rw [hgroups]
      rfl

/-! ## What patterns match -/

theorem exists?_join_nil (hdirectory : isAbsolute directory = true) :
    disk.exists? root (Path.join directory []) = disk.isDirectory root directory := by
  rw [Bool.eq_iff_iff]
  refine ⟨isDirectory_of_exists?_join hdirectory rfl, fun h => exists?_of_isDirectory ?_⟩
  rwa [isDirectory_join_nil hdirectory]

theorem mem_matchesIn_literal_iff {directoriesOnly : Bool} {found : List Text}
    (hdirectory : isAbsolute directory = true) (hliteral : Placement.isPattern component = false)
    (h : disk.matchesIn root recursive directoriesOnly directory component = .ok found) :
    name ∈ found ↔ name = component ∧ disk.IsFound root false (Path.join directory name) := by
  have hfound : found =
      if disk.exists? root (Path.join directory component) then [component] else [] := by
    rw [matchesIn, hliteral] at h
    by_cases hempty : component.isEmpty = true
    · rw [if_pos (by rfl), if_pos hempty] at h
      obtain rfl := List.isEmpty_iff.mp hempty
      rw [exists?_join_nil hdirectory]
      exact (Except.ok.inj h).symm
    · rw [if_pos (by rfl), if_neg hempty] at h
      exact (Except.ok.inj h).symm
  rw [hfound, List.mem_ite_nil_right, List.mem_singleton]
  constructor
  · rintro ⟨hexists, rfl⟩
    exact ⟨rfl, hexists, fun hfalse => absurd hfalse Bool.false_ne_true⟩
  · rintro ⟨rfl, hexists, -⟩
    exact ⟨hexists, rfl⟩

/-- The directory itself, as an empty name behind it, and what lies below. -/
theorem IsTree.mem_matchesIn_anyDepth_iff (htree : disk.IsTree) {directoriesOnly : Bool}
    {found : List Text} (hdirectory : isAbsolute directory = true)
    (h : disk.matchesIn root true directoriesOnly directory anyDepth = .ok found) :
    name ∈ found ↔ (name = [] ∨ ∃ names, names ≠ [] ∧
        (∀ name ∈ names, IsName name ∧ isHidden name = false) ∧ name = Text.join "/" names) ∧
      disk.IsFound root directoriesOnly (Path.join directory name) := by
  obtain ⟨below, hbelow, h⟩ := bind_eq_ok_iff.mp h
  cases h
  rw [List.mem_append, List.mem_ite_nil_right, List.mem_singleton, or_and_right]
  refine or_congr ?_ ?_
  · constructor
    · rintro ⟨hitem, rfl⟩
      refine ⟨rfl, (exists?_join_nil hdirectory).trans hitem, fun _ => ?_⟩
      rwa [isDirectory_join_nil hdirectory]
    · rintro ⟨rfl, hexists, -⟩
      exact ⟨(exists?_join_nil hdirectory).symm.trans hexists, rfl⟩
  · constructor
    · intro hname
      obtain ⟨names, hne, hnames, rfl, hfound⟩ :=
        htree.exists_names_of_mem_descendants hdirectory hbelow name hname
      exact ⟨⟨names, hne, hnames, rfl⟩, hfound⟩
    · rintro ⟨⟨names, hne, hnames, rfl⟩, hfound⟩
      have hlength := htree.length_le_of_exists? (fun name hname => (hnames name hname).1) hfound.1
      exact htree.mem_descendants hdirectory hbelow hne hlength hnames hfound

theorem IsTree.mem_matchesIn_names_iff (htree : disk.IsTree) {directoriesOnly : Bool}
    {found : List Text} (hdirectory : isAbsolute directory = true)
    (hwild : Placement.isPattern component = true)
    (hlevel : ¬ (recursive && component = anyDepth) = true)
    (h : disk.matchesIn root recursive directoriesOnly directory component = .ok found) :
    name ∈ found ↔ (IsName name ∧ (isHidden component || !isHidden name) = true ∧
        matchesPattern component name = true) ∧
      disk.IsFound root directoriesOnly (Path.join directory name) := by
  rw [matchesIn, hwild, if_neg (by decide), if_neg hlevel] at h
  obtain ⟨entries, hentries, h⟩ := bind_eq_ok_iff.mp h
  cases h
  rw [List.mem_filter, htree.mem_entries_iff hdirectory hentries, Bool.and_eq_true,
    Bool.and_eq_true, Bool.or_eq_true]
  constructor
  · rintro ⟨⟨hisName, hexists⟩, ⟨honly, hhidden⟩, hmatches⟩
    refine ⟨⟨hisName, hhidden, hmatches⟩, hexists, fun htrue => ?_⟩
    simpa [htrue] using honly
  · rintro ⟨⟨hisName, hhidden, hmatches⟩, hexists, honly⟩
    refine ⟨⟨hisName, hexists⟩, ⟨?_, hhidden⟩, hmatches⟩
    cases htrue : directoriesOnly with
    | false => exact .inl rfl
    | true => exact .inr (honly htrue)

theorem IsTree.mem_matchesIn_iff (htree : disk.IsTree) {directoriesOnly : Bool} {found : List Text}
    (hdirectory : isAbsolute directory = true)
    (h : disk.matchesIn root recursive directoriesOnly directory component = .ok found) :
    name ∈ found ↔ Matches recursive component name ∧
      disk.IsFound root (directoriesOnly && Placement.isPattern component)
        (Path.join directory name) := by
  rw [Matches]
  cases hpattern : Placement.isPattern component with
  | false =>
      rw [if_pos (by rfl), Bool.and_false]
      exact mem_matchesIn_literal_iff hdirectory hpattern h
  | true =>
      rw [if_neg (by decide), Bool.and_true]
      split
      · next hany =>
          obtain ⟨rfl, heq⟩ := (Bool.and_eq_true ..).mp hany
          obtain rfl := of_decide_eq_true heq
          exact htree.mem_matchesIn_anyDepth_iff hdirectory h
      · next hlevel => exact htree.mem_matchesIn_names_iff hdirectory hpattern hlevel h

/-- Only a wildcard looks into the directory, which the search refuses then. -/
theorem IsTree.exists_matchesIn (htree : disk.IsTree) (root : Text) (recursive directoriesOnly : Bool)
    (hdirectory : isAbsolute directory = true)
    (hnull : Placement.isPattern component = true → Text.hasNull directory = false) :
    ∃ found, disk.matchesIn root recursive directoriesOnly directory component = .ok found := by
  rw [matchesIn]
  split
  · split
    · exact ⟨_, rfl⟩
    · exact ⟨_, rfl⟩
  · next hwild =>
      have hdirectoryNull := hnull (by simpa using hwild)
      split
      · obtain ⟨below, hbelow⟩ := htree.exists_descendants root directoriesOnly
          disk.depthBound hdirectory hdirectoryNull
        rw [hbelow]
        exact ⟨_, rfl⟩
      · obtain ⟨entries, hentries⟩ :=
          (exists_entries_iff disk root hdirectory).mpr hdirectoryNull
        rw [hentries]
        exact ⟨_, rfl⟩

theorem hasNull_of_matchesIn {directoriesOnly : Bool} {found : List Text}
    (hdirectory : isAbsolute directory = true) (hpattern : Placement.isPattern component = true)
    (h : disk.matchesIn root recursive directoriesOnly directory component = .ok found) :
    Text.hasNull directory = false := by
  rw [matchesIn, hpattern] at h
  rw [← exists_entries_iff disk root hdirectory]
  split at h
  · next hfalse => cases hfalse
  · split at h
    · obtain ⟨below, hbelow, -⟩ := bind_eq_ok_iff.mp h
      rw [depthBound, descendants] at hbelow
      obtain ⟨entries, hentries, -⟩ := bind_eq_ok_iff.mp hbelow
      exact ⟨entries, hentries⟩
    · obtain ⟨entries, hentries, -⟩ := bind_eq_ok_iff.mp h
      exact ⟨entries, hentries⟩

/-- A walk along a path that ends with a slash ends at a directory. -/
theorem item?_directory_of_walk {location : List Text} (hempty : baseName path = [])
    (hwalk : disk.walk [] (Text.split '/' path) = .ok location) :
    disk.item? location = some .directory := by
  obtain ⟨front, hsplit⟩ := exists_split_eq_concat path
  rw [hsplit, hempty, walk_append] at hwalk
  obtain ⟨middle, -, hwalk⟩ := bind_eq_ok_iff.mp hwalk
  have hitem := item?_directory_of_walk_cons hwalk
  have hstay : disk.walk middle (Text.split '/' []) = .ok middle :=
    walk_slashes (List.forall_mem_nil _) hitem
  cases hstay.symm.trans hwalk
  exact hitem

/-- Slashes behind a path change nothing where the walk ends at a directory. -/
theorem walk_append_slashes {slashes : Text} {location : List Text}
    (hslashes : ∀ c ∈ slashes, c = '/') (hitem : disk.item? location = some .directory) :
    disk.walk [] (Text.split '/' (path ++ slashes)) = .ok location ↔
      disk.walk [] (Text.split '/' path) = .ok location := by
  cases slashes with
  | nil => rw [List.append_nil]
  | cons c rest =>
      obtain ⟨rfl, hrest⟩ := List.forall_mem_cons.mp hslashes
      rw [Text.split_append, walk_append, bind_eq_ok_iff]
      constructor
      · rintro ⟨middle, hwalk, hstay⟩
        cases (walk_slashes hrest (item?_directory_of_walk_split hstay)).symm.trans hstay
        exact hwalk
      · exact fun hwalk => ⟨location, hwalk, walk_slashes hrest hitem⟩

theorem hasNull_append_slashes {slashes : Text} (hslashes : ∀ c ∈ slashes, c = '/') :
    Text.hasNull (path ++ slashes) = Text.hasNull path := by
  have hplain : Text.hasNull slashes = false := by
    rw [Text.hasNull, List.any_eq_false]
    intro c hc
    rw [hslashes c hc]
    decide
  rw [Text.hasNull_append, hplain, Bool.or_false]

/-- A slash behind a path asks for a directory. -/
theorem isDirectory_directory (hpath : isAbsolute path = true) (hempty : baseName path = []) :
    disk.isDirectory root (Path.directory path) = disk.exists? root path := by
  have hdirectory := (isAbsolute_directory path).trans hpath
  obtain ⟨slashes, hslashes, heq⟩ := exists_eq_directory_append hpath hempty
  have hnull : Text.hasNull path = Text.hasNull (Path.directory path) := by
    conv_lhs => rw [heq, hasNull_append_slashes hslashes]
  have hways : ∀ location, disk.item? location = some .directory →
      (disk.walk [] (Text.split '/' path) = .ok location ↔
        disk.walk [] (Text.split '/' (Path.directory path)) = .ok location) := by
    intro location hitem
    conv_lhs => rw [heq, walk_append_slashes hslashes hitem]
  rw [Bool.eq_iff_iff, isDirectory_iff, exists?_iff, locate_of_isAbsolute hpath,
    locate_of_isAbsolute hdirectory, hnull]
  cases Text.hasNull (Path.directory path) with
  | true => simp
  | false =>
      rw [if_neg Bool.false_ne_true, if_neg Bool.false_ne_true]
      constructor
      · rintro ⟨location, hwalk, hitem⟩
        exact ⟨location, _, (hways location hitem).mpr hwalk, hitem⟩
      · rintro ⟨location, item, hwalk, -⟩
        have hitem := item?_directory_of_walk hempty hwalk
        exact ⟨location, (hways location hitem).mp hwalk, hitem⟩

theorem isPattern_baseName (hpattern : Placement.isPattern pattern = false) :
    Placement.isPattern (baseName pattern) = false := by
  obtain ⟨front, hfront⟩ := exists_eq_append_baseName pattern
  rw [hfront, isPattern_append, Bool.or_eq_false_iff] at hpattern
  exact hpattern.2

/-- A path without wildcards is found if it is there. -/
theorem mem_expandFrom_literal_iff {fuel : Nat} {directoriesOnly : Bool} {found : List Text}
    (hpattern : Placement.isPattern pattern = false) (habsolute : isAbsolute pattern = true)
    (h : disk.expandFrom root recursive (fuel + 1) directoriesOnly pattern = .ok found) :
    path ∈ found ↔ Spells recursive pattern path ∧ disk.IsFound root false path := by
  have hfound : found = if disk.exists? root pattern then [pattern] else [] := by
    rw [expandFrom, hpattern] at h
    dsimp only at h
    by_cases hempty : (baseName pattern).isEmpty = true
    · rw [if_pos (by rfl), if_pos hempty,
        isDirectory_directory habsolute (List.isEmpty_iff.mp hempty)] at h
      exact (Except.ok.inj h).symm
    · rw [if_pos (by rfl), if_neg hempty] at h
      exact (Except.ok.inj h).symm
  rw [hfound, List.mem_ite_nil_right, List.mem_singleton]
  constructor
  · rintro ⟨hexists, rfl⟩
    exact ⟨.literal hpattern, hexists, fun hfalse => absurd hfalse Bool.false_ne_true⟩
  · rintro ⟨hspells, hexists, -⟩
    obtain rfl := hspells.eq_of_not_isPattern hpattern
    exact ⟨hexists, rfl⟩

/-- Where the directories that are looked into are those that the rest of the
pattern stands for, what is found in them is what the pattern stands for. -/
theorem IsTree.mem_found_iff (htree : disk.IsTree) {directoriesOnly : Bool}
    {directories found : List Text} (hpattern : Placement.isPattern pattern = true)
    (habsolute : isAbsolute pattern = true)
    (hplaces : ∀ place, place ∈ directories ↔ Spells recursive (Path.directory pattern) place ∧
      (Placement.isPattern (Path.directory pattern) = true → disk.IsFound root
        (Placement.isPattern (baseName (Path.directory pattern))) place))
    (hfound : disk.IsFoundIn root recursive directoriesOnly (baseName pattern) directories found) :
    path ∈ found ↔ Spells recursive pattern path ∧
      disk.IsFound root (directoriesOnly && Placement.isPattern (baseName pattern)) path := by
  have hdirectory : isAbsolute (Path.directory pattern) = true :=
    (isAbsolute_directory pattern).trans habsolute
  rw [hfound.mem_iff]
  constructor
  · rintro ⟨place, hplace, names, name, hname, hnames, rfl⟩
    have hspells := ((hplaces place).mp hplace).1
    obtain ⟨hmatches, hthere⟩ :=
      (htree.mem_matchesIn_iff (hspells.isAbsolute hdirectory) hnames).mp hname
    exact ⟨.component hpattern hspells hmatches, hthere⟩
  · rintro ⟨hspells, hthere⟩
    cases hspells with
    | literal hliteral =>
        rw [hpattern] at hliteral
        cases hliteral
    | @component _ place name _ hplace hmatches =>
        have hplaceAbsolute := hplace.isAbsolute hdirectory
        have hitem : disk.isDirectory root place = true := isDirectory_of_exists?_join
          hplaceAbsolute (hmatches.isRelative (not_mem_baseName pattern)) hthere.1
        have hmem := (hplaces place).mpr
          ⟨hplace, fun _ => ⟨exists?_of_isDirectory hitem, fun _ => hitem⟩⟩
        obtain ⟨names, hnames⟩ := hfound.inside place hmem
        exact ⟨place, hmem, names, name,
          (htree.mem_matchesIn_iff hplaceAbsolute hnames).mpr ⟨hmatches, hthere⟩, hnames, rfl⟩

/-- What a pattern finds are the paths that it stands for and that are there. -/
theorem IsTree.mem_expandFrom_iff (htree : disk.IsTree) :
    ∀ {fuel : Nat} {directoriesOnly : Bool} {pattern : Text} {found : List Text},
      pattern.length < fuel → isAbsolute pattern = true →
      disk.expandFrom root recursive fuel directoriesOnly pattern = .ok found → ∀ path, path ∈ found ↔
        Spells recursive pattern path ∧
        disk.IsFound root (directoriesOnly && Placement.isPattern (baseName pattern)) path
  | 0, _, _, _, hfuel, _, _, _ => absurd hfuel (Nat.not_lt_zero _)
  | fuel + 1, directoriesOnly, pattern, found, hfuel, habsolute, h, path => by
      cases hpattern : Placement.isPattern pattern with
      | false =>
          rw [isPattern_baseName hpattern, Bool.and_false]
          exact mem_expandFrom_literal_iff hpattern habsolute h
      | true =>
          obtain ⟨directories, hdirectories, hfound⟩ := expandFrom_eq_ok hpattern h
          have hdirectory : isAbsolute (Path.directory pattern) = true :=
            (isAbsolute_directory pattern).trans habsolute
          refine htree.mem_found_iff hpattern habsolute (fun place => ?_) hfound
          split at hdirectories
          · next hnested =>
              have hshorter := (length_directory_lt hnested).trans_le (Nat.lt_succ_iff.mp hfuel)
              rw [htree.mem_expandFrom_iff hshorter hdirectory hdirectories, Bool.true_and]
              exact and_congr_right fun _ => ⟨fun h _ => h, fun h => h hnested⟩
          · next hplain =>
              cases hdirectories
              have hliteral := Bool.eq_false_iff.mpr hplain
              rw [List.mem_singleton]
              constructor
              · rintro rfl
                exact ⟨.literal hliteral, fun hfalse => absurd hfalse hplain⟩
              · exact fun h => h.1.eq_of_not_isPattern hliteral

/-- Once the directories are found a search is only refused for a null character
in one of them. -/
theorem IsTree.exists_expandFrom_succ (htree : disk.IsTree) {fuel : Nat} {directoriesOnly : Bool}
    {pattern : Text} {directories : List Text} (hpattern : Placement.isPattern pattern = true)
    (hdirectories : (if Placement.isPattern (Path.directory pattern) then
      disk.expandFrom root recursive fuel true (Path.directory pattern)
      else pure [Path.directory pattern]) = .ok directories)
    (hplaces : ∀ place ∈ directories, isAbsolute place = true ∧
      (Placement.isPattern (baseName pattern) = true → Text.hasNull place = false)) :
    ∃ results, disk.expandFrom root recursive (fuel + 1) directoriesOnly pattern = .ok results := by
  have hsteps : ∀ place ∈ directories, ∃ results, (do
      let names ← disk.matchesIn root recursive directoriesOnly place (baseName pattern)
      return names.map (Path.join place)) = (.ok results : Except FileFault (List Text)) := by
    intro place hplace
    obtain ⟨habsolute, hnull⟩ := hplaces place hplace
    obtain ⟨names, hnames⟩ := htree.exists_matchesIn root recursive directoriesOnly habsolute hnull
    exact ⟨_, by rw [hnames]; rfl⟩
  obtain ⟨groups, hgroups⟩ := exists_mapM_eq_ok hsteps
  rw [expandFrom, hpattern]
  dsimp only
  rw [if_neg (by decide)]
  split
  · next hnested =>
      rw [if_pos hnested] at hdirectories
      rw [hdirectories, ok_bind, hgroups]
      exact ⟨_, rfl⟩
  · next hplain =>
      rw [if_neg hplain] at hdirectories
      rw [hdirectories, ok_bind, hgroups]
      exact ⟨_, rfl⟩

/-- Whether a search is refused depends on the pattern alone: what is found on
one tree is looked for in vain on another, at worst. -/
theorem IsTree.exists_expandFrom (htree : disk.IsTree) {other : Disk} (hother : other.IsTree) :
    ∀ {fuel : Nat} {directoriesOnly : Bool} {pattern : Text} {found : List Text},
      pattern.length < fuel → isAbsolute pattern = true →
      other.expandFrom root recursive fuel directoriesOnly pattern = .ok found →
      ∃ results, disk.expandFrom root recursive fuel directoriesOnly pattern = .ok results
  | 0, _, _, _, hfuel, _, _ => absurd hfuel (Nat.not_lt_zero _)
  | fuel + 1, directoriesOnly, pattern, found, hfuel, habsolute, h => by
      cases hpattern : Placement.isPattern pattern with
      | false => exact ⟨_, by rw [expandFrom, hpattern]; rfl⟩
      | true =>
          have hdirectory : isAbsolute (Path.directory pattern) = true :=
            (isAbsolute_directory pattern).trans habsolute
          obtain ⟨directories, hdirectories, hfound⟩ := expandFrom_eq_ok hpattern h
          by_cases hnested : Placement.isPattern (Path.directory pattern) = true
          · have hshorter := (length_directory_lt hnested).trans_le (Nat.lt_succ_iff.mp hfuel)
            rw [if_pos hnested] at hdirectories
            obtain ⟨places, hplaces⟩ := htree.exists_expandFrom hother hshorter hdirectory hdirectories
            refine htree.exists_expandFrom_succ hpattern ((if_pos hnested).trans hplaces)
              fun place hplace => ?_
            obtain ⟨hspells, hthere⟩ :=
              (htree.mem_expandFrom_iff hshorter hdirectory hplaces place).mp hplace
            exact ⟨hspells.isAbsolute hdirectory, fun _ => hasNull_of_exists? hthere.1⟩
          · rw [if_neg hnested] at hdirectories
            cases hdirectories
            obtain ⟨names, hnames⟩ := hfound.inside _ (List.mem_singleton_self _)
            exact htree.exists_expandFrom_succ hpattern (if_neg hnested)
              (List.forall_mem_singleton.mpr
                ⟨hdirectory, fun hwild => hasNull_of_matchesIn hdirectory hwild hnames⟩)

/-- A pattern without a null character is searched for. -/
theorem IsTree.exists_expandFrom_of_hasNull (htree : disk.IsTree) :
    ∀ {fuel : Nat} {directoriesOnly : Bool} {pattern : Text},
      pattern.length < fuel → isAbsolute pattern = true → Text.hasNull pattern = false →
      ∃ results, disk.expandFrom root recursive fuel directoriesOnly pattern = .ok results
  | 0, _, _, hfuel, _, _ => absurd hfuel (Nat.not_lt_zero _)
  | fuel + 1, directoriesOnly, pattern, hfuel, habsolute, hnull => by
      cases hpattern : Placement.isPattern pattern with
      | false => exact ⟨_, by rw [expandFrom, hpattern]; rfl⟩
      | true =>
          have hdirectory : isAbsolute (Path.directory pattern) = true :=
            (isAbsolute_directory pattern).trans habsolute
          have hplain := hasNull_directory habsolute hnull
          by_cases hnested : Placement.isPattern (Path.directory pattern) = true
          · have hshorter := (length_directory_lt hnested).trans_le (Nat.lt_succ_iff.mp hfuel)
            obtain ⟨places, hplaces⟩ := htree.exists_expandFrom_of_hasNull hshorter hdirectory hplain
            refine htree.exists_expandFrom_succ hpattern ((if_pos hnested).trans hplaces)
              fun place hplace => ?_
            obtain ⟨hspells, hthere⟩ :=
              (htree.mem_expandFrom_iff hshorter hdirectory hplaces place).mp hplace
            exact ⟨hspells.isAbsolute hdirectory, fun _ => hasNull_of_exists? hthere.1⟩
          · exact htree.exists_expandFrom_succ hpattern (if_neg hnested)
              (List.forall_mem_singleton.mpr ⟨hdirectory, fun _ => hplain⟩)

/-- The whole search for a pattern. -/
theorem IsTree.mem_expand_iff (htree : disk.IsTree) {found : List Text}
    (hpattern : isAbsolute pattern = true)
    (h : disk.expand root recursive pattern = .ok found) :
    path ∈ found ↔ Spells recursive pattern path ∧ disk.exists? root path = true := by
  rw [htree.mem_expandFrom_iff (Nat.lt_succ_self _) hpattern h]
  exact and_congr_right fun _ => ⟨And.left, fun hexists => ⟨hexists, nofun⟩⟩

theorem IsTree.exists_expand (htree : disk.IsTree) {other : Disk} (hother : other.IsTree)
    {found : List Text} (hpattern : isAbsolute pattern = true)
    (h : other.expand root recursive pattern = .ok found) :
    ∃ results, disk.expand root recursive pattern = .ok results :=
  htree.exists_expandFrom hother (Nat.lt_succ_self _) hpattern h

theorem IsTree.exists_expand_of_hasNull (htree : disk.IsTree) (hpattern : isAbsolute pattern = true)
    (hnull : Text.hasNull pattern = false) :
    ∃ results, disk.expand root recursive pattern = .ok results :=
  htree.exists_expandFrom_of_hasNull (Nat.lt_succ_self _) hpattern hnull

/-! ## Declaration files -/

/-- The path leads to a file with the name of a declaration file. -/
def IsDeclarationFile (disk : Disk) (root path : Text) : Prop :=
  disk.isFile root path = true ∧ Placement.isDeclarationName (baseName path) = true

theorem baseName_join_name (directory : Text) (hname : IsName name) :
    baseName (Path.join directory name) = name := by
  rw [baseName_join, baseName_of_not_mem hname.2.2.2]

theorem IsTree.exists_names_of_mem_declarationFilesBelow (htree : disk.IsTree) :
    ∀ {fuel : Nat} {directory : Text} {found : List Text}, isAbsolute directory = true →
      disk.declarationFilesBelow root fuel directory = .ok found → ∀ path ∈ found,
        ∃ names, names ≠ [] ∧ (∀ name ∈ names, IsName name) ∧
          path = Path.join directory (Text.join "/" names) ∧ disk.IsDeclarationFile root path
  | 0, directory, found, _, h, path, hpath => by
      cases h
      cases hpath
  | fuel + 1, directory, found, hdirectory, h, path, hpath => by
      rw [declarationFilesBelow] at h
      obtain ⟨entries, hentries, h⟩ := bind_eq_ok_iff.mp h
      obtain ⟨groups, hgroups, h⟩ := bind_eq_ok_iff.mp h
      cases h
      obtain ⟨name, hname, group, hstep, hpath⟩ := (mem_flatten_of_mapM_eq_ok hgroups).mp hpath
      obtain ⟨hisName, hexists⟩ := (htree.mem_entries_iff hdirectory hentries).mp hname
      dsimp only at hstep
      split at hstep
      · obtain ⟨names, hne, hnames, rfl, hfile⟩ :=
          htree.exists_names_of_mem_declarationFilesBelow (isAbsolute_join_left hdirectory name)
            hstep path hpath
        refine ⟨name :: names, List.cons_ne_nil _ _, List.forall_mem_cons.mpr ⟨hisName, hnames⟩,
          ?_, hfile⟩
        rw [join_join_cons directory hisName hne hnames]
      · next hfile =>
          cases hstep
          rw [List.mem_ite_nil_right] at hpath
          obtain ⟨hdeclares, hself⟩ := hpath
          obtain rfl := List.mem_singleton.mp hself
          refine ⟨[name], List.cons_ne_nil _ _, List.forall_mem_singleton.mpr hisName, rfl,
            isFile_iff_exists?.mpr ⟨hexists, Bool.eq_false_iff.mpr hfile⟩, ?_⟩
          rwa [baseName_join_name directory hisName]

theorem IsTree.mem_declarationFilesBelow (htree : disk.IsTree) :
    ∀ {fuel : Nat} {directory : Text} {found names : List Text}, isAbsolute directory = true →
      disk.declarationFilesBelow root fuel directory = .ok found →
      names ≠ [] → names.length ≤ fuel → (∀ name ∈ names, IsName name) →
      disk.IsDeclarationFile root (Path.join directory (Text.join "/" names)) →
      Path.join directory (Text.join "/" names) ∈ found
  | _, _, _, [], _, _, hne, _, _, _ => absurd rfl hne
  | 0, _, _, _ :: _, _, _, _, hlength, _, _ => absurd hlength (Nat.not_succ_le_zero _)
  | fuel + 1, directory, found, name :: names, hdirectory, h, _, hlength, hnames, hdeclaration => by
      rw [declarationFilesBelow] at h
      obtain ⟨entries, hentries, h⟩ := bind_eq_ok_iff.mp h
      obtain ⟨groups, hgroups, h⟩ := bind_eq_ok_iff.mp h
      cases h
      rw [mem_flatten_of_mapM_eq_ok hgroups]
      obtain ⟨hisName, hnames'⟩ := List.forall_mem_cons.mp hnames
      obtain ⟨hexists, hnoDirectory⟩ := isFile_iff_exists?.mp hdeclaration.1
      by_cases hlast : names = []
      · subst hlast
        have hentry := (htree.mem_entries_iff hdirectory hentries).mpr ⟨hisName, hexists⟩
        refine ⟨name, hentry, _, if_neg (Bool.eq_false_iff.mp hnoDirectory),
          List.mem_ite_nil_right.mpr ⟨?_, List.mem_singleton_self _⟩⟩
        have hname := hdeclaration.2
        rwa [Text.join, baseName_join_name directory hisName] at hname
      · have hnested : disk.isDirectory root (Path.join directory name) = true :=
          isDirectory_of_exists?_names hdirectory hisName hlast hnames' hexists
        have hentry := (htree.mem_entries_iff hdirectory hentries).mpr
          ⟨hisName, exists?_of_isDirectory hnested⟩
        obtain ⟨group, -, hstep⟩ := exists_mem_of_mapM_eq_ok hgroups name hentry
        refine ⟨name, hentry, group, hstep, ?_⟩
        dsimp only at hstep
        rw [if_pos hnested] at hstep
        rw [join_join_cons directory hisName hlast hnames'] at hdeclaration ⊢
        exact htree.mem_declarationFilesBelow (isAbsolute_join_left hdirectory name) hstep hlast
          (Nat.succ_le_succ_iff.mp hlength) hnames' hdeclaration

theorem IsTree.exists_declarationFilesBelow (htree : disk.IsTree) :
    ∀ (fuel : Nat) {directory : Text}, isAbsolute directory = true →
      Text.hasNull directory = false →
      ∃ found, disk.declarationFilesBelow root fuel directory = .ok found
  | 0, _, _, _ => ⟨[], rfl⟩
  | fuel + 1, directory, hdirectory, hnull => by
      obtain ⟨entries, hentries⟩ := (exists_entries_iff disk root hdirectory).mpr hnull
      have hsteps : ∀ name ∈ entries, ∃ group, (do
          let path := Path.join directory name
          if disk.isDirectory root path then disk.declarationFilesBelow root fuel path
          else return if Placement.isDeclarationName name then [path] else []) =
          (.ok group : Except FileFault (List Text)) := by
        intro name hname
        obtain ⟨-, hexists⟩ := (htree.mem_entries_iff hdirectory hentries).mp hname
        have hbelow := isAbsolute_join_left hdirectory name
        dsimp only
        split
        · exact htree.exists_declarationFilesBelow fuel hbelow (hasNull_of_exists? hexists)
        · exact ⟨_, rfl⟩
      obtain ⟨groups, hgroups⟩ := exists_mapM_eq_ok hsteps
      refine ⟨groups.flatten, ?_⟩
      rw [declarationFilesBelow, hentries, ok_bind]
      dsimp only at hgroups ⊢
      rw [hgroups]
      rfl

theorem entries_eq_of_list {names : List Text} (h : disk.list root directory = .ok names) :
    disk.entries root directory = .ok names := by
  rw [entries, h]

/-- The declaration files of a directory are those in it, or those below it. -/
theorem IsTree.mem_declarationFiles_iff (htree : disk.IsTree) {recursive : Bool}
    (hdirectory : isAbsolute directory = true) {found : List Text}
    (h : disk.declarationFiles root recursive directory = .ok found) : path ∈ found ↔
      ∃ names, names ≠ [] ∧ (recursive = false → names.length = 1) ∧ (∀ name ∈ names, IsName name) ∧
        path = Path.join directory (Text.join "/" names) ∧ disk.IsDeclarationFile root path := by
  rw [declarationFiles] at h
  split at h
  · next hrecursive =>
      constructor
      · intro hpath
        obtain ⟨names, hne, hnames, hrest⟩ :=
          htree.exists_names_of_mem_declarationFilesBelow hdirectory h path hpath
        have hlength : recursive = false → names.length = 1 := fun hfalse =>
          absurd hrecursive (by rw [hfalse]; exact Bool.false_ne_true)
        exact ⟨names, hne, hlength, hnames, hrest⟩
      · rintro ⟨names, hne, -, hnames, rfl, hfile⟩
        have hlength := htree.length_le_of_exists? hnames (isFile_iff_exists?.mp hfile.1).1
        exact htree.mem_declarationFilesBelow hdirectory h hne hlength hnames hfile
  · next hflat =>
      obtain ⟨entries, hlist, h⟩ := bind_eq_ok_iff.mp h
      cases h
      have hentries := entries_eq_of_list hlist
      rw [List.mem_filter, List.mem_map, Bool.and_eq_true]
      constructor
      · rintro ⟨⟨name, hname, rfl⟩, hfile⟩
        obtain ⟨hisName, -⟩ := (htree.mem_entries_iff hdirectory hentries).mp hname
        exact ⟨[name], List.cons_ne_nil _ _, fun _ => rfl, List.forall_mem_singleton.mpr hisName, rfl,
          hfile⟩
      · rintro ⟨names, hne, hlength, hnames, rfl, hfile⟩
        obtain ⟨name, rfl⟩ := List.length_eq_one_iff.mp (hlength (Bool.eq_false_iff.mpr hflat))
        have hisName : IsName name := hnames name (List.mem_singleton_self _)
        refine ⟨⟨name, ?_, rfl⟩, hfile⟩
        exact (htree.mem_entries_iff hdirectory hentries).mpr
          ⟨hisName, (isFile_iff_exists?.mp hfile.1).1⟩

theorem IsTree.exists_declarationFiles (htree : disk.IsTree) (recursive : Bool)
    (hdirectory : isAbsolute directory = true) (h : disk.isDirectory root directory = true) :
    ∃ found, disk.declarationFiles root recursive directory = .ok found := by
  rw [declarationFiles]
  split
  · exact htree.exists_declarationFilesBelow _ hdirectory
      (hasNull_of_exists? (exists?_of_isDirectory h))
  · obtain ⟨location, hlocate, hitem⟩ := isDirectory_iff.mp h
    rw [list_eq_ok_iff.mpr ⟨location, hlocate, hitem, rfl⟩]
    exact ⟨_, rfl⟩

end Disk

end MessageForge
