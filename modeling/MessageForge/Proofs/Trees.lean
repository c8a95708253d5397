import Mathlib.Data.List.Nodup
import Mathlib.Data.List.Perm.Subperm
import MessageForge.Proofs.Readings
import MessageForge.Proofs.Searches

/-!
# Trees

On a file system every item lies in a directory and has a name. So a disk is a
tree, and what is to be seen on it can be said path by path: a name is listed in
a directory just if the path behind it leads somewhere, and a way down goes
through directories. Whatever a run writes keeps the disk a tree.
-/

namespace MessageForge

open MessageForge.Path

/-- Paths with such a character are refused before they are followed. -/
def Text.hasNull (text : Text) : Bool :=
  text.any (·.toNat = 0)

theorem Text.hasNull_append (front back : Text) :
    hasNull (front ++ back) = (hasNull front || hasNull back) :=
  List.any_append

namespace Disk

variable {disk : Disk} {root directory path name back : Text} {location found : Location}

/-- Every item has directories above it, and names that can stand in a path. -/
structure IsTree (disk : Disk) : Prop where
  reached : ∀ {location item}, disk.item? location = some item → disk.IsReached location
  names : ∀ {location item}, disk.item? location = some item →
    ∀ name ∈ location, IsName name ∧ Text.hasNull name = false

/-! ## Ways down -/

theorem walk_slashes {slashes : Text} (h : ∀ c ∈ slashes, c = '/')
    (hitem : disk.item? location = some .directory) :
    disk.walk location (Text.split '/' slashes) = .ok location := by
  induction slashes with
  | nil =>
      rw [Text.split, walk, hitem]
      rfl
  | cons c rest ih =>
      rw [h c (List.mem_cons_self ..), Text.split, if_pos rfl, walk, hitem]
      exact ih fun d hd => h d (List.mem_cons_of_mem _ hd)

theorem item?_directory_of_walk_cons {part : Text} {rest : List Text}
    (h : disk.walk location (part :: rest) = .ok found) : disk.item? location = some .directory := by
  rw [walk] at h
  split at h
  · cases h
  · cases h
  · next hitem => exact hitem

theorem item?_directory_of_walk_split (h : disk.walk location (Text.split '/' back) = .ok found) :
    disk.item? location = some .directory := by
  cases hsplit : Text.split '/' back with
  | nil => exact absurd hsplit (Text.split_ne_nil '/' back)
  | cons part rest => exact item?_directory_of_walk_cons (hsplit ▸ h)

/-- To follow what lies behind a path is to follow one after the other. -/
theorem walk_join {front : Text} (hfront : front ≠ []) (hback : isAbsolute back = false) :
    disk.walk location (Text.split '/' (Path.join front back)) =
      disk.walk location (Text.split '/' front) >>= fun place =>
        disk.walk place (Text.split '/' back) := by
  rcases join_cases front hback with ⟨hnil, -⟩ | ⟨rest, rfl, heq⟩ | heq
  · exact absurd hnil hfront
  · -- the slash behind the front asks for a directory, which any component does
    have hslash : ∀ place, (disk.walk place [[]] >>= fun found =>
        disk.walk found (Text.split '/' back)) = disk.walk place (Text.split '/' back) := by
      intro place
      cases hsplit : Text.split '/' back with
      | nil => exact absurd hsplit (Text.split_ne_nil '/' back)
      | cons part parts =>
          cases hitem : disk.item? place with
          | none => simp only [walk, hitem, error_bind]
          | some item =>
              cases item with
              | file content => simp only [walk, hitem, error_bind]
              | directory =>
                  have hstay : disk.walk place [[]] = .ok place := by
                    rw [walk, hitem]
                    rfl
                  rw [hstay, ok_bind]
    rw [heq, Text.split_append, Text.split_append, walk_append, walk_append]
    cases disk.walk location (Text.split '/' rest) with
    | error fault => rfl
    | ok place => exact (hslash place).symm
  · rw [heq, Text.split_append, walk_append]

theorem hasNull_join {front : Text} (hback : isAbsolute back = false) :
    Text.hasNull (Path.join front back) = (Text.hasNull front || Text.hasNull back) := by
  have hslash : ∀ text : Text, Text.hasNull ('/' :: text) = Text.hasNull text := fun _ => rfl
  rcases join_cases front hback with ⟨rfl, heq⟩ | ⟨rest, rfl, heq⟩ | heq
  · rw [heq]
    rfl
  · rw [heq, Text.hasNull_append, Text.hasNull_append, hslash, hslash]
    exact congrArg (· || _) (Bool.or_false _).symm
  · rw [heq, Text.hasNull_append, hslash]

theorem locate_of_isAbsolute (hpath : isAbsolute path = true) : disk.locate root path =
    if Text.hasNull path then .error .nullCharacter else disk.walk [] (Text.split '/' path) := by
  have hempty : path.isEmpty = false := by
    obtain ⟨rest, rfl⟩ := isAbsolute_iff.mp hpath
    rfl
  rw [locate, hempty, join_of_isAbsolute hpath]
  rfl

/-- Behind a directory a path goes on where the directory is. -/
theorem locate_join (hdirectory : isAbsolute directory = true) (hback : isAbsolute back = false)
    (hnull : Text.hasNull back = false) :
    disk.locate root (Path.join directory back) =
      disk.locate root directory >>= fun place => disk.walk place (Text.split '/' back) := by
  have hjoin : isAbsolute (Path.join directory back) = true := by
    rw [isAbsolute_join, hdirectory]
    rfl
  have hne : directory ≠ [] := by
    rintro rfl
    cases hdirectory
  rw [locate_of_isAbsolute hjoin, locate_of_isAbsolute hdirectory, hasNull_join hback, hnull,
    Bool.or_false, walk_join hne hback]
  split <;> rfl

theorem hasNull_of_locate (h : disk.locate root path = .ok location) : Text.hasNull path = false :=
  (locate_eq_ok_iff.mp h).1

/-- A way to what lies behind a path goes through the directory of that path. -/
theorem locate_of_locate_join (hdirectory : isAbsolute directory = true)
    (hback : isAbsolute back = false) (h : disk.locate root (Path.join directory back) = .ok found) :
    ∃ place, disk.locate root directory = .ok place ∧ disk.item? place = some .directory ∧
      disk.walk place (Text.split '/' back) = .ok found := by
  have hnull := hasNull_of_locate h
  rw [hasNull_join hback, Bool.or_eq_false_iff] at hnull
  rw [locate_join hdirectory hback hnull.2] at h
  obtain ⟨place, hplace, hwalk⟩ := bind_eq_ok_iff.mp h
  exact ⟨place, hplace, item?_directory_of_walk_split hwalk, hwalk⟩

theorem walk_name (hname : IsName name) (hitem : disk.item? location = some .directory) :
    disk.walk location (Text.split '/' name) = .ok (location ++ [name]) := by
  have hsplit := hname.split
  obtain ⟨hne, hdot, hup, -⟩ := hname
  have hmove : ¬ (name.isEmpty || name = ".") = true := fun h => (stays_iff.mp h).elim hne hdot
  rw [hsplit, walk, hitem]
  dsimp only
  rw [if_neg hmove, if_neg hup, walk]

/-! ## What a path leads to -/

theorem exists?_iff : disk.exists? root path = true ↔
    ∃ location item, disk.locate root path = .ok location ∧ disk.item? location = some item := by
  rw [exists?, find?]
  cases disk.locate root path with
  | error fault => simp
  | ok location => simp [Option.isSome_iff_exists]

theorem isDirectory_iff : disk.isDirectory root path = true ↔
    ∃ location, disk.locate root path = .ok location ∧ disk.item? location = some .directory := by
  rw [isDirectory, find?]
  cases disk.locate root path with
  | error fault => simp
  | ok location => simp

theorem isFile_iff : disk.isFile root path = true ↔ ∃ location, disk.IsFileAt root path location := by
  refine ⟨isFileAt_of_isFile, ?_⟩
  rintro ⟨location, hlocate, content, hitem⟩
  rw [isFile, find?, hlocate]
  dsimp only
  rw [hitem]

theorem exists?_of_isDirectory (h : disk.isDirectory root path = true) :
    disk.exists? root path = true := by
  obtain ⟨location, hlocate, hitem⟩ := isDirectory_iff.mp h
  exact exists?_iff.mpr ⟨location, _, hlocate, hitem⟩

theorem isFile_iff_exists? : disk.isFile root path = true ↔
    disk.exists? root path = true ∧ disk.isDirectory root path = false := by
  rw [isFile, exists?, isDirectory]
  cases disk.find? root path with
  | none => simp
  | some item => cases item <;> simp

theorem hasNull_of_exists? (h : disk.exists? root path = true) : Text.hasNull path = false := by
  obtain ⟨location, item, hlocate, -⟩ := exists?_iff.mp h
  exact hasNull_of_locate hlocate

/-- What there is behind a path is in a directory. -/
theorem isDirectory_of_exists?_join (hdirectory : isAbsolute directory = true)
    (hback : isAbsolute back = false) (h : disk.exists? root (Path.join directory back) = true) :
    disk.isDirectory root directory = true := by
  obtain ⟨found, item, hlocate, -⟩ := exists?_iff.mp h
  obtain ⟨place, hplace, hitem, -⟩ := locate_of_locate_join hdirectory hback hlocate
  exact isDirectory_iff.mpr ⟨place, hplace, hitem⟩

/-- Nothing behind a path is the path itself, where this is a directory. -/
theorem isDirectory_join_nil (hdirectory : isAbsolute directory = true) :
    disk.isDirectory root (Path.join directory []) = disk.isDirectory root directory := by
  have hempty : disk.locate root (Path.join directory []) =
      disk.locate root directory >>= fun place => disk.walk place [[]] :=
    locate_join hdirectory rfl rfl
  rw [Bool.eq_iff_iff, isDirectory_iff, isDirectory_iff, hempty]
  constructor
  · rintro ⟨location, hlocate, hitem⟩
    obtain ⟨place, hplace, hwalk⟩ := bind_eq_ok_iff.mp hlocate
    exact ⟨place, hplace, item?_directory_of_walk_cons hwalk⟩
  · rintro ⟨location, hlocate, hitem⟩
    refine ⟨location, ?_, hitem⟩
    rw [hlocate, ok_bind, walk, hitem]
    rfl

/-! ## Names in directories -/

theorem mem_keys_of_item? {item : Item} (h : disk.item? location = some item) (hne : location ≠ []) :
    location ∈ disk.items.map Prod.fst := by
  rw [item?, if_neg hne] at h
  obtain ⟨⟨place, item⟩, hentry, hkey⟩ :=
    List.lookup_isSome_iff.mp (Option.isSome_iff_exists.mpr ⟨_, h⟩)
  obtain rfl : location = place := by simpa using hkey
  exact List.mem_map_of_mem hentry

theorem mem_namesIn_iff : name ∈ disk.namesIn location ↔
    (disk.item? (location ++ [name])).isSome = true := by
  have hne : location ++ [name] ≠ [] := by simp
  have hplace : ∀ place : Location, (place.dropLast = location ∧ place.getLast? = some name) ↔
      place = location ++ [name] := by
    intro place
    constructor
    · rintro ⟨hfront, hlast⟩
      rw [← hfront, List.dropLast_append_getLast? _ hlast]
    · rintro rfl
      exact ⟨List.dropLast_concat, List.getLast?_concat⟩
  rw [namesIn, List.mem_filterMap, item?, if_neg hne, List.lookup_isSome_iff]
  constructor
  · rintro ⟨⟨place, item⟩, hentry, hname⟩
    dsimp only at hname
    split at hname
    · next hfront =>
        obtain rfl := (hplace place).mp ⟨hfront, hname⟩
        exact ⟨_, hentry, by simp⟩
    · cases hname
  · rintro ⟨⟨place, item⟩, hentry, hkey⟩
    obtain rfl : location ++ [name] = place := by simpa using hkey
    refine ⟨_, hentry, ?_⟩
    dsimp only
    rw [if_pos List.dropLast_concat, List.getLast?_concat]

theorem list_eq_ok_iff {names : List Text} : disk.list root directory = .ok names ↔
    ∃ location, disk.locate root directory = .ok location ∧
      disk.item? location = some .directory ∧ names = disk.namesIn location := by
  rw [list, bind_eq_ok_iff]
  refine exists_congr fun location => and_congr_right fun _ => ?_
  split
  · next hitem => simp [hitem]
  · next hitem => simp [hitem]
  · next hitem =>
      rw [hitem]
      exact ⟨fun h => ⟨rfl, (Except.ok.inj h).symm⟩, fun h => congrArg _ h.2.symm⟩

theorem walk_ne_nullCharacter (parts : List Text) (location : Location) :
    disk.walk location parts ≠ .error .nullCharacter := by
  induction parts generalizing location with
  | nil =>
      intro h
      cases h
  | cons part rest ih =>
      rw [walk]
      split
      · rintro ⟨⟩
      · rintro ⟨⟩
      · split
        · exact ih location
        · split
          · exact ih _
          · exact ih _

/-- Entries are looked up unless the path is refused. -/
theorem exists_entries_iff (disk : Disk) (root : Text) (hdirectory : isAbsolute directory = true) :
    (∃ names, disk.entries root directory = .ok names) ↔ Text.hasNull directory = false := by
  have hlocate : disk.locate root directory = if Text.hasNull directory then .error .nullCharacter
      else disk.walk [] (Text.split '/' directory) := locate_of_isAbsolute hdirectory
  cases hnull : Text.hasNull directory with
  | true =>
      rw [hnull, if_pos rfl] at hlocate
      have hlist : disk.list root directory = .error .nullCharacter := by
        rw [list, hlocate, error_bind]
      simp [entries, hlist]
  | false =>
      rw [hnull, if_neg Bool.false_ne_true] at hlocate
      have hlist : disk.list root directory ≠ .error .nullCharacter := by
        rw [list, hlocate]
        cases hwalk : disk.walk [] (Text.split '/' directory) with
        | error fault =>
            rintro ⟨⟩
            exact walk_ne_nullCharacter _ _ hwalk
        | ok location =>
            rw [ok_bind]
            split
            · rintro ⟨⟩
            · rintro ⟨⟩
            · rintro ⟨⟩
      refine iff_of_true ?_ rfl
      rw [entries]
      split
      · next heq => exact absurd heq hlist
      · exact ⟨_, rfl⟩
      · exact ⟨_, rfl⟩

/-- On a tree a directory lists just the names behind which there is something. -/
theorem IsTree.mem_entries_iff (htree : disk.IsTree) (hdirectory : isAbsolute directory = true)
    {names : List Text} (h : disk.entries root directory = .ok names) :
    name ∈ names ↔ IsName name ∧ disk.exists? root (Path.join directory name) = true := by
  have hlisted : name ∈ names ↔ ∃ location, disk.locate root directory = .ok location ∧
      disk.item? location = some .directory ∧ name ∈ disk.namesIn location := by
    rw [entries] at h
    split at h
    · cases h
    · next fault _ hlist =>
        cases h
        refine iff_of_false List.not_mem_nil ?_
        rintro ⟨location, hlocate, hitem, -⟩
        rw [list_eq_ok_iff.mpr ⟨location, hlocate, hitem, rfl⟩] at hlist
        cases hlist
    · next found hlist =>
        cases h
        obtain ⟨location, hlocate, hitem, rfl⟩ := list_eq_ok_iff.mp hlist
        constructor
        · exact fun hname => ⟨location, hlocate, hitem, hname⟩
        · rintro ⟨other, hother, -, hname⟩
          cases hlocate.symm.trans hother
          exact hname
  rw [hlisted]
  constructor
  · rintro ⟨location, hlocate, hitem, hname⟩
    obtain ⟨item, hentry⟩ := Option.isSome_iff_exists.mp (mem_namesIn_iff.mp hname)
    obtain ⟨hisName, hnull⟩ := htree.names hentry name (by simp)
    refine ⟨hisName, exists?_iff.mpr ⟨location ++ [name], item, ?_, hentry⟩⟩
    rw [locate_join hdirectory hisName.isAbsolute hnull, hlocate]
    exact walk_name hisName hitem
  · rintro ⟨hname, hexists⟩
    obtain ⟨found, item, hfound, hentry⟩ := exists?_iff.mp hexists
    obtain ⟨location, hlocate, hitem, hwalk⟩ :=
      locate_of_locate_join hdirectory hname.isAbsolute hfound
    rw [walk_name hname hitem] at hwalk
    cases hwalk
    exact ⟨location, hlocate, hitem, mem_namesIn_iff.mpr (Option.isSome_iff_exists.mpr ⟨item, hentry⟩)⟩

/-! ## Items of trees -/

/-- A disk is a tree if its items have names and lie in directories. -/
theorem isTree_of_items
    (hreached : ∀ entry ∈ disk.items, ∀ n < entry.1.length,
      disk.item? (entry.1.take n) = some .directory)
    (hnames : ∀ entry ∈ disk.items, ∀ name ∈ entry.1,
      Path.IsName name ∧ Text.hasNull name = false) : disk.IsTree := by
  refine ⟨fun {location item} hitem above habove hne => ?_, fun {location item} hitem name hname => ?_⟩
  · have hlength : above.length < location.length :=
      habove.length_le.lt_of_ne fun heq => hne (habove.eq_of_length heq)
    have hroot : location ≠ [] := List.ne_nil_of_length_pos (Nat.zero_lt_of_lt hlength)
    obtain ⟨entry, hmem, rfl⟩ := List.mem_map.mp (mem_keys_of_item? hitem hroot)
    rw [List.prefix_iff_eq_take.mp habove]
    exact hreached entry hmem _ hlength
  · have hroot : location ≠ [] := List.ne_nil_of_mem hname
    obtain ⟨entry, hmem, rfl⟩ := List.mem_map.mp (mem_keys_of_item? hitem hroot)
    exact hnames entry hmem name hname

/-- All that is above an item is listed on the disk, so no item lies deeper than
there are items. -/
theorem IsTree.length_le (htree : disk.IsTree) {item : Item} (h : disk.item? location = some item) :
    location.length ≤ disk.items.length := by
  have hprefix : ∀ n < location.length, location.take (n + 1) ∈ disk.items.map Prod.fst := by
    intro n hn
    have hne : location.take (n + 1) ≠ [] := by
      rw [← List.length_pos_iff, List.length_take]
      omega
    by_cases hlast : location.take (n + 1) = location
    · rw [hlast] at hne ⊢
      exact mem_keys_of_item? h hne
    · exact mem_keys_of_item? (htree.reached h _ (List.take_prefix ..) hlast) hne
  have hnodup : ((List.range location.length).map fun n => location.take (n + 1)).Nodup := by
    refine List.Nodup.map_on (fun first hfirst second hsecond heq => ?_) List.nodup_range
    have hlength := congrArg List.length heq
    rw [List.length_take, List.length_take] at hlength
    have hfirstLt := List.mem_range.mp hfirst
    have hsecondLt := List.mem_range.mp hsecond
    omega
  have hsubset : ((List.range location.length).map fun n => location.take (n + 1)) ⊆
      disk.items.map Prod.fst := by
    intro above habove
    obtain ⟨n, hn, rfl⟩ := List.mem_map.mp habove
    exact hprefix n (List.mem_range.mp hn)
  have hlength := (List.subperm_of_subset hnodup hsubset).length_le
  rwa [List.length_map, List.length_map, List.length_range] at hlength

/-- A tree stays one without some of its files. -/
theorem IsTree.without (htree : disk.IsTree) {locations : List Location}
    (h : ∀ location ∈ locations, ∃ content, disk.item? location = some (.file content)) :
    (disk.without locations).IsTree where
  reached := by
    intro location item hitem above habove hne
    have hdirectory := htree.reached (item?_of_item?_without hitem) above habove hne
    rw [item?_without_of_not_mem, hdirectory]
    intro hremoved
    obtain ⟨content, hfile⟩ := h above hremoved
    rw [hdirectory] at hfile
    cases hfile
  names := fun hitem => htree.names (item?_of_item?_without hitem)

end Disk

/-- What is left by the clean phase of a run is a tree if the disk was one. -/
theorem Disk.IsTree.cleanedDisk {disk : Disk} (htree : disk.IsTree) (setting : Setting)
    (arguments : List Text) : (MessageForge.cleanedDisk setting arguments disk).IsTree := by
  obtain ⟨removed, hremoved, hcleaned⟩ := exists_cleanedDisk_eq setting arguments disk
  rw [hcleaned]
  refine htree.without fun location hlocation => ?_
  obtain ⟨_, _, _, _, _, _, hfile⟩ := hremoved location hlocation
  exact hfile.2

end MessageForge
