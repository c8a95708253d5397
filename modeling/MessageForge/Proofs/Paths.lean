import Mathlib.Data.List.DropRight
import Mathlib.Data.List.TakeWhile
import MessageForge.Proofs.Disks
import MessageForge.Proofs.Lines

/-!
# Where paths lead

A path means a location: its components are followed one by one, and two dots
go up. On a disk the path leads there or nowhere, and the algebra of paths is
an algebra of locations: to join is to follow one path after another.
-/

namespace MessageForge

namespace Path

/-! ## Following components -/

/-- The location that components mean, started at another location. -/
def follow (location : Location) : List Text → Location
  | [] => location
  | part :: rest =>
      if part.isEmpty || part = "." then follow location rest
      else if part = ".." then follow location.dropLast rest
      else follow (location ++ [part]) rest

/-- What can stand in a directory: no component that stays or goes up. -/
def IsName (name : Text) : Prop :=
  name ≠ [] ∧ name ≠ "." ∧ name ≠ ".." ∧ '/' ∉ name

variable {location : Location} {root front back path name : Text}

instance : Decidable (IsName name) :=
  inferInstanceAs (Decidable (_ ∧ _ ∧ _ ∧ _))

theorem stays_iff {part : Text} : (part.isEmpty || part = ".") = true ↔ part = [] ∨ part = "." := by
  rw [Bool.or_eq_true, List.isEmpty_iff, decide_eq_true_eq]

@[simp] theorem follow_nil (location : Location) : follow location [] = location := rfl

@[simp] theorem follow_empty (location : Location) (rest : List Text) :
    follow location ([] :: rest) = follow location rest := rfl

theorem follow_name (hname : IsName name) (rest : List Text) :
    follow location (name :: rest) = follow (location ++ [name]) rest := by
  obtain ⟨hne, hdot, hup, -⟩ := hname
  have hmove : ¬ (name.isEmpty || name = ".") = true := fun h => (stays_iff.mp h).elim hne hdot
  rw [follow, if_neg hmove, if_neg hup]

theorem follow_append (location : Location) (parts more : List Text) :
    follow location (parts ++ more) = follow (follow location parts) more := by
  induction parts generalizing location with
  | nil => rfl
  | cons part rest ih =>
      rw [List.cons_append, follow, follow]
      split
      · exact ih location
      · split
        · exact ih location.dropLast
        · exact ih (location ++ [part])

theorem follow_names {names : List Text} (h : ∀ name ∈ names, IsName name) :
    follow location names = location ++ names := by
  induction names generalizing location with
  | nil => rw [follow_nil, List.append_nil]
  | cons name rest ih =>
      rw [follow_name (h name (List.mem_cons_self ..)),
        ih fun other hother => h other (List.mem_cons_of_mem _ hother), List.append_assoc]
      rfl

theorem isName_of_mem_follow {parts : List Text} (hlocation : ∀ name ∈ location, IsName name)
    (hparts : ∀ part ∈ parts, '/' ∉ part) : ∀ name ∈ follow location parts, IsName name := by
  induction parts generalizing location with
  | nil => exact hlocation
  | cons part rest ih =>
      have hrest : ∀ other ∈ rest, '/' ∉ other := fun other hother =>
        hparts other (List.mem_cons_of_mem _ hother)
      rw [follow]
      split
      · exact ih hlocation hrest
      · next hstay =>
          split
          · exact ih (fun name hname => hlocation name (List.dropLast_subset _ hname)) hrest
          · next hup =>
              refine ih (fun name hname => ?_) hrest
              rcases List.mem_append.mp hname with hmem | hmem
              · exact hlocation name hmem
              · obtain rfl := List.mem_singleton.mp hmem
                exact ⟨fun h => hstay (stays_iff.mpr (.inl h)), fun h => hstay (stays_iff.mpr (.inr h)),
                  hup, hparts name (List.mem_cons_self ..)⟩

/-! ## Joins -/

theorem isAbsolute_cons (c : Char) (rest : Text) : isAbsolute (c :: rest) = decide (c = '/') := by
  show (Text.stripPrefix? ['/'] (c :: rest)).isSome = _
  rw [Text.stripPrefix?]
  split
  · next hc => exact (decide_eq_true hc.symm).symm
  · next hc => exact (decide_eq_false fun h => hc h.symm).symm

theorem isAbsolute_iff : isAbsolute path = true ↔ ∃ rest, path = '/' :: rest := by
  cases path with
  | nil => exact ⟨fun h => (nomatch h), fun ⟨_, h⟩ => (nomatch h)⟩
  | cons c rest =>
      rw [isAbsolute_cons, decide_eq_true_eq]
      exact ⟨fun h => ⟨rest, by rw [h]⟩, fun ⟨_, h⟩ => (List.cons.inj h).1⟩

theorem endsWith_slash_iff : Text.endsWith "/" path = true ↔ ∃ rest, path = rest ++ ['/'] := by
  have hreverse : Text.endsWith "/" path = isAbsolute path.reverse := rfl
  rw [hreverse, isAbsolute_iff]
  exact ⟨fun ⟨rest, h⟩ => ⟨rest.reverse, by simpa using congrArg List.reverse h⟩,
    fun ⟨rest, h⟩ => ⟨rest.reverse, by simp [h]⟩⟩

theorem join_of_isAbsolute (h : isAbsolute back = true) : join front back = back :=
  if_pos h

theorem join_of_relative (h : isAbsolute back = false) :
    join front back =
      if front = [] ∨ Text.endsWith "/" front = true then front ++ back else front ++ '/' :: back := by
  rw [join, h, if_neg Bool.false_ne_true]
  simp only [Bool.or_eq_true, List.isEmpty_iff]
  split
  · rfl
  · rw [List.append_assoc]
    rfl

/-- A relative path stands behind the first one and one slash, of which there
need not be another. -/
theorem join_cases (front : Text) (h : isAbsolute back = false) :
    front = [] ∧ join front back = back ∨
    (∃ rest, front = rest ++ ['/'] ∧ join front back = rest ++ '/' :: back) ∨
    join front back = front ++ '/' :: back := by
  rw [join_of_relative h]
  split
  · next hends =>
      rcases hends with rfl | hends
      · exact .inl ⟨rfl, rfl⟩
      · obtain ⟨rest, rfl⟩ := endsWith_slash_iff.mp hends
        exact .inr (.inl ⟨rest, rfl, by rw [List.append_assoc]; rfl⟩)
  · exact .inr (.inr rfl)

theorem isAbsolute_append (back : Text) (h : front ≠ []) :
    isAbsolute (front ++ back) = isAbsolute front := by
  cases front with
  | nil => exact absurd rfl h
  | cons c rest => rw [List.cons_append, isAbsolute_cons, isAbsolute_cons]

theorem join_append (front rest : Text) (h : back ≠ []) :
    join front (back ++ rest) = join front back ++ rest := by
  cases hback : isAbsolute back with
  | true =>
      have hboth := (isAbsolute_append rest h).trans hback
      rw [join_of_isAbsolute hboth, join_of_isAbsolute hback]
  | false =>
      have hboth := (isAbsolute_append rest h).trans hback
      rw [join_of_relative hboth, join_of_relative hback]
      split
      · rw [List.append_assoc]
      · rw [List.append_assoc, List.cons_append]

theorem follow_split_join (h : isAbsolute back = false) :
    follow location (Text.split '/' (join front back)) =
      follow (follow location (Text.split '/' front)) (Text.split '/' back) := by
  rcases join_cases front h with ⟨rfl, hjoin⟩ | ⟨rest, rfl, hjoin⟩ | hjoin
  · rw [hjoin]
    rfl
  · rw [hjoin, Text.split_append, Text.split_append, follow_append, follow_append]
    rfl
  · rw [hjoin, Text.split_append, follow_append]

theorem isAbsolute_join (front back : Text) :
    isAbsolute (join front back) = (isAbsolute front || isAbsolute back) := by
  cases hback : isAbsolute back with
  | true => rw [join_of_isAbsolute hback, hback, Bool.or_true]
  | false =>
      rw [Bool.or_false]
      by_cases hempty : front = []
      · rw [hempty, join_of_relative hback, if_pos (.inl rfl)]
        exact hback
      · rw [join_of_relative hback]
        split <;> exact isAbsolute_append _ hempty

theorem isAbsolute_join_left (h : isAbsolute front = true) (back : Text) :
    isAbsolute (join front back) = true := by
  rw [isAbsolute_join, h, Bool.true_or]

/-! ## The location of a path -/

/-- The location that a path means, seen from a root. -/
def place (root path : Text) : Location :=
  follow [] (Text.split '/' (join root path))

theorem place_of_isAbsolute (root : Text) (h : isAbsolute path = true) :
    place root path = follow [] (Text.split '/' path) := by
  rw [place, join_of_isAbsolute h]

theorem place_of_relative (root : Text) (h : isAbsolute path = false) :
    place root path = follow (follow [] (Text.split '/' root)) (Text.split '/' path) := by
  rw [place, follow_split_join h]

theorem place_join (root front : Text) (h : isAbsolute back = false) :
    place root (join front back) = follow (place root front) (Text.split '/' back) := by
  cases hfront : isAbsolute front with
  | true =>
      have hjoin := isAbsolute_join_left hfront back
      rw [place_of_isAbsolute root hjoin, place_of_isAbsolute root hfront, follow_split_join h]
  | false =>
      have hjoin : isAbsolute (join front back) = false := by rw [isAbsolute_join, hfront, h]; rfl
      rw [place_of_relative root hjoin, place_of_relative root hfront, follow_split_join h]

theorem place_join_self (h : isAbsolute root = true) (path : Text) :
    place root (join root path) = place root path := by
  have hjoin := isAbsolute_join_left h path
  rw [place_of_isAbsolute root hjoin]
  rfl

theorem IsName.isAbsolute (h : IsName name) : isAbsolute name = false := by
  rw [Bool.eq_false_iff]
  intro habsolute
  obtain ⟨rest, rfl⟩ := isAbsolute_iff.mp habsolute
  exact h.2.2.2 (List.mem_cons_self ..)

theorem IsName.split (h : IsName name) : Text.split '/' name = [name] :=
  Text.split_of_not_mem h.2.2.2

theorem place_join_name (root front : Text) (h : IsName name) :
    place root (join front name) = place root front ++ [name] := by
  rw [place_join root front h.isAbsolute, h.split, follow_name h, follow_nil]

theorem isName_of_mem_place (root path : Text) : ∀ name ∈ place root path, IsName name :=
  isName_of_mem_follow (List.forall_mem_nil _) fun _ => Text.not_mem_of_mem_split

/-! ## Directory and last component -/

theorem splitLast?_append {sep : Char} {tail : Text} (front : Text) (h : sep ∉ tail) :
    splitLast? sep (front ++ sep :: tail) = some (front, tail) := by
  have hother : ∀ c ∈ tail.reverse, decide (c ≠ sep) = true := fun c hc =>
    decide_eq_true fun heq => h (heq ▸ List.mem_reverse.mp hc)
  rw [splitLast?, List.reverse_append, List.reverse_cons, List.append_assoc, List.singleton_append,
    List.dropWhile_append_of_pos hother, List.takeWhile_append_of_pos hother]
  simp

theorem splitLast?_of_not_mem {sep : Char} (h : sep ∉ path) : splitLast? sep path = none := by
  have hall : path.reverse.dropWhile (· ≠ sep) = [] := List.dropWhile_eq_nil_iff.mpr fun c hc =>
    decide_eq_true fun heq => h (heq ▸ List.mem_reverse.mp hc)
  rw [splitLast?, hall]

/-- A text that holds a character is cut at its last occurrence. -/
theorem exists_splitLast? {sep : Char} (h : sep ∈ path) :
    ∃ front tail, path = front ++ sep :: tail ∧ sep ∉ tail ∧ splitLast? sep path = some (front, tail) := by
  obtain ⟨tail, front, hpath, htail⟩ := List.eq_append_cons_of_mem (List.mem_reverse.mpr h)
  have hreverse : path = front.reverse ++ sep :: tail.reverse := by
    rw [← List.reverse_reverse path, hpath, List.reverse_append, List.reverse_cons, List.append_assoc]
    rfl
  have htail' : sep ∉ tail.reverse := fun hmem => htail (List.mem_reverse.mp hmem)
  exact ⟨front.reverse, tail.reverse, hreverse, htail', hreverse ▸ splitLast?_append _ htail'⟩

theorem baseName_append (front : Text) (h : '/' ∉ back) : baseName (front ++ '/' :: back) = back := by
  rw [baseName, splitLast?_append front h]

theorem baseName_of_not_mem (h : '/' ∉ path) : baseName path = path := by
  rw [baseName, splitLast?_of_not_mem h]

theorem baseName_append_slash (front back : Text) :
    baseName (front ++ '/' :: back) = baseName back := by
  by_cases h : '/' ∈ back
  · obtain ⟨middle, tail, rfl, htail, -⟩ := exists_splitLast? h
    have heq : front ++ '/' :: (middle ++ '/' :: tail) = (front ++ '/' :: middle) ++ '/' :: tail := by
      simp
    rw [heq, baseName_append _ htail, baseName_append _ htail]
  · rw [baseName_append _ h, baseName_of_not_mem h]

theorem baseName_join (front back : Text) : baseName (join front back) = baseName back := by
  cases hback : isAbsolute back with
  | true => rw [join_of_isAbsolute hback]
  | false =>
      rcases join_cases front hback with ⟨-, hjoin⟩ | ⟨rest, -, hjoin⟩ | hjoin
      · rw [hjoin]
      · rw [hjoin, baseName_append_slash]
      · rw [hjoin, baseName_append_slash]

theorem exists_split_eq_concat (path : Text) :
    ∃ front, Text.split '/' path = front ++ [baseName path] := by
  by_cases h : '/' ∈ path
  · obtain ⟨front, tail, rfl, htail, -⟩ := exists_splitLast? h
    exact ⟨Text.split '/' front, by
      rw [baseName_append front htail, Text.split_append, Text.split_of_not_mem htail]⟩
  · exact ⟨[], by rw [baseName_of_not_mem h, Text.split_of_not_mem h]; rfl⟩

theorem not_mem_baseName (path : Text) : '/' ∉ baseName path := by
  by_cases h : '/' ∈ path
  · obtain ⟨front, tail, rfl, htail, -⟩ := exists_splitLast? h
    rwa [baseName_append front htail]
  · rwa [baseName_of_not_mem h]

theorem exists_eq_append_baseName (path : Text) : ∃ front, path = front ++ baseName path := by
  by_cases h : '/' ∈ path
  · obtain ⟨front, tail, rfl, htail, -⟩ := exists_splitLast? h
    exact ⟨front ++ ['/'], by rw [baseName_append front htail, List.append_assoc]; rfl⟩
  · exact ⟨[], by rw [baseName_of_not_mem h]; rfl⟩

theorem follow_split_slashes (front : Text) {slashes : Text} (h : ∀ c ∈ slashes, c = '/') :
    follow location (Text.split '/' (front ++ slashes)) = follow location (Text.split '/' front) := by
  induction slashes generalizing front location with
  | nil => rw [List.append_nil]
  | cons c rest ih =>
      have hrest : ∀ d ∈ rest, d = '/' := fun d hd => h d (List.mem_cons_of_mem _ hd)
      rw [h c (List.mem_cons_self ..), Text.split_append, follow_append]
      exact ih [] hrest

theorem dropTrailingSlashes_append (path : Text) :
    ∃ slashes, path = dropTrailingSlashes path ++ slashes ∧ ∀ c ∈ slashes, c = '/' :=
  ⟨path.rtakeWhile (· = '/'), (List.rdropWhile_append_rtakeWhile ..).symm, fun _ hc => by
    simpa using List.mem_rtakeWhile_imp hc⟩

theorem follow_dropTrailingSlashes (path : Text) :
    follow location (Text.split '/' (dropTrailingSlashes path)) =
      follow location (Text.split '/' path) := by
  obtain ⟨slashes, hpath, hslashes⟩ := dropTrailingSlashes_append path
  conv_rhs => rw [hpath, follow_split_slashes _ hslashes]

theorem directory_of_not_mem (h : '/' ∉ path) : directory path = [] := by
  rw [directory, splitLast?_of_not_mem h]

theorem directory_append (front : Text) (h : '/' ∉ back) :
    directory (front ++ '/' :: back) =
      if (front ++ ['/']).all (· = '/') then front ++ ['/'] else dropTrailingSlashes (front ++ ['/']) := by
  rw [directory, splitLast?_append front h]
  rfl

/-- Slashes are all that is taken off behind the directory. -/
theorem exists_directory_append_eq (front : Text) (h : '/' ∉ back) :
    ∃ slashes : Text, front ++ ['/'] = directory (front ++ '/' :: back) ++ slashes ∧
      ∀ c ∈ slashes, c = '/' := by
  rw [directory_append front h]
  split
  · exact ⟨[], (List.append_nil _).symm, List.forall_mem_nil _⟩
  · exact dropTrailingSlashes_append _

theorem follow_directory_append (front : Text) (h : '/' ∉ back) :
    follow location (Text.split '/' (directory (front ++ '/' :: back))) =
      follow location (Text.split '/' front) := by
  have hslash : follow location (Text.split '/' (front ++ ['/'])) =
      follow location (Text.split '/' front) :=
    follow_split_slashes front fun c hc => List.mem_singleton.mp hc
  rw [directory_append front h]
  split
  · exact hslash
  · rw [follow_dropTrailingSlashes, hslash]

/-- To follow a path is to follow its directory and then its last component. -/
theorem follow_directory (path : Text) :
    follow location (Text.split '/' path) =
      follow (follow location (Text.split '/' (directory path))) [baseName path] := by
  by_cases h : '/' ∈ path
  · obtain ⟨front, tail, rfl, htail, -⟩ := exists_splitLast? h
    rw [follow_directory_append front htail, baseName_append front htail, Text.split_append,
      follow_append, Text.split_of_not_mem htail]
  · rw [directory_of_not_mem h, baseName_of_not_mem h, Text.split_of_not_mem h]
    rfl

theorem isAbsolute_directory (path : Text) : isAbsolute (directory path) = isAbsolute path := by
  by_cases h : '/' ∈ path
  · obtain ⟨front, tail, rfl, htail, -⟩ := exists_splitLast? h
    have hslash : isAbsolute (front ++ ['/']) = isAbsolute (front ++ '/' :: tail) := by
      cases front with
      | nil => rfl
      | cons c rest => rw [List.cons_append, List.cons_append, isAbsolute_cons, isAbsolute_cons]
    rw [directory_append front htail, ← hslash]
    split
    · rfl
    · next hall =>
        obtain ⟨slashes, hpath, hslashes⟩ := dropTrailingSlashes_append (front ++ ['/'])
        have hne : dropTrailingSlashes (front ++ ['/']) ≠ [] := fun hnil => by
          rw [hnil, List.nil_append] at hpath
          rw [hpath] at hall
          exact hall (List.all_eq_true.mpr fun c hc => decide_eq_true (hslashes c hc))
        conv_rhs => rw [hpath]
        exact (isAbsolute_append slashes hne).symm
  · rw [directory_of_not_mem h]
    cases habsolute : isAbsolute path with
    | false => rfl
    | true =>
        obtain ⟨rest, rfl⟩ := isAbsolute_iff.mp habsolute
        exact absurd (List.mem_cons_self ..) h

theorem place_directory (root path : Text) :
    place root path = follow (place root (directory path)) [baseName path] := by
  cases habsolute : isAbsolute path with
  | true =>
      have hdirectory := (isAbsolute_directory path).trans habsolute
      rw [place_of_isAbsolute root habsolute, place_of_isAbsolute root hdirectory, follow_directory]
  | false =>
      have hdirectory := (isAbsolute_directory path).trans habsolute
      rw [place_of_relative root habsolute, place_of_relative root hdirectory, follow_directory]

end Path

/-! ## Ways on a disk -/

namespace Disk

variable {disk : Disk} {location found : Location}

theorem walk_append (parts more : List Text) :
    disk.walk location (parts ++ more) = disk.walk location parts >>= fun place => disk.walk place more := by
  induction parts generalizing location with
  | nil => rfl
  | cons part rest ih =>
      rw [List.cons_append, walk, walk]
      split
      · rfl
      · rfl
      · split
        · exact ih
        · split <;> exact ih

/-- A way leads nowhere else than where its components mean. -/
theorem eq_follow_of_walk : ∀ {parts : List Text} {location : Location},
    disk.walk location parts = .ok found → found = Path.follow location parts
  | [], _, h => (Except.ok.inj h).symm
  | part :: rest, location, h => by
      rw [walk] at h
      rw [Path.follow]
      split at h
      · cases h
      · cases h
      · split at h
        · next hstay => rw [if_pos hstay]; exact eq_follow_of_walk h
        · next hmove =>
            rw [if_neg hmove]
            split at h
            · next hup => rw [if_pos hup]; exact eq_follow_of_walk h
            · next hdown => rw [if_neg hdown]; exact eq_follow_of_walk h

theorem eq_place_of_locate {root path : Text} (h : disk.locate root path = .ok found) :
    found = Path.place root path := by
  rw [locate] at h
  split at h
  · cases h
  · split at h
    · cases h
    · exact eq_follow_of_walk h

/-- All that is above a location is a directory. -/
def IsReached (disk : Disk) (location : Location) : Prop :=
  ∀ above, above <+: location → above ≠ location → disk.item? above = some .directory

theorem IsReached.up (h : disk.IsReached location) : disk.IsReached location.dropLast := by
  intro above habove hne
  refine h above (habove.trans (List.dropLast_prefix _)) fun heq => hne ?_
  rw [heq] at habove ⊢
  exact habove.eq_of_length_le (by rw [List.length_dropLast]; exact Nat.sub_le ..)

theorem IsReached.down (h : disk.IsReached location)
    (hdirectory : disk.item? location = some .directory) (name : Text) :
    disk.IsReached (location ++ [name]) := by
  intro above habove hne
  rcases List.prefix_concat_iff.mp habove with heq | habove
  · exact absurd heq hne
  · by_cases heq : above = location
    · rw [heq, hdirectory]
    · exact h above habove heq

/-- A way goes through directories only. -/
theorem IsReached.walk : ∀ {parts : List Text} {location : Location}, disk.IsReached location →
    disk.walk location parts = .ok found → disk.IsReached found
  | [], _, h, hwalk => Except.ok.inj hwalk ▸ h
  | part :: rest, location, h, hwalk => by
      rw [Disk.walk] at hwalk
      split at hwalk
      · cases hwalk
      · cases hwalk
      · next hdirectory =>
          split at hwalk
          · exact h.walk hwalk
          · split at hwalk
            · exact h.up.walk hwalk
            · exact (h.down hdirectory part).walk hwalk

theorem isReached_root : disk.IsReached [] :=
  fun _ habove hne => absurd (List.prefix_nil.mp habove) hne

theorem isReached_of_locate {root path : Text} (h : disk.locate root path = .ok found) :
    disk.IsReached found :=
  isReached_root.walk (locate_eq_ok_iff.mp h).2.2

theorem IsReached.dropLast_isDirectory (h : disk.IsReached location)
    (hdirectory : disk.item? location = some .directory) :
    disk.item? location.dropLast = some .directory := by
  by_cases heq : location.dropLast = location
  · rw [heq, hdirectory]
  · exact h _ (List.dropLast_prefix _) heq

/-- A path that leads to no directory ends with a name in the directory before it. -/
theorem isName_baseName_of_locate {root path : Text} (h : disk.locate root path = .ok found)
    (hitem : disk.item? found ≠ some .directory) : Path.IsName (Path.baseName path) ∧
      found = Path.place root (Path.directory path) ++ [Path.baseName path] := by
  have hname : Path.IsName (Path.baseName path) := by
    obtain ⟨front, hsplit⟩ := Path.exists_split_eq_concat (Path.join root path)
    obtain ⟨-, -, hwalk⟩ := locate_eq_ok_iff.mp h
    rw [hsplit, walk_append, Path.baseName_join] at hwalk
    obtain ⟨above, habove, hwalk⟩ := bind_eq_ok_iff.mp hwalk
    have hreached : disk.IsReached above := IsReached.walk isReached_root habove
    rw [walk] at hwalk
    split at hwalk
    · cases hwalk
    · cases hwalk
    · next hdirectory =>
        -- to stay or to go up ends at a directory
        split at hwalk
        · cases hwalk
          exact absurd hdirectory hitem
        · next hmove =>
            split at hwalk
            · cases hwalk
              exact absurd (hreached.dropLast_isDirectory hdirectory) hitem
            · next hup =>
                exact ⟨fun h => hmove (Path.stays_iff.mpr (.inl h)),
                  fun h => hmove (Path.stays_iff.mpr (.inr h)), hup, Path.not_mem_baseName path⟩
  have hplace := eq_place_of_locate h
  rw [Path.place_directory, Path.follow_name hname, Path.follow_nil] at hplace
  exact ⟨hname, hplace⟩

theorem isName_baseName_of_file {root path : Text} {content : Bytes}
    (h : disk.locate root path = .ok found) (hfile : disk.item? found = some (.file content)) :
    Path.IsName (Path.baseName path) ∧
      found = Path.place root (Path.directory path) ++ [Path.baseName path] :=
  isName_baseName_of_locate h (by rw [hfile]; exact nofun)

end Disk

end MessageForge
