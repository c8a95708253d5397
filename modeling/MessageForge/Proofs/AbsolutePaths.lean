import Mathlib.Data.List.Basic
import MessageForge.Proofs.Paths

/-!
# Absolute and relative paths

To make a path absolute is to spell out the location that it means. A relative
path from a directory to what lies below it goes down only, and the common
directory of several paths is at or above each of them.
-/

namespace MessageForge

namespace Path

variable {location : Location} {root path : Text}

/-! ## Absolute paths -/

/-- To fold parent components of an absolute path is to follow the path. -/
theorem foldParents_true (parts : List Text) : foldParents true parts = follow [] parts := by
  unfold foldParents
  extract_lets step
  -- nothing that goes up is ever kept, so that it always takes back a name
  have hstep : ∀ (part : Text) (done : List Text), (".." : Text) ∉ done →
      (step done part).reverse = follow done.reverse [part] ∧ (".." : Text) ∉ step done part := by
    intro part done hdone
    simp only [step, follow]
    split
    · exact ⟨rfl, hdone⟩
    · split
      · cases done with
        | nil => exact ⟨rfl, List.not_mem_nil⟩
        | cons last front =>
            have hlast : last ≠ ".." := fun heq => hdone (heq ▸ List.mem_cons_self ..)
            dsimp only
            rw [if_neg hlast, List.reverse_cons, List.dropLast_concat]
            exact ⟨rfl, fun hmem => hdone (List.mem_cons_of_mem _ hmem)⟩
      · next hup =>
          exact ⟨List.reverse_cons, fun hmem => (List.mem_cons.mp hmem).elim (Ne.symm hup) hdone⟩
  have hfold : ∀ (rest done : List Text), (".." : Text) ∉ done →
      (rest.foldl step done).reverse = follow done.reverse rest := by
    intro rest
    induction rest with
    | nil => exact fun _ _ => rfl
    | cons part rest ih =>
        intro done hdone
        obtain ⟨heq, hkept⟩ := hstep part done hdone
        rw [List.foldl_cons, ih _ hkept, heq, ← follow_append]
        rfl
  exact hfold parts [] List.not_mem_nil

/-- Whether a component is followed downwards, unless it goes up. -/
def isKept (part : Text) : Bool :=
  !part.isEmpty && part ≠ "."

theorem isKept_iff {part : Text} : isKept part = true ↔ part ≠ [] ∧ part ≠ "." := by
  simp [isKept]

theorem follow_eq_append_filter {parts : List Text} (h : (".." : Text) ∉ parts) :
    follow location parts = location ++ parts.filter isKept := by
  induction parts generalizing location with
  | nil => rw [follow_nil, List.filter_nil, List.append_nil]
  | cons part rest ih =>
      have hpart : part ≠ ".." := fun heq => h (heq ▸ List.mem_cons_self ..)
      have hrest : (".." : Text) ∉ rest := fun hmem => h (List.mem_cons_of_mem _ hmem)
      rw [follow, if_neg hpart]
      split
      · next hstay =>
          have hdropped : ¬ isKept part = true := fun hkept =>
            (stays_iff.mp hstay).elim (isKept_iff.mp hkept).1 (isKept_iff.mp hkept).2
          rw [ih hrest, List.filter_cons_of_neg hdropped]
      · next hmove =>
          have hkept : isKept part = true := isKept_iff.mpr
            ⟨fun h => hmove (stays_iff.mpr (.inl h)), fun h => hmove (stays_iff.mpr (.inr h))⟩
          rw [ih hrest, List.filter_cons_of_pos hkept, List.append_assoc]
          rfl

/-- Components that do not go up lead further down. -/
theorem prefix_follow {parts : List Text} (h : (".." : Text) ∉ parts) :
    location <+: follow location parts := by
  rw [follow_eq_append_filter h]
  exact List.prefix_append ..

/-! ## Slashes in front and names behind -/

variable {slashes text : Text} {names : List Text}

theorem follow_slashes_append (h : ∀ c ∈ slashes, c = '/') :
    follow location (Text.split '/' (slashes ++ text)) = follow location (Text.split '/' text) := by
  induction slashes with
  | nil => rfl
  | cons c rest ih =>
      rw [List.cons_append, h c (List.mem_cons_self ..), Text.split, if_pos rfl, follow_empty]
      exact ih fun d hd => h d (List.mem_cons_of_mem _ hd)

theorem parts_slashes_append (h : ∀ c ∈ slashes, c = '/') :
    parts (slashes ++ text) = parts text := by
  induction slashes with
  | nil => rfl
  | cons c rest ih =>
      rw [List.cons_append, h c (List.mem_cons_self ..), parts, Text.split, if_pos rfl]
      exact ih fun d hd => h d (List.mem_cons_of_mem _ hd)

theorem split_join_names (h : ∀ name ∈ names, IsName name) (hne : names ≠ []) :
    Text.split '/' (Text.join "/" names) = names :=
  Text.split_join hne fun name hname => (h name hname).2.2.2

theorem follow_join_names (h : ∀ name ∈ names, IsName name) :
    follow location (Text.split '/' (Text.join "/" names)) = location ++ names := by
  by_cases hne : names = []
  · rw [hne, List.append_nil]
    rfl
  · rw [split_join_names h hne, follow_names h]

theorem parts_join_names (h : ∀ name ∈ names, IsName name) : parts (Text.join "/" names) = names := by
  by_cases hne : names = []
  · rw [hne]
    rfl
  · rw [parts, split_join_names h hne]
    exact List.filter_eq_self.mpr fun name hname => by simpa using (h name hname).1

theorem isAbsolute_slashes_append (hne : slashes ≠ []) (h : ∀ c ∈ slashes, c = '/') :
    isAbsolute (slashes ++ text) = true := by
  cases slashes with
  | nil => exact absurd rfl hne
  | cons c rest => rw [List.cons_append, isAbsolute_cons, h c (List.mem_cons_self ..)]; rfl

theorem not_mem_split_slashes_append (h : ∀ c ∈ slashes, c = '/')
    (hnames : ∀ name ∈ names, IsName name) :
    (".." : Text) ∉ Text.split '/' (slashes ++ Text.join "/" names) := by
  induction slashes with
  | nil =>
      by_cases hne : names = []
      · rw [hne]
        decide
      · rw [List.nil_append, split_join_names hnames hne]
        exact fun hmem => (hnames _ hmem).2.2.1 rfl
  | cons c rest ih =>
      rw [List.cons_append, h c (List.mem_cons_self ..), Text.split, if_pos rfl]
      intro hmem
      rcases List.mem_cons.mp hmem with heq | hmem
      · cases heq
      · exact ih (fun d hd => h d (List.mem_cons_of_mem _ hd)) hmem

/-- An absolute path spells its location out behind one or two slashes. -/
theorem exists_absolute_eq (hroot : isAbsolute root = true) (path : Text) :
    ∃ slashes : Text, slashes ≠ [] ∧ (∀ c ∈ slashes, c = '/') ∧
      absolute root path = slashes ++ Text.join "/" (place root path) := by
  have hjoin : isAbsolute (join root path) = true := by rw [isAbsolute_join, hroot]; rfl
  have habsolute : absolute root path = normalize (join root path) := by
    rw [absolute]
    split
    · next h => rw [join_of_isAbsolute h]
    · rfl
  have hslashes : rootOf (join root path) ≠ [] ∧ ∀ c ∈ rootOf (join root path), c = '/' := by
    obtain ⟨rest, heq⟩ := isAbsolute_iff.mp hjoin
    rw [heq]
    unfold rootOf
    split
    · exact ⟨by decide, by simp⟩
    · exact ⟨by decide, by simp⟩
    · exact ⟨by decide, by simp⟩
    · next h => exact absurd rfl (h rest)
  obtain ⟨hne, hall⟩ := hslashes
  refine ⟨rootOf (join root path), hne, hall, ?_⟩
  have hempty : (rootOf (join root path)).isEmpty = false := by
    rwa [← Bool.not_eq_true, List.isEmpty_iff]
  have hnormal : (rootOf (join root path) ++ Text.join "/" (place root path)).isEmpty = false := by
    rw [← Bool.not_eq_true, List.isEmpty_iff]
    exact List.append_ne_nil_of_left_ne_nil hne _
  rw [habsolute, normalize, hempty, Bool.not_false, foldParents_true]
  show (if (rootOf (join root path) ++ Text.join "/" (place root path)).isEmpty then _ else _) = _
  rw [hnormal]
  rfl

theorem parts_absolute (hroot : isAbsolute root = true) (path : Text) :
    parts (absolute root path) = place root path := by
  obtain ⟨slashes, -, hslashes, heq⟩ := exists_absolute_eq hroot path
  rw [heq, parts_slashes_append hslashes, parts_join_names (isName_of_mem_place root path)]

theorem isAbsolute_absolute (hroot : isAbsolute root = true) (path : Text) :
    isAbsolute (absolute root path) = true := by
  obtain ⟨slashes, hne, hslashes, heq⟩ := exists_absolute_eq hroot path
  rw [heq, isAbsolute_slashes_append hne hslashes]

theorem not_mem_split_absolute (hroot : isAbsolute root = true) (path : Text) :
    (".." : Text) ∉ Text.split '/' (absolute root path) := by
  obtain ⟨slashes, -, hslashes, heq⟩ := exists_absolute_eq hroot path
  rw [heq]
  exact not_mem_split_slashes_append hslashes (isName_of_mem_place root path)

theorem place_absolute (hroot : isAbsolute root = true) (path : Text) :
    place root (absolute root path) = place root path := by
  obtain ⟨slashes, hne, hslashes, heq⟩ := exists_absolute_eq hroot path
  rw [place_of_isAbsolute root (isAbsolute_absolute hroot path), heq, follow_slashes_append hslashes,
    follow_join_names (isName_of_mem_place root path)]
  rfl

/-! ## Relative paths -/

theorem commonPrefix_prefix_left : ∀ first second : List Text, commonPrefix first second <+: first
  | [], _ => List.nil_prefix
  | _ :: _, [] => List.nil_prefix
  | a :: first, b :: second => by
      rw [commonPrefix]
      split
      · exact List.cons_prefix_cons.mpr ⟨rfl, commonPrefix_prefix_left first second⟩
      · exact List.nil_prefix

theorem commonPrefix_prefix_right : ∀ first second : List Text, commonPrefix first second <+: second
  | [], _ => List.nil_prefix
  | _ :: _, [] => List.nil_prefix
  | a :: first, b :: second => by
      rw [commonPrefix]
      split
      · next heq => exact List.cons_prefix_cons.mpr ⟨heq, commonPrefix_prefix_right first second⟩
      · exact List.nil_prefix

theorem commonPrefix_append : ∀ front back : List Text, commonPrefix front (front ++ back) = front
  | [], _ => rfl
  | a :: front, back => by rw [List.cons_append, commonPrefix, if_pos rfl, commonPrefix_append]

/-- From a directory down to what lies below it there is no way up. -/
theorem relative_of_append {start : Text} {below : List Text} (hroot : isAbsolute root = true)
    (h : place root path = place root start ++ below) :
    relative root path start = if below = [] then ("." : Text) else Text.join "/" below := by
  rw [relative, parts_absolute hroot, parts_absolute hroot, h, commonPrefix_append, Nat.sub_self,
    List.drop_left]
  simp only [List.replicate_zero, List.nil_append, List.isEmpty_iff]

theorem isAbsolute_join_names (h : ∀ name ∈ names, IsName name) :
    isAbsolute (Text.join "/" names) = false := by
  cases names with
  | nil => rfl
  | cons name rest =>
      have hname := h name (List.mem_cons_self ..)
      cases rest with
      | nil => exact hname.isAbsolute
      | cons next rest =>
          show isAbsolute (name ++ ['/'] ++ Text.join "/" (next :: rest)) = false
          rw [List.append_assoc, isAbsolute_append _ hname.1, hname.isAbsolute]

/-- To follow the directory of a way down is to go down one step less. -/
theorem follow_directory_join_names (h : ∀ name ∈ names, IsName name) (hne : names ≠ []) :
    follow location (Text.split '/' (directory (Text.join "/" names))) =
      location ++ names.dropLast := by
  obtain ⟨front, last, rfl⟩ := (List.eq_nil_or_concat' names).resolve_left hne
  have hlast : '/' ∉ last := (h last (by simp)).2.2.2
  rw [List.dropLast_concat]
  by_cases hfront : front = []
  · rw [hfront, List.nil_append, Text.join, directory_of_not_mem hlast, List.append_nil]
    rfl
  · rw [Text.join_append _ (List.cons_ne_nil _ _) hfront]
    show follow location (Text.split '/' (directory (Text.join "/" front ++ '/' :: last))) = _
    rw [follow_directory_append _ hlast,
      follow_join_names fun name hname => h name (List.mem_append_left _ hname)]

/-- The directory that mirrors, below another directory, where a path lies. -/
theorem place_join_directory_relative {start : Text} {below : List Text} (output : Text)
    (hroot : isAbsolute root = true) (h : place root path = place root start ++ below) :
    place root (join output (directory (relative root path start))) =
      place root output ++ below.dropLast := by
  have hnames : ∀ name ∈ below, IsName name := fun name hname =>
    isName_of_mem_place root path name (h ▸ List.mem_append_right _ hname)
  rw [relative_of_append hroot h]
  split
  · next hnil =>
      have hhere : directory ("." : Text) = [] := directory_of_not_mem (by decide)
      rw [hnil, hhere, place_join root output rfl, List.dropLast_nil, List.append_nil]
      rfl
  · next hne =>
      rw [place_join, follow_directory_join_names hnames hne]
      rw [isAbsolute_directory, isAbsolute_join_names hnames]

/-! ## Directories above several paths -/

theorem foldl_commonPrefix_isPrefix : ∀ (rest : List (List Text)) (first : List Text),
    rest.foldl commonPrefix first <+: first ∧ ∀ parts ∈ rest, rest.foldl commonPrefix first <+: parts
  | [], first => ⟨List.prefix_rfl, List.forall_mem_nil _⟩
  | next :: rest, first => by
      obtain ⟨hfold, hrest⟩ := foldl_commonPrefix_isPrefix rest (commonPrefix first next)
      exact ⟨hfold.trans (commonPrefix_prefix_left ..), List.forall_mem_cons.mpr
        ⟨hfold.trans (commonPrefix_prefix_right ..), hrest⟩⟩

/-- The common directory is at or above each of the paths. -/
theorem place_common_isPrefix (root : Text) {paths : List Text}
    (h : ∀ path ∈ paths, isAbsolute path = true ∧ (".." : Text) ∉ Text.split '/' path) :
    ∀ path ∈ paths, place root (common paths) <+: place root path := by
  have hplace : ∀ path ∈ paths, place root path = (Text.split '/' path).filter isKept := by
    intro path hpath
    obtain ⟨habsolute, hup⟩ := h path hpath
    rw [place_of_isAbsolute root habsolute, follow_eq_append_filter hup, List.nil_append]
  cases paths with
  | nil => exact List.forall_mem_nil _
  | cons first rest =>
      let shared := (rest.map fun path => (Text.split '/' path).filter isKept).foldl commonPrefix
        ((Text.split '/' first).filter isKept)
      have hcommon : common (first :: rest) = "/" ++ Text.join "/" shared := rfl
      obtain ⟨hfirst, hrest⟩ := foldl_commonPrefix_isPrefix
        (rest.map fun path => (Text.split '/' path).filter isKept)
        ((Text.split '/' first).filter isKept)
      have hnames : ∀ name ∈ shared, IsName name := fun name hname =>
        isName_of_mem_place root first name (hplace first (List.mem_cons_self ..) ▸ hfirst.subset hname)
      have hshared : place root (common (first :: rest)) = shared := by
        have hslash : ∀ c ∈ ("/" : Text), c = '/' := by simp
        rw [hcommon, place_of_isAbsolute root (isAbsolute_slashes_append (by decide) hslash),
          follow_slashes_append hslash, follow_join_names hnames]
        rfl
      rw [hshared]
      intro path hpath
      rw [hplace path hpath]
      rcases List.mem_cons.mp hpath with rfl | hpath
      · exact hfirst
      · exact hrest _ (List.mem_map_of_mem hpath)

end Path

end MessageForge
