import Mathlib.Data.List.Forall2
import Mathlib.Logic.Relation
import MessageForge.Proofs.Selections

/-!
# Expressions in another order

The expressions to search for and those to exclude count as sets: what a run
does depends neither on their order nor on how often one of them is given. They
come in at two places, where files are selected and where the layout of an
output directory starts from. The first takes the union of what all of them
find, the second the deepest directory above all of them, and neither asks for
more than the members of a list.
-/

namespace MessageForge

variable {ε α β : Type}

/-! ## Outcomes that are alike -/

/-- Two outcomes with the same fault, or with values that are related. -/
inductive Alike (related : α → α → Prop) : Except ε α → Except ε α → Prop
  | ok {value other : α} (h : related value other) : Alike related (.ok value) (.ok other)
  | error (fault : ε) : Alike related (.error fault) (.error fault)

namespace Alike

variable {related : α → α → Prop} {first second : Except ε α}

theorem refl (hrefl : ∀ value, related value value) (outcome : Except ε α) :
    Alike related outcome outcome := by
  cases outcome with
  | ok value => exact .ok (hrefl value)
  | error fault => exact .error fault

theorem bind {related' : β → β → Prop} {next next' : α → Except ε β} (h : Alike related first second)
    (hnext : ∀ value other, related value other → Alike related' (next value) (next' other)) :
    Alike related' (first >>= next) (second >>= next') := by
  cases h with
  | ok hvalues => exact hnext _ _ hvalues
  | error fault => exact .error fault

theorem eq (h : Alike Eq first second) : first = second := by
  cases h with
  | ok hvalues => rw [hvalues]
  | error fault => rfl

end Alike

/-! ## Lists with the same members -/

/-- Lists that differ at most in the order and number of what is in them. -/
def SameMembers (first second : List α) : Prop :=
  ∀ item, item ∈ first ↔ item ∈ second

namespace SameMembers

variable {first second : List α}

theorem refl (items : List α) : SameMembers items items :=
  fun _ => Iff.rfl

theorem symm (h : SameMembers first second) : SameMembers second first :=
  fun item => (h item).symm

theorem map (h : SameMembers first second) (f : α → β) :
    SameMembers (first.map f) (second.map f) := by
  intro item
  rw [List.mem_map, List.mem_map]
  exact exists_congr fun origin => and_congr_left fun _ => h origin

theorem filter (h : SameMembers first second) (keeps : α → Bool) :
    SameMembers (first.filter keeps) (second.filter keeps) := by
  intro item
  rw [List.mem_filter, List.mem_filter, h item]

theorem append_right (h : SameMembers first second) (back : List α) :
    SameMembers (first ++ back) (second ++ back) := by
  intro item
  rw [List.mem_append, List.mem_append, h item]

theorem eq_nil_iff (h : SameMembers first second) : first = [] ↔ second = [] := by
  rw [List.eq_nil_iff_forall_not_mem, List.eq_nil_iff_forall_not_mem]
  exact forall_congr' fun item => not_congr (h item)

theorem isEmpty (h : SameMembers first second) : first.isEmpty = second.isEmpty := by
  rw [Bool.eq_iff_iff, List.isEmpty_iff, List.isEmpty_iff]
  exact h.eq_nil_iff

end SameMembers

/-! ## What lookups are refused for -/

/-- If it is refused at all, then for a null character in a path. -/
def RefusesNull (lookup : Except FileFault α) : Prop :=
  ∀ fault, lookup = .error fault → fault = .nullCharacter

namespace RefusesNull

theorem ok (value : α) : RefusesNull (.ok value) := by
  rintro fault ⟨⟩

theorem bind {lookup : Except FileFault α} {next : α → Except FileFault β} (h : RefusesNull lookup)
    (hnext : ∀ value, lookup = .ok value → RefusesNull (next value)) :
    RefusesNull (lookup >>= next) := by
  intro fault hfault
  cases lookup with
  | ok value => exact hnext value rfl fault hfault
  | error first =>
      cases hfault
      exact h fault rfl

theorem mapM {lookup : α → Except FileFault β} {items : List α}
    (h : ∀ item, RefusesNull (lookup item)) : RefusesNull (items.mapM lookup) := by
  induction items with
  | nil => exact .ok []
  | cons item rest ih =>
      rw [List.mapM_cons]
      exact (h item).bind fun _ _ => ih.bind fun _ _ => .ok _

end RefusesNull

/-- What is gathered by lookups depends on the members of a list alone, if the
lookups are all refused for the same. -/
theorem alike_gather {lookup : α → Except FileFault (List β)} (hlookup : ∀ item, RefusesNull (lookup item))
    {items others : List α} (h : SameMembers items others) :
    Alike SameMembers (do return (← items.mapM lookup).flatten)
      (do return (← others.mapM lookup).flatten) := by
  have hthrough : ∀ {items others : List α} {groups : List (List β)}, SameMembers items others →
      items.mapM lookup = .ok groups → ∃ groups', others.mapM lookup = .ok groups' := by
    intro items others groups h hgroups
    refine exists_mapM_eq_ok fun item hitem => ?_
    obtain ⟨group, -, hgroup⟩ := exists_mem_of_mapM_eq_ok hgroups item ((h item).mpr hitem)
    exact ⟨group, hgroup⟩
  cases hitems : items.mapM lookup with
  | ok groups =>
      obtain ⟨groups', hothers⟩ := hthrough h hitems
      rw [hothers]
      refine Alike.ok fun result => ?_
      rw [mem_flatten_of_mapM_eq_ok hitems, mem_flatten_of_mapM_eq_ok hothers]
      exact exists_congr fun item => and_congr_left fun _ => h item
  | error fault =>
      cases hothers : others.mapM lookup with
      | ok groups' =>
          obtain ⟨groups, hgroups⟩ := hthrough h.symm hothers
          rw [hitems] at hgroups
          cases hgroups
      | error fault' =>
          -- there is one fault only, so that it does not matter which lookup is first
          obtain rfl := RefusesNull.mapM hlookup fault hitems
          obtain rfl := RefusesNull.mapM hlookup fault' hothers
          exact .error _

namespace Disk

variable {disk : Disk} {root : Text}

theorem refusesNull_entries (directory : Text) : RefusesNull (disk.entries root directory) := by
  intro fault hfault
  rw [entries] at hfault
  split at hfault
  · exact (Except.error.inj hfault).symm
  · cases hfault
  · cases hfault

theorem refusesNull_descendants (directoriesOnly : Bool) (fuel : Nat) (directory : Text) :
    RefusesNull (disk.descendants root directoriesOnly fuel directory) := by
  induction fuel generalizing directory with
  | zero => exact .ok []
  | succ fuel ih =>
      rw [descendants]
      refine (refusesNull_entries directory).bind fun names _ => ?_
      refine (RefusesNull.mapM fun name => ?_).bind fun _ _ => .ok _
      exact (ih _).bind fun _ _ => .ok _

theorem refusesNull_matchesIn (recursive directoriesOnly : Bool) (directory component : Text) :
    RefusesNull (disk.matchesIn root recursive directoriesOnly directory component) := by
  rw [matchesIn]
  split
  · split
    · exact .ok _
    · exact .ok _
  · split
    · exact (refusesNull_descendants _ _ _).bind fun _ _ => .ok _
    · exact (refusesNull_entries directory).bind fun _ _ => .ok _

theorem refusesNull_expandFrom (recursive : Bool) (fuel : Nat) (directoriesOnly : Bool)
    (pattern : Text) :
    RefusesNull (disk.expandFrom root recursive fuel directoriesOnly pattern) := by
  induction fuel generalizing directoriesOnly pattern with
  | zero => exact .ok []
  | succ fuel ih =>
      rw [expandFrom]
      dsimp only
      split
      · exact .ok _
      · have hmatches : ∀ directories : List Text, RefusesNull (do
            let found ← directories.mapM fun place => do
              let names ← disk.matchesIn root recursive directoriesOnly place (Path.baseName pattern)
              return names.map (Path.join place)
            return found.flatten) := by
          intro directories
          refine (RefusesNull.mapM fun place => ?_).bind fun _ _ => .ok _
          exact (refusesNull_matchesIn _ _ _ _).bind fun _ _ => .ok _
        split
        · exact (ih _ _).bind fun directories _ => hmatches directories
        · exact hmatches [_]

theorem refusesNull_declarationFilesBelow (fuel : Nat) (directory : Text) :
    RefusesNull (disk.declarationFilesBelow root fuel directory) := by
  induction fuel generalizing directory with
  | zero => exact .ok []
  | succ fuel ih =>
      rw [declarationFilesBelow]
      refine (refusesNull_entries directory).bind fun names _ => ?_
      refine (RefusesNull.mapM fun name => ?_).bind fun _ _ => .ok _
      dsimp only
      split
      · exact ih _
      · exact .ok _

/-- A directory that is there can be listed. -/
theorem refusesNull_declarationFiles (recursive : Bool) {directory : Text}
    (h : disk.isDirectory root directory = true) :
    RefusesNull (disk.declarationFiles root recursive directory) := by
  rw [declarationFiles]
  split
  · exact refusesNull_declarationFilesBelow _ _
  · obtain ⟨location, hlocate, hitem⟩ := isDirectory_iff.mp h
    have hlist : disk.list root directory = .ok (disk.namesIn location) :=
      list_eq_ok_iff.mpr ⟨location, hlocate, hitem, rfl⟩
    rw [hlist, ok_bind]
    exact .ok _

end Disk

/-! ## The directory above all -/

namespace Path

theorem isPrefix_commonPrefix_iff {shared first second : List Text} :
    shared <+: commonPrefix first second ↔ shared <+: first ∧ shared <+: second := by
  constructor
  · intro h
    exact ⟨h.trans (commonPrefix_prefix_left first second),
      h.trans (commonPrefix_prefix_right first second)⟩
  · rintro ⟨⟨front, rfl⟩, back, rfl⟩
    induction shared with
    | nil => exact List.nil_prefix
    | cons part rest ih =>
        rw [List.cons_append, List.cons_append, commonPrefix, if_pos rfl]
        exact List.cons_prefix_cons.mpr ⟨rfl, ih⟩

/-- What is common to a list of ways is at the front of each of them, and
everything else that is at the front of each is at its own front. -/
theorem isPrefix_foldl_commonPrefix_iff {shared first : List Text} {rest : List (List Text)} :
    shared <+: rest.foldl commonPrefix first ↔ ∀ parts ∈ first :: rest, shared <+: parts := by
  induction rest generalizing first with
  | nil => simp
  | cons next rest ih =>
      rw [List.foldl_cons, ih]
      simp only [List.forall_mem_cons, isPrefix_commonPrefix_iff, and_assoc]

theorem foldl_commonPrefix_congr {first first' : List Text} {rest rest' : List (List Text)}
    (h : SameMembers (first :: rest) (first' :: rest')) :
    rest.foldl commonPrefix first = rest'.foldl commonPrefix first' := by
  have hsame : ∀ shared, shared <+: rest.foldl commonPrefix first ↔
      shared <+: rest'.foldl commonPrefix first' := by
    intro shared
    rw [isPrefix_foldl_commonPrefix_iff, isPrefix_foldl_commonPrefix_iff]
    exact forall_congr' fun parts => imp_congr_left (h parts)
  have hleft := (hsame _).mp List.prefix_rfl
  have hright := (hsame _).mpr List.prefix_rfl
  exact hleft.eq_of_length_le hright.length_le

theorem common_congr {paths others : List Text} (h : SameMembers paths others) :
    common paths = common others := by
  cases paths with
  | nil => rw [h.eq_nil_iff.mp rfl]
  | cons first rest =>
      cases others with
      | nil => cases h.eq_nil_iff.mpr rfl
      | cons first' rest' =>
          have hparts := h.map fun path : Text =>
            (Text.split '/' path).filter fun part : Text => !part.isEmpty && part ≠ "."
          rw [List.map_cons, List.map_cons] at hparts
          exact congrArg (fun parts => "/" ++ Text.join "/" parts) (foldl_commonPrefix_congr hparts)

end Path

theorem Placement.commonBase_congr (root : Text) {patterns others : List Text}
    (h : SameMembers patterns others) (found : List Text) :
    commonBase root patterns found = commonBase root others found := by
  have hbases := (h.map patternBase).filter (!·.isEmpty)
  rw [commonBase, commonBase, hbases.isEmpty, Path.common_congr (hbases.map _)]

/-! ## Runs with other expressions -/

/-- Options that differ at most in the order and number of the expressions to
search for and of those to exclude. -/
structure Options.SameExpressions (options other : Options) : Prop where
  paths : SameMembers options.paths other.paths
  excludes : SameMembers options.excludes other.excludes
  clean : options.clean = other.clean
  outputDirectory : options.outputDirectory = other.outputDirectory
  importPaths : options.importPaths = other.importPaths
  skipChecker : options.skipChecker = other.skipChecker
  verbose : options.verbose = other.verbose
  recursive : options.recursive = other.recursive

namespace Options.SameExpressions

variable {options other : Options}

theorem refl (options : Options) : options.SameExpressions options :=
  ⟨.refl _, .refl _, rfl, rfl, rfl, rfl, rfl, rfl⟩

theorem excludedPaths_alike (h : options.SameExpressions other) (disk : Disk) (root : Text) :
    Alike SameMembers (excludedPaths disk root options) (excludedPaths disk root other) := by
  rw [excludedPaths, excludedPaths, h.recursive]
  refine alike_gather (fun pattern => ?_) h.excludes
  dsimp only
  split
  · exact .ok _
  · exact disk.refusesNull_expandFrom _ _ _ _

theorem searchedPaths_alike (h : options.SameExpressions other) (disk : Disk) (root : Text) :
    Alike SameMembers (searchedPaths disk root options) (searchedPaths disk root other) := by
  rw [searchedPaths, searchedPaths, h.recursive]
  refine alike_gather (fun pattern => ?_) h.paths
  dsimp only
  split
  · next hdirectory => exact disk.refusesNull_declarationFiles _ hdirectory
  · exact disk.refusesNull_expandFrom _ _ _ _

/-- Which files are selected depends on the expressions as sets. -/
theorem selectedPaths_eq (h : options.SameExpressions other) (disk : Disk) (root : Text) :
    selectedPaths disk root options = selectedPaths disk root other := by
  refine Alike.eq ((excludedPaths_alike h disk root).bind fun excluded excluded' hexcluded => ?_)
  refine (searchedPaths_alike h disk root).bind fun searched searched' hsearched => ?_
  refine .ok (filter_sortedSet_congr fun path => ?_)
  have hcontains : excluded.contains path = excluded'.contains path := by
    rw [Bool.eq_iff_iff, List.contains_iff_mem, List.contains_iff_mem]
    exact hexcluded path
  rw [hsearched path, hcontains]

theorem clean_eq (setting : Setting) (h : options.SameExpressions other) :
    MessageForge.clean setting options = MessageForge.clean setting other := by
  have hcleaned : ∀ disk, cleanedPaths disk setting.root options =
      cleanedPaths disk setting.root other := by
    intro disk
    rw [cleanedPaths, cleanedPaths, h.clean, h.recursive]
  unfold MessageForge.clean
  simp only [hcleaned]

theorem writePhase_eq (setting : Setting) (h : options.SameExpressions other) (paths : List Text)
    (readings : List Reading) :
    writePhase setting options paths readings = writePhase setting other paths readings := by
  unfold MessageForge.writePhase
  rw [h.outputDirectory, Placement.commonBase_congr _ h.paths]

theorem run_eq (setting : Setting) (h : options.SameExpressions other) :
    run setting options = run setting other := by
  unfold MessageForge.run
  rw [clean_eq setting h, h.importPaths, h.skipChecker]
  simp only [selectedPaths_eq h, writePhase_eq setting h]

end Options.SameExpressions

/-! ## Markers in another order -/

namespace Disk

variable {disk : Disk}

/-- The disk with an empty file at a location, unless there is something. -/
def marked (disk : Disk) (location : Location) : Disk :=
  if (disk.item? location).isSome then disk else disk.put location (.file [])

theorem item?_marked (location place : Location) : (disk.marked location).item? place =
    if place = location then (disk.item? place).or (some (.file [])) else disk.item? place := by
  rw [marked]
  cases hitem : disk.item? location with
  | some item =>
      rw [Option.isSome_some, if_pos rfl]
      split
      · next hplace => rw [hplace, hitem, Option.some_or]
      · rfl
  | none =>
      have hne : location ≠ [] := fun hroot => by
        rw [hroot, item?_root] at hitem
        cases hitem
      rw [Option.isSome_none, if_neg Bool.false_ne_true, item?_put hne]
      split
      · next hplace => rw [hplace, hitem, Option.none_or]
      · rfl

theorem item?_marked_eq_directory_iff {location place : Location} :
    (disk.marked location).item? place = some .directory ↔ disk.item? place = some .directory := by
  rw [item?_marked]
  split
  · cases disk.item? place <;> simp
  · exact Iff.rfl

/-- A marker is in no way, since there was nothing in its place. -/
theorem locate_marked {root path : Text} {location found : Location} :
    (disk.marked location).locate root path = .ok found ↔ disk.locate root path = .ok found :=
  ⟨KeepsDirectories.locate fun _ => item?_marked_eq_directory_iff.mp,
    KeepsDirectories.locate fun _ => item?_marked_eq_directory_iff.mpr⟩

/-- What several markers leave at a place depends on the places alone. -/
theorem item?_foldl_marked (place : Location) : ∀ {locations : List Location} {disk : Disk},
    (locations.foldl marked disk).item? place =
      if place ∈ locations then (disk.item? place).or (some (.file [])) else disk.item? place
  | [], _ => by rw [List.foldl_nil, if_neg List.not_mem_nil]
  | location :: rest, disk => by
      rw [List.foldl_cons, item?_foldl_marked place, item?_marked]
      by_cases hplace : place = location
      · rw [if_pos hplace, if_pos (List.mem_cons.mpr (.inl hplace))]
        split
        · rw [Option.or_assoc, Option.or_self]
        · rfl
      · rw [if_neg hplace]
        simp only [List.mem_cons, hplace, false_or]

end Disk

section Markers

variable {setting : Setting}

/-- Where the marker of a directory is. -/
def markerPlace (root directory : Text) : Location :=
  Path.place root (Path.join directory typedMarker)

theorem run_markTyped_cons {directory : Text} {rest : List Text} {workspace : Workspace} :
    (markTyped setting (directory :: rest)).run workspace =
      match workspace.disk.locate setting.root (Path.join directory typedMarker) with
      | .ok location =>
          (markTyped setting rest).run { workspace with disk := workspace.disk.marked location }
      | .error fault => (.error (.file fault), workspace) := by
  rw [markTyped, Job.run_bind_ok _ (Job.run_disk workspace), Disk.exists?, Disk.find?]
  cases hlocate : workspace.disk.locate setting.root (Path.join directory typedMarker) with
  | error fault =>
      have hwrite : (Job.writeFile setting (Path.join directory typedMarker) []).run workspace =
          (.error (.file fault), workspace) := by
        rw [Job.run_writeFile, Disk.write, hlocate]
        rfl
      exact Job.run_bind_error _ hwrite
  | ok location =>
      obtain hitem | ⟨item, hitem⟩ := Option.eq_none_or_eq_some (workspace.disk.item? location)
      · have hwrite : (Job.writeFile setting (Path.join directory typedMarker) []).run workspace =
            (.ok (), { workspace with disk := workspace.disk.put location (.file []) }) := by
          rw [Job.run_writeFile, Disk.write_eq_ok_iff.mpr ⟨location, hlocate, ?_, rfl⟩]
          rw [hitem]
          rintro ⟨⟩
        simp only [Disk.marked, hitem]
        exact Job.run_bind_ok _ hwrite
      · simp only [Disk.marked, hitem]
        rfl

/-- All directories get their markers if each of them can be reached, and only
then. -/
theorem run_markTyped_eq_ok_iff {directories : List Text} {before after : Workspace} :
    (markTyped setting directories).run before = (.ok (), after) ↔
      (∀ directory ∈ directories, before.disk.locate setting.root
        (Path.join directory typedMarker) = .ok (markerPlace setting.root directory)) ∧
      after = { before with
        disk := (directories.map (markerPlace setting.root)).foldl Disk.marked before.disk } := by
  induction directories generalizing before with
  | nil =>
      rw [markTyped, Job.run_pure, Prod.mk.injEq, eq_comm (b := after)]
      simp
  | cons directory rest ih =>
      rw [run_markTyped_cons, List.forall_mem_cons]
      cases hlocate : before.disk.locate setting.root (Path.join directory typedMarker) with
      | error fault => exact iff_of_false (by rintro ⟨⟩) (by rintro ⟨⟨⟨⟩, -⟩, -⟩)
      | ok location =>
          obtain rfl := Disk.eq_place_of_locate hlocate
          dsimp only
          rw [ih, List.map_cons, List.foldl_cons]
          simp only [Disk.locate_marked]
          exact and_congr_left fun _ => (and_iff_right rfl).symm

/-- In whatever order directories are marked, and however often one of them
comes, the same is left at every place. -/
theorem markTyped_sameMembers {directories others : List Text} {before after : Workspace}
    (hsame : SameMembers directories others)
    (h : (markTyped setting directories).run before = (.ok (), after)) :
    ∃ other, (markTyped setting others).run before = (.ok (), other) ∧
      ∀ place, other.disk.item? place = after.disk.item? place := by
  obtain ⟨hlocated, rfl⟩ := run_markTyped_eq_ok_iff.mp h
  refine ⟨_, run_markTyped_eq_ok_iff.mpr ⟨fun directory hdirectory =>
    hlocated directory ((hsame directory).mpr hdirectory), rfl⟩, fun place => ?_⟩
  dsimp only
  rw [Disk.item?_foldl_marked, Disk.item?_foldl_marked]
  simp only [(hsame.map (markerPlace setting.root)) place]

end Markers

/-! ## Arguments that are read alike -/

namespace Options

/-- The values behind the last option of an argument are expressions to search
for or to exclude. In front of it there may be options that take no value. -/
def TakesExpressions (demand : List Text → Except OptionFault Demand) : Prop :=
  ∃ settings option, (option = .paths ∨ option = .excludes) ∧ ∀ values, demand values =
    if values = [] then .error (.missingValue option)
    else .ok { settings := settings ++ [(option, values)] }

theorem takesExpressions_takeValues {option : OptionName} (h : option = .paths ∨ option = .excludes) :
    TakesExpressions (takeValues option) := by
  have harity : option.arity = .many := by
    rcases h with rfl | rfl
    · rfl
    · rfl
  refine ⟨[], option, h, fun values => ?_⟩
  rw [takeValues.eq_def, harity]
  cases values with
  | nil => rfl
  | cons value rest => rfl

/-- A short option behind others that take no value. -/
theorem TakesExpressions.cluster {option next : OptionName} {c : Char} {rest : Text}
    (h : TakesExpressions fun values => cluster next values rest) (harity : option.arity = .none)
    (hdash : c ≠ '-') (hnext : OptionName.ofSpelling? ['-', c] = some next)
    (hrest : rest.head? ≠ some '=') :
    TakesExpressions fun values => Options.cluster option values (c :: rest) := by
  obtain ⟨settings, last, hlast, hdemand⟩ := h
  refine ⟨(option, []) :: settings, last, hlast, fun values => ?_⟩
  dsimp only at hdemand ⊢
  rw [Options.cluster.eq_def]
  dsimp only
  rw [harity, hnext]
  dsimp only
  rw [if_neg hdash]
  split
  · next value => exact absurd rfl hrest
  · rw [hdemand]
    by_cases hempty : values = []
    · rw [if_pos hempty, if_pos hempty]
      rfl
    · rw [if_neg hempty, if_neg hempty]
      rfl

/-- The values behind one argument are given in another order or number. What
stands before it and behind them stays. -/
inductive Rearranges : List Text → List Text → Prop
  | values {spelling : Text} {head : Argument} {values others : List Text}
      (hspelling : classify spelling = .ok head)
      (hhead : TakesExpressions fun values => Group.demand ⟨head, values⟩)
      (hvalues : ∀ value ∈ values, classify value = .ok (.plain value))
      (hothers : SameMembers values others) (back : List Text) :
      Rearranges (spelling :: (values ++ back)) (spelling :: (others ++ back))
  | behind {argument : Text} {arguments others : List Text} (hargument : argument ≠ "--")
      (h : Rearranges arguments others) : Rearranges (argument :: arguments) (argument :: others)

/-- Groups with the same values, or with expressions in another order or number. -/
def SameGroup (group other : Group) : Prop :=
  group = other ∨ ∃ head values others, TakesExpressions (fun values => Group.demand ⟨head, values⟩) ∧
    SameMembers values others ∧ group = ⟨head, values⟩ ∧ other = ⟨head, others⟩

/-- What arguments are grouped to, with the same values in front. -/
def SameGroups (groups others : List Text × List Group) : Prop :=
  groups.1 = others.1 ∧ List.Forall₂ SameGroup groups.2 others.2

theorem group_plain (values : List Text) (rest : List Argument) :
    group (values.map .plain ++ rest) = (values ++ (group rest).1, (group rest).2) := by
  induction values with
  | nil => rfl
  | cons value values ih =>
      rw [List.map_cons, List.cons_append, group, ih]
      rfl

theorem classifyAll_plain {values : List Text}
    (h : ∀ value ∈ values, classify value = .ok (.plain value)) (back : List Text) :
    classifyAll (values ++ back) = (do return values.map .plain ++ (← classifyAll back)) := by
  induction values with
  | nil =>
      rw [List.nil_append]
      cases classifyAll back with
      | ok arguments => rfl
      | error fault => rfl
  | cons value values ih =>
      obtain ⟨hvalue, hvalues⟩ := List.forall_mem_cons.mp h
      have hdashes : value ≠ "--" := by
        rintro rfl
        cases hvalue
      rw [List.cons_append, classifyAll, if_neg hdashes, hvalue, ok_bind, ih hvalues]
      cases classifyAll back with
      | ok arguments => rfl
      | error fault => rfl

/-- What is classified first decides how the rest is grouped. -/
theorem SameGroups.cons {arguments others : List Argument} (argument : Argument)
    (h : SameGroups (group arguments) (group others)) :
    SameGroups (group (argument :: arguments)) (group (argument :: others)) := by
  obtain ⟨hvalues, hgroups⟩ := h
  cases argument with
  | plain text =>
      rw [group, group]
      exact ⟨congrArg (text :: ·) hvalues, hgroups⟩
  | unknown text =>
      rw [group, group]
      exact ⟨rfl, .cons (.inl (by rw [hvalues])) hgroups⟩
  | option option isShort attached =>
      rw [group, group]
      exact ⟨rfl, .cons (.inl (by rw [hvalues])) hgroups⟩

/-- Rearranged arguments are classified alike, and then grouped alike. -/
theorem Rearranges.classifyAll_alike {arguments others : List Text} (h : Rearranges arguments others) :
    Alike (fun first second => SameGroups (group first) (group second)) (classifyAll arguments)
      (classifyAll others) := by
  induction h with
  | @values spelling head values others hspelling hhead hvalues hothers back =>
      have hdashes : spelling ≠ "--" := by
        rintro rfl
        cases hspelling
      have hplain : ∀ value ∈ others, classify value = .ok (.plain value) :=
        fun value hvalue => hvalues value ((hothers value).mpr hvalue)
      rw [classifyAll, classifyAll, if_neg hdashes, if_neg hdashes, hspelling, ok_bind, ok_bind,
        classifyAll_plain hvalues, classifyAll_plain hplain]
      cases classifyAll back with
      | error fault => exact .error fault
      | ok rest =>
          have hgroup : ∀ values : List Text, group (head :: (values.map .plain ++ rest)) =
              ([], ⟨head, values ++ (group rest).1⟩ :: (group rest).2) := by
            intro values
            rw [group.eq_def]
            dsimp only
            rw [group_plain]
            cases head with
            | option option isShort attached => rfl
            | unknown text => rfl
            | plain text =>
                -- a plain argument takes no values at all
                obtain ⟨settings, option, -, hdemand⟩ := hhead
                cases hdemand []
          refine .ok ?_
          show SameGroups (group (head :: (values.map .plain ++ rest)))
            (group (head :: (others.map .plain ++ rest)))
          rw [hgroup, hgroup]
          refine ⟨rfl, .cons (.inr ⟨head, _, _, hhead, hothers.append_right _, rfl, rfl⟩) ?_⟩
          exact List.forall₂_same.mpr fun group _ => .inl rfl
  | @behind argument arguments others hargument h ih =>
      rw [classifyAll, classifyAll, if_neg hargument, if_neg hargument]
      have hclassified : Alike Eq (classify argument) (classify argument) :=
        .refl (fun _ => rfl) _
      refine hclassified.bind fun first second hfirst => ?_
      cases hfirst
      exact ih.bind fun rest rest' hrest => .ok (hrest.cons first)

/-- Demands that set the same options, but for the order and number of
expressions. -/
def SameDemand (demand other : Demand) : Prop :=
  demand = other ∨ ∃ settings option values others, (option = .paths ∨ option = .excludes) ∧
    SameMembers values others ∧ demand = { settings := settings ++ [(option, values)] } ∧
    other = { settings := settings ++ [(option, others)] }

theorem SameGroup.demand {group other : Group} (h : SameGroup group other) :
    Alike SameDemand group.demand other.demand := by
  rcases h with rfl | ⟨head, values, others, hhead, hvalues, rfl, rfl⟩
  · exact .refl (fun _ => .inl rfl) _
  · obtain ⟨settings, option, hoption, hdemand⟩ := hhead
    dsimp only at hdemand
    rw [hdemand, hdemand]
    by_cases hempty : values = []
    · rw [if_pos hempty, if_pos (hvalues.eq_nil_iff.mp hempty)]
      exact .error _
    · rw [if_neg hempty, if_neg fun h => hempty (hvalues.eq_nil_iff.mpr h)]
      exact .ok (.inr ⟨settings, option, values, others, hoption, hvalues, rfl, rfl⟩)

theorem SameExpressions.set {options other : Options} (h : options.SameExpressions other)
    (option : OptionName) (values : List Text) :
    Alike SameExpressions (options.set option values) (other.set option values) := by
  cases option with
  | help => exact .error _
  | clean => exact .ok { h with clean := rfl }
  | paths => exact .ok { h with paths := .refl _ }
  | excludes => exact .ok { h with excludes := .refl _ }
  | outputDirectory => exact .ok { h with outputDirectory := rfl }
  | importPaths => exact .ok { h with importPaths := rfl }
  | skipChecker => exact .ok { h with skipChecker := rfl }
  | verbose => exact .ok { h with verbose := rfl }
  | recursive => exact .ok { h with recursive := rfl }

theorem SameExpressions.setAll {options other : Options} (h : options.SameExpressions other)
    (settings : List (OptionName × List Text)) :
    Alike SameExpressions (options.setAll settings) (other.setAll settings) := by
  induction settings generalizing options other with
  | nil => exact .ok h
  | cons setting rest ih =>
      rw [Options.setAll, Options.setAll]
      exact (h.set setting.1 setting.2).bind fun _ _ hset => ih hset

theorem setAll_concat (options : Options) (settings : List (OptionName × List Text))
    (option : OptionName) (values : List Text) :
    options.setAll (settings ++ [(option, values)]) =
      options.setAll settings >>= fun options => options.set option values := by
  induction settings generalizing options with
  | nil =>
      have hnil : options.setAll [] = .ok options := rfl
      rw [List.nil_append, hnil, ok_bind, setAll]
      cases options.set option values with
      | ok changed => rfl
      | error fault => rfl
  | cons setting rest ih =>
      rw [List.cons_append, setAll, setAll]
      cases options.set setting.1 setting.2 with
      | ok changed => exact ih changed
      | error fault => rfl

/-- The same demand leaves options alike that are alike. -/
theorem SameExpressions.setDemand {options other : Options} (h : options.SameExpressions other)
    {demand demand' : Demand} (hdemand : SameDemand demand demand') :
    Alike SameExpressions (options.setAll demand.settings) (other.setAll demand'.settings) := by
  rcases hdemand with rfl | ⟨settings, option, values, others, hoption, hvalues, rfl, rfl⟩
  · exact h.setAll _
  · dsimp only
    rw [setAll_concat, setAll_concat]
    refine (h.setAll settings).bind fun set set' hset => ?_
    rcases hoption with rfl | rfl
    · exact .ok { hset with paths := hvalues }
    · exact .ok { hset with excludes := hvalues }

theorem SameDemand.extras {demand other : Demand} (h : SameDemand demand other) :
    demand.extras = other.extras := by
  rcases h with rfl | ⟨settings, option, values, others, -, -, rfl, rfl⟩
  · rfl
  · rfl

theorem applyGroups_alike {groups groups' : List Group} (hgroups : List.Forall₂ SameGroup groups groups')
    {options other : Options} (h : options.SameExpressions other) (extras : List Text) :
    Alike (fun applied applied' => applied.1.SameExpressions applied'.1 ∧ applied.2 = applied'.2)
      (options.applyGroups extras groups) (other.applyGroups extras groups') := by
  induction hgroups generalizing options other extras with
  | nil => exact .ok ⟨h, rfl⟩
  | cons hgroup _ ih =>
      rw [applyGroups, applyGroups]
      refine hgroup.demand.bind fun demand demand' hdemand => ?_
      rw [hdemand.extras]
      exact (h.setDemand hdemand).bind fun _ _ hset => ih hset _

theorem Rearranges.ofArguments_alike {arguments others : List Text} (h : Rearranges arguments others) :
    Alike SameExpressions (ofArguments arguments) (ofArguments others) := by
  rw [ofArguments, ofArguments]
  refine h.classifyAll_alike.bind fun classified classified' hclassified => ?_
  obtain ⟨hvalues, hgroups⟩ := hclassified
  dsimp only
  rw [hvalues]
  refine (applyGroups_alike hgroups (.refl {}) _).bind fun applied applied' happlied => ?_
  obtain ⟨hoptions, hextras⟩ := happlied
  rw [hextras]
  split
  · exact .ok hoptions
  · exact .error _

end Options

/-- Arguments that are read as the same options, but for the order and number of
expressions. -/
def SameArguments (arguments others : List Text) : Prop :=
  Alike Options.SameExpressions (Options.ofArguments arguments) (Options.ofArguments others)

theorem execute_eq (setting : Setting) {arguments others : List Text}
    (h : SameArguments arguments others) (disk : Disk) :
    execute setting arguments disk = execute setting others disk := by
  rw [execute, execute]
  cases harguments : Options.ofArguments arguments with
  | error fault =>
      rw [SameArguments, harguments] at h
      cases hothers : Options.ofArguments others with
      | error fault' =>
          rw [hothers] at h
          cases h
          rfl
      | ok other =>
          rw [hothers] at h
          cases h
  | ok options =>
      rw [SameArguments, harguments] at h
      cases hothers : Options.ofArguments others with
      | error fault' =>
          rw [hothers] at h
          cases h
      | ok other =>
          rw [hothers] at h
          cases h with
          | ok hoptions =>
              dsimp only
              rw [runReporting, runReporting, hoptions.run_eq setting, hoptions.verbose]

/-- Expressions to search for and to exclude may be given in any order and any
number of times: the whole execution is the same. That is so wherever two
command lines are read as the same options but for this, and in particular
where they are rearranged, any number of times, behind the options that take
expressions. -/
theorem expressions_count_as_sets (setting : Setting) (disk : Disk) :
    (∀ arguments others, SameArguments arguments others →
      execute setting arguments disk = execute setting others disk) ∧
    ∀ arguments others, Relation.ReflTransGen Options.Rearranges arguments others →
      execute setting arguments disk = execute setting others disk := by
  refine ⟨fun arguments others h => execute_eq setting h disk, fun arguments others h => ?_⟩
  induction h with
  | refl => rfl
  | tail _ hlast ih => exact ih.trans (execute_eq setting hlast.ofArguments_alike disk)

/-- One file to search for and one that is not there, given twice. -/
theorem rearranged_search_writes_module :
    execute { root := "/" }
        ["-o", "out", "-vp", "absent.capnp", "main_messages.py", "absent.capnp", "--no-pyright"]
        systemDisk =
      execute { root := "/" } ["-o", "out", "-vp", "main_messages.py", "absent.capnp", "--no-pyright"]
        systemDisk ∧
    (execute { root := "/" }
        ["-o", "out", "-vp", "absent.capnp", "main_messages.py", "absent.capnp", "--no-pyright"]
        systemDisk).ending = .exits 0 := by
  have hsame : SameMembers (["absent.capnp", "main_messages.py", "absent.capnp"] : List Text)
      ["main_messages.py", "absent.capnp"] := by
    intro text
    simp only [List.mem_cons, List.not_mem_nil, or_false]
    constructor
    · rintro (rfl | rfl | rfl) <;> simp
    · rintro (rfl | rfl) <;> simp
  have hplain : ∀ value ∈ (["absent.capnp", "main_messages.py", "absent.capnp"] : List Text),
      Options.classify value = .ok (.plain value) := by
    intro value hvalue
    simp only [List.mem_cons, List.not_mem_nil, or_false] at hvalue
    rcases hvalue with rfl | rfl | rfl <;> rfl
  have halone : Options.TakesExpressions fun values => Options.cluster .paths values [] :=
    Options.takesExpressions_takeValues (.inl rfl)
  have hpaths : Options.TakesExpressions fun values =>
      Options.Group.demand ⟨.option .verbose true (.tail "p"), values⟩ :=
    halone.cluster rfl (by decide) rfl (by decide)
  have hrearranges : Options.Rearranges
      ["-o", "out", "-vp", "absent.capnp", "main_messages.py", "absent.capnp", "--no-pyright"]
      ["-o", "out", "-vp", "main_messages.py", "absent.capnp", "--no-pyright"] :=
    .behind (by decide) (.behind (by decide) (.values rfl hpaths hplain hsame ["--no-pyright"]))
  have hexecute := (expressions_count_as_sets { root := "/" } systemDisk).2 _ _ (.single hrearranges)
  refine ⟨hexecute, ?_⟩
  rw [hexecute]
  decide +kernel

end MessageForge
