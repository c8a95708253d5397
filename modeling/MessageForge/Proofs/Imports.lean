import MessageForge.Proofs.Selections

/-!
# Imports of schemas

The compiler that is there reads a schema with all files that it rests on. There
are only so many files that can be imported, so that the rounds of reading end
before they run out. If nothing that is imported or embedded has been written
since, then a disk that has grown gives the same library, and the compiler the
same nodes.
-/

namespace MessageForge.Schema

open MessageForge.Path

variable {disk before after : Disk} {directories : List Location} {key importer found : FileKey}
  {root path target : Text} {importPaths : List Text}

/-! ## Rounds of reading -/

theorem readFileAt_key (disk : Disk) (directories : List Location) (key : FileKey) :
    (readFileAt disk directories key).key = key := by
  rw [readFileAt]
  dsimp only
  split <;> rfl

/-- The keys that a round reads. -/
def freshKeys (done : List SchemaFile) (wanted : List FileKey) : List FileKey :=
  wanted.eraseDups.filter fun key => !done.any (·.key = key)

theorem mem_freshKeys {done : List SchemaFile} {wanted : List FileKey} :
    key ∈ freshKeys done wanted ↔ key ∈ wanted ∧ key ∉ done.map SchemaFile.key := by
  rw [freshKeys, List.mem_filter, List.mem_eraseDups]
  simp

theorem readFilesFrom_succ (disk : Disk) (directories : List Location) (fuel : Nat)
    (done : List SchemaFile) (wanted : List FileKey) :
    readFilesFrom disk directories (fuel + 1) done wanted =
      if (freshKeys done wanted).isEmpty then done
      else readFilesFrom disk directories fuel
        (done ++ (freshKeys done wanted).map (readFileAt disk directories))
        (((freshKeys done wanted).map (readFileAt disk directories)).flatMap fun file =>
          file.imports.map Prod.snd) := rfl

theorem subset_readFilesFrom : ∀ (fuel : Nat) (done : List SchemaFile) (wanted : List FileKey),
    done ⊆ readFilesFrom disk directories fuel done wanted
  | 0, _, _ => List.Subset.refl _
  | fuel + 1, done, wanted => by
      rw [readFilesFrom_succ]
      split
      · exact List.Subset.refl _
      · exact List.Subset.trans (List.subset_append_left _ _) (subset_readFilesFrom fuel _ _)

/-- What can be wanted: a file, found from an import directory or the top. -/
def IsCandidate (disk : Disk) (directories : List Location) (key : FileKey) : Prop :=
  key.base ∈ [] :: directories ∧ isFileKey disk key = true

theorem isFileKey_iff : isFileKey disk key = true ↔
    ∃ content, disk.item? key.location = some (.file content) := by
  rw [isFileKey, fileAt?]
  split
  · next content hitem => simp [hitem]
  · next hnot => simpa using fun content hitem => hnot content hitem

/-- An import that leads somewhere leads to a file, from the same start or from
an import directory. -/
theorem importedKey?_cases (h : importedKey? disk directories importer target = some found) :
    isFileKey disk found = true ∧ (found.base = importer.base ∨ found.base ∈ directories) := by
  rw [importedKey?] at h
  split at h
  · cases h
  · obtain ⟨place, -, h⟩ := Option.bind_eq_some_iff.mp h
    refine ⟨List.find?_some h, .inr ?_⟩
    obtain ⟨base, hbase, rfl⟩ := List.mem_map.mp (List.mem_of_find?_eq_some h)
    exact hbase
  · obtain ⟨place, -, h⟩ := Option.bind_eq_some_iff.mp h
    dsimp only at h
    split at h
    · next hfile =>
        cases h
        exact ⟨hfile, .inl rfl⟩
    · cases h

/-- The imports of a file are looked up from where it is. -/
theorem importedKey?_of_mem_imports
    (h : (target, found) ∈ (readFileAt disk directories key).imports) :
    ∃ decl, parseSchema ((fileAt? disk key).getD []) = some decl ∧
      target ∈ decl.exprs.flatMap (Expr.references false) ∧
      importedKey? disk directories key target = some found := by
  rw [readFileAt] at h
  dsimp only at h
  split at h
  · cases h
  · next decl hdecl =>
      obtain ⟨wanted, hwanted, hkeyed⟩ := List.mem_filterMap.mp h
      obtain ⟨imported, himported, hpair⟩ := Option.map_eq_some_iff.mp hkeyed
      cases hpair
      exact ⟨decl, hdecl, hwanted, himported⟩

theorem IsCandidate.of_mem_imports (hkey : IsCandidate disk directories key)
    (h : (target, found) ∈ (readFileAt disk directories key).imports) :
    IsCandidate disk directories found := by
  obtain ⟨-, -, -, himported⟩ := importedKey?_of_mem_imports h
  obtain ⟨hfile, hbase⟩ := importedKey?_cases himported
  refine ⟨?_, hfile⟩
  rcases hbase with hsame | hdirectory
  · exact hsame ▸ hkey.1
  · exact List.mem_cons_of_mem _ hdirectory

/-- All keys for an item of the disk. -/
def candidates (disk : Disk) (directories : List Location) : List FileKey :=
  ([] :: directories).flatMap fun base =>
    disk.items.map fun (place, _) => { base, path := place.drop base.length }

theorem length_candidates (disk : Disk) (directories : List Location) :
    (candidates disk directories).length = (directories.length + 1) * disk.items.length := by
  rw [candidates, List.length_flatMap, List.map_congr_left fun base _ => List.length_map _,
    List.map_const', List.sum_replicate_nat, List.length_cons]

theorem IsCandidate.mem_candidates (h : IsCandidate disk directories key) :
    key ∈ candidates disk directories := by
  obtain ⟨content, hitem⟩ := isFileKey_iff.mp h.2
  have hne : key.location ≠ [] := fun hnil => by
    rw [hnil, Disk.item?_root] at hitem
    cases hitem
  obtain ⟨⟨place, item⟩, hentry, hplace⟩ := List.mem_map.mp (Disk.mem_keys_of_item? hitem hne)
  dsimp only at hplace
  refine List.mem_flatMap.mpr ⟨key.base, h.1, List.mem_map.mpr ⟨_, hentry, ?_⟩⟩
  dsimp only
  rw [hplace, FileKey.location, List.drop_left]

/-- The state between two rounds: each file has been read once, and all files
that have been or are to be read are candidates. -/
structure IsRound (disk : Disk) (directories : List Location) (done : List SchemaFile)
    (wanted : List FileKey) : Prop where
  nodup : (done.map SchemaFile.key).Nodup
  done : ∀ file ∈ done, IsCandidate disk directories file.key
  wanted : ∀ key ∈ wanted, IsCandidate disk directories key

theorem IsRound.next {done : List SchemaFile} {wanted : List FileKey}
    (h : IsRound disk directories done wanted) :
    IsRound disk directories (done ++ (freshKeys done wanted).map (readFileAt disk directories))
      (((freshKeys done wanted).map (readFileAt disk directories)).flatMap fun file =>
        file.imports.map Prod.snd) := by
  have hkeys : ((freshKeys done wanted).map (readFileAt disk directories)).map SchemaFile.key =
      freshKeys done wanted := by
    rw [List.map_map]
    exact (List.map_congr_left fun key _ => readFileAt_key disk directories key).trans (List.map_id _)
  have hfresh : ∀ key ∈ freshKeys done wanted, IsCandidate disk directories key :=
    fun key hkey => h.wanted key (mem_freshKeys.mp hkey).1
  constructor
  · rw [List.map_append, hkeys]
    refine List.nodup_append.mpr ⟨h.nodup, (nodup_eraseDups wanted).filter _, ?_⟩
    rintro key hdone other hother rfl
    exact (mem_freshKeys.mp hother).2 hdone
  · intro file hfile
    rcases List.mem_append.mp hfile with hdone | hread
    · exact h.done file hdone
    · obtain ⟨key, hkey, rfl⟩ := List.mem_map.mp hread
      rw [readFileAt_key]
      exact hfresh key hkey
  · intro found hfound
    obtain ⟨file, hfile, himport⟩ := List.mem_flatMap.mp hfound
    obtain ⟨key, hkey, rfl⟩ := List.mem_map.mp hfile
    obtain ⟨⟨target, _⟩, hmem, rfl⟩ := List.mem_map.mp himport
    exact (hfresh key hkey).of_mem_imports hmem

theorem IsRound.length_le {done : List SchemaFile} {wanted : List FileKey}
    (h : IsRound disk directories done wanted) :
    done.length ≤ (candidates disk directories).length := by
  have hsubset : done.map SchemaFile.key ⊆ candidates disk directories := by
    intro key hkey
    obtain ⟨file, hfile, rfl⟩ := List.mem_map.mp hkey
    exact (h.done file hfile).mem_candidates
  have hlength := (List.subperm_of_subset h.nodup hsubset).length_le
  rwa [List.length_map] at hlength

/-- Once there are more rounds left than files, further rounds add nothing. -/
theorem readFilesFrom_add : ∀ {fuel : Nat} (more : Nat) {done : List SchemaFile}
    {wanted : List FileKey}, IsRound disk directories done wanted →
      (candidates disk directories).length < fuel + done.length →
      readFilesFrom disk directories (fuel + more) done wanted =
        readFilesFrom disk directories fuel done wanted
  | 0, _, _, _, h, hlength => by
      rw [Nat.zero_add] at hlength
      exact absurd h.length_le (Nat.not_le.mpr hlength)
  | fuel + 1, more, done, wanted, h, hlength => by
      rw [Nat.add_right_comm, readFilesFrom_succ, readFilesFrom_succ]
      split
      · rfl
      · next hfresh =>
          refine readFilesFrom_add more h.next ?_
          have hpositive : 0 < (freshKeys done wanted).length :=
            List.length_pos_iff.mpr fun hnil => hfresh (List.isEmpty_iff.mpr hnil)
          rw [List.length_append, List.length_map]
          omega

/-! ## Reading on a disk that has grown -/

theorem evalPath_eq_follow : ∀ {parts : List Text} {start place : Location},
    parts.foldlM (fun (done : Location) (part : Text) =>
      if part.isEmpty || part = "." then some done
      else if part = ".." then if done.isEmpty then none else some done.dropLast
      else some (done ++ [part])) start = some place → place = follow start parts
  | [], _, _, h => (Option.some.inj h).symm
  | part :: rest, start, place, h => by
      rw [List.foldlM_cons] at h
      obtain ⟨next, hnext, h⟩ := Option.bind_eq_some_iff.mp h
      rw [evalPath_eq_follow h, follow]
      split at hnext
      · next hstay => rw [if_pos hstay, Option.some.inj hnext]
      · next hmove =>
          rw [if_neg hmove]
          split at hnext
          · next hup =>
              rw [if_pos hup]
              split at hnext
              · cases hnext
              · rw [Option.some.inj hnext]
          · next hdown => rw [if_neg hdown, Option.some.inj hnext]

theorem eq_place_of_evalPath {place : Location} (h : evalPath [] (Path.join root path) = some place) :
    place = Path.place root path :=
  evalPath_eq_follow h

/-- A file key keeps its bytes from one disk to the other. -/
def IsKept (before after : Disk) (key : FileKey) : Prop :=
  fileAt? before key = fileAt? after key

/-- Where an import leads now, it leads to a file that has been kept. -/
def KeepsImport (before after : Disk) (directories : List Location) (importer : FileKey)
    (target : Text) : Prop :=
  ∀ key, importedKey? after directories importer target = some key → IsKept before after key

theorem IsKept.isFileKey (h : IsKept before after key) (hfile : isFileKey after key = true) :
    isFileKey before key = true := by
  rw [Schema.isFileKey, h]
  exact hfile

theorem isFileKey_of_grows (hgrows : before.Grows after) (h : isFileKey before key = true) :
    isFileKey after key = true := by
  obtain ⟨content, hitem⟩ := isFileKey_iff.mp h
  exact isFileKey_iff.mpr (hgrows.changes.files hitem)

/-- The first of some members is found among those that are left of them, if
none that passes the narrow test has been dropped. -/
theorem find?_filter_eq {α : Type} {keeps narrow wide : α → Bool} : ∀ {items : List α},
    (∀ item ∈ items, narrow item = true → keeps item = true ∧ wide item = true) →
    (∀ item, items.find? wide = some item → narrow item = true) →
    (items.filter keeps).find? narrow = items.find? wide
  | [], _, _ => rfl
  | first :: rest, hnarrow, hwide => by
      cases hfirst : wide first with
      | true =>
          have hfound : (first :: rest).find? wide = some first := List.find?_cons_of_pos hfirst
          have hpass := hwide first hfound
          rw [hfound, List.filter_cons_of_pos (hnarrow first (List.mem_cons_self ..) hpass).1,
            List.find?_cons_of_pos hpass]
      | false =>
          have hskip : (first :: rest).find? wide = rest.find? wide :=
            List.find?_cons_of_neg (by simp [hfirst])
          have hfails : ¬ narrow first = true := fun hpass => by
            rw [(hnarrow first (List.mem_cons_self ..) hpass).2] at hfirst
            cases hfirst
          have hrest : (rest.filter keeps).find? narrow = rest.find? wide :=
            find?_filter_eq (fun item hitem => hnarrow item (List.mem_cons_of_mem _ hitem))
              fun item hitem => hwide item (hskip.trans hitem)
          rw [hskip, ← hrest, List.filter_cons]
          split
          · exact List.find?_cons_of_neg hfails
          · rfl

/-- The import directories of a disk among some places. -/
def directoriesAmong (disk : Disk) (places : List Location) : List Location :=
  places.filter fun place => disk.item? place = some .directory

theorem directoriesAmong_of_grows (hgrows : before.Grows after) (places : List Location) :
    directoriesAmong before places =
      (directoriesAmong after places).filter fun place => before.item? place = some .directory := by
  rw [directoriesAmong, directoriesAmong, List.filter_filter]
  refine List.filter_congr fun place _ => ?_
  cases hbefore : decide (before.item? place = some .directory) with
  | false => rfl
  | true =>
      rw [hgrows.changes.directories place (of_decide_eq_true hbefore)]
      rfl

/-- A file lies below the directory that it is found from. -/
theorem isDirectory_base_of_grows (hgrows : before.Grows after) {base path : Location}
    (hbase : after.item? base = some .directory) (hfile : isFileKey before { base, path } = true) :
    before.item? base = some .directory := by
  obtain ⟨content, hitem⟩ := isFileKey_iff.mp hfile
  by_cases hself : path = []
  · have hlocation : FileKey.location { base, path } = base := by
      rw [hself]
      exact List.append_nil base
    obtain ⟨new, hnew⟩ := hgrows.changes.files (hlocation ▸ hitem)
    rw [hbase] at hnew
    cases hnew
  · exact hgrows.isTree.reached hitem base (List.prefix_append ..) (by simp [FileKey.location, hself])

/-- The first directory in which a path leads to a file is the same if that file
has been kept. -/
theorem find?_isFileKey_eq (hgrows : before.Grows after) {places : List Location} {path : Location}
    (h : ∀ key, ((directoriesAmong after places).map fun base => ({ base, path } : FileKey)).find?
      (isFileKey after) = some key → IsKept before after key) :
    ((directoriesAmong after places).map fun base => ({ base, path } : FileKey)).find?
        (isFileKey after) =
      ((directoriesAmong before places).map fun base => ({ base, path } : FileKey)).find?
        (isFileKey before) := by
  have hkept : ∀ base, (directoriesAmong after places).find?
      (fun base => isFileKey after { base, path }) = some base →
      isFileKey before { base, path } = true := by
    intro base hbase
    have hfile := List.find?_some hbase
    refine IsKept.isFileKey (h _ ?_) hfile
    rw [List.find?_map]
    exact congrArg _ hbase
  rw [List.find?_map, List.find?_map, directoriesAmong_of_grows hgrows]
  refine congrArg _ (find?_filter_eq (fun base hbase hfile => ?_) hkept).symm
  have hdirectory : after.item? base = some .directory := by simpa using (List.mem_filter.mp hbase).2
  exact ⟨decide_eq_true (isDirectory_base_of_grows hgrows hdirectory hfile),
    isFileKey_of_grows hgrows hfile⟩

theorem importedKey?_eq (hgrows : before.Grows after) {places : List Location}
    (h : KeepsImport before after (directoriesAmong after places) importer target) :
    importedKey? after (directoriesAmong after places) importer target =
      importedKey? before (directoriesAmong before places) importer target := by
  unfold KeepsImport at h
  rw [importedKey?] at h ⊢
  rw [importedKey?]
  split at h
  · rfl
  · next rest _ _ =>
      cases hpath : evalPath [] rest with
      | none => rfl
      | some path =>
          rw [hpath] at h
          exact find?_isFileKey_eq hgrows h
  · cases hpath : evalPath importer.path.dropLast (decodePath target) with
    | none => rfl
    | some path =>
        rw [hpath] at h
        have hsame : isFileKey after { importer with path } = isFileKey before { importer with path } := by
          rw [Bool.eq_iff_iff]
          refine ⟨fun hfile => IsKept.isFileKey (h _ ?_) hfile, isFileKey_of_grows hgrows⟩
          exact if_pos hfile
        show (if isFileKey after { importer with path } then some _ else none) =
          if isFileKey before { importer with path } then some _ else none
        rw [hsame]

/-- What a declaration imports, and what it embeds. -/
def namedFiles (root : Decl) : List Text :=
  root.exprs.flatMap (Expr.references false) ++ root.exprs.flatMap (Expr.references true)

theorem readFileAt_root (disk : Disk) (directories : List Location) (key : FileKey) :
    (readFileAt disk directories key).root = parseSchema ((fileAt? disk key).getD []) := by
  rw [readFileAt]
  dsimp only
  split
  · next hroot => exact hroot.symm
  · next decl hroot => exact hroot.symm

/-- A file that has been kept, with all that it names, is read as before. -/
theorem readFileAt_eq (hgrows : before.Grows after) {places : List Location}
    (hkept : IsKept before after key)
    (h : ∀ decl, (readFileAt before (directoriesAmong before places) key).root = some decl →
      ∀ target ∈ namedFiles decl, KeepsImport before after (directoriesAmong after places) key target) :
    readFileAt after (directoriesAmong after places) key =
      readFileAt before (directoriesAmong before places) key := by
  rw [readFileAt_root, hkept] at h
  rw [readFileAt, readFileAt, hkept]
  dsimp only
  cases hroot : parseSchema ((fileAt? after key).getD []) with
  | none => rfl
  | some decl =>
      have hsame : ∀ target ∈ namedFiles decl,
          importedKey? after (directoriesAmong after places) key target =
            importedKey? before (directoriesAmong before places) key target :=
        fun target htarget => importedKey?_eq hgrows (h decl hroot target htarget)
      have himports : (decl.exprs.flatMap (Expr.references false)).filterMap (fun target =>
            (importedKey? after (directoriesAmong after places) key target).map (target, ·)) =
          (decl.exprs.flatMap (Expr.references false)).filterMap fun target =>
            (importedKey? before (directoriesAmong before places) key target).map (target, ·) :=
        List.filterMap_congr fun target htarget => by
          rw [hsame target (List.mem_append_left _ htarget)]
      have hembeds : (decl.exprs.flatMap (Expr.references true)).filter (fun target =>
            (importedKey? after (directoriesAmong after places) key target).isSome) =
          (decl.exprs.flatMap (Expr.references true)).filter fun target =>
            (importedKey? before (directoriesAmong before places) key target).isSome :=
        List.filter_congr fun target htarget => by
          rw [hsame target (List.mem_append_right _ htarget)]
      dsimp only
      rw [himports, hembeds]

/-- Rounds that read kept files, which name only kept files, are the same again. -/
theorem readFilesFrom_eq (hgrows : before.Grows after) {places : List Location} :
    ∀ (fuel : Nat) (done : List SchemaFile) (wanted : List FileKey),
      (∀ key ∈ wanted, IsKept before after key) →
      (∀ file ∈ readFilesFrom before (directoriesAmong before places) fuel done wanted,
        ∀ decl, file.root = some decl → ∀ target ∈ namedFiles decl,
          KeepsImport before after (directoriesAmong after places) file.key target) →
      readFilesFrom after (directoriesAmong after places) fuel done wanted =
        readFilesFrom before (directoriesAmong before places) fuel done wanted
  | 0, _, _, _, _ => rfl
  | fuel + 1, done, wanted, hkept, hall => by
      rw [readFilesFrom_succ] at hall ⊢
      rw [readFilesFrom_succ]
      split at hall
      · next hfresh => rw [if_pos hfresh, if_pos hfresh]
      · next hfresh =>
          rw [if_neg hfresh, if_neg hfresh]
          -- what is read in this round is among the files at the end
          have hround : ∀ key ∈ freshKeys done wanted, ∀ decl,
              (readFileAt before (directoriesAmong before places) key).root = some decl →
              ∀ target ∈ namedFiles decl,
                KeepsImport before after (directoriesAmong after places) key target := by
            intro key hkey decl hdecl target htarget
            have hread := hall _ (subset_readFilesFrom fuel _ _
              (List.mem_append_right _ (List.mem_map_of_mem hkey))) decl hdecl target htarget
            rwa [readFileAt_key] at hread
          have hsame : (freshKeys done wanted).map (readFileAt after (directoriesAmong after places)) =
              (freshKeys done wanted).map (readFileAt before (directoriesAmong before places)) :=
            List.map_congr_left fun key hkey =>
              readFileAt_eq hgrows (hkept key (mem_freshKeys.mp hkey).1) (hround key hkey)
          have hnext : ∀ found ∈ ((freshKeys done wanted).map
                (readFileAt before (directoriesAmong before places))).flatMap
                  (fun file => file.imports.map Prod.snd), IsKept before after found := by
            intro found hfound
            obtain ⟨file, hfile, himport⟩ := List.mem_flatMap.mp hfound
            obtain ⟨key, hkey, rfl⟩ := List.mem_map.mp hfile
            obtain ⟨⟨target, _⟩, hmem, rfl⟩ := List.mem_map.mp himport
            obtain ⟨decl, hdecl, htarget, himported⟩ := importedKey?_of_mem_imports hmem
            rw [← readFileAt_root before (directoriesAmong before places)] at hdecl
            have hkeeps := hround key hkey decl hdecl target (List.mem_append_left _ htarget)
            rw [← importedKey?_eq hgrows hkeeps] at himported
            exact hkeeps _ himported
          rw [hsame]
          exact readFilesFrom_eq hgrows fuel _ _ hnext hall

/-- What the files that a schema rests on import and embed has been kept. -/
def KeepsImports (before after : Disk) (root : Text) (importPaths : List Text) (path : Text) : Prop :=
  ∀ place, evalPath [] (Path.join root path) = some place →
    ∀ file ∈ (readLibrary before (importDirectories before root importPaths)
        { base := [], path := place }).files,
      ∀ decl, file.root = some decl → ∀ target ∈ namedFiles decl,
        KeepsImport before after (importDirectories after root importPaths) file.key target

/-- The rounds in which a library is read. -/
def rounds (disk : Disk) (directories : List Location) : Nat :=
  (disk.items.length + 1) * (directories.length + 1)

theorem readLibrary_files (disk : Disk) (directories : List Location) (key : FileKey) :
    (readLibrary disk directories key).files =
      readFilesFrom disk directories (rounds disk directories) [] [key] := rfl

theorem length_candidates_lt (disk : Disk) (directories : List Location) :
    (candidates disk directories).length <
      rounds disk directories + ([] : List SchemaFile).length := by
  rw [length_candidates, rounds, Nat.mul_comm, Nat.add_mul, List.length_nil]
  omega

theorem isRound_start (h : isFileKey disk key = true) (hbase : key.base = []) :
    IsRound disk directories [] [key] where
  nodup := List.nodup_nil
  done := List.forall_mem_nil _
  wanted := List.forall_mem_singleton.mpr ⟨hbase ▸ List.mem_cons_self .., h⟩

theorem readLibrary_eq (hgrows : before.Grows after) {places : List Location}
    (hfile : isFileKey before key = true) (hbase : key.base = []) (hkept : IsKept before after key)
    (hall : ∀ file ∈ (readLibrary before (directoriesAmong before places) key).files,
      ∀ decl, file.root = some decl → ∀ target ∈ namedFiles decl,
        KeepsImport before after (directoriesAmong after places) file.key target) :
    readLibrary after (directoriesAmong after places) key =
      readLibrary before (directoriesAmong before places) key := by
  -- both disks give as many rounds as are needed, so that neither count matters
  have hbefore := readFilesFrom_add (rounds after (directoriesAmong after places))
    (isRound_start hfile hbase) (length_candidates_lt before (directoriesAmong before places))
  have hafter := readFilesFrom_add (rounds before (directoriesAmong before places))
    (isRound_start (isFileKey_of_grows hgrows hfile) hbase)
    (length_candidates_lt after (directoriesAmong after places))
  rw [readLibrary_files, ← hbefore] at hall
  have hfiles : (readLibrary after (directoriesAmong after places) key).files =
      (readLibrary before (directoriesAmong before places) key).files := by
    rw [readLibrary_files, readLibrary_files, ← hbefore, ← hafter, Nat.add_comm]
    exact readFilesFrom_eq hgrows _ _ _ (List.forall_mem_singleton.mpr hkept) hall
  exact congrArg Library.mk hfiles

/-- The compiler gives the same again for a schema. -/
def Compiler.GivesAgain (compiler : Compiler) (before after : Disk) (root : Text)
    (importPaths : List Text) (path : Text) : Prop :=
  compiler after root importPaths path = compiler before root importPaths path

/-- The schema of a kept file that rests on kept files is compiled to the same. -/
theorem capnpCompiler_givesAgain (hgrows : before.Grows after) {location : Location}
    (hfile : before.IsFileAt root path location)
    (hkept : before.item? location = after.item? location)
    (hall : KeepsImports before after root importPaths path) :
    capnpCompiler.GivesAgain before after root importPaths path := by
  rw [Compiler.GivesAgain]
  unfold capnpCompiler
  cases hplace : evalPath [] (Path.join root path) with
  | none => rfl
  | some place =>
      obtain rfl : place = location := by
        rw [eq_place_of_evalPath hplace, ← hfile.eq_place]
      have hkey : IsKept before after { base := [], path := place } := by
        have hplace : ({ base := [], path := place } : FileKey).location = place := rfl
        rw [IsKept, fileAt?, fileAt?, hplace, hkept]
      have hlibrary : readLibrary after (importDirectories after root importPaths)
            { base := [], path := place } =
          readLibrary before (importDirectories before root importPaths)
            { base := [], path := place } :=
        readLibrary_eq hgrows (isFileKey_iff.mpr hfile.2) rfl hkey (hall place hplace)
      dsimp only
      rw [hlibrary]

/-- Where a compiler gives the same again, a file that is still there does. -/
theorem compileFile_eq {compiler : Compiler} (hgrows : before.Grows after) {location : Location}
    (hfile : before.IsFileAt root path location)
    (hagain : compiler.GivesAgain before after root importPaths path) :
    compileFile compiler after root importPaths path =
      compileFile compiler before root importPaths path := by
  have hbefore : before.isFile root path = true := Disk.isFile_iff.mpr ⟨location, hfile⟩
  rw [compileFile, compileFile, hbefore, hgrows.changes.isFile hbefore, hagain]

end MessageForge.Schema
