import Mathlib.Data.List.Forall2
import MessageForge.Proofs.Contributions
import MessageForge.Proofs.ModuleRows

/-!
# Reading of import lines

An import statement is printed on one line, whatever it looked like in its
text. Lines of imports are read back as the statements that were printed, if
the names in them are plain: neither keywords nor in need of another form. So
an import is known by its line.
-/

namespace MessageForge.Source

open Reader

/-! ## Plain imports -/

/-- A word that is read as a name, and as this one. -/
def isPlainName (name : Text) : Bool :=
  isNameWord name && Text.normalForm name = name

def isPlainPath (path : Text) : Bool :=
  (pathNames path).all isPlainName

def Alias.isPlainModule (given : Alias) : Bool :=
  isPlainPath given.name && given.asName.all isPlainName

def Alias.isPlainMember (given : Alias) : Bool :=
  isPlainName given.name && given.asName.all isPlainName

def Import.isPlain : Import → Bool
  | .modules names => !names.isEmpty && names.all Alias.isPlainModule
  | .members level module names =>
      (level ≠ 0 || module.isSome) && module.all isPlainPath &&
        (names = allMembers || !names.isEmpty && names.all Alias.isPlainMember)

section Names

variable {name path : Text}

theorem isWord_of_isPlainName (h : isPlainName name = true) : isWord name = true :=
  isWord_of_isNameWord (Bool.and_eq_true_iff.mp h).1

theorem wordKind_of_isPlainName (h : isPlainName name = true) : wordKind name = .name name := by
  obtain ⟨hword, hnormal⟩ := Bool.and_eq_true_iff.mp h
  rw [wordKind_of_isNameWord hword, of_decide_eq_true hnormal]

theorem pathNames_of_isPlainName (h : isPlainName name = true) : pathNames name = [name] :=
  Text.split_of_not_mem (not_mem_of_isWord (isWord_of_isPlainName h) (by decide))

theorem exists_pathNames (path : Text) :
    ∃ first rest, pathNames path = first :: rest ∧ path = first ++ rest.flatMap (['.'] ++ ·) := by
  obtain ⟨first, rest, hnames⟩ := List.exists_cons_of_ne_nil (Text.split_ne_nil '.' path)
  refine ⟨first, rest, hnames, ?_⟩
  rw [← Text.join_eq_flatMap, ← hnames, Text.join_split]

theorem Alias.isPlainModule_of_isPlainMember {given : Alias} (h : given.isPlainMember = true) :
    given.isPlainModule = true := by
  obtain ⟨hname, hasName⟩ := Bool.and_eq_true_iff.mp h
  rw [isPlainModule, isPlainPath, pathNames_of_isPlainName hname, hasName]
  simp [hname]

end Names

/-! ## Tokens -/

def pathKinds : List Text → List TokenKind
  | [] => []
  | first :: rest => .name first :: rest.flatMap fun name => [.symbol .dot, .name name]

def asKinds : Option Text → List TokenKind
  | none => []
  | some name => [.keyword .asWord, .name name]

def Alias.kinds (given : Alias) : List TokenKind :=
  pathKinds (pathNames given.name) ++ asKinds given.asName

def aliasesKinds : List Alias → List TokenKind
  | [] => []
  | first :: rest => first.kinds ++ rest.flatMap (behindComma Alias.kinds)

/-- Three dots in a row are one token. -/
def dotKinds : Nat → List TokenKind
  | 0 => []
  | 1 => [.symbol .dot]
  | 2 => [.symbol .dot, .symbol .dot]
  | n + 3 => .symbol .ellipsis :: dotKinds n

def moduleKinds (module : Option Text) : List TokenKind :=
  module.elim [] fun path => pathKinds (pathNames path)

def memberKinds (names : List Alias) : List TokenKind :=
  if names = allMembers then [.symbol starSymbol] else aliasesKinds names

def Import.kinds : Import → List TokenKind
  | .modules names => .keyword .importWord :: aliasesKinds names
  | .members level module names =>
      .keyword .fromWord :: (dotKinds level ++ (moduleKinds module ++
        .keyword .importWord :: memberKinds names))

theorem exists_aliasesKinds {names : List Alias} (hne : names ≠ []) :
    ∃ id rest, aliasesKinds names = .name id :: rest := by
  obtain ⟨first, rest, rfl⟩ := List.exists_cons_of_ne_nil hne
  obtain ⟨id, more, hnames, -⟩ := exists_pathNames first.name
  exact ⟨id, _, by rw [aliasesKinds, Alias.kinds, hnames, pathKinds]; rfl⟩

section Spelling

variable {text : Text} {kinds : List TokenKind}

/-- What is read within a line of imports. -/
abbrev Follows (text : Text) (kinds : List TokenKind) : Prop :=
  Spells (.inside [] []) text kinds

theorem endsMark_name {name : Text} (h : isPlainName name = true) (text : Text) :
    endsMark (name ++ text) = true :=
  endsMark_word (isWord_of_isPlainName h)

theorem follows_name {name : Text} (hname : isPlainName name = true) (hends : endsWord text = true)
    (h : Follows text kinds) : Follows (name ++ text) (.name name :: kinds) := by
  rw [← wordKind_of_isPlainName hname]
  exact h.word (isWord_of_isPlainName hname) hends

theorem follows_path {path : Text} (hpath : isPlainPath path = true) (hends : endsWord text = true)
    (h : Follows text kinds) : Follows (path ++ text) (pathKinds (pathNames path) ++ kinds) := by
  obtain ⟨first, rest, hnames, htext⟩ := exists_pathNames path
  rw [isPlainPath, hnames, List.all_cons, Bool.and_eq_true, List.all_eq_true] at hpath
  obtain ⟨hfirst, hrest⟩ := hpath
  rw [hnames, htext, List.append_assoc, pathKinds, List.cons_append]
  -- each further name stands behind a dot, which also ends the word before it
  have hmore : ∀ more : List Text, (∀ name ∈ more, isPlainName name = true) →
      endsWord (more.flatMap (['.'] ++ ·) ++ text) = true ∧
        Follows (more.flatMap (['.'] ++ ·) ++ text)
          ((more.flatMap fun name => [.symbol .dot, .name name]) ++ kinds) := by
    intro more hplain
    induction more with
    | nil => exact ⟨hends, h⟩
    | cons name more ih =>
        obtain ⟨hname, hmore⟩ := List.forall_mem_cons.mp hplain
        obtain ⟨hword, hfollows⟩ := ih hmore
        rw [List.flatMap_cons, List.append_assoc, List.append_assoc, List.flatMap_cons,
          List.append_assoc]
        exact ⟨rfl, Spells.markGlyph .dot (endsMark_name hname _) rfl
          (follows_name hname hword hfollows)⟩
  obtain ⟨hword, hfollows⟩ := hmore rest hrest
  exact follows_name hfirst hword hfollows

theorem endsMark_path {path : Text} (hpath : isPlainPath path = true) (text : Text) :
    endsMark (path ++ text) = true := by
  obtain ⟨first, rest, hnames, htext⟩ := exists_pathNames path
  rw [isPlainPath, hnames, List.all_cons, Bool.and_eq_true] at hpath
  rw [htext, List.append_assoc]
  exact endsMark_name hpath.1 _

theorem follows_alias {given : Alias} (hgiven : given.isPlainModule = true)
    (hends : endsWord text = true) (h : Follows text kinds) :
    Follows (given.text ++ text) (given.kinds ++ kinds) := by
  obtain ⟨name, asName⟩ := given
  obtain ⟨hname, hasName⟩ := Bool.and_eq_true_iff.mp hgiven
  rw [Alias.kinds, List.append_assoc]
  cases asName with
  | none => exact follows_path hname hends h
  | some asName =>
      have has : wordKind "as" = .keyword .asWord := by decide +kernel
      have hword : isWord "as" = true := by decide +kernel
      have hbehind : Follows ((" as " : Text) ++ asName ++ text)
          (.keyword .asWord :: .name asName :: kinds) := by
        rw [← has]
        exact (Spells.word hword rfl (follows_name hasName hends h).blank).blank
      have hall : Follows (name ++ ((" as " : Text) ++ asName ++ text))
          (pathKinds (pathNames name) ++ .keyword .asWord :: .name asName :: kinds) :=
        follows_path hname rfl hbehind
      simpa only [Alias.text, asKinds, List.append_assoc, List.cons_append, List.nil_append]
        using hall

theorem follows_aliases : ∀ {names : List Alias}, names ≠ [] →
    (∀ given ∈ names, given.isPlainModule = true) → endsWord text = true → Follows text kinds →
    Follows (commaList (names.map Alias.text) ++ text) (aliasesKinds names ++ kinds)
  | [], hne, _, _, _ => absurd rfl hne
  | first :: rest, _, hplain, hends, h => by
      obtain ⟨hfirst, hrest⟩ := List.forall_mem_cons.mp hplain
      rw [commaList, List.map_cons, Text.join_eq_flatMap, aliasesKinds, List.append_assoc,
        List.append_assoc]
      have hmore : ∀ more : List Alias, (∀ given ∈ more, given.isPlainModule = true) →
          endsWord ((more.map Alias.text).flatMap ((", " : Text) ++ ·) ++ text) = true ∧
            Follows ((more.map Alias.text).flatMap ((", " : Text) ++ ·) ++ text)
              (more.flatMap (behindComma Alias.kinds) ++ kinds) := by
        intro more hplain
        induction more with
        | nil => exact ⟨hends, h⟩
        | cons given more ih =>
            obtain ⟨hgiven, hmore⟩ := List.forall_mem_cons.mp hplain
            obtain ⟨hword, hfollows⟩ := ih hmore
            rw [List.map_cons, List.flatMap_cons, List.append_assoc, List.append_assoc,
              List.flatMap_cons, List.append_assoc]
            exact ⟨rfl, Spells.markGlyph .comma rfl rfl
              (follows_alias hgiven hword hfollows).blank⟩
      obtain ⟨hword, hfollows⟩ := hmore rest hrest
      exact follows_alias hfirst hword hfollows

/-- Leading dots, of which three in a row are one token. -/
theorem follows_dots (hends : endsMark text = true) (h : Follows text kinds) : ∀ level : Nat,
    Follows (List.replicate level '.' ++ text) (dotKinds level ++ kinds)
  | 0 => h
  | 1 => Spells.markGlyph .dot hends rfl h
  | 2 => by
      have hone : Follows ('.' :: text) (.symbol .dot :: kinds) := Spells.markGlyph .dot hends rfl h
      have htwo : readSymbol ('.' :: '.' :: text) = some (.dot, '.' :: text) := by
        cases text with
        | nil => rfl
        | cons c rest =>
            have hc : c ≠ '.' := by
              rintro rfl
              cases hends
            simp [readSymbol, symbolOf3, symbolOf2, symbolOf1, hc]
      exact Spells.mark (by decide) rfl htwo (Nat.le_refl _) rfl hone
  | level + 3 => by
      have hrest := follows_dots hends h level
      have hthree : readSymbol ('.' :: '.' :: '.' :: (List.replicate level '.' ++ text)) =
          some (.ellipsis, List.replicate level '.' ++ text) := rfl
      exact Spells.mark (by decide) rfl hthree (Nat.le_add_right _ 2) rfl hrest

end Spelling

/-! ## Readers of names -/

section Reading

variable {kinds : List TokenKind} {parts : Parts}

theorem frontKind_cons (kind : TokenKind) (kinds : List TokenKind) :
    frontKind (kind :: kinds) = kind :=
  rfl

theorem forall₂_eq {α : Type} {items values : List α}
    (h : List.Forall₂ (fun item value => value = item) items values) : values = items := by
  have hsame : List.Forall₂ (· = ·) items values := h.imp (fun _ _ => Eq.symm)
  rw [List.forall₂_eq_eq_eq] at hsame
  exact hsame.symm

/-- A path is read up to what is no dot. -/
theorem Reads.dottedName {path : Text} (hnext : frontKind kinds ≠ .symbol .dot) :
    Reads dottedName (pathKinds (pathNames path) ++ kinds) kinds (· = path) := by
  obtain ⟨first, rest, hnames, htext⟩ := exists_pathNames path
  have hmore : Reads (Reader.many (Reader.nextIs .dot) (do Reader.skip; Reader.name))
      ((rest.flatMap fun name => [.symbol .dot, .name name]) ++ kinds) kinds
      (List.Forall₂ (fun item value => value = item) rest) := by
    refine Reads.many (fun _ _ => List.cons_ne_nil _ _) ?_ ?_
    · intro front item back _
      refine ⟨Reads.nextIs, ?_⟩
      exact Reads.bind Reads.skip fun _ _ => Reads.name
    · exact Reads.nextIs.mono fun value hvalue => hvalue.trans (decide_eq_false hnext)
  rw [hnames, pathKinds, List.cons_append]
  refine Reads.bind Reads.name fun found hfound => Reads.bind hmore fun names hrest => Reads.pure ?_
  rw [hfound, forall₂_eq hrest, ← hnames]
  exact Text.join_split '.' path

theorem Reads.asName {given : Option Text} (hnext : frontKind kinds ≠ .keyword .asWord) :
    Reads asName (asKinds given ++ kinds) kinds (· = given) := by
  cases given with
  | none =>
      refine Reads.bind (Reads.accept_other ?_) fun value hvalue => ?_
      · intro heq
        rw [asKinds, List.nil_append] at heq
        exact hnext (by rw [frontKind, heq]; rfl)
      · rw [hvalue]
        exact Reads.pure rfl
  | some name =>
      refine Reads.bind Reads.accept_same fun value hvalue => ?_
      rw [hvalue]
      exact Reads.bind Reads.name fun found hfound => Reads.pure (congrArg some hfound)

/-- What an alias is followed by. -/
def EndsAlias (next : TokenKind) : Prop :=
  next = .symbol .comma ∨ next = .newline

theorem EndsAlias.ne_as {next : TokenKind} (h : EndsAlias next) : next ≠ .keyword .asWord := by
  rcases h with rfl | rfl <;> exact TokenKind.noConfusion

theorem EndsAlias.ne_dot {next : TokenKind} (h : EndsAlias next) : next ≠ .symbol .dot := by
  rcases h with rfl | rfl
  · exact fun heq => Symbol.noConfusion (TokenKind.symbol.inj heq)
  · exact TokenKind.noConfusion

theorem Reads.importAlias {given : Alias} {next : TokenKind} (hnext : EndsAlias next) :
    Reads importAlias (given.kinds ++ next :: kinds) (next :: kinds) (· = given) := by
  rw [Alias.kinds, List.append_assoc]
  have hname : frontKind (asKinds given.asName ++ next :: kinds) ≠ .symbol .dot := by
    cases given.asName with
    | none => exact hnext.ne_dot
    | some name => exact TokenKind.noConfusion
  refine Reads.bind (Reads.dottedName hname) fun name hname =>
    Reads.bind (Reads.asName hnext.ne_as) fun asName hasName => Reads.pure ?_
  rw [hname, hasName]

theorem Reads.importedName {given : Alias} {next : TokenKind} (hgiven : given.isPlainMember = true)
    (hnext : EndsAlias next) :
    Reads importedName (given.kinds ++ next :: kinds) (next :: kinds) (· = given) := by
  rw [Alias.kinds, pathNames_of_isPlainName (Bool.and_eq_true_iff.mp hgiven).1, List.append_assoc]
  refine Reads.bind Reads.name fun name hname =>
    Reads.bind (Reads.asName hnext.ne_as) fun asName hasName => Reads.pure ?_
  rw [hname, hasName]

/-- Aliases with commas between them, up to the end of the line. -/
theorem Reads.aliases {reader : Reader Alias} {names : List Alias} (hne : names ≠ [])
    (h : ∀ given ∈ names, ∀ next, EndsAlias next → ∀ rest,
      Reads reader (given.kinds ++ next :: rest) (next :: rest) (· = given)) :
    Reads (separated reader) (aliasesKinds names ++ .newline :: kinds) (.newline :: kinds)
      (· = names) := by
  obtain ⟨first, rest, rfl⟩ := List.exists_cons_of_ne_nil hne
  -- whatever aliases are left, the token behind the present one ends it
  have hnexts : ∀ back : List Alias, ∃ next more,
      back.flatMap (behindComma Alias.kinds) ++ .newline :: kinds = next :: more ∧ EndsAlias next :=
    fun back => exists_front_behindComma _ back (.inl rfl) ⟨_, _, rfl, .inr rfl⟩
  have hmore : Reads (Reader.many (Reader.nextIs .comma) (do Reader.skip; reader))
      (rest.flatMap (behindComma Alias.kinds) ++ .newline :: kinds) (.newline :: kinds)
      (List.Forall₂ (fun item value => value = item) rest) := by
    refine Reads.many (fun _ _ => List.cons_ne_nil _ _) ?_ Reads.nextIs
    intro front item back heq
    obtain ⟨next, more, hback, hnext⟩ := hnexts back
    refine ⟨Reads.nextIs, Reads.bind Reads.skip fun _ _ => ?_⟩
    rw [hback]
    exact h item (List.mem_cons_of_mem _ (heq ▸ List.mem_append_right _ (List.mem_cons_self ..)))
      next hnext more
  obtain ⟨next, more, hrest, hnext⟩ := hnexts rest
  have hfirst := h first (List.mem_cons_self ..) next hnext more
  rw [← hrest] at hfirst
  rw [aliasesKinds, List.append_assoc]
  refine Reads.bind hfirst fun found hfound => Reads.bind hmore fun others hothers => Reads.pure ?_
  rw [hfound, forall₂_eq hothers]

/-! ## Readers of imports -/

theorem Reads.importStatement {names : List Alias} (hne : names ≠ []) :
    Reads importStatement (.keyword .importWord :: (aliasesKinds names ++ .newline :: kinds))
      (.newline :: kinds) (· = .imports names) :=
  Reads.bind Reads.skip fun _ _ => Reads.bind
    (Reads.aliases hne fun _ _ _ hnext _ => Reads.importAlias hnext) fun _ hfound =>
      Reads.pure (congrArg Node.imports hfound)

/-- How many dots a token stands for. -/
def dotCount (kind : TokenKind) : Nat :=
  if kind = .symbol .ellipsis then 3 else 1

theorem mem_dotKinds {kind : TokenKind} : ∀ {level : Nat}, kind ∈ dotKinds level →
    kind = .symbol .dot ∨ kind = .symbol .ellipsis
  | 0, h => nomatch h
  | 1, h => .inl (List.mem_singleton.mp h)
  | 2, h => .inl (by simpa [dotKinds] using h)
  | level + 3, h => (List.mem_cons.mp h).elim .inr mem_dotKinds

theorem foldl_dotCount : ∀ level count : Nat,
    ((dotKinds level).map dotCount).foldl (· + ·) count = count + level
  | 0, _ => rfl
  | 1, _ => rfl
  | 2, _ => rfl
  | level + 3, count => by
      rw [dotKinds, List.map_cons, List.foldl_cons, foldl_dotCount level]
      show count + 3 + level = count + (level + 3)
      omega

theorem Reads.relativeLevel {level : Nat} (hdot : frontKind kinds ≠ .symbol .dot)
    (hellipsis : frontKind kinds ≠ .symbol .ellipsis) :
    Reads relativeLevel (dotKinds level ++ kinds) kinds (· = level) := by
  have hspell : (dotKinds level).flatMap (fun kind => [kind]) = dotKinds level :=
    List.flatMap_singleton' _
  have hmany : Reads (Reader.many (do return (← Reader.nextIs .dot) || (← Reader.nextIs .ellipsis))
      (do let three ← Reader.nextIs .ellipsis; Reader.skip; return if three then 3 else 1))
      ((dotKinds level).flatMap (fun kind => [kind]) ++ kinds) kinds
      (List.Forall₂ (fun kind count => count = dotCount kind) (dotKinds level)) := by
    refine Reads.many (fun _ _ => List.cons_ne_nil _ _) ?_ ?_
    · intro front kind back heq
      have hmem : kind ∈ dotKinds level := heq ▸ List.mem_append_right front (List.mem_cons_self ..)
      have hkind := mem_dotKinds hmem
      refine ⟨Reads.bind Reads.nextIs fun value hvalue => Reads.bind Reads.nextIs
        fun other hother => Reads.pure ?_, Reads.bind Reads.nextIs fun three hthree =>
          Reads.bind Reads.skip fun _ _ => Reads.pure ?_⟩
      · rw [hvalue, hother, List.singleton_append, frontKind_cons]
        rcases hkind with rfl | rfl <;> rfl
      · rw [hthree, List.singleton_append, frontKind_cons]
        rcases hkind with rfl | rfl <;> rfl
    · refine Reads.bind Reads.nextIs fun value hvalue => Reads.bind Reads.nextIs
        fun other hother => Reads.pure ?_
      rw [hvalue, hother, decide_eq_false hdot, decide_eq_false hellipsis]
      rfl
  rw [hspell] at hmany
  -- what is read is one count for each token, and their sum is the level
  refine Reads.bind hmany fun dots hdots => Reads.pure ?_
  have hcounts : dots = (dotKinds level).map dotCount := by
    clear hmany hspell
    generalize dotKinds level = items at hdots
    induction hdots with
    | nil => rfl
    | cons hfirst _ ih => rw [List.map_cons, hfirst, ih]
  rw [hcounts, foldl_dotCount, Nat.zero_add]

/-- The module of an import, if there is one before the word that ends it. -/
theorem Reads.moduleName {α : Type} {module : Option Text} {next : Option Text → Reader α}
    {after : List TokenKind} {good : α → Prop}
    (h : Reads (next module) (.keyword .importWord :: kinds) after good) :
    Reads (Source.startsName >>= fun starts =>
        if starts = true then Source.dottedName >>= fun path => Pure.pure (some path) >>= next
        else Pure.pure none >>= next)
      (moduleKinds module ++ .keyword .importWord :: kinds) after good := by
  cases module with
  | none =>
      have hstarts : Reads Source.startsName (.keyword .importWord :: kinds)
          (.keyword .importWord :: kinds) (· = false) :=
        Reads.bind Reads.peek fun kind hkind => by
          rw [hkind]
          exact Reads.pure rfl
      refine Reads.bind hstarts fun value hvalue => ?_
      rw [hvalue]
      exact h
  | some path =>
      obtain ⟨first, rest, hnames, -⟩ := exists_pathNames path
      have hstarts : Reads Source.startsName
          (pathKinds (pathNames path) ++ .keyword .importWord :: kinds)
          (pathKinds (pathNames path) ++ .keyword .importWord :: kinds) (· = true) := by
        rw [hnames, pathKinds]
        refine Reads.bind Reads.peek fun kind hkind => ?_
        rw [hkind]
        exact Reads.pure rfl
      refine Reads.bind hstarts fun value hvalue => ?_
      rw [hvalue]
      refine Reads.bind (Reads.dottedName fun heq => nomatch heq) fun found hfound => ?_
      rw [hfound]
      exact h

theorem moduleKinds_ends (module : Option Text) :
    ∀ kind, frontKind (moduleKinds module ++ .keyword .importWord :: kinds) ≠ .symbol kind := by
  intro kind
  cases module with
  | none => exact TokenKind.noConfusion
  | some path =>
      obtain ⟨first, rest, hnames, -⟩ := exists_pathNames path
      rw [moduleKinds, Option.elim_some, hnames, pathKinds]
      exact TokenKind.noConfusion

theorem Reads.importFromStatement {level : Nat} {module : Option Text} {names : List Alias}
    (hplain : (Import.members level module names).isPlain = true) :
    Reads importFromStatement ((Import.members level module names).kinds ++ .newline :: kinds)
      (.newline :: kinds) (· = .importsFrom level module names) := by
  simp only [Import.isPlain, Bool.and_eq_true, Bool.or_eq_true, decide_eq_true_eq] at hplain
  obtain ⟨⟨hmodule, -⟩, hnames⟩ := hplain
  have hgiven : (level = 0 && module.isNone) = false := by
    rcases hmodule with hlevel | hmodule
    · rw [decide_eq_false hlevel, Bool.false_and]
    · rw [Option.isNone_eq_false_iff.mpr hmodule, Bool.and_false]
  rw [Import.kinds, List.cons_append, List.append_assoc, List.append_assoc, List.cons_append]
  have hends : ∀ kind, frontKind (moduleKinds module ++
      .keyword .importWord :: (memberKinds names ++ .newline :: kinds)) ≠ .symbol kind :=
    moduleKinds_ends module
  refine Reads.bind Reads.skip fun _ _ => Reads.bind (Reads.relativeLevel (hends _) (hends _))
    fun found hfound => ?_
  subst hfound
  refine Reads.moduleName ?_
  dsimp only
  rw [hgiven, if_neg Bool.false_ne_true]
  refine Reads.bind Reads.expect fun _ _ => ?_
  rw [memberKinds]
  split
  · next hall =>
      refine Reads.bind Reads.accept_same fun value hvalue => ?_
      rw [hvalue]
      exact Reads.pure (by rw [hall]; rfl)
  · next hall =>
      obtain ⟨hne, hmembers⟩ := hnames.resolve_left hall
      have hne : names ≠ [] := by simpa using hne
      obtain ⟨id, rest, hkinds⟩ := exists_aliasesKinds hne
      have hsymbol : ∀ symbol, Reads (acceptSymbol symbol) (aliasesKinds names ++ .newline :: kinds)
          (aliasesKinds names ++ .newline :: kinds) (· = false) := by
        intro symbol
        refine Reads.accept_other ?_
        rw [hkinds]
        exact fun heq => nomatch heq
      refine Reads.bind (hsymbol _) fun value hvalue => ?_
      rw [hvalue]
      refine Reads.bind (hsymbol _) fun value hvalue => ?_
      rw [hvalue]
      exact Reads.bind (Reads.aliases hne fun given hgiven _ hnext _ =>
        Reads.importedName (List.all_eq_true.mp hmembers given hgiven) hnext) fun found hfound =>
          Reads.pure (hfound ▸ rfl)

/-- An import is read as the one statement that it is. -/
theorem Reads.importLine {given : Import} (hplain : given.isPlain = true) (nesting : Nat) :
    Reads (statementAt parts (nesting + 1)) (given.kinds ++ .newline :: kinds) kinds
      fun found => ∃ line, found = [(line, given.node)] := by
  have hsimple : Reads (simpleStatement parts) (given.kinds ++ .newline :: kinds)
      (.newline :: kinds) fun stmt => stmt.2 = given.node := by
    refine Reads.bind Reads.nextLine fun _ _ => Reads.bind Reads.peek fun kind hkind => ?_
    rw [hkind]
    cases given with
    | modules names =>
        have hne : names ≠ [] := by simpa using (Bool.and_eq_true_iff.mp hplain).1
        exact Reads.bind (Reads.importStatement hne) fun node hnode => Reads.pure hnode
    | members level module names =>
        exact Reads.bind (Reads.importFromStatement hplain) fun node hnode => Reads.pure hnode
  refine Reads.bind Reads.nextLine fun _ _ => Reads.bind Reads.peek fun kind hkind => ?_
  rw [hkind]
  have hall : Reads (simpleStatements parts) (given.kinds ++ .newline :: kinds) kinds
      fun found => ∃ line, found = [(line, given.node)] :=
    (Reads.simpleStatements_of hsimple).mono fun found ⟨first, hfound, hfirst⟩ =>
      ⟨first.1, hfound.trans (congrArg ([·]) (Prod.ext rfl hfirst))⟩
  cases given <;> exact hall

end Reading

/-! ## Lines of imports -/

section Lines

variable {text : Text} {kinds : List TokenKind}

theorem follows_members {level : Nat} {module : Option Text} {names : List Alias}
    (hplain : (Import.members level module names).isPlain = true)
    (h : Follows ('\n' :: text) kinds) :
    Follows (commaList (names.map Alias.text) ++ '\n' :: text) (memberKinds names ++ kinds) := by
  simp only [Import.isPlain, Bool.and_eq_true, Bool.or_eq_true, decide_eq_true_eq] at hplain
  rw [memberKinds]
  split
  · next hall =>
      have hstar : readSymbol ('*' :: '\n' :: text) = some (starSymbol, '\n' :: text) :=
        readSymbol_mark rfl rfl
      rw [hall]
      exact Spells.mark (c := '*') (by decide) rfl hstar (Nat.le_refl _) rfl h
  · next hall =>
      obtain ⟨hne, hmembers⟩ := hplain.2.resolve_left hall
      refine follows_aliases (by simpa using hne) (fun given hgiven => ?_) rfl h
      exact Alias.isPlainModule_of_isPlainMember (List.all_eq_true.mp hmembers given hgiven)

theorem follows_keyword {word : Keyword} {front : Text} (hword : isWord word.text = true)
    (hkind : wordKind word.text = .keyword word) (hfront : front = word.text ++ [' '])
    (h : Follows text kinds) : Follows (front ++ text) (.keyword word :: kinds) := by
  rw [← hkind, hfront, List.append_assoc]
  exact Spells.word hword rfl h.blank

theorem follows_importWord (h : Follows text kinds) :
    Follows ("import " ++ text) (.keyword .importWord :: kinds) :=
  follows_keyword (by decide +kernel) (by decide +kernel) (by decide +kernel) h

theorem follows_fromWord (h : Follows text kinds) :
    Follows ("from " ++ text) (.keyword .fromWord :: kinds) :=
  follows_keyword (by decide +kernel) (by decide +kernel) (by decide +kernel) h

/-- An import is printed as its tokens. -/
theorem follows_import {given : Import} (hplain : given.isPlain = true)
    (h : Follows ('\n' :: text) kinds) :
    Follows (given.text ++ '\n' :: text) (given.kinds ++ kinds) := by
  cases given with
  | modules names =>
      obtain ⟨hne, hnames⟩ := Bool.and_eq_true_iff.mp hplain
      have hall : Follows (commaList (names.map Alias.text) ++ '\n' :: text)
          (aliasesKinds names ++ kinds) :=
        follows_aliases (by simpa using hne) (List.all_eq_true.mp hnames) rfl h
      rw [Import.text_modules, Import.kinds, List.append_assoc, List.cons_append]
      exact follows_importWord hall
  | members level module names =>
      have himport : (" import " : Text) = ' ' :: ("import " : Text) := by decide +kernel
      have hmembers : Follows
          (("import " : Text) ++ (commaList (names.map Alias.text) ++ '\n' :: text))
          (.keyword .importWord :: (memberKinds names ++ kinds)) :=
        follows_importWord (follows_members hplain h)
      have hmodule : Follows (module.getD [] ++ ' ' :: (("import " : Text) ++
          (commaList (names.map Alias.text) ++ '\n' :: text))) (moduleKinds module ++
            .keyword .importWord :: (memberKinds names ++ kinds)) := by
        simp only [Import.isPlain, Bool.and_eq_true] at hplain
        cases module with
        | none => exact hmembers.blank
        | some path => exact follows_path hplain.1.2 rfl hmembers.blank
      have hends : endsMark (module.getD [] ++ ' ' :: (("import " : Text) ++
          (commaList (names.map Alias.text) ++ '\n' :: text))) = true := by
        simp only [Import.isPlain, Bool.and_eq_true] at hplain
        cases module with
        | none => rfl
        | some path => exact endsMark_path hplain.1.2 _
      have hall := follows_fromWord (follows_dots hends hmodule level)
      rw [Import.text_members, himport, Import.kinds]
      simp only [List.append_assoc, List.cons_append]
      exact hall

theorem exists_text_cons (given : Import) :
    ∃ c rest, given.text = c :: rest ∧ c ∉ marginCharacters := by
  cases given with
  | modules names => exact ⟨'i', _, rfl, by decide⟩
  | members level module names => exact ⟨'f', _, rfl, by decide⟩

/-- Import lines are read one after another. -/
theorem spells_imports : ∀ {block : List Import}, (∀ given ∈ block, given.isPlain = true) →
    Spells (.start [] []) (ended (block.map Import.text))
      ((block.flatMap fun given => given.kinds ++ [.newline]) ++ [.finish])
  | [], _ => Spells.finish []
  | given :: rest, hplain => by
      obtain ⟨hgiven, hrest⟩ := List.forall_mem_cons.mp hplain
      have hline := follows_import hgiven (spells_imports hrest).lineEnd
      obtain ⟨c, back, htext, hc⟩ := exists_text_cons given
      have hended : ended ((given :: rest).map Import.text) =
          spaces 0 ++ (given.text ++ '\n' :: ended (rest.map Import.text)) := by
        rw [List.map_cons, ← List.append_nil (ended _), ended_cons, List.append_nil]
        rfl
      rw [hended, List.flatMap_cons, List.append_assoc, List.append_assoc]
      rw [htext, List.cons_append] at hline ⊢
      have hsame : changeIndent 0 0 [] = some ([], []) := rfl
      have hall := hline.margin 0 hc hsame
      exact hall

theorem unbroken_path {path : Text} (hpath : isPlainPath path = true) : '\r' ∉ path := by
  obtain ⟨first, rest, hnames, htext⟩ := exists_pathNames path
  rw [isPlainPath, hnames, List.all_eq_true] at hpath
  have hname : ∀ name ∈ first :: rest, '\r' ∉ name := fun name hmem =>
    not_mem_of_isWord (isWord_of_isPlainName (hpath name hmem)) (by decide)
  rw [htext, List.mem_append, not_or]
  refine ⟨hname first (List.mem_cons_self ..), fun hmem => ?_⟩
  obtain ⟨name, hrest, hmem⟩ := List.mem_flatMap.mp hmem
  rcases List.mem_append.mp hmem with hmem | hmem
  · exact absurd hmem (by decide)
  · exact hname name (List.mem_cons_of_mem _ hrest) hmem

theorem unbroken_aliases {names : List Alias}
    (hplain : ∀ given ∈ names, given.isPlainModule = true) :
    '\r' ∉ commaList (names.map Alias.text) := by
  have hcomma : '\r' ∉ (", " : Text) := by decide +kernel
  have has : '\r' ∉ (" as " : Text) := by decide +kernel
  have halias : ∀ given ∈ names, '\r' ∉ given.text := by
    intro given hgiven
    obtain ⟨name, asName⟩ := given
    obtain ⟨hname, hasName⟩ := Bool.and_eq_true_iff.mp (hplain _ hgiven)
    cases asName with
    | none => exact unbroken_path hname
    | some asName =>
        show '\r' ∉ name ++ (" as " : Text) ++ asName
        simp only [List.mem_append, not_or]
        exact ⟨⟨unbroken_path hname, has⟩,
          not_mem_of_isWord (isWord_of_isPlainName hasName) (by decide)⟩
  cases names with
  | nil => exact List.not_mem_nil
  | cons first rest =>
      rw [commaList, List.map_cons, Text.join_eq_flatMap, List.mem_append, not_or]
      refine ⟨halias first (List.mem_cons_self ..), fun hmem => ?_⟩
      obtain ⟨text, htext, hmem⟩ := List.mem_flatMap.mp hmem
      obtain ⟨given, hgiven, rfl⟩ := List.mem_map.mp htext
      exact (List.mem_append.mp hmem).elim hcomma (halias given (List.mem_cons_of_mem _ hgiven))

theorem unbroken_import {given : Import} (hplain : given.isPlain = true) : '\r' ∉ given.text := by
  cases given with
  | modules names =>
      have hword : '\r' ∉ ("import " : Text) := by decide +kernel
      rw [Import.text_modules, List.mem_append, not_or]
      exact ⟨hword, unbroken_aliases (List.all_eq_true.mp (Bool.and_eq_true_iff.mp hplain).2)⟩
  | members level module names =>
      have hfrom : '\r' ∉ ("from " : Text) := by decide +kernel
      have himport : '\r' ∉ (" import " : Text) := by decide +kernel
      simp only [Import.isPlain, Bool.and_eq_true, Bool.or_eq_true, decide_eq_true_eq] at hplain
      obtain ⟨⟨-, hmodule⟩, hnames⟩ := hplain
      rw [Import.text_members]
      simp only [List.mem_append, not_or]
      have hdots : '\r' ∉ List.replicate level '.' :=
        fun hmem => absurd (List.eq_of_mem_replicate hmem) (by decide)
      refine ⟨hfrom, hdots, ?_, himport, ?_⟩
      · cases module with
        | none => exact List.not_mem_nil
        | some path => exact unbroken_path hmodule
      · rcases hnames with rfl | ⟨-, hmembers⟩
        · decide +kernel
        · exact unbroken_aliases fun given hgiven =>
            Alias.isPlainModule_of_isPlainMember (List.all_eq_true.mp hmembers given hgiven)

/-- Lines of plain imports are read as these imports. -/
theorem parseModule_imports (characters : CharacterNames) {block : List Import}
    (hne : block ≠ []) (hplain : ∀ given ∈ block, given.isPlain = true) :
    ∃ statements, parseModule characters (ended (block.map Import.text)) = .ok statements ∧
      statements.map Prod.snd = block.map Import.node := by
  have hlast : (ended (block.map Import.text)).getLast? = some '\n' := by
    obtain ⟨front, last, rfl⟩ := (List.eq_nil_or_concat' block).resolve_left hne
    have hended : ended [last.text] = last.text ++ ['\n'] := List.append_nil _
    rw [List.map_append, ended_append, List.map_singleton, hended, ← List.append_assoc,
      List.getLast?_concat]
  have hunbroken : '\r' ∉ ended (block.map Import.text) :=
    unbroken_ended (List.forall_mem_map.mpr fun given hgiven =>
      unbroken_import (hplain given hgiven))
  have htokens := kinds_of_spells characters (spells_imports hplain) hlast hunbroken
  have heach : ∀ parts nesting, ReadsEach .finish (statementAt parts (nesting + 1))
      (fun given : Import => given.kinds ++ [.newline])
      (fun given found => ∃ line, found = [(line, given.node)]) block := by
    intro parts nesting given hgiven
    have hread : ∀ rest, Reads (statementAt parts (nesting + 1))
        (given.kinds ++ [TokenKind.newline] ++ rest) rest
        fun found => ∃ line, found = [(line, given.node)] := by
      intro rest
      rw [List.append_assoc]
      exact Reads.importLine (hplain given hgiven) nesting
    cases given with
    | modules names => exact ⟨List.cons_ne_nil _ _, TokenKind.noConfusion, hread⟩
    | members level module names => exact ⟨List.cons_ne_nil _ _, TokenKind.noConfusion, hread⟩
  have hmodule : Reads (moduleReader (partsAt ((ended (block.map Import.text)).length + 1))
      ((tokensOf characters (ended (block.map Import.text))).length + 1))
      ((block.flatMap fun given => given.kinds ++ [.newline]) ++ [.finish]) []
      fun found => found.map Prod.snd = block.map Import.node := by
    refine Reads.bind (Reads.many_until (heach _ _)) fun found hfound =>
      Reads.bind Reads.expect fun _ _ => Reads.pure ?_
    clear hlast hunbroken htokens heach hplain hne
    induction hfound with
    | nil => rfl
    | cons hfirst _ ih =>
        obtain ⟨line, rfl⟩ := hfirst
        rw [List.flatten_cons, List.map_append, ih]
        rfl
  obtain ⟨statements, rest, hrun, -, hfound⟩ := hmodule _ htokens
  exact ⟨statements, by rw [parseModule, hrun], hfound⟩

end Lines

end MessageForge.Source
