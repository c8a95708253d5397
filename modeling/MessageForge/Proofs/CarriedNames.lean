import MessageForge.Proofs.Bindings

/-!
# Names of carried imports

Annotations are carried along as text and mean what their names are bound to
in the generated module. Names of carried imports are bound there as in the
declaration file, but for the order in which repeated imports stand and for the
last import of the block. Imports from the runtime module are not carried, so
that their other names are lost. In turn a carried import can bind the names
that the generated classes use, all but the one that is imported last.
-/

namespace MessageForge

open Vocabulary Source

/-! ## What becomes of a name -/

section Names

variable {exports : Exports} {imports : List Import} {name : Text} {referent : Referent}

theorem mem_ownBindings_of_dataclassImport
    (h : (name, referent) ∈ dataclassImport.bindings exports) : (name, referent) ∈ ownBindings := by
  rw [← flatMap_bindings_own exports]
  exact List.mem_flatMap.mpr ⟨_, List.mem_cons_of_mem _ (List.mem_cons_self ..), h⟩

/-- The last import that binds a name keeps its effect where repetitions are
left out, if it is none itself. -/
theorem meaning?_eraseDups {front back : List Import} {given : Import} (hfresh : given ∉ front)
    (hback : ∀ other ∈ back, ¬ other.Binds exports name)
    (h : meaning? exports [given] name = some referent) :
    meaning? exports (front ++ given :: back).eraseDups name = some referent := by
  have hkept : (given :: back).removeAll front = given :: back.removeAll front := by
    rw [List.removeAll, List.filter_cons, if_pos (by simpa using hfresh)]
    rfl
  -- behind the import only fewer imports are left, of which none binds the name
  rw [List.eraseDups_append, hkept, List.eraseDups_cons, meaning?_append, meaning?_cons, h]
  have hnone : meaning? exports
      ((back.removeAll front).filter fun other => !other == given).eraseDups name = none := by
    refine meaning?_eq_none_iff.mpr fun other hother => hback other ?_
    exact List.mem_of_mem_filter (List.mem_of_mem_filter (List.mem_eraseDups.mp hother))
  rw [hnone]
  rfl

theorem furtherImports_append (front back : List Import) (given : Import)
    (hgiven : given ≠ dataclassImport) :
    furtherImports (front ++ given :: back) = (front.filter (· ≠ dataclassImport) ++
      given :: back.filter (· ≠ dataclassImport)).eraseDups := by
  rw [furtherImports, List.filter_append, List.filter_cons, if_pos (decide_eq_true hgiven)]

/-- Whether the import gives full paths and none that start from the file. -/
def Source.Import.isAbsolute : Import → Bool
  | .modules _ => true
  | .members level _ _ => level = 0

/-- What becomes of a name in the import block of a module: which of the
bindings in the text it keeps, and which it does not. -/
structure Becomes (exports : Exports) (imports block : List Import) (name : Text) : Prop where
  /-- What a carried import binds is bound. -/
  bound : ∀ given ∈ imports, given.isOwn = false → given.Binds exports name →
    ∃ referent, meaning? exports block name = some referent
  /-- The last import that binds a name is kept if it is carried and new. -/
  latest : name ≠ lastBinding.1 → ∀ front given back, imports = front ++ given :: back →
    given.isOwn = false → given ∉ front → given ≠ dataclassImport →
    (∀ other ∈ back, ¬ other.Binds exports name) →
    ∀ referent, meaning? exports [given] name = some referent →
      meaning? exports imports name = some referent ∧ meaning? exports block name = some referent
  /-- Carried imports that agree on a name are kept. -/
  agreed : name ≠ lastBinding.1 → ∀ referent,
    (∃ given ∈ imports, given.isOwn = false ∧ (name, referent) ∈ given.bindings exports) →
    (∀ given ∈ imports, given.isOwn = false → ∀ other, (name, other) ∈ given.bindings exports →
      other = referent) →
    meaning? exports block name = some referent
  /-- The names that the module imports itself keep their meaning. -/
  own : ∀ referent, (name, referent) ∈ ownBindings →
    (∀ given ∈ imports, given.isOwn = false → ¬ given.Binds exports name) →
    meaning? exports block name = some referent
  /-- All other names that are imported only from the modules left out, by their
  full paths, are lost. -/
  lost : name ≠ lastBinding.1 → (∀ referent, (name, referent) ∉ ownBindings) →
    (∀ given ∈ imports, given.Binds exports name →
      given.isOwn = true ∧ given.isAbsolute = true) →
    meaning? exports block name = none
  /-- The last import of the block comes after all that are carried. -/
  last : name = lastBinding.1 → meaning? exports block name = some lastBinding.2

theorem mem_carried {given : Import} :
    given ∈ imports.filter (!·.isOwn) ↔ given ∈ imports ∧ given.isOwn = false := by
  rw [List.mem_filter, Bool.not_eq_true']

theorem meaning?_importBlock_carried (hname : name ≠ lastBinding.1) :
    meaning? exports (importBlock (imports.filter (!·.isOwn))) name =
      (meaning? exports (furtherImports (imports.filter (!·.isOwn))) name).or
        (ownBindings.reverse.lookup name) :=
  meaning?_importBlock (fun _ hgiven => (mem_carried.mp hgiven).2) hname

theorem meaning?_furtherImports_eq_none
    (h : ∀ given ∈ imports, given.isOwn = false → ¬ given.Binds exports name) :
    meaning? exports (furtherImports (imports.filter (!·.isOwn))) name = none := by
  refine meaning?_eq_none_iff.mpr fun given hgiven => ?_
  obtain ⟨hmem, hown⟩ := mem_carried.mp (mem_furtherImports.mp hgiven).1
  exact h given hmem hown

theorem exists_meaning?_importBlock {given : Import} (hgiven : given ∈ imports)
    (hown : given.isOwn = false) (hbinds : given.Binds exports name) :
    ∃ referent, meaning? exports (importBlock (imports.filter (!·.isOwn))) name = some referent := by
  obtain ⟨referent, hbound⟩ := hbinds
  by_cases hname : name = lastBinding.1
  · exact ⟨_, hname ▸ meaning?_importBlock_last exports _⟩
  rw [meaning?_importBlock_carried hname]
  -- a repetition of the import above is left out, and the one above binds the name
  by_cases hdataclass : given = dataclassImport
  · subst hdataclass
    rw [lookup_ownBindings (mem_ownBindings_of_dataclassImport hbound)]
    cases meaning? exports (furtherImports (imports.filter (!·.isOwn))) name with
    | none => exact ⟨_, rfl⟩
    | some other => exact ⟨other, rfl⟩
  · have hmem := mem_furtherImports.mpr ⟨mem_carried.mpr ⟨hgiven, hown⟩, hdataclass⟩
    obtain ⟨other, hother⟩ := exists_meaning? hmem ⟨referent, hbound⟩
    exact ⟨other, by rw [hother]; rfl⟩

theorem meaning?_importBlock_latest {front back : List Import} {given : Import}
    (hname : name ≠ lastBinding.1) (hown : given.isOwn = false) (hfresh : given ∉ front)
    (hdataclass : given ≠ dataclassImport) (hback : ∀ other ∈ back, ¬ other.Binds exports name)
    (hreferent : meaning? exports [given] name = some referent) :
    meaning? exports (importBlock ((front ++ given :: back).filter (!·.isOwn))) name =
      some referent := by
  rw [meaning?_importBlock_carried hname, List.filter_append, List.filter_cons,
    if_pos (by simpa using hown), furtherImports_append _ _ _ hdataclass,
    meaning?_eraseDups _ _ hreferent]
  · rfl
  · exact fun hmem => hfresh (List.mem_of_mem_filter (List.mem_of_mem_filter hmem))
  · exact fun other hother => hback other
      (List.mem_of_mem_filter (List.mem_of_mem_filter hother))

theorem meaning?_importBlock_agreed {given : Import} (hname : name ≠ lastBinding.1)
    (hgiven : given ∈ imports) (hown : given.isOwn = false)
    (hbound : (name, referent) ∈ given.bindings exports)
    (hagreed : ∀ given ∈ imports, given.isOwn = false →
      ∀ other, (name, other) ∈ given.bindings exports → other = referent) :
    meaning? exports (importBlock (imports.filter (!·.isOwn))) name = some referent := by
  rw [meaning?_importBlock_carried hname]
  cases hfurther : meaning? exports (furtherImports (imports.filter (!·.isOwn))) name with
  | some other =>
      obtain ⟨binder, hbinder, hother⟩ := exists_binds_of_meaning? hfurther
      obtain ⟨hmem, hbinderOwn⟩ := mem_carried.mp (mem_furtherImports.mp hbinder).1
      rw [hagreed binder hmem hbinderOwn other hother]
      rfl
  | none =>
      -- nothing but the import that the module has of itself can be the one
      have hdataclass : given = dataclassImport := by
        by_contra hne
        have hmem := mem_furtherImports.mpr ⟨mem_carried.mpr ⟨hgiven, hown⟩, hne⟩
        exact meaning?_eq_none_iff.mp hfurther given hmem ⟨referent, hbound⟩
      subst hdataclass
      rw [lookup_ownBindings (mem_ownBindings_of_dataclassImport hbound)]
      rfl

theorem meaning?_importBlock_own (hown : (name, referent) ∈ ownBindings)
    (h : ∀ given ∈ imports, given.isOwn = false → ¬ given.Binds exports name) :
    meaning? exports (importBlock (imports.filter (!·.isOwn))) name = some referent := by
  rw [meaning?_importBlock_carried (ne_lastBinding_of_own hown),
    meaning?_furtherImports_eq_none h, lookup_ownBindings hown]
  rfl

theorem meaning?_importBlock_lost (hname : name ≠ lastBinding.1)
    (hown : ∀ referent, (name, referent) ∉ ownBindings)
    (h : ∀ given ∈ imports, given.isOwn = false → ¬ given.Binds exports name) :
    meaning? exports (importBlock (imports.filter (!·.isOwn))) name = none := by
  rw [meaning?_importBlock_carried hname, meaning?_furtherImports_eq_none h, Option.none_or,
    List.lookup_eq_none_iff]
  rintro ⟨other, referent⟩ hmem
  simp only [bne_iff_ne, ne_eq]
  rintro rfl
  exact hown referent (List.mem_reverse.mp hmem)

theorem becomes_importBlock (exports : Exports) (imports : List Import) (name : Text) :
    Becomes exports imports (importBlock (imports.filter (!·.isOwn))) name where
  bound _ hgiven hown hbinds := exists_meaning?_importBlock hgiven hown hbinds
  latest := by
    rintro hname front given back rfl hown hfresh hdataclass hback referent hreferent
    refine ⟨?_, meaning?_importBlock_latest hname hown hfresh hdataclass hback hreferent⟩
    rw [meaning?_append, meaning?_cons, hreferent, meaning?_eq_none_iff.mpr hback]
    rfl
  agreed hname referent := by
    rintro ⟨given, hgiven, hown, hbound⟩ hagreed
    exact meaning?_importBlock_agreed hname hgiven hown hbound hagreed
  own _ hown h := meaning?_importBlock_own hown h
  lost hname hown h := by
    refine meaning?_importBlock_lost hname hown fun given hgiven hcarried hbinds => ?_
    rw [(h given hgiven hbinds).1] at hcarried
    exact Bool.noConfusion hcarried
  last := by
    rintro rfl
    exact meaning?_importBlock_last exports _

end Names

/-! ## Names in annotations -/

/-- For every accepted text with a class, the import block of the module is read
as one that does with each name of the text what is said above. -/
theorem carried_names_resolve {characters : CharacterNames} {text source : Text}
    {file : DeclarationFile} {draft : Draft}
    (hfile : parseDeclarations characters text source = .ok file) (hentries : file.entries ≠ [])
    (hdraft : (Draft.ofFile file).generateAll = (draft, none)) :
    ∃ statements, readStatements characters (some source) text = .ok statements ∧
      ((∀ given ∈ importsOf statements, given.isOwn = false → given.isPlain = true) →
        ∃ block, parseModule characters (ended draft.importLines) = .ok block ∧
          ∀ exports name, Becomes exports (importsOf statements) (importsOf block) name) := by
  obtain ⟨statements, hread, hcontents⟩ := isFileOf_parseDeclarations hfile
  refine ⟨statements, hread, fun hplain => ?_⟩
  have hcarried : ∀ given ∈ carriedOf statements, given.isPlain = true := fun given hgiven =>
    hplain given (mem_carried.mp hgiven).1 (mem_carried.mp hgiven).2
  obtain ⟨block, hblock, himports⟩ :=
    Draft.exists_importBlock hcontents.imports hcarried hentries hdraft
  refine ⟨block, hblock, fun exports name => ?_⟩
  rw [himports]
  exact becomes_importBlock exports (importsOf statements) name

def priceText : Text :=
  "from decimal import Decimal as Price\n\n" ++
    "@derive_base_message\nclass NoteMessage:\n    base: BaseMessageFields\n    price: Price\n"

def priceFile : DeclarationFile where
  path := "notes.py"
  imports := ["from decimal import Decimal as Price"]
  entries := [.declaration { name := "NoteMessage"
                             fields := [⟨"base", "BaseMessageFields"⟩, ⟨"price", "Price"⟩]
                             source := some "notes.py", line := some 4 }]

/-- No module has members that an import of all members would bind. -/
def noExports : Exports :=
  fun _ _ => []

theorem price_resolves :
    ∃ draft block, (Draft.ofFile priceFile).generateAll = (draft, none) ∧
      parseModule namelessCharacters (ended draft.importLines) = .ok block ∧
      meaning? noExports (importsOf block) "Price" =
        some (.member 0 (some "decimal") "Decimal") := by
  have hfile : parseDeclarations namelessCharacters priceText "notes.py" = .ok priceFile := by
    decide +kernel
  have hdraft : (Draft.ofFile priceFile).generateAll =
      ((Draft.ofFile priceFile).generateAll.1, none) := Prod.ext rfl (by decide +kernel)
  have himports :
      (readStatements namelessCharacters (some "notes.py") priceText).toOption.map importsOf =
      some [.members 0 (some "decimal") [{ name := "Decimal", asName := some "Price" }]] := by
    decide +kernel
  obtain ⟨statements, hread, hnames⟩ := carried_names_resolve hfile (List.cons_ne_nil _ _) hdraft
  rw [hread] at himports
  have hstatements := Option.some.inj himports
  have hplain : ∀ given ∈ importsOf statements, given.isOwn = false → given.isPlain = true := by
    rw [hstatements]
    decide +kernel
  obtain ⟨block, hblock, hbecomes⟩ := hnames hplain
  refine ⟨_, block, hdraft, hblock, ?_⟩
  refine ((hbecomes noExports "Price").latest (by decide +kernel) [] _ _ hstatements
    (by decide +kernel) List.not_mem_nil (by decide +kernel) ?_ _ (by decide +kernel)).2
  exact meaning?_eq_none_iff.mp (by decide +kernel)

/-- The base record under another name. -/
def renamedText : Text :=
  "from base_message_generator.messages import BaseMessageFields as Fields\n\n" ++
    "@derive_base_message\nclass HumanMessage:\n    base: Fields\n"

def renamedFile : DeclarationFile where
  path := "chat.py"
  entries := [.declaration { name := "HumanMessage", fields := [⟨"base", "Fields"⟩]
                             source := some "chat.py", line := some 4 }]

theorem renamed_base_is_lost :
    ∃ statements draft block,
      readStatements namelessCharacters (some "chat.py") renamedText = .ok statements ∧
      parseDeclarations namelessCharacters renamedText "chat.py" = .ok renamedFile ∧
      (Draft.ofFile renamedFile).generateAll = (draft, none) ∧
      parseModule namelessCharacters (ended draft.importLines) = .ok block ∧
      meaning? noExports (importsOf statements) "Fields" =
        some (.member 0 (some runtimeModule) baseRecord) ∧
      meaning? noExports (importsOf block) "Fields" = none := by
  have hfile : parseDeclarations namelessCharacters renamedText "chat.py" = .ok renamedFile := by
    decide +kernel
  have hdraft : (Draft.ofFile renamedFile).generateAll =
      ((Draft.ofFile renamedFile).generateAll.1, none) := Prod.ext rfl (by decide +kernel)
  have hmeaning :
      ((readStatements namelessCharacters (some "chat.py") renamedText).toOption.map importsOf).bind
      (meaning? noExports · "Fields") = some (.member 0 (some runtimeModule) baseRecord) := by
    decide +kernel
  obtain ⟨statements, hread, -⟩ := isFileOf_parseDeclarations hfile
  have hnothing : renamedFile.imports = [].map Import.text := rfl
  obtain ⟨block, hblock, himports⟩ := Draft.exists_importBlock hnothing
    (List.forall_mem_nil _) (List.cons_ne_nil _ _) hdraft
  rw [hread] at hmeaning
  refine ⟨statements, _, block, hread, hfile, hdraft, hblock, hmeaning, ?_⟩
  rw [himports]
  decide +kernel

/-! ## Names of the generated classes -/

/-- In the import block of every accepted text with a class, the name that is
imported last means what it should. The others mean what the carried imports
bind them to last, each import where it stands first and but for the one that
the module has of itself, and otherwise what they should. -/
theorem own_names_in_block {characters : CharacterNames} {text source : Text}
    {file : DeclarationFile} {draft : Draft}
    (hfile : parseDeclarations characters text source = .ok file) (hentries : file.entries ≠ [])
    (hdraft : (Draft.ofFile file).generateAll = (draft, none)) :
    ∃ statements, readStatements characters (some source) text = .ok statements ∧
      ((∀ given ∈ carriedOf statements, given.isPlain = true) →
        ∃ block, parseModule characters (ended draft.importLines) = .ok block ∧ ∀ exports,
          meaning? exports (importsOf block) lastBinding.1 = some lastBinding.2 ∧
          ∀ name referent, (name, referent) ∈ ownBindings →
            meaning? exports (importsOf block) name = some ((meaning? exports
              (furtherImports (carriedOf statements)) name).getD referent)) := by
  obtain ⟨statements, hread, hcontents⟩ := isFileOf_parseDeclarations hfile
  refine ⟨statements, hread, fun hplain => ?_⟩
  obtain ⟨block, hblock, himports⟩ :=
    Draft.exists_importBlock hcontents.imports hplain hentries hdraft
  refine ⟨block, hblock, fun exports => ?_⟩
  rw [himports]
  refine ⟨meaning?_importBlock_last exports _, fun name referent hown => ?_⟩
  have hcarried : ∀ given ∈ carriedOf statements, given.isOwn = false :=
    fun given hgiven => (mem_carried.mp hgiven).2
  rw [meaning?_importBlock hcarried (ne_lastBinding_of_own hown), lookup_ownBindings hown]
  cases meaning? exports (furtherImports (carriedOf statements)) name <;> rfl

def pricedText : Text :=
  "from decimal import Decimal\ndefine_message(\"System\")\n"

def pricedFile : DeclarationFile where
  path := "chat.py"
  imports := ["from decimal import Decimal"]
  entries := [.definition { category := "System", source := some "chat.py", line := some 2 }]

theorem decimal_leaves_own_names :
    ∃ draft block, (Draft.ofFile pricedFile).generateAll = (draft, none) ∧
      parseModule namelessCharacters (ended draft.importLines) = .ok block ∧
      meaning? noExports (importsOf block) "Self" = some (.member 0 (some "typing") "Self") ∧
      ∀ binding ∈ ownBindings, meaning? noExports (importsOf block) binding.1 = some binding.2 := by
  have hfile : parseDeclarations namelessCharacters pricedText "chat.py" = .ok pricedFile := by
    decide +kernel
  have hdraft : (Draft.ofFile pricedFile).generateAll =
      ((Draft.ofFile pricedFile).generateAll.1, none) := Prod.ext rfl (by decide +kernel)
  have hcarried :
      (readStatements namelessCharacters (some "chat.py") pricedText).toOption.map carriedOf =
      some [.members 0 (some "decimal") [{ name := "Decimal" }]] := by decide +kernel
  obtain ⟨statements, hread, hnames⟩ := own_names_in_block hfile (List.cons_ne_nil _ _) hdraft
  rw [hread] at hcarried
  have hstatements := Option.some.inj hcarried
  obtain ⟨block, hblock, hmeanings⟩ := hnames (hstatements ▸ by decide +kernel)
  obtain ⟨hlast, hown⟩ := hmeanings noExports
  refine ⟨_, block, hdraft, hblock, hlast, fun binding hbinding => ?_⟩
  have hnone : ∀ binding ∈ ownBindings, meaning? noExports
      (furtherImports [.members 0 (some "decimal") [{ name := "Decimal" }]]) binding.1 = none := by
    decide +kernel
  rw [hown binding.1 binding.2 hbinding, hstatements, hnone binding hbinding]
  rfl

/-- Another decorator of the name that the generated classes use. -/
def attrsText : Text :=
  "from attrs import dataclass\ndefine_message(\"System\")\n"

def attrsFile : DeclarationFile where
  path := "chat.py"
  imports := ["from attrs import dataclass"]
  entries := [.definition { category := "System", source := some "chat.py", line := some 2 }]

theorem other_decorator_comes_last :
    parseDeclarations namelessCharacters attrsText "chat.py" = .ok attrsFile ∧
    ∃ draft block, (Draft.ofFile attrsFile).generateAll = (draft, none) ∧
      parseModule namelessCharacters (ended draft.importLines) = .ok block ∧
      meaning? noExports (importsOf block) "dataclass" =
        some (.member 0 (some "attrs") "dataclass") := by
  have hfile : parseDeclarations namelessCharacters attrsText "chat.py" = .ok attrsFile := by
    decide +kernel
  have hdraft : (Draft.ofFile attrsFile).generateAll =
      ((Draft.ofFile attrsFile).generateAll.1, none) := Prod.ext rfl (by decide +kernel)
  have hcarried : attrsFile.imports =
      [Import.members 0 (some "attrs") [{ name := "dataclass" }]].map Import.text := by
    decide +kernel
  obtain ⟨block, hblock, himports⟩ := Draft.exists_importBlock hcarried (by decide +kernel)
    (List.cons_ne_nil _ _) hdraft
  refine ⟨hfile, _, block, hdraft, hblock, ?_⟩
  rw [himports]
  decide +kernel

end MessageForge
