import MessageForge.Proofs.DraftHistories
import MessageForge.Proofs.ImportReading

/-!
# Bindings of imports

An import statement binds names to what they are imported as, and a name means
what it was bound to last. The import block of a module is read as the imports
that the generated classes need, the imports that are carried over, each where
it stands first, and the import from the typing module. So it can be told for
every name what the block makes of the imports of the text.
-/

namespace MessageForge

open Vocabulary

namespace Source

/-! ## What imports bind -/

def Import.Binds (exports : Exports) (given : Import) (name : Text) : Prop :=
  ∃ referent, (name, referent) ∈ given.bindings exports

section Meanings

variable {exports : Exports} {imports more : List Import} {name : Text} {referent : Referent}

theorem meaning?_append (exports : Exports) (imports more : List Import) (name : Text) :
    meaning? exports (imports ++ more) name =
      (meaning? exports more name).or (meaning? exports imports name) := by
  rw [meaning?, List.flatMap_append, List.reverse_append, List.lookup_append]
  rfl

theorem meaning?_cons (exports : Exports) (given : Import) (rest : List Import) (name : Text) :
    meaning? exports (given :: rest) name =
      (meaning? exports rest name).or (meaning? exports [given] name) :=
  meaning?_append exports [given] rest name

theorem meaning?_eq_none_iff :
    meaning? exports imports name = none ↔ ∀ given ∈ imports, ¬ given.Binds exports name := by
  rw [meaning?, List.lookup_eq_none_iff]
  constructor
  · rintro h given hgiven ⟨referent, hbound⟩
    have hne := h _ (List.mem_reverse.mpr (List.mem_flatMap.mpr ⟨given, hgiven, hbound⟩))
    simp at hne
  · rintro h ⟨other, referent⟩ hmem
    obtain ⟨given, hgiven, hbound⟩ := List.mem_flatMap.mp (List.mem_reverse.mp hmem)
    simp only [bne_iff_ne, ne_eq]
    rintro rfl
    exact h given hgiven ⟨referent, hbound⟩

theorem exists_binds_of_meaning? (h : meaning? exports imports name = some referent) :
    ∃ given ∈ imports, (name, referent) ∈ given.bindings exports := by
  rw [meaning?, List.lookup_eq_some_iff] at h
  obtain ⟨before, behind, hbindings, -⟩ := h
  have hmem : (name, referent) ∈ (imports.flatMap (Import.bindings exports)).reverse := by
    rw [hbindings]
    exact List.mem_append_right _ (List.mem_cons_self ..)
  obtain ⟨given, hgiven, hbound⟩ := List.mem_flatMap.mp (List.mem_reverse.mp hmem)
  exact ⟨given, hgiven, hbound⟩

theorem exists_meaning? {given : Import} (hgiven : given ∈ imports)
    (h : given.Binds exports name) : ∃ referent, meaning? exports imports name = some referent := by
  rw [← Option.ne_none_iff_exists']
  exact fun hnone => meaning?_eq_none_iff.mp hnone given hgiven h

end Meanings

/-! ## The import block -/

def futureImport : Import :=
  .members 0 (some "__future__") [{ name := "annotations" }]

def dataclassImport : Import :=
  .members 0 (some "dataclasses") [{ name := "dataclass" }]

def runtimeImport : Import :=
  .members 0 (some runtimeModule) [{ name := baseRecord }, { name := messageTypeEnum }]

def typingImport : Import :=
  .members 0 (some "typing") [{ name := "Self" }]

/-- The import block of a module with classes. -/
def importBlock (carried : List Import) : List Import :=
  futureImport :: ((dataclassImport :: runtimeImport :: carried).eraseDups ++ [typingImport])

theorem isPlain_importBlock {carried : List Import}
    (hplain : ∀ given ∈ carried, given.isPlain = true) :
    ∀ given ∈ importBlock carried, given.isPlain = true := by
  have hown : ∀ given ∈ [futureImport, dataclassImport, runtimeImport, typingImport],
      given.isPlain = true := by decide +kernel
  simp only [List.forall_mem_cons, List.not_mem_nil, false_implies, implies_true, and_true] at hown
  obtain ⟨hfuture, hdataclass, hruntime, htyping⟩ := hown
  refine List.forall_mem_cons.mpr ⟨hfuture, List.forall_mem_append.mpr ⟨fun given hgiven => ?_,
    List.forall_mem_singleton.mpr htyping⟩⟩
  rcases List.mem_cons.mp (List.mem_eraseDups.mp hgiven) with rfl | hgiven
  · exact hdataclass
  rcases List.mem_cons.mp hgiven with rfl | hgiven
  · exact hruntime
  · exact hplain given hgiven

theorem import?_injective : ∀ {given other : Import}, given.node = other.node → given = other := by
  intro given other h
  have hsame := congrArg Node.import? h
  rw [Import.import?_node, Import.import?_node] at hsame
  exact Option.some.inj hsame

theorem importsOf_of_nodes {statements : List Stmt} {block : List Import}
    (h : statements.map Prod.snd = block.map Import.node) : importsOf statements = block := by
  have hnodes : importsOf statements = (statements.map Prod.snd).filterMap Node.import? := by
    rw [List.filterMap_map]
    rfl
  rw [hnodes, h, List.filterMap_map]
  exact (List.filterMap_congr fun given _ => Import.import?_node given).trans List.filterMap_some

/-- A plain import is known by its line. -/
theorem text_injective {given other : Import} (hgiven : given.isPlain = true)
    (hother : other.isPlain = true) (h : given.text = other.text) : given = other := by
  obtain ⟨statements, hparse, hnodes⟩ := parseModule_imports namelessCharacters
    (List.cons_ne_nil given []) (List.forall_mem_singleton.mpr hgiven)
  obtain ⟨others, hparse', hnodes'⟩ := parseModule_imports namelessCharacters
    (List.cons_ne_nil other []) (List.forall_mem_singleton.mpr hother)
  rw [List.map_singleton, ← h] at hparse'
  cases hparse.symm.trans hparse'
  exact import?_injective (List.singleton_inj.mp (hnodes.symm.trans hnodes'))

theorem eraseDups_map {α β : Type} [BEq α] [LawfulBEq α] [BEq β] [LawfulBEq β] {f : α → β} :
    ∀ {items : List α}, (∀ a ∈ items, ∀ b ∈ items, f a = f b → a = b) →
      (items.map f).eraseDups = items.eraseDups.map f
  | [], _ => rfl
  | a :: rest, h => by
      -- the rest is thinned out before it is looked at, so that no structural recursion will do
      have hfilter : (rest.map f).filter (fun b => !b == f a) =
          (rest.filter fun b => !b == a).map f := by
        rw [List.filter_map]
        refine congrArg (List.map f) (List.filter_congr fun b hb => ?_)
        have hsame : (f b == f a) = (b == a) := by
          rw [Bool.eq_iff_iff, beq_iff_eq, beq_iff_eq]
          exact ⟨h b (List.mem_cons_of_mem _ hb) a (List.mem_cons_self ..), congrArg f⟩
        rw [Function.comp_apply, hsame]
      have hshorter : (rest.filter fun b => !b == a).length < rest.length + 1 :=
        Nat.lt_succ_of_le (List.length_filter_le _ _)
      rw [List.map_cons, List.eraseDups_cons, List.eraseDups_cons, List.map_cons, hfilter,
        eraseDups_map fun b hb c hc => h b (List.mem_cons_of_mem _ (List.mem_of_mem_filter hb)) c
          (List.mem_cons_of_mem _ (List.mem_of_mem_filter hc))]
termination_by items => items.length

end Source

open Source

/-- What is added to a fresh draft of an accepted file with entries. -/
theorem Draft.additions_generate {file : DeclarationFile} (hentries : file.entries ≠ [])
    (h : (Draft.ofFile file).generateAll.2 = none) :
    Step.generate.additions (ofFile file) =
      { lines := moduleLines file, names := ["Self"]
        classes := acceptedClasses file.entries } := by
  have hall : (acceptedClasses file.entries).length = file.entries.length :=
    (extends_acceptedClasses file.entries (ofFile file)).2.mp
      ((addEntries_eq_none_iff (ofFile file)).mpr ((generateAll_eq_none_iff file).mp h))
  have hpositive : (acceptedClasses file.entries).length ≠ 0 := by
    rw [hall]
    exact fun hzero => hentries (List.eq_nil_of_length_eq_zero hzero)
  refine if_pos ⟨hall, ?_⟩
  show 0 + _ ≠ 0
  rwa [Nat.zero_add]

theorem Draft.moduleLines_eq {file : DeclarationFile} {carried : List Import}
    (himports : file.imports = carried.map Import.text) :
    moduleLines file = (dataclassImport :: runtimeImport :: carried).map Import.text := by
  have hdataclass : dataclassImport.text = "from dataclasses import dataclass" := by
    decide +kernel
  have hruntime : runtimeImport.text =
      "from " ++ runtimeModule ++ " import " ++ baseRecord ++ ", " ++ messageTypeEnum := by
    decide +kernel
  rw [moduleLines, himports, List.map_cons, List.map_cons, hdataclass, hruntime]

/-- Plain imports are left out as repetitions if their lines are. -/
theorem eraseDups_map_text {carried : List Import}
    (hplain : ∀ given ∈ carried, given.isPlain = true) :
    ((dataclassImport :: runtimeImport :: carried).map Import.text).eraseDups =
      (dataclassImport :: runtimeImport :: carried).eraseDups.map Import.text := by
  have hblock := isPlain_importBlock hplain
  rw [importBlock, List.forall_mem_cons, List.forall_mem_append] at hblock
  refine eraseDups_map fun given hgiven other hother => ?_
  exact text_injective (hblock.2.1 given (List.mem_eraseDups.mpr hgiven))
    (hblock.2.1 other (List.mem_eraseDups.mpr hother))

/-- The module of an accepted file with entries has just this import block. -/
theorem Draft.importLines_generateAll {file : DeclarationFile} {draft : Draft}
    {carried : List Import} (himports : file.imports = carried.map Import.text)
    (hplain : ∀ given ∈ carried, given.isPlain = true) (hentries : file.entries ≠ [])
    (h : (Draft.ofFile file).generateAll = (draft, none)) :
    draft.importLines = (importBlock carried).map Import.text := by
  have hadds := adds_generateAll (ofFile file)
  rw [additions_generate hentries (by rw [h]), h] at hadds
  have hlines : draft.imports = (moduleLines file).eraseDups := hadds.imports [] rfl
  have hnames : draft.typingNames = [("Self" : Text)] := hadds.typingNames [] rfl
  have hsorted : sortedSet [("Self" : Text)] = [("Self" : Text)] := List.mergeSort_singleton _
  have hfuture : futureImport.text = "from __future__ import annotations" := by decide +kernel
  have htyping : typingImport.text =
      "from typing import " ++ Code.joinParameters [("Self" : Text)] := by decide +kernel
  rw [importLines, hlines, hnames, moduleLines_eq himports, eraseDups_map_text hplain, hsorted,
    importBlock, List.map_cons, List.map_append, List.map_singleton, hfuture, htyping]
  rfl

/-- The import lines of the module are read back as the import block. -/
theorem Draft.exists_importBlock {characters : CharacterNames} {file : DeclarationFile}
    {draft : Draft} {carried : List Import} (himports : file.imports = carried.map Import.text)
    (hplain : ∀ given ∈ carried, given.isPlain = true) (hentries : file.entries ≠ [])
    (h : (Draft.ofFile file).generateAll = (draft, none)) :
    ∃ block, parseModule characters (ended draft.importLines) = .ok block ∧
      importsOf block = importBlock carried := by
  obtain ⟨block, hblock, hnodes⟩ := parseModule_imports characters
    (List.cons_ne_nil _ _ : importBlock carried ≠ []) (isPlain_importBlock hplain)
  refine ⟨block, ?_, importsOf_of_nodes hnodes⟩
  rw [importLines_generateAll himports hplain hentries h]
  exact hblock

namespace Source

/-! ## Meanings in the block -/

/-- What the imports above the carried ones bind. -/
def ownBindings : List (Text × Referent) :=
  [("annotations", .member 0 (some "__future__") "annotations"),
    ("dataclass", .member 0 (some "dataclasses") "dataclass"),
    (baseRecord, .member 0 (some runtimeModule) baseRecord),
    (messageTypeEnum, .member 0 (some runtimeModule) messageTypeEnum)]

/-- What the import below the carried ones binds. -/
def lastBinding : Text × Referent :=
  ("Self", .member 0 (some "typing") "Self")

/-- The carried imports that have a line of their own, each where it stands
first. -/
def furtherImports (carried : List Import) : List Import :=
  (carried.filter (· ≠ dataclassImport)).eraseDups

theorem flatMap_bindings_own (exports : Exports) :
    [futureImport, dataclassImport, runtimeImport].flatMap (Import.bindings exports) =
      ownBindings := by
  have hmembers : [{ name := "annotations" }] ≠ allMembers ∧
      [{ name := "dataclass" }] ≠ allMembers ∧
      [{ name := baseRecord }, { name := messageTypeEnum }] ≠ allMembers := by decide +kernel
  simp only [List.flatMap_cons, List.flatMap_nil, futureImport, dataclassImport, runtimeImport,
    Import.bindings, if_neg hmembers.1, if_neg hmembers.2.1, if_neg hmembers.2.2]
  rfl

theorem bindings_typingImport (exports : Exports) :
    typingImport.bindings exports = [lastBinding] := by
  have hmembers : [{ name := "Self" }] ≠ allMembers := by decide +kernel
  rw [typingImport, Import.bindings, if_neg hmembers]
  rfl

section Block

variable {exports : Exports} {carried : List Import} {name : Text} {referent : Referent}

theorem importBlock_eq (hcarried : ∀ given ∈ carried, given.isOwn = false) :
    importBlock carried = [futureImport, dataclassImport, runtimeImport] ++
      furtherImports carried ++ [typingImport] := by
  have hne : runtimeImport ≠ dataclassImport := by decide +kernel
  have hown : runtimeImport.isOwn = true := by decide +kernel
  -- of the two imports above them, carried ones can only repeat the first
  have hfirst : (runtimeImport :: carried).filter (fun given => !given == dataclassImport) =
      runtimeImport :: carried.filter (· ≠ dataclassImport) := by
    rw [List.filter_cons, if_pos (by simpa using hne)]
    exact congrArg _ (List.filter_congr fun given _ => by rw [beq_eq_decide]; simp)
  have hsecond : (carried.filter (· ≠ dataclassImport)).filter
      (fun given => !given == runtimeImport) = carried.filter (· ≠ dataclassImport) := by
    refine List.filter_eq_self.mpr fun given hgiven => ?_
    have hother := hcarried given (List.mem_of_mem_filter hgiven)
    simp only [Bool.not_eq_true', beq_eq_false_iff_ne, ne_eq]
    rintro rfl
    rw [hown] at hother
    cases hother
  rw [importBlock, List.eraseDups_cons, hfirst, List.eraseDups_cons, hsecond, furtherImports]
  rfl

theorem meaning?_importBlock_last (exports : Exports) (carried : List Import) :
    meaning? exports (importBlock carried) lastBinding.1 = some lastBinding.2 := by
  have htyping : meaning? exports [typingImport] lastBinding.1 = some lastBinding.2 := by
    rw [meaning?, List.flatMap_singleton, bindings_typingImport]
    rfl
  rw [importBlock, ← List.cons_append, meaning?_append, htyping]
  rfl

/-- A name means what the carried imports bind it to last, or else what the
imports above them do. -/
theorem meaning?_importBlock (hcarried : ∀ given ∈ carried, given.isOwn = false)
    (hname : name ≠ lastBinding.1) :
    meaning? exports (importBlock carried) name =
      (meaning? exports (furtherImports carried) name).or (ownBindings.reverse.lookup name) := by
  have htyping : meaning? exports [typingImport] name = none := by
    rw [meaning?, List.flatMap_singleton, bindings_typingImport]
    exact List.lookup_eq_none_iff.mpr (List.forall_mem_singleton.mpr (by simpa using hname))
  have hown : meaning? exports [futureImport, dataclassImport, runtimeImport] name =
      ownBindings.reverse.lookup name := by
    rw [meaning?, flatMap_bindings_own]
  rw [importBlock_eq hcarried, meaning?_append, meaning?_append, htyping, hown, Option.none_or]

theorem lookup_ownBindings (h : (name, referent) ∈ ownBindings) :
    ownBindings.reverse.lookup name = some referent := by
  have hall : ∀ binding ∈ ownBindings,
      ownBindings.reverse.lookup binding.1 = some binding.2 := by decide +kernel
  exact hall _ h

theorem ne_lastBinding_of_own (h : (name, referent) ∈ ownBindings) : name ≠ lastBinding.1 := by
  have hall : ∀ binding ∈ ownBindings, binding.1 ≠ lastBinding.1 := by decide +kernel
  exact hall _ h

theorem mem_furtherImports {given : Import} :
    given ∈ furtherImports carried ↔ given ∈ carried ∧ given ≠ dataclassImport := by
  rw [furtherImports, List.mem_eraseDups, List.mem_filter, decide_eq_true_iff]

end Block

end Source

end MessageForge
