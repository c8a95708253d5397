import MessageForge.Proofs.Bindings
import MessageForge.Proofs.Evaluation
import MessageForge.Proofs.Validity

/-!
# Execution of modules

Executing a valid module makes its classes one after the other, and each reads
its annotations by what the module has imported and made until then. The
classes behave as they are written as long as nothing takes the place of the
names that all of them use.
-/

namespace MessageForge.Session

open Vocabulary Source

/-- The names from outside the class that its constructors use. -/
def capturedNames : List Text :=
  [baseRecord, messageTypeEnum]

/-- The names from outside that a generated class uses. -/
def usedNames : List Text :=
  "dataclass" :: "classmethod" :: "property" :: "str" :: capturedNames

/-- Imports leave the names that the classes use: those of the module's own
imports as these bind them, and the names known everywhere unbound. -/
def KeepsUsedNames (surroundings : Surroundings) (imports : List Import) : Prop :=
  ∀ name ∈ usedNames, meaning? surroundings.exports imports name = ownBindings.lookup name

/-- Executing the module of a file leaves these classes, with nothing imported
in the place of what they use. -/
structure Executes (surroundings : Surroundings) (file : DeclarationFile) (classes : Classes) :
    Prop where
  kept : KeepsUsedNames surroundings (moduleImports surroundings.characters file)
  made : executed? surroundings file = .ok classes

/-- The module of a readable file is valid if no keyword names what is in it and
its annotations can stay. -/
theorem hasValidModule_of_isReadable {characters : CharacterNames} {file : DeclarationFile}
    {draft : Draft} (hfile : file.IsReadable) (hdraft : (Draft.ofFile file).generateAll = (draft, none))
    (husable : ∀ entry ∈ file.entries, entry.IsUsable)
    (hallowed : ∀ entry ∈ file.entries, ∀ annotated ∈ annotationsOf entry,
      canAnnotate characters annotated.2 = true) : hasValidModule characters file = true := by
  obtain ⟨statements, hparse, -⟩ := (module_has_listed_classes_iff hfile hdraft).mpr husable
  rw [hasValidModule, hdraft]
  dsimp only
  rw [hparse]
  exact Bool.and_eq_true_iff.mpr ⟨rfl, List.all_eq_true.mpr fun entry hentry =>
    List.all_eq_true.mpr (hallowed entry hentry)⟩

/-! ## Readings of annotations -/

/-- The class of a derivation in a module where annotations are read like this. -/
def readClass (derivation : Derivation) (reading : Text → Option PseudoField) : MessageClass :=
  (MessageClass.ofDerivation derivation).read reading (.declaration derivation.declaration)

section Readings

variable {derivation : Derivation} {reading : Text → Option PseudoField}

/-- All that reading the annotations changes is what is known to be no field. -/
theorem exists_taking_readClass : ∃ pseudo,
    readClass derivation reading = (MessageClass.ofDerivation derivation).taking pseudo :=
  ⟨_, rfl⟩

/-- What is no field is known by the name of a field with such an annotation. -/
theorem exists_field_of_mem_pseudo {entry : Text × PseudoField}
    (h : entry ∈ (readClass derivation reading).pseudo) :
    ∃ field ∈ derivation.declaration.fields, reading field.type = some entry.2 ∧
      privateName derivation.declaration.name field.name = entry.1 := by
  obtain ⟨annotated, hannotated, hkind⟩ := List.mem_filterMap.mp h
  obtain ⟨field, hfield, rfl⟩ := List.mem_map.mp hannotated
  obtain ⟨kind, htaken, rfl⟩ := Option.map_eq_some_iff.mp hkind
  exact ⟨field, hfield, htaken, rfl⟩

/-- The class is plain if each annotation is taken for that of a field, and only
then. -/
theorem pseudo_readClass_eq_nil_iff : (readClass derivation reading).pseudo = [] ↔
    ∀ field ∈ derivation.declaration.fields, reading field.type = none := by
  rw [readClass, MessageClass.read, MessageClass.taking, annotationsOf, List.filterMap_eq_nil_iff,
    List.forall_mem_map]
  simp only [Option.map_eq_none_iff]

theorem readClass_eq_self (h : ∀ field ∈ derivation.declaration.fields, reading field.type = none) :
    readClass derivation reading = .ofDerivation derivation :=
  congrArg (MessageClass.ofDerivation derivation).taking (pseudo_readClass_eq_nil_iff.mpr h)

/-- A class that stores as many fields as are declared takes all of them for
fields. -/
theorem reads_none_of_length
    (h : (readClass derivation reading).stored.length = derivation.declaration.fields.length) :
    ∀ field ∈ derivation.declaration.fields, reading field.type = none := by
  have hlength : (readClass derivation reading).stored.length =
      (readClass derivation reading).fields.length := by
    rw [h, readClass, MessageClass.read, MessageClass.taking, MessageClass.ofDerivation,
      List.length_map, Declaration.fieldNames, List.length_map]
  have hnone := List.length_filter_eq_length_iff.mp hlength
  refine pseudo_readClass_eq_nil_iff.mp (List.eq_nil_iff_forall_not_mem.mpr fun entry hentry => ?_)
  obtain ⟨field, hfield, -, hname⟩ := exists_field_of_mem_pseudo hentry
  have hknown : entry.1 ∈ (readClass derivation reading).fields :=
    List.mem_map.mpr ⟨field.name, List.mem_map_of_mem hfield, hname⟩
  have hlookup := of_decide_eq_true (hnone _ hknown)
  exact absurd (List.lookup_eq_none_iff.mp hlookup entry hentry) (by simp)

/-- Objects store just what is declared if all annotations are taken for those of
fields, and only then. -/
theorem stored_readClass_eq_fields_iff :
    (readClass derivation reading).stored = (MessageClass.ofDerivation derivation).fields ↔
      ∀ field ∈ derivation.declaration.fields, reading field.type = none := by
  constructor
  · intro h
    refine reads_none_of_length ?_
    rw [h, MessageClass.ofDerivation, List.length_map, Declaration.fieldNames, List.length_map]
  · intro h
    rw [readClass_eq_self h]
    exact MessageClass.stored_of_plain rfl

end Readings

/-! ## Classes that are made -/

section Made

variable {surroundings : Surroundings}

theorem fault?_eq_none_of_makeClasses {imports : List Import} : ∀ {entries : List Entry}
    {made classes : Classes}, makeClasses surroundings imports made entries = .ok classes →
      (∀ type ∈ made, type.fault? = none) → ∀ type ∈ classes, type.fault? = none
  | [], _, _, h, hmade => by cases h; exact hmade
  | entry :: rest, made, classes, h, hmade => by
      rw [makeClasses] at h
      split at h
      · cases h
      · dsimp only at h
        split at h
        · cases h
        · next hfault =>
            exact fault?_eq_none_of_makeClasses h
              (List.forall_mem_append.mpr ⟨hmade, List.forall_mem_singleton.mpr hfault⟩)

/-- All classes of a module that has been executed could be made. -/
theorem Executes.fault?_eq_none {file : DeclarationFile} {classes : Classes}
    (h : Executes surroundings file classes) {name : Text} {type : MessageClass}
    (hvisible : find? classes name = some type) : type.fault? = none := by
  have hmade := h.made
  rw [executed?] at hmade
  split at hmade
  · cases hmade
  · exact fault?_eq_none_of_makeClasses hmade (List.forall_mem_nil _) type
      (List.mem_reverse.mp (List.mem_of_find?_eq_some hvisible))

/-- Every entry has its class, which is read behind those of the entries before
it. -/
theorem exists_read_of_makeClasses {imports : List Import} : ∀ {entries : List Entry}
    {made classes : Classes}, makeClasses surroundings imports made entries = .ok classes →
      made <+: classes ∧ ∀ entry ∈ entries, ∃ plain front back,
        MessageClass.ofEntry? entry = some plain ∧
        classes = front ++ plain.read
          (pseudoField? surroundings imports (front.map MessageClass.name)) entry :: back
  | [], _, _, h => by
      cases h
      exact ⟨List.prefix_rfl, fun _ hmem => absurd hmem List.not_mem_nil⟩
  | entry :: rest, made, classes, h => by
      rw [makeClasses] at h
      split at h
      · cases h
      · next plain hplain =>
          dsimp only at h
          split at h
          · cases h
          · obtain ⟨⟨back, hback⟩, hrest⟩ := exists_read_of_makeClasses h
            rw [List.append_assoc, List.singleton_append] at hback
            exact ⟨⟨_, hback⟩,
              List.forall_mem_cons.mpr ⟨⟨plain, made, back, hplain, hback.symm⟩, hrest⟩⟩

/-- The class of a declaration in a module that has been executed. -/
theorem exists_readClass_of_executed? {file : DeclarationFile} {classes : Classes}
    {declaration : Declaration} (h : executed? surroundings file = .ok classes)
    (hmem : .declaration declaration ∈ file.entries) :
    ∃ derivation front back, declaration.derive = .ok derivation ∧
      classes = front ++ readClass derivation
        (pseudoField? surroundings (moduleImports surroundings.characters file)
          (front.map MessageClass.name)) :: back := by
  rw [executed?] at h
  split at h
  · cases h
  · obtain ⟨plain, front, back, hplain, hread⟩ := (exists_read_of_makeClasses h).2 _ hmem
    rw [MessageClass.ofEntry?] at hplain
    split at hplain
    · next derivation hderive =>
        cases hplain
        obtain ⟨-, -, -, hdeclaration, -⟩ := Declaration.derive_eq_ok_iff.mp hderive
        refine ⟨derivation, front, back, hderive, ?_⟩
        rwa [readClass, hdeclaration]
    · cases hplain

/-! ## Modules with one class -/

/-- The file with one declaration and some imports. -/
def soleFile (path : Text) (imports : List Text) (declaration : Declaration) : DeclarationFile :=
  { path, imports, entries := [.declaration declaration] }

/-- A file with one declaration is readable if all that it consists of are plain
words: its imports are of single members, and its types are names. -/
theorem isReadable_soleFile {path : Text} {members : List (Text × Text)}
    {declaration : Declaration}
    (hpath : ((Path.name path).all fun c => c ≠ '"' && c ≠ '\\' && c ≠ '\r') = true)
    (hmembers : ∀ member ∈ members, isNameWord member.1 = true ∧ isNameWord member.2 = true)
    (hname : Text.isIdentifier declaration.name = true)
    (hfields : ∀ field ∈ declaration.fields,
      isNameWord field.name = true ∧ isNameWord field.type = true) :
    (soleFile path (members.map fun member => (importRow member.1 member.2).text)
      declaration).IsReadable where
  unquoted c hc := by
    have hplain := List.all_eq_true.mp hpath c hc
    simp only [Bool.and_eq_true, decide_eq_true_iff] at hplain
    exact hplain.1
  unbroken hmem := by simpa using List.all_eq_true.mp hpath _ hmem
  imports line hline := by
    obtain ⟨member, hmember, rfl⟩ := List.mem_map.mp hline
    exact ⟨_, readsLine_importRow (hmembers member hmember).1 (hmembers member hmember).2⟩
  declarations := List.forall_mem_singleton.mpr
    { name := hname
      fieldNames := fun field hfield => (hfields field hfield).1
      fieldTypes := fun field hfield => isReadableType_word (hfields field hfield).2 }

/-- Such a file has a valid module if the names in it are no keywords. -/
theorem hasValidModule_soleFile {characters : CharacterNames} {path : Text}
    (members : List (Text × Text)) {declaration : Declaration}
    (hpath : ((Path.name path).all fun c => c ≠ '"' && c ≠ '\\' && c ≠ '\r') = true)
    (hmembers : ∀ member ∈ members, isNameWord member.1 = true ∧ isNameWord member.2 = true)
    (hname : Text.isIdentifier declaration.name = true)
    (hfields : ∀ field ∈ declaration.fields, isNameWord field.name = true ∧
      isNameWord field.type = true ∧ canAnnotate characters field.type = true)
    (hmade : ((Draft.ofFile (soleFile path (members.map fun member =>
      (importRow member.1 member.2).text) declaration)).generateAll.2) = none)
    (husable : Entry.IsUsable (.declaration declaration)) :
    hasValidModule characters (soleFile path (members.map fun member =>
      (importRow member.1 member.2).text) declaration) = true := by
  refine hasValidModule_of_isReadable
    (isReadable_soleFile hpath hmembers hname fun field hfield =>
      ⟨(hfields field hfield).1, (hfields field hfield).2.1⟩)
    (Prod.ext rfl hmade) (List.forall_mem_singleton.mpr husable)
    (List.forall_mem_singleton.mpr fun annotated hannotated => ?_)
  obtain ⟨field, hfield, rfl⟩ := List.mem_map.mp hannotated
  exact (hfields field hfield).2.2

/-- The class of the only declaration of a module, as it is made there. -/
def soleClass (surroundings : Surroundings) (file : DeclarationFile) (derivation : Derivation) :
    MessageClass :=
  readClass derivation (pseudoField? surroundings (moduleImports surroundings.characters file) [])

/-- All annotations of the only declaration of a module are taken for those of
fields. -/
def TakesAllFields (surroundings : Surroundings) (file : DeclarationFile)
    (declaration : Declaration) : Prop :=
  ∀ field ∈ declaration.fields,
    pseudoField? surroundings (moduleImports surroundings.characters file) [] field.type = none

theorem soleClass_eq_self {file : DeclarationFile} {derivation : Derivation}
    (h : TakesAllFields surroundings file derivation.declaration) :
    soleClass surroundings file derivation = .ofDerivation derivation :=
  readClass_eq_self h

theorem makeClasses_single {imports : List Import} {entry : Entry} {plain type : MessageClass}
    (hplain : MessageClass.ofEntry? entry = some plain)
    (htype : plain.read (pseudoField? surroundings imports []) entry = type) :
    makeClasses surroundings imports [] [entry] = type.fault?.elim (.ok [type]) .error := by
  have hread : plain.read (pseudoField? surroundings imports
      (([] : Classes).map MessageClass.name)) entry = type := htype
  rw [makeClasses, hplain]
  dsimp only
  rw [hread]
  cases type.fault? <;> rfl

/-- The only class of a module is made if the module is valid and nothing is
wrong with the class. -/
theorem executed?_soleFile {path : Text} {imports : List Text} {declaration : Declaration}
    {derivation : Derivation} {classes : Classes} (hderive : declaration.derive = .ok derivation) :
    executed? surroundings (soleFile path imports declaration) = .ok classes ↔
      hasValidModule surroundings.characters (soleFile path imports declaration) = true ∧
        (soleClass surroundings (soleFile path imports declaration) derivation).fault? = none ∧
        classes = [soleClass surroundings (soleFile path imports declaration) derivation] := by
  have hdeclaration := (Declaration.derive_eq_ok_iff.mp hderive).2.2.2.1
  have hentry : MessageClass.ofEntry? (.declaration declaration) =
      some (MessageClass.ofDerivation derivation) := by
    rw [MessageClass.ofEntry?, hderive]
  have hgrammar : (soleFile path imports declaration).entries.filterMap MessageClass.ofEntry? =
      [MessageClass.ofDerivation derivation] := by
    rw [soleFile, List.filterMap_cons, hentry]
    rfl
  generalize htype : soleClass surroundings (soleFile path imports declaration) derivation = type
  have hmake : makeClasses surroundings
      (moduleImports surroundings.characters (soleFile path imports declaration)) []
      (soleFile path imports declaration).entries = type.fault?.elim (.ok [type]) .error :=
    makeClasses_single hentry (by rw [← htype, soleClass, readClass, hdeclaration])
  have hsame : (MessageClass.ofDerivation derivation).isUngrammatical = type.isUngrammatical := by
    rw [← htype]
    rfl
  rw [executed?, hgrammar, List.any_cons, List.any_nil, Bool.or_false, hsame, hmake]
  cases hvalid : hasValidModule surroundings.characters (soleFile path imports declaration) with
  | false => exact iff_of_false (by rintro ⟨⟩) fun h => Bool.false_ne_true h.1
  | true =>
      cases hgrammatical : type.isUngrammatical with
      | true =>
          have hfault : type.fault? = some .grammar := by
            rw [MessageClass.fault?, if_pos hgrammatical]
          rw [hfault]
          exact iff_of_false (by rintro ⟨⟩) fun h => Option.some_ne_none _ h.2.1
      | false =>
          cases type.fault? with
          | some fault => exact iff_of_false (by rintro ⟨⟩) fun h => Option.some_ne_none _ h.2.1
          | none => exact ⟨fun h => ⟨rfl, rfl, (Except.ok.inj h).symm⟩, fun h => h.2.2 ▸ rfl⟩

end Made

end MessageForge.Session
