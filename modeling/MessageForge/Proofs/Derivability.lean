import MessageForge.Proofs.Lines
import MessageForge.Proofs.Selections

/-!
# Derivable declarations

Which declarations are derived is told by five conditions, and what is reported
of any other is the first of them that fails. Several may fail at once: a field
can have the name of a member and another that of a parameter, in a type whose
name is nothing but the suffix. A refusal stands where the declaration stands,
and the names that it lists are all that offend and no others.
-/

namespace MessageForge

open Vocabulary

/-! ## Names of types -/

namespace Text

/-- A text loses nothing just if it does not end so. -/
theorem dropSuffix_eq_self_iff {ending text : Text} (hending : ending ≠ []) :
    dropSuffix ending text = text ↔ ¬ ending <:+ text := by
  constructor
  · rintro heq ⟨front, rfl⟩
    rw [dropSuffix_append] at heq
    exact hending (List.self_eq_append_right.mp heq)
  · intro hnot
    rcases dropSuffix_cases ending text with h | h
    · exact h.symm
    · exact absurd ⟨_, h.symm⟩ hnot

end Text

theorem Category.ofTypeName_eq_nil_iff {name : Text} :
    ofTypeName name = [] ↔ name = [] ∨ name = messageSuffix := by
  constructor
  · intro hnil
    have hcases := Text.dropSuffix_cases messageSuffix name
    rw [← ofTypeName, hnil] at hcases
    exact hcases
  · rintro (rfl | rfl) <;> decide

/-! ## Conditions -/

namespace Declaration

/-- The names are those of fields that are among the taken ones, in ascending
order and once each. -/
structure Offends (declaration : Declaration) (taken names : List Text) : Prop where
  mem_iff : ∀ name, name ∈ names ↔ name ∈ declaration.fieldNames ∧ name ∈ taken
  ascending : names.Pairwise fun first second => Text.le first second = true
  nodup : names.Nodup

/-- What a declaration needs to become a message class. -/
structure IsDerivable (declaration : Declaration) : Prop where
  record : declaration.shape = .record
  base : baseField ∈ declaration.fieldNames
  members : ∀ name ∈ declaration.fieldNames, name ∉ generatedMembers
  parameters : ∀ name ∈ declaration.fieldNames, name ∉ constructorParameters
  name : declaration.name ≠ [] ∧ declaration.name ≠ messageSuffix

/-- What is wrong with a declaration that fails a condition and none before it. -/
inductive FirstFault (declaration : Declaration) : Complaint → Prop where
  | shape (hshape : declaration.shape ≠ .record) :
      FirstFault declaration (.notRecord declaration.name declaration.shape declaration.reason)
  | base (hshape : declaration.shape = .record) (hbase : baseField ∉ declaration.fieldNames) :
      FirstFault declaration (.missingBase declaration.name)
  | members {names : List Text} (hshape : declaration.shape = .record)
      (hbase : baseField ∈ declaration.fieldNames)
      (hnames : declaration.Offends generatedMembers names) (hsome : names ≠ []) :
      FirstFault declaration (.memberConflict declaration.name names)
  | parameters {names : List Text} (hshape : declaration.shape = .record)
      (hbase : baseField ∈ declaration.fieldNames)
      (hmembers : ∀ name ∈ declaration.fieldNames, name ∉ generatedMembers)
      (hnames : declaration.Offends constructorParameters names) (hsome : names ≠ []) :
      FirstFault declaration (.parameterRepeat declaration.name names)
  | name (hshape : declaration.shape = .record) (hbase : baseField ∈ declaration.fieldNames)
      (hmembers : ∀ name ∈ declaration.fieldNames, name ∉ generatedMembers)
      (hparameters : ∀ name ∈ declaration.fieldNames, name ∉ constructorParameters)
      (hname : declaration.name = [] ∨ declaration.name = messageSuffix) :
      FirstFault declaration (.bareSuffix declaration.name)

theorem offends_namesAmong (declaration : Declaration) (taken : List Text) :
    declaration.Offends taken (namesAmong declaration.fieldNames taken) where
  mem_iff name := by rw [namesAmong, mem_sortedSet, List.mem_filter, List.contains_iff_mem]
  ascending := pairwise_sortedSet _
  nodup := nodup_sortedSet _

/-- Offending names are settled by the declaration. -/
theorem Offends.eq {declaration : Declaration} {taken first second : List Text}
    (hfirst : declaration.Offends taken first) (hsecond : declaration.Offends taken second) :
    first = second := by
  refine List.Perm.eq_of_pairwise (fun a b _ _ => Text.le_antisymm a b) hfirst.ascending
    hsecond.ascending ((List.perm_ext_iff_of_nodup hfirst.nodup hsecond.nodup).mpr fun name => ?_)
  rw [hfirst.mem_iff, hsecond.mem_iff]

theorem Offends.eq_nil_iff {declaration : Declaration} {taken names : List Text}
    (h : declaration.Offends taken names) :
    names = [] ↔ ∀ name ∈ declaration.fieldNames, name ∉ taken := by
  rw [List.eq_nil_iff_forall_not_mem]
  exact forall_congr' fun name => by rw [h.mem_iff, not_and]

/-! ## Parameters of constructors -/

/-- Without the names of members, a parameter is one that is no member. -/
theorem mem_ownParameters_iff {name : Text} (h : name ∉ generatedMembers) :
    name ∈ ownParameters ↔ name ∈ constructorParameters := by
  rw [ownParameters, List.mem_filter]
  exact ⟨fun hname => hname.1, fun hname => ⟨hname, by simpa using h⟩⟩

theorem offends_ownParameters {declaration : Declaration}
    (h : ∀ name ∈ declaration.fieldNames, name ∉ generatedMembers) :
    declaration.Offends constructorParameters (namesAmong declaration.fieldNames ownParameters) := by
  have hown := declaration.offends_namesAmong ownParameters
  refine ⟨fun name => ?_, hown.ascending, hown.nodup⟩
  rw [hown.mem_iff]
  exact and_congr_right fun hname => mem_ownParameters_iff (h name hname)

/-! ## Checks -/

theorem checkFields_eq (declaration : Declaration) :
    checkFields declaration declaration.fields =
      if baseField ∉ declaration.fieldNames then .error (.missingBase declaration.name)
      else if namesAmong declaration.fieldNames generatedMembers ≠ [] then
        .error (.memberConflict declaration.name
          (namesAmong declaration.fieldNames generatedMembers))
      else if namesAmong declaration.fieldNames ownParameters ≠ [] then
        .error (.parameterRepeat declaration.name
          (namesAmong declaration.fieldNames ownParameters))
      else .ok () := by
  show (if !declaration.fieldNames.contains baseField then _
    else if !(namesAmong declaration.fieldNames generatedMembers).isEmpty then _
    else if !(namesAmong declaration.fieldNames ownParameters).isEmpty then _ else _) = _
  simp only [Bool.not_eq_true', ← Bool.not_eq_true, List.contains_iff_mem, List.isEmpty_iff, ne_eq]
  rfl

/-- A record is refused by the check of its fields or by that of its name. -/
theorem derive_eq_error_of_record {declaration : Declaration} {complaint : Complaint}
    (hshape : declaration.shape = .record)
    (h : checkFields declaration declaration.fields = .error complaint ∨
      checkFields declaration declaration.fields = .ok () ∧
        checkCategory declaration = .error complaint) :
    declaration.derive = .error (declaration.refuse complaint) := by
  rw [derive, recordFields, if_pos hshape, ok_bind]
  rcases h with hfields | ⟨hfields, hcategory⟩
  · rw [hfields]
    rfl
  · rw [hfields, hcategory]
    rfl

theorem checkCategory_eq_error {declaration : Declaration}
    (h : declaration.name = [] ∨ declaration.name = messageSuffix) :
    checkCategory declaration = .error (.bareSuffix declaration.name) := by
  have hnil := Category.ofTypeName_eq_nil_iff.mpr h
  rw [checkCategory, hnil]
  rfl

theorem FirstFault.derive_eq {declaration : Declaration} {complaint : Complaint}
    (h : declaration.FirstFault complaint) :
    declaration.derive = .error (declaration.refuse complaint) := by
  cases h with
  | shape hshape => rw [derive, recordFields, if_neg hshape, error_bind]
  | base hshape hbase =>
      exact derive_eq_error_of_record hshape (.inl (by rw [checkFields_eq, if_pos hbase]))
  | members hshape hbase hnames hsome =>
      have hall := hnames.eq (declaration.offends_namesAmong generatedMembers)
      refine derive_eq_error_of_record hshape (.inl ?_)
      rw [checkFields_eq, if_neg (not_not.mpr hbase), ← hall, if_pos hsome]
  | parameters hshape hbase hmembers hnames hsome =>
      have hnone := (declaration.offends_namesAmong generatedMembers).eq_nil_iff.mpr hmembers
      have hall := hnames.eq (offends_ownParameters hmembers)
      refine derive_eq_error_of_record hshape (.inl ?_)
      rw [checkFields_eq, if_neg (not_not.mpr hbase), if_neg (not_not.mpr hnone), ← hall,
        if_pos hsome]
  | name hshape hbase hmembers hparameters hname =>
      have hnone := (declaration.offends_namesAmong generatedMembers).eq_nil_iff.mpr hmembers
      have hown := (offends_ownParameters hmembers).eq_nil_iff.mpr hparameters
      refine derive_eq_error_of_record hshape (.inr ⟨?_, checkCategory_eq_error hname⟩)
      rw [checkFields_eq, if_neg (not_not.mpr hbase), if_neg (not_not.mpr hnone),
        if_neg (not_not.mpr hown)]

theorem isDerivable_iff {declaration : Declaration} :
    declaration.IsDerivable ↔ ∃ derivation, declaration.derive = .ok derivation := by
  constructor
  · intro h
    have hreserved : ∀ name ∈ declaration.fieldNames, name ∉ reservedNames := fun name hname hmem =>
      (List.mem_append.mp hmem).elim (h.members name hname) fun hown =>
        h.parameters name hname (List.mem_of_mem_filter hown)
    have hcategory : Category.ofTypeName declaration.name ≠ [] := fun hnil =>
      (Category.ofTypeName_eq_nil_iff.mp hnil).elim h.name.1 h.name.2
    exact ⟨⟨declaration, Category.ofTypeName declaration.name,
      declaration.roleShape (Category.ofTypeName declaration.name)⟩, derive_eq_ok_iff.mpr
      ⟨h.record, checkFields_eq_ok_iff.mpr ⟨h.base, hreserved⟩,
        checkCategory_eq_ok_iff.mpr ⟨rfl, hcategory⟩, rfl, rfl⟩⟩
  · rintro ⟨derivation, hderive⟩
    obtain ⟨hshape, hfields, hcategory, -, -⟩ := derive_eq_ok_iff.mp hderive
    obtain ⟨hbase, hreserved⟩ := checkFields_eq_ok_iff.mp hfields
    obtain ⟨hname, hne⟩ := checkCategory_eq_ok_iff.mp hcategory
    have hmembers : ∀ name ∈ declaration.fieldNames, name ∉ generatedMembers :=
      fun name hmem htaken => hreserved name hmem (List.mem_append_left _ htaken)
    refine ⟨hshape, hbase, hmembers, fun name hmem htaken => ?_, ?_⟩
    · exact hreserved name hmem
        (List.mem_append_right _ ((mem_ownParameters_iff (hmembers name hmem)).mpr htaken))
    · rw [← not_or, ← Category.ofTypeName_eq_nil_iff, hname]
      exact hne

/-- A declaration meets all conditions or fails a first one. -/
theorem isDerivable_or_firstFault (declaration : Declaration) :
    declaration.IsDerivable ∨ ∃ complaint, declaration.FirstFault complaint := by
  -- the conditions are tried in the order of the checks, each under those before it
  by_cases hshape : declaration.shape = .record
  swap
  · exact .inr ⟨_, .shape hshape⟩
  by_cases hbase : baseField ∈ declaration.fieldNames
  swap
  · exact .inr ⟨_, .base hshape hbase⟩
  have hnames := declaration.offends_namesAmong generatedMembers
  by_cases hmembers : ∀ name ∈ declaration.fieldNames, name ∉ generatedMembers
  swap
  · exact .inr ⟨_, .members hshape hbase hnames fun hnil => hmembers (hnames.eq_nil_iff.mp hnil)⟩
  have hown := offends_ownParameters hmembers
  by_cases hparameters : ∀ name ∈ declaration.fieldNames, name ∉ constructorParameters
  swap
  · exact .inr ⟨_, .parameters hshape hbase hmembers hown fun hnil =>
      hparameters (hown.eq_nil_iff.mp hnil)⟩
  by_cases hname : declaration.name = [] ∨ declaration.name = messageSuffix
  · exact .inr ⟨_, .name hshape hbase hmembers hparameters hname⟩
  · exact .inl ⟨hshape, hbase, hmembers, hparameters, not_or.mp hname⟩

theorem derive_eq_error_iff {declaration : Declaration} {diagnostic : Diagnostic} :
    declaration.derive = .error diagnostic ↔
      ∃ complaint, declaration.FirstFault complaint ∧ diagnostic = declaration.refuse complaint := by
  constructor
  · intro h
    rcases declaration.isDerivable_or_firstFault with hderivable | ⟨complaint, hfault⟩
    · obtain ⟨derivation, hderive⟩ := isDerivable_iff.mp hderivable
      cases hderive.symm.trans h
    · exact ⟨complaint, hfault, Except.error.inj (h.symm.trans hfault.derive_eq)⟩
  · rintro ⟨complaint, hfault, rfl⟩
    exact hfault.derive_eq

/-! ## Warnings -/

theorem warnings_events {declaration : Declaration} {derivation : Derivation}
    (h : declaration.derive = .ok derivation) :
    derivation.events.filter (·.level = .warning) =
      if messageSuffix <:+ declaration.name then []
      else [.suffixMissing declaration.name declaration.name] := by
  obtain ⟨-, -, hcategory, hsame, -⟩ := derive_eq_ok_iff.mp h
  have hname : Category.ofTypeName declaration.name = derivation.category :=
    (checkCategory_eq_ok_iff.mp hcategory).1
  have hself : derivation.category = declaration.name ↔ ¬ messageSuffix <:+ declaration.name := by
    rw [← hname]
    exact Text.dropSuffix_eq_self_iff (by decide)
  have hroles : ∀ role : RoleShape,
      (constructorEvents declaration.name role ++ interfaceEvents declaration.name role).filter
        (·.level = .warning) = [] := by
    intro role
    cases role <;> rfl
  rw [Derivation.events, hsame, List.append_assoc, List.filter_append, hroles, List.append_nil]
  by_cases hends : messageSuffix <:+ declaration.name
  · rw [if_neg fun heq => hself.mp heq hends, if_pos hends]
    rfl
  · rw [if_pos (hself.mpr hends), if_neg hends, hself.mpr hends]
    rfl

/-- A declaration is derived just if it meets all conditions, and warns then of
its name just if this does not end in the suffix. Any other is refused at its
own place for the first condition that it fails; a field named content counts
as a conflict with a member, never as a repeated parameter. -/
theorem derive_decides (declaration : Declaration) :
    (declaration.IsDerivable ↔ ∃ derivation, declaration.derive = .ok derivation ∧
      derivation.events.filter (·.level = .warning) =
        if messageSuffix <:+ declaration.name then []
        else [.suffixMissing declaration.name declaration.name]) ∧
    (∀ diagnostic, declaration.derive = .error diagnostic ↔
      declaration.FirstFault diagnostic.complaint ∧ diagnostic.complaint.kind = .shape ∧
        diagnostic.source = declaration.source ∧ diagnostic.line = declaration.line) ∧
    (declaration.IsDerivable ∨ ∃ diagnostic, declaration.derive = .error diagnostic) ∧
    (("content" : Text) ∈ declaration.fieldNames → ∀ diagnostic,
      declaration.derive = .error diagnostic →
        (∀ names, diagnostic.complaint = .memberConflict declaration.name names →
          ("content" : Text) ∈ names) ∧
        ∀ names, diagnostic.complaint ≠ .parameterRepeat declaration.name names) := by
  refine ⟨?_, fun diagnostic => ?_, ?_, fun hcontent diagnostic h => ?_⟩
  · rw [isDerivable_iff]
    exact exists_congr fun derivation => ⟨fun h => ⟨h, warnings_events h⟩, fun h => h.1⟩
  · rw [derive_eq_error_iff]
    constructor
    · rintro ⟨complaint, hfault, rfl⟩
      exact ⟨hfault, by cases hfault <;> rfl, rfl, rfl⟩
    · rintro ⟨hfault, -, hsource, hline⟩
      obtain ⟨complaint, source, line⟩ := diagnostic
      cases hsource
      cases hline
      exact ⟨complaint, hfault, rfl⟩
  · exact declaration.isDerivable_or_firstFault.imp_right fun ⟨_, hfault⟩ => ⟨_, hfault.derive_eq⟩
  · obtain ⟨complaint, hfault, rfl⟩ := derive_eq_error_iff.mp h
    have hmember : ("content" : Text) ∈ generatedMembers := by decide
    refine ⟨fun names heq => ?_, fun names heq => ?_⟩
    · cases hfault with
      | members hshape hbase hnames hsome =>
          cases heq
          exact (hnames.mem_iff _).mpr ⟨hcontent, hmember⟩
      | _ => cases heq
    · cases hfault with
      | parameters hshape hbase hmembers hnames hsome => exact hmembers _ hcontent hmember
      | _ => cases heq

end Declaration

end MessageForge
