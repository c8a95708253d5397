import MessageForge.Proofs.Allocation
import MessageForge.Proofs.ClassNames
import MessageForge.Session.Step

/-!
# Conforming objects

Whatever knows nothing of a message but the interface looks for the members of
the interface: accessors are properties of the class, and the role is one too
unless the object stores it. Since a class has each of its names once, no field
hides a member and no member hides a field, and every object that the class
makes has all members of the interface.
-/

namespace MessageForge.Session

open Vocabulary

/-- A class has each name once: those of its fields, those of all members, and
that of the role, which is a property unless a field stores it. So it is
written down, and so its lines are read. -/
structure HasNamesOnce (declaration : Declaration) (derivation : Derivation) : Prop where
  lines : classLines declaration derivation.lines =
    Code.decorator "dataclass" [] :: Code.classHeader declaration.name [] ::
      Code.indent 1 (parameterTexts declaration.fields ++
        (derivation.members.map Method.lines).flatMap ([] :: ·))
  distinct : (declaration.fieldNames ++ derivation.members.map Method.name).Nodup
  names : ∀ name, name ∈ declaration.fieldNames ++ derivation.members.map Method.name ↔
    name ∈ declaration.fieldNames ∨ name ∈ generatedMembers ∨ name = roleField
  role : (∃ method ∈ derivation.members, method.name = roleField ∧ method.kind = .property) ↔
    roleField ∉ declaration.fieldNames
  read : (∀ name ∈ declaration.fieldNames, Text.isIdentifier name = true) →
    introductions [] (classLines declaration derivation.lines) =
      declaration.fieldNames.map .field ++ derivation.members.map Method.introduction

/-- A member that is found on an object without being computed: a property of
its class, or what the object stores where the class has no member. -/
inductive Presents (type : MessageClass) (attributes : List (Text × Value)) (name : Text) : Prop where
  | property {method : Method} (hmethod : type.method? name = some method)
      (hkind : method.kind = .property)
  | stored (hmethod : type.method? name = none) (hstored : (attributes.lookup name).isSome = true)

/-- An object of a class that has each field once and in its order, and presents
the whole interface. No field is hidden by a member. -/
structure IsInstance (heap : Heap) (value : Value) (type : MessageClass)
    (attributes : List (Text × Value)) : Prop where
  object : heap.at? value = some (.object (.message type.name) attributes)
  fields : attributes.map Prod.fst = type.stored
  unhidden : ∀ name ∈ attributes.map Prod.fst, type.method? name = none
  interface : ∀ name ∈ interfaceNames, Presents type attributes name

section Objects

variable {declaration : Declaration} {derivation : Derivation}

/-- The role is stored, if there is a field for it: its annotation is taken for
that of a field. -/
def StoresRole (declaration : Declaration) (reading : Text → Option PseudoField) : Prop :=
  ∀ field ∈ declaration.fields, field.name = roleField → reading field.type = none

/-- The name by which a field is known is that of no member. -/
theorem method?_known (hderive : declaration.derive = .ok derivation) {known : Text}
    (hknown : known ∈ (MessageClass.ofDerivation derivation).fields) :
    (MessageClass.ofDerivation derivation).method? known = none := by
  have hpublic : ∀ name ∈ commonNames ++ [roleField], name.head? ≠ some '_' := by decide
  obtain ⟨name, hname, hsame⟩ := List.mem_map.mp hknown
  obtain rfl := (Declaration.derive_eq_ok_iff.mp hderive).2.2.2.1
  refine method?_eq_none fun hmem => ?_
  obtain ⟨method, hmethod, rfl⟩ := List.mem_map.mp hmem
  -- members have public names, so that the field would have the name of the member
  have heq := eq_of_privateName_eq (hpublic _ (name_mem_of_mem_members hderive hmethod)) hsame
  exact not_mem_names_methods hderive (heq ▸ hname) hmem

/-- A field for the role that is taken for one is stored under its name. -/
theorem roleField_mem_stored {reading : Text → Option PseudoField}
    (hdeclaration : derivation.declaration = declaration)
    (hstores : StoresRole declaration reading) (hfield : roleField ∈ declaration.fieldNames) :
    roleField ∈ (readClass derivation reading).stored := by
  subst hdeclaration
  have hknown : roleField ∈ (readClass derivation reading).fields :=
    List.mem_map.mpr ⟨roleField, hfield, privateName_of_not_private _ (by decide)⟩
  refine List.mem_filter.mpr ⟨hknown, decide_eq_true (List.lookup_eq_none_iff.mpr ?_)⟩
  intro entry hentry
  obtain ⟨field, hmem, htaken, hknown⟩ := exists_field_of_mem_pseudo hentry
  refine bne_iff_ne.mpr fun heq => ?_
  -- only the field of the role itself is known by this name
  have hname := eq_of_privateName_eq (by decide) (hknown.trans heq.symm)
  cases (hstores field hmem hname).symm.trans htaken

theorem presents_interface (hderive : declaration.derive = .ok derivation)
    {reading : Text → Option PseudoField} (hstores : StoresRole declaration reading)
    {attributes : List (Text × Value)}
    (hfields : attributes.map Prod.fst = (readClass derivation reading).stored)
    {name : Text} (hname : name ∈ interfaceNames) :
    Presents (readClass derivation reading) attributes name := by
  have hdeclaration := (Declaration.derive_eq_ok_iff.mp hderive).2.2.2.1
  rcases List.mem_append.mp hname with haccessor | hrole
  · obtain ⟨method, hmethod, rfl⟩ := List.mem_map.mp haccessor
    obtain ⟨⟨name, type, member⟩, hrow, rfl⟩ := List.mem_map.mp hmethod
    exact .property (method?_accessor derivation hrow) rfl
  · obtain rfl := List.mem_singleton.mp hrole
    by_cases hfield : roleField ∈ declaration.fieldNames
    · have hknown := roleField_mem_stored hdeclaration hstores hfield
      exact .stored (method?_field hderive hfield) (isSome_lookup_of_mem (hfields ▸ hknown))
    · exact .property (method?_role hderive hfield) rfl

/-- What the class makes is an instance of it, whatever it is called with. -/
theorem isInstance_of_makeMessage (hderive : declaration.derive = .ok derivation)
    {reading : Text → Option PseudoField} (hstores : StoresRole declaration reading)
    {arguments : Arguments} {heap after : Heap} {value : Value}
    (hmade : (makeMessage (readClass derivation reading) arguments).run heap =
      (.ok value, after)) :
    ∃ attributes, IsInstance after value (readClass derivation reading) attributes := by
  rcases run_makeMessage_cases (readClass derivation reading) arguments with
    ⟨fault, hfault⟩ | ⟨attributes, hbind, hrun⟩
  · cases (hfault heap).symm.trans hmade
  · cases (hrun heap).symm.trans hmade
    have hfields := MessageClass.map_fst_of_bind hbind
    refine ⟨attributes, ?_, hfields, fun name hname => ?_, fun name hname => ?_⟩
    · exact List.getElem?_concat_length
    · rw [hfields] at hname
      exact method?_known hderive (List.mem_of_mem_filter hname)
    · exact presents_interface hderive hstores hfields hname

/-! ## Reading the interface -/

theorem run_hasMembers {classes : Classes} {heap : Heap} {owner : Value} {names : List Text}
    (h : ∀ name ∈ names, ∃ value,
      (accessMember classes owner name .read).run heap = (.ok value, heap)) :
    (hasMembers classes owner names).run heap = (.ok true, heap) := by
  induction names with
  | nil => rfl
  | cons name names ih =>
      obtain ⟨⟨value, hvalue⟩, hrest⟩ := List.forall_mem_cons.mp h
      have hmember : (hasMember classes owner name).run heap = (.ok true, heap) := by
        have hget : (get : Evaluation Heap).run heap = (.ok heap, heap) := rfl
        rw [hasMember, Stateful.run_bind_ok _ hget, hvalue]
        rfl
      rw [hasMembers, Stateful.run_bind_ok _ hmember]
      exact ih hrest

/-- A role that is computed has what it needs: the class of texts is in reach,
and the message type of the base record has a text. -/
structure RoleHasText (classes : Classes) (heap : Heap) (members : List (Text × Value)) : Prop where
  unhidden : find? classes "str" = none
  text : ∃ kind text, members.lookup ("message_type" : Text) = some kind ∧
    plainText (Session.fieldNames classes) heap kind = .ok text

/-- An instance with a base record conforms: all members of the interface can
be read. -/
theorem run_conforms (hderive : declaration.derive = .ok derivation)
    {reading : Text → Option PseudoField} {classes : Classes}
    (hvisible : find? classes declaration.name = some (readClass derivation reading)) {heap : Heap}
    {address : Nat} {attributes members : List (Text × Value)}
    (hinstance : IsInstance heap (.cell address) (readClass derivation reading) attributes)
    (hbased : IsBased heap declaration.name address attributes members)
    (hmembers : members.map Prod.fst = baseFields)
    (hrole : roleField ∉ declaration.fieldNames → RoleHasText classes heap members) :
    (hasMembers classes (.cell address) interfaceNames).run heap = (.ok true, heap) := by
  have hrows : ∀ row ∈ accessorTable, row.2.2 ∈ baseFields := by decide
  refine run_hasMembers fun name hname => ?_
  rw [accessMember_run]
  rcases List.mem_append.mp hname with haccessor | hlast
  · obtain ⟨method, hmethod, rfl⟩ := List.mem_map.mp haccessor
    obtain ⟨⟨name, type, member⟩, hrow, rfl⟩ := List.mem_map.mp hmethod
    obtain ⟨value, hvalue⟩ := Option.isSome_iff_exists.mp
      (isSome_lookup_of_mem (hmembers ▸ hrows _ hrow))
    exact ⟨value, hbased.run_accessor hderive hvisible hrow hvalue _⟩
  · obtain rfl := List.mem_singleton.mp hlast
    -- a stored role is there already, a computed one needs a text to be made
    by_cases hfield : roleField ∈ declaration.fieldNames
    · have hmethod : (readClass derivation reading).method? roleField = none :=
        method?_field hderive hfield
      cases hinstance.interface _ hname with
      | property hproperty => cases hmethod.symm.trans hproperty
      | stored _ hstored =>
          obtain ⟨value, hvalue⟩ := Option.isSome_iff_exists.mp hstored
          exact ⟨value, run_access_stored _ hbased.object hvisible hmethod hvalue⟩
    · obtain ⟨hunhidden, kind, text, hkind, htext⟩ := hrole hfield
      exact ⟨_, hbased.run_role hderive hvisible hfield hunhidden hkind htext _⟩

/-- A class that is derived from distinct fields has each of its names once. In
every module that takes its role for a field, if it has one, all objects that the
class makes have all members of the interface, and none of their fields is
hidden. An object with a base record conforms when it is asked. -/
theorem class_has_each_name_once (hderive : declaration.derive = .ok derivation)
    (hnodup : declaration.fieldNames.Nodup) :
    HasNamesOnce declaration derivation ∧
    ∀ reading, StoresRole declaration reading →
      (∀ arguments heap value after,
        (makeMessage (readClass derivation reading) arguments).run heap = (.ok value, after) →
          ∃ attributes, IsInstance after value (readClass derivation reading) attributes) ∧
      ∀ classes, find? classes declaration.name = some (readClass derivation reading) →
        ∀ heap address attributes members,
          IsInstance heap (.cell address) (readClass derivation reading) attributes →
          IsBased heap declaration.name address attributes members →
          members.map Prod.fst = baseFields →
          (roleField ∉ declaration.fieldNames → RoleHasText classes heap members) →
          ∀ objects key, stored objects key = pure (.cell address) →
            (Step.perform classes objects (.conforms key)).run heap =
              (.ok (.bool true, objects), heap) := by
  refine ⟨⟨?_, nodup_names hderive hnodup, fun name => mem_names_iff hderive,
    role_is_property_iff hderive, introductions_classLines hderive⟩, fun reading hstores =>
      ⟨fun arguments heap value after => isInstance_of_makeMessage hderive hstores, ?_⟩⟩
  · obtain rfl := (Declaration.derive_eq_ok_iff.mp hderive).2.2.2.1
    exact classLines_eq (fields_ne_nil hderive)
  · intro classes hvisible heap address attributes members hinstance hbased hmembers hrole objects
      key hkey
    have hconforms := run_conforms hderive hvisible hinstance hbased hmembers hrole
    have hstored : (stored objects key).run heap = (.ok (.cell address), heap) := by
      rw [hkey]
      rfl
    rw [Step.perform, Stateful.run_bind_ok _ hstored, Stateful.run_bind_ok _ hconforms]
    rfl

end Objects

/-- A declaration with names that are almost that of the role. -/
def nearMisses : Declaration where
  name := "ChatMessage"
  fields := [⟨"Role", "str"⟩, ⟨baseField, baseRecord⟩, ⟨"roles", "list[str]"⟩]

/-- A base record and an object of the class behind it. -/
def nearMissHeap : Heap :=
  [.object .base [("content", .text "hi"), ("example", .bool false),
      ("message_type", .messageType .chat), ("additional_kwargs", .none),
      ("response_metadata", .none), ("id", .none), ("name", .none)],
    .object (.message "ChatMessage") [("Role", .text "user"), (baseField, .cell 0), ("roles", .none)]]

theorem near_misses_leave_role_property :
    nearMisses.fieldNames.Nodup ∧ ∃ derivation, nearMisses.derive = .ok derivation ∧
      HasNamesOnce nearMisses derivation ∧
      (∃ method ∈ derivation.members, method.name = roleField ∧ method.kind = .property) ∧
      (Step.perform [.ofDerivation derivation] [("m", .cell 1)] (.conforms "m")).run nearMissHeap =
        (.ok (.bool true, [("m", .cell 1)]), nearMissHeap) := by
  have hderive : nearMisses.derive = .ok ⟨nearMisses, "Chat", .derived "Chat"⟩ :=
    Declaration.derive_eq_ok_iff.mpr ⟨rfl, checkFields_eq_ok_iff.mpr (by decide), rfl, rfl, rfl⟩
  have hnodup : nearMisses.fieldNames.Nodup := by decide
  obtain ⟨honce, hobjects⟩ := class_has_each_name_once hderive hnodup
  have hstores : StoresRole nearMisses (pseudoField? .plain [] []) := by
    unfold StoresRole
    decide +kernel
  obtain ⟨hmade, hconforms⟩ := hobjects _ hstores
  obtain ⟨attributes, hinstance⟩ := hmade { positional := [.text "user", .cell 0, .none] }
    (nearMissHeap.take 1) (.cell 1) nearMissHeap rfl
  cases hinstance.object
  refine ⟨hnodup, _, hderive, honce, honce.role.mpr (by decide), ?_⟩
  exact hconforms _ rfl _ _ _ _ hinstance ⟨rfl, 0, rfl, rfl⟩ rfl
    (fun _ => ⟨rfl, _, _, rfl, rfl⟩) _ _ rfl

/-- A message whose role is the marker behind which fields are given by keyword. -/
def markedDeclaration : Declaration where
  name := "ChatMessage"
  fields := [⟨baseField, baseRecord⟩, ⟨roleField, "KW_ONLY"⟩]

def markedDerivation : Derivation :=
  { declaration := markedDeclaration, category := "Chat", role := .stored ⟨roleField, "KW_ONLY"⟩ }

def markedFile : DeclarationFile :=
  soleFile "chat.py" ["from dataclasses import KW_ONLY"] markedDeclaration

theorem derive_markedDeclaration : markedDeclaration.derive = .ok markedDerivation := by
  rw [Declaration.derive_eq_ok_iff]
  decide +kernel

theorem hasValidModule_markedFile : hasValidModule Source.namelessCharacters markedFile = true := by
  refine hasValidModule_soleFile [("dataclasses", "KW_ONLY")] (by decide +kernel)
    (by decide +kernel) (by decide +kernel) (by decide +kernel) (by decide +kernel)
    ⟨?_, ?_, ?_⟩ <;> decide +kernel

theorem executes_markedFile : Executes .plain markedFile
    [(MessageClass.ofDerivation markedDerivation).taking [(roleField, .keywordMarker)]] := by
  have hsole : soleClass .plain markedFile markedDerivation =
      (MessageClass.ofDerivation markedDerivation).taking [(roleField, .keywordMarker)] :=
    congrArg (MessageClass.ofDerivation markedDerivation).taking (by decide +kernel)
  have hpossible : ((MessageClass.ofDerivation markedDerivation).taking
      [(roleField, .keywordMarker)]).fault? = none := by decide +kernel
  refine ⟨?_, (executed?_soleFile derive_markedDeclaration).mpr
    ⟨hasValidModule_markedFile, ?_, ?_⟩⟩
  · unfold KeepsUsedNames
    decide +kernel
  · exact (congrArg MessageClass.fault? hsole).trans hpossible
  · exact congrArg (fun type => [type]) hsole.symm

/-- A base record as an answer shows it. -/
def markedBase : View :=
  .base [("content", .text "hi"), ("example", .bool false), ("message_type", .messageType "Chat"),
    ("additional_kwargs", .table []), ("response_metadata", .table []), ("id", .none),
    ("name", .none)]

/-- The objects of this class have no role at all, neither a stored one nor a
property. -/
theorem object_with_marked_role_does_not_conform :
    markedDeclaration.derive = .ok markedDerivation ∧ markedDeclaration.fieldNames.Nodup ∧
      ∃ classes, Executes .plain markedFile classes ∧
        run classes
          [.construct "b" baseRecord { positional := [.text "hi", .bool false, .messageType "Chat"] },
            .construct "m" "ChatMessage" { positional := [.reference "b"] }, .conforms "m"] =
          [.ok markedBase, .ok (.message "ChatMessage" [(baseField, markedBase)]),
            .ok (.bool false)] :=
  ⟨derive_markedDeclaration, by decide, _, executes_markedFile, rfl⟩

end MessageForge.Session
