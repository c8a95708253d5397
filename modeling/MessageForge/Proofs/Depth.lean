import Mathlib.Data.List.Perm.Subperm
import MessageForge.Proofs.Messages

/-!
# How deep reads reach

A property is read on the base of its object. The base may be an object with
properties of its own, so that a read follows a chain of bases, each of them a
cell. The chain ends behind fewer steps than there are cells or it does not end
at all. With more fuel than there are cells, then, what a read tells does not
depend on how much there is.
-/

namespace MessageForge.Session

open Vocabulary

/-! ## Classes of accepted declarations -/

/-- Every class is derived from an accepted declaration. -/
def AreDerived (classes : Classes) : Prop :=
  ∀ type ∈ classes, ∃ derivation, type = .ofDerivation derivation ∧
    derivation.declaration.derive = .ok derivation

theorem areDerived_of_ofEntry? {entry : Entry} {type : MessageClass}
    (h : MessageClass.ofEntry? entry = some type) : ∃ derivation, type = .ofDerivation derivation ∧
      derivation.declaration.derive = .ok derivation := by
  cases entry with
  | declaration declaration =>
      rw [MessageClass.ofEntry?] at h
      cases hderive : declaration.derive with
      | error diagnostic => rw [hderive] at h; cases h
      | ok derivation =>
          rw [hderive] at h
          cases h
          obtain ⟨-, -, -, hdeclaration, -⟩ := Declaration.derive_eq_ok_iff.mp hderive
          exact ⟨derivation, rfl, hdeclaration ▸ hderive⟩
  | definition definition =>
      rw [MessageClass.ofEntry?] at h
      cases hnormal : Category.normalize definition.category with
      | error complaint => rw [hnormal] at h; cases h
      | ok category =>
          rw [hnormal] at h
          cases h
          have hbare : (bareRecord category).IsBare category := ⟨rfl, rfl, rfl⟩
          have hne := Text.ne_nil_of_isIdentifier (Category.isIdentifier_of_normalize hnormal)
          exact ⟨_, (ofDerivation_bareRecord category).symm, hbare.derive hne⟩

/-- Every class of a module is that of one of its entries. -/
theorem exists_ofEntry?_of_mapM {entries : List Entry} {classes : Classes}
    (h : entries.mapM MessageClass.ofEntry? = some classes) {type : MessageClass}
    (htype : type ∈ classes) : ∃ entry, MessageClass.ofEntry? entry = some type := by
  induction entries generalizing classes with
  | nil =>
      cases h
      cases htype
  | cons entry rest ih =>
      rw [List.mapM_cons] at h
      obtain ⟨first, hfirst, h⟩ := Option.bind_eq_some_iff.mp h
      obtain ⟨others, hothers, h⟩ := Option.bind_eq_some_iff.mp h
      cases h
      rcases List.mem_cons.mp htype with rfl | hmem
      · exact ⟨entry, hfirst⟩
      · exact ih hothers hmem

theorem areDerived_of_classesOf? {file : DeclarationFile} {classes : Classes}
    (h : classesOf? file = some classes) : AreDerived classes := by
  rw [classesOf?] at h
  obtain ⟨made, hmade, hall⟩ := Option.bind_eq_some_iff.mp h
  split at hall
  · cases hall
    intro type htype
    obtain ⟨entry, hentry⟩ := exists_ofEntry?_of_mapM hmade htype
    exact areDerived_of_ofEntry? hentry
  · cases hall

theorem AreDerived.find? {classes : Classes} (h : AreDerived classes) {name : Text}
    {type : MessageClass} (hfind : Session.find? classes name = some type) :
    ∃ derivation, type = .ofDerivation derivation ∧
      derivation.declaration.derive = .ok derivation :=
  h type (List.mem_reverse.mp (List.mem_of_find?_eq_some hfind))

theorem name_of_find? {classes : Classes} {name : Text} {type : MessageClass}
    (h : find? classes name = some type) : type.name = name :=
  of_decide_eq_true (List.find?_some (p := fun type : MessageClass => type.name = name) h)

/-! ## Properties -/

/-- The properties of a class: its accessors and the role that is not stored. -/
theorem property_cases {derivation : Derivation} {name : Text} {method : Method}
    (h : (MessageClass.ofDerivation derivation).method? name = some method)
    (hkind : method.kind = .property) :
    (∃ type member, (name, type, member) ∈ accessorTable ∧ method = accessor name type member) ∨
      name = roleField ∧ method = roleProperty := by
  obtain rfl : method.name = name := of_decide_eq_true
    (List.find?_some (p := fun method : Method => method.name = name) h)
  have hmem : method ∈ derivation.members := List.mem_of_find?_eq_some h
  rw [Derivation.members, List.mem_append, List.mem_append] at hmem
  rcases hmem with (hconstructor | hmutator) | hinterface
  · rw [Derivation.constructors, constructors, List.mem_pair] at hconstructor
    rcases hconstructor with rfl | rfl
    · cases hkind
    · cases hkind
  · rw [mutators_eq] at hmutator
    obtain ⟨row, -, rfl⟩ := List.mem_map.mp hmutator
    cases hkind
  · rw [Derivation.interface, interfaceMembers, List.mem_append] at hinterface
    rcases hinterface with haccessor | hrole
    · rw [accessors_eq] at haccessor
      obtain ⟨row, hrow, rfl⟩ := List.mem_map.mp haccessor
      exact .inl ⟨row.2.1, row.2.2, hrow, rfl⟩
    · right
      cases hshape : derivation.role with
      | stored field =>
          rw [hshape] at hrole
          cases hrole
      | derived category =>
          rw [hshape] at hrole
          obtain rfl := List.mem_singleton.mp hrole
          exact ⟨rfl, rfl⟩

theorem method?_base (derivation : Derivation) :
    (MessageClass.ofDerivation derivation).method? baseField = none := by
  have hcommon : baseField ∉ commonNames ++ [roleField] := by decide +kernel
  rw [MessageClass.method?, List.find?_eq_none]
  intro method hmethod heq
  have hmem := List.mem_map_of_mem (f := Method.name) hmethod
  rw [of_decide_eq_true heq, names_methods, List.mem_append] at hmem
  rcases hmem with hmem | hmem
  · exact hcommon (List.mem_append_left _ hmem)
  · cases hshape : derivation.role with
    | stored field =>
        rw [hshape] at hmem
        cases hmem
    | derived category =>
        rw [hshape] at hmem
        exact hcommon (List.mem_append_right _ hmem)

/-- An accessor reads the base of its object, and then the member of the base. -/
theorem runMethod_accessor {classes : Classes} (acc : Accessor) (type : MessageClass)
    {name shown member : Text} (hrow : (name, shown, member) ∈ accessorTable) (self : Value) :
    runMethod classes acc type (accessor name shown member) { positional := [self] } =
      acc self baseField .read >>= fun base => acc base member .read := by
  have hpublic : ∀ row ∈ accessorTable, isPrivate row.2.2 = false := by decide
  have hmember : privateName type.name member = member :=
    privateName_of_not_private _ (hpublic _ hrow)
  have hbase : privateName type.name baseField = baseField :=
    privateName_of_not_private _ (by decide)
  have hself : privateName type.name "self" = "self" := privateName_of_not_private _ (by decide)
  rw [runMethod_property _ _ rfl rfl rfl, onBase, evaluate, evaluate, evaluate, Frame.name]
  dsimp only
  rw [hself, hbase, hmember, List.lookup_cons_self]
  rfl

/-- A role that is not stored is made of the message type of the base, by what
`str` means in the module. -/
theorem exists_runMethod_role (classes : Classes) (type : MessageClass) :
    ∃ callee, (callee = .textClass ∨ callee = .messageClass "str") ∧
      ∀ (acc : Accessor) (self : Value),
        runMethod classes acc type roleProperty { positional := [self] } =
          acc self baseField .read >>= fun base => acc base "message_type" .read >>= fun kind =>
            callValue classes callee { positional := [kind] } := by
  have hstr : privateName type.name "str" = "str" := privateName_of_not_private _ (by decide)
  have hself : privateName type.name "self" = "self" := privateName_of_not_private _ (by decide)
  have hbase : privateName type.name baseField = baseField :=
    privateName_of_not_private _ (by decide)
  have hmember : privateName type.name "message_type" = "message_type" :=
    privateName_of_not_private _ (by decide)
  obtain ⟨callee, hmeaning, hkind⟩ : ∃ callee,
      (moduleName? classes "str").or (builtinNames.lookup ("str" : Text)) = some callee ∧
        (callee = .textClass ∨ callee = .messageClass "str") := by
    rw [moduleName?]
    split
    · exact ⟨.messageClass "str", rfl, .inr rfl⟩
    · exact ⟨.textClass, rfl, .inl rfl⟩
  refine ⟨callee, hkind, fun acc self => ?_⟩
  have hlocal : ([("self", self)] : Locals).lookup ("str" : Text) = none := rfl
  rw [runMethod_property _ _ rfl rfl rfl, evaluate, evaluate, Frame.name]
  · dsimp only
    rw [hstr, hlocal, Option.none_or, hmeaning]
    rw [evaluateAll, onBase, evaluate, evaluate, evaluate, Frame.name]
    dsimp only
    rw [hself, hbase, hmember, List.lookup_cons_self, evaluateAll]
    simp only [bind_assoc, pure_bind, Option.some_or]
  · intro owner member hcallee
    cases hcallee

/-! ## Chains of bases -/

section Chains

variable {classes : Classes} {heap : Heap} {member : Text} {owner next : Value}

/-- Reading a member of an object goes on with reading it from another value,
which is the base of the object. -/
def Leads (classes : Classes) (heap : Heap) (member : Text) (owner next : Value) : Prop :=
  ∃ address className attributes type shown, owner = .cell address ∧
    heap[address]? = some (.object (.message className) attributes) ∧
    find? classes className = some type ∧ (member, shown, member) ∈ accessorTable ∧
    attributes.lookup baseField = some next

theorem Leads.unique {other : Value} (h : Leads classes heap member owner next)
    (h' : Leads classes heap member owner other) : next = other := by
  obtain ⟨address, className, attributes, type, shown, rfl, hcell, -, -, hbase⟩ := h
  obtain ⟨address', className', attributes', type', shown', howner, hcell', -, -, hbase'⟩ := h'
  cases howner
  rw [hcell] at hcell'
  cases hcell'
  exact Option.some.inj (hbase.symm.trans hbase')

/-- A chain that ends behind so many steps. -/
inductive EndsIn (classes : Classes) (heap : Heap) (member : Text) : Value → Nat → Prop
  | here {owner : Value} (h : ∀ next, ¬ Leads classes heap member owner next) :
      EndsIn classes heap member owner 0
  | behind {owner next : Value} {steps : Nat} (h : Leads classes heap member owner next)
      (hnext : EndsIn classes heap member next steps) : EndsIn classes heap member owner (steps + 1)

theorem EndsIn.unique {steps steps' : Nat} (h : EndsIn classes heap member owner steps)
    (h' : EndsIn classes heap member owner steps') : steps = steps' := by
  induction h generalizing steps' with
  | here hnot =>
      cases h' with
      | here => rfl
      | behind hleads => exact absurd hleads (hnot _)
  | behind hleads _ ih =>
      cases h' with
      | here hnot => exact absurd hleads (hnot _)
      | behind hleads' hnext' =>
          cases hleads.unique hleads'
          exact congrArg Nat.succ (ih hnext')

/-- The cells of a chain are as many different ones as it has steps. -/
theorem EndsIn.exists_cells {steps : Nat} (h : EndsIn classes heap member owner steps) :
    ∃ addresses : List Nat, addresses.length = steps ∧ addresses.Nodup ∧
      ∀ address ∈ addresses, address < heap.length ∧
        ∃ left, 0 < left ∧ left ≤ steps ∧ EndsIn classes heap member (.cell address) left := by
  induction h with
  | here => exact ⟨[], rfl, List.nodup_nil, List.forall_mem_nil _⟩
  | @behind owner next steps hleads hnext ih =>
      obtain ⟨addresses, hlength, hnodup, hcells⟩ := ih
      have hwhole := EndsIn.behind hleads hnext
      obtain ⟨address, className, attributes, type, shown, rfl, hcell, -⟩ := hleads
      have hinside : address < heap.length := (List.getElem?_eq_some_iff.mp hcell).1
      refine ⟨address :: addresses, congrArg Nat.succ hlength, ?_, ?_⟩
      · refine List.nodup_cons.mpr ⟨fun hmem => ?_, hnodup⟩
        -- from a cell further on there are fewer steps left
        obtain ⟨-, left, -, hfewer, hleft⟩ := hcells address hmem
        have hsame := hleft.unique hwhole
        omega
      · refine List.forall_mem_cons.mpr ⟨⟨hinside, steps + 1, Nat.succ_pos _, Nat.le_refl _, hwhole⟩,
          fun other hother => ?_⟩
        obtain ⟨hlt, left, hpos, hle, hleft⟩ := hcells other hother
        exact ⟨hlt, left, hpos, Nat.le_succ_of_le hle, hleft⟩

theorem EndsIn.le_length {steps : Nat} (h : EndsIn classes heap member owner steps) :
    steps ≤ heap.length := by
  obtain ⟨addresses, hlength, hnodup, hcells⟩ := h.exists_cells
  have hsubset : addresses ⊆ List.range heap.length := fun address hmem =>
    List.mem_range.mpr (hcells address hmem).1
  have hle := (hnodup.subperm hsubset).length_le
  rwa [hlength, List.length_range] at hle

end Chains

/-! ## Reads along a chain -/

/-- A member of the base that an accessor shows. -/
def IsShown (member : Text) : Prop :=
  ∃ row ∈ accessorTable, row.2.2 = member

section Reads

variable {classes : Classes} {heap : Heap} {member : Text} {owner next : Value}

/-- A property of that name shows the very member, and is not the role. -/
theorem IsShown.accessor_eq (h : IsShown member) {derivation : Derivation} {method : Method}
    (hmethod : (MessageClass.ofDerivation derivation).method? member = some method)
    (hkind : method.kind = .property) :
    ∃ shown, (member, shown, member) ∈ accessorTable ∧ method = accessor member shown member := by
  obtain ⟨row, hrow, rfl⟩ := h
  have hsame : ∀ row ∈ accessorTable, row.2.2 ≠ roleField ∧
      ∀ other ∈ accessorTable, other.1 = row.2.2 → other.2.2 = row.2.2 := by decide +kernel
  rcases property_cases hmethod hkind with ⟨shown, member, hother, rfl⟩ | ⟨hrole, -⟩
  · obtain rfl : member = row.2.2 := (hsame row hrow).2 _ hother rfl
    exact ⟨shown, hother, rfl⟩
  · exact absurd hrole (hsame row hrow).1

/-- The base of an object is what the object stores. -/
theorem run_access_baseField (hderived : AreDerived classes) {address : Nat} {className : Text}
    {attributes : List (Text × Value)} {type : MessageClass}
    (hcell : heap[address]? = some (.object (.message className) attributes))
    (htype : find? classes className = some type) (fuel : Nat) :
    (access classes (fuel + 1) (.cell address) baseField .read).run heap =
      (attributes.lookup baseField).elim (.error .attribute, heap) fun base => (.ok base, heap) := by
  obtain ⟨derivation, rfl, -⟩ := hderived.find? htype
  cases hbase : attributes.lookup baseField with
  | some base => exact run_access_stored fuel hcell htype (method?_base derivation) hbase
  | none =>
      rw [run_access_cell fuel _ hcell, accessObjectMember.eq_def]
      dsimp only
      rw [htype, Option.bind_some, method?_base, hbase]
      rfl

/-- A property of an object is run with the fuel that is left. -/
theorem run_access_computed {address : Nat} {className name : Text}
    {attributes : List (Text × Value)} {type : MessageClass} {method : Method}
    (hcell : heap[address]? = some (.object (.message className) attributes))
    (htype : find? classes className = some type) (hmethod : type.method? name = some method)
    (hkind : method.kind = .property) (fuel : Nat) :
    (access classes (fuel + 1) (.cell address) name .read).run heap =
      (runMethod classes (access classes fuel) type method
        { positional := [.cell address] }).run heap := by
  rw [run_access_cell fuel _ hcell, accessObjectMember.eq_def]
  dsimp only
  rw [htype, Option.bind_some, hmethod]
  dsimp only
  rw [if_pos hkind]
  exact congrArg (fun job : Evaluation Value => job.run heap) (bind_pure _)

/-- A read that is led on is the read of the next value with less fuel. -/
theorem run_read_of_leads (hderived : AreDerived classes)
    (h : Leads classes heap member owner next) (fuel : Nat) :
    (access classes (fuel + 2) owner member .read).run heap =
      (access classes (fuel + 1) next member .read).run heap := by
  obtain ⟨address, className, attributes, type, shown, rfl, hcell, htype, hrow, hbase⟩ := h
  have hread := run_access_baseField hderived hcell htype fuel
  rw [hbase, Option.elim_some] at hread
  obtain ⟨derivation, rfl, -⟩ := hderived.find? htype
  rw [run_access_computed hcell htype (method?_accessor derivation hrow) rfl,
    runMethod_accessor _ _ hrow, Stateful.run_bind_ok _ hread]

theorem run_read_one_of_leads (hderived : AreDerived classes)
    (h : Leads classes heap member owner next) :
    (access classes 1 owner member .read).run heap = (.error .depth, heap) := by
  obtain ⟨address, className, attributes, type, shown, rfl, hcell, htype, hrow, hbase⟩ := h
  obtain ⟨derivation, rfl, -⟩ := hderived.find? htype
  rw [run_access_computed hcell htype (method?_accessor derivation hrow) rfl,
    runMethod_accessor _ _ hrow]
  rfl

/-- A value that is neither an object nor one of those that have members without
being stored. -/
def IsMemberless (heap : Heap) (owner : Value) : Prop :=
  (∀ className, owner ≠ .messageClass className) ∧ owner ≠ .typeClass ∧
    (∀ type, owner ≠ .messageType type) ∧
    ∀ objectType attributes, heap.at? owner ≠ some (.object objectType attributes)

theorem IsMemberless.run_access (h : IsMemberless heap owner) (name : Text) (how : Access)
    (fuel : Nat) :
    (access classes (fuel + 1) owner name how).run heap = (.error .attribute, heap) := by
  obtain ⟨hclass, htype, hmember, hobject⟩ := h
  have hget : (cellOf? owner).run heap = (.ok (heap.at? owner), heap) := rfl
  rw [access, Stateful.run_bind_ok _ hget]
  · split
    · next heq => exact absurd heq (hobject _ _)
    · next heq => exact absurd heq (hobject _ _)
    · rfl
  · exact fun className heq => hclass className heq
  · exact fun heq => htype heq
  · exact fun type heq => hmember type heq

/-- An object that has no such property is read without its base. -/
theorem run_read_object {address : Nat} {name : Text} {objectType : ObjectType}
    {attributes : List (Text × Value)}
    (hcell : heap[address]? = some (.object objectType attributes))
    (hplain : ∀ className type method, objectType = .message className →
      find? classes className = some type → type.method? name = some method →
      ¬ method.kind = .property) (fuel fuel' : Nat) :
    (access classes (fuel + 1) (.cell address) name .read).run heap =
      (access classes (fuel' + 1) (.cell address) name .read).run heap := by
  rw [run_access_cell _ _ hcell, run_access_cell _ _ hcell, accessObjectMember.eq_def,
    accessObjectMember.eq_def]
  cases objectType with
  | base => rfl
  | message className =>
      dsimp only
      cases htype : find? classes className with
      | none => rfl
      | some type =>
          rw [Option.bind_some]
          cases hmethod : type.method? name with
          | none => rfl
          | some method =>
              have hkind := hplain className type method rfl htype hmethod
              dsimp only
              rw [if_neg hkind, if_neg hkind]
              cases attributes.lookup name with
              | none => rfl
              | some value => rfl

/-- A read ends with its first step, whatever fuel is left, or it is that of a
property. -/
theorem run_read_cases (classes : Classes) (heap : Heap) (owner : Value) (name : Text) :
    (∀ fuel fuel', (access classes (fuel + 1) owner name .read).run heap =
      (access classes (fuel' + 1) owner name .read).run heap) ∨
    ∃ address className attributes type method, owner = .cell address ∧
      heap[address]? = some (.object (.message className) attributes) ∧
      find? classes className = some type ∧ type.method? name = some method ∧
      method.kind = .property := by
  have hplain : IsMemberless heap owner → ∀ fuel fuel',
      (access classes (fuel + 1) owner name .read).run heap =
        (access classes (fuel' + 1) owner name .read).run heap := by
    intro h fuel fuel'
    rw [h.run_access, h.run_access]
  cases owner with
  | cell address =>
      cases hcell : heap[address]? with
      | none => exact .inl (hplain (by simp [IsMemberless, Heap.at?, hcell]))
      | some cell =>
          cases cell with
          | list items => exact .inl (hplain (by simp [IsMemberless, Heap.at?, hcell]))
          | table entries => exact .inl (hplain (by simp [IsMemberless, Heap.at?, hcell]))
          | object objectType attributes =>
              by_cases hproperty : ∃ className type method, objectType = .message className ∧
                  find? classes className = some type ∧ type.method? name = some method ∧
                  method.kind = .property
              · obtain ⟨className, type, method, rfl, htype, hmethod, hkind⟩ := hproperty
                exact .inr ⟨address, className, attributes, type, method, rfl, hcell, htype,
                  hmethod, hkind⟩
              · exact .inl (run_read_object hcell fun className type method hobject htype hmethod
                  hkind => hproperty ⟨className, type, method, hobject, htype, hmethod, hkind⟩)
  | messageClass className =>
      refine .inl fun fuel fuel' => ?_
      rw [access, access]
      cases find? classes className with
      | none => rfl
      | some type =>
          dsimp only
          rw [accessClassMember, accessClassMember]
  | typeClass => exact .inl fun fuel fuel' => by rw [access, access]
  | messageType type => exact .inl fun fuel fuel' => by rw [access, access]
  | none => exact .inl (hplain (by simp [IsMemberless, Heap.at?]))
  | bool b => exact .inl (hplain (by simp [IsMemberless, Heap.at?]))
  | integer n => exact .inl (hplain (by simp [IsMemberless, Heap.at?]))
  | text t => exact .inl (hplain (by simp [IsMemberless, Heap.at?]))
  | baseClass => exact .inl (hplain (by simp [IsMemberless, Heap.at?]))
  | textClass => exact .inl (hplain (by simp [IsMemberless, Heap.at?]))
  | method member => exact .inl (hplain (by simp [IsMemberless, Heap.at?]))

theorem EndsIn.run_read (hderived : AreDerived classes) (hshown : IsShown member) {steps : Nat}
    (h : EndsIn classes heap member owner steps) (fuel fuel' : Nat) :
    (access classes (fuel + steps + 2) owner member .read).run heap =
      (access classes (fuel' + steps + 2) owner member .read).run heap := by
  induction h with
  | @here owner hnot =>
      rcases run_read_cases classes heap owner member with hsame |
        ⟨address, className, attributes, type, method, rfl, hcell, htype, hmethod, hkind⟩
      · exact hsame (fuel + 1) (fuel' + 1)
      · obtain ⟨derivation, rfl, -⟩ := hderived.find? htype
        obtain ⟨shown, hrow, rfl⟩ := hshown.accessor_eq hmethod hkind
        have hbase : attributes.lookup baseField = none := by
          cases hlookup : attributes.lookup baseField with
          | none => rfl
          | some base =>
              exact absurd
                ⟨address, className, attributes, _, shown, rfl, hcell, htype, hrow, hlookup⟩
                (hnot base)
        have hread : ∀ fuel, (access classes (fuel + 1) (.cell address) baseField .read).run heap =
            (.error .attribute, heap) := by
          intro fuel
          rw [run_access_baseField hderived hcell htype, hbase]
          rfl
        rw [run_access_computed hcell htype hmethod hkind, runMethod_accessor _ _ hrow,
          run_access_computed hcell htype hmethod hkind, runMethod_accessor _ _ hrow,
          Stateful.run_bind_error _ (hread fuel), Stateful.run_bind_error _ (hread fuel')]
  | behind hleads _ ih =>
      -- one step along the chain takes one of the fuel on both sides
      have hstep := run_read_of_leads hderived hleads
      rw [← Nat.add_assoc, ← Nat.add_assoc, hstep, hstep]
      exact ih

theorem exists_leads_of_endless (h : ∀ steps, ¬ EndsIn classes heap member owner steps) :
    ∃ next, Leads classes heap member owner next ∧
      ∀ steps, ¬ EndsIn classes heap member next steps := by
  by_contra hnone
  refine h 0 (.here fun next hnext => hnone ⟨next, hnext, fun steps hsteps => ?_⟩)
  exact h (steps + 1) (.behind hnext hsteps)

/-- Along a chain without an end every fuel runs out. -/
theorem run_read_endless (hderived : AreDerived classes)
    (h : ∀ steps, ¬ EndsIn classes heap member owner steps) (fuel : Nat) :
    (access classes fuel owner member .read).run heap = (.error .depth, heap) := by
  induction fuel generalizing owner with
  | zero => rfl
  | succ fuel ih =>
      obtain ⟨next, hnext, hendless⟩ := exists_leads_of_endless h
      cases fuel with
      | zero => exact run_read_one_of_leads hderived hnext
      | succ fuel =>
          rw [run_read_of_leads hderived hnext]
          exact ih hendless

theorem IsShown.run_read_eq (hshown : IsShown member) (hderived : AreDerived classes)
    (owner : Value) {fuel fuel' : Nat} (hfuel : heap.length + 2 ≤ fuel)
    (hfuel' : heap.length + 2 ≤ fuel') :
    (access classes fuel owner member .read).run heap =
      (access classes fuel' owner member .read).run heap := by
  by_cases hends : ∃ steps, EndsIn classes heap member owner steps
  · obtain ⟨steps, hsteps⟩ := hends
    have hle := hsteps.le_length
    have hread := hsteps.run_read hderived hshown (fuel - (steps + 2)) (fuel' - (steps + 2))
    rwa [Nat.add_assoc, Nat.add_assoc, Nat.sub_add_cancel (by omega),
      Nat.sub_add_cancel (by omega)] at hread
  · have hendless := run_read_endless hderived fun steps hsteps => hends ⟨steps, hsteps⟩
    rw [hendless, hendless]

/-- With more fuel than there are cells, a read tells the same for all fuel. -/
theorem run_read_eq (hderived : AreDerived classes) (owner : Value) (name : Text)
    {fuel fuel' : Nat} (hfuel : heap.length + 3 ≤ fuel) (hfuel' : heap.length + 3 ≤ fuel') :
    (access classes fuel owner name .read).run heap =
      (access classes fuel' owner name .read).run heap := by
  obtain ⟨left, rfl⟩ := Nat.exists_eq_add_of_le' (Nat.le_trans (Nat.le_add_left 1 _) hfuel)
  obtain ⟨left', rfl⟩ := Nat.exists_eq_add_of_le' (Nat.le_trans (Nat.le_add_left 1 _) hfuel')
  rcases run_read_cases classes heap owner name with hsame |
    ⟨address, className, attributes, type, method, rfl, hcell, htype, hmethod, hkind⟩
  · exact hsame left left'
  -- a property reads the base, which is stored, and then a member along the chain of it
  have hbase : ∀ {member : Text}, IsShown member →
      (access classes left (.cell address) baseField .read >>= fun base =>
        access classes left base member .read).run heap =
      (access classes left' (.cell address) baseField .read >>= fun base =>
        access classes left' base member .read).run heap := by
    intro member hshown
    obtain ⟨left, rfl⟩ : ∃ rest, left = rest + 1 := ⟨left - 1, by omega⟩
    obtain ⟨left', rfl⟩ : ∃ rest, left' = rest + 1 := ⟨left' - 1, by omega⟩
    have hread := run_access_baseField hderived hcell htype left
    have hread' := run_access_baseField hderived hcell htype left'
    cases hlookup : attributes.lookup baseField with
    | none =>
        rw [hlookup, Option.elim_none] at hread hread'
        rw [Stateful.run_bind_error _ hread, Stateful.run_bind_error _ hread']
    | some base =>
        rw [hlookup, Option.elim_some] at hread hread'
        rw [Stateful.run_bind_ok _ hread, Stateful.run_bind_ok _ hread']
        exact hshown.run_read_eq hderived base (by omega) (by omega)
  rw [run_access_computed hcell htype hmethod hkind, run_access_computed hcell htype hmethod hkind]
  obtain ⟨derivation, rfl, -⟩ := hderived.find? htype
  rcases property_cases hmethod hkind with ⟨shown, member, hrow, rfl⟩ | ⟨rfl, rfl⟩
  · rw [runMethod_accessor _ _ hrow, runMethod_accessor _ _ hrow]
    exact hbase ⟨_, hrow, rfl⟩
  · obtain ⟨callee, -, hrun⟩ := exists_runMethod_role classes (.ofDerivation derivation)
    have hmember : IsShown "message_type" := ⟨_, List.mem_cons_of_mem _ (List.mem_cons_self ..), rfl⟩
    have hsame := hbase hmember
    rw [hrun, hrun]
    rw [← bind_assoc, ← bind_assoc, Stateful.run_bind, hsame, ← Stateful.run_bind]

end Reads

end MessageForge.Session
