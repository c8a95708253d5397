import MessageForge.Proofs.Creation

/-!
# Messages in a heap

A message lies in four cells: its own, that of its base record, and those of
the two tables of the base record. Whatever else there is in the heap, its
accessors look through to the base record, its fields show what its cell
stores, and a role that is not stored is the name of its category.
-/

namespace MessageForge.Session

open Vocabulary

/-! ## Members of a class -/

/-- The members that all classes have. -/
def commonNames : List Text :=
  ("new" : Text) :: "new_with_example" :: mutatorTable.map Prod.fst ++ accessorTable.map Prod.fst

theorem names_methods (derivation : Derivation) :
    (MessageClass.ofDerivation derivation).methods.map Method.name =
      commonNames ++ (roleAccessor derivation.role).map Method.name := rfl

theorem nodup_names_methods (derivation : Derivation) :
    ((MessageClass.ofDerivation derivation).methods.map Method.name).Nodup := by
  rw [names_methods]
  cases derivation.role with
  | stored field => exact of_decide_eq_true rfl
  | derived category => exact of_decide_eq_true rfl

theorem method?_of_mem {derivation : Derivation} {method : Method}
    (hmem : method ∈ (MessageClass.ofDerivation derivation).methods) :
    (MessageClass.ofDerivation derivation).method? method.name = some method :=
  find?_name_of_mem (nodup_names_methods derivation) hmem

theorem method?_accessor (derivation : Derivation) {name type member : Text}
    (hrow : (name, type, member) ∈ accessorTable) :
    (MessageClass.ofDerivation derivation).method? name = some (accessor name type member) := by
  have hmem : accessor name type member ∈ accessors := by
    rw [accessors_eq]
    exact List.mem_map_of_mem hrow
  exact method?_of_mem (List.mem_append_right _ (List.mem_append_left _ hmem))

theorem method?_mutator (derivation : Derivation) {name member : Text} {parameter : Parameter}
    (hrow : (name, parameter, member) ∈ mutatorTable) :
    (MessageClass.ofDerivation derivation).method? name = some (mutator name parameter member) := by
  have hmem : mutator name parameter member ∈ mutators := by
    rw [mutators_eq]
    exact List.mem_map_of_mem hrow
  exact method?_of_mem (List.mem_append_left _ (List.mem_append_right _ hmem))

/-- The property that derives a role from the message type. -/
def roleProperty : Method :=
  { kind := .property, name := roleField, returns := some "str"
    body := [.give (.call (.name "str") [onBase "message_type"])] }

section Members

variable {declaration : Declaration} {derivation : Derivation}

theorem roleField?_eq_none_iff (hshape : declaration.shape = .record) :
    declaration.roleField? = none ↔ roleField ∉ declaration.fieldNames := by
  rw [Declaration.roleField?, if_pos hshape, List.find?_eq_none, Declaration.fieldNames,
    List.mem_map]
  simp only [decide_eq_true_iff, not_exists, not_and]

theorem roleAccessor_eq (hderive : declaration.derive = .ok derivation) :
    roleAccessor derivation.role =
      if roleField ∈ declaration.fieldNames then [] else [roleProperty] := by
  obtain ⟨hshape, -, -, -, hrole⟩ := Declaration.derive_eq_ok_iff.mp hderive
  have hiff := roleField?_eq_none_iff hshape
  rw [hrole, Declaration.roleShape]
  cases hfield : declaration.roleField? with
  | none => rw [if_neg (hiff.mp hfield)]; rfl
  | some field =>
      have hmem : roleField ∈ declaration.fieldNames := by
        by_contra hnot
        rw [hiff.mpr hnot] at hfield
        cases hfield
      rw [if_pos hmem]
      rfl

theorem method?_role (hderive : declaration.derive = .ok derivation)
    (hrole : roleField ∉ declaration.fieldNames) :
    (MessageClass.ofDerivation derivation).method? roleField = some roleProperty := by
  have hmem : roleProperty ∈ roleAccessor derivation.role := by
    rw [roleAccessor_eq hderive, if_neg hrole]
    exact List.mem_singleton_self _
  exact method?_of_mem (List.mem_append_right _ (List.mem_append_right _ hmem))

theorem baseField_mem_fieldNames (hderive : declaration.derive = .ok derivation) :
    baseField ∈ declaration.fieldNames :=
  (checkFields_eq_ok_iff.mp (Declaration.derive_eq_ok_iff.mp hderive).2.1).1

/-- No field of a declaration has the name of a member of its class. -/
theorem not_mem_names_methods (hderive : declaration.derive = .ok derivation) {name : Text}
    (hname : name ∈ declaration.fieldNames) :
    name ∉ (MessageClass.ofDerivation derivation).methods.map Method.name := by
  obtain ⟨-, hfields, -, -, -⟩ := Declaration.derive_eq_ok_iff.mp hderive
  have hreserved := (checkFields_eq_ok_iff.mp hfields).2 name hname
  have hcommon : ∀ member ∈ commonNames, member ∈ reservedNames := by decide +kernel
  intro hmem
  rw [names_methods, List.mem_append, roleAccessor_eq hderive] at hmem
  rcases hmem with hmem | hmem
  · exact hreserved (hcommon name hmem)
  · split at hmem
    · cases hmem
    · next hrole =>
        obtain rfl := List.mem_singleton.mp hmem
        exact hrole hname

theorem method?_eq_none {type : MessageClass} {name : Text}
    (h : name ∉ type.methods.map Method.name) : type.method? name = none := by
  rw [MessageClass.method?, List.find?_eq_none]
  intro method hmethod heq
  exact h (of_decide_eq_true heq ▸ List.mem_map_of_mem hmethod)

theorem method?_field (hderive : declaration.derive = .ok derivation) {name : Text}
    (hname : name ∈ declaration.fieldNames) :
    (MessageClass.ofDerivation derivation).method? name = none :=
  method?_eq_none (not_mem_names_methods hderive hname)

end Members

/-! ## Access to members -/

section Access

variable {classes : Classes} {type : MessageClass} {heap : Heap} {address : Nat}
  {className name : Text} {attributes : List (Text × Value)} {method : Method} {value : Value}

theorem run_access_cell {objectType : ObjectType} (fuel : Nat) (how : Access)
    (hcell : heap[address]? = some (.object objectType attributes)) :
    (access classes (fuel + 1) (.cell address) name how).run heap =
      (accessObjectMember classes (access classes fuel) (.cell address)
        (match objectType with
          | .base => none
          | .message className => find? classes className) attributes name how).run heap := by
  have hget : (cellOf? (.cell address)).run heap =
      (.ok (some (.object objectType attributes)), heap) := by
    rw [← hcell]
    rfl
  unfold access
  dsimp only
  rw [Stateful.run_bind_ok _ hget]
  cases objectType <;> rfl

theorem run_access_base (fuel : Nat) (hcell : heap[address]? = some (.object .base attributes))
    (hvalue : attributes.lookup name = some value) :
    (access classes (fuel + 1) (.cell address) name .read).run heap = (.ok value, heap) := by
  rw [run_access_cell fuel _ hcell, accessObjectMember.eq_def]
  dsimp only
  rw [hvalue]
  rfl

/-- An attribute of an object is read as it is stored, if its class has no
member of that name. -/
theorem run_access_stored (fuel : Nat)
    (hcell : heap[address]? = some (.object (.message className) attributes))
    (htype : find? classes className = some type) (hmethod : type.method? name = none)
    (hvalue : attributes.lookup name = some value) :
    (access classes (fuel + 1) (.cell address) name .read).run heap = (.ok value, heap) := by
  rw [run_access_cell fuel _ hcell, accessObjectMember.eq_def]
  dsimp only
  rw [htype, Option.bind_some, hmethod]
  dsimp only
  rw [hvalue]
  rfl

/-- A property is computed with its object, whatever the object stores. -/
theorem run_access_property (fuel : Nat)
    (hcell : heap[address]? = some (.object (.message className) attributes))
    (htype : find? classes className = some type) (hmethod : type.method? name = some method)
    (hkind : method.kind = .property)
    (hrun : (runMethod classes (access classes fuel) type method
      { positional := [.cell address] }).run heap = (.ok value, heap)) :
    (access classes (fuel + 1) (.cell address) name .read).run heap = (.ok value, heap) := by
  rw [run_access_cell fuel _ hcell, accessObjectMember.eq_def]
  dsimp only
  rw [htype, Option.bind_some, hmethod]
  dsimp only
  rw [if_pos hkind, Stateful.run_bind_ok _ hrun]
  rfl

/-- A method that is called on an object gets it as its first argument. -/
theorem run_access_method (fuel : Nat) (arguments : Arguments)
    (hcell : heap[address]? = some (.object (.message className) attributes))
    (htype : find? classes className = some type) (hmethod : type.method? name = some method)
    (hkind : method.kind = .instanceMethod) (hattribute : attributes.lookup name = none) :
    (access classes (fuel + 1) (.cell address) name (.call arguments)).run heap =
      (runMethod classes (access classes fuel) type method
        (arguments.push (.cell address))).run heap := by
  have hproperty : ¬ method.kind = .property := by rw [hkind]; decide
  have hclass : ¬ method.kind = .classMethod := by rw [hkind]; decide
  rw [run_access_cell fuel _ hcell, accessObjectMember.eq_def]
  dsimp only
  rw [htype, Option.bind_some, hmethod]
  dsimp only
  rw [if_neg hproperty, hattribute]
  dsimp only
  rw [if_neg hclass]

end Access

/-! ## Objects with a base record -/

/-- Where a method of a message runs that is called on it. -/
structure Frame.IsOn (frame : Frame) (classes : Classes) (fuel : Nat) (message : Value) : Prop where
  reach : frame.access = Session.access classes (fuel + 1)
  self : frame.meaning? "self" = some message

/-- An object of a class whose base field holds a base record. -/
structure IsBased (heap : Heap) (className : Text) (address : Nat)
    (attributes members : List (Text × Value)) : Prop where
  object : heap[address]? = some (.object (.message className) attributes)
  base : ∃ place, attributes.lookup baseField = some (.cell place) ∧
    heap[place]? = some (.object .base members)

section Based

variable {classes : Classes} {declaration : Declaration} {derivation : Derivation}
  {pseudo : List (Text × PseudoField)} {heap : Heap} {address : Nat}
  {attributes members : List (Text × Value)}

/-- The frame of a property, or of a method with one parameter. -/
theorem runMethod_property (type : MessageClass) (acc : Accessor) {method : Method} {term : Term}
    (hkind : method.kind = .property) (hparameters : method.parameters = [])
    (hbody : method.body = [.give term]) (self : Value) :
    runMethod classes acc type method { positional := [self] } =
      evaluate { classes, className := type.name, access := acc, locals := [("self", self)] }
        term := by
  have hnot : ¬ method.kind = .classMethod := by rw [hkind]; decide
  rw [runMethod, if_neg hnot, hparameters, hbody]
  rfl

theorem IsBased.run_onBase (hbased : IsBased heap declaration.name address attributes members)
    (hderive : declaration.derive = .ok derivation)
    (hvisible : find? classes declaration.name =
      some ((MessageClass.ofDerivation derivation).taking pseudo))
    {frame : Frame} {fuel : Nat} (hframe : frame.IsOn classes fuel (.cell address))
    {member : Text} {value : Value} (hmember : isPrivate member = false)
    (hvalue : members.lookup member = some value) :
    (evaluate frame (onBase member)).run heap = (.ok value, heap) := by
  obtain ⟨place, hplace, hbase⟩ := hbased.base
  have hfield : (evaluate frame (.member (.name "self") baseField)).run heap =
      (.ok (.cell place), heap) := by
    rw [evaluate, Stateful.run_bind_ok _ (run_evaluate_name (by decide) hframe.self heap),
      privateName_of_not_private _ (by decide), hframe.reach]
    exact run_access_stored fuel hbased.object hvisible
      (method?_field hderive (baseField_mem_fieldNames hderive)) hplace
  rw [onBase, evaluate, Stateful.run_bind_ok _ hfield, privateName_of_not_private _ hmember,
    hframe.reach]
  exact run_access_base fuel hbase hvalue

/-- An accessor shows its member of the base record. -/
theorem IsBased.run_accessor (hbased : IsBased heap declaration.name address attributes members)
    (hderive : declaration.derive = .ok derivation)
    (hvisible : find? classes declaration.name =
      some ((MessageClass.ofDerivation derivation).taking pseudo))
    {name type member : Text} (hrow : (name, type, member) ∈ accessorTable) {value : Value}
    (hvalue : members.lookup member = some value) (fuel : Nat) :
    (access classes (fuel + 2) (.cell address) name .read).run heap = (.ok value, heap) := by
  have hpublic : ∀ row ∈ accessorTable, isPrivate row.2.2 = false := by decide
  refine run_access_property (fuel + 1) hbased.object hvisible (method?_accessor derivation hrow)
    rfl ?_
  rw [runMethod_property _ _ rfl rfl rfl]
  refine hbased.run_onBase hderive hvisible ⟨rfl, ?_⟩ (hpublic _ hrow) hvalue
  exact Frame.meaning?_of_lookup List.lookup_cons_self

/-- A role that is not stored is the text of the message type. -/
theorem IsBased.run_role (hbased : IsBased heap declaration.name address attributes members)
    (hderive : declaration.derive = .ok derivation)
    (hvisible : find? classes declaration.name =
      some ((MessageClass.ofDerivation derivation).taking pseudo))
    (hrole : roleField ∉ declaration.fieldNames) (hunhidden : find? classes "str" = none)
    {kind : Value} (hkind : members.lookup ("message_type" : Text) = some kind) {text : Text}
    (htext : plainText (Session.fieldNames classes) heap kind = .ok text) (fuel : Nat) :
    (access classes (fuel + 2) (.cell address) roleField .read).run heap =
      (.ok (.text text), heap) := by
  refine run_access_property (fuel + 1) hbased.object hvisible (method?_role hderive hrole) rfl ?_
  rw [runMethod_property _ _ rfl rfl rfl]
  generalize hframe : Frame.mk classes ((MessageClass.ofDerivation derivation).taking pseudo).name
    (access classes (fuel + 1)) [("self", .cell address)] = frame
  have hself : frame.IsOn classes fuel (.cell address) := by
    rw [← hframe]
    exact ⟨rfl, Frame.meaning?_of_lookup List.lookup_cons_self⟩
  -- no class of the module is in the way of the one that makes texts
  have hmaker : frame.meaning? "str" = some .textClass := by
    rw [← hframe, Frame.meaning?, moduleName?, hunhidden]
    rfl
  have hall : (evaluateAll frame [onBase "message_type"]).run heap = (.ok [kind], heap) :=
    run_evaluateAll_cons (hbased.run_onBase hderive hvisible hself (by decide) hkind) rfl
  have hclasses : frame.classes = classes := by rw [← hframe]
  have hget : (get : Evaluation Heap).run heap = (.ok heap, heap) := rfl
  rw [evaluate, Stateful.run_bind_ok _ (run_evaluate_name (by decide) hmaker heap),
    Stateful.run_bind_ok _ hall]
  · show (textOf frame.classes { positional := [kind] }).run heap = _
    rw [hclasses, textOf, Stateful.run_bind_ok _ hget, htext]
    rfl
  · intro owner member hcallee
    cases hcallee

end Based

/-! ## Messages as records -/

/-- What a message stores besides its category and the fields of its own. -/
structure Record where
  content : Value
  flag : Value
  id : Value
  name : Value
  kwargs : List (Text × Value) := []
  metadata : List (Text × Value) := []

namespace Record

/-- The base record, with its tables at an address and at the next one. -/
def attributes (record : Record) (category : MessageType) (address : Nat) :
    List (Text × Value) :=
  [("content", record.content), ("example", record.flag),
    ("message_type", .messageType category), ("additional_kwargs", .cell address),
    ("response_metadata", .cell (address + 1)), ("id", record.id), ("name", record.name)]

end Record

/-- What a mutator and its accessor are about. -/
inductive Setter where
  | content
  | flag
  | id
  | name
  deriving DecidableEq, Repr

namespace Setter

def method : Setter → Text
  | .content => "set_content"
  | .flag => "set_example"
  | .id => "set_id"
  | .name => "set_name"

def parameter : Setter → Parameter
  | .content => ⟨"new_content", "str"⟩
  | .flag => ⟨"example", "bool"⟩
  | .id => ⟨"id", "str | None"⟩
  | .name => ⟨"name", "str | None"⟩

def accessor : Setter → Text
  | .content => "content"
  | .flag => "is_example"
  | .id => "id"
  | .name => "name"

/-- The member of the base record behind both. -/
def member : Setter → Text
  | .content => "content"
  | .flag => "example"
  | .id => "id"
  | .name => "name"

def get (record : Record) : Setter → Value
  | .content => record.content
  | .flag => record.flag
  | .id => record.id
  | .name => record.name

def set (record : Record) (value : Value) : Setter → Record
  | .content => { record with content := value }
  | .flag => { record with flag := value }
  | .id => { record with id := value }
  | .name => { record with name := value }

theorem row_mem_mutatorTable (setter : Setter) :
    (setter.method, setter.parameter, setter.member) ∈ mutatorTable := by
  cases setter <;> decide

theorem row_mem_accessorTable (setter : Setter) :
    ∃ type, (setter.accessor, type, setter.member) ∈ accessorTable := by
  cases setter
  · exact ⟨"str", by decide⟩
  · exact ⟨"bool", by decide⟩
  · exact ⟨"str | None", by decide⟩
  · exact ⟨"str | None", by decide⟩

theorem lookup_attributes (setter : Setter) (record : Record) (category : MessageType)
    (address : Nat) :
    (record.attributes category address).lookup setter.member = some (setter.get record) := by
  cases setter <;> rfl

theorem assign_attributes (setter : Setter) (record : Record) (value : Value)
    (category : MessageType) (address : Nat) :
    assign setter.member value (record.attributes category address) =
      (setter.set record value).attributes category address := by
  cases setter <;> rfl

end Setter

/-- The tables of a message. -/
inductive Table where
  | kwargs
  | metadata
  deriving DecidableEq, Repr

namespace Table

/-- The accessor, and the member of the base record behind it. -/
def name : Table → Text
  | .kwargs => "additional_kwargs"
  | .metadata => "response_metadata"

def entries (record : Record) : Table → List (Text × Value)
  | .kwargs => record.kwargs
  | .metadata => record.metadata

def address (first : Nat) : Table → Nat
  | .kwargs => first
  | .metadata => first + 1

def put (record : Record) (key : Text) (value : Value) : Table → Record
  | .kwargs => { record with kwargs := assign key value record.kwargs }
  | .metadata => { record with metadata := assign key value record.metadata }

theorem row_mem_accessorTable (table : Table) :
    (table.name, ("dict[str, str]" : Text), table.name) ∈ accessorTable := by
  cases table <;> decide

theorem lookup_attributes (table : Table) (record : Record) (category : MessageType)
    (first : Nat) :
    (record.attributes category first).lookup table.name = some (.cell (table.address first)) := by
  cases table <;> rfl

end Table

/-- The attributes of a message whose base record is two cells behind the first
of its tables. -/
def messageFields (declaration : Declaration) (valueOf : Text → Value) (address : Nat) :
    List (Text × Value) :=
  declaration.fieldNames.map fun name =>
    (name, if name = baseField then .cell (address + 2) else valueOf name)

/-- A message in a heap that stores a record, in four cells from an address on. -/
structure Holds (heap : Heap) (declaration : Declaration) (category : MessageType)
    (valueOf : Text → Value) (address : Nat) (record : Record) : Prop where
  table : ∀ table : Table, heap[table.address address]? = some (.table (table.entries record))
  base : heap[address + 2]? = some (.object .base (record.attributes category address))
  message : heap[address + 3]? =
    some (.object (.message declaration.name) (messageFields declaration valueOf address))

theorem holds_withMessage {declaration : Declaration} {values : List Value}
    (hnodup : declaration.fieldNames.Nodup)
    (hlength : values.length = (extraNames declaration).length) (heap : Heap)
    (category : MessageType) (content flag : Value) :
    Holds (withMessage heap declaration category content flag values) declaration category
      (valueIn (extraNames declaration) values) heap.length
      { content, flag, id := .none, name := .none } where
  table table := by cases table <;> simp [withMessage, Table.address, Table.entries]
  base := by simp [withMessage, newBaseAttributes, Record.attributes]
  message := by
    have hattributes := messageAttributes_eq (.cell (heap.length + 2)) hnodup
      (hlength.trans (congrArg List.length (extraNames_eq declaration)))
    rw [← extraNames_eq] at hattributes
    simp [withMessage, hattributes, messageFields]

section Held

variable {classes : Classes} {declaration : Declaration} {derivation : Derivation}
  {category : MessageType} {heap : Heap} {valueOf : Text → Value} {address : Nat} {record : Record}

theorem lookup_messageFields {name : Text} (hname : name ∈ declaration.fieldNames) :
    (messageFields declaration valueOf address).lookup name =
      some (if name = baseField then .cell (address + 2) else valueOf name) :=
  lookup_map_pair hname

theorem lookup_messageFields_eq_none {name : Text} (hname : name ∉ declaration.fieldNames) :
    (messageFields declaration valueOf address).lookup name = none := by
  rw [List.lookup_eq_none_iff]
  intro entry hentry
  obtain ⟨field, hfield, rfl⟩ := List.mem_map.mp hentry
  exact bne_iff_ne.mpr fun heq => hname (heq ▸ hfield)

/-- A field of a message is read as the message stores it. -/
theorem Holds.run_field (hheld : Holds heap declaration category valueOf address record)
    (h : StandsIn classes declaration derivation category) {name : Text}
    (hname : name ∈ declaration.fieldNames) (fuel : Nat) :
    (access classes (fuel + 1) (.cell (address + 3)) name .read).run heap =
      (.ok (if name = baseField then .cell (address + 2) else valueOf name), heap) :=
  run_access_stored fuel hheld.message h.visible (method?_field h.derive hname)
    (lookup_messageFields hname)

theorem Holds.isBased (hheld : Holds heap declaration category valueOf address record)
    (h : StandsIn classes declaration derivation category) :
    IsBased heap declaration.name (address + 3) (messageFields declaration valueOf address)
      (record.attributes category address) where
  object := hheld.message
  base := ⟨address + 2, by rw [lookup_messageFields (baseField_mem_fieldNames h.derive), if_pos rfl],
    hheld.base⟩

/-- An accessor shows its member of the base record. -/
theorem Holds.run_accessor (hheld : Holds heap declaration category valueOf address record)
    (h : StandsIn classes declaration derivation category) {name type member : Text}
    (hrow : (name, type, member) ∈ accessorTable) {value : Value}
    (hvalue : (record.attributes category address).lookup member = some value) (fuel : Nat) :
    (access classes (fuel + 2) (.cell (address + 3)) name .read).run heap = (.ok value, heap) :=
  (hheld.isBased h).run_accessor h.derive h.visible hrow hvalue fuel

/-- A role that is not stored is the name of the category. -/
theorem Holds.run_role (hheld : Holds heap declaration category valueOf address record)
    (h : StandsIn classes declaration derivation category)
    (hrole : roleField ∉ declaration.fieldNames) (fuel : Nat) :
    (access classes (fuel + 2) (.cell (address + 3)) roleField .read).run heap =
      (.ok (.text category.name), heap) :=
  (hheld.isBased h).run_role h.derive h.visible hrole (h.unhidden _ (by decide)) rfl rfl fuel

end Held

end MessageForge.Session
