import MessageForge.Proofs.Allocation
import MessageForge.Proofs.Edits

/-!
# Messages in blocks

A message of any class lies in a block of four cells, as a constructor has made
them. What is read from it depends on these cells alone, its mutators write to
the base record among them, and an item of a table is put into the cell of the
table. That needs neither usable names of fields nor a class whose names nothing
hides.
-/

namespace MessageForge.Session

open Vocabulary

/-! ## Reads of a message -/

/-- The values that a cell holds. -/
def Cell.values : Cell → List Value
  | .list items => items
  | .table entries => entries.map Prod.snd
  | .object _ attributes => attributes.map Prod.snd

/-- A cell of a heap holds another one. -/
def PointsTo (heap : Heap) (address target : Nat) : Prop :=
  ∃ cell, heap[address]? = some cell ∧ .cell target ∈ cell.values

/-- What a read comes to: a result, or an object that is made for it. -/
inductive Reading where
  | held (result : Except Fault Value)
  | made (cell : Cell)

namespace Reading

def run : Reading → Heap → Except Fault Value × Heap
  | .held result, heap => (result, heap)
  | .made cell, heap => (.ok (.cell heap.length), heap ++ [cell])

/-- A result is one of some values if it lies in a cell, and what is made holds
nothing that does. -/
def IsOver (values : List Value) : Reading → Prop
  | .held result => ∀ value, result = .ok value → IsPlain value ∨ value ∈ values
  | .made cell => ∀ value ∈ cell.values, IsPlain value

end Reading

section Reads

variable {classes : Classes} {heap : Heap} {type : MessageClass}
  {fields attributes : List (Text × Value)} {address place : Nat}

/-- The text of a value that lies in no cell is the same in all heaps. -/
theorem plainText_of_isPlain (names : FieldNames) {value : Value} (h : IsPlain value)
    (heap : Heap) : plainText names heap value = plainText names [] value := by
  have hbound : heap.bound = 2 * heap.length + 1 + 1 := rfl
  have hempty : Heap.bound [] = 1 + 1 := rfl
  cases value with
  | cell address => exact absurd rfl (h address)
  | text t => rfl
  | messageType type => rfl
  | _ => rw [plainText, plainText, hbound, hempty, shownText, shownText] <;> rintro _ ⟨⟩

theorem run_textOf_of_isPlain (classes : Classes) {kind : Value} (h : IsPlain kind) :
    ∃ result, (∀ heap, (textOf classes { positional := [kind] }).run heap = (result, heap)) ∧
      ∀ value, result = .ok value → IsPlain value := by
  cases htext : plainText (fieldNames classes) [] kind with
  | error fault =>
      refine ⟨.error fault, fun heap => ?_, by rintro value ⟨⟩⟩
      have hget : (get : Evaluation Heap).run heap = (.ok heap, heap) := rfl
      rw [textOf, Stateful.run_bind_ok _ hget, plainText_of_isPlain _ h, htext]
      rfl
  | ok text =>
      refine ⟨.ok (.text text), fun heap => ?_, by rintro value ⟨⟩ address ⟨⟩⟩
      have hget : (get : Evaluation Heap).run heap = (.ok heap, heap) := rfl
      rw [textOf, Stateful.run_bind_ok _ hget, plainText_of_isPlain _ h, htext]
      rfl

/-- A member of a base record is read as it is stored. -/
theorem run_read_base (hbase : heap[place]? = some (.object .base attributes)) (member : Text)
    (fuel : Nat) :
    (access classes (fuel + 1) (.cell place) member .read).run heap =
      ((attributes.lookup member).elim (.error .attribute) .ok, heap) := by
  rw [run_access_cell fuel _ hbase, accessObjectMember.eq_def]
  dsimp only
  cases attributes.lookup member with
  | none => rfl
  | some value => rfl

/-- What a call of a class of the module with one value comes to: a failure, or
an object that holds this value alone. -/
theorem exists_reading_call (classes : Classes) {kind : Value} (hplain : IsPlain kind) (name : Text) :
    ∃ reading : Reading, (∀ values, reading.IsOver values) ∧ ∀ heap : Heap,
      (callValue classes (.messageClass name) { positional := [kind] }).run heap =
        reading.run heap := by
  cases hfound : find? classes name with
  | none =>
      refine ⟨.held (.error .type), by rintro _ value ⟨⟩, fun heap => ?_⟩
      rw [callValue, hfound]
      rfl
  | some found =>
      rcases run_makeMessage_cases found { positional := [kind] } with
        ⟨fault, hfault⟩ | ⟨made, hbind, hmade⟩
      · refine ⟨.held (.error fault), by rintro _ value ⟨⟩, fun heap => ?_⟩
        rw [callValue, hfound]
        exact hfault heap
      · refine ⟨.made (.object (.message found.name) made), fun _ value hvalue => ?_,
          fun heap => ?_⟩
        · obtain ⟨given, hgiven, rfl⟩ := MessageClass.exists_bind hbind
          obtain ⟨entry, hentry, rfl⟩ := List.mem_map.mp hvalue
          obtain heq := List.mem_singleton.mp
            (mem_values_of_bind hgiven (List.mem_of_mem_filter hentry))
          exact heq ▸ hplain
        · rw [callValue, hfound]
          exact hmade heap

/-- A role that is made of a message type in no cell is a text in no cell, or an
object that holds the message type and nothing else. -/
theorem exists_reading_role (hkind : (attributes.lookup ("message_type" : Text)).isSome)
    (hplain : ∀ kind, attributes.lookup ("message_type" : Text) = some kind → IsPlain kind)
    (hplace : fields.lookup baseField = some (.cell place)) (hderived : AreDerived classes)
    (hvisible : find? classes type.name = some type) :
    ∃ reading : Reading, (∀ values, reading.IsOver values) ∧ ∀ (heap : Heap) (fuel : Nat),
      heap[address]? = some (.object (.message type.name) fields) →
      heap[place]? = some (.object .base attributes) →
      (runMethod classes (access classes (fuel + 1)) type roleProperty
        { positional := [.cell address] }).run heap = reading.run heap := by
  obtain ⟨kind, hstored⟩ := Option.isSome_iff_exists.mp hkind
  obtain ⟨callee, hcallee, hrun⟩ := exists_runMethod_role classes type
  have hcall : ∀ (heap : Heap) (fuel : Nat),
      heap[address]? = some (.object (.message type.name) fields) →
      heap[place]? = some (.object .base attributes) →
      (runMethod classes (access classes (fuel + 1)) type roleProperty
        { positional := [.cell address] }).run heap =
        (callValue classes callee { positional := [kind] }).run heap := by
    intro heap fuel hmessage hbase
    have hread := run_access_baseField hderived hmessage hvisible fuel
    rw [hplace, Option.elim_some] at hread
    have hmember : (access classes (fuel + 1) (.cell place) "message_type" .read).run heap =
        (.ok kind, heap) := by
      rw [run_read_base hbase, hstored, Option.elim_some]
    rw [hrun, Stateful.run_bind_ok _ hread, Stateful.run_bind_ok _ hmember]
  -- a class of the module may hide the text type, and then an object is made
  rcases hcallee with rfl | rfl
  · obtain ⟨result, htext, hresult⟩ := run_textOf_of_isPlain classes (hplain kind hstored)
    refine ⟨.held result, fun _ value hvalue => .inl (hresult value hvalue),
      fun heap fuel hmessage hbase => ?_⟩
    rw [hcall heap fuel hmessage hbase]
    exact htext heap
  · obtain ⟨reading, hover, hmade⟩ := exists_reading_call classes (hplain kind hstored) "str"
    exact ⟨reading, hover, fun heap fuel hmessage hbase =>
      (hcall heap fuel hmessage hbase).trans (hmade heap)⟩

/-- A name that is no member of the class is read as an attribute of the message. -/
theorem run_read_attribute {name : Text}
    (hmessage : heap[address]? = some (.object (.message type.name) fields))
    (hvisible : find? classes type.name = some type) (hmethod : type.method? name = none) :
    (accessMember classes (.cell address) name .read).run heap =
      ((fields.lookup name).elim (.error .attribute) .ok, heap) := by
  have hfuel : 2 * heap.bound + 4 = 2 * heap.bound + 3 + 1 := rfl
  rw [accessMember_run, hfuel, run_access_cell _ _ hmessage, accessObjectMember.eq_def]
  dsimp only
  rw [hvisible, Option.bind_some, hmethod]
  dsimp only
  cases fields.lookup name with
  | none => rfl
  | some value => rfl

/-- A member of the class that is no property gives way to an attribute. -/
theorem run_read_method {name : Text} {method : Method}
    (hmessage : heap[address]? = some (.object (.message type.name) fields))
    (hvisible : find? classes type.name = some type) (hmethod : type.method? name = some method)
    (hkind : method.kind ≠ .property) :
    (accessMember classes (.cell address) name .read).run heap =
      (.ok ((fields.lookup name).getD (.method name)), heap) := by
  have hfuel : 2 * heap.bound + 4 = 2 * heap.bound + 3 + 1 := rfl
  rw [accessMember_run, hfuel, run_access_cell _ _ hmessage, accessObjectMember.eq_def]
  dsimp only
  rw [hvisible, Option.bind_some, hmethod]
  dsimp only
  rw [if_neg hkind]
  cases fields.lookup name with
  | none => rfl
  | some value => rfl

theorem mem_values_of_elim {entries : List (Text × Value)} {member : Text} {value : Value}
    (h : (entries.lookup member).elim (.error .attribute) Except.ok =
      (.ok value : Except Fault Value)) : value ∈ entries.map Prod.snd := by
  cases hentry : entries.lookup member with
  | none =>
      rw [hentry] at h
      cases h
  | some other =>
      rw [hentry] at h
      cases h
      exact mem_snd_of_lookup hentry

/-- What a read of a message comes to is told by its own cell and that of its
base record, whatever else there is in the heap. -/
theorem exists_reading (hderived : AreDerived classes)
    (hvisible : find? classes type.name = some type)
    (hplace : fields.lookup baseField = some (.cell place))
    (hkind : (attributes.lookup ("message_type" : Text)).isSome)
    (hplain : ∀ kind, attributes.lookup ("message_type" : Text) = some kind → IsPlain kind)
    (name : Text) :
    ∃ reading : Reading, reading.IsOver (fields.map Prod.snd ++ attributes.map Prod.snd) ∧
      ∀ heap : Heap, heap[address]? = some (.object (.message type.name) fields) →
        heap[place]? = some (.object .base attributes) →
        (accessMember classes (.cell address) name .read).run heap = reading.run heap := by
  have hfuel : ∀ heap : Heap, 2 * heap.bound + 4 = 2 * heap.bound + 2 + 1 + 1 := fun _ => rfl
  obtain ⟨derivation, rfl, -⟩ := hderived.find? hvisible
  cases hmethod : (MessageClass.ofDerivation derivation).method? name with
  | none =>
      exact ⟨.held ((fields.lookup name).elim (.error .attribute) .ok),
        fun value hvalue => .inr (List.mem_append_left _ (mem_values_of_elim hvalue)),
        fun heap hmessage _ => run_read_attribute hmessage hvisible hmethod⟩
  | some method =>
      by_cases hproperty : method.kind = .property
      · rcases property_cases hmethod hproperty with ⟨shown, member, hrow, rfl⟩ | ⟨-, rfl⟩
        · refine ⟨.held ((attributes.lookup member).elim (.error .attribute) .ok),
            fun value hvalue => .inr (List.mem_append_right _ (mem_values_of_elim hvalue)),
            fun heap hmessage hbase => ?_⟩
          have hread := run_access_baseField hderived hmessage hvisible (2 * heap.bound + 2)
          rw [hplace, Option.elim_some] at hread
          rw [accessMember_run, hfuel, run_access_computed hmessage hvisible hmethod rfl,
            runMethod_accessor _ _ hrow, Stateful.run_bind_ok _ hread]
          exact run_read_base hbase member _
        · obtain ⟨reading, hover, hrole⟩ :=
            exists_reading_role hkind hplain hplace hderived hvisible
          refine ⟨reading, hover _, fun heap hmessage hbase => ?_⟩
          rw [accessMember_run, hfuel, run_access_computed hmessage hvisible hmethod rfl]
          exact hrole heap _ hmessage hbase
      · refine ⟨.held (.ok ((fields.lookup name).getD (.method name))), fun value hvalue => ?_,
          fun heap hmessage _ => run_read_method hmessage hvisible hmethod hproperty⟩
        cases hvalue
        cases hfield : fields.lookup name with
        | none => exact .inl (by rintro address ⟨⟩)
        | some value => exact .inr (List.mem_append_left _ (mem_snd_of_lookup hfield))

end Reads

/-! ## Blocks -/

/-- The four cells of a message from an address on. -/
def InBlock (first address : Nat) : Prop :=
  first ≤ address ∧ address < first + 4

/-- The attributes of a base record whose tables are the first two cells of its
block and whose message type lies in no cell. -/
structure IsBaseOf (first : Nat) (attributes : List (Text × Value)) : Prop where
  table : ∀ table : Table, attributes.lookup table.name = some (.cell (table.address first))
  hasKind : (attributes.lookup ("message_type" : Text)).isSome
  kind : ∀ kind, attributes.lookup ("message_type" : Text) = some kind → IsPlain kind

/-- A message of a class of the module that lies in the block from an address on. -/
structure Lies (classes : Classes) (heap : Heap) (first : Nat) : Prop where
  table : ∀ table : Table, ∃ entries, heap[table.address first]? = some (.table entries)
  base : ∃ attributes, heap[first + 2]? = some (.object .base attributes) ∧
    IsBaseOf first attributes
  message : ∃ type fields, heap[first + 3]? = some (.object (.message type.name) fields) ∧
    find? classes type.name = some type ∧ fields.map Prod.fst = type.fields ∧
    fields.lookup baseField = some (.cell (first + 2))

theorem Table.inBlock (table : Table) (first : Nat) : InBlock first (table.address first) := by
  cases table <;> simp [InBlock, Table.address]

theorem inBlock_base (first : Nat) : InBlock first (first + 2) := ⟨by omega, by omega⟩

theorem inBlock_message (first : Nat) : InBlock first (first + 3) := ⟨by omega, by omega⟩

/-- Two heaps with the same cells in a block. -/
def SameBlock (heap after : Heap) (first : Nat) : Prop :=
  ∀ address, InBlock first address → after[address]? = heap[address]?

section Blocks

variable {classes : Classes} {heap after : Heap} {first : Nat}

theorem Lies.lt_length (h : Lies classes heap first) : first + 3 < heap.length := by
  obtain ⟨type, fields, hmessage, -⟩ := h.message
  exact (List.getElem?_eq_some_iff.mp hmessage).1

theorem Lies.of_sameBlock (h : Lies classes heap first) (hsame : SameBlock heap after first) :
    Lies classes after first where
  table table := by
    rw [hsame _ (table.inBlock first)]
    exact h.table table
  base := by
    rw [hsame _ (inBlock_base first)]
    exact h.base
  message := by
    rw [hsame _ (inBlock_message first)]
    exact h.message

theorem sameBlock_of_grows (h : Lies classes heap first) (hgrows : heap <+: after) :
    SameBlock heap after first := by
  intro address haddress
  obtain ⟨more, rfl⟩ := hgrows
  have hlength := h.lt_length
  obtain ⟨-, hlt⟩ := haddress
  exact List.getElem?_append_left (by omega)

theorem Lies.of_grows (h : Lies classes heap first) (hgrows : heap <+: after) :
    Lies classes after first :=
  h.of_sameBlock (sameBlock_of_grows h hgrows)

/-- What is read from a message depends on its block alone, and lies in no cell
or is held by one of the block. -/
theorem Lies.exists_reading (h : Lies classes heap first) (hderived : AreDerived classes)
    (name : Text) :
    ∃ (reading : Reading) (values : List Value), reading.IsOver values ∧
      (∀ target, .cell target ∈ values →
        ∃ address, InBlock first address ∧ PointsTo heap address target) ∧
      ∀ after, SameBlock heap after first →
        (accessMember classes (.cell (first + 3)) name .read).run after = reading.run after := by
  obtain ⟨attributes, hbase, hattributes⟩ := h.base
  obtain ⟨type, fields, hmessage, hvisible, -, hplace⟩ := h.message
  obtain ⟨reading, hover, hrun⟩ := Session.exists_reading hderived hvisible hplace
    hattributes.hasKind hattributes.kind name
  refine ⟨reading, _, hover, fun target htarget => ?_, fun after hsame => ?_⟩
  · rcases List.mem_append.mp htarget with hfield | hattribute
    · exact ⟨_, inBlock_message first, _, hmessage, hfield⟩
    · exact ⟨_, inBlock_base first, _, hbase, hattribute⟩
  · refine hrun after ?_ ?_
    · rw [hsame _ (inBlock_message first), hmessage]
    · rw [hsame _ (inBlock_base first), hbase]

/-! ## Parts -/

/-- What a message consists of besides its own cell. -/
inductive Part where
  | base
  | table (table : Table)
  deriving DecidableEq, Repr

namespace Part

/-- The member by which a part is reached. -/
def name : Part → Text
  | .base => baseField
  | .table which => which.name

def address (first : Nat) : Part → Nat
  | .base => first + 2
  | .table which => which.address first

theorem inBlock (part : Part) (first : Nat) : InBlock first (part.address first) := by
  cases part with
  | base => exact inBlock_base first
  | table which => exact which.inBlock first

end Part

theorem Lies.reads_part (h : Lies classes heap first) (hderived : AreDerived classes)
    (part : Part) : Reads classes heap (.cell (first + 3)) part.name
      (.cell (part.address first)) := by
  obtain ⟨attributes, hbase, hattributes⟩ := h.base
  obtain ⟨type, fields, hmessage, hvisible, -, hplace⟩ := h.message
  obtain ⟨derivation, rfl, -⟩ := hderived.find? hvisible
  have hfuel : 2 * heap.bound + 4 = 2 * heap.bound + 2 + 1 + 1 := rfl
  have hread : ∀ fuel, (access classes (fuel + 1) (.cell (first + 3)) baseField .read).run heap =
      (.ok (.cell (first + 2)), heap) := by
    intro fuel
    rw [run_access_baseField hderived hmessage hvisible, hplace, Option.elim_some]
  rw [Reads, accessMember_run, hfuel]
  cases part with
  | base => exact hread _
  | table which =>
      rw [Part.name, run_access_computed hmessage hvisible
        (method?_accessor derivation which.row_mem_accessorTable) rfl,
        runMethod_accessor _ _ which.row_mem_accessorTable, Stateful.run_bind_ok _ (hread _),
        run_read_base hbase, hattributes.table, Option.elim_some]
      rfl

/-! ## Changes within a block -/

theorem IsBaseOf.assign {attributes : List (Text × Value)} (h : IsBaseOf first attributes)
    (setter : Setter) (value : Value) :
    IsBaseOf first (Session.assign setter.member value attributes) where
  table table := by
    have hne : setter.member ≠ table.name := by cases setter <;> cases table <;> decide
    rw [lookup_assign, if_neg hne, h.table]
  hasKind := by
    have hne : setter.member ≠ "message_type" := by cases setter <;> decide
    rw [lookup_assign, if_neg hne]
    exact h.hasKind
  kind := by
    have hne : setter.member ≠ "message_type" := by cases setter <;> decide
    rw [lookup_assign, if_neg hne]
    exact h.kind

theorem Lies.set_base (h : Lies classes heap first) {attributes : List (Text × Value)}
    (hattributes : IsBaseOf first attributes) :
    Lies classes (heap.set (first + 2) (.object .base attributes)) first where
  table table := by
    have hne : first + 2 ≠ table.address first := by cases table <;> simp [Table.address]
    rw [List.getElem?_set_ne hne]
    exact h.table table
  base := by
    have hlt := h.lt_length
    exact ⟨attributes, List.getElem?_set_self (by omega), hattributes⟩
  message := by
    rw [List.getElem?_set_ne (by omega)]
    exact h.message

theorem Lies.set_table (h : Lies classes heap first) (table : Table)
    (entries : List (Text × Value)) :
    Lies classes (heap.set (table.address first) (.table entries)) first where
  table other := by
    obtain ⟨old, hold⟩ := h.table table
    by_cases hsame : table = other
    · subst hsame
      exact ⟨entries, List.getElem?_set_self (List.getElem?_eq_some_iff.mp hold).1⟩
    · have hne : table.address first ≠ other.address first := by
        cases table <;> cases other <;> simp_all [Table.address]
      rw [List.getElem?_set_ne hne]
      exact h.table other
  base := by
    have hne : table.address first ≠ first + 2 := by cases table <;> simp [Table.address]
    rw [List.getElem?_set_ne hne]
    exact h.base
  message := by
    have hne : table.address first ≠ first + 3 := by cases table <;> simp [Table.address]
    rw [List.getElem?_set_ne hne]
    exact h.message

/-- A mutator fails and changes nothing, or it puts one of the values that it is
given into the base record. -/
theorem Lies.run_mutator_cases (h : Lies classes heap first) (hderived : AreDerived classes)
    (setter : Setter) (arguments : Arguments) :
    (∃ fault, (accessMember classes (.cell (first + 3)) setter.method (.call arguments)).run heap =
      (.error fault, heap)) ∨
    ∃ value ∈ arguments.values, ∃ attributes,
      heap[first + 2]? = some (.object .base attributes) ∧ IsBaseOf first attributes ∧
      (accessMember classes (.cell (first + 3)) setter.method (.call arguments)).run heap =
        (.ok .none, heap.set (first + 2) (.object .base (assign setter.member value attributes))) := by
  obtain ⟨attributes, hbase, hattributes⟩ := h.base
  obtain ⟨type, fields, hmessage, hvisible, hnames, hplace⟩ := h.message
  obtain ⟨derivation, rfl, hderive⟩ := hderived.find? hvisible
  have hreserved : setter.method ∈ reservedNames := by cases setter <;> decide
  have hhead : setter.method.head? ≠ some '_' := by cases setter <;> decide
  have hfield : fields.lookup setter.method = none := by
    rw [List.lookup_eq_none_iff]
    intro entry hentry
    refine bne_iff_ne.mpr fun heq => not_mem_fields hderive hreserved hhead ?_
    rw [heq, ← hnames]
    exact List.mem_map_of_mem hentry
  have hmethod := method?_mutator derivation setter.row_mem_mutatorTable
  have hfuel : 2 * heap.bound + 4 = 2 * heap.bound + 2 + 2 := rfl
  rw [accessMember_run, hfuel]
  cases hbind : bind ["self", setter.parameter.name] (arguments.push (.cell (first + 3))) with
  | error fault =>
      exact .inl ⟨fault, run_mutator_of_bind_error hmessage hvisible hmethod hfield hbind _⟩
  | ok locals =>
      obtain ⟨values, hlength, hgiven, rfl⟩ := bind_push_eq_ok hbind
      obtain ⟨value, rest, rfl⟩ := List.exists_cons_of_length_eq_add_one hlength
      obtain rfl := List.length_eq_zero_iff.mp (Nat.succ.inj hlength)
      exact .inr ⟨value, mem_values_of_bind hgiven (List.mem_cons_self ..), attributes, hbase,
        hattributes, run_mutator_of_bind hmessage hvisible hmethod hfield (method?_base derivation)
          hplace hbase hbind _⟩

theorem run_putEntry_cases {entries : List (Text × Value)} {address : Nat}
    (hcell : heap[address]? = some (.table entries)) (place value : Value) :
    (∃ fault, (putEntry (.cell address) place value).run heap = (.error fault, heap)) ∨
    ∃ key, (putEntry (.cell address) place value).run heap =
      (.ok (), heap.set address (.table (assign key value entries))) := by
  have hget : (cellOf? (.cell address)).run heap = (.ok (some (.table entries)), heap) := by
    rw [← hcell]
    rfl
  rw [putEntry, Stateful.run_bind_ok _ hget]
  dsimp only
  cases tableKey? place with
  | none => exact .inl ⟨.type, rfl⟩
  | some key => exact .inr ⟨key, rfl⟩

end Blocks

end MessageForge.Session
