import MessageForge.Proofs.Messages
import MessageForge.Session.Step

/-!
# Edits of a message

A message is changed from outside by its mutators and by items that are
assigned to its tables. A mutator writes to the base record and nowhere else, an
item changes its table alone, and so each accessor shows the latest value of
its own mutator after any number of edits, each key of a table its latest
value, and everything else what it was from the start.
-/

namespace MessageForge.Session

open Vocabulary

/-! ## One edit -/

/-- The two ways to call a mutator. -/
def Setter.arguments (setter : Setter) (byName : Bool) (value : Value) : Arguments :=
  if byName then { named := [(setter.parameter.name, value)] } else { positional := [value] }

/-- A change that is made to a message from outside. -/
inductive Edit where
  | set (setter : Setter) (byName : Bool) (value : Value)
  | put (table : Table) (key : Text) (value : Value)

namespace Edit

def perform (classes : Classes) (message : Value) : Edit → Evaluation Unit
  | .set setter byName value => do
      let _ ← accessMember classes message setter.method
        (.call (setter.arguments byName value))
  | .put table key value => do
      putEntry (← accessMember classes message table.name .read) (.text key) value

def apply (record : Record) : Edit → Record
  | .set setter _ value => setter.set record value
  | .put table key value => table.put record key value

end Edit

section Held

variable {classes : Classes} {declaration : Declaration} {derivation : Derivation}
  {category : MessageType} {heap : Heap} {valueOf : Text → Value} {address : Nat} {record : Record}

theorem Holds.set_base (hheld : Holds heap declaration category valueOf address record)
    (setter : Setter) (value : Value) :
    Holds (heap.set (address + 2)
      (.object .base ((setter.set record value).attributes category address)))
      declaration category valueOf address (setter.set record value) where
  table table := by
    have hne : address + 2 ≠ table.address address := by
      cases table <;> simp [Table.address]
    rw [List.getElem?_set_ne hne, hheld.table]
    cases setter <;> cases table <;> rfl
  base := by
    have hlt : address + 2 < heap.length := (List.getElem?_eq_some_iff.mp hheld.base).1
    rw [List.getElem?_set_self hlt]
  message := by
    rw [List.getElem?_set_ne (by omega), hheld.message]

theorem Holds.set_table (hheld : Holds heap declaration category valueOf address record)
    (table : Table) (key : Text) (value : Value) :
    Holds (heap.set (table.address address) (.table (assign key value (table.entries record))))
      declaration category valueOf address (table.put record key value) where
  table other := by
    have hlt : table.address address < heap.length :=
      (List.getElem?_eq_some_iff.mp (hheld.table table)).1
    by_cases hsame : table = other
    · rw [← hsame, List.getElem?_set_self hlt]
      cases table <;> rfl
    · have hne : table.address address ≠ other.address address := by
        cases table <;> cases other <;> simp_all [Table.address]
      rw [List.getElem?_set_ne hne, hheld.table]
      cases table <;> cases other <;> simp_all [Table.put, Table.entries]
  base := by
    have hne : table.address address ≠ address + 2 := by
      cases table <;> simp [Table.address]
    rw [List.getElem?_set_ne hne, hheld.base]
    cases table <;> rfl
  message := by
    have hne : table.address address ≠ address + 3 := by
      cases table <;> simp [Table.address]
    rw [List.getElem?_set_ne hne, hheld.message]

theorem run_setMember_base {attributes : List (Text × Value)} (classes : Classes)
    (hcell : heap[address]? = some (.object .base attributes)) (name : Text) (value : Value) :
    (setMember classes (.cell address) name value).run heap =
      (.ok (), heap.set address (.object .base (assign name value attributes))) := by
  have hget : (cellOf? (.cell address)).run heap =
      (.ok (some (.object .base attributes)), heap) := by
    rw [← hcell]
    rfl
  rw [setMember, Stateful.run_bind_ok _ hget]
  rfl

theorem bind_self (setter : Setter) (byName : Bool) (self value : Value) :
    bind ["self", setter.parameter.name] ((setter.arguments byName value).push self) =
      .ok [("self", self), (setter.parameter.name, value)] := by
  cases setter <;> cases byName <;> rfl

section Mutators

variable {type : MessageClass} {fields attributes : List (Text × Value)} {setter : Setter}
  {arguments : Arguments}

theorem kind_mutator_ne (name : Text) (parameter : Parameter) (member : Text) :
    (mutator name parameter member).kind ≠ .classMethod := by
  rintro ⟨⟩

theorem Setter.isPrivate_parameter (setter : Setter) : isPrivate setter.parameter.name = false := by
  cases setter <;> decide

/-- The parameters of a mutator, as they are known in a class. -/
theorem Setter.map_privateName (setter : Setter) (className : Text) :
    [setter.parameter].map (fun parameter => privateName className parameter.name) =
      [setter.parameter.name] :=
  congrArg (fun name => [name]) (privateName_of_not_private _ setter.isPrivate_parameter)

/-- A mutator that does not get one argument for its parameter fails. -/
theorem run_mutator_of_bind_error {fault : Fault}
    (hmessage : heap[address]? = some (.object (.message type.name) fields))
    (hvisible : find? classes type.name = some type)
    (hmethod : type.method? setter.method =
      some (mutator setter.method setter.parameter setter.member))
    (hfield : fields.lookup setter.method = none)
    (hbind : bind ["self", setter.parameter.name] (arguments.push (.cell address)) = .error fault)
    (fuel : Nat) :
    (access classes (fuel + 1) (.cell address) setter.method (.call arguments)).run heap =
      (.error fault, heap) := by
  rw [run_access_method fuel _ hmessage hvisible hmethod rfl hfield, runMethod,
    if_neg (kind_mutator_ne _ _ _)]
  dsimp only [mutator]
  rw [setter.map_privateName, hbind]
  rfl

/-- A mutator with an argument for its parameter writes to the base record and
nowhere else. -/
theorem run_mutator_of_bind {place : Nat} {value : Value}
    (hmessage : heap[address]? = some (.object (.message type.name) fields))
    (hvisible : find? classes type.name = some type)
    (hmethod : type.method? setter.method =
      some (mutator setter.method setter.parameter setter.member))
    (hfield : fields.lookup setter.method = none) (hplain : type.method? baseField = none)
    (hplace : fields.lookup baseField = some (.cell place))
    (hbase : heap[place]? = some (.object .base attributes))
    (hbind : bind ["self", setter.parameter.name] (arguments.push (.cell address)) =
      .ok [("self", .cell address), (setter.parameter.name, value)]) (fuel : Nat) :
    (access classes (fuel + 2) (.cell address) setter.method (.call arguments)).run heap =
      (.ok .none, heap.set place (.object .base (assign setter.member value attributes))) := by
  have hmember : isPrivate setter.member = false := by cases setter <;> decide
  rw [run_access_method (fuel + 1) _ hmessage hvisible hmethod rfl hfield, runMethod,
    if_neg (kind_mutator_ne _ _ _)]
  dsimp only [mutator]
  rw [setter.map_privateName, hbind]
  dsimp only
  generalize hframe : Frame.mk classes type.name (access classes (fuel + 1))
    [("self", .cell address), (setter.parameter.name, value)] = frame
  have hself : frame.meaning? "self" = some (.cell address) := by
    rw [← hframe]
    exact Frame.meaning?_of_lookup List.lookup_cons_self
  have hvalue : frame.meaning? setter.parameter.name = some value := by
    rw [← hframe]
    refine Frame.meaning?_of_lookup ?_
    cases setter <;> rfl
  have hreach : frame.access = access classes (fuel + 1) := by rw [← hframe]
  have hclasses : frame.classes = classes := by rw [← hframe]
  have howner : (evaluate frame (.member (.name "self") baseField)).run heap =
      (.ok (.cell place), heap) := by
    rw [evaluate, Stateful.run_bind_ok _ (run_evaluate_name (by decide) hself heap),
      privateName_of_not_private _ (by decide), hreach]
    exact run_access_stored fuel hmessage hvisible hplain hplace
  rw [onBase, execute,
    Stateful.run_bind_ok _ (run_evaluate_name setter.isPrivate_parameter hvalue heap),
    Stateful.run_bind_ok _ howner, privateName_of_not_private _ hmember, hclasses,
    Stateful.run_bind_ok _ (run_setMember_base classes hbase setter.member value)]
  rfl

end Mutators

theorem Holds.run_mutator (hheld : Holds heap declaration category valueOf address record)
    (h : StandsIn classes declaration derivation category) (setter : Setter) (byName : Bool)
    (value : Value) (fuel : Nat) :
    (access classes (fuel + 2) (.cell (address + 3)) setter.method
      (.call (setter.arguments byName value))).run heap =
      (.ok .none, heap.set (address + 2)
        (.object .base ((setter.set record value).attributes category address))) := by
  obtain ⟨-, hfields, -, -, -⟩ := Declaration.derive_eq_ok_iff.mp h.derive
  have hreserved : setter.method ∈ reservedNames := by cases setter <;> decide
  have hnone : (messageFields declaration valueOf address).lookup setter.method = none :=
    lookup_messageFields_eq_none fun hmem => (checkFields_eq_ok_iff.mp hfields).2 _ hmem hreserved
  have hbaseField := baseField_mem_fieldNames h.derive
  have hplace : (messageFields declaration valueOf address).lookup baseField =
      some (.cell (address + 2)) := by
    rw [lookup_messageFields hbaseField, if_pos rfl]
  rw [← setter.assign_attributes]
  obtain rfl := h.declaration_eq
  exact run_mutator_of_bind hheld.message h.visible
    (method?_mutator derivation setter.row_mem_mutatorTable) hnone (method?_field h.derive hbaseField)
    hplace hheld.base (bind_self setter byName _ value) fuel

theorem run_putEntry_table {entries : List (Text × Value)}
    (hcell : heap[address]? = some (.table entries)) (key : Text) (value : Value) :
    (putEntry (.cell address) (.text key) value).run heap =
      (.ok (), heap.set address (.table (assign key value entries))) := by
  have hget : (cellOf? (.cell address)).run heap = (.ok (some (.table entries)), heap) := by
    rw [← hcell]
    rfl
  rw [putEntry, Stateful.run_bind_ok _ hget]
  rfl

/-- An edit goes through, and the message stores the record that it makes of
the one before. -/
theorem Holds.run_perform (hheld : Holds heap declaration category valueOf address record)
    (h : StandsIn classes declaration derivation category) (edit : Edit) :
    ∃ after, (edit.perform classes (.cell (address + 3))).run heap = (.ok (), after) ∧
      Holds after declaration category valueOf address (edit.apply record) := by
  cases edit with
  | set setter byName value =>
      refine ⟨_, ?_, hheld.set_base setter value⟩
      have hrun := hheld.run_mutator h setter byName value (2 * heap.bound + 2)
      rw [Edit.perform, Stateful.run_bind_ok _ ((accessMember_run ..).trans hrun)]
      rfl
  | put table key value =>
      refine ⟨_, ?_, hheld.set_table table key value⟩
      have hrun := hheld.run_accessor h table.row_mem_accessorTable
        (table.lookup_attributes record category address) (2 * heap.bound + 2)
      rw [Edit.perform, Stateful.run_bind_ok _ ((accessMember_run ..).trans hrun)]
      exact run_putEntry_table (hheld.table table) key value

/-! ## Any number of edits -/

def performAllEdits (classes : Classes) (message : Value) : List Edit → Evaluation Unit
  | [] => return ()
  | edit :: rest => do
      edit.perform classes message
      performAllEdits classes message rest

theorem Holds.run_performAllEdits (h : StandsIn classes declaration derivation category) :
    ∀ (edits : List Edit) {heap : Heap} {record : Record},
      Holds heap declaration category valueOf address record →
      ∃ after, (performAllEdits classes (.cell (address + 3)) edits).run heap = (.ok (), after) ∧
        Holds after declaration category valueOf address (edits.foldl Edit.apply record)
  | [], heap, record, hheld => ⟨heap, rfl, hheld⟩
  | edit :: rest, heap, record, hheld => by
      obtain ⟨between, hedit, hbetween⟩ := hheld.run_perform h edit
      obtain ⟨after, hrest, hafter⟩ := Holds.run_performAllEdits h rest hbetween
      refine ⟨after, ?_, hafter⟩
      rw [performAllEdits, Stateful.run_bind_ok _ hedit, hrest]

end Held

/-! ## Latest values -/

/-- What the latest of some edits gives that gives anything. -/
def latest? (gives : Edit → Option Value) (edits : List Edit) : Option Value :=
  edits.reverse.findSome? gives

theorem latest?_cons (gives : Edit → Option Value) (edit : Edit) (rest : List Edit) :
    latest? gives (edit :: rest) = (latest? gives rest).or (gives edit) := by
  rw [latest?, List.reverse_cons, List.findSome?_append]
  cases hgives : gives edit <;> simp [latest?, hgives]

namespace Edit

/-- The argument of an edit that calls a mutator. -/
def argument? (setter : Setter) : Edit → Option Value
  | .set other _ value => if other = setter then some value else none
  | .put .. => none

/-- The value of an edit that assigns to a key of a table. -/
def item? (table : Table) (key : Text) : Edit → Option Value
  | .set .. => none
  | .put other place value => if other = table ∧ place = key then some value else none

end Edit

theorem lookup_assign (key other : Text) (value : Value) : ∀ entries : List (Text × Value),
    (assign key value entries).lookup other =
      if key = other then some value else entries.lookup other
  | [] => by
      by_cases h : key = other
      · rw [if_pos h, h, assign, List.lookup_cons_self]
      · rw [if_neg h, assign, List.lookup_cons, beq_eq_false_iff_ne.mpr (Ne.symm h)]
  | (old, kept) :: rest => by
      rw [assign]
      by_cases hold : old = key
      · rw [if_pos hold, List.lookup_cons, List.lookup_cons, hold]
        by_cases h : key = other
        · rw [if_pos h, h, beq_self_eq_true]
        · rw [if_neg h, beq_eq_false_iff_ne.mpr (Ne.symm h)]
      · rw [if_neg hold, List.lookup_cons, List.lookup_cons, lookup_assign key other value rest]
        by_cases h : key = other
        · rw [if_pos h, if_pos h, beq_eq_false_iff_ne.mpr fun heq => hold (heq.symm.trans h.symm)]
        · rw [if_neg h, if_neg h]

theorem mem_keys_assign {key other : Text} {value : Value} : ∀ {entries : List (Text × Value)},
    other ∈ (assign key value entries).map Prod.fst → other = key ∨ other ∈ entries.map Prod.fst
  | [], hmem => .inl (List.mem_singleton.mp hmem)
  | (old, kept) :: rest, hmem => by
      rw [assign] at hmem
      by_cases hold : old = key
      · rw [if_pos hold, ← hold] at hmem
        exact .inr hmem
      · rw [if_neg hold] at hmem
        rcases List.mem_cons.mp hmem with rfl | hmem
        · exact .inr (List.mem_cons_self ..)
        · exact (mem_keys_assign hmem).imp_right (List.mem_cons_of_mem _)

/-- A table keeps one entry for each key. -/
theorem nodup_keys_assign (key : Text) (value : Value) : ∀ {entries : List (Text × Value)},
    (entries.map Prod.fst).Nodup → ((assign key value entries).map Prod.fst).Nodup
  | [], _ => List.nodup_singleton key
  | (old, kept) :: rest, hnodup => by
      obtain ⟨hfresh, hrest⟩ := List.nodup_cons.mp hnodup
      rw [assign]
      by_cases hold : old = key
      · rw [if_pos hold]
        subst hold
        exact hnodup
      · rw [if_neg hold]
        refine List.nodup_cons.mpr ⟨fun hmem => ?_, nodup_keys_assign key value hrest⟩
        rcases mem_keys_assign hmem with heq | hmem
        · exact hold heq
        · exact hfresh hmem

theorem get_foldl_apply (setter : Setter) : ∀ (edits : List Edit) (record : Record),
    setter.get (edits.foldl Edit.apply record) =
      (latest? (Edit.argument? setter) edits).getD (setter.get record)
  | [], _ => rfl
  | edit :: rest, record => by
      have hstep : setter.get (edit.apply record) =
          (edit.argument? setter).getD (setter.get record) := by
        cases edit with
        | set other byName value => cases other <;> cases setter <;> rfl
        | put table key value => cases table <;> cases setter <;> rfl
      rw [List.foldl_cons, get_foldl_apply setter rest, hstep, latest?_cons]
      cases latest? (Edit.argument? setter) rest <;> rfl

theorem lookup_foldl_apply (table : Table) (key : Text) : ∀ (edits : List Edit) (record : Record),
    (table.entries (edits.foldl Edit.apply record)).lookup key =
      (latest? (Edit.item? table key) edits).or ((table.entries record).lookup key)
  | [], _ => rfl
  | edit :: rest, record => by
      have hstep : (table.entries (edit.apply record)).lookup key =
          (edit.item? table key).or ((table.entries record).lookup key) := by
        cases edit with
        | set setter byName value => cases setter <;> cases table <;> rfl
        | put other place value =>
            rw [Edit.item?]
            by_cases hother : other = table
            · have hentries : table.entries (other.put record place value) =
                  assign place value (table.entries record) := by
                rw [hother]
                cases table <;> rfl
              rw [Edit.apply, hentries, lookup_assign]
              by_cases hkey : place = key <;> simp [hother, hkey]
            · have hentries : table.entries (other.put record place value) =
                  table.entries record := by
                cases other <;> cases table <;> first | rfl | exact absurd rfl hother
              rw [Edit.apply, hentries, if_neg fun h => hother h.1]
              rfl
      rw [List.foldl_cons, lookup_foldl_apply table key rest, hstep, latest?_cons]
      cases latest? (Edit.item? table key) rest <;> rfl

theorem nodup_foldl_apply (table : Table) : ∀ (edits : List Edit) {record : Record},
    ((table.entries record).map Prod.fst).Nodup →
      ((table.entries (edits.foldl Edit.apply record)).map Prod.fst).Nodup
  | [], _, h => h
  | edit :: rest, record, h => by
      refine nodup_foldl_apply table rest ?_
      cases edit with
      | set setter byName value => cases setter <;> cases table <;> exact h
      | put other place value =>
          cases other <;> cases table <;> first | exact h | exact nodup_keys_assign place value h

/-! ## What a message shows -/

/-- The value of a member of an object, which reading leaves alone. -/
def Reads (classes : Classes) (heap : Heap) (owner : Value) (name : Text) (value : Value) : Prop :=
  (accessMember classes owner name .read).run heap = (.ok value, heap)

/-- What an accessor shows before its mutator is called: the content and the
flag are those of the constructor, which may leave the flag off. -/
def Setter.initial? (given : Locals) : Setter → Option Value
  | .content => given.lookup ("content" : Text)
  | .flag => (given.lookup ("example" : Text)).or (some (.bool false))
  | .id | .name => some .none

/-- A message that shows the latest values of some edits: those of the mutators
by their accessors and those of the tables key by key. All else is as the
constructor was given it, and the type and a role that is not stored are those
of the category. -/
structure ShowsLatest (classes : Classes) (heap : Heap) (message : Value) (category : MessageType)
    (fieldNames : List Text) (given : Locals) (edits : List Edit) : Prop where
  settable : ∀ setter : Setter, ∃ value,
    (latest? (Edit.argument? setter) edits).or (setter.initial? given) = some value ∧
      Reads classes heap message setter.accessor value
  messageType : Reads classes heap message "message_type" (.messageType category)
  tables : ∀ table : Table, ∃ container entries,
    Reads classes heap message table.name container ∧
      heap.at? container = some (.table entries) ∧ (entries.map Prod.fst).Nodup ∧
      ∀ key, entries.lookup key = latest? (Edit.item? table key) edits
  extra : ∀ name ∈ fieldNames, name ≠ baseField →
    ∃ value, given.lookup name = some value ∧ Reads classes heap message name value
  role : ∃ value,
    (if roleField ∈ fieldNames then given.lookup roleField else some (.text category.name)) =
        some value ∧
      Reads classes heap message roleField value

theorem Holds.showsLatest {classes : Classes} {declaration : Declaration} {derivation : Derivation}
    {category : MessageType} {heap : Heap} {address : Nat} {content flag : Value}
    {values : List Value} {given : Locals} {edits : List Edit}
    (hheld : Holds heap declaration category (valueIn (extraNames declaration) values) address
      (edits.foldl Edit.apply { content, flag, id := .none, name := .none }))
    (h : StandsIn classes declaration derivation category)
    (hgiven : Supplies given content flag (extraNames declaration) values) :
    ShowsLatest classes heap (.cell (address + 3)) category declaration.fieldNames given edits := by
  have hextra : ∀ name ∈ declaration.fieldNames, name ≠ baseField →
      ∃ value, given.lookup name = some value ∧
        Reads classes heap (.cell (address + 3)) name value := by
    intro name hname hne
    have hread := hheld.run_field h hname (2 * heap.bound + 3)
    rw [if_neg hne] at hread
    exact ⟨_, hgiven.extra name (mem_extraNames.mpr ⟨hname, hne⟩),
      (accessMember_run ..).trans hread⟩
  refine ⟨fun setter => ?_, ?_, fun table => ?_, hextra, ?_⟩
  · obtain ⟨type, hrow⟩ := setter.row_mem_accessorTable
    have hread := hheld.run_accessor h hrow (setter.lookup_attributes _ category address)
      (2 * heap.bound + 2)
    refine ⟨_, ?_, (accessMember_run ..).trans hread⟩
    have hinitial : setter.initial? given = some (setter.get
        ({ content, flag, id := .none, name := .none } : Record)) := by
      cases setter
      · exact hgiven.content
      · exact hgiven.flag
      · rfl
      · rfl
    rw [get_foldl_apply, hinitial]
    cases latest? (Edit.argument? setter) edits <;> rfl
  · have hrow : (("message_type" : Text), ("MessageType" : Text), ("message_type" : Text)) ∈
        accessorTable := by decide
    exact (accessMember_run ..).trans (hheld.run_accessor h hrow rfl (2 * heap.bound + 2))
  · have hread := hheld.run_accessor h table.row_mem_accessorTable
      (table.lookup_attributes _ category address) (2 * heap.bound + 2)
    refine ⟨_, _, (accessMember_run ..).trans hread, hheld.table table, ?_, fun key => ?_⟩
    · refine nodup_foldl_apply table edits ?_
      cases table <;> exact List.nodup_nil
    · rw [lookup_foldl_apply]
      cases table <;> exact Option.or_none
  · by_cases hrole : roleField ∈ declaration.fieldNames
    · rw [if_pos hrole]
      exact hextra roleField hrole (by decide)
    · rw [if_neg hrole]
      exact ⟨_, rfl, (accessMember_run ..).trans (hheld.run_role h hrole (2 * heap.bound + 2))⟩

/-- Every message that a constructor of an accepted entry returns is one record
with setters of which the last call wins: any number of edits goes through, and
the message then shows the latest values. The entry is one of a message type,
its class is the one that its name means in the executed module, as a plain one,
which takes all annotated names for fields, and neither a class of the module nor
a field hides a name that the methods of the class use. -/
theorem messages_show_latest_values {surroundings : Surroundings} {file : DeclarationFile}
    {classes : Classes} {entry : Entry} {type : MessageClass} {category : MessageType}
    {constructor : Constructor} {arguments : Arguments} {heap made : Heap} {message : Value}
    (hexecuted : Executes surroundings file classes)
    (htype : MessageClass.ofEntry? entry = some type)
    (hcategory : entry.category? = some category.name)
    (hvisible : find? classes type.name = some type)
    (hunhidden : ∀ name ∈ usedNames, find? classes name = none)
    (huncaptured : ∀ name ∈ entry.fieldNames, name ∉ capturedNames)
    (hreturned : (accessMember classes (.messageClass type.name) constructor.method
      (.call arguments)).run heap = (.ok message, made))
    (edits : List Edit) :
    ∃ given after,
      bind (constructor.parameters (entry.fieldNames.filter (· ≠ baseField))) arguments =
        .ok given ∧
      (performAllEdits classes message edits).run made = (.ok (), after) ∧
      ShowsLatest classes after message category entry.fieldNames given edits := by
  obtain ⟨declaration, derivation, hstands, hname, hfields⟩ := exists_standsIn
    (hexecuted.fault?_eq_none hvisible) htype hcategory hvisible hunhidden huncaptured
  rw [← hname] at hreturned
  obtain ⟨hnames, given, content, flag, values, hgiven, hsupplies, rfl, rfl⟩ :=
    made_of_constructor hstands hreturned
  have hheld := holds_withMessage hnames.2 hsupplies.length heap category content flag
  obtain ⟨after, hrun, hafter⟩ := Holds.run_performAllEdits hstands edits hheld
  rw [← hfields, ← extraNames_eq]
  exact ⟨given, after, hgiven, hrun, hafter.showsLatest hstands hsupplies⟩

/-- A message about a call of a tool. -/
def toolDeclaration : Declaration :=
  { name := "ToolMessage", fields := [⟨baseField, baseRecord⟩, ⟨"call", "str"⟩] }

def toolDerivation : Derivation :=
  { declaration := toolDeclaration, category := "Tool", role := .derived "Tool" }

def toolFile : DeclarationFile :=
  soleFile "tools.py" ["from decimal import Decimal"] toolDeclaration

theorem derive_toolDeclaration : toolDeclaration.derive = .ok toolDerivation := by
  rw [Declaration.derive_eq_ok_iff]
  decide +kernel

theorem hasValidModule_toolFile : hasValidModule Source.namelessCharacters toolFile = true := by
  refine hasValidModule_soleFile [("decimal", "Decimal")] (by decide +kernel) (by decide +kernel)
    (by decide +kernel) (by decide +kernel) (by decide +kernel) ⟨?_, ?_, ?_⟩ <;> decide +kernel

/-- The module of the file has one plain class. -/
theorem executes_toolFile : Executes .plain toolFile [.ofDerivation toolDerivation] := by
  have htakes : TakesAllFields .plain toolFile toolDeclaration := by
    unfold TakesAllFields
    decide +kernel
  have hsole : soleClass .plain toolFile toolDerivation = .ofDerivation toolDerivation :=
    soleClass_eq_self htakes
  have hpossible : (MessageClass.ofDerivation toolDerivation).fault? = none := by decide +kernel
  refine ⟨?_, (executed?_soleFile derive_toolDeclaration).mpr ⟨hasValidModule_toolFile, ?_, ?_⟩⟩
  · unfold KeepsUsedNames
    decide +kernel
  · exact (congrArg MessageClass.fault? hsole).trans hpossible
  · exact congrArg (fun type => [type]) hsole.symm

/-- Two calls of one mutator and two items under one key. -/
def toolEdits : List Edit :=
  [.set .content false (.text "first"), .put .kwargs "unit" (.text "m"),
    .set .content true (.text "second"), .put .kwargs "unit" (.text "km")]

theorem tool_message_shows_latest_values :
    Executes .plain toolFile [.ofDerivation toolDerivation] ∧
    ∃ made given after,
      (accessMember [.ofDerivation toolDerivation] (.messageClass "ToolMessage") "new"
        (.call { positional := [.text "hi", .text "call-1"] })).run [] = (.ok (.cell 3), made) ∧
      bind ["content", "call"] { positional := [.text "hi", .text "call-1"] } = .ok given ∧
      (performAllEdits [.ofDerivation toolDerivation] (.cell 3) toolEdits).run made =
        (.ok (), after) ∧
      ShowsLatest [.ofDerivation toolDerivation] after (.cell 3) .tool [baseField, "call"] given
        toolEdits := by
  have htype : MessageClass.ofEntry? (.declaration toolDeclaration) =
      some (.ofDerivation toolDerivation) := by
    rw [MessageClass.ofEntry?, derive_toolDeclaration]
  have hcategory : Entry.category? (.declaration toolDeclaration) =
      some MessageType.tool.name := by
    rw [Entry.category?, derive_toolDeclaration]
    rfl
  have hunhidden : ∀ name ∈ usedNames, find? [.ofDerivation toolDerivation] name = none := by
    intro name hname
    rw [find?_single, if_neg]
    revert name
    decide +kernel
  have hreturned : (accessMember [.ofDerivation toolDerivation] (.messageClass "ToolMessage")
      Constructor.new.method
      (.call { positional := [.text "hi", .text "call-1"] })).run [] = (.ok (.cell 3), _) := rfl
  obtain ⟨given, after, hgiven, hrun, hshows⟩ := messages_show_latest_values executes_toolFile htype
    hcategory (by rw [find?_single, if_pos rfl]) hunhidden (by decide +kernel) hreturned toolEdits
  exact ⟨executes_toolFile, _, given, after, hreturned, hgiven, hrun, hshows⟩

end MessageForge.Session
