import MessageForge.Proofs.Agreement

/-!
# What constructors add to a heap

A call of a constructor changes no cell that there is. It adds the cells of a new
message, two tables first, then the base record and then the message itself, or
it fails and leaves those of them that it has come to. That holds for fields of
any names, as long as none of the arguments is an object.
-/

namespace MessageForge.Session

open Vocabulary

/-! ## Values of a call -/

/-- The values that a call gives, by position and by name. -/
def Arguments.values (arguments : Arguments) : List Value :=
  arguments.positional ++ arguments.named.map Prod.snd

theorem mem_snd_of_lookup {entries : List (Text × Value)} {name : Text} {value : Value}
    (h : entries.lookup name = some value) : value ∈ entries.map Prod.snd := by
  obtain ⟨front, back, rfl, -⟩ := List.lookup_eq_some_iff.mp h
  exact List.mem_map_of_mem (List.mem_append_right _ (List.mem_cons_self ..))

section Parameters

variable {names : List Text} {named : List (Text × Value)} {arguments : Arguments}
  {locals : Locals}

/-- What parameters get has been given by the call. -/
theorem mem_values_of_bind (h : bind names arguments = .ok locals) {entry : Text × Value}
    (hentry : entry ∈ locals) : entry.2 ∈ arguments.values := by
  obtain ⟨added, rfl, -, hadded⟩ := eq_append_of_bind h
  rcases List.mem_append.mp hentry with hplaced | hmem
  · exact List.mem_append_left _ (List.of_mem_zip hplaced).2
  · exact List.mem_append_right _ (mem_snd_of_lookup (hadded entry hmem))

theorem isSome_lookup_of_mem {entries : List (Text × Value)} {name : Text}
    (h : name ∈ entries.map Prod.fst) : (entries.lookup name).isSome = true := by
  obtain ⟨entry, hentry, rfl⟩ := List.mem_map.mp h
  by_contra hnone
  exact bne_iff_ne.mp (List.lookup_eq_none_iff.mp (Option.not_isSome_iff_eq_none.mp hnone) entry
    hentry) rfl

/-- Values that are all given by name are those of the parameters of the names. -/
theorem lookup_of_bind_named (h : bind names { named } = .ok locals) :
    locals.map Prod.fst = names ∧
      ∀ name ∈ names, locals.lookup name = named.lookup name := by
  have hnames := map_fst_of_bind h
  refine ⟨hnames, fun name hname => ?_⟩
  obtain ⟨added, hlocals, -, hadded⟩ := eq_append_of_bind h
  rw [List.zip_nil_right, List.nil_append] at hlocals
  obtain ⟨value, hvalue⟩ := Option.isSome_iff_exists.mp (isSome_lookup_of_mem (hnames ▸ hname))
  obtain ⟨front, back, hsplit, -⟩ := List.lookup_eq_some_iff.mp hvalue
  have hmem : (name, value) ∈ added := by
    rw [← hlocals, hsplit]
    exact List.mem_append_right _ (List.mem_cons_self ..)
  rw [hvalue]
  exact (hadded _ hmem).symm

end Parameters

/-! ## Values that are no objects -/

/-- A value that lies in no cell. -/
def IsPlain (value : Value) : Prop :=
  ∀ address, value ≠ .cell address

/-- A value that may lie in a cell, but not in that of an object. -/
def IsNoObject (heap : Heap) (value : Value) : Prop :=
  ∀ type attributes, heap.at? value ≠ some (.object type attributes)

theorem IsPlain.isNoObject {value : Value} (h : IsPlain value) (heap : Heap) :
    IsNoObject heap value := by
  intro type attributes
  cases value with
  | cell address => exact absurd rfl (h address)
  | _ => simp [Heap.at?]

theorem isPlain_of_typeMember? {type : MessageType} {name : Text} {value : Value}
    (h : typeMember? type name = some value) : IsPlain value := by
  rintro address rfl
  rw [typeMember?] at h
  split at h
  · cases h
  · split at h
    · cases h
    · obtain ⟨other, -, hother⟩ := Option.map_eq_some_iff.mp h
      cases hother

/-- What is read from a value that is no object lies in no cell, and reading it
leaves the heap as it is. -/
theorem run_read_noObject (classes : Classes) {heap : Heap} {owner : Value}
    (h : IsNoObject heap owner) (name : Text) (fuel : Nat) :
    ∃ result, (access classes fuel owner name .read).run heap = (result, heap) ∧
      ∀ value, result = .ok value → IsPlain value := by
  cases fuel with
  | zero => exact ⟨.error .depth, rfl, by rintro value ⟨⟩⟩
  | succ fuel =>
      have hplain : IsMemberless heap owner →
          ∃ result, (access classes (fuel + 1) owner name .read).run heap = (result, heap) ∧
            ∀ value, result = .ok value → IsPlain value :=
        fun hnone => ⟨_, hnone.run_access .., by rintro value ⟨⟩⟩
      cases owner with
      | messageClass className =>
          rw [access]
          cases find? classes className with
          | none => exact ⟨.error .attribute, rfl, by rintro value ⟨⟩⟩
          | some type =>
              dsimp only
              rw [accessClassMember]
              cases type.method? name with
              | none => exact ⟨.error .attribute, rfl, by rintro value ⟨⟩⟩
              | some method => exact ⟨.ok (.method name), rfl, by rintro value ⟨⟩ address ⟨⟩⟩
      | typeClass =>
          rw [access]
          cases MessageType.ofName? name with
          | none => exact ⟨.error .attribute, rfl, by rintro value ⟨⟩⟩
          | some type => exact ⟨.ok (.messageType type), rfl, by rintro value ⟨⟩ address ⟨⟩⟩
      | messageType type =>
          rw [access]
          cases hmember : typeMember? type name with
          | none => exact ⟨.error .attribute, rfl, by rintro value ⟨⟩⟩
          | some value =>
              refine ⟨.ok value, rfl, ?_⟩
              rintro other ⟨⟩
              exact isPlain_of_typeMember? hmember
      | cell address =>
          exact hplain ⟨by simp, by simp, by simp, h⟩
      | _ => exact hplain ⟨by simp, by simp, by simp, h⟩

/-! ## Names in a constructor -/

section Evaluation

variable {classes : Classes} {frame : Frame} {heap : Heap} {known : Value → Prop}

theorem isPlain_of_moduleName? {name : Text} {value : Value}
    (h : moduleName? classes name = some value) : IsPlain value := by
  rintro address rfl
  rw [moduleName?] at h
  split at h
  · cases h
  · have hmem := mem_snd_of_lookup h
    simp [importedNames] at hmem

theorem isPlain_of_builtin {name : Text} {value : Value}
    (h : builtinNames.lookup name = some value) : IsPlain value := by
  rintro address rfl
  have hmem := mem_snd_of_lookup h
  simp [builtinNames] at hmem

/-- What a name means is what a parameter holds, or it lies in no cell. -/
theorem known_of_meaning? (hplain : ∀ value, IsPlain value → known value)
    (hlocals : ∀ value ∈ frame.locals.map Prod.snd, known value) {name : Text} {value : Value}
    (h : frame.meaning? name = some value) : known value := by
  rcases Option.or_eq_some_iff.mp h with hinner | ⟨-, hbuiltin⟩
  · rcases Option.or_eq_some_iff.mp hinner with hlocal | ⟨-, hmodule⟩
    · exact hlocals value (mem_snd_of_lookup hlocal)
    · exact hplain value (isPlain_of_moduleName? hmodule)
  · exact hplain value (isPlain_of_builtin hbuiltin)

theorem exists_run_name (hplain : ∀ value, IsPlain value → known value)
    (hlocals : ∀ value ∈ frame.locals.map Prod.snd, known value) (name : Text) :
    ∃ result, (∀ state, (evaluate frame (.name name)).run state = (result, state)) ∧
      ∀ value, result = .ok value → known value := by
  cases hmeaning : frame.meaning? (privateName frame.className name) with
  | none =>
      refine ⟨.error .attribute, fun _ => ?_, by rintro value ⟨⟩⟩
      rw [Frame.meaning?] at hmeaning
      rw [evaluate, Frame.name, hmeaning]
      rfl
  | some value =>
      refine ⟨.ok value, run_evaluate_known hmeaning, ?_⟩
      rintro other ⟨⟩
      exact known_of_meaning? hplain hlocals hmeaning

theorem exists_run_names (hplain : ∀ value, IsPlain value → known value)
    (hlocals : ∀ value ∈ frame.locals.map Prod.snd, known value) (names : List Text) :
    ∃ result, (∀ state, (evaluateNamed frame (names.map fun name => (name, .name name))).run state =
        (result, state)) ∧
      ∀ named, result = .ok named → ∀ entry ∈ named, known entry.2 := by
  induction names with
  | nil => exact ⟨.ok [], fun _ => rfl, by rintro named ⟨⟩ entry ⟨⟩⟩
  | cons name rest ih =>
      obtain ⟨result, hrun, hknown⟩ := exists_run_name hplain hlocals name
      obtain ⟨others, hothers, hall⟩ := ih
      cases result with
      | error fault =>
          refine ⟨.error fault, fun state => ?_, by rintro named ⟨⟩⟩
          rw [List.map_cons, evaluateNamed, Stateful.run_bind_error _ (hrun state)]
      | ok value =>
          cases others with
          | error fault =>
              refine ⟨.error fault, fun state => ?_, by rintro named ⟨⟩⟩
              rw [List.map_cons, evaluateNamed, Stateful.run_bind_ok _ (hrun state),
                Stateful.run_bind_error _ (hothers state)]
          | ok named =>
              refine ⟨.ok ((name, value) :: named), fun state => ?_, ?_⟩
              · rw [List.map_cons]
                exact run_evaluateNamed_cons name (hrun state) (hothers state)
              · rintro given ⟨⟩
                exact List.forall_mem_cons.mpr ⟨hknown value rfl, hall named rfl⟩

end Evaluation

/-! ## The cells of a new message -/

/-- The cells of a new message behind so many others: two tables, the base record
and the message. -/
def newCells (content flag kind : Value) (className : Text) (fields : List (Text × Value))
    (address : Nat) : List Cell :=
  [.table [], .table [], .object .base (baseAttributes content flag kind address),
    .object (.message className) fields]

theorem length_newCells (content flag kind : Value) (className : Text)
    (fields : List (Text × Value)) (address : Nat) :
    (newCells content flag kind className fields address).length = 4 := rfl

/-- What a call of a constructor of a class comes to on a heap, given values of
which something is known. -/
inductive Constructs (type : MessageClass) (known : Value → Prop) (heap : Heap) :
    Except Fault Value → Heap → Prop
  | refused (fault : Fault) : Constructs type known heap (.error fault) heap
  | tables (fault : Fault) :
      Constructs type known heap (.error fault) (heap ++ [Cell.table [], .table []])
  | base (fault : Fault) {content flag kind : Value} (hcontent : known content)
      (hflag : known flag) (hkind : IsPlain kind) :
      Constructs type known heap (.error fault) (heap ++ [Cell.table [], .table [],
        .object .base (baseAttributes content flag kind heap.length)])
  | message {content flag kind : Value} {fields : List (Text × Value)} (hcontent : known content)
      (hflag : known flag) (hkind : IsPlain kind) (hnames : fields.map Prod.fst = type.fields)
      (hbase : fields.lookup baseField = some (.cell (heap.length + 2)))
      (hfields : ∀ value ∈ fields.map Prod.snd, value = .cell (heap.length + 2) ∨ known value) :
      Constructs type known heap (.ok (.cell (heap.length + 3)))
        (heap ++ newCells content flag kind type.name fields heap.length)

/-! ## The base record and the message -/

section Making

variable {classes : Classes}

/-- No class has a field of a reserved name that does not begin with an
underscore. -/
theorem not_mem_fields {derivation : Derivation}
    (hderive : derivation.declaration.derive = .ok derivation) {name : Text}
    (hreserved : name ∈ reservedNames) (hhead : name.head? ≠ some '_') :
    name ∉ (MessageClass.ofDerivation derivation).fields := by
  intro hmem
  obtain ⟨field, hfield, hknown⟩ := List.mem_map.mp hmem
  obtain rfl := eq_of_privateName_eq hhead hknown
  obtain ⟨-, hfields, -, -, -⟩ := Declaration.derive_eq_ok_iff.mp hderive
  exact (checkFields_eq_ok_iff.mp hfields).2 _ hfield hreserved

theorem baseField_mem_fields {derivation : Derivation}
    (hderive : derivation.declaration.derive = .ok derivation) :
    baseField ∈ (MessageClass.ofDerivation derivation).fields := by
  obtain ⟨-, hfields, -, -, -⟩ := Declaration.derive_eq_ok_iff.mp hderive
  exact List.mem_map.mpr ⟨baseField, (checkFields_eq_ok_iff.mp hfields).1,
    privateName_of_not_private _ (by decide)⟩

/-- The attributes of a base record make a base record or nothing, whatever is
called with them: no class of the module has a field for the content. -/
theorem run_callValue_baseAttributes (hderived : AreDerived classes) (callee : Value)
    (content flag kind : Value) (address : Nat) (heap : Heap) :
    (∃ fault, (callValue classes callee
      { named := baseAttributes content flag kind address }).run heap = (.error fault, heap)) ∨
    (callValue classes callee { named := baseAttributes content flag kind address }).run heap =
      (.ok (.cell heap.length),
        heap ++ [.object .base (baseAttributes content flag kind address)]) := by
  cases callee with
  | baseClass =>
      right
      rw [callValue, makeBase_baseAttributes, run_allocate]
  | messageClass name =>
      left
      rw [callValue]
      cases hvisible : find? classes name with
      | none => exact ⟨.type, rfl⟩
      | some type =>
          dsimp only
          obtain ⟨derivation, rfl, hderive⟩ := hderived.find? hvisible
          rcases (MessageClass.ofDerivation derivation).run_makeMessage_of_plain rfl
            { named := baseAttributes content flag kind address } with
            ⟨fault, hfault⟩ | ⟨attributes, hbind, -⟩
          · exact ⟨fault, hfault heap⟩
          · -- a class of the module takes no content by name, so that such a call fails
            have hcontent : ("content" : Text) ∈ (MessageClass.ofDerivation derivation).fields :=
              mem_of_bind_named hbind (List.mem_cons_self ..)
            exact absurd hcontent (not_mem_fields hderive (by decide +kernel) (by decide))
  | textClass => exact .inl ⟨.type, rfl⟩
  | typeClass => exact .inl ⟨.type, rfl⟩
  | _ => exact .inl ⟨.type, rfl⟩

end Making

/-! ## The full constructor -/

section Terms

variable {classes : Classes} {frame : Frame} {heap : Heap} {known : Value → Prop} {name : Text}
  {content flag : Value}

/-- Where a constructor runs that is given known values, none of them an object. -/
structure IsConstructorFrame (frame : Frame) (classes : Classes) (heap : Heap)
    (known : Value → Prop) (name : Text) (content flag : Value) : Prop where
  classes : frame.classes = classes
  cls : frame.meaning? "cls" = some (.messageClass name)
  content : frame.meaning? "content" = some content
  flag : frame.meaning? "example" = some flag
  locals : ∀ value ∈ frame.locals.map Prod.snd, known value
  plain : ∀ value, IsPlain value → known value
  reads : ∀ owner, known owner → ∀ member, ∃ result,
    (frame.access owner member .read).run heap = (result, heap) ∧
      ∀ value, result = .ok value → IsPlain value

namespace IsConstructorFrame

/-- The message type is read, or that fails, before anything is made. -/
theorem exists_run_kind (h : IsConstructorFrame frame classes heap known name content flag)
    (category : Text) :
    ∃ result, (evaluate frame (.member (.name messageTypeEnum) category)).run heap =
        (result, heap) ∧
      ∀ value, result = .ok value → IsPlain value := by
  obtain ⟨result, hrun, hknown⟩ := exists_run_name h.plain h.locals messageTypeEnum
  rw [evaluate]
  cases result with
  | error fault =>
      exact ⟨.error fault, Stateful.run_bind_error _ (hrun heap), by rintro value ⟨⟩⟩
  | ok owner =>
      rw [Stateful.run_bind_ok _ (hrun heap)]
      exact h.reads owner (hknown owner rfl) _

theorem run_newBase_cases (h : IsConstructorFrame frame classes heap known name content flag)
    (hderived : AreDerived classes) (category : Text) :
    (∃ fault, (evaluate frame (newBase category)).run heap = (.error fault, heap) ∨
      (evaluate frame (newBase category)).run heap =
        (.error fault, heap ++ [Cell.table [], .table []])) ∨
    ∃ kind, IsPlain kind ∧ (evaluate frame (newBase category)).run heap =
      (.ok (.cell (heap.length + 2)), heap ++ [Cell.table [], .table [],
        .object .base (baseAttributes content flag kind heap.length)]) := by
  obtain ⟨result, hcallee, -⟩ := exists_run_name h.plain h.locals baseRecord
  rw [newBase_eq, evaluate]
  cases result with
  | error fault => exact .inl ⟨fault, .inl (Stateful.run_bind_error _ (hcallee heap))⟩
  | ok callee =>
      rw [Stateful.run_bind_ok _ (hcallee heap)]
      obtain ⟨result, hkind, hplain⟩ := h.exists_run_kind category
      cases result with
      | error fault =>
          refine .inl ⟨fault, .inl (Stateful.run_bind_error _ ?_)⟩
          rw [baseInitializers, evaluateNamed,
            Stateful.run_bind_ok _ (run_evaluate_name (by decide) h.content heap),
            evaluateNamed, bind_assoc,
            Stateful.run_bind_ok _ (run_evaluate_name (by decide) h.flag heap), evaluateNamed,
            bind_assoc, bind_assoc, Stateful.run_bind_error _ hkind]
      | ok kind =>
          rw [Stateful.run_bind_ok _ (run_baseInitializers h.content h.flag hkind), h.classes]
          rcases run_callValue_baseAttributes hderived callee content flag kind heap.length
            (heap ++ [Cell.table [], .table []]) with ⟨fault, hfault⟩ | hmade
          · exact .inl ⟨fault, .inr hfault⟩
          · refine .inr ⟨kind, hplain kind rfl, ?_⟩
            rw [hmade, List.length_append, List.append_assoc]
            rfl

theorem constructs (h : IsConstructorFrame frame classes heap known name content flag)
    (hderived : AreDerived classes) {derivation : Derivation}
    (hderive : derivation.declaration.derive = .ok derivation)
    (hvisible : find? classes name = some (.ofDerivation derivation)) (declaration : Declaration)
    (category : Text) {result : Except Fault Value} {after : Heap}
    (hrun : (evaluate frame (constructorTerm declaration category)).run heap = (result, after)) :
    Constructs (.ofDerivation derivation) known heap result after := by
  have hcontent := known_of_meaning? h.plain h.locals h.content
  have hflag := known_of_meaning? h.plain h.locals h.flag
  rw [constructorTerm, evaluate, Stateful.run_bind_ok _ (run_evaluate_name (by decide) h.cls heap),
    evaluateNamed, bind_assoc] at hrun
  rcases h.run_newBase_cases hderived category with
    ⟨fault, hbase | hbase⟩ | ⟨kind, hkind, hbase⟩
  · rw [Stateful.run_bind_error _ hbase] at hrun
    cases hrun
    exact .refused fault
  · rw [Stateful.run_bind_error _ hbase] at hrun
    cases hrun
    exact .tables fault
  · -- the other initializers are names, so that nothing more is made for them
    rw [Stateful.run_bind_ok _ hbase] at hrun
    obtain ⟨others, hothers, hknown⟩ := exists_run_names h.plain h.locals (extraNames declaration)
    cases others with
    | error fault =>
        rw [bind_assoc, Stateful.run_bind_error _ (hothers _)] at hrun
        cases hrun
        exact .base fault hcontent hflag hkind
    | ok named =>
        rw [bind_assoc, Stateful.run_bind_ok _ (hothers _), pure_bind, h.classes, callValue,
          hvisible] at hrun
        dsimp only at hrun
        rcases (MessageClass.ofDerivation derivation).run_makeMessage_of_plain rfl _ with
          ⟨fault, hfault⟩ | ⟨attributes, hbind, hmade⟩
        · rw [hfault] at hrun
          cases hrun
          exact .base fault hcontent hflag hkind
        · rw [hmade, List.length_append, List.append_assoc] at hrun
          cases hrun
          obtain ⟨hnames, hlookup⟩ := lookup_of_bind_named hbind
          refine .message hcontent hflag hkind hnames ?_ ?_
          · rw [hlookup _ (baseField_mem_fields hderive), List.lookup_cons_self]
          · intro value hvalue
            obtain ⟨entry, hentry, rfl⟩ := List.mem_map.mp hvalue
            have hgiven := mem_values_of_bind hbind hentry
            rcases List.mem_cons.mp hgiven with hown | hmem
            · exact .inl hown
            · obtain ⟨other, hother, heq⟩ := List.mem_map.mp hmem
              exact .inr (heq ▸ hknown named rfl other hother)

end IsConstructorFrame

end Terms

/-! ## Either constructor -/

section Constructors

variable {classes : Classes} {heap after : Heap} {derivation : Derivation} {arguments : Arguments}
  {result : Except Fault Value}

/-- What is known of the values that a constructor uses. -/
def IsGiven (arguments : Arguments) (value : Value) : Prop :=
  IsPlain value ∨ value ∈ arguments.values

theorem values_push (arguments : Arguments) (first : Value) :
    (arguments.push first).values = first :: arguments.values := rfl

theorem isPlain_messageClass (name : Text) : IsPlain (.messageClass name) := by
  rintro address ⟨⟩

theorem IsGiven.isNoObject {value : Value} (h : IsGiven arguments value)
    (hobjects : ∀ value ∈ arguments.values, IsNoObject heap value) : IsNoObject heap value :=
  h.elim (fun hplain => hplain.isNoObject heap) (hobjects value)

/-- What the parameters of a constructor get besides the class is given. -/
theorem isGiven_of_bind_push {names : List Text} {name : Text} {locals : Locals}
    (h : bind names (arguments.push (.messageClass name)) = .ok locals) :
    ∀ value ∈ locals.map Prod.snd, IsGiven arguments value := by
  intro value hvalue
  obtain ⟨entry, hentry, rfl⟩ := List.mem_map.mp hvalue
  have hmem := mem_values_of_bind h hentry
  rw [values_push, List.mem_cons] at hmem
  rcases hmem with heq | hmem
  · exact .inl (heq ▸ isPlain_messageClass _)
  · exact .inr hmem

theorem constructs_full (hderived : AreDerived classes)
    (hderive : derivation.declaration.derive = .ok derivation)
    (hvisible : find? classes derivation.declaration.name = some (.ofDerivation derivation))
    (hobjects : ∀ value ∈ arguments.values, IsNoObject heap value) (fuel : Nat)
    (hrun : (access classes (fuel + 1) (.messageClass derivation.declaration.name)
      "new_with_example" (.call arguments)).run heap = (result, after)) :
    Constructs (.ofDerivation derivation) (IsGiven arguments) heap result after := by
  rw [access_newWithExample rfl hvisible] at hrun
  cases hbind : bind (constructorNames derivation.declaration)
      (arguments.push (.messageClass derivation.declaration.name)) with
  | error fault =>
      rw [hbind] at hrun
      cases hrun
      exact .refused fault
  | ok locals =>
      rw [hbind] at hrun
      have hgiven := isGiven_of_bind_push hbind
      obtain ⟨given, hlength, -, rfl⟩ := bind_push_eq_ok hbind
      obtain ⟨content, rest, rfl⟩ := List.exists_cons_of_length_eq_add_one hlength
      obtain ⟨flag, values, rfl⟩ := List.exists_cons_of_length_eq_add_one (Nat.succ.inj hlength)
      have hframe : IsConstructorFrame
          { classes, className := derivation.declaration.name, access := access classes fuel
            locals := _ } classes heap (IsGiven arguments) derivation.declaration.name content
          flag :=
        ⟨rfl, Frame.meaning?_of_lookup List.lookup_cons_self, Frame.meaning?_of_lookup rfl,
          Frame.meaning?_of_lookup rfl, hgiven, fun _ => .inl, fun owner howner member =>
            run_read_noObject classes (howner.isNoObject hobjects) member fuel⟩
      exact hframe.constructs hderived hderive hvisible _ _ hrun

theorem Constructs.mono {type : MessageClass} {known known' : Value → Prop}
    (h : Constructs type known heap result after) (hknown : ∀ value, known value → known' value) :
    Constructs type known' heap result after := by
  cases h with
  | refused fault => exact .refused fault
  | tables fault => exact .tables fault
  | base fault hcontent hflag hkind =>
      exact .base fault (hknown _ hcontent) (hknown _ hflag) hkind
  | message hcontent hflag hkind hnames hbase hfields =>
      exact .message (hknown _ hcontent) (hknown _ hflag) hkind hnames hbase
        fun value hvalue => (hfields value hvalue).imp_right (hknown value)

/-- A constructor makes a new message of what it is given, or it fails. -/
theorem constructs (hderived : AreDerived classes) {type : MessageClass} {name : Text}
    (hvisible : find? classes name = some type) (hfault : type.fault? = none)
    (constructor : Constructor) (hobjects : ∀ value ∈ arguments.values, IsNoObject heap value)
    (hrun : (accessMember classes (.messageClass name) constructor.method
      (.call arguments)).run heap = (result, after)) :
    Constructs type (IsGiven arguments) heap result after := by
  obtain ⟨derivation, rfl, hderive⟩ := hderived.find? hvisible
  obtain rfl : derivation.declaration.name = name := name_of_find? hvisible
  obtain ⟨fuel, hfuel⟩ : ∃ fuel, 2 * heap.bound + 4 = fuel + 3 := ⟨2 * heap.bound + 1, by omega⟩
  rw [accessMember_run, hfuel] at hrun
  cases constructor with
  | newWithExample => exact constructs_full hderived hderive hvisible hobjects _ hrun
  | new =>
      have hnew : Constructor.new.method = "new" := rfl
      rw [hnew] at hrun
      cases hbind : bind (shortNames derivation.declaration)
          (arguments.push (.messageClass derivation.declaration.name)) with
      | error fault =>
          rw [access_new rfl hvisible, hbind] at hrun
          cases hrun
          exact .refused fault
      | ok locals =>
          have hgiven := isGiven_of_bind_push hbind
          obtain ⟨given, hlength, -, rfl⟩ := bind_push_eq_ok hbind
          obtain ⟨content, values, rfl⟩ := List.exists_cons_of_length_eq_add_one hlength
          have hvalues : values.length = (extraNames derivation.declaration).length := by
            simpa using hlength
          -- the short constructor calls the full one with the flag off
          rw [run_access_new_of_bind hderive hvisible hfault hvalues hbind] at hrun
          have hpassed : ∀ value ∈ content :: .bool false :: values, IsGiven arguments value := by
            rw [List.forall_mem_cons, List.forall_mem_cons]
            refine ⟨hgiven _ (List.mem_cons_of_mem _ (List.mem_cons_self ..)),
              .inl (by rintro address ⟨⟩), fun value hvalue => hgiven value ?_⟩
            rw [List.zip_cons_cons, List.map_cons, List.map_cons,
              List.map_snd_zip (Nat.le_of_eq (by rw [hvalues, List.length_map]))]
            exact List.mem_cons_of_mem _ (List.mem_cons_of_mem _ hvalue)
          have hall : ∀ value ∈ Arguments.values { positional := content :: .bool false :: values },
              IsGiven arguments value := by
            rw [Arguments.values, List.map_nil, List.append_nil]
            exact hpassed
          have hfull := constructs_full hderived hderive hvisible
            (fun value hvalue => (hall value hvalue).isNoObject hobjects) _ hrun
          exact hfull.mono fun value hknown => hknown.elim .inl (hall value)

end Constructors

end MessageForge.Session
