import MessageForge.Proofs.Depth
import MessageForge.Session.Step

/-!
# Constructors that agree

The short constructor of a class calls the full one with the flag off and hands
on everything else. So both do the same with the same arguments: they return
the same object, made of the same cells, or they fail with the same fault. That
holds for fields of any names, even for those with which no message can be
made.
-/

namespace MessageForge.Session

open Vocabulary

/-! ## Arguments for parameters -/

section Arguments

variable {names : List Text} {named : List (Text × Value)} {arguments : Arguments} {locals : Locals}

theorem fault_of_giveByName {placed : Locals} {fault : Fault}
    (h : giveByName named names placed = .error fault) : fault = .type := by
  induction names generalizing placed with
  | nil => cases h
  | cons name rest ih =>
      rw [giveByName, List.foldlM_cons] at h
      cases hvalue : named.lookup name with
      | none =>
          rw [hvalue] at h
          cases h
          rfl
      | some value =>
          rw [hvalue] at h
          exact ih h

/-- Arguments that do not suit the parameters are a fault of one kind. -/
theorem fault_of_bind {fault : Fault} (h : bind names arguments = .error fault) :
    fault = .type := by
  rw [bind] at h
  dsimp only at h
  split at h
  · exact (Except.error.inj h).symm
  · split at h
    · exact (Except.error.inj h).symm
    · exact fault_of_giveByName h

/-- A named argument is for a parameter that gets nothing by its position. -/
theorem known_of_bind (h : bind names arguments = .ok locals) {entry : Text × Value}
    (hentry : entry ∈ arguments.named) :
    entry.1 ∈ names ∧ (names.zip arguments.positional).lookup entry.1 = none := by
  rw [bind] at h
  dsimp only at h
  split at h
  · cases h
  · split at h
    · cases h
    · next hknown =>
        rw [Bool.not_eq_true, List.any_eq_false] at hknown
        have hgood := hknown entry hentry
        rw [Bool.or_eq_true, not_or, Bool.not_eq_true', Bool.not_eq_false, List.contains_iff_mem,
          Bool.not_eq_true, Option.isSome_eq_false_iff, Option.isNone_iff_eq_none] at hgood
        exact hgood

theorem fresh_of_bind_push {first : Text} {value : Value}
    (h : bind (first :: names) (arguments.push value) = .ok locals) :
    ∀ entry ∈ arguments.named, entry.1 ≠ first := by
  rintro entry hentry rfl
  obtain ⟨-, hplaced⟩ := known_of_bind h hentry
  rw [Arguments.push, List.zip_cons_cons, List.lookup_cons_self] at hplaced
  cases hplaced

/-- A further argument in front is given to a further parameter in front. -/
theorem bind_push_of_ok {first : Text} {value : Value} (h : bind names arguments = .ok locals)
    (hfresh : ∀ entry ∈ arguments.named, entry.1 ≠ first) :
    bind (first :: names) (arguments.push value) = .ok ((first, value) :: locals) := by
  have hknown : ∀ entry ∈ arguments.named,
      entry.1 ∈ names ∧ (names.zip arguments.positional).lookup entry.1 = none :=
    fun _ hentry => known_of_bind h hentry
  rw [bind] at h
  dsimp only at h
  split at h
  · cases h
  · next hlength =>
      split at h
      · cases h
      · rw [bind, Arguments.push]
        dsimp only
        rw [if_neg (by simpa using hlength), if_neg]
        · have hgive : giveByName arguments.named
              (names.drop (names.zip arguments.positional).length)
              (names.zip arguments.positional) = .ok locals := h
          obtain ⟨values, -, hall⟩ := giveByName_eq_ok hgive
          rw [hall, Except.ok.injEq] at hgive
          have hlonger := hall ((first, value) :: names.zip arguments.positional)
          rw [List.cons_append, hgive] at hlonger
          exact hlonger
        · rw [Bool.not_eq_true, List.any_eq_false]
          intro entry hentry
          obtain ⟨hmem, hplaced⟩ := hknown entry hentry
          have hne := beq_eq_false_iff_ne.mpr (hfresh entry hentry)
          rw [List.zip_cons_cons, List.lookup_cons, hne]
          simp [hmem, hplaced]

end Arguments

section Parameters

variable {declaration : Declaration} {derivation : Derivation}

/-- What the fields of a class get from the arguments of either constructor. -/
theorem bind_constructors (hderive : declaration.derive = .ok derivation) (cls content flag : Value)
    (arguments : Arguments) :
    bind (shortNames declaration) ((arguments.push content).push cls) = .error .type ∧
      bind (constructorNames declaration) (((arguments.push flag).push content).push cls) =
        .error .type ∨
    ∃ values, values.length = (extraNames declaration).length ∧
      bind (shortNames declaration) ((arguments.push content).push cls) =
        .ok ((shortNames declaration).zip (cls :: content :: values)) ∧
      bind (constructorNames declaration) (((arguments.push flag).push content).push cls) =
        .ok ((constructorNames declaration).zip (cls :: content :: flag :: values)) := by
  obtain ⟨-, -, hexample⟩ := not_mem_knownNames hderive declaration.name
  cases hshort : bind (shortNames declaration) ((arguments.push content).push cls) with
  | ok locals =>
      right
      have hcls := fresh_of_bind_push hshort
      obtain ⟨given, -, hown, rfl⟩ := bind_push_eq_ok hshort
      have hcontent := fresh_of_bind_push hown
      obtain ⟨values, hvalues, hfields, hgiven⟩ := bind_push_eq_ok hown
      have hflag : ∀ entry ∈ arguments.named, entry.1 ≠ "example" := by
        intro entry hentry heq
        exact hexample (heq ▸ (known_of_bind hfields hentry).1)
      refine ⟨values, by rw [hvalues, List.length_map], ?_, ?_⟩
      · rw [hgiven]
        rfl
      · exact bind_push_of_ok (bind_push_of_ok (bind_push_of_ok hfields hflag) hcontent) hcls
  | error fault =>
      left
      refine ⟨congrArg Except.error (fault_of_bind hshort), ?_⟩
      cases hfull : bind (constructorNames declaration)
          (((arguments.push flag).push content).push cls) with
      | error fault' => exact congrArg Except.error (fault_of_bind hfull)
      | ok locals =>
          -- whatever suits the full constructor suits the short one without the flag
          have hcls := fresh_of_bind_push hfull
          obtain ⟨given, -, hown, -⟩ := bind_push_eq_ok hfull
          have hcontent := fresh_of_bind_push hown
          obtain ⟨given', -, hrest, -⟩ := bind_push_eq_ok hown
          obtain ⟨values, -, hfields, -⟩ := bind_push_eq_ok hrest
          have hboth : bind (shortNames declaration) ((arguments.push content).push cls) = _ :=
            bind_push_of_ok (bind_push_of_ok hfields hcontent) hcls
          rw [hshort] at hboth
          cases hboth

end Parameters

/-! ## The full constructor with more or less fuel -/

section Evaluation

variable {classes : Classes} {heap : Heap}

theorem run_bind_congr {α β : Type} {first first' : Evaluation α} {next next' : α → Evaluation β}
    (hfirst : first.run heap = first'.run heap)
    (hnext : ∀ value after, first.run heap = (.ok value, after) →
      (next value).run after = (next' value).run after) :
    (first >>= next).run heap = (first' >>= next').run heap := by
  rw [Stateful.run_bind, Stateful.run_bind, ← hfirst]
  cases hrun : first.run heap with
  | mk result after =>
      cases result with
      | error fault => rfl
      | ok value => exact hnext value after hrun

/-- A frame with another way to members. -/
def Frame.withAccess (frame : Frame) (access : Accessor) : Frame :=
  { frame with access }

theorem evaluate_name_withAccess (frame : Frame) (access : Accessor) (name : Text) :
    evaluate (frame.withAccess access) (.name name) = evaluate frame (.name name) := by
  rw [evaluate, evaluate]
  rfl

/-- To look up a name leaves the heap as it is. -/
theorem heap_of_run_name {frame : Frame} {name : Text} {value : Value} {after : Heap}
    (h : (evaluate frame (.name name)).run heap = (.ok value, after)) : after = heap := by
  rw [evaluate, Frame.name] at h
  split at h
  · cases h
    rfl
  · cases h

theorem evaluateNamed_names_withAccess (frame : Frame) (access : Accessor) (names : List Text) :
    evaluateNamed (frame.withAccess access) (names.map fun name => (name, .name name)) =
      evaluateNamed frame (names.map fun name => (name, .name name)) := by
  induction names with
  | nil => rfl
  | cons name rest ih =>
      rw [List.map_cons, evaluateNamed, evaluateNamed, evaluate_name_withAccess, ih]

theorem run_evaluateNamed_congr {frame frame' : Frame} {name : Text} {term : Term}
    {rest : List (Text × Term)}
    (hterm : (evaluate frame term).run heap = (evaluate frame' term).run heap)
    (hrest : ∀ value after, (evaluate frame term).run heap = (.ok value, after) →
      (evaluateNamed frame rest).run after = (evaluateNamed frame' rest).run after) :
    (evaluateNamed frame ((name, term) :: rest)).run heap =
      (evaluateNamed frame' ((name, term) :: rest)).run heap := by
  rw [evaluateNamed, evaluateNamed]
  refine run_bind_congr hterm fun value after hvalue => ?_
  exact run_bind_congr (hrest value after hvalue) fun _ _ _ => rfl

/-- The full constructor reads one member of one value, on the heap that it
starts from. -/
theorem run_constructorTerm_withAccess {frame : Frame} {access : Accessor}
    (haccess : ∀ owner name, (frame.access owner name .read).run heap =
      (access owner name .read).run heap) (declaration : Declaration) (category : Text) :
    (evaluate frame (constructorTerm declaration category)).run heap =
      (evaluate (frame.withAccess access) (constructorTerm declaration category)).run heap := by
  have hname : ∀ name state, (evaluate frame (.name name)).run state =
      (evaluate (frame.withAccess access) (.name name)).run state := by
    intro name state
    rw [evaluate_name_withAccess]
  have hmember : (evaluate frame (.member (.name messageTypeEnum) category)).run heap =
      (evaluate (frame.withAccess access) (.member (.name messageTypeEnum) category)).run heap := by
    rw [evaluate, evaluate]
    refine run_bind_congr (hname _ _) fun owner after howner => ?_
    obtain rfl := heap_of_run_name howner
    exact haccess owner _
  have hbase : (evaluate frame (newBase category)).run heap =
      (evaluate (frame.withAccess access) (newBase category)).run heap := by
    rw [newBase, evaluate, evaluate]
    refine run_bind_congr (hname _ _) fun callee after hcallee => ?_
    obtain rfl := heap_of_run_name hcallee
    refine run_bind_congr ?_ fun _ _ _ => rfl
    refine run_evaluateNamed_congr (hname _ _) fun content after hcontent => ?_
    obtain rfl := heap_of_run_name hcontent
    refine run_evaluateNamed_congr (hname _ _) fun flag after hflag => ?_
    obtain rfl := heap_of_run_name hflag
    -- what comes behind the message type reads no members
    exact run_evaluateNamed_congr hmember fun _ _ _ => rfl
  rw [constructorTerm, evaluate, evaluate]
  refine run_bind_congr (hname _ _) fun callee after hcallee => ?_
  obtain rfl := heap_of_run_name hcallee
  refine run_bind_congr ?_ fun _ _ _ => rfl
  refine run_evaluateNamed_congr hbase fun _ _ _ => ?_
  rw [evaluateNamed_names_withAccess]

end Evaluation

/-! ## Both constructors -/

section Constructors

variable {classes : Classes}

/-- The short constructor with so much fuel does what the full one does with
the flag off. -/
theorem run_access_new (hderived : AreDerived classes) {type : MessageClass} {name : Text}
    (hvisible : find? classes name = some type) (hfault : type.fault? = none) {heap : Heap}
    {fuel : Nat} (hfuel : heap.length + 3 ≤ fuel) (content : Value) (arguments : Arguments) :
    (access classes (fuel + 2) (.messageClass name) "new" (.call (arguments.push content))).run
        heap =
      (access classes (fuel + 2) (.messageClass name) "new_with_example"
        (.call ((arguments.push (.bool false)).push content))).run heap := by
  obtain ⟨derivation, rfl, hderive⟩ := hderived.find? hvisible
  obtain rfl := name_of_find? hvisible
  have hname : (MessageClass.ofDerivation derivation).name = derivation.declaration.name := rfl
  rw [hname] at hvisible ⊢
  rcases bind_constructors hderive (.messageClass derivation.declaration.name) content
    (.bool false) arguments with ⟨hshort, hfull⟩ | ⟨values, hvalues, hshort, hfull⟩
  · rw [access_new rfl hvisible, access_newWithExample rfl hvisible, hshort, hfull]
  · obtain ⟨left, rfl⟩ := Nat.exists_eq_add_of_le' (Nat.le_trans (Nat.le_add_left 1 _) hfuel)
    have hpassed : bind (constructorNames derivation.declaration)
        { positional := .messageClass derivation.declaration.name ::
            content :: .bool false :: values } =
        .ok ((constructorNames derivation.declaration).zip
          (.messageClass derivation.declaration.name :: content :: .bool false :: values)) :=
      bind_positional (by simp [constructorNames, hvalues])
    rw [run_access_new_of_bind hderive hvisible hfault hvalues hshort,
      access_newWithExample rfl hvisible, access_newWithExample rfl hvisible, hfull,
      Arguments.push, hpassed]
    -- the same body runs with one step less to go, which no read of it notices
    exact run_constructorTerm_withAccess
      (fun owner name => run_read_eq hderived owner name hfuel (Nat.le_succ_of_le hfuel)) _ _

theorem run_accessMember_new {file : DeclarationFile} (hclasses : classesOf? file = some classes)
    (name : Text) (content : Value) (arguments : Arguments) (heap : Heap) :
    (accessMember classes (.messageClass name) "new" (.call (arguments.push content))).run heap =
      (accessMember classes (.messageClass name) "new_with_example"
        (.call ((arguments.push (.bool false)).push content))).run heap := by
  rw [accessMember_run, accessMember_run]
  cases hvisible : find? classes name with
  | none =>
      rw [access, access, hvisible]
  | some type =>
      have hfuel : List.length heap + 3 ≤ 2 * heap.bound + 2 := by
        rw [Heap.bound]
        omega
      exact run_access_new (areDerived_of_classesOf? hclasses) hvisible
        (fault?_eq_none_of_visible hclasses hvisible) hfuel content arguments

end Constructors

/-! ## Sessions -/

theorem WrittenArguments.values_cons (first : Argument) (positional : List Argument)
    (named : List (Text × Argument)) (objects : Objects) :
    WrittenArguments.values ⟨first :: positional, named⟩ objects =
      first.value objects >>= fun value =>
        WrittenArguments.values ⟨positional, named⟩ objects >>= fun given =>
          return given.push value := by
  rw [WrittenArguments.values, WrittenArguments.values, Argument.values]
  simp only [bind_assoc, pure_bind]
  rfl

/-- The classes of a module and what it imports are asked for both constructors
with the same outcome, and only the classes have them. -/
theorem run_read_constructors {classes : Classes} (hderived : AreDerived classes) {type : Text}
    {owner : Value} (howner : moduleName? classes type = some owner) (heap : Heap) :
    (∃ name found, owner = .messageClass name ∧ find? classes name = some found ∧
      ∀ constructor : Constructor,
        (accessMember classes owner constructor.method .read).run heap =
          (.ok (.method constructor.method), heap)) ∨
    ∀ constructor : Constructor,
      (accessMember classes owner constructor.method .read).run heap = (.error .attribute, heap) := by
  rw [moduleName?] at howner
  split at howner
  · next hfound =>
      cases howner
      obtain ⟨found, hvisible⟩ := Option.isSome_iff_exists.mp hfound
      obtain ⟨derivation, rfl, -⟩ := hderived.find? hvisible
      refine .inl ⟨type, _, rfl, hvisible, fun constructor => ?_⟩
      rw [accessMember_run, access, hvisible]
      dsimp only
      cases constructor with
      | new =>
          have hmethod : Constructor.new.method = "new" := rfl
          rw [hmethod, accessClassMember, method?_new]
          rfl
      | newWithExample =>
          have hmethod : Constructor.newWithExample.method = "new_with_example" := rfl
          rw [hmethod, accessClassMember, method?_newWithExample]
          rfl
  · obtain ⟨entry, hentry, rfl⟩ : ∃ entry ∈ importedNames, owner = entry.2 := by
      obtain ⟨front, back, hsplit, -⟩ := List.lookup_eq_some_iff.mp howner
      exact ⟨_, hsplit ▸ List.mem_append_right _ (List.mem_cons_self ..), rfl⟩
    rw [importedNames, List.mem_pair] at hentry
    refine .inr fun constructor => ?_
    rw [accessMember_run]
    rcases hentry with rfl | rfl
    · have hplain : IsMemberless heap .baseClass := by simp [IsMemberless, Heap.at?]
      exact hplain.run_access ..
    · rw [access]
      cases constructor <;> rfl

theorem perform_create_new {file : DeclarationFile} {classes : Classes}
    (hclasses : classesOf? file = some classes) (objects : Objects) (key type : Text)
    (content : Argument) (positional : List Argument) (named : List (Text × Argument))
    (heap : Heap) :
    ((Step.create key type "new" ⟨content :: positional, named⟩).perform classes objects).run heap =
      ((Step.create key type "new_with_example"
        ⟨content :: .bool false :: positional, named⟩).perform classes objects).run heap := by
  rw [Step.perform, Step.perform]
  cases howner : moduleName? classes type with
  | none => rfl
  | some owner =>
      dsimp only
      rcases run_read_constructors (areDerived_of_classesOf? hclasses) howner heap with
        ⟨name, found, rfl, -, hread⟩ | hread
      · have hflag : (Argument.bool false).value objects = pure (.bool false) := by
          rw [Argument.value]
        have hshort : (accessMember classes (.messageClass name) "new" .read).run heap =
            (.ok (.method "new"), heap) := hread .new
        have hfull : (accessMember classes (.messageClass name) "new_with_example" .read).run heap =
            (.ok (.method "new_with_example"), heap) := hread .newWithExample
        rw [Stateful.run_bind_ok _ hshort, Stateful.run_bind_ok _ hfull,
          WrittenArguments.values_cons, WrittenArguments.values_cons, WrittenArguments.values_cons,
          hflag]
        simp only [bind_assoc, pure_bind]
        refine run_bind_congr rfl fun value after _ => run_bind_congr rfl fun given last _ => ?_
        exact run_bind_congr (run_accessMember_new hclasses name value given last) fun _ _ _ => rfl
      · have hshort : (accessMember classes owner "new" .read).run heap =
            (.error .attribute, heap) := hread .new
        have hfull : (accessMember classes owner "new_with_example" .read).run heap =
            (.error .attribute, heap) := hread .newWithExample
        rw [Stateful.run_bind_error _ hshort, Stateful.run_bind_error _ hfull]

/-! ## What is passed on -/

/-- A short constructor hands its content to a full one, that the flag is off,
and by position the parameters of both of these names. -/
structure PassesOn (short full : Method) (names : List Text) : Prop where
  takes : short.parameters.map Parameter.name = ("content" : Text) :: names
  wants : full.parameters.map Parameter.name = ("content" : Text) :: "example" :: names
  body : short.body = [.give (.call (.member (.name "cls") full.name)
    (.name "content" :: .false :: names.map .name))]

theorem passesOn_constructors (fields : List Field) (category : Text) :
    PassesOn (shortConstructor (extraFields fields)) (fullConstructor (extraFields fields) category)
      ((fields.map Field.name).filter (· ≠ baseField)) := by
  have hnames : (fields.map Field.name).filter (· ≠ baseField) =
      (extraFields fields).map Field.name := (extraNames_eq { name := [], fields }).symm
  rw [hnames]
  refine ⟨?_, ?_, ?_⟩
  · rw [shortConstructor, List.map_cons, List.map_map]
    rfl
  · rw [fullConstructor, List.map_cons, List.map_cons, List.map_map]
    rfl
  · rw [shortConstructor, List.map_map]
    rfl

theorem exists_passesOn {entry : Entry} {type : MessageClass}
    (h : MessageClass.ofEntry? entry = some type) :
    ∃ short full, type.method? "new" = some short ∧
      type.method? "new_with_example" = some full ∧
      PassesOn short full (entry.fieldNames.filter (· ≠ baseField)) := by
  cases entry with
  | declaration declaration =>
      rw [MessageClass.ofEntry?] at h
      cases hderive : declaration.derive with
      | error diagnostic => rw [hderive] at h; cases h
      | ok derivation =>
          rw [hderive] at h
          cases h
          obtain ⟨-, -, -, rfl, -⟩ := Declaration.derive_eq_ok_iff.mp hderive
          exact ⟨_, _, method?_new derivation, method?_newWithExample derivation,
            passesOn_constructors _ _⟩
  | definition definition =>
      rw [MessageClass.ofEntry?] at h
      cases hnormal : Category.normalize definition.category with
      | error complaint => rw [hnormal] at h; cases h
      | ok category =>
          rw [hnormal] at h
          cases h
          rw [← ofDerivation_bareRecord]
          exact ⟨_, _, method?_new _, method?_newWithExample _, passesOn_constructors _ _⟩

/-- A constructor that is called without the flag does what the other does with
the flag off: it returns the same object on the same heap or fails with the same
fault, whatever the arguments for the fields are and however they are given, and
so does the step of a session that creates an object. What it passes on by
position are the parameters of the other behind content and flag, in their
order. -/
theorem short_constructor_agrees {file : DeclarationFile} {classes : Classes}
    (hclasses : classesOf? file = some classes) :
    (∀ (name : Text) (content : Value) (arguments : Arguments) (heap : Heap),
      (accessMember classes (.messageClass name) "new" (.call (arguments.push content))).run heap =
        (accessMember classes (.messageClass name) "new_with_example"
          (.call ((arguments.push (.bool false)).push content))).run heap) ∧
    (∀ (objects : Objects) (key type : Text) (content : Argument) (positional : List Argument)
        (named : List (Text × Argument)) (heap : Heap),
      ((Step.create key type "new" ⟨content :: positional, named⟩).perform classes objects).run heap =
        ((Step.create key type "new_with_example"
          ⟨content :: .bool false :: positional, named⟩).perform classes objects).run heap) ∧
    ∀ (entry : Entry) (type : MessageClass), MessageClass.ofEntry? entry = some type →
      ∃ short full, type.method? "new" = some short ∧
        type.method? "new_with_example" = some full ∧
        PassesOn short full (entry.fieldNames.filter (· ≠ baseField)) :=
  ⟨run_accessMember_new hclasses, perform_create_new hclasses,
    fun _ _ htype => exists_passesOn htype⟩

/-- A message whose base stands between two fields of its own, of which one is
private to its class. -/
def letterDeclaration : Declaration :=
  { name := "HumanMessage", fields := [⟨"note", "str"⟩, ⟨baseField, baseRecord⟩, ⟨"__unit", "str"⟩] }

def letterDerivation : Derivation :=
  { declaration := letterDeclaration, category := "Human", role := .derived "Human" }

/-- Neither constructor makes a message with a private field, and both fail in
the same way. -/
theorem letter_constructors_agree :
    (accessMember [.ofDerivation letterDerivation] (.messageClass "HumanMessage") "new"
        (.call { positional := [.text "hi", .text "a", .text "b"] })).run [] =
      (accessMember [.ofDerivation letterDerivation] (.messageClass "HumanMessage")
        "new_with_example"
        (.call { positional := [.text "hi", .bool false, .text "a", .text "b"] })).run [] := by
  have hderive : letterDeclaration.derive = .ok letterDerivation := by
    rw [Declaration.derive_eq_ok_iff]
    decide +kernel
  have hpossible : (MessageClass.ofDerivation letterDerivation).fault? = none := by decide +kernel
  have hclasses : classesOf? { path := "chat.py", entries := [.declaration letterDeclaration] } =
      some [.ofDerivation letterDerivation] := by
    rw [classesOf?_single hderive, if_pos hpossible]
  exact (short_constructor_agrees hclasses).1 "HumanMessage" (.text "hi")
    { positional := [.text "a", .text "b"] } []

end MessageForge.Session
