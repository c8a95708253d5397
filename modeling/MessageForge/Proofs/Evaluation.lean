import MessageForge.Proofs.Acceptance
import MessageForge.Proofs.Parameters

/-!
# Evaluation of constructors

What the terms of a constructor evaluate to, each from what its names mean.
The base record that a constructor makes is a new object with two new tables,
and initializers become attributes in the order of the fields.
-/

namespace MessageForge.Session

open Vocabulary

/-! ## Names -/

theorem privateName_of_not_private {name : Text} (className : Text) (h : isPrivate name = false) :
    privateName className name = name := by
  rw [privateName, h]
  rfl

/-- An item is found by its name if no other has the same. -/
theorem find?_name_of_mem {α : Type} {name : α → Text} {item : α} : ∀ {items : List α},
    (items.map name).Nodup → item ∈ items → items.find? (name · = name item) = some item
  | [], _, hmem => absurd hmem List.not_mem_nil
  | first :: rest, hnodup, hmem => by
      obtain ⟨hfresh, hrest⟩ := List.nodup_cons.mp hnodup
      rcases List.mem_cons.mp hmem with rfl | hmem
      · exact List.find?_cons_of_pos (decide_eq_true rfl)
      · have hne : name first ≠ name item := fun heq => hfresh (heq ▸ List.mem_map_of_mem hmem)
        rw [List.find?_cons_of_neg (by simpa using hne)]
        exact find?_name_of_mem hrest hmem

/-- What a name means where a method runs. -/
def Frame.meaning? (frame : Frame) (name : Text) : Option Value :=
  ((frame.locals.lookup name).or (moduleName? frame.classes name)).or (builtinNames.lookup name)

theorem run_evaluate_known {frame : Frame} {name : Text} {value : Value}
    (h : frame.meaning? (privateName frame.className name) = some value) (heap : Heap) :
    (evaluate frame (.name name)).run heap = (.ok value, heap) := by
  rw [Frame.meaning?] at h
  rw [evaluate, Frame.name, h]
  rfl

theorem run_evaluate_name {frame : Frame} {name : Text} {value : Value}
    (hprivate : isPrivate name = false) (h : frame.meaning? name = some value) (heap : Heap) :
    (evaluate frame (.name name)).run heap = (.ok value, heap) :=
  run_evaluate_known (by rwa [privateName_of_not_private _ hprivate]) heap

/-- Each field of the class gets what the parameter of its name holds. -/
theorem run_evaluateNamed_names {frame : Frame} {valueOf : Text → Value} (heap : Heap) :
    ∀ {names : List Text}, (∀ name ∈ names, isPrivate name = false ∧
        frame.meaning? name = some (valueOf name)) →
      (evaluateNamed frame (names.map fun name => (name, .name name))).run heap =
        (.ok (names.map fun name => (name, valueOf name)), heap)
  | [], _ => rfl
  | name :: rest, h => by
      obtain ⟨hprivate, hvalue⟩ := h name (List.mem_cons_self ..)
      have hrest := run_evaluateNamed_names heap
        (fun other hother => h other (List.mem_cons_of_mem _ hother))
      rw [List.map_cons, evaluateNamed, Stateful.run_bind_ok _ (run_evaluate_name hprivate hvalue heap),
        Stateful.run_bind_ok _ hrest]
      rfl

/-! ## The base record -/

/-- The attributes of a base record that is made with some message type, with
its tables at an address and at the one after it. -/
def baseAttributes (content flag kind : Value) (address : Nat) : List (Text × Value) :=
  [("content", content), ("example", flag), ("message_type", kind),
    ("additional_kwargs", .cell address), ("response_metadata", .cell (address + 1)),
    ("id", .none), ("name", .none)]

/-- The attributes of a new base record, whose tables are at some address and
at the one after it. -/
def newBaseAttributes (content flag : Value) (type : MessageType) (address : Nat) :
    List (Text × Value) :=
  [("content", content), ("example", flag), ("message_type", .messageType type),
    ("additional_kwargs", .cell address), ("response_metadata", .cell (address + 1)),
    ("id", .none), ("name", .none)]

theorem newBaseAttributes_eq (content flag : Value) (type : MessageType) (address : Nat) :
    newBaseAttributes content flag type address =
      baseAttributes content flag (.messageType type) address := rfl

/-- What a constructor gives to the base record. -/
def baseInitializers (category : Text) : List (Text × Term) :=
  [("content", .name "content"), ("example", .name "example"),
    ("message_type", .member (.name messageTypeEnum) category),
    ("additional_kwargs", .emptyTable), ("response_metadata", .emptyTable),
    ("id", .none), ("name", .none)]

theorem newBase_eq (category : Text) :
    newBase category = .construct (.name baseRecord) (baseInitializers category) := rfl

theorem run_allocate (cell : Cell) (heap : Heap) :
    (allocate cell).run heap = (.ok (.cell heap.length), heap ++ [cell]) := rfl

theorem run_evaluateNamed_cons {frame : Frame} {term : Term} {rest : List (Text × Term)}
    {value : Value} {named : List (Text × Value)} {heap middle after : Heap} (name : Text)
    (hterm : (evaluate frame term).run heap = (.ok value, middle))
    (hrest : (evaluateNamed frame rest).run middle = (.ok named, after)) :
    (evaluateNamed frame ((name, term) :: rest)).run heap =
      (.ok ((name, value) :: named), after) := by
  rw [evaluateNamed, Stateful.run_bind_ok _ hterm, Stateful.run_bind_ok _ hrest]
  rfl

theorem makeBase_baseAttributes (content flag kind : Value) (address : Nat) :
    makeBase { named := baseAttributes content flag kind address } =
      allocate (.object .base (baseAttributes content flag kind address)) := by
  unfold makeBase baseAttributes baseFields
  repeat rw [Text.ofString_ofList]
  rfl

/-- Once the message type is known, two new tables are made and nothing else. -/
theorem run_baseInitializers {frame : Frame} {category : Text} {content flag kind : Value}
    {heap : Heap} (hcontent : frame.meaning? "content" = some content)
    (hflag : frame.meaning? "example" = some flag)
    (hkind : (evaluate frame (.member (.name messageTypeEnum) category)).run heap =
      (.ok kind, heap)) :
    (evaluateNamed frame (baseInitializers category)).run heap =
      (.ok (baseAttributes content flag kind heap.length), heap ++ [Cell.table [], .table []]) := by
  have hsecond : (allocate (.table [])).run (heap ++ [.table []]) =
      (.ok (.cell (heap.length + 1)), heap ++ [Cell.table [], .table []]) := by
    rw [run_allocate, List.length_append, List.append_assoc]
    rfl
  have hnone : ∀ state : Heap, (evaluate frame .none).run state = (.ok .none, state) :=
    fun _ => rfl
  exact
    run_evaluateNamed_cons _ (run_evaluate_name (by decide) hcontent heap) <|
    run_evaluateNamed_cons _ (run_evaluate_name (by decide) hflag heap) <|
    run_evaluateNamed_cons _ hkind <|
    run_evaluateNamed_cons _ (run_allocate (.table []) heap) <|
    run_evaluateNamed_cons _ hsecond <|
    run_evaluateNamed_cons _ (hnone _) <|
    run_evaluateNamed_cons _ (hnone _) rfl

theorem run_evaluate_newBase {frame : Frame} {category : Text} {content flag : Value}
    {type : MessageType} (hcontent : frame.meaning? "content" = some content)
    (hflag : frame.meaning? "example" = some flag)
    (hbase : frame.meaning? baseRecord = some .baseClass)
    (henum : frame.meaning? messageTypeEnum = some .typeClass)
    (hcategory : isPrivate category = false)
    (hmember : ∀ heap, (frame.access .typeClass category .read).run heap =
      (.ok (.messageType type), heap)) (heap : Heap) :
    (evaluate frame (newBase category)).run heap = (.ok (.cell (heap.length + 2)),
      heap ++ [Cell.table [], .table [],
        .object .base (newBaseAttributes content flag type heap.length)]) := by
  have htype : (evaluate frame (.member (.name messageTypeEnum) category)).run heap =
      (.ok (.messageType type), heap) := by
    rw [evaluate, Stateful.run_bind_ok _ (run_evaluate_name (by decide) henum heap),
      privateName_of_not_private _ hcategory]
    exact hmember heap
  rw [newBase_eq, evaluate, Stateful.run_bind_ok _ (run_evaluate_name (by decide) hbase heap),
    Stateful.run_bind_ok _ (run_baseInitializers hcontent hflag htype), newBaseAttributes_eq,
    callValue, makeBase_baseAttributes, run_allocate, List.length_append, List.append_assoc]
  rfl

end MessageForge.Session
