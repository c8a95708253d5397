import MessageForge.Proofs.Additions

/-!
# Orderly steps

A step of a session is orderly if it makes an object by a constructor, with
arguments that refer to no stored object, if it calls a mutator or assigns an
item to a table, or if it only reads. What such steps can do to the state of a
session is told here once: each adds cells, and at most changes the object that
it is about or puts a new one in its place.
-/

namespace MessageForge.Session

open Vocabulary

/-! ## States of a session -/

/-- The objects that a session keeps and the heap that they lie in. -/
structure State where
  objects : Objects := []
  heap : Heap := []

namespace State

/-- What the outcome of a step makes of a state. -/
def next (state : State) : Except Fault (View × Objects) × Heap → State
  | (.ok (_, objects), heap) => { objects, heap }
  | (.error _, heap) => { state with heap }

def advance (classes : Classes) (state : State) (step : Step) : State :=
  state.next ((step.perform classes state.objects).run state.heap)

def advanceAll (classes : Classes) (state : State) (steps : List Step) : State :=
  steps.foldl (State.advance classes) state

end State

/-- A session leaves the heap of its last state. -/
theorem heap_performAll (classes : Classes) : ∀ (steps : List Step) (state : State),
    (performAll classes state.objects state.heap steps).2 =
      (state.advanceAll classes steps).heap
  | [], _ => rfl
  | step :: rest, state => by
      have hrest := heap_performAll classes rest (state.advance classes step)
      rw [State.advanceAll, List.foldl_cons, ← State.advanceAll, ← hrest, performAll,
        State.advance]
      cases hrun : (step.perform classes state.objects).run state.heap with
      | mk result after =>
          cases result with
          | error fault => rfl
          | ok outcome => rfl

/-! ## Steps -/

namespace Step

/-- Steps that make objects by constructors without reference to stored ones,
and change them by mutators and by items of their tables only. -/
inductive IsOrderly : Step → Prop
  | create (key type : Text) (constructor : Constructor) {arguments : WrittenArguments}
      (h : arguments.references = []) :
      IsOrderly (.create key type constructor.method arguments)
  | call (key : Text) (setter : Setter) (arguments : WrittenArguments) :
      IsOrderly (.call key setter.method arguments)
  | enter (key : Text) (table : Table) (place value : Argument) :
      IsOrderly (.enter key table.name place value)
  | read (key member : Text) : IsOrderly (.read key member)
  | compare (left right : Text) : IsOrderly (.compare left right)
  | conforms (key : Text) : IsOrderly (.conforms key)

/-- The key of the object that a step makes or changes. -/
def target? : Step → Option Text
  | .create key _ _ _ | .construct key _ _ | .call key _ _ | .assign key _ _
  | .enter key _ _ _ => some key
  | .read _ _ | .compare _ _ | .conforms _ => none

/-- The keys of the stored objects that the arguments of a step refer to. -/
def references : Step → List Text
  | .create _ _ _ arguments | .construct _ _ arguments | .call _ _ arguments =>
      arguments.references
  | .assign _ _ value => value.references
  | .enter _ _ place value => place.references ++ value.references
  | .read _ _ | .compare _ _ | .conforms _ => []

end Step

/-! ## What a step does -/

/-- A message that comes into a heap behind all that there was. -/
structure Arrives (classes : Classes) (heap after : Heap) (first : Nat) : Prop where
  grows : heap <+: after
  fresh : heap.length ≤ first
  lies : Lies classes after first
  sealed : ∀ address target, heap.length ≤ address → PointsTo after address target →
    InBlock first target → InBlock first address

/-- The cells of the object that a step is about. -/
def State.Touches (state : State) (step : Step) (address : Nat) : Prop :=
  ∃ key first, step.target? = some key ∧ state.objects.lookup key = some (.cell (first + 3)) ∧
    InBlock first address

/-- All that an orderly step can do: it changes at most the object that it is
about, which goes on lying where it lay, or it puts a new one in its place. -/
structure Stepped (classes : Classes) (step : Step) (state after : State) : Prop where
  grows : state.heap.length ≤ after.heap.length
  same : ∀ address < state.heap.length, ¬ state.Touches step address →
    after.heap[address]? = state.heap[address]?
  lies : ∀ key first, step.target? = some key →
    state.objects.lookup key = some (.cell (first + 3)) → Lies classes after.heap first
  objects : after.objects = state.objects ∨ ∃ key first, step.target? = some key ∧
    after.objects = assign key (.cell (first + 3)) state.objects ∧
    Arrives classes state.heap after.heap first
  points : step.references = [] → ∀ address target, PointsTo after.heap address target →
    (state.heap.length ≤ target ∧ target < after.heap.length) ∨
      PointsTo state.heap address target

/-- The messages that a session keeps lie in blocks that have no cell in common. -/
structure IsKept (classes : Classes) (state : State) : Prop where
  lies : ∀ key value, state.objects.lookup key = some value →
    ∃ first, value = .cell (first + 3) ∧ Lies classes state.heap first
  apart : ∀ key other first second, key ≠ other →
    state.objects.lookup key = some (.cell (first + 3)) →
    state.objects.lookup other = some (.cell (second + 3)) →
    ∀ address, InBlock first address → ¬ InBlock second address

section Steps

variable {classes : Classes} {step : Step} {state : State}

theorem IsKept.lies_of_lookup (hkept : IsKept classes state) {key : Text} {first : Nat}
    (hlookup : state.objects.lookup key = some (.cell (first + 3))) :
    Lies classes state.heap first := by
  obtain ⟨other, heq, hlies⟩ := hkept.lies key _ hlookup
  obtain rfl : first = other := by
    cases heq
    rfl
  exact hlies

/-- A step that only adds cells. -/
theorem stepped_of_adds (hkept : IsKept classes state) {heap : Heap}
    (hadds : Adds (step.references = []) state.heap heap) :
    Stepped classes step state { state with heap } where
  grows := hadds.grows.length_le
  same := by
    intro address haddress _
    obtain ⟨more, hmore⟩ := hadds.grows
    subst hmore
    exact List.getElem?_append_left haddress
  lies := by
    intro key first _ hlookup
    exact (hkept.lies_of_lookup hlookup).of_grows hadds.grows
  objects := .inl rfl
  points := by
    intro hclosed address target hpoints
    by_cases hold : address < state.heap.length
    · obtain ⟨more, hmore⟩ := hadds.grows
      subst hmore
      exact .inr ((pointsTo_append_left hold).mp hpoints)
    · exact .inl (hadds.points hclosed address target (Nat.not_lt.mp hold) hpoints)

/-- A step that adds cells and then sets one of the object that it is about. -/
theorem stepped_of_set (hkept : IsKept classes state) {key : Text} {first place : Nat}
    {heap : Heap} {old cell : Cell} (htarget : step.target? = some key)
    (hlookup : state.objects.lookup key = some (.cell (first + 3)))
    (hplace : InBlock first place) (hold : state.heap[place]? = some old)
    (hadds : Adds (step.references = []) state.heap heap)
    (hlies : Lies classes (heap.set place cell) first)
    (hcell : step.references = [] → ∀ target, .cell target ∈ cell.values →
      .cell target ∈ old.values ∨ (state.heap.length ≤ target ∧ target < heap.length)) :
    Stepped classes step state { state with heap := heap.set place cell } where
  grows := by
    rw [List.length_set]
    exact hadds.grows.length_le
  same := by
    intro address haddress htouches
    have hne : place ≠ address := by
      rintro rfl
      exact htouches ⟨key, first, htarget, hlookup, hplace⟩
    rw [List.getElem?_set_ne hne]
    exact (stepped_of_adds hkept hadds).same address haddress htouches
  lies := by
    intro other second hother hsecond
    rw [htarget, Option.some.injEq] at hother
    subst hother
    rw [hlookup, Option.some.injEq, Value.cell.injEq, Nat.add_right_cancel_iff] at hsecond
    subst hsecond
    exact hlies
  objects := .inl rfl
  points := by
    intro hclosed address target hpoints
    rw [List.length_set]
    obtain ⟨other, hother, htarget⟩ := hpoints
    by_cases hsame : place = address
    · subst hsame
      have hinside : place < state.heap.length := (List.getElem?_eq_some_iff.mp hold).1
      rw [List.getElem?_set_self (Nat.lt_of_lt_of_le hinside hadds.grows.length_le)] at hother
      cases hother
      rcases hcell hclosed target htarget with hkept | hnew
      · exact .inr ⟨old, hold, hkept⟩
      · exact .inl hnew
    · rw [List.getElem?_set_ne hsame] at hother
      exact (stepped_of_adds hkept hadds).points hclosed address target ⟨other, hother, htarget⟩

theorem stepped_self (hkept : IsKept classes state) : Stepped classes step state state :=
  stepped_of_adds hkept (.refl _ _)

/-- A step on a kept object ends at once if there is none under its key. -/
theorem stepped_stored (hkept : IsKept classes state) (key : Text)
    {job : Value → Evaluation (View × Objects)}
    (h : ∀ first, state.objects.lookup key = some (.cell (first + 3)) →
      Lies classes state.heap first →
      Stepped classes step state (state.next ((job (.cell (first + 3))).run state.heap))) :
    Stepped classes step state
      (state.next ((stored state.objects key >>= job).run state.heap)) := by
  cases hlookup : state.objects.lookup key with
  | none =>
      have hstored : (stored state.objects key).run state.heap = (.error .key, state.heap) := by
        rw [stored, hlookup]
        rfl
      rw [Stateful.run_bind_error _ hstored]
      exact stepped_self hkept
  | some value =>
      obtain ⟨first, rfl, hlies⟩ := hkept.lies key value hlookup
      have hstored : (stored state.objects key).run state.heap =
          (.ok (.cell (first + 3)), state.heap) := by
        rw [stored, hlookup]
        rfl
      rw [Stateful.run_bind_ok _ hstored]
      exact h first hlookup hlies

/-- A job that is next in a step and only adds cells. -/
theorem stepped_bind {α : Type} (hkept : IsKept classes state) {heap : Heap}
    (hadds : Adds (step.references = []) state.heap heap) {job : Evaluation α}
    {next : α → Evaluation (View × Objects)}
    (hjob : ∀ result after, job.run heap = (result, after) →
      Adds (step.references = []) heap after)
    (hnext : ∀ a after, job.run heap = (.ok a, after) →
      Adds (step.references = []) state.heap after →
      Stepped classes step state (state.next ((next a).run after))) :
    Stepped classes step state (state.next ((job >>= next).run heap)) := by
  refine Stateful.run_bind_induction (fun outcome => Stepped classes step state
    (state.next outcome)) (fun fault after hrun => ?_) fun a after hrun => ?_
  · exact stepped_of_adds hkept (hadds.trans (hjob _ _ hrun))
  · exact hnext a after hrun (hadds.trans (hjob _ _ hrun))

theorem stepped_read (hderived : AreDerived classes) (hkept : IsKept classes state)
    (key member : Text) :
    Stepped classes (.read key member) state (state.advance classes (.read key member)) := by
  rw [State.advance, Step.perform]
  refine stepped_stored hkept key fun first _ hlies => ?_
  refine stepped_bind hkept (.refl _ _) (fun result after hrun => hlies.adds_of_read hderived hrun)
    fun value after hrun hadds => ?_
  exact stepped_of_adds hkept hadds

theorem stepped_compare (hkept : IsKept classes state) (left right : Text) :
    Stepped classes (.compare left right) state
      (state.advance classes (.compare left right)) := by
  rw [State.advance, Step.perform]
  refine stepped_stored hkept left fun first _ hlies => ?_
  refine stepped_stored hkept right fun second _ hlies' => ?_
  exact stepped_self hkept

theorem snd_run_hasMember (owner : Value) (name : Text) (heap : Heap) :
    ((hasMember classes owner name).run heap).2 =
      ((accessMember classes owner name .read).run heap).2 := by
  have hget : (get : Evaluation Heap).run heap = (.ok heap, heap) := rfl
  rw [hasMember, Stateful.run_bind_ok _ hget]
  cases hread : (accessMember classes owner name .read).run heap with
  | mk result after =>
      have hset : (set after : Evaluation PUnit).run heap = (.ok ⟨⟩, after) := rfl
      dsimp only
      rw [Stateful.run_bind_ok _ hset]
      cases result with
      | ok value => rfl
      | error fault => cases fault <;> rfl

theorem adds_hasMembers {closed : Prop} (hderived : AreDerived classes) {first : Nat} :
    ∀ {names : List Text} {heap after : Heap} {result : Except Fault Bool},
      Lies classes heap first →
      (hasMembers classes (.cell (first + 3)) names).run heap = (result, after) →
      Adds closed heap after
  | [], heap, after, result, _, hrun => by
      cases hrun
      exact .refl _ _
  | name :: rest, heap, after, result, hlies, hrun => by
      have hadds : Adds closed heap
          ((hasMember classes (.cell (first + 3)) name).run heap).2 := by
        rw [snd_run_hasMember]
        exact hlies.adds_of_read hderived rfl
      cases hread : (hasMember classes (.cell (first + 3)) name).run heap with
      | mk outcome between =>
          rw [hread] at hadds
          rw [hasMembers] at hrun
          cases outcome with
          | error fault =>
              rw [Stateful.run_bind_error _ hread] at hrun
              cases hrun
              exact hadds
          | ok found =>
              rw [Stateful.run_bind_ok _ hread] at hrun
              cases found with
              | false =>
                  cases hrun
                  exact hadds
              | true => exact hadds.trans (adds_hasMembers hderived (hlies.of_grows hadds.grows) hrun)

theorem stepped_conforms (hderived : AreDerived classes) (hkept : IsKept classes state)
    (key : Text) :
    Stepped classes (.conforms key) state (state.advance classes (.conforms key)) := by
  rw [State.advance, Step.perform]
  refine stepped_stored hkept key fun first _ hlies => ?_
  refine stepped_bind hkept (.refl _ _) (fun result after hrun => adds_hasMembers hderived hlies hrun)
    fun value after hrun hadds => ?_
  exact stepped_of_adds hkept hadds

theorem mem_assign {key : Text} {value other : Value} : ∀ {entries : List (Text × Value)},
    other ∈ (assign key value entries).map Prod.snd → other = value ∨ other ∈ entries.map Prod.snd
  | [], h => .inl (List.mem_singleton.mp h)
  | (old, kept) :: rest, h => by
      rw [assign] at h
      split at h
      · exact (List.mem_cons.mp h).imp_right (List.mem_cons_of_mem _)
      · rcases List.mem_cons.mp h with rfl | hrest
        · exact .inr (List.mem_cons_self ..)
        · exact (mem_assign hrest).imp_right (List.mem_cons_of_mem _)

theorem stepped_call (hderived : AreDerived classes) (hkept : IsKept classes state)
    (key : Text) (setter : Setter) (arguments : WrittenArguments) :
    Stepped classes (.call key setter.method arguments) state
      (state.advance classes (.call key setter.method arguments)) := by
  rw [State.advance, Step.perform]
  refine stepped_stored hkept key fun first hlookup hlies => ?_
  refine stepped_bind hkept (.refl _ _) (fun result after hrun => hlies.adds_of_read hderived hrun)
    fun method between hread hadds => ?_
  have hvalues : ∀ result after, (arguments.values state.objects).run between = (result, after) →
      _ := fun result after hrun => (arguments.gives_values
        (mayRefer_self state.objects (List.Subset.refl arguments.references))).adds hrun
  refine stepped_bind hkept hadds (fun result after hrun => (hvalues result after hrun).1)
    fun given heap hgiven hadds' => ?_
  obtain ⟨-, -, hfits⟩ := hvalues _ _ hgiven
  have hlies' := hlies.of_grows hadds'.grows
  rcases hlies'.run_mutator_cases hderived setter given with
    ⟨fault, hfault⟩ | ⟨value, hvalue, attributes, hbase, hattributes, hset⟩
  · rw [Stateful.run_bind_error _ hfault]
    exact stepped_of_adds hkept hadds'
  · -- the base record held what it holds before the arguments were added
    rw [Stateful.run_bind_ok _ hset]
    have hold : state.heap[first + 2]? = some (.object .base attributes) := by
      rw [← sameBlock_of_grows hlies hadds'.grows _ (inBlock_base first), hbase]
    refine stepped_of_set hkept rfl hlookup (inBlock_base first) hold hadds'
      (hlies'.set_base (hattributes.assign setter value)) fun hclosed target htarget => ?_
    rcases mem_assign htarget with heq | hmem
    · right
      obtain ⟨hfrom, hbelow⟩ := (hfits given rfl value hvalue).bounds hclosed heq.symm
      exact ⟨Nat.le_trans hadds.grows.length_le hfrom, hbelow⟩
    · exact .inl hmem

theorem stepped_enter (hderived : AreDerived classes) (hkept : IsKept classes state)
    (key : Text) (table : Table) (place value : Argument) :
    Stepped classes (.enter key table.name place value) state
      (state.advance classes (.enter key table.name place value)) := by
  rw [State.advance, Step.perform]
  refine stepped_stored hkept key fun first hlookup hlies => ?_
  have hread : (accessMember classes (.cell (first + 3)) table.name .read).run state.heap =
      (.ok (.cell (table.address first)), state.heap) := hlies.reads_part hderived (.table table)
  rw [Stateful.run_bind_ok _ hread]
  have hgiven : ∀ argument : Argument, argument.references ⊆ place.references ++ value.references →
      ∀ (heap : Heap) result after, (argument.value state.objects).run heap = (result, after) → _ :=
    fun argument hsub heap result after hrun =>
      (argument.gives_value (mayRefer_self state.objects hsub)).adds hrun
  refine stepped_bind hkept (.refl _ _)
    (fun result after hrun => (hgiven place (List.subset_append_left _ _) _ result after hrun).1)
    fun index between _ hadds => ?_
  have hvalue := hgiven value (List.subset_append_right _ _) between
  refine stepped_bind hkept hadds (fun result after hrun => (hvalue result after hrun).1)
    fun item heap hitem hadds' => ?_
  obtain ⟨-, -, hfits⟩ := hvalue _ _ hitem
  have hlies' := hlies.of_grows hadds'.grows
  obtain ⟨entries, hentries⟩ := hlies'.table table
  rcases run_putEntry_cases hentries index item with ⟨fault, hfault⟩ | ⟨name, hput⟩
  · rw [Stateful.run_bind_error _ hfault]
    exact stepped_of_adds hkept hadds'
  · rw [Stateful.run_bind_ok _ hput]
    have hold : state.heap[table.address first]? = some (.table entries) := by
      rw [← sameBlock_of_grows hlies hadds'.grows _ (table.inBlock first), hentries]
    refine stepped_of_set hkept rfl hlookup (table.inBlock first) hold hadds'
      (hlies'.set_table table _) fun hclosed target htarget => ?_
    rcases mem_assign htarget with heq | hmem
    · right
      obtain ⟨hfrom, hbelow⟩ :=
        (hfits item rfl item (List.mem_singleton_self _)).bounds hclosed heq.symm
      exact ⟨Nat.le_trans hadds.grows.length_le hfrom, hbelow⟩
    · exact .inl hmem

/-- A message that a constructor makes of new values comes in behind all else,
and what there was before it does not lead into it. -/
theorem Constructs.arrives {type : MessageClass} {known : Value → Prop} {closed : Prop}
    {heap between after : Heap} {value : Value}
    (h : Constructs type known between (.ok value) after)
    (hvisible : find? classes type.name = some type) (hadds : Adds closed heap between)
    (hclosed : closed) :
    value = .cell (between.length + 3) ∧ Arrives classes heap after between.length := by
  obtain ⟨rfl, hlength, hlies⟩ := h.lies hvisible
  have hmore : Adds False between after := h.adds (.refl _ _) (by rintro ⟨⟩)
  refine ⟨rfl, hadds.grows.trans hmore.grows, hadds.grows.length_le, hlies, ?_⟩
  intro address target haddress hpoints htarget
  by_cases hold : address < between.length
  · obtain ⟨cells, rfl⟩ := hmore.grows
    rw [pointsTo_append_left hold] at hpoints
    have hbelow := (hadds.points hclosed address target haddress hpoints).2
    exact absurd htarget.1 (Nat.not_le.mpr hbelow)
  · exact ⟨Nat.not_lt.mp hold, hlength ▸ hpoints.lt_length⟩

/-- A step that puts a new message in the place of the object it is about. -/
theorem stepped_of_arrives (hkept : IsKept classes state) {key : Text} {first : Nat} {heap : Heap}
    (htarget : step.target? = some key) (hadds : Adds (step.references = []) state.heap heap)
    (harrives : Arrives classes state.heap heap first) :
    Stepped classes step state
      { objects := assign key (.cell (first + 3)) state.objects, heap } :=
  have hadded := stepped_of_adds hkept hadds
  ⟨hadded.grows, hadded.same, hadded.lies, .inr ⟨key, first, htarget, rfl, harrives⟩, hadded.points⟩

theorem stepped_create (hderived : AreDerived classes)
    (hfaults : ∀ name type, find? classes name = some type → type.fault? = none)
    (hkept : IsKept classes state) (key type : Text) (constructor : Constructor)
    {arguments : WrittenArguments} (hclosed : arguments.references = []) :
    Stepped classes (.create key type constructor.method arguments) state
      (state.advance classes (.create key type constructor.method arguments)) := by
  rw [State.advance, Step.perform]
  cases howner : moduleName? classes type with
  | none => exact stepped_self hkept
  | some owner =>
      dsimp only
      rcases run_read_constructors hderived howner state.heap with
        ⟨name, found, rfl, hvisible, hread⟩ | hread
      · rw [Stateful.run_bind_ok _ (hread constructor)]
        have hvalues : ∀ result after,
            (arguments.values state.objects).run state.heap = (result, after) → _ :=
          fun result after hrun => (arguments.gives_values
            (mayRefer_self state.objects (List.Subset.refl arguments.references))).adds hrun
        refine stepped_bind hkept (.refl _ _) (fun result after hrun => (hvalues result after hrun).1)
          fun given between hgiven hadds => ?_
        obtain ⟨-, htidy, hfits⟩ := hvalues _ _ hgiven
        -- no argument refers to a stored object, so that all of them are new
        have hinside : ∀ target, .cell target ∈ given.values →
            state.heap.length ≤ target ∧ target < between.length :=
          fun target htarget => (hfits given rfl _ htarget).bounds hclosed rfl
        have hobjects : ∀ value ∈ given.values, IsNoObject between value :=
          fun value hvalue => htidy.isNoObject (hfits given rfl value hvalue) hclosed
        cases hrun : (accessMember classes (.messageClass name) constructor.method
            (.call given)).run between with
        | mk result after =>
            have hmade := constructs hderived hvisible (hfaults name found hvisible) constructor
              hobjects hrun
            have hall : Adds (arguments.references = []) state.heap after :=
              hmade.adds hadds fun _ target hknown =>
                hknown.elim (fun hplain => absurd rfl (hplain target)) (hinside target)
            cases result with
            | error fault =>
                rw [Stateful.run_bind_error _ hrun]
                exact stepped_of_adds hkept hall
            | ok value =>
                rw [Stateful.run_bind_ok _ hrun]
                obtain ⟨rfl, harrives⟩ := hmade.arrives (name_of_find? hvisible ▸ hvisible) hadds
                  hclosed
                exact stepped_of_arrives hkept rfl hall harrives
      · rw [Stateful.run_bind_error _ (hread constructor)]
        exact stepped_self hkept

/-- An orderly step does nothing else to a state whose messages lie apart. -/
theorem stepped_advance (hderived : AreDerived classes)
    (hfaults : ∀ name type, find? classes name = some type → type.fault? = none)
    (hkept : IsKept classes state) (horderly : step.IsOrderly) :
    Stepped classes step state (state.advance classes step) := by
  cases horderly with
  | create key type constructor hclosed =>
      exact stepped_create hderived hfaults hkept key type constructor hclosed
  | call key setter arguments => exact stepped_call hderived hkept key setter arguments
  | enter key table place value => exact stepped_enter hderived hkept key table place value
  | read key member => exact stepped_read hderived hkept key member
  | compare left right => exact stepped_compare hkept left right
  | conforms key => exact stepped_conforms hderived hkept key

end Steps

end MessageForge.Session
