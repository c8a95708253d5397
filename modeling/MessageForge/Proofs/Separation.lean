import MessageForge.Proofs.Steps

/-!
# Messages share no state

A session that makes its objects by constructors, calls mutators and assigns
items to tables keeps each of its messages in a block of its own. A step changes
no cell of another block, so that no other message reads differently. If no
argument refers to a stored object, nothing outside of a block leads into it, and
then nothing that any other message shows is different at any depth.
-/

namespace MessageForge.Session

open Vocabulary

/-! ## Messages apart -/

section Apart

variable {classes : Classes} {step : Step} {state after : State}

theorem IsKept.untouched (hkept : IsKept classes state) {key : Text} {first address : Nat}
    (hother : step.target? ≠ some key)
    (hlookup : state.objects.lookup key = some (.cell (first + 3)))
    (haddress : InBlock first address) :
    address < state.heap.length ∧ ¬ state.Touches step address := by
  have hlength := (hkept.lies_of_lookup hlookup).lt_length
  refine ⟨Nat.lt_of_lt_of_le haddress.2 hlength, ?_⟩
  rintro ⟨target, second, htarget, hsecond, htouched⟩
  have hne : key ≠ target := fun heq => hother (heq ▸ htarget)
  exact hkept.apart key target first second hne hlookup hsecond address haddress htouched

/-- The step leaves the block of every other message as it was. -/
theorem Stepped.sameBlock (h : Stepped classes step state after) (hkept : IsKept classes state)
    {key : Text} {first : Nat} (hother : step.target? ≠ some key)
    (hlookup : state.objects.lookup key = some (.cell (first + 3))) :
    SameBlock state.heap after.heap first := by
  intro address haddress
  obtain ⟨hinside, htouches⟩ := hkept.untouched hother hlookup haddress
  exact h.same address hinside htouches

/-- What is kept after a step was kept before, or the step has just put it there. -/
theorem Stepped.lookup_cases (h : Stepped classes step state after) {key : Text} {value : Value}
    (hlookup : after.objects.lookup key = some value) :
    state.objects.lookup key = some value ∨ ∃ first, step.target? = some key ∧
      value = .cell (first + 3) ∧ Arrives classes state.heap after.heap first := by
  rcases h.objects with hsame | ⟨target, first, htarget, hassign, harrives⟩
  · exact .inl (hsame ▸ hlookup)
  · rw [hassign, lookup_assign] at hlookup
    split at hlookup
    · next heq =>
        cases hlookup
        exact .inr ⟨first, heq ▸ htarget, rfl, harrives⟩
    · exact .inl hlookup

theorem Stepped.lookup_other (h : Stepped classes step state after) {key : Text}
    (hother : step.target? ≠ some key) :
    after.objects.lookup key = state.objects.lookup key := by
  rcases h.objects with hsame | ⟨target, first, htarget, hassign, -⟩
  · rw [hsame]
  · have hne : target ≠ key := fun heq => hother (heq ▸ htarget)
    rw [hassign, lookup_assign, if_neg hne]

/-- A message that has come in lies behind those that were there. -/
theorem Arrives.apart {heap last : Heap} {first second : Nat}
    (h : Arrives classes heap last second) (hlies : Lies classes heap first) (address : Nat)
    (hfirst : InBlock first address) : ¬ InBlock second address := by
  intro hsecond
  have hlength := hlies.lt_length
  have hfresh := h.fresh
  obtain ⟨hfrom, hbelow⟩ := hfirst
  obtain ⟨hfrom', hbelow'⟩ := hsecond
  omega

theorem Stepped.isKept (h : Stepped classes step state after) (hkept : IsKept classes state) :
    IsKept classes after where
  lies := by
    intro key value hlookup
    rcases h.lookup_cases hlookup with hbefore | ⟨first, -, rfl, harrives⟩
    · obtain ⟨first, rfl, hlies⟩ := hkept.lies key value hbefore
      refine ⟨first, rfl, ?_⟩
      by_cases htarget : step.target? = some key
      · exact h.lies key first htarget hbefore
      · exact hlies.of_sameBlock (h.sameBlock hkept htarget hbefore)
    · exact ⟨first, rfl, harrives.lies⟩
  apart := by
    intro key other first second hne hfirst hsecond address hinside
    rcases h.lookup_cases hfirst with hbefore | ⟨place, htarget, heq, harrives⟩
    · rcases h.lookup_cases hsecond with hbefore' | ⟨place', -, heq', harrives'⟩
      -- two older messages stay where they lay
      · exact hkept.apart key other first second hne hbefore hbefore' address hinside
      · cases heq'
        exact harrives'.apart (hkept.lies_of_lookup hbefore) address hinside
    · cases heq
      rcases h.lookup_cases hsecond with hbefore' | ⟨place', htarget', -, -⟩
      · exact fun hinside' =>
          harrives.apart (hkept.lies_of_lookup hbefore') address hinside' hinside
      · rw [htarget] at htarget'
        exact absurd (Option.some.inj htarget') hne

end Apart

/-! ## Blocks that nothing leads into -/

/-- A state in which only cells of a message itself hold cells of its block. -/
structure IsSealed (state : State) : Prop where
  inside : ∀ address target, PointsTo state.heap address target → target < state.heap.length
  sealed : ∀ key first, state.objects.lookup key = some (.cell (first + 3)) →
    ∀ address target, PointsTo state.heap address target →
      InBlock first target → InBlock first address

section Sealed

variable {classes : Classes} {step : Step} {state after : State}

theorem Stepped.isSealed (h : Stepped classes step state after) (hkept : IsKept classes state)
    (hsealed : IsSealed state) (hclosed : step.references = []) : IsSealed after where
  inside := by
    intro address target hpoints
    rcases h.points hclosed address target hpoints with hnew | hold
    · exact hnew.2
    · exact Nat.lt_of_lt_of_le (hsealed.inside address target hold) h.grows
  sealed := by
    intro key first hlookup address target hpoints htarget
    rcases h.lookup_cases hlookup with hbefore | ⟨place, -, heq, harrives⟩
    · -- new cells are pointed to behind the block, which was there before
      have hlength := (hkept.lies_of_lookup hbefore).lt_length
      rcases h.points hclosed address target hpoints with hnew | hold
      · have hbelow := htarget.2
        omega
      · exact hsealed.sealed key first hbefore address target hold htarget
    · cases heq
      by_cases hnew : state.heap.length ≤ address
      · exact harrives.sealed address target hnew hpoints htarget
      · obtain ⟨cells, hcells⟩ := harrives.grows
        rw [← hcells, pointsTo_append_left (Nat.not_le.mp hnew)] at hpoints
        have hinside := hsealed.inside address target hpoints
        have hfresh := harrives.fresh
        have hfrom := htarget.1
        omega

/-- A cell that a step does not touch leads to others of them only. -/
theorem IsSealed.not_touches (hsealed : IsSealed state) {address target : Nat}
    (haddress : ¬ state.Touches step address) (hpoints : PointsTo state.heap address target) :
    ¬ state.Touches step target := by
  rintro ⟨key, first, htarget, hlookup, hinside⟩
  exact haddress ⟨key, first, htarget, hlookup,
    hsealed.sealed key first hlookup address target hpoints hinside⟩

end Sealed

/-! ## Views -/

section Views

variable {classes : Classes} {heap after : Heap}

/-- Equal cells look alike if the values that they hold do. -/
theorem view_cell_congr {address other depth : Nat} (hcell : after[address]? = heap[other]?)
    (hinner : ∀ cell, heap[other]? = some cell → ∀ inner ∈ cell.values,
      view classes after .settled depth inner = view classes heap .settled depth inner) :
    view classes after .settled (depth + 1) (.cell address) =
      view classes heap .settled (depth + 1) (.cell other) := by
  have hfields : ∀ type attributes, heap[other]? = some (.object type attributes) →
      (fieldNames classes type).filterMap (fun name => (attributes.lookup name).map
        fun value => (name, view classes after .settled depth value)) =
      (fieldNames classes type).filterMap (fun name => (attributes.lookup name).map
        fun value => (name, view classes heap .settled depth value)) := by
    intro type attributes hobject
    refine List.filterMap_congr fun name _ => Option.map_congr fun value hlookup => ?_
    rw [hinner _ hobject value (mem_snd_of_lookup hlookup)]
  unfold view
  dsimp only
  rw [hcell]
  cases hother : heap[other]? with
  | none => rfl
  | some cell =>
      cases cell with
      | list items => exact congrArg View.list (List.map_congr_left (hinner _ hother))
      | table entries =>
          refine congrArg View.table (List.map_congr_left fun entry hentry => ?_)
          exact congrArg (Prod.mk entry.1) (hinner _ hother entry.2 (List.mem_map_of_mem hentry))
      | object type attributes =>
          cases type with
          | base => exact congrArg View.base (hfields _ _ hother)
          | message name => exact congrArg (View.message name) (hfields _ _ hother)

/-- A view looks at nothing but the cells that can be reached from its value. -/
theorem view_congr {inside : Nat → Prop}
    (hsame : ∀ address, inside address → after[address]? = heap[address]?)
    (hreach : ∀ address target, inside address → PointsTo heap address target → inside target)
    (depth : Nat) : ∀ value : Value, (∀ address, value = .cell address → inside address) →
      view classes after .settled depth value = view classes heap .settled depth value := by
  induction depth with
  | zero => exact fun _ _ => rfl
  | succ depth ih =>
      intro value hvalue
      cases value with
      | cell address =>
          have hhere := hvalue address rfl
          refine view_cell_congr (hsame address hhere) fun cell hcell inner hinner => ?_
          refine ih inner fun target htarget => hreach address target hhere ⟨cell, hcell, ?_⟩
          exact htarget ▸ hinner
      | _ => rfl

/-- What an object shows of a member, down to some depth. -/
def shown (classes : Classes) (heap : Heap) (owner : Value) (name : Text) (depth : Nat) :
    Except Fault View :=
  let (result, after) := (accessMember classes owner name .read).run heap
  result.map (view classes after .settled depth)

/-- A cell that points nowhere looks alike wherever it has been made. -/
theorem view_made {cell : Cell} (hplain : ∀ value ∈ cell.values, IsPlain value) (depth : Nat) :
    view classes (after ++ [cell]) .settled depth (.cell after.length) =
      view classes (heap ++ [cell]) .settled depth (.cell heap.length) := by
  cases depth with
  | zero => rfl
  | succ depth =>
      refine view_cell_congr ?_ fun other hother inner hinner => ?_
      · rw [List.getElem?_concat_length, List.getElem?_concat_length]
      · rw [List.getElem?_concat_length] at hother
        cases hother
        have hnowhere := hplain inner hinner
        exact view_congr (fun _ => False.elim) (fun _ _ => False.elim) depth inner
          fun address haddress => absurd haddress (hnowhere address)

/-- A message shows the same of each member if its block and what can be reached
from there are the same. -/
theorem shown_congr (hderived : AreDerived classes) {first : Nat} {inside : Nat → Prop}
    (hlies : Lies classes heap first) (hblock : ∀ address, InBlock first address → inside address)
    (hsame : ∀ address, inside address → after[address]? = heap[address]?)
    (hreach : ∀ address target, inside address → PointsTo heap address target → inside target)
    (name : Text) (depth : Nat) :
    shown classes after (.cell (first + 3)) name depth =
      shown classes heap (.cell (first + 3)) name depth := by
  obtain ⟨reading, values, hover, hvalues, hrun⟩ := hlies.exists_reading hderived name
  have hheap := hrun heap fun _ _ => rfl
  have hafter := hrun after fun address haddress => hsame address (hblock address haddress)
  rw [shown, shown, hheap, hafter]
  cases reading with
  | held result =>
      cases result with
      | error fault => rfl
      | ok value =>
          refine congrArg Except.ok (view_congr hsame hreach depth value ?_)
          rintro target rfl
          rcases hover _ rfl with hplain | hmem
          · exact absurd rfl (hplain target)
          · obtain ⟨address, haddress, hpoints⟩ := hvalues target hmem
            exact hreach address target (hblock address haddress) hpoints
  | made cell => exact congrArg Except.ok (view_made hover depth)

end Views

/-! ## What other messages show -/

section Others

variable {classes : Classes} {heap after : Heap}

/-- Two messages with no part in common: neither the base record nor a table of
one is a part of the other. -/
def ShareNothing (classes : Classes) (heap : Heap) (left right : Value) : Prop :=
  ∀ part part' : Part, ∃ place place', Reads classes heap left part.name place ∧
    Reads classes heap right part'.name place' ∧ place ≠ place'

/-- A message that is the same in two heaps: its own cell, the result of every
read, and its base record and tables with what they hold. -/
structure IsUnchanged (classes : Classes) (heap after : Heap) (message : Value) : Prop where
  fields : after.at? message = heap.at? message
  reads : ∀ name, ∃ reading : Reading,
    (accessMember classes message name .read).run heap = reading.run heap ∧
      (accessMember classes message name .read).run after = reading.run after
  parts : ∀ part : Part, ∃ place, Reads classes heap message part.name place ∧
    Reads classes after message part.name place ∧ after.at? place = heap.at? place

theorem isUnchanged_of_sameBlock (hderived : AreDerived classes) {first : Nat}
    (hlies : Lies classes heap first) (hsame : SameBlock heap after first) :
    IsUnchanged classes heap after (.cell (first + 3)) where
  fields := hsame _ (inBlock_message first)
  reads := by
    intro name
    obtain ⟨reading, values, -, -, hrun⟩ := hlies.exists_reading hderived name
    exact ⟨reading, hrun heap fun _ _ => rfl, hrun after hsame⟩
  parts := by
    intro part
    exact ⟨.cell (part.address first), hlies.reads_part hderived part,
      (hlies.of_sameBlock hsame).reads_part hderived part, hsame _ (part.inBlock first)⟩

theorem IsKept.shareNothing {state : State} (hkept : IsKept classes state)
    (hderived : AreDerived classes) {key other : Text} {left right : Value} (hne : key ≠ other)
    (hleft : state.objects.lookup key = some left)
    (hright : state.objects.lookup other = some right) :
    ShareNothing classes state.heap left right := by
  obtain ⟨first, rfl, hlies⟩ := hkept.lies key left hleft
  obtain ⟨second, rfl, hlies'⟩ := hkept.lies other right hright
  intro part part'
  refine ⟨_, _, hlies.reads_part hderived part, hlies'.reads_part hderived part', ?_⟩
  intro heq
  have hplace : part.address first = part'.address second := Value.cell.inj heq
  exact hkept.apart key other first second hne hleft hright _ (part.inBlock first)
    (hplace ▸ part'.inBlock second)

end Others

/-- What another message shows is the same after a step as before it. -/
theorem Stepped.shown_eq {classes : Classes} {step : Step} {state next : State}
    (h : Stepped classes step state next) (hderived : AreDerived classes)
    (hkept : IsKept classes state) (hsealed : IsSealed state) {key : Text} {first : Nat}
    (hother : step.target? ≠ some key)
    (hlookup : state.objects.lookup key = some (.cell (first + 3))) (name : Text) (depth : Nat) :
    shown classes next.heap (.cell (first + 3)) name depth =
      shown classes state.heap (.cell (first + 3)) name depth := by
  have hblock : ∀ address, InBlock first address →
      address < state.heap.length ∧ ¬ state.Touches step address :=
    fun _ haddress => hkept.untouched hother hlookup haddress
  exact shown_congr hderived (hkept.lies_of_lookup hlookup) hblock
    (fun address hinside => h.same address hinside.1 hinside.2)
    (fun address target hinside hpoints => ⟨hsealed.inside address target hpoints,
      hsealed.not_touches hinside.2 hpoints⟩) name depth

/-! ## Whole sessions -/

section Sessions

variable {classes : Classes}

theorem isKept_empty (classes : Classes) : IsKept classes {} where
  lies := by rintro key value ⟨⟩
  apart := by rintro key other first second hne ⟨⟩

theorem isSealed_empty : IsSealed {} where
  inside := by rintro address target ⟨cell, ⟨⟩, -⟩
  sealed := by rintro key first ⟨⟩

/-- Any number of orderly steps keep messages apart, and leave the block of each
message as it is that none of them is about. -/
theorem advanceAll_keeps (hderived : AreDerived classes)
    (hfaults : ∀ name type, find? classes name = some type → type.fault? = none)
    {steps : List Step} : ∀ {state : State}, (∀ step ∈ steps, step.IsOrderly) →
      IsKept classes state →
      IsKept classes (state.advanceAll classes steps) ∧
        ∀ key first, (∀ step ∈ steps, step.target? ≠ some key) →
          state.objects.lookup key = some (.cell (first + 3)) →
          (state.advanceAll classes steps).objects.lookup key = some (.cell (first + 3)) ∧
            SameBlock state.heap (state.advanceAll classes steps).heap first := by
  induction steps with
  | nil => exact fun _ hkept => ⟨hkept, fun _ _ _ hlookup => ⟨hlookup, fun _ _ => rfl⟩⟩
  | cons step rest ih =>
      intro state horderly hkept
      obtain ⟨hfirst, hrest⟩ := List.forall_mem_cons.mp horderly
      have hstep := stepped_advance hderived hfaults hkept hfirst
      obtain ⟨hlast, hothers⟩ := ih hrest (hstep.isKept hkept)
      refine ⟨hlast, fun key first htargets hlookup => ?_⟩
      obtain ⟨hother, htargets⟩ := List.forall_mem_cons.mp htargets
      have hnext := hstep.lookup_other hother
      rw [hlookup] at hnext
      obtain ⟨hkeeps, hsame⟩ := hothers key first htargets hnext
      refine ⟨hkeeps, fun address haddress => ?_⟩
      exact (hsame address haddress).trans (hstep.sameBlock hkept hother hlookup address haddress)

/-- If no step refers to stored objects, nothing leads into a message from
elsewhere, and what a message shows stays the same at every depth. -/
theorem advanceAll_shows (hderived : AreDerived classes)
    (hfaults : ∀ name type, find? classes name = some type → type.fault? = none)
    {steps : List Step} : ∀ {state : State},
      (∀ step ∈ steps, step.IsOrderly ∧ step.references = []) →
      IsKept classes state → IsSealed state →
      IsSealed (state.advanceAll classes steps) ∧
        ∀ key first, (∀ step ∈ steps, step.target? ≠ some key) →
          state.objects.lookup key = some (.cell (first + 3)) → ∀ name depth,
          shown classes (state.advanceAll classes steps).heap (.cell (first + 3)) name depth =
            shown classes state.heap (.cell (first + 3)) name depth := by
  induction steps with
  | nil => exact fun _ _ hsealed => ⟨hsealed, fun _ _ _ _ _ _ => rfl⟩
  | cons step rest ih =>
      intro state horderly hkept hsealed
      obtain ⟨⟨hfirst, hclosed⟩, hrest⟩ := List.forall_mem_cons.mp horderly
      have hstep := stepped_advance hderived hfaults hkept hfirst
      obtain ⟨hlast, hothers⟩ := ih hrest (hstep.isKept hkept) (hstep.isSealed hkept hsealed hclosed)
      refine ⟨hlast, fun key first htargets hlookup name depth => ?_⟩
      obtain ⟨hother, htargets⟩ := List.forall_mem_cons.mp htargets
      have hnext := hstep.lookup_other hother
      rw [hlookup] at hnext
      refine (hothers key first htargets hnext name depth).trans ?_
      exact hstep.shown_eq hderived hkept hsealed hother hlookup name depth

end Sessions

theorem advanceAll_append (classes : Classes) (state : State) (steps more : List Step) :
    state.advanceAll classes (steps ++ more) =
      (state.advanceAll classes steps).advanceAll classes more :=
  List.foldl_append

/-- Messages that constructors build share no state. In a session that makes any
number of objects by constructors, without reference to stored ones, and that
calls mutators and assigns items to tables in any order, no two messages have
their base record or a table in common. Steps that are not about a message leave
it unchanged. If none of their arguments refers to a stored object, they leave it
unchanged at every depth. -/
theorem messages_share_no_state {file : DeclarationFile} {classes : Classes}
    (hclasses : classesOf? file = some classes) {steps more : List Step}
    (horderly : ∀ step ∈ steps ++ more, step.IsOrderly) {before after : State}
    (hbefore : State.advanceAll classes {} steps = before)
    (hafter : before.advanceAll classes more = after) :
    (performAll classes [] [] (steps ++ more)).2 = after.heap ∧
    (∀ key other left right, key ≠ other → before.objects.lookup key = some left →
      before.objects.lookup other = some right →
      ShareNothing classes before.heap left right) ∧
    ∀ key message, (∀ step ∈ more, step.target? ≠ some key) →
      before.objects.lookup key = some message →
      after.objects.lookup key = some message ∧
        IsUnchanged classes before.heap after.heap message ∧
        ((∀ step ∈ steps ++ more, step.references = []) → ∀ name depth,
          shown classes after.heap message name depth =
            shown classes before.heap message name depth) := by
  have hderived := areDerived_of_classesOf? hclasses
  have hfaults : ∀ name type, find? classes name = some type → type.fault? = none :=
    fun _ _ hvisible => fault?_eq_none_of_visible hclasses hvisible
  obtain ⟨hsteps, hmore⟩ := List.forall_mem_append.mp horderly
  have hkept : IsKept classes before :=
    hbefore ▸ (advanceAll_keeps hderived hfaults hsteps (isKept_empty classes)).1
  refine ⟨?_, fun key other left right hne => hkept.shareNothing hderived hne,
    fun key message htargets hlookup => ?_⟩
  · have hheap := heap_performAll classes (steps ++ more) {}
    rwa [advanceAll_append, hbefore, hafter] at hheap
  · obtain ⟨first, rfl, hlies⟩ := hkept.lies key message hlookup
    obtain ⟨-, hothers⟩ := advanceAll_keeps hderived hfaults hmore hkept
    obtain ⟨hkeeps, hsame⟩ := hothers key first htargets hlookup
    rw [hafter] at hkeeps hsame
    refine ⟨hkeeps, isUnchanged_of_sameBlock hderived hlies hsame, fun hclosed name depth => ?_⟩
    obtain ⟨hclosed, hclosed'⟩ := List.forall_mem_append.mp hclosed
    have hsealed : IsSealed before := hbefore ▸ (advanceAll_shows hderived hfaults
      (fun step hstep => ⟨hsteps step hstep, hclosed step hstep⟩) (isKept_empty classes)
        isSealed_empty).1
    obtain ⟨-, hshown⟩ := advanceAll_shows hderived hfaults
      (fun step hstep => ⟨hmore step hstep, hclosed' step hstep⟩) hkept hsealed
    rw [← hafter]
    exact hshown key first htargets hlookup name depth

/-- Two messages of one class, each made by another constructor. -/
def pairSteps : List Step :=
  [.create "first" "ToolMessage" "new" { positional := [.text "hi", .text "call-1"] },
    .create "second" "ToolMessage" "new_with_example"
      { positional := [.text "ho", .bool true, .text "call-2"] }]

/-- A mutator and an item of a table, both of the first message. -/
def pairEdits : List Step :=
  [.call "first" "set_content" { positional := [.text "bye"] },
    .enter "first" "additional_kwargs" (.text "unit") (.list [.text "km"])]

theorem second_message_is_left_alone :
    ∃ before after : State,
      State.advanceAll [.ofDerivation toolDerivation] {} pairSteps = before ∧
      before.advanceAll [.ofDerivation toolDerivation] pairEdits = after ∧
      ShareNothing [.ofDerivation toolDerivation] before.heap (.cell 3) (.cell 7) ∧
      IsUnchanged [.ofDerivation toolDerivation] before.heap after.heap (.cell 7) ∧
      ∀ name depth, shown [.ofDerivation toolDerivation] after.heap (.cell 7) name depth =
        shown [.ofDerivation toolDerivation] before.heap (.cell 7) name depth := by
  have hderive : toolDeclaration.derive = .ok toolDerivation := by
    rw [Declaration.derive_eq_ok_iff]
    decide +kernel
  have hpossible : (MessageClass.ofDerivation toolDerivation).fault? = none := by decide +kernel
  have hclasses : classesOf? { path := "chat.py", entries := [.declaration toolDeclaration] } =
      some [.ofDerivation toolDerivation] := by
    rw [classesOf?_single hderive, if_pos hpossible]
  have horderly : ∀ step ∈ pairSteps ++ pairEdits, step.IsOrderly :=
    List.forall_mem_cons.mpr ⟨.create _ _ .new rfl, List.forall_mem_cons.mpr
      ⟨.create _ _ .newWithExample rfl, List.forall_mem_cons.mpr ⟨.call _ .content _,
        List.forall_mem_cons.mpr ⟨.enter _ .kwargs _ _, List.forall_mem_nil _⟩⟩⟩⟩
  have hclosed : ∀ step ∈ pairSteps ++ pairEdits, step.references = [] := by decide
  have htargets : ∀ step ∈ pairEdits, step.target? ≠ some "second" := by decide
  obtain ⟨-, hapart, hothers⟩ := messages_share_no_state hclasses horderly rfl rfl
  obtain ⟨-, hunchanged, hshown⟩ := hothers "second" (.cell 7) htargets rfl
  exact ⟨_, _, rfl, rfl, hapart "first" "second" _ _ (by decide) rfl rfl, hunchanged,
    hshown hclosed⟩

end MessageForge.Session
