import MessageForge.Proofs.Blocks

/-!
# What arguments add to a heap

Every list and every table among the arguments of a step is a new one. To
evaluate arguments, then, adds cells to the heap and changes none, whatever
fails of it. The cells that are added hold each other and the stored objects
that the arguments refer to, and none of them is an object.
-/

namespace MessageForge.Session

open Vocabulary

/-! ## References -/

mutual

/-- The keys of the stored objects that an argument refers to. -/
def Argument.references : Argument → List Text
  | .none | .bool _ | .integer _ | .text _ | .messageType _ => []
  | .reference key => [key]
  | .list items => Argument.allReferences items
  | .table entries => Argument.namedReferences entries

def Argument.allReferences : List Argument → List Text
  | [] => []
  | argument :: rest => argument.references ++ Argument.allReferences rest

def Argument.namedReferences : List (Text × Argument) → List Text
  | [] => []
  | (_, argument) :: rest => argument.references ++ Argument.namedReferences rest

end

def WrittenArguments.references (arguments : WrittenArguments) : List Text :=
  Argument.allReferences arguments.positional ++ Argument.namedReferences arguments.named

/-! ## Additions -/

section Additions

variable {floor : Nat} {pointed : Nat → Prop} {heap after : Heap} {α β : Type}

/-- A value that lies in no cell, or in one from a floor on, or in one of those
that may be pointed to. -/
def Fits (floor : Nat) (pointed : Nat → Prop) (heap : Heap) (value : Value) : Prop :=
  ∀ address, value = .cell address → (floor ≤ address ∧ address < heap.length) ∨ pointed address

/-- From a floor on there are lists and tables only, of values that fit. -/
def IsTidy (floor : Nat) (pointed : Nat → Prop) (heap : Heap) : Prop :=
  ∀ address cell, floor ≤ address → heap[address]? = some cell →
    (∀ type attributes, cell ≠ .object type attributes) ∧
      ∀ value ∈ cell.values, Fits floor pointed heap value

/-- A job that keeps a heap tidy and changes none of its cells. If the values
that it is given fit, then so do those that it gives. -/
def Gives (floor : Nat) (pointed : Nat → Prop) (given : List Value) (valuesOf : α → List Value)
    (job : Evaluation α) : Prop :=
  ∀ heap : Heap, floor ≤ heap.length → IsTidy floor pointed heap →
    (∀ value ∈ given, Fits floor pointed heap value) →
    ∀ result after, job.run heap = (result, after) →
      heap <+: after ∧ IsTidy floor pointed after ∧
        ∀ a, result = .ok a → ∀ value ∈ valuesOf a, Fits floor pointed after value

theorem Fits.mono {value : Value} (h : Fits floor pointed heap value) (hgrows : heap <+: after) :
    Fits floor pointed after value := by
  intro address haddress
  exact (h address haddress).imp_left fun hinside =>
    ⟨hinside.1, Nat.lt_of_lt_of_le hinside.2 hgrows.length_le⟩

/-- Where no stored object may be pointed to, a cell that fits lies from the
floor on. -/
theorem Fits.bounds {keys : List Text} {value : Value} {target : Nat}
    (h : Fits floor (fun _ => keys ≠ []) heap value) (hclosed : keys = [])
    (htarget : value = .cell target) : floor ≤ target ∧ target < heap.length :=
  (h target htarget).resolve_right fun hpointed => hpointed hclosed

theorem IsTidy.isNoObject {keys : List Text} {value : Value}
    (htidy : IsTidy floor (fun _ => keys ≠ []) heap)
    (hfits : Fits floor (fun _ => keys ≠ []) heap value) (hclosed : keys = []) :
    IsNoObject heap value := by
  intro shape attributes hcell
  cases value with
  | cell target =>
      exact (htidy target _ (hfits.bounds hclosed rfl).1 hcell).1 shape attributes rfl
  | _ => cases hcell

theorem IsPlain.fits {value : Value} (h : IsPlain value) : Fits floor pointed heap value :=
  fun address haddress => absurd haddress (h address)

namespace Gives

variable {given : List Value}

theorem pure {valuesOf : α → List Value} {a : α}
    (h : ∀ value ∈ valuesOf a, IsPlain value ∨ value ∈ given) :
    Gives floor pointed given valuesOf (Pure.pure a) := by
  intro heap hfloor htidy hgiven result after hrun
  cases hrun
  refine ⟨List.prefix_refl _, htidy, ?_⟩
  rintro _ ⟨⟩ value hvalue
  exact (h value hvalue).elim IsPlain.fits (hgiven value)

theorem throw {valuesOf : α → List Value} (fault : Fault) :
    Gives floor pointed given valuesOf (MonadExcept.throw fault : Evaluation α) := by
  intro heap hfloor htidy hgiven result after hrun
  cases hrun
  exact ⟨List.prefix_refl _, htidy, by rintro a ⟨⟩⟩

theorem bind {job : Evaluation α} {next : α → Evaluation β} {valuesOf : α → List Value}
    {valuesOf' : β → List Value} (hjob : Gives floor pointed given valuesOf job)
    (hnext : ∀ a, Gives floor pointed (given ++ valuesOf a) valuesOf' (next a)) :
    Gives floor pointed given valuesOf' (job >>= next) := by
  intro heap hfloor htidy hgiven result after hrun
  cases hfirst : job.run heap with
  | mk outcome between =>
      obtain ⟨hgrows, hkept, hvalues⟩ := hjob heap hfloor htidy hgiven _ _ hfirst
      cases outcome with
      | error fault =>
          rw [Stateful.run_bind_error _ hfirst] at hrun
          cases hrun
          exact ⟨hgrows, hkept, by rintro b ⟨⟩⟩
      | ok a =>
          rw [Stateful.run_bind_ok _ hfirst] at hrun
          -- what has been given goes on fitting, since cells are only added
          have hall : ∀ value ∈ given ++ valuesOf a, Fits floor pointed between value := by
            intro value hvalue
            rcases List.mem_append.mp hvalue with hold | hnew
            · exact (hgiven value hold).mono hgrows
            · exact hvalues a rfl value hnew
          obtain ⟨hmore, hlast, hresult⟩ := hnext a between
            (Nat.le_trans hfloor hgrows.length_le) hkept hall _ _ hrun
          exact ⟨hgrows.trans hmore, hlast, hresult⟩

/-- A new list or table of values that fit is tidy, and fits. -/
theorem allocate {cell : Cell} (hcell : ∀ type attributes, cell ≠ .object type attributes)
    (hvalues : ∀ value ∈ cell.values, value ∈ given) :
    Gives floor pointed given (fun value => [value]) (Session.allocate cell) := by
  intro heap hfloor htidy hgiven result after hrun
  rw [run_allocate] at hrun
  cases hrun
  have hgrows : heap <+: heap ++ [cell] := List.prefix_append _ _
  refine ⟨hgrows, fun address other haddress hother => ?_, ?_⟩
  · by_cases hold : address < heap.length
    · rw [List.getElem?_append_left hold] at hother
      obtain ⟨hlist, hfits⟩ := htidy address other haddress hother
      exact ⟨hlist, fun value hvalue => (hfits value hvalue).mono hgrows⟩
    · rw [List.getElem?_append_right (by omega), List.getElem?_singleton] at hother
      split at hother
      · cases hother
        exact ⟨hcell, fun value hvalue => (hgiven value (hvalues value hvalue)).mono hgrows⟩
      · cases hother
  · rintro _ ⟨⟩ value hvalue address haddress
    obtain rfl := List.mem_singleton.mp hvalue
    cases haddress
    exact .inl ⟨hfloor, by simp⟩

end Gives

/-! ## Values of arguments -/

variable {objects : Objects}

/-- The stored objects of some keys are among those that may be pointed to. -/
def MayRefer (objects : Objects) (pointed : Nat → Prop) (keys : List Text) : Prop :=
  ∀ key ∈ keys, ∀ address, objects.lookup key = some (.cell address) → pointed address

theorem gives_stored {given : List Value} {key : Text} (h : MayRefer objects pointed [key]) :
    Gives floor pointed given (fun value => [value]) (stored objects key) := by
  intro heap hfloor htidy hgiven result after hrun
  rw [stored] at hrun
  split at hrun
  · next value hstored =>
      cases hrun
      refine ⟨List.prefix_refl _, htidy, ?_⟩
      rintro _ ⟨⟩ other hother address haddress
      obtain rfl := List.mem_singleton.mp hother
      exact .inr (h key (List.mem_singleton_self _) address (haddress ▸ hstored))
  · cases hrun
    exact ⟨List.prefix_refl _, htidy, by rintro a ⟨⟩⟩

mutual

theorem Argument.gives_value {given : List Value} : ∀ argument : Argument,
    MayRefer objects pointed argument.references →
      Gives floor pointed given (fun value => [value]) (argument.value objects)
  | .none, _ => .pure (by simp [IsPlain])
  | .bool b, _ => .pure (by simp [IsPlain])
  | .integer n, _ => .pure (by simp [IsPlain])
  | .text t, _ => .pure (by simp [IsPlain])
  | .messageType name, _ => by
      rw [Argument.value]
      cases MessageType.ofName? name with
      | none => exact .throw _
      | some type => exact .pure (by simp [IsPlain])
  | .reference key, h => gives_stored h
  | .list items, h => by
      rw [Argument.value]
      exact (Argument.gives_values items h).bind fun values =>
        .allocate (by simp) fun value hvalue => List.mem_append_right _ hvalue
  | .table entries, h => by
      rw [Argument.value]
      exact (Argument.gives_namedValues entries h).bind fun values =>
        .allocate (by simp) fun value hvalue => List.mem_append_right _ hvalue

theorem Argument.gives_values {given : List Value} : ∀ arguments : List Argument,
    MayRefer objects pointed (Argument.allReferences arguments) →
      Gives floor pointed given id (Argument.values objects arguments)
  | [], _ => .pure (by simp)
  | argument :: rest, h => by
      rw [Argument.values]
      refine (Argument.gives_value argument fun key hkey => h key
        (List.mem_append_left _ hkey)).bind fun first => ?_
      refine (Argument.gives_values rest fun key hkey => h key
        (List.mem_append_right _ hkey)).bind fun others => .pure ?_
      intro value hvalue
      rcases List.mem_cons.mp hvalue with rfl | hmem
      · exact .inr (List.mem_append_left _ (List.mem_append_right _ (List.mem_singleton_self _)))
      · exact .inr (List.mem_append_right _ hmem)

theorem Argument.gives_namedValues {given : List Value} : ∀ arguments : List (Text × Argument),
    MayRefer objects pointed (Argument.namedReferences arguments) →
      Gives floor pointed given (List.map Prod.snd) (Argument.namedValues objects arguments)
  | [], _ => .pure (by simp)
  | (name, argument) :: rest, h => by
      rw [Argument.namedValues]
      refine (Argument.gives_value argument fun key hkey => h key
        (List.mem_append_left _ hkey)).bind fun first => ?_
      refine (Argument.gives_namedValues rest fun key hkey => h key
        (List.mem_append_right _ hkey)).bind fun others => .pure ?_
      intro value hvalue
      rcases List.mem_cons.mp hvalue with rfl | hmem
      · exact .inr (List.mem_append_left _ (List.mem_append_right _ (List.mem_singleton_self _)))
      · exact .inr (List.mem_append_right _ hmem)

end

theorem WrittenArguments.gives_values {given : List Value} (arguments : WrittenArguments)
    (h : MayRefer objects pointed arguments.references) :
    Gives floor pointed given Arguments.values (arguments.values objects) := by
  rw [WrittenArguments.values]
  refine (Argument.gives_values arguments.positional fun key hkey => h key
    (List.mem_append_left _ hkey)).bind fun positional => ?_
  refine (Argument.gives_namedValues arguments.named fun key hkey => h key
    (List.mem_append_right _ hkey)).bind fun named => .pure ?_
  intro value hvalue
  rcases List.mem_append.mp hvalue with hplaced | hnamed
  · exact .inr (List.mem_append_left _ (List.mem_append_right _ hplaced))
  · exact .inr (List.mem_append_right _ hnamed)

end Additions

/-! ## Cells that are added -/

section Cells

variable {closed : Prop} {heap between after : Heap}

theorem pointsTo_append_left {cells : List Cell} {address target : Nat}
    (haddress : address < heap.length) :
    PointsTo (heap ++ cells) address target ↔ PointsTo heap address target := by
  rw [PointsTo, PointsTo, List.getElem?_append_left haddress]

theorem exists_mem_of_pointsTo_append {cells : List Cell} {address target : Nat}
    (haddress : heap.length ≤ address) (h : PointsTo (heap ++ cells) address target) :
    ∃ cell ∈ cells, .cell target ∈ cell.values := by
  obtain ⟨cell, hcell, htarget⟩ := h
  rw [List.getElem?_append_right haddress] at hcell
  exact ⟨cell, List.mem_of_getElem? hcell, htarget⟩

theorem PointsTo.lt_length {address target : Nat} (h : PointsTo heap address target) :
    address < heap.length := by
  obtain ⟨cell, hcell, -⟩ := h
  exact (List.getElem?_eq_some_iff.mp hcell).1

/-- A heap that goes on from another. If all is closed, what is added points to
what is added. -/
structure Adds (closed : Prop) (heap after : Heap) : Prop where
  grows : heap <+: after
  points : closed → ∀ address target, heap.length ≤ address → PointsTo after address target →
    heap.length ≤ target ∧ target < after.length

namespace Adds

theorem refl (closed : Prop) (heap : Heap) : Adds closed heap heap where
  grows := List.prefix_refl heap
  points _ _ _ haddress h := absurd h.lt_length (Nat.not_lt.mpr haddress)

/-- More cells are added that point to what is added. -/
theorem append (h : Adds closed heap between) {cells : List Cell}
    (hcells : closed → ∀ cell ∈ cells, ∀ target, .cell target ∈ cell.values →
      heap.length ≤ target ∧ target < between.length + cells.length) :
    Adds closed heap (between ++ cells) where
  grows := h.grows.trans (List.prefix_append _ _)
  points := by
    intro hclosed address target haddress hpoints
    rw [List.length_append]
    by_cases hnew : between.length ≤ address
    · obtain ⟨cell, hcell, htarget⟩ := exists_mem_of_pointsTo_append hnew hpoints
      exact hcells hclosed cell hcell target htarget
    · rw [pointsTo_append_left (Nat.not_le.mp hnew)] at hpoints
      obtain ⟨hfrom, hbelow⟩ := h.points hclosed address target haddress hpoints
      exact ⟨hfrom, Nat.lt_of_lt_of_le hbelow (Nat.le_add_right _ _)⟩

theorem trans (h : Adds closed heap between) (h' : Adds closed between after) :
    Adds closed heap after := by
  obtain ⟨⟨cells, rfl⟩, hpoints⟩ := h'
  refine h.append fun hclosed cell hcell target htarget => ?_
  obtain ⟨i, hi⟩ := List.getElem?_of_mem hcell
  have hpointed : PointsTo (between ++ cells) (between.length + i) target := by
    refine ⟨cell, ?_, htarget⟩
    rw [List.getElem?_append_right (Nat.le_add_right _ _), Nat.add_sub_cancel_left, hi]
  obtain ⟨hfrom, hbelow⟩ := hpoints hclosed _ target (Nat.le_add_right _ _) hpointed
  rw [List.length_append] at hbelow
  exact ⟨Nat.le_trans h.grows.length_le hfrom, hbelow⟩

end Adds

/-- A read of a message adds at most an object that points nowhere. -/
theorem Lies.adds_of_read {classes : Classes} {first : Nat} (h : Lies classes heap first)
    (hderived : AreDerived classes) {name : Text} {result : Except Fault Value}
    (hrun : (accessMember classes (.cell (first + 3)) name .read).run heap = (result, after)) :
    Adds closed heap after := by
  obtain ⟨reading, values, hover, -, hreading⟩ := h.exists_reading hderived name
  rw [hreading heap fun _ _ => rfl] at hrun
  cases reading with
  | held kept =>
      cases hrun
      exact .refl closed heap
  | made cell =>
      cases hrun
      refine (Adds.refl closed heap).append fun _ other hother target htarget => ?_
      obtain rfl := List.mem_singleton.mp hother
      exact absurd rfl (hover _ htarget target)

/-- Arguments that refer to no stored object are closed. -/
theorem Gives.adds {α : Type} {keys : List Text} {valuesOf : α → List Value} {job : Evaluation α}
    (h : Gives heap.length (fun _ => keys ≠ []) [] valuesOf job) {result : Except Fault α}
    (hrun : job.run heap = (result, after)) :
    Adds (keys = []) heap after ∧ IsTidy heap.length (fun _ => keys ≠ []) after ∧
      ∀ a, result = .ok a → ∀ value ∈ valuesOf a,
        Fits heap.length (fun _ => keys ≠ []) after value := by
  have htidy : IsTidy heap.length (fun _ => keys ≠ []) heap := by
    intro address cell haddress hcell
    exact absurd (List.getElem?_eq_some_iff.mp hcell).1 (by omega)
  obtain ⟨hgrows, hafter, hvalues⟩ :=
    h heap (Nat.le_refl _) htidy (List.forall_mem_nil _) result after hrun
  refine ⟨⟨hgrows, fun hclosed address target haddress hpoints => ?_⟩, hafter, hvalues⟩
  obtain ⟨cell, hcell, htarget⟩ := hpoints
  exact ((hafter address cell haddress hcell).2 _ htarget).bounds hclosed rfl

theorem mayRefer_self (objects : Objects) {keys all : List Text} (h : keys ⊆ all) :
    MayRefer objects (fun _ => all ≠ []) keys :=
  fun _ hkey _ _ => List.ne_nil_of_mem (h hkey)

/-- The cells of a new base record point to what is known and to the two tables
in front. -/
theorem mem_baseAttributes {content flag kind : Value} {first q : Nat} (hkind : IsPlain kind)
    (h : .cell q ∈ (baseAttributes content flag kind first).map Prod.snd) :
    content = .cell q ∨ flag = .cell q ∨ q = first ∨ q = first + 1 := by
  have hne : kind ≠ .cell q := hkind q
  simp only [baseAttributes, List.map_cons, List.map_nil, List.mem_cons, List.not_mem_nil,
    or_false, Value.cell.injEq, reduceCtorEq] at h
  rcases h with h | h | h | h | h
  · exact .inl h.symm
  · exact .inr (.inl h.symm)
  · exact absurd h.symm hne
  · exact .inr (.inr (.inl h))
  · exact .inr (.inr (.inr h))

/-- What a constructor adds points to what it is given and to itself. -/
theorem Constructs.adds {type : MessageClass} {known : Value → Prop} {result : Except Fault Value}
    (h : Constructs type known between result after) (hadds : Adds closed heap between)
    (hknown : closed → ∀ q, known (.cell q) → heap.length ≤ q ∧ q < between.length) :
    Adds closed heap after := by
  have hle := hadds.grows.length_le
  have hbase : ∀ {content flag kind : Value} {cell : Cell}, known content → known flag →
      IsPlain kind → cell = .object .base (baseAttributes content flag kind between.length) →
      closed → ∀ q, .cell q ∈ cell.values → heap.length ≤ q ∧ q < between.length + 2 := by
    rintro content flag kind _ hcontent hflag hkind rfl hclosed q hq
    rcases mem_baseAttributes hkind hq with rfl | rfl | rfl | rfl
    · obtain ⟨hfrom, hbelow⟩ := hknown hclosed q hcontent
      exact ⟨hfrom, by omega⟩
    · obtain ⟨hfrom, hbelow⟩ := hknown hclosed q hflag
      exact ⟨hfrom, by omega⟩
    · exact ⟨hle, by omega⟩
    · exact ⟨by omega, by omega⟩
  have htable : ∀ q, .cell q ∉ Cell.values (.table []) := fun q => List.not_mem_nil
  cases h with
  | refused fault => exact hadds
  | tables fault =>
      refine hadds.append fun _ cell hcell q hq => ?_
      simp only [List.mem_cons, List.not_mem_nil, or_false, or_self] at hcell
      exact absurd (hcell ▸ hq) (htable q)
  | base fault hcontent hflag hkind =>
      refine hadds.append fun hclosed cell hcell q hq => ?_
      simp only [List.mem_cons, List.not_mem_nil, or_false] at hcell
      rcases hcell with rfl | rfl | rfl
      · exact absurd hq (htable q)
      · exact absurd hq (htable q)
      · obtain ⟨hfrom, hbelow⟩ := hbase hcontent hflag hkind rfl hclosed q hq
        exact ⟨hfrom, Nat.lt_of_lt_of_le hbelow (Nat.add_le_add_left (Nat.le_succ 2) _)⟩
  | message hcontent hflag hkind hnames hplace hfields =>
      refine hadds.append fun hclosed cell hcell q hq => ?_
      rw [length_newCells]
      simp only [newCells, List.mem_cons, List.not_mem_nil, or_false] at hcell
      rcases hcell with rfl | rfl | rfl | rfl
      · exact absurd hq (htable q)
      · exact absurd hq (htable q)
      · obtain ⟨hfrom, hbelow⟩ := hbase hcontent hflag hkind rfl hclosed q hq
        exact ⟨hfrom, by omega⟩
      · rcases hfields _ hq with heq | hvalue
        · cases heq
          exact ⟨by omega, by omega⟩
        · obtain ⟨hfrom, hbelow⟩ := hknown hclosed q hvalue
          exact ⟨hfrom, by omega⟩

theorem isBaseOf_baseAttributes (content flag : Value) {kind : Value} (hkind : IsPlain kind)
    (first : Nat) : IsBaseOf first (baseAttributes content flag kind first) where
  table table := by cases table <;> rfl
  hasKind := rfl
  kind := by
    rintro _ ⟨⟩
    exact hkind

/-- A new message lies in a block of its own. -/
theorem Constructs.lies {classes : Classes} {type : MessageClass} {known : Value → Prop}
    {value : Value} (h : Constructs type known heap (.ok value) after)
    (hvisible : find? classes type.name = some type) :
    value = .cell (heap.length + 3) ∧ after.length = heap.length + 4 ∧
      Lies classes after heap.length := by
  cases h with
  | @message content flag kind fields hcontent hflag hkind hnames hplace hfields =>
      have hcells : ∀ i, (heap ++ newCells content flag kind type.name fields heap.length)[
          heap.length + i]? = (newCells content flag kind type.name fields heap.length)[i]? := by
        intro i
        rw [List.getElem?_append_right (Nat.le_add_right _ _), Nat.add_sub_cancel_left]
      refine ⟨rfl, List.length_append, fun table => ⟨[], ?_⟩, ⟨_, hcells 2,
        isBaseOf_baseAttributes content flag hkind _⟩, ⟨type, fields, hcells 3, hvisible, hnames,
        hplace⟩⟩
      cases table with
      | kwargs => exact hcells 0
      | metadata => exact hcells 1

end Cells

end MessageForge.Session
