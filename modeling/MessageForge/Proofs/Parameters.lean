import Mathlib.Data.List.TakeWhile
import MessageForge.Proofs.Outcome
import MessageForge.Session.Evaluation

/-!
# Parameters

A call gives its arguments to parameters, by position first and then by name,
and every parameter gets one. The initializer of a class has parameters for all
of its annotated names if the class is a plain one, which takes none of them for
anything but a field. Then its objects store just what the call gives.
-/

namespace MessageForge.Session

/-! ## Arguments of a call -/

/-- The parameters that are left get what the call gives by their names. -/
def giveByName (named : List (Text × Value)) (names : List Text) (placed : Locals) :
    Except Fault Locals :=
  names.foldlM
    (fun locals name =>
      match named.lookup name with
      | some value => .ok (locals ++ [(name, value)])
      | none => .error .type)
    placed

theorem bind_positional {names : List Text} {values : List Value}
    (hlength : values.length = names.length) :
    bind names { positional := values } = .ok (names.zip values) := by
  have hplaced : (names.zip values).length = names.length := by
    rw [List.length_zip, hlength, Nat.min_self]
  rw [bind]
  dsimp only
  rw [if_neg (by omega), if_neg (by simp), hplaced, List.drop_length]
  rfl

theorem foldlM_lookup {named : List (Text × Value)} {valueOf : Text → Value} :
    ∀ {names : List Text}, (∀ name ∈ names, named.lookup name = some (valueOf name)) →
      ∀ done : Locals, names.foldlM (fun locals name =>
          match named.lookup name with
          | some value => (.ok (locals ++ [(name, value)]) : Except Fault Locals)
          | none => .error .type) done =
        .ok (done ++ names.map fun name => (name, valueOf name))
  | [], _, done => by
      rw [List.map_nil, List.append_nil]
      rfl
  | name :: rest, h, done => by
      have hrest := foldlM_lookup (fun other hother => h other (List.mem_cons_of_mem _ hother))
        (done ++ [(name, valueOf name)])
      rw [List.foldlM_cons, h name (List.mem_cons_self ..), List.map_cons]
      dsimp only
      rw [ok_bind, hrest, List.append_assoc, List.singleton_append]

/-- Initializers for all parameters and no others give each its value. -/
theorem bind_named {names : List Text} {named : List (Text × Value)} {valueOf : Text → Value}
    (hknown : ∀ entry ∈ named, entry.1 ∈ names)
    (hvalue : ∀ name ∈ names, named.lookup name = some (valueOf name)) :
    bind names { named } = .ok (names.map fun name => (name, valueOf name)) := by
  rw [bind]
  dsimp only
  rw [if_neg (by simp)]
  split
  · next hany =>
      obtain ⟨entry, hmem, hbad⟩ := List.any_eq_true.mp hany
      have hname : entry.1 ∈ names := hknown entry hmem
      simp [hname, List.zip_nil_right] at hbad
  · rw [List.zip_nil_right, List.length_nil, List.drop_zero]
    exact foldlM_lookup hvalue []

theorem mem_of_bind_named {names : List Text} {named : List (Text × Value)} {locals : Locals}
    (h : bind names { named } = .ok locals) {entry : Text × Value} (hmem : entry ∈ named) :
    entry.1 ∈ names := by
  by_contra hname
  rw [bind] at h
  dsimp only at h
  rw [if_neg (by simp)] at h
  split at h
  · cases h
  · next hnone => exact hnone (List.any_eq_true.mpr ⟨entry, hmem, by simp [hname]⟩)

section Parameters

variable {names : List Text} {named : List (Text × Value)} {arguments : Arguments}
  {locals : Locals}

/-- The parameters that are left get the values of their own names. -/
theorem giveByName_eq_append {placed : Locals} (h : giveByName named names placed = .ok locals) :
    ∃ added, locals = placed ++ added ∧ added.map Prod.fst = names ∧
      ∀ entry ∈ added, named.lookup entry.1 = some entry.2 := by
  induction names generalizing placed with
  | nil =>
      cases h
      exact ⟨[], (List.append_nil _).symm, rfl, List.forall_mem_nil _⟩
  | cons name rest ih =>
      rw [giveByName, List.foldlM_cons] at h
      cases hvalue : named.lookup name with
      | none => rw [hvalue] at h; cases h
      | some value =>
          rw [hvalue] at h
          have hgiven : giveByName named rest (placed ++ [(name, value)]) = .ok locals := h
          obtain ⟨added, rfl, hnames, hadded⟩ := ih hgiven
          refine ⟨(name, value) :: added, ?_, congrArg _ hnames, ?_⟩
          · rw [List.append_assoc, List.singleton_append]
          · exact List.forall_mem_cons.mpr ⟨hvalue, hadded⟩

/-- What is given by position comes first, then the parameters that are left. -/
theorem eq_append_of_bind (h : bind names arguments = .ok locals) :
    ∃ added, locals = names.zip arguments.positional ++ added ∧
      added.map Prod.fst = names.drop (names.zip arguments.positional).length ∧
      ∀ entry ∈ added, arguments.named.lookup entry.1 = some entry.2 := by
  rw [bind] at h
  dsimp only at h
  split at h
  · cases h
  · split at h
    · cases h
    · have hgiven : giveByName arguments.named
          (names.drop (names.zip arguments.positional).length)
          (names.zip arguments.positional) = .ok locals := h
      exact giveByName_eq_append hgiven

theorem map_fst_zip_isPrefix : ∀ (names : List Text) (values : List Value),
    (names.zip values).map Prod.fst <+: names
  | [], _ => List.nil_prefix
  | _ :: _, [] => List.nil_prefix
  | _ :: names, _ :: values =>
      List.cons_prefix_cons.mpr ⟨rfl, map_fst_zip_isPrefix names values⟩

/-- All parameters get a value, in their order. -/
theorem map_fst_of_bind (h : bind names arguments = .ok locals) : locals.map Prod.fst = names := by
  obtain ⟨added, rfl, hadded, -⟩ := eq_append_of_bind h
  have hprefix := List.prefix_iff_eq_append.mp (map_fst_zip_isPrefix names arguments.positional)
  rw [List.length_map] at hprefix
  rw [List.map_append, hadded, hprefix]

end Parameters

/-! ## Classes -/

section Classes

variable {type : MessageClass} {arguments : Arguments} {attributes : Locals}

/-- What is stored has been given for a parameter. -/
theorem MessageClass.exists_bind (h : type.bind arguments = .ok attributes) :
    ∃ given, Session.bind type.parameters arguments = .ok given ∧
      attributes = given.filter fun entry => type.stored.contains entry.1 := by
  rw [MessageClass.bind] at h
  split at h
  · cases h
  · split at h
    · next given hgiven => exact ⟨given, hgiven, (Except.ok.inj h).symm⟩
    · cases h

theorem MessageClass.filter_parameters (type : MessageClass) :
    type.parameters.filter (type.stored.contains ·) = type.stored := by
  rw [parameters, stored, List.filter_filter]
  refine List.filter_congr fun name hname => ?_
  -- what is stored is one of the parameters
  cases hkind : type.pseudo.lookup name <;> simp [isParameter, hname, hkind]

/-- Objects store the fields of the class in their order. -/
theorem MessageClass.map_fst_of_bind (h : type.bind arguments = .ok attributes) :
    attributes.map Prod.fst = type.stored := by
  obtain ⟨given, hgiven, rfl⟩ := exists_bind h
  have hstored := type.filter_parameters
  rw [← Session.map_fst_of_bind hgiven, List.filter_map] at hstored
  exact hstored

/-- The class makes an object of what it stores of the arguments, or fails,
whatever there is in the heap. -/
theorem run_makeMessage_cases (type : MessageClass) (arguments : Arguments) :
    (∃ fault, ∀ heap, (makeMessage type arguments).run heap = (.error fault, heap)) ∨
    ∃ attributes, type.bind arguments = .ok attributes ∧
      ∀ heap, (makeMessage type arguments).run heap =
        (.ok (.cell heap.length), heap ++ [.object (.message type.name) attributes]) := by
  rw [makeMessage]
  cases hbind : type.bind arguments with
  | error fault => exact .inl ⟨fault, fun _ => rfl⟩
  | ok attributes =>
      cases type.stored.findSome? (List.lookup · fixedMembers) with
      | some fault => exact .inl ⟨fault, fun _ => rfl⟩
      | none => exact .inr ⟨attributes, rfl, fun _ => rfl⟩

/-! ## Plain classes -/

section Plain

variable (hplain : type.pseudo = [])
include hplain

theorem MessageClass.stored_of_plain : type.stored = type.fields :=
  List.filter_eq_self.mpr fun _ _ => by simp [hplain]

theorem MessageClass.parameters_of_plain : type.parameters = type.fields :=
  List.filter_eq_self.mpr fun _ _ => by simp [isParameter, hplain]

theorem MessageClass.positional_of_plain : type.positional = type.fields := by
  have hbefore : type.fields.takeWhile (type.pseudo.lookup · ≠ some .keywordMarker) =
      type.fields := List.takeWhile_eq_self_iff.mpr fun _ _ => by simp [hplain]
  rw [positional, hbefore]
  exact parameters_of_plain hplain

/-- The initializer of a plain class just gives arguments to its fields. -/
theorem MessageClass.bind_of_plain (arguments : Arguments) :
    type.bind arguments = Session.bind type.fields arguments := by
  rw [bind, positional_of_plain hplain, parameters_of_plain hplain, stored_of_plain hplain]
  by_cases hlength : type.fields.length < arguments.positional.length
  · rw [if_pos hlength, Session.bind, if_pos hlength]
  · rw [if_neg hlength]
    cases hgiven : Session.bind type.fields arguments with
    | error fault => rfl
    | ok given =>
        have hall : given.filter (fun entry => type.fields.contains entry.1) = given := by
          refine List.filter_eq_self.mpr fun entry hentry => ?_
          rw [← Session.map_fst_of_bind hgiven]
          exact List.contains_iff_mem.mpr (List.mem_map_of_mem hentry)
        exact congrArg Except.ok hall

/-- Objects of a plain class store all that the class is called with. -/
theorem MessageClass.run_makeMessage_of_plain (arguments : Arguments) :
    (∃ fault, ∀ heap, (makeMessage type arguments).run heap = (.error fault, heap)) ∨
    ∃ attributes, Session.bind type.fields arguments = .ok attributes ∧
      ∀ heap, (makeMessage type arguments).run heap =
        (.ok (.cell heap.length), heap ++ [.object (.message type.name) attributes]) := by
  rw [← bind_of_plain hplain]
  exact run_makeMessage_cases type arguments

theorem MessageClass.nameFault?_of_plain (marked : Bool) : ∀ names : List Text,
    type.nameFault? marked names =
      if names.any changeableNames.contains then some .value else none
  | [] => rfl
  | name :: rest => by
      rw [nameFault?, hplain]
      dsimp only [List.lookup_nil]
      rw [nameFault?_of_plain marked rest, List.any_cons]
      cases changeableNames.contains name <;> rfl

theorem fault?_eq_none_iff :
    type.fault? = none ↔ (constantName ∉ type.fields ∧ type.fields.Nodup) ∧
      (∀ name ∈ type.fields, name ∉ changeableNames) ∧ defaultsComeLast type.fields = true ∧
      (selfName ∉ type.fields ∨ otherSelfName ∉ type.fields) := by
  have hgrammar : type.isUngrammatical = true ↔
      ¬ (constantName ∉ type.fields ∧ type.fields.Nodup) := by
    simp [MessageClass.isUngrammatical, imp_iff_not_or]
  have hchangeable : type.fields.any changeableNames.contains = true ↔
      ¬ ∀ name ∈ type.fields, name ∉ changeableNames := by
    simp [List.any_eq_true]
  have hself : (type.hasSelf && type.fields.contains otherSelfName) = true ↔
      ¬ (selfName ∉ type.fields ∨ otherSelfName ∉ type.fields) := by
    simp [MessageClass.hasSelf, hplain]
  rw [MessageClass.fault?, MessageClass.nameFault?_of_plain hplain,
    MessageClass.positional_of_plain hplain, MessageClass.parameters_of_plain hplain]
  by_cases h : constantName ∉ type.fields ∧ type.fields.Nodup
  · rw [if_neg (hgrammar.not.mpr (not_not.mpr h))]
    by_cases h' : ∀ name ∈ type.fields, name ∉ changeableNames
    · rw [if_neg (hchangeable.not.mpr (not_not.mpr h'))]
      dsimp only
      by_cases hlast : defaultsComeLast type.fields = true
      · rw [if_neg (by simp [hlast])]
        by_cases hone : selfName ∉ type.fields ∨ otherSelfName ∉ type.fields
        · rw [if_neg (hself.not.mpr (not_not.mpr hone))]
          exact iff_of_true rfl ⟨h, h', hlast, hone⟩
        · rw [if_pos (hself.mpr hone)]
          exact iff_of_false (nofun) fun hall => hone hall.2.2.2
      · rw [if_pos (by simp [hlast])]
        exact iff_of_false (nofun) fun hall => hlast hall.2.2.1
    · rw [if_pos (hchangeable.mpr h')]
      exact iff_of_false (nofun) fun hall => h' hall.2.1
  · rw [if_pos (hgrammar.mpr h)]
    exact iff_of_false (nofun) fun hall => h hall.1

end Plain

end Classes

end MessageForge.Session
