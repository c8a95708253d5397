import Mathlib.Data.List.Forall2
import Mathlib.Data.List.Induction
import Mathlib.Data.List.Nodup
import MessageForge.Proofs.Outcome
import MessageForge.Source.Declarations

/-!
# Shapes of classes

A class is read without being run, so its shape is settled by what is written:
by the names its bases end in, and then by its statements from the first to the
last. The rules are ordered, and the first that applies gives shape and reason.
Only the last one gives fields.
-/

namespace MessageForge.Source

/-! ## Names at the end -/

/-- The name itself, an attribute of that name, or a call of what ends in it. -/
inductive Expr.EndsIn : Expr → Text → Prop where
  | name (id : Text) : EndsIn (.name id) id
  | member (value : Expr) (id : Text) : EndsIn (.attribute value id) id
  | call {callee : Expr} {id : Text} (arguments : List Expr) (keywords : List Argument)
      (line : Nat) (h : EndsIn callee id) : EndsIn (.call callee arguments keywords line) id

/-- The expression ends in one of the names. -/
def Expr.EndsAmong (expr : Expr) (names : List Text) : Prop :=
  ∃ name ∈ names, expr.EndsIn name

theorem Expr.EndsIn.lastName?_eq {expr : Expr} {name : Text} (h : expr.EndsIn name) :
    expr.lastName? = some name := by
  induction h with
  | name id => rfl
  | member value id => rfl
  | call arguments keywords line _ ih => exact ih

theorem Expr.lastName?_eq_some_iff {expr : Expr} {name : Text} :
    expr.lastName? = some name ↔ expr.EndsIn name := by
  refine ⟨fun h => ?_, Expr.EndsIn.lastName?_eq⟩
  induction expr using Expr.lastName?.induct with
  | case1 callee arguments keywords line ih => exact .call arguments keywords line (ih h)
  | case2 id =>
      cases h
      exact .name _
  | case3 value id =>
      cases h
      exact .member value _
  | case4 expr hcall hname hattribute =>
      rw [Expr.lastName?] at h
      · cases h
      · exact hcall
      · exact hname
      · exact hattribute

theorem namedAmong_iff {names : List Text} {expr : Expr} :
    namedAmong names expr = true ↔ expr.EndsAmong names := by
  rw [namedAmong, Option.any_eq_true]
  constructor
  · rintro ⟨name, hlast, hmem⟩
    exact ⟨name, List.contains_iff_mem.mp hmem, Expr.lastName?_eq_some_iff.mp hlast⟩
  · rintro ⟨name, hmem, hends⟩
    exact ⟨name, hends.lastName?_eq, List.contains_iff_mem.mpr hmem⟩

instance (expr : Expr) (names : List Text) : Decidable (expr.EndsAmong names) :=
  decidable_of_iff _ namedAmong_iff

theorem any_namedAmong_iff {names : List Text} {bases : List Expr} :
    bases.any (namedAmong names) = true ↔ ∃ base ∈ bases, base.EndsAmong names := by
  simp only [List.any_eq_true, namedAmong_iff]

theorem not_any_namedAmong {names : List Text} {bases : List Expr}
    (h : ∀ base ∈ bases, ¬ base.EndsAmong names) : ¬ bases.any (namedAmong names) = true :=
  fun hany => by
    obtain ⟨base, hmem, hends⟩ := any_namedAmong_iff.mp hany
    exact h base hmem hends

theorem namedAmong_singleton_iff {name : Text} {expr : Expr} :
    namedAmong [name] expr = true ↔ expr.EndsIn name := by
  rw [namedAmong_iff]
  exact ⟨fun ⟨_, hmem, hends⟩ => List.mem_singleton.mp hmem ▸ hends,
    fun hends => ⟨name, List.mem_singleton_self name, hends⟩⟩

instance (expr : Expr) (name : Text) : Decidable (expr.EndsIn name) :=
  decidable_of_iff _ Expr.lastName?_eq_some_iff

/-- An expression ends in one name only. -/
theorem Expr.EndsAmong.mem_of_endsIn {expr : Expr} {names : List Text} {name : Text}
    (h : expr.EndsAmong names) (hends : expr.EndsIn name) : name ∈ names := by
  obtain ⟨other, hmem, hother⟩ := h
  cases hother.lastName?_eq.symm.trans hends.lastName?_eq
  exact hmem

/-! ## Statements -/

/-- An annotation that belongs to no field of instances, also if subscripted. -/
inductive IsPseudo : Expr → Prop where
  | bare {type : Expr} (h : type.EndsAmong pseudoFields) : IsPseudo type
  | subscripted {value : Expr} (index : Expr) (h : value.EndsAmong pseudoFields) :
      IsPseudo (.subscript value index)

theorem isPseudoField_iff {type : Expr} :
    isPseudoField type = true ↔ IsPseudo type := by
  constructor
  · intro h
    unfold isPseudoField at h
    split at h
    · exact .subscripted _ (namedAmong_iff.mp h)
    · exact .bare (namedAmong_iff.mp h)
  · intro h
    cases h with
    | subscripted index h => exact namedAmong_iff.mpr h
    | bare h =>
        unfold isPseudoField
        split
        · obtain ⟨_, -, hends⟩ := h
          cases hends
        · exact namedAmong_iff.mpr h

instance (type : Expr) : Decidable (IsPseudo type) :=
  decidable_of_iff _ isPseudoField_iff

/-- The name and the annotation of a statement that annotates a single name. -/
def Node.declared? : Node → Option (Text × Expr)
  | .annotated (.name name) type _ => some (name, type)
  | _ => none

/-- What the statements of a body annotate, in order. -/
def declared (body : List Stmt) : List (Text × Expr) :=
  body.filterMap (·.2.declared?)

/-- A statement that may stand in a record. -/
inductive Node.IsPlain : Node → Prop where
  | pass : IsPlain .pass
  | constant (value : Literal) : IsPlain (.expression (.literal value))
  | field {name : Text} {type : Expr} (h : ¬ IsPseudo type) :
      IsPlain (.annotated (.name name) type none)

/-- Nothing in a body speaks against a record. -/
structure IsClean (body : List Stmt) : Prop where
  plain : ∀ statement ∈ body, statement.2.IsPlain
  distinct : ((declared body).map (·.1)).Nodup

/-- Why a statement cannot stand in a record behind those that declare `names`. -/
inductive Offends (names : List Text) : Stmt → Text → Prop where
  | notField {line : Nat} {node : Node} (hpass : node ≠ .pass)
      (hconstant : ∀ value, node ≠ .expression (.literal value)) (hnone : node.declared? = none) :
      Offends names (line, node) ("line " ++ Text.ofNat line ++ " is not a field declaration")
  | classVariable {line : Nat} {name : Text} {type : Expr} {value : Option Expr}
      (h : IsPseudo type) :
      Offends names (line, .annotated (.name name) type value)
        ("'" ++ name ++ "' is not an instance field")
  | default {line : Nat} {name : Text} {type value : Expr} (h : ¬ IsPseudo type) :
      Offends names (line, .annotated (.name name) type (some value))
        ("field '" ++ name ++ "' has a default value")
  | repeated {line : Nat} {name : Text} {type : Expr} (h : ¬ IsPseudo type)
      (hname : name ∈ names) :
      Offends names (line, .annotated (.name name) type none)
        ("field '" ++ name ++ "' is declared twice")

/-! ## Bodies -/

theorem declared_append (first second : List Stmt) :
    declared (first ++ second) = declared first ++ declared second :=
  List.filterMap_append

/-- Behind a clean body a plain statement keeps it clean or repeats a name. -/
theorem IsClean.snoc_or_repeated {body : List Stmt} {node : Node} (hbody : IsClean body)
    (hplain : node.IsPlain) (line : Nat) :
    IsClean (body ++ [(line, node)]) ∨ ∃ name type, node = .annotated (.name name) type none ∧
      ¬ IsPseudo type ∧ name ∈ (declared body).map (·.1) := by
  have hall : ∀ statement ∈ body ++ [(line, node)], statement.2.IsPlain := by
    intro statement hmem
    rcases List.mem_append.mp hmem with hmem | hmem
    · exact hbody.plain statement hmem
    · rw [List.mem_singleton.mp hmem]
      exact hplain
  cases hplain with
  | pass => exact .inl ⟨hall, by simpa [declared, Node.declared?] using hbody.distinct⟩
  | constant value => exact .inl ⟨hall, by simpa [declared, Node.declared?] using hbody.distinct⟩
  | @field name type h =>
      by_cases hname : name ∈ (declared body).map (·.1)
      · exact .inr ⟨name, type, rfl, h, hname⟩
      · refine .inl ⟨hall, ?_⟩
        rw [declared_append, List.map_append]
        exact hbody.distinct.append (List.nodup_singleton _) (List.disjoint_singleton.mpr hname)

theorem Node.isPlain_or_offends (names : List Text) (line : Nat) (node : Node) :
    node.IsPlain ∨ ∃ reason, Offends names (line, node) reason := by
  cases node with
  | pass => exact .inl .pass
  | annotated target type value =>
      cases target with
      | name name =>
          by_cases h : IsPseudo type
          · exact .inr ⟨_, .classVariable h⟩
          · cases value with
            | none => exact .inl (.field h)
            | some value => exact .inr ⟨_, .default h⟩
      | _ => exact .inr ⟨_, .notField nofun nofun rfl⟩
  | expression value =>
      cases value with
      | literal value => exact .inl (.constant value)
      | _ => exact .inr ⟨_, .notField nofun nofun rfl⟩
  | _ => exact .inr ⟨_, .notField nofun nofun rfl⟩

/-- A body is clean, or it is so up to a first statement that offends. -/
theorem isClean_or_offends (body : List Stmt) :
    IsClean body ∨ ∃ before statement after reason, body = before ++ statement :: after ∧
      IsClean before ∧ Offends ((declared before).map (·.1)) statement reason := by
  -- on the last statement, since what offends is told by the names in front of it
  induction body using List.reverseRecOn with
  | nil => exact .inl ⟨nofun, List.nodup_nil⟩
  | append_singleton body statement ih =>
      obtain ⟨line, node⟩ := statement
      rcases ih with hclean | ⟨before, first, after, reason, rfl, hclean, hoffends⟩
      · rcases node.isPlain_or_offends ((declared body).map (·.1)) line with hplain | ⟨reason, h⟩
        · rcases hclean.snoc_or_repeated hplain line with h | ⟨_, _, rfl, hnot, hname⟩
          · exact .inl h
          · exact .inr ⟨body, _, [], _, rfl, hclean, .repeated hnot hname⟩
        · exact .inr ⟨body, _, [], reason, rfl, hclean, h⟩
      · exact .inr ⟨before, first, after ++ [(line, node)], reason,
          by rw [List.append_assoc, List.cons_append], hclean, hoffends⟩

/-- A clean body holds nothing that offends. -/
theorem Offends.not_isClean {before after : List Stmt} {statement : Stmt} {reason : Text}
    (h : Offends ((declared before).map (·.1)) statement reason) :
    ¬ IsClean (before ++ statement :: after) := by
  intro hclean
  have hplain : statement.2.IsPlain :=
    hclean.plain statement (List.mem_append_right _ (List.mem_cons_self ..))
  have hdistinct := hclean.distinct
  rw [declared_append, List.map_append] at hdistinct
  cases h with
  | notField hpass hconstant hnone =>
      cases hplain with
      | pass => exact hpass rfl
      | constant value => exact hconstant value rfl
      | field => cases hnone
  | classVariable hpseudo =>
      cases hplain with
      | field hnot => exact hnot hpseudo
  | default => cases hplain
  | repeated hnot hname =>
      exact List.disjoint_of_nodup_append hdistinct hname (List.mem_cons_self ..)

/-! ## Readings of bodies -/

/-- The field of an annotated name has its annotation as it is printed. -/
def Prints (annotated : Text × Expr) (field : Field) : Prop :=
  field.name = annotated.1 ∧ annotated.2.text = some field.type

theorem printed_eq_ok_iff {expr : Expr} {text : Text} :
    printed expr = .ok text ↔ expr.text = some text := by
  unfold printed
  split <;> simp_all

theorem printed_eq_error_iff {expr : Expr} :
    printed expr = .error .unprintable ↔ expr.text = none := by
  unfold printed
  split <;> simp_all

theorem map_name_of_prints {annotated : List (Text × Expr)} {fields : List Field}
    (h : List.Forall₂ Prints annotated fields) : fields.map (·.name) = annotated.map (·.1) := by
  induction h with
  | nil => rfl
  | cons hprints _ ih => rw [List.map_cons, List.map_cons, hprints.1, ih]

theorem exists_prints : ∀ {annotated : List (Text × Expr)},
    (∀ entry ∈ annotated, entry.2.text ≠ none) → ∃ fields, List.Forall₂ Prints annotated fields
  | [], _ => ⟨[], .nil⟩
  | (name, type) :: rest, h => by
      obtain ⟨text, htext⟩ := Option.ne_none_iff_exists'.mp (h _ (List.mem_cons_self ..))
      obtain ⟨fields, hfields⟩ := exists_prints fun entry hmem =>
        h entry (List.mem_cons_of_mem _ hmem)
      exact ⟨{ name, type := text } :: fields, .cons ⟨rfl, htext⟩ hfields⟩

theorem any_name_eq_iff {fields : List Field} {name : Text} :
    fields.any (·.name = name) = true ↔ name ∈ fields.map (·.name) := by
  simp only [List.any_eq_true, decide_eq_true_eq, List.mem_map]

theorem classifyBody_annotated (fields : List Field) (line : Nat) (name : Text) (type : Expr)
    (value : Option Expr) (rest : List Stmt) :
    classifyBody fields ((line, .annotated (.name name) type value) :: rest) =
      if isPseudoField type then .ok (.other ("'" ++ name ++ "' is not an instance field"))
      else if value.isSome then .ok (.other ("field '" ++ name ++ "' has a default value"))
      else if fields.any (·.name = name) then
        .ok (.other ("field '" ++ name ++ "' is declared twice"))
      else printed type >>= fun text =>
        classifyBody (fields ++ [({ name, type := text } : Field)]) rest := rfl

theorem classifyBody_field {given : List Field} {field : Field} {line : Nat} {type : Expr}
    (rest : List Stmt) (hpseudo : ¬ IsPseudo type)
    (hnew : field.name ∉ given.map (·.name)) (htype : type.text = some field.type) :
    classifyBody given ((line, .annotated (.name field.name) type none) :: rest) =
      classifyBody (given ++ [field]) rest := by
  rw [classifyBody_annotated, if_neg (mt isPseudoField_iff.mp hpseudo), if_neg (by decide),
    if_neg (mt any_name_eq_iff.mp hnew), printed_eq_ok_iff.mpr htype]
  rfl

/-- A clean beginning is taken over into the fields. -/
theorem classifyBody_append {before : List Stmt} {given fields : List Field} (rest : List Stmt)
    (hplain : ∀ statement ∈ before, statement.2.IsPlain)
    (hdistinct : (given.map (·.name) ++ (declared before).map (·.1)).Nodup)
    (hprints : List.Forall₂ Prints (declared before) fields) :
    classifyBody given (before ++ rest) = classifyBody (given ++ fields) rest := by
  -- each field goes over to the given ones, and all names together stay distinct
  induction before generalizing given fields with
  | nil =>
      cases hprints
      rw [List.append_nil, List.nil_append]
  | cons statement before ih =>
      obtain ⟨line, node⟩ := statement
      have hfront := hplain _ (List.mem_cons_self ..)
      have hback := fun statement hmem => hplain statement (List.mem_cons_of_mem _ hmem)
      rw [List.cons_append]
      cases hfront with
      | pass => exact ih hback hdistinct hprints
      | constant value => exact ih hback hdistinct hprints
      | @field name type hpseudo =>
          cases hprints with
          | @cons _ field _ fields hfield hfields =>
              obtain ⟨rfl, htype⟩ := hfield
              have hnew : field.name ∉ given.map (·.name) := fun hmem =>
                (List.disjoint_of_nodup_append hdistinct) hmem (List.mem_cons_self ..)
              rw [classifyBody_field _ hpseudo hnew htype, ih hback ?_ hfields, List.append_assoc,
                List.singleton_append]
              rw [List.map_append, List.append_assoc]
              exact hdistinct

/-- A clean beginning with an annotation that has no text is refused. -/
theorem classifyBody_eq_error {before : List Stmt} {given : List Field} (rest : List Stmt)
    (hplain : ∀ statement ∈ before, statement.2.IsPlain)
    (hdistinct : (given.map (·.name) ++ (declared before).map (·.1)).Nodup)
    (hnone : ∃ entry ∈ declared before, entry.2.text = none) :
    classifyBody given (before ++ rest) = .error .unprintable := by
  induction before generalizing given with
  | nil =>
      obtain ⟨entry, hmem, -⟩ := hnone
      cases hmem
  | cons statement before ih =>
      obtain ⟨line, node⟩ := statement
      have hfront := hplain _ (List.mem_cons_self ..)
      have hback := fun statement hmem => hplain statement (List.mem_cons_of_mem _ hmem)
      rw [List.cons_append]
      cases hfront with
      | pass => exact ih hback hdistinct hnone
      | constant value => exact ih hback hdistinct hnone
      | @field name type hpseudo =>
          have hnew : name ∉ given.map (·.name) := fun hmem =>
            (List.disjoint_of_nodup_append hdistinct) hmem (List.mem_cons_self ..)
          rw [classifyBody_annotated, if_neg (mt isPseudoField_iff.mp hpseudo),
            if_neg (by decide), if_neg (mt any_name_eq_iff.mp hnew)]
          cases htext : type.text with
          | none => rw [printed_eq_error_iff.mpr htext, error_bind]
          | some text =>
              obtain ⟨entry, hmem, hentry⟩ := hnone
              rcases List.mem_cons.mp hmem with rfl | hmem
              · cases htext.symm.trans hentry
              · rw [printed_eq_ok_iff.mpr htext, ok_bind]
                refine ih hback ?_ ⟨entry, hmem, hentry⟩
                rw [List.map_append, List.append_assoc]
                exact hdistinct

theorem IsClean.classifyBody_eq {before : List Stmt} {fields : List Field} (h : IsClean before)
    (hprints : List.Forall₂ Prints (declared before) fields) (rest : List Stmt) :
    classifyBody [] (before ++ rest) = classifyBody fields rest :=
  classifyBody_append rest h.plain h.distinct hprints

/-- The first statement that offends gives the reason. -/
theorem Offends.classifyBody_eq {fields : List Field} {statement : Stmt} {reason : Text}
    (h : Offends (fields.map (·.name)) statement reason) (after : List Stmt) :
    classifyBody fields (statement :: after) = .ok (.other reason) := by
  cases h with
  | @notField line node hpass hconstant hnone =>
      have hplaceholder : ¬ isPlaceholder node = true := by
        unfold isPlaceholder
        split <;> simp_all
      unfold classifyBody
      rw [if_neg hplaceholder]
      split
      · cases hnone
      · rfl
  | classVariable hpseudo => rw [classifyBody_annotated, if_pos (isPseudoField_iff.mpr hpseudo)]
  | default hpseudo =>
      rw [classifyBody_annotated, if_neg (mt isPseudoField_iff.mp hpseudo), Option.isSome_some,
        if_pos rfl]
  | repeated hpseudo hname =>
      rw [classifyBody_annotated, if_neg (mt isPseudoField_iff.mp hpseudo), if_neg (by decide),
        if_pos (any_name_eq_iff.mpr hname)]

/-! ## Rules -/

/-- The rules for the shape of a class in the order in which they are tried. -/
inductive Classifies (bases : List Expr) (body : List Stmt) : Classification → Prop where
  | enumeration (h : ∃ base ∈ bases, base.EndsAmong enumBases) :
      Classifies bases body { shape := .enumeration, reason := "it derives from an enum class" }
  | tuple (hno : ∀ base ∈ bases, ¬ base.EndsAmong enumBases)
      (h : ∃ base ∈ bases, base.EndsAmong tupleBases) :
      Classifies bases body { shape := .tuple, reason := "it derives from a tuple class" }
  | derived {texts : List Text}
      (hno : ∀ base ∈ bases, ¬ base.EndsAmong enumBases ∧ ¬ base.EndsAmong tupleBases)
      (h : ∃ base ∈ bases, ¬ base.EndsIn "object")
      (htexts : (bases.filter fun base => ¬ base.EndsIn "object").map Expr.text =
        texts.map some) :
      Classifies bases body
        { shape := .other, reason := "it derives from " ++ Text.join ", " texts }
  | statement {before after : List Stmt} {statement : Stmt} {reason : Text}
      (hbases : ∀ base ∈ bases, base.EndsIn "object")
      (hbody : body = before ++ statement :: after) (hclean : IsClean before)
      (h : Offends ((declared before).map (·.1)) statement reason) :
      Classifies bases body { shape := .other, reason }
  | unit (hbases : ∀ base ∈ bases, base.EndsIn "object") (hclean : IsClean body)
      (h : declared body = []) :
      Classifies bases body { shape := .unit, reason := "it declares no fields" }
  | record {fields : List Field} (hbases : ∀ base ∈ bases, base.EndsIn "object")
      (hclean : IsClean body) (h : declared body ≠ [])
      (hfields : List.Forall₂ Prints (declared body) fields) :
      Classifies bases body { shape := .record, fields }

/-- What is read of a class can be written out: the other bases of one that is
no enumeration and no tuple, and the fields in front of whatever offends. -/
structure IsPrintable (bases : List Expr) (body : List Stmt) : Prop where
  others : (∀ base ∈ bases, ¬ base.EndsAmong enumBases ∧ ¬ base.EndsAmong tupleBases) →
    ∀ base ∈ bases, ¬ base.EndsIn "object" → base.text ≠ none
  fields : (∀ base ∈ bases, base.EndsIn "object") → ∀ before after, body = before ++ after →
    IsClean before → ∀ entry ∈ declared before, entry.2.text ≠ none

theorem exists_texts : ∀ {bases : List Expr}, (∀ base ∈ bases, base.text ≠ none) →
    ∃ texts : List Text, bases.map Expr.text = texts.map some
  | [], _ => ⟨[], rfl⟩
  | base :: rest, h => by
      obtain ⟨text, htext⟩ := Option.ne_none_iff_exists'.mp (h base (List.mem_cons_self ..))
      obtain ⟨texts, htexts⟩ := exists_texts fun other hmem => h other (List.mem_cons_of_mem _ hmem)
      exact ⟨text :: texts, by rw [List.map_cons, List.map_cons, htext, htexts]⟩

theorem mapM_printed_eq_ok {bases : List Expr} {texts : List Text}
    (h : bases.map Expr.text = texts.map some) : bases.mapM printed = .ok texts := by
  induction bases generalizing texts with
  | nil =>
      cases texts with
      | nil => rfl
      | cons text texts => cases h
  | cons base bases ih =>
      cases texts with
      | nil => cases h
      | cons text texts =>
          obtain ⟨hbase, hbases⟩ := List.cons.inj h
          rw [List.mapM_cons, printed_eq_ok_iff.mpr hbase, ok_bind, ih hbases]
          rfl

theorem mapM_printed_eq_error {bases : List Expr} (h : ∃ base ∈ bases, base.text = none) :
    bases.mapM printed = .error .unprintable := by
  induction bases with
  | nil =>
      obtain ⟨base, hmem, -⟩ := h
      cases hmem
  | cons base bases ih =>
      rw [List.mapM_cons]
      cases htext : base.text with
      | none => rw [printed_eq_error_iff.mpr htext, error_bind]
      | some text =>
          obtain ⟨other, hmem, hother⟩ := h
          rcases List.mem_cons.mp hmem with rfl | hmem
          · cases htext.symm.trans hother
          · rw [printed_eq_ok_iff.mpr htext, ok_bind, ih ⟨other, hmem, hother⟩, error_bind]

/-- The bases that are no object. -/
theorem filter_namedAmong_eq (bases : List Expr) :
    (bases.filter fun base => !namedAmong ["object"] base) =
      bases.filter fun base => ¬ base.EndsIn "object" := by
  refine List.filter_congr fun base _ => ?_
  rw [Bool.eq_iff_iff, Bool.not_eq_true', decide_eq_true_iff, ← Bool.not_eq_true,
    namedAmong_singleton_iff]

/-- A class that is no enumeration and no tuple is refused for its other bases
if it has some, and classified by its body otherwise. -/
theorem classify_of_others {bases : List Expr} (body : List Stmt)
    (hno : ∀ base ∈ bases, ¬ base.EndsAmong enumBases ∧ ¬ base.EndsAmong tupleBases) :
    classify bases body =
      (bases.filter fun base => ¬ base.EndsIn "object").mapM printed >>= fun texts =>
        if texts.isEmpty then classifyBody [] body
        else .ok (.other ("it derives from " ++ Text.join ", " texts)) := by
  rw [classify, if_neg (not_any_namedAmong fun base hmem => (hno base hmem).1),
    if_neg (not_any_namedAmong fun base hmem => (hno base hmem).2), filter_namedAmong_eq]
  rfl

theorem classify_of_object {bases : List Expr} {body : List Stmt}
    (hbases : ∀ base ∈ bases, base.EndsIn "object") :
    classify bases body = classifyBody [] body := by
  have hno : ∀ base ∈ bases, ¬ base.EndsAmong enumBases ∧ ¬ base.EndsAmong tupleBases :=
    fun base hmem => ⟨fun hends => absurd (hends.mem_of_endsIn (hbases base hmem)) (by decide),
      fun hends => absurd (hends.mem_of_endsIn (hbases base hmem)) (by decide)⟩
  have hothers : (bases.filter fun base => ¬ base.EndsIn "object") = [] :=
    List.filter_eq_nil_iff.mpr fun base hmem hother => of_decide_eq_true hother (hbases base hmem)
  rw [classify_of_others body hno, hothers]
  rfl

/-- The rule that applies settles what a class is. -/
theorem Classifies.classify_eq {bases : List Expr} {body : List Stmt} {found : Classification}
    (h : Classifies bases body found) (hprintable : IsPrintable bases body) :
    classify bases body = .ok found := by
  cases h with
  | enumeration h =>
      rw [classify, if_pos (any_namedAmong_iff.mpr h)]
      rfl
  | tuple hno h =>
      rw [classify, if_neg (not_any_namedAmong hno), if_pos (any_namedAmong_iff.mpr h)]
      rfl
  | @derived texts hno h htexts =>
      have hsome : ¬ texts.isEmpty = true := fun hempty => by
        obtain ⟨base, hmem, hends⟩ := h
        rw [List.isEmpty_iff.mp hempty, List.map_nil, List.map_eq_nil_iff] at htexts
        exact List.filter_eq_nil_iff.mp htexts base hmem (decide_eq_true hends)
      rw [classify_of_others body hno, mapM_printed_eq_ok htexts, ok_bind, if_neg hsome]
      rfl
  | @statement before after statement reason hbases hbody hclean h =>
      subst hbody
      obtain ⟨fields, hfields⟩ := exists_prints (hprintable.fields hbases _ _ rfl hclean)
      rw [classify_of_object hbases, hclean.classifyBody_eq hfields]
      exact Offends.classifyBody_eq (map_name_of_prints hfields ▸ h) after
  | unit hbases hclean h =>
      have hnone : List.Forall₂ Prints (declared body) [] := by
        rw [h]
        exact .nil
      rw [classify_of_object hbases, ← List.append_nil body, hclean.classifyBody_eq hnone]
      rfl
  | record hbases hclean h hfields =>
      rw [classify_of_object hbases, ← List.append_nil body, hclean.classifyBody_eq hfields]
      generalize declared body = annotated at h hfields
      cases hfields with
      | nil => exact absurd rfl h
      | cons _ _ => rfl

/-- What cannot be written out is not classified. -/
theorem classify_eq_error {bases : List Expr} {body : List Stmt}
    (h : ¬ IsPrintable bases body) : classify bases body = .error .unprintable := by
  by_cases hothers : (∀ base ∈ bases, ¬ base.EndsAmong enumBases ∧ ¬ base.EndsAmong tupleBases) →
      ∀ base ∈ bases, ¬ base.EndsIn "object" → base.text ≠ none
  · have hfields := mt (IsPrintable.mk hothers) h
    push Not at hfields
    obtain ⟨hbases, before, after, rfl, hclean, hnone⟩ := hfields
    rw [classify_of_object hbases]
    exact classifyBody_eq_error after hclean.plain hclean.distinct hnone
  · push Not at hothers
    obtain ⟨hno, base, hmem, hends, htext⟩ := hothers
    have hother : base ∈ bases.filter fun base => ¬ base.EndsIn "object" :=
      List.mem_filter.mpr ⟨hmem, decide_eq_true hends⟩
    rw [classify_of_others body hno, mapM_printed_eq_error ⟨base, hother, htext⟩, error_bind]

/-- Some rule applies to every class that can be written out. -/
theorem exists_classifies {bases : List Expr} {body : List Stmt}
    (hprintable : IsPrintable bases body) : ∃ found, Classifies bases body found := by
  by_cases henum : ∃ base ∈ bases, base.EndsAmong enumBases
  · exact ⟨_, .enumeration henum⟩
  by_cases htuple : ∃ base ∈ bases, base.EndsAmong tupleBases
  · exact ⟨_, .tuple (fun base hmem hends => henum ⟨base, hmem, hends⟩) htuple⟩
  by_cases hother : ∃ base ∈ bases, ¬ base.EndsIn "object"
  · have hno : ∀ base ∈ bases, ¬ base.EndsAmong enumBases ∧ ¬ base.EndsAmong tupleBases :=
      fun base hmem => ⟨fun hends => henum ⟨base, hmem, hends⟩,
        fun hends => htuple ⟨base, hmem, hends⟩⟩
    have hprinted : ∀ base ∈ bases.filter fun base => ¬ base.EndsIn "object",
        base.text ≠ none := by
      intro base hmem
      obtain ⟨hbase, hends⟩ := List.mem_filter.mp hmem
      exact hprintable.others hno base hbase (of_decide_eq_true hends)
    obtain ⟨texts, htexts⟩ := exists_texts hprinted
    exact ⟨_, .derived hno hother htexts⟩
  have hbases : ∀ base ∈ bases, base.EndsIn "object" := fun base hmem => by
    by_contra hends
    exact hother ⟨base, hmem, hends⟩
  rcases isClean_or_offends body with hclean | ⟨before, statement, after, reason, hbody, hclean, h⟩
  · by_cases hnil : declared body = []
    · exact ⟨_, .unit hbases hclean hnil⟩
    · have hprinted := hprintable.fields hbases body [] (List.append_nil body).symm hclean
      obtain ⟨fields, hfields⟩ := exists_prints hprinted
      exact ⟨_, .record hbases hclean hnil hfields⟩
  · exact ⟨_, .statement hbases hbody hclean h⟩

theorem Classifies.shape_eq_record_iff {bases : List Expr} {body : List Stmt}
    {found : Classification} (h : Classifies bases body found) :
    found.shape = .record ↔
      (∀ base ∈ bases, base.EndsIn "object") ∧ IsClean body ∧ declared body ≠ [] := by
  cases h with
  | enumeration h =>
      obtain ⟨base, hmem, hends⟩ := h
      refine ⟨nofun, fun hrecord => ?_⟩
      exact absurd (hends.mem_of_endsIn (hrecord.1 base hmem)) (by decide)
  | tuple hno h =>
      obtain ⟨base, hmem, hends⟩ := h
      refine ⟨nofun, fun hrecord => ?_⟩
      exact absurd (hends.mem_of_endsIn (hrecord.1 base hmem)) (by decide)
  | derived hno h htexts =>
      obtain ⟨base, hmem, hends⟩ := h
      exact ⟨nofun, fun hrecord => absurd (hrecord.1 base hmem) hends⟩
  | statement hbases hbody hclean h =>
      subst hbody
      exact ⟨nofun, fun hrecord => absurd hrecord.2.1 h.not_isClean⟩
  | unit hbases hclean h => exact ⟨nofun, fun hrecord => absurd h hrecord.2.2⟩
  | record hbases hclean h hfields => exact ⟨fun _ => ⟨hbases, hclean, h⟩, fun _ => rfl⟩

/-- Only a record has fields, and it has them once each. -/
theorem Classifies.fields_cases {bases : List Expr} {body : List Stmt} {found : Classification}
    (h : Classifies bases body found) :
    found.shape ≠ .record ∧ found.fields = [] ∨
      found.shape = .record ∧ found.reason = [] ∧ found.fields ≠ [] ∧
        List.Forall₂ Prints (declared body) found.fields ∧ (found.fields.map (·.name)).Nodup := by
  cases h with
  | @record fields hbases hclean h hfields =>
      have hdistinct := map_name_of_prints hfields ▸ hclean.distinct
      refine .inr ⟨rfl, rfl, fun hnil => h ?_, hfields, hdistinct⟩
      have hnone : fields = [] := hnil
      rw [hnone] at hfields
      exact List.forall₂_nil_right_iff.mp hfields
  | _ => exact .inl ⟨nofun, rfl⟩

/-- The first rule that applies to a class decides what it is. It is a record
just if its bases are objects and its body is clean and declares something, and
then has the declared names as fields; otherwise it has none. A class is read
just if all that is read of it can be written out. -/
theorem classDeclaration_follows_rules (source : Option Text) (line : Nat) (name : Text)
    (bases : List Expr) (body : List Stmt) :
    (IsPrintable bases body → ∃ found, Classifies bases body found ∧
      (∀ other, Classifies bases body other → other = found) ∧
      classDeclaration source line name bases body =
        .ok { name, fields := found.fields, shape := found.shape, reason := found.reason,
              source, line := some line } ∧
      (found.shape = .record ↔
        (∀ base ∈ bases, base.EndsIn "object") ∧ IsClean body ∧ declared body ≠ []) ∧
      (found.shape = .record → List.Forall₂ Prints (declared body) found.fields ∧
        found.reason = []) ∧
      (found.shape ≠ .record → found.fields = []) ∧
      (found.fields.map (·.name)).Nodup ∧ (found.fields ≠ [] ↔ found.shape = .record)) ∧
    (¬ IsPrintable bases body →
      classDeclaration source line name bases body = .error .unprintable) := by
  refine ⟨fun hprintable => ?_, fun h => by rw [classDeclaration, classify_eq_error h]; rfl⟩
  obtain ⟨found, h⟩ := exists_classifies hprintable
  have hfound := h.classify_eq hprintable
  refine ⟨found, h, fun other hother => ?_, by rw [classDeclaration, hfound]; rfl,
    h.shape_eq_record_iff, ?_⟩
  · exact Except.ok.inj ((hother.classify_eq hprintable).symm.trans hfound)
  · rcases h.fields_cases with ⟨hshape, hnil⟩ | ⟨hshape, hreason, hsome, hfields, hdistinct⟩
    · exact ⟨fun hrecord => absurd hrecord hshape, fun _ => hnil,
        by rw [hnil]; exact List.nodup_nil,
        ⟨fun hsome => absurd hnil hsome, fun hrecord => absurd hrecord hshape⟩⟩
    · exact ⟨fun _ => ⟨hfields, hreason⟩, fun hnot => absurd hshape hnot, hdistinct,
        ⟨fun _ => hshape, fun _ => hsome⟩⟩

/-- A documented class with a role and a base. -/
def roleClassBody : List Stmt :=
  [(2, .expression (.literal (.text [72, 105] false))),
    (3, .annotated (.name "role") (.name "str") none),
    (4, .annotated (.name "base") (.name "BaseMessageFields") none)]

theorem role_class_is_record :
    IsPrintable [.name "object"] roleClassBody ∧
      ∃ found, Classifies [.name "object"] roleClassBody found ∧ found.shape = .record ∧
        found.fields.map (·.name) = ["role", "base"] := by
  have hbases : ∀ base ∈ [Expr.name "object"], base.EndsIn "object" := by decide
  have htexts : ∀ entry ∈ declared roleClassBody, entry.2.text ≠ none := by decide
  have hprintable : IsPrintable [.name "object"] roleClassBody := by
    refine ⟨fun _ base hmem hends => absurd (hbases base hmem) hends, ?_⟩
    intro _ before after hbody _ entry hmem
    refine htexts entry ?_
    rw [hbody, declared_append]
    exact List.mem_append_left _ hmem
  have hplain : ∀ statement ∈ roleClassBody, statement.2.IsPlain := by
    rw [roleClassBody, List.forall_mem_cons, List.forall_mem_cons, List.forall_mem_singleton]
    exact ⟨.constant _, .field (by decide), .field (by decide)⟩
  obtain ⟨found, h, -, -, hrecord, hfields, -⟩ :=
    (classDeclaration_follows_rules none 1 "HumanMessage" _ _).1 hprintable
  have hshape := hrecord.mpr ⟨hbases, ⟨hplain, by decide⟩, nofun⟩
  exact ⟨hprintable, found, h, hshape, map_name_of_prints (hfields hshape).1⟩

/-- The annotations that stand for no field of instances as they are usually
written: bare, qualified or subscripted. -/
inductive IsUsualPseudo : Expr → Prop where
  | bare {id : Text} (h : id ∈ pseudoFields) : IsUsualPseudo (.name id)
  | qualified (value : Expr) {id : Text} (h : id ∈ pseudoFields) :
      IsUsualPseudo (.attribute value id)
  | subscripted {value : Expr} (index : Expr) (h : IsUsualPseudo value) :
      IsUsualPseudo (.subscript value index)

/-- The name is looked for behind calls as well. -/
theorem called_pseudo_field_is_refused :
    ¬ IsUsualPseudo (.call (.name "ClassVar") [] [] 2) ∧
      classDeclaration none 1 "A" []
          [(2, .annotated (.name "x") (.call (.name "ClassVar") [] [] 2) none)] =
        .ok { name := "A", fields := [], shape := .other,
              reason := "'x' is not an instance field", source := none, line := some 1 } :=
  ⟨nofun, rfl⟩

end MessageForge.Source
