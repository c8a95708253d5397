import MessageForge.Proofs.ClassRows
import MessageForge.Proofs.Messages

/-!
# Names in classes

The lines of a class introduce names: a line with an annotation introduces a
field, and a line with a head introduces a function with the decorator of the
line before it. Read back from its lines, a generated class introduces its
declared fields and its members once each, and nothing else.
-/

namespace MessageForge

open Vocabulary Session

/-! ## Reading names -/

/-- What a line of a class introduces. -/
inductive Introduction where
  | field (name : Text)
  | function (decorator name : Text)
  deriving DecidableEq, Repr

/-- What the lines of a class introduce, behind a line with a decorator or
none. The lines of the class stand one level deep, and the bodies of its
functions deeper. -/
def introductions : (decorator : Text) → List Text → List Introduction
  | _, [] => []
  | decorator, line :: rest =>
      match Text.stripPrefix? Code.indentUnit line with
      | none | some [] | some (' ' :: _) => introductions [] rest
      | some ('@' :: name) => introductions name rest
      | some code =>
          match Text.stripPrefix? "def " code with
          | some signature =>
              .function decorator (signature.takeWhile (· ≠ '(')) :: introductions [] rest
          | none => .field (code.takeWhile (· ≠ ':')) :: introductions [] rest

def MethodKind.decorator : MethodKind → Text
  | .classMethod => "classmethod"
  | .instanceMethod => []
  | .property => "property"

/-- A member as the lines of its class introduce it. -/
def Method.introduction (method : Method) : Introduction :=
  .function method.kind.decorator method.name

theorem takeWhile_of_not_mem {name : Text} {stop : Char} (hname : stop ∉ name) (rest : Text) :
    (name ++ stop :: rest).takeWhile (· ≠ stop) = name := by
  have hall : ∀ c ∈ name, decide (c ≠ stop) = true := fun c hc =>
    decide_eq_true fun heq : c = stop => hname (heq ▸ hc)
  rw [List.takeWhile_append_of_pos hall, List.takeWhile_cons_of_neg (by simp), List.append_nil]

theorem introductions_def {name : Text} (hname : '(' ∉ name) (decorator signature : Text)
    (rest : List Text) :
    introductions decorator ((Code.indentUnit ++ ("def " ++ (name ++ '(' :: signature))) :: rest) =
      .function decorator name :: introductions [] rest := by
  show Introduction.function decorator ((name ++ '(' :: signature).takeWhile (· ≠ '(')) :: _ = _
  rw [takeWhile_of_not_mem hname]

/-- Lines of bodies introduce nothing. -/
theorem introductions_body (lines rest : List Text) :
    introductions [] (Code.indent 1 (Code.indent 1 lines) ++ rest) = introductions [] rest := by
  induction lines with
  | nil => rfl
  | cons line lines ih =>
      cases line with
      | nil => exact ih
      | cons c line => exact ih

theorem introductions_function {name : Text} (hname : '(' ∉ name) (decorator : Text)
    (parameters : List Text) (returns : Option Text) (body rest : List Text) :
    introductions decorator (Code.indent 1 (Code.newFunction name parameters returns body) ++ rest) =
      .function decorator name :: introductions [] rest := by
  have hhead : ("def " : Text) ++ name ++ "(" ++ Code.joinParameters parameters ++ ") -> " ++
      returns.getD "None" ++ ":" = "def " ++ (name ++ '(' ::
        (Code.joinParameters parameters ++ (") -> " ++ (returns.getD "None" ++ ":")))) := by
    simp only [List.append_assoc]
    rfl
  rw [Code.newFunction, hhead, ← introductions_body body rest]
  exact introductions_def hname decorator _ _

/-- A member is introduced by its own lines. -/
theorem introductions_method {method : Method} (hname : '(' ∉ method.name) (rest : List Text) :
    introductions [] (Code.indent 1 method.lines ++ rest) =
      method.introduction :: introductions [] rest := by
  rw [Method.introduction, Method.lines]
  cases method.kind with
  | classMethod => exact introductions_function hname "classmethod" _ _ _ rest
  | instanceMethod => exact introductions_function hname [] _ _ _ rest
  | property => exact introductions_function hname "property" _ _ _ rest

theorem introductions_methods {methods : List Method} (hnames : ∀ method ∈ methods, '(' ∉ method.name)
    (rest : List Text) :
    introductions [] (Code.indent 1 ((methods.map Method.lines).flatMap ([] :: ·)) ++ rest) =
      methods.map Method.introduction ++ introductions [] rest := by
  induction methods with
  | nil => rfl
  | cons method methods ih =>
      obtain ⟨hfirst, hrest⟩ := List.forall_mem_cons.mp hnames
      rw [List.map_cons, List.flatMap_cons, List.cons_append, List.map_cons, List.cons_append,
        ← ih hrest, ← introductions_method hfirst, ← List.append_assoc, ← Code.indent_append]
      rfl

/-- No line of a field is the head of a function. -/
theorem stripPrefix?_def_field {name : Text} (hname : Text.isIdentifier name = true)
    (type : Text) : Text.stripPrefix? "def " (name ++ ": " ++ type) = none := by
  have hblank : ' ' ∉ name := Text.not_mem_identifier hname (by decide) (by decide)
  cases hstrip : Text.stripPrefix? "def " (name ++ ": " ++ type) with
  | none => rfl
  | some signature =>
      have heq := Text.eq_append_of_stripPrefix? hstrip
      rw [List.append_assoc, List.append_eq_append_iff] at heq
      rcases heq with ⟨behind, hdef, hrest⟩ | ⟨behind, hlong, -⟩
      · cases behind with
        | nil =>
            rw [List.append_nil] at hdef
            exact absurd (by rw [← hdef]; decide) hblank
        | cons c behind =>
            -- the colon would stand in the keyword or behind it in the name
            have hcolon : c = ':' := (List.cons.inj hrest).1.symm
            have hmem : ':' ∈ ("def " : Text) := by rw [hdef, hcolon]; simp
            exact absurd hmem (by decide)
      · exact absurd (by rw [hlong]; exact List.mem_append_left _ (by decide)) hblank

/-- A field is introduced by its annotation. -/
theorem introductions_field {name : Text} (hname : Text.isIdentifier name = true)
    (decorator type : Text) (rest : List Text) :
    introductions decorator ((Code.indentUnit ++ (name ++ ": " ++ type)) :: rest) =
      .field name :: introductions [] rest := by
  have hfirst : ∀ (c : Char) (code : Text), Text.isIdentifierContinue c = false → c.toNat < 128 →
      some (name ++ ": " ++ type) ≠ some (c :: code) := by
    intro c code hbreak hascii heq
    cases name with
    | nil => exact Text.ne_nil_of_isIdentifier hname rfl
    | cons first name =>
        have hsame : first = c := (List.cons.inj (Option.some.inj heq)).1
        exact Text.not_mem_identifier hname hbreak hascii (hsame ▸ List.mem_cons_self ..)
  have hcolon : ':' ∉ name := Text.not_mem_identifier hname (by decide) (by decide)
  rw [introductions, Text.stripPrefix?_append Code.indentUnit (name ++ ": " ++ type)]
  split
  · next h => cases h
  · next h => exact absurd (Option.some.inj h) (by simp)
  · next h => exact absurd h (hfirst ' ' _ (by decide) (by decide))
  · next h => exact absurd h (hfirst '@' _ (by decide) (by decide))
  · next code _ _ h =>
      obtain rfl := Option.some.inj h
      rw [stripPrefix?_def_field hname]
      show Introduction.field ((name ++ ": " ++ type).takeWhile (· ≠ ':')) :: _ = _
      rw [List.append_assoc]
      exact congrArg (Introduction.field · :: _) (takeWhile_of_not_mem hcolon (' ' :: type))

theorem introductions_fields {fields : List Field}
    (hnames : ∀ name ∈ fields.map Field.name, Text.isIdentifier name = true) (rest : List Text) :
    introductions [] (Code.indent 1 (parameterTexts fields) ++ rest) =
      (fields.map Field.name).map .field ++ introductions [] rest := by
  induction fields with
  | nil => rfl
  | cons field fields ih =>
      obtain ⟨hfirst, hrest⟩ := List.forall_mem_cons.mp hnames
      have hne : (field.name ++ ": " ++ field.type : Text) ≠ [] := by simp
      rw [parameterTexts, List.map_cons, Code.indent_one_cons _ hne, List.cons_append,
        introductions_field hfirst]
      exact congrArg (_ :: ·) (ih hrest)

/-! ## Names of fields and members -/

section Names

variable {declaration : Declaration} {derivation : Derivation}

theorem names_members (hderive : declaration.derive = .ok derivation) :
    derivation.members.map Method.name =
      commonNames ++ if roleField ∈ declaration.fieldNames then [] else [roleField] := by
  show (MessageClass.ofDerivation derivation).methods.map Method.name = _
  rw [names_methods, roleAccessor_eq hderive]
  split <;> rfl

theorem name_mem_of_mem_members (hderive : declaration.derive = .ok derivation) {method : Method}
    (hmem : method ∈ derivation.members) : method.name ∈ commonNames ++ [roleField] := by
  have hname := List.mem_map_of_mem (f := Method.name) hmem
  rw [names_members hderive] at hname
  refine List.mem_append.mpr ((List.mem_append.mp hname).imp_right fun hrole => ?_)
  split at hrole
  · cases hrole
  · exact hrole

theorem mem_commonNames_iff {name : Text} : name ∈ commonNames ↔ name ∈ generatedMembers := by
  have hperm : commonNames.Perm generatedMembers := by decide
  exact hperm.mem_iff

/-- A class has the names of its fields, of all members, and that of the role. -/
theorem mem_names_iff (hderive : declaration.derive = .ok derivation) {name : Text} :
    name ∈ declaration.fieldNames ++ derivation.members.map Method.name ↔
      name ∈ declaration.fieldNames ∨ name ∈ generatedMembers ∨ name = roleField := by
  rw [List.mem_append, names_members hderive, List.mem_append, mem_commonNames_iff]
  split
  · next hrole =>
      constructor
      · rintro (hfield | hmember | hnone)
        · exact .inl hfield
        · exact .inr (.inl hmember)
        · cases hnone
      · rintro (hfield | hmember | rfl)
        · exact .inl hfield
        · exact .inr (.inl hmember)
        · exact .inl hrole
  · rw [List.mem_singleton]

theorem nodup_names (hderive : declaration.derive = .ok derivation)
    (hnodup : declaration.fieldNames.Nodup) :
    (declaration.fieldNames ++ derivation.members.map Method.name).Nodup :=
  List.nodup_append'.mpr ⟨hnodup, nodup_names_methods derivation,
    fun _ hfield => not_mem_names_methods hderive hfield⟩

/-- The role is a property just if no field stores it. -/
theorem role_is_property_iff (hderive : declaration.derive = .ok derivation) :
    (∃ method ∈ derivation.members, method.name = roleField ∧ method.kind = .property) ↔
      roleField ∉ declaration.fieldNames := by
  constructor
  · rintro ⟨method, hmem, hname, -⟩ hfield
    exact not_mem_names_methods hderive hfield (hname ▸ List.mem_map_of_mem hmem)
  · intro hrole
    exact ⟨roleProperty, List.mem_of_find?_eq_some (method?_role hderive hrole), rfl, rfl⟩

theorem fields_ne_nil (hderive : declaration.derive = .ok derivation) : declaration.fields ≠ [] :=
  fun hnil => by
    have hbase := baseField_mem_fieldNames hderive
    rw [Declaration.fieldNames, hnil] at hbase
    cases hbase

/-- A class introduces its fields and its members in order, and nothing else. -/
theorem introductions_classLines (hderive : declaration.derive = .ok derivation)
    (hnames : ∀ name ∈ declaration.fieldNames, Text.isIdentifier name = true) :
    introductions [] (classLines declaration derivation.lines) =
      declaration.fieldNames.map .field ++ derivation.members.map Method.introduction := by
  have hplain : ∀ name ∈ commonNames ++ [roleField], '(' ∉ name := by decide
  have hmembers : ∀ method ∈ derivation.members, '(' ∉ method.name := fun method hmem =>
    hplain _ (name_mem_of_mem_members hderive hmem)
  have hfunctions := introductions_methods hmembers []
  rw [List.append_nil] at hfunctions
  obtain rfl := (Declaration.derive_eq_ok_iff.mp hderive).2.2.2.1
  rw [classLines_eq (fields_ne_nil hderive), Code.indent_append]
  exact (introductions_fields hnames _).trans
    (congrArg (_ ++ ·) (hfunctions.trans (List.append_nil _)))

end Names

end MessageForge
