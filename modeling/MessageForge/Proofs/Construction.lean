import Mathlib.Data.List.Nodup
import MessageForge.Proofs.Executions
import MessageForge.Proofs.Lines

/-!
# Constructors that work

The checks of a derivation let through field names with which the constructor
of the class fails or the class cannot be made. Which names these are is told
here, and with all others the constructor does what it promises.
-/

namespace MessageForge.Session

open Vocabulary

/-! ## Names of fields -/

/-- Names that a class or its objects keep for themselves. -/
def keptNames : List Text :=
  constantName :: changeableNames ++ fixedMembers.map Prod.fst

/-- Names with which a class can be made and its constructor works. -/
structure UsableNames (names : List Text) : Prop where
  isPublic : ∀ name ∈ names, isPrivate name = false
  notCaptured : ∀ name ∈ names, name ∉ capturedNames
  notKept : ∀ name ∈ names, name ∉ keptNames
  oneSelf : selfName ∉ names ∨ otherSelfName ∉ names
  defaultsLast : defaultsComeLast names = true

/-- The attributes of a message: the base record in its field, and the values
in the others as they come. -/
def messageAttributes (base : Value) : List Text → List Value → List (Text × Value)
  | [], _ => []
  | name :: rest, values =>
      if name = baseField then (name, base) :: messageAttributes base rest values
      else (name, values.headD .none) :: messageAttributes base rest values.tail

/-- A heap with a new message behind it, made of a new base record with two new
tables. -/
def withMessage (heap : Heap) (declaration : Declaration) (type : MessageType)
    (content flag : Value) (values : List Value) : Heap :=
  heap ++ [Cell.table [], .table [],
    .object .base (newBaseAttributes content flag type heap.length),
    .object (.message declaration.name)
      (messageAttributes (.cell (heap.length + 2)) declaration.fieldNames values)]

/-- The only class of a module can be made, and its constructor makes a new
message of any values, whatever there was before. -/
def ConstructorWorks (surroundings : Surroundings) (path : Text) (imports : List Text)
    (declaration : Declaration) (type : MessageType) : Prop :=
  ∃ classes, Executes surroundings (soleFile path imports declaration) classes ∧
    ∀ (heap : Heap) (content flag : Value) (values : List Value),
      values.length = (extraFields declaration.fields).length →
      (accessMember classes (.messageClass declaration.name) "new_with_example"
        (.call { positional := content :: flag :: values })).run heap =
        (.ok (.cell (heap.length + 3)), withMessage heap declaration type content flag values)

/-! ## Names of classes -/

theorem typeName_cases {declaration : Declaration} {derivation : Derivation} {type : MessageType}
    (hderive : declaration.derive = .ok derivation)
    (htype : MessageType.ofName? derivation.category = some type) :
    derivation.category = type.name ∧
      (declaration.name = type.name ∨ declaration.name = type.name ++ messageSuffix) := by
  have hname : type.name = derivation.category := by
    have hfound := List.find?_some (p := fun type : MessageType => type.name = derivation.category) htype
    exact of_decide_eq_true hfound
  obtain ⟨-, -, hcategory, -, -⟩ := Declaration.derive_eq_ok_iff.mp hderive
  have hdrop : Text.dropSuffix messageSuffix declaration.name = derivation.category :=
    (checkCategory_eq_ok_iff.mp hcategory).1
  have hcases := Text.dropSuffix_cases messageSuffix declaration.name
  rw [hdrop, ← hname] at hcases
  exact ⟨hname.symm, hcases⟩

/-- What the names of these classes are not. -/
theorem typeName_plain {name : Text} (type : MessageType)
    (h : name = type.name ∨ name = type.name ++ messageSuffix) :
    name.dropWhile (· = '_') ≠ [] ∧ name ≠ baseRecord ∧ name ≠ messageTypeEnum := by
  rcases h with rfl | rfl <;> cases type <;> decide +kernel

/-! ## The frame of the constructor -/

def extraNames (declaration : Declaration) : List Text :=
  (extraFields declaration.fields).map Field.name

theorem extraNames_eq (declaration : Declaration) :
    extraNames declaration = declaration.fieldNames.filter (· ≠ baseField) := by
  rw [extraNames, extraFields, includedFields, Declaration.fieldNames, List.filter_map]
  congr 1
  refine List.filter_congr fun field _ => ?_
  simp

/-- The parameters of the constructor, as they are known in the class. -/
def constructorNames (declaration : Declaration) : List Text :=
  "cls" :: "content" :: "example" ::
    (extraNames declaration).map (privateName declaration.name)

/-- Where the constructor runs with the arguments that it is given. -/
def constructorFrame (classes : Classes) (declaration : Declaration) (fuel : Nat)
    (content flag : Value) (values : List Value) : Frame :=
  { classes, className := declaration.name, access := access classes (fuel + 1)
    locals := (constructorNames declaration).zip
      (.messageClass declaration.name :: content :: flag :: values) }

/-- What the constructor gives. -/
def constructorTerm (declaration : Declaration) (category : Text) : Term :=
  .construct (.name "cls") ((baseField, newBase category) ::
    (extraNames declaration).map fun name => (name, .name name))

theorem method?_newWithExample (derivation : Derivation) :
    (MessageClass.ofDerivation derivation).method? "new_with_example" =
      some (fullConstructor (extraFields derivation.declaration.fields) derivation.category) := by
  show List.find? _ (shortConstructor _ :: fullConstructor _ _ :: _) = _
  rw [List.find?_cons_of_neg, List.find?_cons_of_pos]
  · exact decide_eq_true rfl
  · show ¬ decide (("new" : Text) = "new_with_example") = true
    decide

/-- A class method of one term gives its arguments to its parameters, with the
class in front, and evaluates its term. -/
theorem access_classMethod {classes : Classes} {type : MessageClass} {method : Method} {term : Term}
    {name : Text} (hvisible : find? classes type.name = some type)
    (hmethod : type.method? name = some method) (hkind : method.kind = .classMethod)
    (hbody : method.body = [.give term]) (fuel : Nat) (arguments : Arguments) :
    access classes (fuel + 1) (.messageClass type.name) name (.call arguments) =
    match bind ("cls" :: method.parameters.map fun parameter =>
        privateName type.name parameter.name) (arguments.push (.messageClass type.name)) with
    | .ok locals =>
        evaluate { classes, className := type.name, access := access classes fuel, locals } term
    | .error fault => throw fault := by
  rw [access, hvisible]
  dsimp only
  rw [accessClassMember, hmethod]
  dsimp only
  rw [hkind]
  dsimp only
  rw [runMethod, if_pos hkind, hbody]
  rfl

theorem access_newWithExample {classes : Classes} {declaration : Declaration}
    {derivation : Derivation} {pseudo : List (Text × PseudoField)}
    (hdeclaration : derivation.declaration = declaration)
    (hvisible : find? classes declaration.name =
      some ((MessageClass.ofDerivation derivation).taking pseudo)) (fuel : Nat)
    (arguments : Arguments) :
    access classes (fuel + 1) (.messageClass declaration.name) "new_with_example"
      (.call arguments) =
    match bind (constructorNames declaration)
        (arguments.push (.messageClass declaration.name)) with
    | .ok locals =>
        evaluate
          { classes, className := declaration.name, access := access classes fuel, locals }
          (constructorTerm declaration derivation.category)
    | .error fault => throw fault := by
  subst hdeclaration
  have hplain : ∀ name : Text, isPrivate name = false →
      privateName derivation.declaration.name name = name :=
    fun name h => privateName_of_not_private _ h
  have hnames : ("cls" : Text) :: (fullConstructor (extraFields derivation.declaration.fields)
      derivation.category).parameters.map (fun parameter =>
        privateName derivation.declaration.name parameter.name) =
      constructorNames derivation.declaration := by
    rw [fullConstructor, List.map_cons, List.map_cons, hplain _ (by decide), hplain _ (by decide),
      constructorNames, extraNames, List.map_map, List.map_map]
    rfl
  have hterm : (fullConstructor (extraFields derivation.declaration.fields)
      derivation.category).body =
      [.give (constructorTerm derivation.declaration derivation.category)] := by
    rw [fullConstructor, constructorTerm, extraNames, List.map_map]
    rfl
  have hmethod : ((MessageClass.ofDerivation derivation).taking pseudo).method?
      "new_with_example" =
      some (fullConstructor (extraFields derivation.declaration.fields) derivation.category) :=
    method?_newWithExample derivation
  rw [← hnames]
  exact access_classMethod hvisible hmethod rfl hterm fuel arguments

theorem run_newWithExample {classes : Classes} {declaration : Declaration}
    {derivation : Derivation} {pseudo : List (Text × PseudoField)}
    (hdeclaration : derivation.declaration = declaration)
    (hvisible : find? classes declaration.name =
      some ((MessageClass.ofDerivation derivation).taking pseudo))
    {content flag : Value} {values : List Value}
    (hlength : values.length = (extraFields declaration.fields).length) (heap : Heap) :
    (accessMember classes (.messageClass declaration.name) "new_with_example"
      (.call { positional := content :: flag :: values })).run heap =
    (evaluate (constructorFrame classes declaration (2 * heap.bound + 2) content flag values)
      (constructorTerm declaration derivation.category)).run heap := by
  have hget : (get : Evaluation Heap).run heap = (.ok heap, heap) := rfl
  have hbind : bind (constructorNames declaration)
      { positional := .messageClass declaration.name :: content :: flag :: values } =
      .ok ((constructorNames declaration).zip
        (.messageClass declaration.name :: content :: flag :: values)) :=
    bind_positional (by simp [constructorNames, extraNames, hlength])
  rw [accessMember, Stateful.run_bind_ok _ hget, access_newWithExample hdeclaration hvisible,
    Arguments.push, hbind]
  rfl

/-! ## Values of parameters -/

theorem lookup_zip_isSome {name : Text} : ∀ {names : List Text} {values : List Value},
    values.length = names.length → name ∈ names → ∃ value, (names.zip values).lookup name = some value
  | [], _, _, h => absurd h List.not_mem_nil
  | _ :: _, [], hlength, _ => by cases hlength
  | first :: rest, value :: values, hlength, h => by
      rw [List.zip_cons_cons, List.lookup_cons]
      by_cases heq : name = first
      · rw [heq, beq_self_eq_true]
        exact ⟨value, rfl⟩
      · rw [beq_eq_false_iff_ne.mpr heq]
        exact lookup_zip_isSome (Nat.succ.inj hlength) ((List.mem_cons.mp h).resolve_left heq)

theorem lookup_zip_eq_none {name : Text} : ∀ {names : List Text} (values : List Value),
    name ∉ names → (names.zip values).lookup name = none
  | [], _, _ => rfl
  | _ :: _, [], _ => rfl
  | first :: rest, value :: values, h => by
      have hne : name ≠ first := fun heq => h (heq ▸ List.mem_cons_self ..)
      rw [List.zip_cons_cons, List.lookup_cons, beq_eq_false_iff_ne.mpr hne]
      exact lookup_zip_eq_none values fun hmem => h (List.mem_cons_of_mem _ hmem)

/-- The value that a parameter gets from the values for all of them. -/
def valueIn (names : List Text) (values : List Value) (name : Text) : Value :=
  ((names.zip values).lookup name).getD .none

theorem valueIn_cons_of_ne {first name : Text} (names : List Text) (value : Value)
    (values : List Value) (h : name ≠ first) :
    valueIn (first :: names) (value :: values) name = valueIn names values name := by
  rw [valueIn, List.zip_cons_cons, List.lookup_cons, beq_eq_false_iff_ne.mpr h]
  rfl

/-- Each field holds the value of its own parameter. -/
theorem messageAttributes_eq (base : Value) : ∀ {names : List Text} {values : List Value},
    names.Nodup → values.length = (names.filter (· ≠ baseField)).length →
    messageAttributes base names values = names.map fun name =>
      (name, if name = baseField then base
        else valueIn (names.filter (· ≠ baseField)) values name)
  | [], _, _, _ => rfl
  | name :: rest, values, hnodup, hlength => by
      obtain ⟨hfresh, hrest⟩ := List.nodup_cons.mp hnodup
      by_cases hbase : name = baseField
      · have hfilter : (name :: rest).filter (· ≠ baseField) = rest.filter (· ≠ baseField) :=
          List.filter_cons_of_neg (by simp [hbase])
        rw [hfilter] at hlength ⊢
        rw [messageAttributes, if_pos hbase, List.map_cons, if_pos hbase,
          messageAttributes_eq base hrest hlength]
      · have hfilter : (name :: rest).filter (· ≠ baseField) =
            name :: rest.filter (· ≠ baseField) :=
          List.filter_cons_of_pos (by simp [hbase])
        rw [hfilter] at hlength ⊢
        cases values with
        | nil => cases hlength
        | cons value values =>
            have hvalue : valueIn (name :: rest.filter (· ≠ baseField)) (value :: values) name =
                value := by
              rw [valueIn, List.zip_cons_cons, List.lookup_cons_self]
              rfl
            rw [messageAttributes, if_neg hbase, List.map_cons, if_neg hbase, hvalue,
              List.headD_cons, List.tail_cons,
              messageAttributes_eq base hrest (Nat.succ.inj hlength)]
            congr 1
            refine List.map_congr_left fun other hother => ?_
            have hne : other ≠ name := fun heq => hfresh (heq ▸ hother)
            rw [valueIn_cons_of_ne _ _ _ hne]

section Frame

variable {classes : Classes} {declaration : Declaration} {derivation : Derivation}
  {type : MessageType} {content flag : Value} {values : List Value}

theorem meaning?_cls (fuel : Nat) :
    (constructorFrame classes declaration fuel content flag values).meaning? "cls" =
      some (.messageClass declaration.name) := by
  rw [Frame.meaning?, constructorFrame, constructorNames, List.zip_cons_cons,
    List.lookup_cons_self]
  rfl

theorem meaning?_content (fuel : Nat) :
    (constructorFrame classes declaration fuel content flag values).meaning? "content" =
      some content := by
  have hcls : (("content" : Text) == ("cls" : Text)) = false := by decide
  rw [Frame.meaning?, constructorFrame, constructorNames, List.zip_cons_cons, List.lookup_cons,
    hcls, List.zip_cons_cons, List.lookup_cons_self]
  rfl

theorem meaning?_example (fuel : Nat) :
    (constructorFrame classes declaration fuel content flag values).meaning? "example" =
      some flag := by
  have hcls : (("example" : Text) == ("cls" : Text)) = false := by decide
  have hcontent : (("example" : Text) == ("content" : Text)) = false := by decide
  rw [Frame.meaning?, constructorFrame, constructorNames, List.zip_cons_cons, List.lookup_cons,
    hcls, List.zip_cons_cons, List.lookup_cons, hcontent, List.zip_cons_cons,
    List.lookup_cons_self]
  rfl

theorem map_privateName_of_public {names : List Text} (className : Text)
    (h : ∀ name ∈ names, isPrivate name = false) :
    names.map (privateName className) = names := by
  refine (List.map_congr_left fun name hname => ?_).trans (List.map_id names)
  exact privateName_of_not_private className (h name hname)

/-- What a name means that is none of the three that the constructor is always
given. -/
theorem meaning?_of_ne (hpublic : ∀ name ∈ extraNames declaration, isPrivate name = false)
    {name : Text} (hcls : name ≠ "cls") (hcontent : name ≠ "content") (hexample : name ≠ "example")
    (fuel : Nat) :
    (constructorFrame classes declaration fuel content flag values).meaning? name =
      ((((extraNames declaration).zip values).lookup name).or (moduleName? classes name)).or
        (builtinNames.lookup name) := by
  rw [Frame.meaning?, constructorFrame, constructorNames, map_privateName_of_public _ hpublic,
    List.zip_cons_cons, List.lookup_cons, beq_eq_false_iff_ne.mpr hcls, List.zip_cons_cons,
    List.lookup_cons, beq_eq_false_iff_ne.mpr hcontent, List.zip_cons_cons, List.lookup_cons,
    beq_eq_false_iff_ne.mpr hexample]

/-- The names of the fields of a derived declaration are none of those that the
constructor is always given. -/
theorem ne_of_mem_fieldNames (hderive : declaration.derive = .ok derivation) {name : Text}
    (hname : name ∈ declaration.fieldNames) :
    name ≠ "cls" ∧ name ≠ "content" ∧ name ≠ "example" := by
  obtain ⟨-, hfields, -, -, -⟩ := Declaration.derive_eq_ok_iff.mp hderive
  have hreserved := (checkFields_eq_ok_iff.mp hfields).2 name hname
  have hown : ("cls" : Text) ∈ reservedNames ∧ ("content" : Text) ∈ reservedNames ∧
      ("example" : Text) ∈ reservedNames := by decide +kernel
  refine ⟨?_, ?_, ?_⟩ <;> rintro rfl
  · exact hreserved hown.1
  · exact hreserved hown.2.1
  · exact hreserved hown.2.2

theorem mem_extraNames {name : Text} :
    name ∈ extraNames declaration ↔ name ∈ declaration.fieldNames ∧ name ≠ baseField := by
  rw [extraNames_eq, List.mem_filter, decide_eq_true_iff]

theorem fields_ofDerivation (hdeclaration : derivation.declaration = declaration)
    (husable : UsableNames declaration.fieldNames) :
    (MessageClass.ofDerivation derivation).fields = declaration.fieldNames := by
  rw [MessageClass.ofDerivation, hdeclaration]
  exact map_privateName_of_public _ husable.isPublic

theorem lookup_map_pair {valueOf : Text → Value} {name : Text} : ∀ {names : List Text},
    name ∈ names → (names.map fun other => (other, valueOf other)).lookup name =
      some (valueOf name)
  | [], h => absurd h List.not_mem_nil
  | first :: rest, h => by
      rw [List.map_cons, List.lookup_cons]
      by_cases heq : name = first
      · rw [heq, beq_self_eq_true]
      · rw [beq_eq_false_iff_ne.mpr heq]
        exact lookup_map_pair ((List.mem_cons.mp h).resolve_left heq)

/-- What the constructor hands to the class. -/
def initializers (declaration : Declaration) (base : Value) (valueOf : Text → Value) :
    List (Text × Value) :=
  (baseField, base) :: (extraNames declaration).map fun name => (name, valueOf name)

/-- The class itself gives each field the value for its name. -/
theorem run_makeMessage (hderive : declaration.derive = .ok derivation)
    (husable : UsableNames declaration.fieldNames) (base : Value) (valueOf : Text → Value)
    (heap : Heap) :
    (makeMessage (.ofDerivation derivation)
      { named := initializers declaration base valueOf }).run heap =
    (.ok (.cell heap.length), heap ++ [.object (.message declaration.name)
      (declaration.fieldNames.map fun name =>
        (name, if name = baseField then base else valueOf name))]) := by
  obtain ⟨-, hfields, -, hdeclaration, -⟩ := Declaration.derive_eq_ok_iff.mp hderive
  have hknown : ∀ entry ∈ initializers declaration base valueOf,
      entry.1 ∈ declaration.fieldNames := by
    intro entry hentry
    rcases List.mem_cons.mp hentry with rfl | hextra
    · exact (checkFields_eq_ok_iff.mp hfields).1
    · obtain ⟨name, hname, rfl⟩ := List.mem_map.mp hextra
      exact (mem_extraNames.mp hname).1
  have hvalue : ∀ name ∈ declaration.fieldNames,
      (initializers declaration base valueOf).lookup name =
      some (if name = baseField then base else valueOf name) := by
    intro name hname
    rw [initializers, List.lookup_cons]
    by_cases heq : name = baseField
    · rw [heq, beq_self_eq_true, if_pos rfl]
    · rw [beq_eq_false_iff_ne.mpr heq, if_neg heq]
      exact lookup_map_pair (mem_extraNames.mpr ⟨hname, heq⟩)
  have hkept : declaration.fieldNames.findSome? (List.lookup · fixedMembers) = none := by
    rw [List.findSome?_eq_none_iff]
    intro name hname
    rw [List.lookup_eq_none_iff]
    intro member hmember
    have hne : name ≠ member.1 := fun heq => husable.notKept name hname
      (heq ▸ List.mem_append_right _ (List.mem_map_of_mem hmember))
    exact bne_iff_ne.mpr hne
  rw [makeMessage, MessageClass.bind_of_plain rfl, MessageClass.stored_of_plain rfl,
    fields_ofDerivation hdeclaration husable, bind_named hknown hvalue, hkept,
    MessageClass.ofDerivation, hdeclaration]
  rfl

/-- No extra field takes one of the names that the constructor uses. -/
theorem lookup_capturedName {name : Text} (husable : UsableNames declaration.fieldNames)
    (hcaptured : name ∈ capturedNames) : ((extraNames declaration).zip values).lookup name = none :=
  lookup_zip_eq_none values fun hname =>
    husable.notCaptured name (mem_extraNames.mp hname).1 hcaptured

theorem isPublic_extraNames (husable : UsableNames declaration.fieldNames) :
    ∀ name ∈ extraNames declaration, isPrivate name = false :=
  fun name hname => husable.isPublic name (mem_extraNames.mp hname).1

theorem meaning?_baseRecord (husable : UsableNames declaration.fieldNames)
    (hbase : find? classes baseRecord = none) (fuel : Nat) :
    (constructorFrame classes declaration fuel content flag values).meaning? baseRecord =
      some .baseClass := by
  rw [meaning?_of_ne (isPublic_extraNames husable) (by decide) (by decide) (by decide),
    lookup_capturedName husable (by decide), moduleName?, hbase]
  decide +kernel

theorem meaning?_messageTypeEnum (husable : UsableNames declaration.fieldNames)
    (henum : find? classes messageTypeEnum = none) (fuel : Nat) :
    (constructorFrame classes declaration fuel content flag values).meaning? messageTypeEnum =
      some .typeClass := by
  rw [meaning?_of_ne (isPublic_extraNames husable) (by decide) (by decide) (by decide),
    lookup_capturedName husable (by decide), moduleName?, henum]
  decide +kernel

/-- Each extra field has the parameter of its name as its value. -/
theorem meaning?_extraName (hderive : declaration.derive = .ok derivation)
    (husable : UsableNames declaration.fieldNames)
    (hlength : values.length = (extraNames declaration).length) (fuel : Nat) {name : Text}
    (hname : name ∈ extraNames declaration) :
    (constructorFrame classes declaration fuel content flag values).meaning? name =
      some (valueIn (extraNames declaration) values name) := by
  obtain ⟨hcls, hcontent, hexample⟩ := ne_of_mem_fieldNames hderive (mem_extraNames.mp hname).1
  obtain ⟨value, hvalue⟩ := lookup_zip_isSome hlength hname
  rw [meaning?_of_ne (isPublic_extraNames husable) hcls hcontent hexample, valueIn, hvalue]
  rfl

/-- The category of the class is read from the enum. -/
theorem run_access_typeClass {category : Text} (htype : MessageType.ofName? category = some type)
    (fuel : Nat) (heap : Heap) :
    ((constructorFrame classes declaration fuel content flag values).access .typeClass category
      .read).run heap = (.ok (.messageType type), heap) := by
  show (access classes (fuel + 1) .typeClass category .read).run heap = _
  rw [access, htype]
  rfl

/-- The body of the constructor makes the message that is promised. -/
theorem run_constructorTerm (hderive : declaration.derive = .ok derivation)
    (hnodup : declaration.fieldNames.Nodup)
    (htype : MessageType.ofName? derivation.category = some type)
    (husable : UsableNames declaration.fieldNames)
    (hvisible : find? classes declaration.name = some (.ofDerivation derivation))
    (hbase : find? classes baseRecord = none) (henum : find? classes messageTypeEnum = none)
    (hlength : values.length = (extraFields declaration.fields).length) (fuel : Nat)
    (heap : Heap) :
    (evaluate (constructorFrame classes declaration fuel content flag values)
      (constructorTerm declaration derivation.category)).run heap =
      (.ok (.cell (heap.length + 3)), withMessage heap declaration type content flag values) := by
  have hlength' : values.length = (extraNames declaration).length := by
    rw [hlength, extraNames, List.length_map]
  have hcategory : isPrivate derivation.category = false := by
    rw [(typeName_cases hderive htype).1]
    cases type <;> decide
  have hcontent : (constructorFrame classes declaration fuel content flag values).meaning?
      "content" = some content := meaning?_content fuel
  have hnewBase := run_evaluate_newBase hcontent (meaning?_example fuel)
    (meaning?_baseRecord husable hbase fuel) (meaning?_messageTypeEnum husable henum fuel)
    hcategory (run_access_typeClass htype fuel) heap
  have hnamed := run_evaluateNamed_cons baseField hnewBase (run_evaluateNamed_names _
    fun name hname => ⟨isPublic_extraNames husable name hname,
      meaning?_extraName hderive husable hlength' fuel hname⟩)
  have hattributes := messageAttributes_eq (.cell (heap.length + 2)) hnodup
    (hlength'.trans (congrArg List.length (extraNames_eq declaration)))
  rw [constructorTerm, evaluate,
    Stateful.run_bind_ok _ (run_evaluate_name (by decide) (meaning?_cls fuel) heap),
    Stateful.run_bind_ok _ hnamed, callValue, constructorFrame]
  dsimp only
  rw [hvisible]
  dsimp only
  have hmake := run_makeMessage hderive husable (.cell (heap.length + 2))
    (valueIn (extraNames declaration) values) (heap ++ [Cell.table [], .table [],
      .object .base (newBaseAttributes content flag type heap.length)])
  rw [initializers] at hmake
  rw [hmake, withMessage, hattributes, ← extraNames_eq, List.length_append, List.append_assoc]
  rfl

end Frame

/-! ## Classes that can be made -/

theorem classesOf?_single {declaration : Declaration} {derivation : Derivation}
    (hderive : declaration.derive = .ok derivation) (path : Text) :
    classesOf? { path, entries := [.declaration declaration] } =
      if (MessageClass.ofDerivation derivation).fault? = none then
        some [MessageClass.ofDerivation derivation] else none := by
  have hentries : [Entry.declaration declaration].mapM MessageClass.ofEntry? =
      some [MessageClass.ofDerivation derivation] := by
    rw [List.mapM_cons, MessageClass.ofEntry?, hderive]
    rfl
  rw [classesOf?]
  dsimp only
  rw [hentries]
  show (if [MessageClass.ofDerivation derivation].all (·.fault?.isNone) then
    some [MessageClass.ofDerivation derivation] else none) = _
  simp only [List.all_cons, List.all_nil, Bool.and_true, Option.isNone_iff_eq_none]

/-! ## What a working constructor shows of its names -/

theorem names_of_evaluateNamed {frame : Frame} : ∀ {terms : List (Text × Term)}
    {named : List (Text × Value)} {heap after : Heap},
    (evaluateNamed frame terms).run heap = (.ok named, after) →
      named.map Prod.fst = terms.map Prod.fst
  | [], _, _, _, h => by cases h; rfl
  | (name, term) :: rest, named, heap, after, h => by
      rw [evaluateNamed] at h
      obtain ⟨value, between, -, h⟩ := Stateful.run_bind_eq_ok h
      obtain ⟨others, between', hrest, h⟩ := Stateful.run_bind_eq_ok h
      cases h
      rw [List.map_cons, List.map_cons, names_of_evaluateNamed hrest]

theorem run_of_mem_evaluateNamed {frame : Frame} {name : Text} {term : Term} :
    ∀ {terms : List (Text × Term)} {named : List (Text × Value)} {heap after : Heap},
      (evaluateNamed frame terms).run heap = (.ok named, after) → (name, term) ∈ terms →
      ∃ state value state', (evaluate frame term).run state = (.ok value, state')
  | [], _, _, _, _, hmem => absurd hmem List.not_mem_nil
  | (first, other) :: rest, named, heap, after, h, hmem => by
      rw [evaluateNamed] at h
      obtain ⟨value, between, hother, h⟩ := Stateful.run_bind_eq_ok h
      obtain ⟨others, between', hrest, -⟩ := Stateful.run_bind_eq_ok h
      rcases List.mem_cons.mp hmem with heq | hmem
      · cases heq
        exact ⟨heap, value, between, hother⟩
      · exact run_of_mem_evaluateNamed hrest hmem

/-- A private name is no name by which another is known outside. -/
theorem privateName_ne {className name : Text} (hclass : className.dropWhile (· = '_') ≠ [])
    (hname : isPrivate name = true) (other : Text) : privateName className other ≠ name := by
  have hempty : (className.dropWhile (· = '_')).isEmpty = false := by
    simpa [List.isEmpty_iff] using hclass
  rw [privateName, hempty]
  by_cases hother : isPrivate other = true
  · rw [hother, Bool.not_false, Bool.and_self, if_pos rfl]
    rintro rfl
    -- a private name goes on with an underscore, and the name of a class does not begin with one
    cases howner : className.dropWhile (· = '_') with
    | nil => exact hclass howner
    | cons c rest =>
        have hfirst := List.head?_dropWhile_not (· = '_') className
        rw [howner] at hfirst hname
        have hstart : Text.startsWith "__" ('_' :: (c :: rest ++ other)) = decide ('_' = c) := by
          rw [Text.startsWith]
          show (if '_' = '_' then if '_' = c then some _ else none else none).isSome = _
          by_cases hc : '_' = c
          · rw [if_pos rfl, if_pos hc, decide_eq_true hc]
            rfl
          · rw [if_pos rfl, if_neg hc, decide_eq_false hc]
            rfl
        rw [isPrivate, hstart, Bool.and_eq_true, decide_eq_true_iff] at hname
        simp [← hname.1] at hfirst
  · rw [if_neg (by simp [hother])]
    rintro rfl
    exact hother hname

section Names

variable {declaration : Declaration} {derivation : Derivation} {type : MessageType}

/-- The values that a constructor cannot use for anything. -/
def noValues (declaration : Declaration) : List Value :=
  List.replicate (extraFields declaration.fields).length .none

theorem lookup_noValues {name : Text} (hname : name ∈ extraNames declaration) :
    ((extraNames declaration).zip (noValues declaration)).lookup name = some .none := by
  have hlength : (noValues declaration).length = (extraNames declaration).length := by
    rw [noValues, List.length_replicate, extraNames, List.length_map]
  obtain ⟨value, hvalue⟩ := lookup_zip_isSome hlength hname
  obtain ⟨front, back, hzip, -⟩ := List.lookup_eq_some_iff.mp hvalue
  have hmem : (name, value) ∈ (extraNames declaration).zip (noValues declaration) :=
    hzip ▸ List.mem_append_right _ (List.mem_cons_self ..)
  rw [hvalue, List.eq_of_mem_replicate (List.of_mem_zip hmem).2]

theorem meaning?_noValues (hderive : declaration.derive = .ok derivation)
    (hpublic : ∀ name ∈ extraNames declaration, isPrivate name = false) {name : Text}
    (hname : name ∈ extraNames declaration) (classes : Classes) (fuel : Nat) :
    (constructorFrame classes declaration fuel .none .none (noValues declaration)).meaning? name =
      some .none := by
  obtain ⟨hcls, hcontent, hexample⟩ := ne_of_mem_fieldNames hderive (mem_extraNames.mp hname).1
  rw [meaning?_of_ne hpublic hcls hcontent hexample, lookup_noValues hname]
  rfl

/-- The class has got all that it was called with, so that no name is private. -/
theorem public_of_makeMessage (hclass : declaration.name.dropWhile (· = '_') ≠ [])
    (hdeclaration : derivation.declaration = declaration)
    {named : List (Text × Value)} {value : Value} {heap after : Heap}
    (hnames : named.map Prod.fst = baseField :: extraNames declaration)
    (hmake : (makeMessage (.ofDerivation derivation) { named }).run heap = (.ok value, after)) :
    (∀ name ∈ declaration.fieldNames, isPrivate name = false) ∧
      (MessageClass.ofDerivation derivation).fields.findSome?
        (List.lookup · fixedMembers) = none := by
  rw [makeMessage, MessageClass.bind_of_plain rfl, MessageClass.stored_of_plain rfl] at hmake
  cases hbind : bind (MessageClass.ofDerivation derivation).fields { named } with
  | error fault => rw [hbind] at hmake; cases hmake
  | ok attributes =>
      cases hkept : (MessageClass.ofDerivation derivation).fields.findSome?
          (List.lookup · fixedMembers) with
      | some fault => rw [hbind, hkept] at hmake; cases hmake
      | none =>
          refine ⟨fun name hname => ?_, rfl⟩
          by_cases hbase : name = baseField
          · rw [hbase]
            decide
          · have hgiven : name ∈ named.map Prod.fst :=
              hnames ▸ List.mem_cons_of_mem _ (mem_extraNames.mpr ⟨hname, hbase⟩)
            obtain ⟨entry, hentry, hfst⟩ := List.mem_map.mp hgiven
            have hfield := mem_of_bind_named hbind hentry
            rw [hfst, MessageClass.ofDerivation, hdeclaration] at hfield
            obtain ⟨other, -, hother⟩ := List.mem_map.mp hfield
            by_contra hprivate
            exact privateName_ne hclass (by simpa using hprivate) other hother

/-- A constructor that gives an object has called its class with the names of
all fields. -/
theorem exists_call_of_run {classes : Classes} {fuel : Nat} {content flag value : Value}
    {values : List Value} {heap after : Heap} {category : Text}
    (hrun : (evaluate (constructorFrame classes declaration fuel content flag values)
      (constructorTerm declaration category)).run heap = (.ok value, after)) :
    ∃ named between, named.map Prod.fst = baseField :: extraNames declaration ∧
      (callValue classes (.messageClass declaration.name) { named }).run between =
        (.ok value, after) := by
  rw [constructorTerm, evaluate, Stateful.run_bind_ok _
    (run_evaluate_name (by decide) (meaning?_cls fuel) heap)] at hrun
  obtain ⟨named, between, hnamed, hcall⟩ := Stateful.run_bind_eq_ok hrun
  have hnames := names_of_evaluateNamed hnamed
  rw [List.map_cons, List.map_map] at hnames
  have hfirst : (extraNames declaration).map (Prod.fst ∘ fun name => (name, Term.name name)) =
      extraNames declaration := List.map_id _
  rw [hfirst] at hnames
  exact ⟨named, between, hnames, hcall⟩

/-- The names of a class whose constructor has made a message are public. -/
theorem public_of_run {classes : Classes} (hderive : declaration.derive = .ok derivation)
    (hclass : declaration.name.dropWhile (· = '_') ≠ [])
    (hvisible : find? classes declaration.name = some (.ofDerivation derivation))
    {fuel : Nat} {content flag value : Value} {values : List Value} {heap after : Heap}
    (hrun : (evaluate (constructorFrame classes declaration fuel content flag values)
      (constructorTerm declaration derivation.category)).run heap = (.ok value, after)) :
    (∀ name ∈ declaration.fieldNames, isPrivate name = false) ∧
      (MessageClass.ofDerivation derivation).fields.findSome?
        (List.lookup · fixedMembers) = none := by
  obtain ⟨-, -, -, hdeclaration, -⟩ := Declaration.derive_eq_ok_iff.mp hderive
  obtain ⟨named, between, hnames, hcall⟩ := exists_call_of_run hrun
  rw [callValue, hvisible] at hcall
  exact public_of_makeMessage hclass hdeclaration hnames hcall

theorem map_fst_messageAttributes (base : Value) : ∀ (names : List Text) (values : List Value),
    (messageAttributes base names values).map Prod.fst = names
  | [], _ => rfl
  | name :: rest, values => by
      rw [messageAttributes]
      split <;> rw [List.map_cons, map_fst_messageAttributes base rest]

/-- The promised message stores what its class stores, so that the class has all
fields of the declaration. -/
theorem stored_of_run {classes : Classes} {category : Text} {made : MessageClass}
    (hvisible : find? classes declaration.name = some made) {fuel : Nat}
    {content flag value : Value} {values : List Value} {heap : Heap}
    (hrun : (evaluate (constructorFrame classes declaration fuel content flag values)
      (constructorTerm declaration category)).run heap =
        (.ok value, withMessage heap declaration type content flag values)) :
    made.stored = declaration.fieldNames := by
  obtain ⟨named, between, -, hcall⟩ := exists_call_of_run hrun
  rw [callValue, hvisible] at hcall
  rcases run_makeMessage_cases made { named } with ⟨fault, hfault⟩ | ⟨attributes, hbind, hmade⟩
  · cases (hfault between).symm.trans hcall
  · -- the message lies behind all else, in the heap that is promised as in the one that is made
    have hheap := congrArg (fun result => result.2.getLast?) ((hmade between).symm.trans hcall)
    simp only [withMessage, List.getLast?_append, List.getLast?_cons_cons,
      List.getLast?_singleton, Option.some_or, Option.some.injEq, Cell.object.injEq] at hheap
    rw [← MessageClass.map_fst_of_bind hbind, hheap.2, map_fst_messageAttributes]

/-- If the constructor works on no values at all, its names are its own. -/
theorem names_of_run {classes : Classes} (hderive : declaration.derive = .ok derivation)
    (hclass : declaration.name.dropWhile (· = '_') ≠ [])
    (hvisible : find? classes declaration.name = some (.ofDerivation derivation)) {fuel : Nat}
    {value : Value} {after : Heap}
    (hrun : (evaluate (constructorFrame classes declaration fuel .none .none (noValues declaration))
      (constructorTerm declaration derivation.category)).run [] = (.ok value, after)) :
    (∀ name ∈ declaration.fieldNames, isPrivate name = false) ∧
      (∀ name ∈ declaration.fieldNames, name ∉ capturedNames) ∧
      (MessageClass.ofDerivation derivation).fields.findSome?
        (List.lookup · fixedMembers) = none := by
  obtain ⟨hpublic, hkept⟩ := public_of_run hderive hclass hvisible hrun
  rw [constructorTerm, evaluate, Stateful.run_bind_ok _
    (run_evaluate_name (by decide) (meaning?_cls fuel) [])] at hrun
  obtain ⟨named, between, hnamed, -⟩ := Stateful.run_bind_eq_ok hrun
  refine ⟨hpublic, fun name hname hcaptured => ?_, hkept⟩
  have hpublic' : ∀ name ∈ extraNames declaration, isPrivate name = false :=
    fun name hname => hpublic name (mem_extraNames.mp hname).1
  have hextra : name ∈ extraNames declaration := by
    refine mem_extraNames.mpr ⟨hname, ?_⟩
    rintro rfl
    exact absurd hcaptured (by decide)
  have hmeaning := meaning?_noValues hderive hpublic' hextra classes fuel
  -- the base record is made first, so that either name is asked for
  rw [evaluateNamed] at hnamed
  obtain ⟨base, middle, hbase, -⟩ := Stateful.run_bind_eq_ok hnamed
  rw [newBase, evaluate] at hbase
  obtain ⟨callee, state, hcallee, hbase⟩ := Stateful.run_bind_eq_ok hbase
  obtain ⟨given, state', hgiven, hconstruct⟩ := Stateful.run_bind_eq_ok hbase
  rcases List.mem_cons.mp hcaptured with rfl | henum
  · rw [run_evaluate_name (by decide) hmeaning] at hcallee
    cases hcallee
    cases hconstruct
  · obtain rfl := List.mem_singleton.mp henum
    have hmem : (("message_type" : Text), Term.member (.name messageTypeEnum) derivation.category) ∈
        [(("content" : Text), Term.name "content"), ("example", .name "example"),
          ("message_type", .member (.name messageTypeEnum) derivation.category),
          ("additional_kwargs", .emptyTable), ("response_metadata", .emptyTable),
          ("id", .none), ("name", .none)] :=
      List.mem_cons_of_mem _ (List.mem_cons_of_mem _ (List.mem_cons_self ..))
    obtain ⟨state₁, member, state₂, hmember⟩ := run_of_mem_evaluateNamed hgiven hmem
    rw [evaluate, Stateful.run_bind_ok _ (run_evaluate_name (by decide) hmeaning state₁)] at hmember
    cases hmember

/-- A class that can be made and that has made a message has usable names, if
they do not capture what its constructors use. -/
theorem usableNames_of_made (hdeclaration : derivation.declaration = declaration)
    (hfault : (MessageClass.ofDerivation derivation).fault? = none)
    (hpublic : ∀ name ∈ declaration.fieldNames, isPrivate name = false)
    (hcaptured : ∀ name ∈ declaration.fieldNames, name ∉ capturedNames)
    (hkept : (MessageClass.ofDerivation derivation).fields.findSome?
      (List.lookup · fixedMembers) = none) :
    UsableNames declaration.fieldNames ∧ declaration.fieldNames.Nodup := by
  have hfields : (MessageClass.ofDerivation derivation).fields = declaration.fieldNames := by
    rw [MessageClass.ofDerivation, hdeclaration]
    exact map_privateName_of_public _ hpublic
  rw [fault?_eq_none_iff rfl, hfields] at hfault
  obtain ⟨⟨hconstant, hnodup⟩, hchangeable, hlast, hself⟩ := hfault
  rw [hfields, List.findSome?_eq_none_iff] at hkept
  refine ⟨⟨hpublic, hcaptured, fun name hname hmem => ?_, hself, hlast⟩, hnodup⟩
  rw [keptNames, List.cons_append, List.mem_cons, List.mem_append] at hmem
  rcases hmem with rfl | hmem | hmem
  · exact hconstant hname
  · exact hchangeable name hname hmem
  · obtain ⟨member, hmember, rfl⟩ := List.mem_map.mp hmem
    have hlookup := List.lookup_eq_none_iff.mp (hkept _ hname) member hmember
    simp at hlookup

end Names

/-! ## Exactly the usable names work -/

theorem find?_single {type : MessageClass} {name : Text} :
    find? [type] name = if type.name = name then some type else none := by
  rw [find?, List.reverse_singleton, List.find?_singleton]
  simp only [decide_eq_true_iff]

/-- The constructor of an accepted declaration with distinct fields works for
all arguments if its fields have usable names, and only then. The module must be
valid, and all annotations be taken for those of fields. -/
theorem constructorWorks_iff_usableNames {declaration : Declaration} {derivation : Derivation}
    {type : MessageType} (surroundings : Surroundings) (path : Text) (imports : List Text)
    (hderive : declaration.derive = .ok derivation) (hnodup : declaration.fieldNames.Nodup)
    (htype : MessageType.ofName? derivation.category = some type)
    (hkeeps : KeepsUsedNames surroundings
      (moduleImports surroundings.characters (soleFile path imports declaration))) :
    ConstructorWorks surroundings path imports declaration type ↔
      hasValidModule surroundings.characters (soleFile path imports declaration) = true ∧
        TakesAllFields surroundings (soleFile path imports declaration) declaration ∧
        UsableNames declaration.fieldNames := by
  obtain ⟨-, -, -, hdeclaration, -⟩ := Declaration.derive_eq_ok_iff.mp hderive
  obtain ⟨hclass, hbase, henum⟩ := typeName_plain type (typeName_cases hderive htype).2
  have hname : (MessageClass.ofDerivation derivation).name = declaration.name := by
    rw [MessageClass.ofDerivation, hdeclaration]
  have hvisible : ∀ pseudo, find? [(MessageClass.ofDerivation derivation).taking pseudo]
      declaration.name = some ((MessageClass.ofDerivation derivation).taking pseudo) := by
    intro pseudo
    rw [find?_single, MessageClass.taking, hname, if_pos rfl]
  constructor
  · rintro ⟨classes, hclasses, hworks⟩
    obtain ⟨hvalid, hfault, rfl⟩ := (executed?_soleFile hderive).mp hclasses.made
    have hlength : (noValues declaration).length = (extraFields declaration.fields).length :=
      List.length_replicate
    obtain ⟨pseudo, hpseudo⟩ : ∃ pseudo,
        soleClass surroundings (soleFile path imports declaration) derivation =
          (MessageClass.ofDerivation derivation).taking pseudo := exists_taking_readClass
    have hsole := hvisible pseudo
    have hrun := hworks [] .none .none (noValues declaration) hlength
    rw [hpseudo, run_newWithExample hdeclaration hsole hlength] at hrun
    rw [← hpseudo] at hsole hrun
    have htakes : TakesAllFields surroundings (soleFile path imports declaration)
        derivation.declaration := by
      refine reads_none_of_length ((congrArg List.length (stored_of_run hsole hrun)).trans ?_)
      rw [Declaration.fieldNames, List.length_map, hdeclaration]
    rw [soleClass_eq_self htakes] at hfault hrun hsole
    rw [hdeclaration] at htakes
    obtain ⟨hpublic, hcaptured, hkept⟩ := names_of_run hderive hclass hsole hrun
    exact ⟨hvalid, htakes, (usableNames_of_made hdeclaration hfault hpublic hcaptured hkept).1⟩
  · rintro ⟨hvalid, htakes, husable⟩
    have hfields := fields_ofDerivation hdeclaration husable
    have hfault : (MessageClass.ofDerivation derivation).fault? = none := by
      rw [fault?_eq_none_iff rfl, hfields]
      refine ⟨⟨fun h => husable.notKept _ h (List.mem_cons_self ..), hnodup⟩,
        fun name hname hmem => husable.notKept name hname ?_, husable.defaultsLast, husable.oneSelf⟩
      exact List.mem_append_left _ (List.mem_cons_of_mem _ hmem)
    refine ⟨[.ofDerivation derivation], ⟨hkeeps, (executed?_soleFile hderive).mpr ?_⟩,
      fun heap content flag values hlength => ?_⟩
    · have hall : TakesAllFields surroundings (soleFile path imports declaration)
          derivation.declaration := by rwa [hdeclaration]
      rw [soleClass_eq_self hall]
      exact ⟨hvalid, hfault, rfl⟩
    · have hsole : find? [MessageClass.ofDerivation derivation] declaration.name =
          some (.ofDerivation derivation) := hvisible []
      rw [run_newWithExample hdeclaration hsole hlength]
      refine run_constructorTerm hderive hnodup htype husable hsole ?_ ?_ hlength _ heap
      · rw [find?_single, hname, if_neg hbase]
      · rw [find?_single, hname, if_neg henum]

/-- A message with a field that has the name of the enumeration. -/
def capturingDeclaration : Declaration :=
  { name := "HumanMessage"
    fields := [⟨baseField, baseRecord⟩, ⟨messageTypeEnum, "str"⟩] }

theorem capturingDeclaration_fails :
    capturingDeclaration.fieldNames.Nodup ∧
      KeepsUsedNames .plain
        (moduleImports Source.namelessCharacters (soleFile "chat.py" [] capturingDeclaration)) ∧
      ¬ ConstructorWorks .plain "chat.py" [] capturingDeclaration .human := by
  have hderive : capturingDeclaration.derive = .ok
      { declaration := capturingDeclaration, category := "Human", role := .derived "Human" } := by
    rw [Declaration.derive_eq_ok_iff]
    decide +kernel
  have hnodup : capturingDeclaration.fieldNames.Nodup := by decide +kernel
  have hkeeps : KeepsUsedNames .plain
      (moduleImports Source.namelessCharacters (soleFile "chat.py" [] capturingDeclaration)) := by
    unfold KeepsUsedNames
    decide +kernel
  refine ⟨hnodup, hkeeps, fun hworks => ?_⟩
  obtain ⟨-, -, husable⟩ := (constructorWorks_iff_usableNames .plain "chat.py" [] hderive hnodup
    (by decide) hkeeps).mp hworks
  exact husable.notCaptured messageTypeEnum (by decide +kernel) (by decide +kernel)

end MessageForge.Session
