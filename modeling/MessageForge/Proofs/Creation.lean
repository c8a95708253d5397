import MessageForge.Proofs.Construction
import MessageForge.Proofs.Interchange

/-!
# Returned messages

Whatever a constructor is called with, by position or by name, an object that
it returns is a new message with a new base record and two new tables behind
all that there was, and its fields hold what its parameters have got. The short
constructor makes the same message as the full one with the flag off.
-/

namespace MessageForge

open Vocabulary

namespace Entry

/-- The category of the class that an entry gives, if it is accepted. -/
def category? : Entry → Option Text
  | .declaration d => d.derive.toOption.map Derivation.category
  | .definition d => (Category.normalize d.category).toOption

/-- The fields of the class that an entry gives. -/
def fieldNames : Entry → List Text
  | .declaration d => d.fieldNames
  | .definition _ => [baseField]

end Entry

namespace Session

/-! ## Arguments by position and by name -/

/-- What is given by name does not depend on what was given by position. -/
theorem giveByName_eq_ok {named : List (Text × Value)} : ∀ {names : List Text}
    {placed locals : Locals}, giveByName named names placed = .ok locals →
      ∃ values, values.length = names.length ∧
        ∀ other, giveByName named names other = .ok (other ++ names.zip values)
  | [], _, _, _ => ⟨[], rfl, fun other => by rw [List.zip_nil_left, List.append_nil]; rfl⟩
  | name :: rest, placed, locals, h => by
      rw [giveByName, List.foldlM_cons] at h
      cases hvalue : named.lookup name with
      | none => rw [hvalue] at h; cases h
      | some value =>
          rw [hvalue] at h
          have hgiven : giveByName named rest (placed ++ [(name, value)]) = .ok locals := h
          obtain ⟨values, hlength, hgive⟩ := giveByName_eq_ok hgiven
          refine ⟨value :: values, congrArg Nat.succ hlength, fun other => ?_⟩
          have hrest := hgive (other ++ [(name, value)])
          rw [List.append_assoc] at hrest
          rw [giveByName, List.foldlM_cons, hvalue]
          exact hrest

theorem zip_append_drop {names : List Text} : ∀ {front : List Value} (back : List Value),
    names.zip front ++ (names.drop (names.zip front).length).zip back =
      names.zip (front ++ back) := by
  induction names with
  | nil => exact fun _ => rfl
  | cons name rest ih =>
      intro front back
      cases front with
      | nil => rfl
      | cons value values => exact congrArg _ (ih back)

/-- A call with its object or class in front gives the first parameter that,
and the others what the call gives them without it. -/
theorem bind_push_eq_ok {first : Text} {names : List Text} {value : Value}
    {arguments : Arguments} {locals : Locals}
    (h : bind (first :: names) (arguments.push value) = .ok locals) :
    ∃ values, values.length = names.length ∧ bind names arguments = .ok (names.zip values) ∧
      locals = (first, value) :: names.zip values := by
  rw [bind, Arguments.push] at h
  dsimp only at h
  split at h
  · cases h
  · next hlength =>
      split at h
      · cases h
      · next hknown =>
          have hgive : giveByName arguments.named
              (names.drop (names.zip arguments.positional).length)
              ((first, value) :: names.zip arguments.positional) = .ok locals := h
          obtain ⟨values, hvalues, hall⟩ := giveByName_eq_ok hgive
          have hshort : ¬ names.length < arguments.positional.length := by simpa using hlength
          refine ⟨arguments.positional ++ values, ?_, ?_, ?_⟩
          · rw [List.length_append, hvalues, List.length_drop, List.length_zip]
            omega
          · rw [bind]
            dsimp only
            rw [if_neg hshort, if_neg]
            · have hrest := hall (names.zip arguments.positional)
              rw [zip_append_drop] at hrest
              exact hrest
            · rw [List.any_eq_true] at hknown ⊢
              rintro ⟨entry, hmem, hbad⟩
              refine hknown ⟨entry, hmem, ?_⟩
              -- a name that is wrong for the others is also wrong for all, the first included
              rw [List.zip_cons_cons, List.lookup_cons]
              by_cases hfirst : entry.1 = first
              · simp [hfirst]
              · have hne := beq_eq_false_iff_ne.mpr hfirst
                rw [hne, List.contains_cons, hne, Bool.false_or]
                exact hbad
          · have hrest := hall ((first, value) :: names.zip arguments.positional)
            rw [List.cons_append, zip_append_drop, hgive] at hrest
            exact Except.ok.inj hrest

/-! ## The full constructor -/

/-- A declaration of a message type whose class stands in a module and has in
its reach what its methods use: no class of the module and no field of its own
has such a name. -/
structure StandsIn (classes : Classes) (declaration : Declaration) (derivation : Derivation)
    (category : MessageType) : Prop where
  derive : declaration.derive = .ok derivation
  member : MessageType.ofName? derivation.category = some category
  visible : find? classes declaration.name = some (.ofDerivation derivation)
  possible : (MessageClass.ofDerivation derivation).fault? = none
  unhidden : ∀ name ∈ usedNames, find? classes name = none
  uncaptured : ∀ name ∈ declaration.fieldNames, name ∉ capturedNames

section Constructors

variable {classes : Classes} {declaration : Declaration} {derivation : Derivation}
  {category : MessageType}

theorem StandsIn.declaration_eq (h : StandsIn classes declaration derivation category) :
    derivation.declaration = declaration :=
  (Declaration.derive_eq_ok_iff.mp h.derive).2.2.2.1

theorem StandsIn.owner_ne_nil (h : StandsIn classes declaration derivation category) :
    declaration.name.dropWhile (· = '_') ≠ [] :=
  (typeName_plain category (typeName_cases h.derive h.member).2).1

theorem made_of_newWithExample (h : StandsIn classes declaration derivation category)
    {fuel : Nat} {arguments : Arguments} {heap after : Heap} {message : Value}
    (hrun : (access classes (fuel + 2) (.messageClass declaration.name) "new_with_example"
      (.call arguments)).run heap = (.ok message, after)) :
    (UsableNames declaration.fieldNames ∧ declaration.fieldNames.Nodup) ∧
      ∃ content flag values, values.length = (extraNames declaration).length ∧
        bind ("content" :: "example" :: extraNames declaration) arguments =
          .ok (("content", content) :: ("example", flag) ::
            (extraNames declaration).zip values) ∧
        message = .cell (heap.length + 3) ∧
        after = withMessage heap declaration category content flag values := by
  rw [access_newWithExample h.declaration_eq h.visible] at hrun
  cases hbind : bind (constructorNames declaration)
      (arguments.push (.messageClass declaration.name)) with
  | error fault => rw [hbind] at hrun; cases hrun
  | ok locals =>
      rw [hbind] at hrun
      obtain ⟨given, hlength, hgiven, rfl⟩ := bind_push_eq_ok hbind
      obtain ⟨content, rest, rfl⟩ := List.exists_cons_of_length_eq_add_one hlength
      obtain ⟨flag, values, rfl⟩ :=
        List.exists_cons_of_length_eq_add_one (Nat.succ.inj hlength)
      have hvalues : values.length = (extraNames declaration).length := by
        simpa using hlength
      have hframe : (evaluate (constructorFrame classes declaration fuel content flag values)
          (constructorTerm declaration derivation.category)).run heap =
          (.ok message, after) := by
        rw [constructorFrame, constructorNames, List.zip_cons_cons]
        exact hrun
      obtain ⟨hpublic, hkept⟩ := public_of_run h.derive h.owner_ne_nil h.visible hframe
      have hnames := usableNames_of_made h.declaration_eq h.possible hpublic h.uncaptured hkept
      have hfull : values.length = (extraFields declaration.fields).length := by
        rw [hvalues, extraNames, List.length_map]
      rw [run_constructorTerm h.derive hnames.2 h.member hnames.1 h.visible
        (h.unhidden _ (by decide)) (h.unhidden _ (by decide)) hfull] at hframe
      have hextra : (extraNames declaration).map (privateName declaration.name) =
          extraNames declaration :=
        map_privateName_of_public _ fun name hname => hpublic name (mem_extraNames.mp hname).1
      rw [hextra] at hgiven
      cases hframe
      exact ⟨hnames, content, flag, values, hvalues, hgiven, rfl, rfl⟩

/-! ## The short constructor -/

theorem Frame.meaning?_of_lookup {frame : Frame} {name : Text} {value : Value}
    (h : frame.locals.lookup name = some value) : frame.meaning? name = some value := by
  rw [Frame.meaning?, h]
  rfl

theorem run_evaluateAll_cons {frame : Frame} {term : Term} {rest : List Term} {value : Value}
    {values : List Value} {heap middle after : Heap}
    (hterm : (evaluate frame term).run heap = (.ok value, middle))
    (hrest : (evaluateAll frame rest).run middle = (.ok values, after)) :
    (evaluateAll frame (term :: rest)).run heap = (.ok (value :: values), after) := by
  rw [evaluateAll, Stateful.run_bind_ok _ hterm, Stateful.run_bind_ok _ hrest]
  rfl

/-- Names that are passed on one by one give the values that they stand for, if
no two of them are known by the same name in the class. -/
theorem run_evaluateAll_names {frame : Frame} {names : List Text} {values : List Value}
    (heap : Heap) (hlength : values.length = names.length)
    (hnodup : (names.map (privateName frame.className)).Nodup)
    (h : ∀ name ∈ names.map (privateName frame.className), frame.meaning? name =
      some (valueIn (names.map (privateName frame.className)) values name)) :
    (evaluateAll frame (names.map Term.name)).run heap = (.ok values, heap) := by
  induction names generalizing values with
  | nil =>
      cases values with
      | nil => rfl
      | cons value rest => cases hlength
  | cons name rest ih =>
      cases values with
      | nil => cases hlength
      | cons value values =>
          rw [List.map_cons] at hnodup h
          obtain ⟨hfresh, hrest⟩ := List.nodup_cons.mp hnodup
          have hvalue := h _ (List.mem_cons_self ..)
          rw [valueIn, List.zip_cons_cons, List.lookup_cons_self] at hvalue
          refine run_evaluateAll_cons (run_evaluate_known hvalue heap)
            (ih (Nat.succ.inj hlength) hrest fun other hother => ?_)
          have hne : other ≠ privateName frame.className name := fun heq => hfresh (heq ▸ hother)
          rw [← valueIn_cons_of_ne _ value values hne]
          exact h other (List.mem_cons_of_mem _ hother)

/-- The parameters of the short constructor, as they are known in the class. -/
def shortNames (declaration : Declaration) : List Text :=
  "cls" :: "content" :: (extraNames declaration).map (privateName declaration.name)

/-- What the short constructor gives. -/
def shortTerm (declaration : Declaration) : Term :=
  .call (.member (.name "cls") "new_with_example")
    (.name "content" :: .false :: (extraNames declaration).map Term.name)

theorem method?_new (derivation : Derivation) :
    (MessageClass.ofDerivation derivation).method? "new" =
      some (shortConstructor (extraFields derivation.declaration.fields)) := by
  show List.find? _ (shortConstructor _ :: _) = _
  rw [List.find?_cons_of_pos]
  exact decide_eq_true rfl

theorem access_new (hdeclaration : derivation.declaration = declaration)
    (hvisible : find? classes declaration.name = some (.ofDerivation derivation)) (fuel : Nat)
    (arguments : Arguments) :
    access classes (fuel + 1) (.messageClass declaration.name) "new" (.call arguments) =
    match bind (shortNames declaration) (arguments.push (.messageClass declaration.name)) with
    | .ok locals =>
        evaluate
          { classes, className := declaration.name, access := access classes fuel, locals }
          (shortTerm declaration)
    | .error fault => throw fault := by
  subst hdeclaration
  have hplain : privateName derivation.declaration.name "content" = "content" :=
    privateName_of_not_private _ (by decide)
  have hnames : ("cls" : Text) ::
      (shortConstructor (extraFields derivation.declaration.fields)).parameters.map
        (fun parameter => privateName derivation.declaration.name parameter.name) =
      shortNames derivation.declaration := by
    rw [shortConstructor, List.map_cons, hplain, shortNames, extraNames, List.map_map,
      List.map_map]
    rfl
  have hterm : (shortConstructor (extraFields derivation.declaration.fields)).body =
      [.give (shortTerm derivation.declaration)] := by
    rw [shortConstructor, shortTerm, extraNames, List.map_map]
    rfl
  rw [← hnames]
  exact access_classMethod hvisible (method?_new derivation) rfl hterm fuel arguments

/-- Where the short constructor runs with the arguments that it is given. -/
def shortFrame (classes : Classes) (declaration : Declaration) (fuel : Nat) (content : Value)
    (values : List Value) : Frame :=
  { classes, className := declaration.name, access := access classes (fuel + 2)
    locals := (shortNames declaration).zip (.messageClass declaration.name :: content :: values) }

/-- No two fields are known by the same name in a class that can be made. -/
theorem nodup_knownNames (hdeclaration : derivation.declaration = declaration)
    (hfault : (MessageClass.ofDerivation derivation).fault? = none) :
    ((extraNames declaration).map (privateName declaration.name)).Nodup := by
  have hfields := ((fault?_eq_none_iff rfl).mp hfault).1.2
  rw [MessageClass.ofDerivation, hdeclaration] at hfields
  rw [extraNames_eq]
  exact hfields.sublist (List.filter_sublist.map _)

/-- A name that does not begin with an underscore is known by itself only. -/
theorem eq_of_privateName_eq {className name known : Text} (hknown : known.head? ≠ some '_')
    (h : privateName className name = known) : name = known := by
  rw [privateName] at h
  split at h
  · subst h
    exact absurd rfl hknown
  · exact h

theorem not_mem_knownNames (hderive : declaration.derive = .ok derivation) (className : Text) :
    ("cls" : Text) ∉ (extraNames declaration).map (privateName className) ∧
      ("content" : Text) ∉ (extraNames declaration).map (privateName className) ∧
      ("example" : Text) ∉ (extraNames declaration).map (privateName className) := by
  have hfields : ∀ known : Text, known.head? ≠ some '_' →
      known ∈ (extraNames declaration).map (privateName className) →
      known ∈ declaration.fieldNames := by
    intro known hhead hmem
    obtain ⟨name, hname, hknown⟩ := List.mem_map.mp hmem
    obtain rfl := eq_of_privateName_eq hhead hknown
    exact (mem_extraNames.mp hname).1
  refine ⟨fun hmem => ?_, fun hmem => ?_, fun hmem => ?_⟩
  · exact (ne_of_mem_fieldNames hderive (hfields _ (by decide) hmem)).1 rfl
  · exact (ne_of_mem_fieldNames hderive (hfields _ (by decide) hmem)).2.1 rfl
  · exact (ne_of_mem_fieldNames hderive (hfields _ (by decide) hmem)).2.2 rfl

/-- The short constructor passes on its content, that the flag is off, and the
values of its fields as they are. -/
theorem run_shortArguments (hderive : declaration.derive = .ok derivation)
    (hfault : (MessageClass.ofDerivation derivation).fault? = none) (fuel : Nat) (content : Value)
    {values : List Value} (hvalues : values.length = (extraNames declaration).length)
    (heap : Heap) :
    (evaluateAll (shortFrame classes declaration fuel content values)
      (.name "content" :: .false :: (extraNames declaration).map Term.name)).run heap =
      (.ok (content :: .bool false :: values), heap) := by
  have hcontent : (shortFrame classes declaration fuel content values).meaning? "content" =
      some content := Frame.meaning?_of_lookup rfl
  have hfalse : (evaluate (shortFrame classes declaration fuel content values) .false).run heap =
      (.ok (.bool false), heap) := rfl
  have hdeclaration := (Declaration.derive_eq_ok_iff.mp hderive).2.2.2.1
  obtain ⟨hcls, hown, -⟩ := not_mem_knownNames hderive declaration.name
  refine run_evaluateAll_cons (run_evaluate_name (by decide) hcontent heap) <|
    run_evaluateAll_cons hfalse <| run_evaluateAll_names heap hvalues
      (nodup_knownNames hdeclaration hfault) fun name hname => ?_
  have hlength : values.length =
      ((extraNames declaration).map (privateName declaration.name)).length := by
    rw [hvalues, List.length_map]
  obtain ⟨value, hvalue⟩ := lookup_zip_isSome hlength hname
  have hne : name ≠ "cls" ∧ name ≠ "content" :=
    ⟨fun heq => hcls (heq ▸ hname), fun heq => hown (heq ▸ hname)⟩
  refine Frame.meaning?_of_lookup ?_
  show ((shortNames declaration).zip _).lookup name =
    some (valueIn ((extraNames declaration).map (privateName declaration.name)) values name)
  rw [shortNames, List.zip_cons_cons, List.lookup_cons, beq_eq_false_iff_ne.mpr hne.1,
    List.zip_cons_cons, List.lookup_cons, beq_eq_false_iff_ne.mpr hne.2, valueIn, hvalue]
  rfl

/-- With arguments that suit it, the short constructor calls the full one. -/
theorem run_access_new_of_bind
    (hderive : derivation.declaration.derive = .ok derivation)
    (hvisible : find? classes derivation.declaration.name = some (.ofDerivation derivation))
    (hfault : (MessageClass.ofDerivation derivation).fault? = none) {arguments : Arguments}
    {content : Value} {values : List Value}
    (hvalues : values.length = (extraNames derivation.declaration).length)
    (hshort : bind (shortNames derivation.declaration)
        (arguments.push (.messageClass derivation.declaration.name)) =
      .ok ((shortNames derivation.declaration).zip
        (.messageClass derivation.declaration.name :: content :: values)))
    (fuel : Nat) (heap : Heap) :
    (access classes (fuel + 3) (.messageClass derivation.declaration.name) "new"
        (.call arguments)).run heap =
      (access classes (fuel + 2) (.messageClass derivation.declaration.name) "new_with_example"
        (.call { positional := content :: .bool false :: values })).run heap := by
  have hcls : (shortFrame classes derivation.declaration fuel content values).meaning? "cls" =
      some (.messageClass derivation.declaration.name) :=
    Frame.meaning?_of_lookup List.lookup_cons_self
  have hcall : (evaluate (shortFrame classes derivation.declaration fuel content values)
        (shortTerm derivation.declaration)).run heap =
      (access classes (fuel + 2) (.messageClass derivation.declaration.name) "new_with_example"
        (.call { positional := content :: .bool false :: values })).run heap := by
    rw [shortTerm, evaluate, Stateful.run_bind_ok _ (run_evaluate_name (by decide) hcls heap),
      Stateful.run_bind_ok _ (run_shortArguments hderive hfault fuel content hvalues heap),
      privateName_of_not_private _ (by decide)]
    rfl
  rw [access_new rfl hvisible, hshort]
  exact hcall

/-- The short constructor returns what the full one does with the flag off. -/
theorem made_of_new (h : StandsIn classes declaration derivation category)
    {fuel : Nat} {arguments : Arguments} {heap after : Heap} {message : Value}
    (hrun : (access classes (fuel + 3) (.messageClass declaration.name) "new"
      (.call arguments)).run heap = (.ok message, after)) :
    (UsableNames declaration.fieldNames ∧ declaration.fieldNames.Nodup) ∧
      ∃ content values, values.length = (extraNames declaration).length ∧
        bind ("content" :: extraNames declaration) arguments =
          .ok (("content", content) :: (extraNames declaration).zip values) ∧
        message = .cell (heap.length + 3) ∧
        after = withMessage heap declaration category content (.bool false) values := by
  obtain rfl := h.declaration_eq
  cases hbind : bind (shortNames derivation.declaration)
      (arguments.push (.messageClass derivation.declaration.name)) with
  | error fault => rw [access_new rfl h.visible, hbind] at hrun; cases hrun
  | ok locals =>
      obtain ⟨given, hlength, hgiven, rfl⟩ := bind_push_eq_ok hbind
      obtain ⟨content, values, rfl⟩ := List.exists_cons_of_length_eq_add_one hlength
      have hvalues : values.length = (extraNames derivation.declaration).length := by
        simpa using hlength
      rw [run_access_new_of_bind h.derive h.visible h.possible hvalues hbind] at hrun
      -- that the full constructor has returned something tells which names are in play
      obtain ⟨hnames, content', flag, values', hvalues', hgiven', hmessage, hafter⟩ :=
        made_of_newWithExample h hrun
      have hpublic : ∀ name ∈ extraNames derivation.declaration, isPrivate name = false :=
        fun name hname => hnames.1.isPublic name (mem_extraNames.mp hname).1
      have hpassed : bind ("content" :: "example" :: extraNames derivation.declaration)
          { positional := content :: .bool false :: values } =
          .ok (("content", content) :: ("example", .bool false) ::
            (extraNames derivation.declaration).zip values) := bind_positional (by simp [hvalues])
      rw [hpassed, Except.ok.injEq, List.cons.injEq, List.cons.injEq] at hgiven'
      obtain ⟨hcontent, hflag, hzip⟩ := hgiven'
      have hsame := congrArg (List.map Prod.snd) hzip
      rw [List.map_snd_zip (Nat.le_of_eq hvalues),
        List.map_snd_zip (Nat.le_of_eq hvalues')] at hsame
      cases hcontent
      cases hflag
      cases hsame
      rw [map_privateName_of_public _ hpublic] at hgiven
      exact ⟨hnames, content, values, hvalues, hgiven, hmessage, hafter⟩

/-! ## Either constructor -/

inductive Constructor where
  | new
  | newWithExample
  deriving DecidableEq, Repr

namespace Constructor

def method : Constructor → Text
  | .new => "new"
  | .newWithExample => "new_with_example"

/-- What a constructor takes, for the names of the fields besides the base. -/
def parameters (extra : List Text) : Constructor → List Text
  | .new => "content" :: extra
  | .newWithExample => "content" :: "example" :: extra

end Constructor

theorem accessMember_run (classes : Classes) (owner : Value) (name : Text) (how : Access)
    (heap : Heap) :
    (accessMember classes owner name how).run heap =
      (access classes (2 * heap.bound + 4) owner name how).run heap := by
  have hget : (get : Evaluation Heap).run heap = (.ok heap, heap) := rfl
  rw [accessMember, Stateful.run_bind_ok _ hget]

/-- What is known of the values that a constructor gives to its parameters: the
content, the flag or that it is off, and one value for each field. -/
structure Supplies (given : Locals) (content flag : Value) (names : List Text)
    (values : List Value) : Prop where
  length : values.length = names.length
  content : given.lookup ("content" : Text) = some content
  flag : (given.lookup ("example" : Text)).or (some (.bool false)) = some flag
  extra : ∀ name ∈ names, given.lookup name = some (valueIn names values name)

/-- A constructor returns a new message of the values that it gives to its
parameters, or nothing. -/
theorem made_of_constructor (h : StandsIn classes declaration derivation category)
    {constructor : Constructor} {arguments : Arguments} {heap after : Heap} {message : Value}
    (hrun : (accessMember classes (.messageClass declaration.name) constructor.method
      (.call arguments)).run heap = (.ok message, after)) :
    (UsableNames declaration.fieldNames ∧ declaration.fieldNames.Nodup) ∧
      ∃ given content flag values,
        bind (constructor.parameters (extraNames declaration)) arguments = .ok given ∧
        Supplies given content flag (extraNames declaration) values ∧
        message = .cell (heap.length + 3) ∧
        after = withMessage heap declaration category content flag values := by
  have hne : ∀ name ∈ extraNames declaration, name ≠ "content" ∧ name ≠ "example" :=
    fun name hname => (ne_of_mem_fieldNames h.derive (mem_extraNames.mp hname).1).2
  have hvalueIn : ∀ {values : List Value} {name : Text},
      values.length = (extraNames declaration).length → name ∈ extraNames declaration →
      ((extraNames declaration).zip values).lookup name =
        some (valueIn (extraNames declaration) values name) := by
    intro values name hlength hname
    obtain ⟨value, hvalue⟩ := lookup_zip_isSome hlength hname
    rw [valueIn, hvalue]
    rfl
  rw [accessMember_run] at hrun
  cases constructor with
  | new =>
      obtain ⟨hnames, content, values, hlength, hgiven, hmessage, hafter⟩ := made_of_new h hrun
      have hexample : ("example" : Text) ∉ extraNames declaration := fun hmem => (hne _ hmem).2 rfl
      refine ⟨hnames, _, content, .bool false, values, hgiven,
        ⟨hlength, List.lookup_cons_self, ?_, ?_⟩, hmessage, hafter⟩
      · rw [List.lookup_cons, beq_eq_false_iff_ne.mpr (by decide)]
        dsimp only
        rw [lookup_zip_eq_none values hexample]
        rfl
      · intro name hname
        rw [List.lookup_cons, beq_eq_false_iff_ne.mpr (hne name hname).1]
        exact hvalueIn hlength hname
  | newWithExample =>
      obtain ⟨hnames, content, flag, values, hlength, hgiven, hmessage, hafter⟩ :=
        made_of_newWithExample h hrun
      refine ⟨hnames, _, content, flag, values, hgiven,
        ⟨hlength, List.lookup_cons_self, ?_, fun name hname => ?_⟩, hmessage, hafter⟩
      · rw [List.lookup_cons, beq_eq_false_iff_ne.mpr (by decide), List.lookup_cons_self]
        rfl
      · rw [List.lookup_cons, beq_eq_false_iff_ne.mpr (hne name hname).1, List.lookup_cons,
          beq_eq_false_iff_ne.mpr (hne name hname).2]
        exact hvalueIn hlength hname

end Constructors

/-! ## The class of an entry -/

theorem fault?_eq_none_of_visible {file : DeclarationFile} {classes : Classes}
    {type : MessageClass} {name : Text} (hclasses : classesOf? file = some classes)
    (hvisible : find? classes name = some type) : type.fault? = none := by
  have hmem : type ∈ classes := List.mem_reverse.mp (List.mem_of_find?_eq_some hvisible)
  rw [classesOf?] at hclasses
  obtain ⟨made, -, hmade⟩ := Option.bind_eq_some_iff.mp hclasses
  split at hmade
  · next hall =>
      cases hmade
      exact Option.isNone_iff_eq_none.mp (List.all_eq_true.mp hall type hmem)
  · cases hmade

/-- The bare record that a definition stands for. -/
def bareRecord (category : Text) : Declaration :=
  { name := Category.typeName category, fields := [⟨baseField, baseRecord⟩] }

theorem ofDerivation_bareRecord (category : Text) :
    MessageClass.ofDerivation
      { declaration := bareRecord category, category, role := .derived category } =
    .ofCategory category := by
  have hplain : privateName (bareRecord category).name baseField = baseField :=
    privateName_of_not_private _ (by decide)
  have hfields : (bareRecord category).fieldNames = [baseField] := rfl
  have hextra : extraFields [⟨baseField, baseRecord⟩] = extraFields [] := by decide
  rw [MessageClass.ofDerivation, MessageClass.ofCategory, constructors, ← hextra]
  dsimp only
  rw [hfields, List.map_singleton, hplain]
  rfl

/-- The class of an accepted entry is the class of a declaration, for a
definition that of the bare record. -/
theorem exists_standsIn {classes : Classes} {entry : Entry} {type : MessageClass}
    {category : MessageType} (hpossible : type.fault? = none)
    (htype : MessageClass.ofEntry? entry = some type)
    (hcategory : entry.category? = some category.name)
    (hvisible : find? classes type.name = some type)
    (hunhidden : ∀ name ∈ usedNames, find? classes name = none)
    (huncaptured : ∀ name ∈ entry.fieldNames, name ∉ capturedNames) :
    ∃ declaration derivation, StandsIn classes declaration derivation category ∧
      declaration.name = type.name ∧ declaration.fieldNames = entry.fieldNames := by
  have hmember : MessageType.ofName? category.name = some category := by
    cases category <;> decide
  cases entry with
  | declaration declaration =>
      rw [MessageClass.ofEntry?] at htype
      rw [Entry.category?] at hcategory
      cases hderive : declaration.derive with
      | error diagnostic => rw [hderive] at htype; cases htype
      | ok derivation =>
          rw [hderive] at htype hcategory
          cases htype
          obtain ⟨-, -, -, hdeclaration, -⟩ := Declaration.derive_eq_ok_iff.mp hderive
          have hname : (MessageClass.ofDerivation derivation).name = declaration.name := by
            rw [MessageClass.ofDerivation, hdeclaration]
          have hsame : derivation.category = category.name := Option.some.inj hcategory
          rw [hname] at hvisible
          exact ⟨declaration, derivation, ⟨hderive, hsame ▸ hmember, hvisible, hpossible, hunhidden,
            huncaptured⟩, hname.symm, rfl⟩
  | definition definition =>
      rw [MessageClass.ofEntry?] at htype
      rw [Entry.category?] at hcategory
      cases hnormal : Category.normalize definition.category with
      | error complaint => rw [hnormal] at htype; cases htype
      | ok text =>
          rw [hnormal] at htype hcategory
          cases htype
          cases hcategory
          have hbare : (bareRecord category.name).IsBare category.name := ⟨rfl, rfl, rfl⟩
          have hne : category.name ≠ [] := by cases category <;> decide
          rw [← ofDerivation_bareRecord] at hvisible hpossible
          exact ⟨bareRecord category.name, _, ⟨hbare.derive hne, hmember, hvisible, hpossible,
            hunhidden, huncaptured⟩, rfl, rfl⟩

end Session

end MessageForge
