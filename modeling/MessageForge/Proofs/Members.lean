import MessageForge.Message.Members
import MessageForge.Proofs.Lines

/-!
# Lines of members

Each member of a generated class has a head and a short body. Its lines are
given here for all names, types and fields that it can be made of, so that
what is said of generated classes need not look into their members again.
-/

namespace MessageForge

open Vocabulary

namespace Code

/-- Parameters are joined as they are if none of them is empty. -/
theorem joinParameters_eq_join {parameters : List Text} (h : ∀ p ∈ parameters, p ≠ []) :
    joinParameters parameters = Text.join ", " parameters := by
  rw [joinParameters, List.filter_eq_self.mpr]
  intro p hp
  cases p with
  | nil => exact absurd rfl (h [] hp)
  | cons c rest => rfl

theorem newline_not_mem_indent {lines : List Text} (h : ∀ line ∈ lines, '\n' ∉ line) {line : Text}
    (hline : line ∈ indent 1 lines) : '\n' ∉ line := by
  obtain ⟨inner, hinner, rfl⟩ := List.mem_map.mp hline
  split
  · exact List.not_mem_nil
  · rw [List.mem_append, not_or]
    exact ⟨by decide, h inner hinner⟩

theorem indent_one_cons {line : Text} (lines : List Text) (h : line ≠ []) :
    indent 1 (line :: lines) = (indentUnit ++ line) :: indent 1 lines := by
  have hempty : ¬ line.isEmpty = true := fun hem => h (List.isEmpty_iff.mp hem)
  show (if line.isEmpty then [] else _) :: _ = _
  rw [if_neg hempty]
  rfl

end Code

/-! ## Accessors and mutators -/

/-- An accessor as a property that gives a member of the base record. -/
def accessor (name type member : Text) : Method :=
  { kind := .property, name, returns := some type, body := [.give (onBase member)] }

def mutator (name : Text) (parameter : Parameter) (member : Text) : Method :=
  { kind := .instanceMethod, name, parameters := [parameter],
    body := [.assign (onBase member) (.name parameter.name)] }

theorem accessors_eq : accessors = accessorTable.map fun row =>
    accessor row.1 row.2.1 row.2.2 := rfl

theorem mutators_eq : mutators = mutatorTable.map fun row =>
    mutator row.1 row.2.1 row.2.2 := rfl

theorem parameter_text_ne_nil (parameter : Parameter) : parameter.text ≠ [] := by
  intro h
  have hlen := congrArg List.length h
  rw [Parameter.text, List.length_append, List.length_append] at hlen
  have hpos : 0 < (": " : Text).length := by decide
  simp only [List.length_nil] at hlen
  omega

theorem lines_accessor (name type member : Text) :
    (accessor name type member).lines =
      (["@property", "def " ++ name ++ "(self) -> " ++ type ++ ":",
        "    return self.base." ++ member] : List Text) := by
  show (["@" ++ "property",
    "def " ++ name ++ "(" ++ Code.joinParameters ["self"] ++ ") -> " ++ type ++ ":",
    Text.repeated 1 Code.indentUnit ++
      ("return " ++ ("self" ++ "." ++ "base" ++ "." ++ member))] : List Text) = _
  simp only [List.append_assoc, Code.indentUnit]
  repeat rw [Text.ofString_ofList]
  rfl

theorem lines_mutator (name : Text) (parameter : Parameter) (member : Text) :
    (mutator name parameter member).lines =
      (["def " ++ name ++ "(self, " ++ parameter.text ++ ") -> None:",
        "    self.base." ++ member ++ " = " ++ parameter.name] : List Text) := by
  have hjoin : Code.joinParameters ["self", parameter.text] = "self" ++ ", " ++ parameter.text :=
    Code.joinParameters_eq_join fun p hp => by
      rcases List.mem_pair.mp hp with rfl | rfl
      · decide
      · exact parameter_text_ne_nil parameter
  show (["def " ++ name ++ "(" ++ Code.joinParameters ["self", parameter.text] ++ ") -> " ++
      "None" ++ ":",
    Text.repeated 1 Code.indentUnit ++
      ("self" ++ "." ++ "base" ++ "." ++ member ++ " = " ++ parameter.name)] : List Text) = _
  rw [hjoin]
  simp only [List.append_assoc, Code.indentUnit]
  repeat rw [Text.ofString_ofList]
  rfl

theorem lines_roleAccessor (category : Text) :
    (roleAccessor (.derived category)).map Method.lines =
      [(["@property", "def role(self) -> str:", "    return str(self.base.message_type)"] :
        List Text)] := by
  show [(["@" ++ "property",
    "def " ++ "role" ++ "(" ++ Code.joinParameters ["self"] ++ ") -> " ++ "str" ++ ":",
    Text.repeated 1 Code.indentUnit ++ ("return " ++ ("str" ++ "(" ++
      Code.joinParameters ["self" ++ "." ++ "base" ++ "." ++ "message_type"] ++ ")"))] :
        List Text)] = _
  rw [Code.indentUnit]
  repeat rw [Text.ofString_ofList]
  rfl

/-! ## Constructors -/

theorem inlineAll_eq_map (terms : List Term) : Term.inlineAll terms = terms.map Term.inline := by
  induction terms with
  | nil => rfl
  | cons term rest ih => rw [Term.inlineAll, ih, List.map_cons]

def parameterTexts (extra : List Field) : List Text :=
  extra.map fun field => field.name ++ ": " ++ field.type

theorem parameterTexts_ne_nil {extra : List Field} {text : Text} (h : text ∈ parameterTexts extra) :
    text ≠ [] := by
  obtain ⟨field, -, rfl⟩ := List.mem_map.mp h
  exact parameter_text_ne_nil ⟨field.name, field.type⟩

theorem joinParameters_texts (front : List Text) (hfront : ∀ p ∈ front, p ≠ [])
    (extra : List Field) :
    Code.joinParameters (front ++ parameterTexts extra) =
      Text.join ", " (front ++ parameterTexts extra) :=
  Code.joinParameters_eq_join fun p hp =>
    (List.mem_append.mp hp).elim (hfront p) parameterTexts_ne_nil

theorem parameters_text_eq (extra : List Field) :
    (extra.map fieldParameter).map Parameter.text = parameterTexts extra :=
  List.map_map

/-- The parameters that the constructors have before those of the fields. -/
def shortParameters : List Text :=
  ["cls", "content: str"]

def fullParameters : List Text :=
  ["cls", "content: str", "example: bool"]

/-- What the short constructor passes on before the fields. -/
def passedArguments : List Text :=
  ["content", "False"]

theorem lines_classMethod (name : Text) (parameters : List Parameter) (body : List Statement) :
    ({ kind := .classMethod, name, parameters, returns := some "Self", body } : Method).lines =
      ("@classmethod" : Text) ::
        ("def " ++ name ++ "(" ++
          Code.joinParameters (("cls" : Text) :: parameters.map Parameter.text) ++ ") -> Self:") ::
        Code.indent 1 (body.flatMap Statement.lines) := by
  show ("@" ++ "classmethod" : Text) ::
    ("def " ++ name ++ "(" ++ Code.joinParameters (("cls" : Text) :: parameters.map Parameter.text) ++
      ") -> " ++ "Self" ++ ":") :: Code.indent 1 (body.flatMap Statement.lines) = _
  simp only [List.append_assoc]
  repeat rw [Text.ofString_ofList]
  rfl

theorem lines_shortConstructor {extra : List Field} (hnames : ∀ field ∈ extra, field.name ≠ []) :
    (shortConstructor extra).lines =
      (["@classmethod",
        "def new(" ++ Text.join ", " (shortParameters ++ parameterTexts extra) ++ ") -> Self:",
        "    return cls.new_with_example(" ++
          Text.join ", " (passedArguments ++ extra.map Field.name) ++ ")"] : List Text) := by
  have hfront : ("cls" : Text) :: Parameter.text ⟨"content", "str"⟩ :: parameterTexts extra =
      shortParameters ++ parameterTexts extra := by
    have hcontent : Parameter.text ⟨"content", "str"⟩ = ("content: str" : Text) := by decide
    rw [hcontent]
    rfl
  have hparameters := joinParameters_texts shortParameters (by decide) extra
  have hpassed : Code.joinParameters (passedArguments ++ extra.map Field.name) =
      Text.join ", " (passedArguments ++ extra.map Field.name) :=
    Code.joinParameters_eq_join fun p hp => by
      rcases List.mem_append.mp hp with hp | hp
      · exact (by decide : ∀ p ∈ passedArguments, p ≠ []) p hp
      · obtain ⟨field, hfield, rfl⟩ := List.mem_map.mp hp
        exact hnames field hfield
  have harguments : Term.inlineAll (.name "content" :: .false ::
      extra.map fun field => .name field.name) = passedArguments ++ extra.map Field.name := by
    rw [inlineAll_eq_map, List.map_cons, List.map_cons, List.map_map]
    rfl
  have hbody : ([Statement.give (.call (.member (.name "cls") "new_with_example")
      (.name "content" :: .false :: extra.map fun field => .name field.name))]).flatMap
        Statement.lines = [("return cls.new_with_example(" ++
          Text.join ", " (passedArguments ++ extra.map Field.name) ++ ")" : Text)] := by
    show [("return " ++ ("cls" ++ "." ++ "new_with_example" ++ "(" ++ Code.joinParameters
      (Term.inlineAll (.name "content" :: .false :: extra.map fun field => .name field.name)) ++
        ")") : Text)] = _
    rw [harguments, hpassed]
    simp only [List.append_assoc]
    repeat rw [Text.ofString_ofList]
    rfl
  rw [shortConstructor, lines_classMethod, hbody, List.map_cons, parameters_text_eq, hfront,
    hparameters, Code.indent_one_cons _ (by simp)]
  simp only [List.append_assoc, Code.indentUnit]
  repeat rw [Text.ofString_ofList]
  rfl

/-- What the base record of a new message is made of. -/
def baseArguments (category : Text) : List Text :=
  ["content=content", "example=example", "message_type=MessageType." ++ category,
    "additional_kwargs=\x7b\x7d", "response_metadata=\x7b\x7d", "id=None", "name=None"]

/-- The base record as the first initializer of a message. -/
def baseArgument (category : Text) : List Text :=
  ("base=BaseMessageFields(" : Text) ::
    Code.indent 1 ((baseArguments category).map Code.withComma) ++ [[')']]

/-- The same with the comma behind it. -/
def baseLines (category : Text) : List Text :=
  ("base=BaseMessageFields(" : Text) ::
    Code.indent 1 ((baseArguments category).map Code.withComma) ++ [[')', ',']]

def initializerText (field : Field) : Text :=
  field.name ++ "=" ++ field.name

/-- The construction of a message, whose first initializer is the base record. -/
def constructionLines (extra : List Field) (category : Text) : List Text :=
  ("return cls(" : Text) ::
    Code.indent 1 (baseLines category ++
      (extra.map initializerText).map Code.withComma) ++ [[')']]

theorem newline_not_mem_baseArguments {category : Text} (hcategory : '\n' ∉ category) :
    ∀ argument ∈ baseArguments category, '\n' ∉ argument := by
  have hmember : '\n' ∉ ("message_type=MessageType." ++ category : Text) := by
    rw [List.mem_append, not_or]
    exact ⟨by decide, hcategory⟩
  simp only [baseArguments, List.forall_mem_cons]
  exact ⟨by decide, by decide, hmember, by decide, by decide, by decide, by decide,
    List.forall_mem_nil _⟩

theorem lines_newBase {category : Text} (hcategory : '\n' ∉ category) :
    (newBase category).lines =
      (baseRecord ++ "(") ::
        Code.indent 1 ((baseArguments category).map Code.withComma) ++ [[')']] := by
  have htexts : (["content" ++ "=" ++ "content", "example" ++ "=" ++ "example",
      "message_type" ++ "=" ++ (messageTypeEnum ++ "." ++ category),
      "additional_kwargs" ++ "=" ++ "\x7b\x7d", "response_metadata" ++ "=" ++ "\x7b\x7d",
      "id" ++ "=" ++ "None", "name" ++ "=" ++ "None"] : List Text) = baseArguments category := by
    unfold baseArguments messageTypeEnum
    repeat rw [Text.ofString_ofList]
    rfl
  have hcall := Code.newCall_of_lines baseRecord _ (newline_not_mem_baseArguments hcategory)
  rw [← htexts] at hcall ⊢
  exact hcall

/-- The initializers of a message, each with its lines. -/
def initializerLines (extra : List Field) (category : Text) : List (List Text) :=
  baseArgument category :: extra.map fun field => [initializerText field]

theorem initializerTexts_extra (extra : List Field) :
    Term.initializerTexts (extra.map fun field => (field.name, .name field.name)) =
      extra.map initializerText := by
  induction extra with
  | nil => rfl
  | cons field rest ih =>
      rw [List.map_cons, Term.initializerTexts, ih]
      rfl

theorem initializerTexts_message {extra : List Field} {category : Text}
    (hcategory : '\n' ∉ category) :
    Term.initializerTexts ((baseField, newBase category) ::
        extra.map fun field => (field.name, .name field.name)) =
      (initializerLines extra category).map Text.joinLines := by
  have hfront : baseField ++ "=" ++ (baseRecord ++ "(") = ("base=BaseMessageFields(" : Text) := by
    decide
  have hbase : baseField ++ "=" ++ Text.joinLines (newBase category).lines =
      Text.joinLines (baseArgument category) := by
    rw [lines_newBase hcategory, List.cons_append, Text.append_joinLines, hfront]
    rfl
  rw [Term.initializerTexts, initializerTexts_extra, hbase, initializerLines, List.map_cons,
    List.map_map]
  rfl

theorem argumentLines_baseArgument (category : Text) :
    Code.argumentLines (baseArgument category) = baseLines category := rfl

theorem newline_not_mem_initializerLines {extra : List Field} {category : Text}
    (hcategory : '\n' ∉ category) (hnames : ∀ field ∈ extra, '\n' ∉ field.name) :
    ∀ lines ∈ initializerLines extra category, ∀ line ∈ lines, '\n' ∉ line := by
  intro lines hlines line hline
  rcases List.mem_cons.mp hlines with rfl | hlines
  · rcases List.mem_cons.mp hline with rfl | hline
    · decide
    · rcases List.mem_append.mp hline with hline | hline
      · refine Code.newline_not_mem_indent (fun text htext => ?_) hline
        obtain ⟨argument, hargument, rfl⟩ := List.mem_map.mp htext
        have hnone := newline_not_mem_baseArguments hcategory argument hargument
        rw [Code.withComma, List.mem_append, not_or]
        exact ⟨hnone, by decide⟩
      · obtain rfl := List.mem_singleton.mp hline
        decide
  · obtain ⟨field, hfield, rfl⟩ := List.mem_map.mp hlines
    obtain rfl := List.mem_singleton.mp hline
    have hname := hnames field hfield
    rw [initializerText, List.mem_append, List.mem_append, not_or, not_or]
    exact ⟨⟨hname, by decide⟩, hname⟩

theorem lines_construction {extra : List Field} {category : Text} (hcategory : '\n' ∉ category)
    (hnames : ∀ field ∈ extra, '\n' ∉ field.name) :
    (Term.construct (.name "cls") ((baseField, newBase category) ::
        extra.map fun field => (field.name, .name field.name))).lines =
      ("cls(" : Text) ::
        Code.indent 1 (baseLines category ++ (extra.map initializerText).map Code.withComma) ++
          [[')']] := by
  have hne : ∀ lines ∈ initializerLines extra category, lines ≠ [] := by
    intro lines hlines
    rcases List.mem_cons.mp hlines with rfl | hlines
    · exact List.cons_ne_nil _ _
    · obtain ⟨field, -, rfl⟩ := List.mem_map.mp hlines
      exact List.cons_ne_nil _ _
  have hlines : (initializerLines extra category).flatMap Code.argumentLines =
      baseLines category ++ (extra.map initializerText).map Code.withComma := by
    rw [initializerLines, List.flatMap_cons, argumentLines_baseArgument, List.flatMap_map,
      List.map_map, List.map_eq_flatMap]
    rfl
  have hcall := Code.newCall_joinLines "cls" (initializerLines extra category) hne
    (newline_not_mem_initializerLines hcategory hnames)
  rw [hlines, ← initializerTexts_message hcategory] at hcall
  exact hcall

theorem lines_fullConstructor {extra : List Field} {category : Text} (hcategory : '\n' ∉ category)
    (hnames : ∀ field ∈ extra, '\n' ∉ field.name) :
    (fullConstructor extra category).lines =
      ("@classmethod" : Text) ::
        ("def new_with_example(" ++
          Text.join ", " (fullParameters ++ parameterTexts extra) ++ ") -> Self:") ::
        Code.indent 1 (constructionLines extra category) := by
  have hfront : ("cls" : Text) :: Parameter.text ⟨"content", "str"⟩ ::
      Parameter.text ⟨"example", "bool"⟩ :: parameterTexts extra =
      fullParameters ++ parameterTexts extra := by
    have hcontent : Parameter.text ⟨"content", "str"⟩ = ("content: str" : Text) := by decide
    have hexample : Parameter.text ⟨"example", "bool"⟩ = ("example: bool" : Text) := by decide
    rw [hcontent, hexample]
    rfl
  have hparameters := joinParameters_texts fullParameters (by decide) extra
  have hreturn : "return " ++ "cls(" = ("return cls(" : Text) := by decide
  rw [fullConstructor, lines_classMethod, List.map_cons, List.map_cons, parameters_text_eq, hfront,
    hparameters, List.flatMap_singleton, Statement.lines, lines_construction hcategory hnames,
    List.cons_append, prependFirst, hreturn, constructionLines, List.cons_append]
  simp only [List.append_assoc]
  repeat rw [Text.ofString_ofList]
  rfl

/-! ## Rows of constructors and properties -/

/-- A property with a value on one line. -/
theorem lines_property (name type : Text) {value : Term} (h : value.lines = [value.inline]) :
    ({ kind := .property, name, returns := some type, body := [.give value] } : Method).lines =
      Code.newProperty name type value.inline := by
  rw [Method.lines, Code.newProperty]
  dsimp only
  rw [List.map_nil, List.flatMap_singleton, Statement.lines, h, prependFirst]

/-- All that messages show without being called are properties of this form. -/
theorem lines_interfaceMembers (shape : RoleShape) : ∀ method ∈ interfaceMembers shape,
    ∃ name type value, method.lines = Code.newProperty name type value := by
  intro method hmethod
  rcases List.mem_append.mp hmethod with hmethod | hmethod
  · rw [accessors_eq] at hmethod
    obtain ⟨row, -, rfl⟩ := List.mem_map.mp hmethod
    exact ⟨row.1, row.2.1, _, lines_property _ _ rfl⟩
  · cases shape with
    | stored field => cases hmethod
    | derived category =>
        obtain rfl := List.mem_singleton.mp hmethod
        exact ⟨roleField, "str", _, lines_property _ _ rfl⟩

/-- The short constructor of a record has the parameters of its fields, and
passes their names on. -/
theorem lines_shortConstructor_fields (fields : List Field) :
    (shortConstructor (extraFields fields)).lines =
      Code.newClassMethod "new" ("content: str" :: fieldParameters fields [baseField]) "Self"
        ["return cls.new_with_example(" ++ Code.joinParameters
          ("content" :: "False" :: fieldNames fields [baseField]) ++ ")"] := by
  have hcontent : Parameter.text ⟨"content", "str"⟩ = ("content: str" : Text) := by decide
  have harguments : Term.inlineAll (.name "content" :: .false ::
      (extraFields fields).map fun field => .name field.name) =
        ("content" : Text) :: "False" :: fieldNames fields [baseField] := by
    rw [inlineAll_eq_map, List.map_cons, List.map_cons, List.map_map]
    rfl
  have hcall : ("return " ++ ("cls" ++ "." ++ "new_with_example" ++ "(" : Text)) =
      "return cls.new_with_example(" := by decide
  have hbody : Statement.lines (.give (.call (.member (.name "cls") "new_with_example")
      (.name "content" :: .false :: (extraFields fields).map fun field => .name field.name))) =
        ["return cls.new_with_example(" ++ Code.joinParameters
          ("content" :: "False" :: fieldNames fields [baseField]) ++ ")"] := by
    show [("return " ++ ("cls" ++ "." ++ "new_with_example" ++ "(" ++ Code.joinParameters
      (Term.inlineAll (.name "content" :: .false ::
        (extraFields fields).map fun field => .name field.name)) ++ ")") : Text)] = _
    rw [harguments, ← hcall]
    simp only [List.append_assoc]
  rw [shortConstructor, Method.lines]
  dsimp only
  rw [List.map_cons, parameters_text_eq, List.flatMap_singleton, hcontent, hbody]
  rfl

/-- The full constructor of a record has the parameters of its fields behind its
own, and initializes the message with them behind the base record. -/
theorem lines_fullConstructor_fields (fields : List Field) (category : Text) :
    (fullConstructor (extraFields fields) category).lines =
      Code.newClassMethod "new_with_example"
        ("content: str" :: "example: bool" :: fieldParameters fields [baseField]) "Self"
        (prependFirst "return " (Code.newCall "cls"
          ((baseField ++ "=" ++ Text.joinLines (newBase category).lines) ::
            fieldInitializers fields [baseField]))) := by
  have hcontent : Parameter.text ⟨"content", "str"⟩ = ("content: str" : Text) := by decide
  have hexample : Parameter.text ⟨"example", "bool"⟩ = ("example: bool" : Text) := by decide
  have htexts : Term.initializerTexts ((baseField, newBase category) ::
      (extraFields fields).map fun field => (field.name, .name field.name)) =
        (baseField ++ "=" ++ Text.joinLines (newBase category).lines) ::
          fieldInitializers fields [baseField] := by
    rw [Term.initializerTexts, initializerTexts_extra]
    rfl
  rw [fullConstructor, Method.lines]
  dsimp only
  rw [List.map_cons, List.map_cons, parameters_text_eq, List.flatMap_singleton, hcontent, hexample,
    Statement.lines, Term.lines, htexts]
  rfl

end MessageForge
