import MessageForge.Draft
import MessageForge.Session.Annotation
import MessageForge.Session.Value
import MessageForge.Source.Scopes

/-!
# Classes

The classes of a generated module as they behave: annotated names in order, and
the very methods whose lines the module holds. Inside a class a name with two
leading underscores is a private one and gets the name of the class in front.
Some names have a meaning of their own in every class, so that not every class
that is written down can be made, and not every annotated name is a field.
-/

namespace MessageForge.Session

structure MessageClass where
  name : Text
  /-- All annotated names. -/
  fields : List Text
  methods : List Method
  /-- Those of them that are no fields of objects. -/
  pseudo : List (Text × PseudoField) := []

/-- The classes of a module. A later class hides an earlier one of its name. -/
abbrev Classes := List MessageClass

def find? (classes : Classes) (name : Text) : Option MessageClass :=
  classes.reverse.find? (·.name = name)

def isPrivate (name : Text) : Bool :=
  Text.startsWith "__" name && !Text.endsWith "__" name

/-- The name by which a private name is known outside. -/
def privateName (className name : Text) : Text :=
  let owner := className.dropWhile (· = '_')
  if isPrivate name && !owner.isEmpty then '_' :: (owner ++ name) else name

def MessageClass.method? (type : MessageClass) (name : Text) : Option Method :=
  type.methods.find? (·.name = name)

def MessageClass.ofDerivation (derivation : Derivation) : MessageClass :=
  let name := derivation.declaration.name
  { name, fields := derivation.declaration.fieldNames.map (privateName name)
    methods := derivation.members }

/-- The class of a definition is that of a declared type with a base alone. -/
def MessageClass.ofCategory (category : Text) : MessageClass :=
  { name := Category.typeName category, fields := [Vocabulary.baseField]
    methods := constructors [] category ++ mutators ++ interfaceMembers (.derived category) }

def MessageClass.ofEntry? : Entry → Option MessageClass
  | .declaration declaration =>
      match declaration.derive with
      | .ok derivation => some (.ofDerivation derivation)
      | .error _ => none
  | .definition definition =>
      match Category.normalize definition.category with
      | .ok category => some (.ofCategory category)
      | .error _ => none

/-- The attributes that every class shows because every object has them. -/
def objectNames : List Text :=
  ["__class__", "__delattr__", "__dir__", "__doc__", "__eq__", "__format__", "__ge__",
    "__getattribute__", "__getstate__", "__gt__", "__hash__", "__init__", "__init_subclass__",
    "__le__", "__lt__", "__ne__", "__new__", "__reduce__", "__reduce_ex__", "__repr__",
    "__setattr__", "__sizeof__", "__str__", "__subclasshook__"]

/-- The attributes that every class shows because it is a class. -/
def classNames : List Text :=
  ["__base__", "__bases__", "__basicsize__", "__call__", "__dataclass_params__",
    "__dictoffset__", "__flags__", "__instancecheck__", "__itemsize__", "__module__", "__mro__",
    "__name__", "__or__", "__prepare__", "__qualname__", "__ror__", "__subclasscheck__",
    "__subclasses__", "__text_signature__", "__weakref__", "__weakrefoffset__", "mro"]

/-- A field of such a name has the attribute of the class for its default. -/
def inheritedNames : List Text :=
  objectNames ++ classNames

/-- The attributes of every class that are no default for a field, because they
can be changed. -/
def changeableNames : List Text :=
  ["__annotations__", "__dict__"]

/-- The name that nothing can be assigned to. -/
def constantName : Text := "__debug__"

/-- What the made constructor calls its object, and what it does if that is
the name of a field. -/
def selfName : Text := "self"
def otherSelfName : Text := "__dataclass_self__"

/-- Why a class that is written down cannot be made. -/
inductive ClassFault where
  | grammar
  | value
  | type
  deriving DecidableEq, Repr

/-- Fields without a default do not come after those with one. -/
def defaultsComeLast (fields : List Text) : Bool :=
  (fields.dropWhile (!inheritedNames.contains ·)).all inheritedNames.contains

namespace MessageClass

/-- The fields that objects of the class have. -/
def stored (type : MessageClass) : List Text :=
  type.fields.filter fun name => type.pseudo.lookup name = none

/-- Whether the initializer has a parameter for an annotated name. -/
def isParameter (type : MessageClass) (name : Text) : Bool :=
  match type.pseudo.lookup name with
  | none | some .initializerOnly => true
  | some .classVariable | some .keywordMarker => false

def parameters (type : MessageClass) : List Text :=
  type.fields.filter type.isParameter

/-- The parameters that are in front of the marker. -/
def positional (type : MessageClass) : List Text :=
  (type.fields.takeWhile fun name => type.pseudo.lookup name ≠ some .keywordMarker).filter
    type.isParameter

/-- What can be wrong with single names, told in their order: one that can be
changed as the default of a field, or the marker for the second time. -/
def nameFault? (type : MessageClass) : (marked : Bool) → List Text → Option ClassFault
  | _, [] => none
  | marked, name :: rest =>
      match type.pseudo.lookup name with
      | none => if changeableNames.contains name then some .value else type.nameFault? marked rest
      | some .keywordMarker => if marked then some .type else type.nameFault? true rest
      | some .classVariable | some .initializerOnly => type.nameFault? marked rest

/-- Whether the initializer has to call its object something else. -/
def hasSelf (type : MessageClass) : Bool :=
  type.fields.contains selfName && type.pseudo.lookup selfName ≠ some .keywordMarker

/-- Whether no class can be written down with these names. -/
def isUngrammatical (type : MessageClass) : Bool :=
  type.fields.contains constantName || !decide type.fields.Nodup

def fault? (type : MessageClass) : Option ClassFault :=
  if type.isUngrammatical then some .grammar
  else
    match type.nameFault? false type.fields with
    | some fault => some fault
    | none =>
        if !defaultsComeLast type.positional then some .type
        else if type.hasSelf && type.parameters.contains otherSelfName then some .grammar
        else none

end MessageClass

/-- The classes that a file of declarations gives, if all of them can be made
and every annotated name is a field. -/
def classesOf? (file : DeclarationFile) : Option Classes := do
  let classes ← file.entries.mapM MessageClass.ofEntry?
  if classes.all (·.fault?.isNone) then return classes else none

/-! ## Execution of a module -/

/-- The annotated names of a class, as they are known outside, with what they
are annotated with. -/
def annotationsOf : Entry → List (Text × Text)
  | .declaration declaration =>
      declaration.fields.map fun field => (privateName declaration.name field.name, field.type)
  | .definition _ => [(Vocabulary.baseField, Vocabulary.baseRecord)]

/-- The class with other annotated names that are no fields. -/
def MessageClass.taking (type : MessageClass) (pseudo : List (Text × PseudoField)) : MessageClass :=
  { type with pseudo }

/-- The class of an entry for those who read its annotations like this. -/
def MessageClass.read (reading : Text → Option PseudoField) (entry : Entry)
    (type : MessageClass) : MessageClass :=
  type.taking ((annotationsOf entry).filterMap fun (name, hint) =>
    (reading hint).map (name, ·))

/-- Whether the generated module is a valid one: it can be read, and its
annotations can stay in it. -/
def hasValidModule (characters : Source.CharacterNames) (file : DeclarationFile) : Bool :=
  let (draft, refused) := (Draft.ofFile file).generateAll
  refused.isNone && (Source.parseModule characters draft.render).isOk &&
    file.entries.all fun entry =>
      (annotationsOf entry).all fun (_, hint) => Source.canAnnotate characters hint

/-- The imports of the generated module. -/
def moduleImports (characters : Source.CharacterNames) (file : DeclarationFile) :
    List Source.Import :=
  let lines := (Draft.ofFile file).generateAll.1.importLines
  match Source.parseModule characters (lines.flatMap (· ++ "\n")) with
  | .ok statements => Source.importsOf statements
  | .error _ => []

/-- Makes the classes of entries behind those that are made already. Their
annotations are read when they are made. -/
def makeClasses (surroundings : Surroundings) (imports : List Source.Import) (made : Classes) :
    List Entry → Except ClassFault Classes
  | [] => .ok made
  | entry :: rest =>
      match MessageClass.ofEntry? entry with
      | none => .error .grammar
      | some plain =>
          let reading := pseudoField? surroundings imports (made.map MessageClass.name)
          let type := plain.read reading entry
          match type.fault? with
          | some fault => .error fault
          | none => makeClasses surroundings imports (made ++ [type]) rest

/-- The classes that executing the module of a file leaves. A module that is
not valid is not executed at all. -/
def executed? (surroundings : Surroundings) (file : DeclarationFile) :
    Except ClassFault Classes :=
  if !hasValidModule surroundings.characters file ||
      (file.entries.filterMap MessageClass.ofEntry?).any MessageClass.isUngrammatical then
    .error .grammar
  else makeClasses surroundings (moduleImports surroundings.characters file) [] file.entries

def fieldNames (classes : Classes) : FieldNames
  | .base => baseFields
  | .message name => ((find? classes name).map MessageClass.stored).getD []

end MessageForge.Session
