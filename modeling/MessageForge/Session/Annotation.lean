import MessageForge.Source.Imports
import MessageForge.Text.Digit
import MessageForge.Text.Identifier

/-!
# Annotations of fields

A dataclass takes some annotated names for no fields of its objects: class
variables, values that only its initializer gets, and the marker behind which
fields are given by keyword. Annotations are texts to it, of which it reads the
first word, or the second one behind a dot, and asks what the module has under
this name. What imported names lead to is for their modules to say.
-/

namespace MessageForge.Session

open Source

/-- What an annotated name of a dataclass can be instead of a field. -/
inductive PseudoField where
  | classVariable
  | initializerOnly
  | keywordMarker
  deriving DecidableEq, Repr

namespace PseudoField

/-- The module that has it. -/
def home : PseudoField → Text
  | .classVariable => "typing"
  | .initializerOnly | .keywordMarker => "dataclasses"

def ownName : PseudoField → Text
  | .classVariable => "ClassVar"
  | .initializerOnly => "InitVar"
  | .keywordMarker => "KW_ONLY"

end PseudoField

/-- What there is to import, and the names of characters. -/
structure Surroundings where
  characters : CharacterNames
  exports : Exports
  /-- What stands behind a name, if a dataclass makes a difference. -/
  pseudoField? : Referent → Option PseudoField
  /-- The path of the module behind a name. -/
  modulePath? : Referent → Option Text

/-- Modules that hold nothing but what they are known for. -/
def Surroundings.plain : Surroundings where
  characters := namelessCharacters
  exports _ _ := []
  pseudoField? referent :=
    [PseudoField.classVariable, .initializerOnly, .keywordMarker].find? fun kind =>
      referent = .member 0 (some kind.home) kind.ownName
  modulePath?
    | .module path => some path
    | .member .. => none

/-- The characters that can begin a name without being letters. -/
def nameSymbols : List Nat :=
  [0x1885, 0x1886, 0x2118, 0x212e]

/-- The letters and digits that a name can go on with, but for decimal digits. -/
def inwardLetters : List Nat :=
  [0xe33, 0xeb3, 0x1369, 0x136a, 0x136b, 0x136c, 0x136d, 0x136e, 0x136f, 0x1370, 0x1371, 0x19da,
    0xff9e, 0xff9f]

/-- Whether a character of a name belongs to a word: letters, digits and the
underscore do, marks do not. -/
def isWordCharacter (c : Char) : Bool :=
  (Text.isIdentifierStart c && !nameSymbols.contains c.toNat) || Text.isDecimalDigit c ||
    inwardLetters.contains c.toNat

/-- The word that an annotation is known by, and the one that owns it. -/
def leadingWords (hint : Text) : Option Text × Text :=
  let first := hint.takeWhile isWordCharacter
  match hint.dropWhile isWordCharacter with
  | '.' :: rest =>
      let second := rest.takeWhile isWordCharacter
      if first.isEmpty || second.isEmpty then (none, first) else (some first, second)
  | _ => (none, first)

/-- What a dataclass takes an annotation for in a module with these imports,
where classes of these names hide what is imported. -/
def pseudoField? (surroundings : Surroundings) (imports : List Import) (classNames : List Text)
    (hint : Text) : Option PseudoField := do
  let global? (name : Text) : Option Referent :=
    if classNames.contains name then none else meaning? surroundings.exports imports name
  match leadingWords hint with
  | (none, word) => surroundings.pseudoField? (← global? word)
  | (some owner, word) =>
      let path ← surroundings.modulePath? (← global? owner)
      let kind ← surroundings.pseudoField? (.member 0 (some path) word)
      if kind.home = path then some kind else none

end MessageForge.Session
