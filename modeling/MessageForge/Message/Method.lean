import MessageForge.Code.Layout

/-!
# Generated methods

The members of generated classes are built as terms and methods and written
out as lines in one place, so that their text and their behaviour have the
same source.
-/

namespace MessageForge

inductive Term where
  | name (name : Text)
  | member (owner : Term) (name : Text)
  | none
  | false
  | emptyTable
  | call (callee : Term) (arguments : List Term)
  | construct (callee : Term) (initializers : List (Text × Term))

inductive Statement where
  | give (value : Term)
  | assign (target value : Term)

structure Parameter where
  name : Text
  annotation : Text
  deriving DecidableEq, Repr

inductive MethodKind where
  | classMethod
  | instanceMethod
  | property
  deriving DecidableEq, Repr

structure Method where
  kind : MethodKind
  name : Text
  parameters : List Parameter := []
  returns : Option Text := Option.none
  body : List Statement

def Parameter.text (parameter : Parameter) : Text :=
  parameter.name ++ ": " ++ parameter.annotation

namespace Term

mutual

/-- A term on one line. Initializers have no form on one line, so that a
construction shows its callee alone. -/
def inline : Term → Text
  | .name id => id
  | .member owner id => owner.inline ++ "." ++ id
  | .none => "None"
  | .false => "False"
  | .emptyTable => "\x7b\x7d"
  | .call callee arguments =>
      callee.inline ++ "(" ++ Code.joinParameters (inlineAll arguments) ++ ")"
  | .construct callee _ => callee.inline

def inlineAll : List Term → List Text
  | [] => []
  | term :: rest => term.inline :: inlineAll rest

end

mutual

/-- The lines of a term: a construction stands with one initializer a line. -/
def lines : Term → List Text
  | .construct callee initializers => Code.newCall callee.inline (initializerTexts initializers)
  | .name id => [id]
  | .member owner id => [(Term.member owner id).inline]
  | .none => [Term.none.inline]
  | .false => [Term.false.inline]
  | .emptyTable => [Term.emptyTable.inline]
  | .call callee arguments => [(Term.call callee arguments).inline]

def initializerTexts : List (Text × Term) → List Text
  | [] => []
  | (field, value) :: rest =>
      (field ++ "=" ++ Text.joinLines value.lines) :: initializerTexts rest

end

end Term

/-- Puts a text before the first of several lines. -/
def prependFirst (front : Text) : List Text → List Text
  | [] => []
  | line :: rest => (front ++ line) :: rest

def Statement.lines : Statement → List Text
  | .give value => prependFirst "return " value.lines
  | .assign target value => prependFirst (target.inline ++ " = ") value.lines

def Method.lines (method : Method) : List Text :=
  let parameters := method.parameters.map Parameter.text
  let body := method.body.flatMap Statement.lines
  match method.kind with
  | .classMethod =>
      Code.newClassMethod method.name parameters (method.returns.getD "None") body
  | .instanceMethod => Code.newMethod method.name parameters method.returns body
  | .property =>
      Code.decorator "property" [] ::
        Code.newMethod method.name parameters method.returns body

def methodLines (methods : List Method) : List Text :=
  Code.separate (methods.map Method.lines)

end MessageForge
