import MessageForge.Text.Lines

/-!
# Layout

Generated code is a list of lines. Blocks are indented by four spaces a level,
separated by single empty lines, and calls stand with one argument a line.
-/

namespace MessageForge.Code

def indentUnit : Text := "    "

/-- Empty lines stay empty, and a negative level indents by nothing. -/
def indent (levels : Int) (lines : List Text) : List Text :=
  let margin := Text.repeated levels.toNat indentUnit
  lines.map fun line => if line.isEmpty then [] else margin ++ line

def joinParameters (parameters : List Text) : Text :=
  Text.join ", " (parameters.filter (!·.isEmpty))

/-- A head with its parameters in parentheses, which are left out if there is
no parameter at all. -/
def withParameters (head : Text) (parameters : List Text) : Text :=
  if parameters.isEmpty then head else head ++ "(" ++ joinParameters parameters ++ ")"

def classHeader (name : Text) (parameters : List Text) : Text :=
  withParameters ("class " ++ name) parameters ++ ":"

def decorator (name : Text) (parameters : List Text) : Text :=
  withParameters ("@" ++ name) parameters

def placeholder : List Text :=
  ["..."]

def newFunction (name : Text) (parameters : List Text) (returnType : Option Text)
    (body : List Text) : List Text :=
  ("def " ++ name ++ "(" ++ joinParameters parameters ++ ") -> " ++
    returnType.getD "None" ++ ":") :: indent 1 body

def newMethod (name : Text) (parameters : List Text) (returnType : Option Text)
    (body : List Text) : List Text :=
  newFunction name ("self" :: parameters) returnType body

def newClassMethod (name : Text) (parameters : List Text) (returnType : Text)
    (body : List Text) : List Text :=
  decorator "classmethod" [] :: newFunction name ("cls" :: parameters) (some returnType) body

def newProperty (name returnType expression : Text) : List Text :=
  decorator "property" [] ::
    newMethod name [] (some returnType) ["return " ++ expression]

/-- The lines of an argument, with the comma behind the last one. -/
def argumentLines : List Text → List Text
  | [] => []
  | [line] => [line ++ ","]
  | line :: rest => line :: argumentLines rest

/-- An argument may itself be a call that spans several lines. -/
def newCall (callee : Text) (arguments : List Text) : List Text :=
  (callee ++ "(") ::
    (arguments.flatMap fun argument => indent 1 (argumentLines (Text.split '\n' argument))) ++
    [[')']]

/-- Blocks that are empty leave no trace. -/
def separate : List (List Text) → List Text
  | [] => []
  | block :: blocks =>
      let rest := separate blocks
      if block.isEmpty then rest
      else if rest.isEmpty then block
      else block ++ [] :: rest

end MessageForge.Code
