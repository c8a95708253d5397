import MessageForge.Text.Basic

/-!
# Keywords

The words that are no names. A field of such a name gets an underscore.
-/

namespace MessageForge.Source

inductive Keyword where
  | falseWord | noneWord | trueWord | andWord | asWord | assertWord | asyncWord
  | awaitWord | breakWord | classWord | continueWord | defWord | delWord | elifWord
  | elseWord | exceptWord | finallyWord | forWord | fromWord | globalWord | ifWord
  | importWord | inWord | isWord | lambdaWord | nonlocalWord | notWord | orWord
  | passWord | raiseWord | returnWord | tryWord | whileWord | withWord | yieldWord
  deriving DecidableEq, Repr

namespace Keyword

def all : List Keyword :=
  [Keyword.falseWord, .noneWord, .trueWord, .andWord, .asWord, .assertWord, .asyncWord,
    .awaitWord, .breakWord, .classWord, .continueWord, .defWord, .delWord, .elifWord,
    .elseWord, .exceptWord, .finallyWord, .forWord] ++
  [Keyword.fromWord, .globalWord, .ifWord, .importWord, .inWord, .isWord, .lambdaWord,
    .nonlocalWord, .notWord, .orWord, .passWord, .raiseWord, .returnWord, .tryWord,
    .whileWord, .withWord, .yieldWord]

def text : Keyword → Text
  | falseWord => "False"
  | noneWord => "None"
  | trueWord => "True"
  | andWord => "and"
  | asWord => "as"
  | assertWord => "assert"
  | asyncWord => "async"
  | awaitWord => "await"
  | breakWord => "break"
  | classWord => "class"
  | continueWord => "continue"
  | defWord => "def"
  | delWord => "del"
  | elifWord => "elif"
  | elseWord => "else"
  | exceptWord => "except"
  | finallyWord => "finally"
  | forWord => "for"
  | fromWord => "from"
  | globalWord => "global"
  | ifWord => "if"
  | importWord => "import"
  | inWord => "in"
  | isWord => "is"
  | lambdaWord => "lambda"
  | nonlocalWord => "nonlocal"
  | notWord => "not"
  | orWord => "or"
  | passWord => "pass"
  | raiseWord => "raise"
  | returnWord => "return"
  | tryWord => "try"
  | whileWord => "while"
  | withWord => "with"
  | yieldWord => "yield"

def ofText? (word : Text) : Option Keyword :=
  all.find? (·.text = word)

end Keyword

def avoidKeyword (name : Text) : Text :=
  if (Keyword.ofText? name).isSome then name ++ "_" else name

end MessageForge.Source
