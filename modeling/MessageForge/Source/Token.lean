import MessageForge.Source.Keyword
import MessageForge.Source.Syntax

/-!
# Tokens

A text is read as tokens that know the line on which they begin. Line ends and
changes of indentation are tokens too. What cannot be read ends the list with
a fault, so that the list always ends with the token `finish` or `fault`.
-/

namespace MessageForge.Source

inductive Symbol where
  | openParen | closeParen | openBracket | closeBracket | openBrace | closeBrace
  | comma | colon | dot | semicolon | ellipsis | arrow | assign | bind | tilde
  | binary (op : BinaryOp)
  | augmented (op : BinaryOp)
  | compare (op : CompareOp)
  | unknown
  deriving DecidableEq, Repr

/-- A literal of characters or bytes before its escapes are read. -/
structure StringToken where
  raw : Bool := false
  bytes : Bool := false
  formatted : Bool := false
  marked : Bool := false
  body : Text
  deriving DecidableEq, Repr

/-- A raised fault is reported wherever it stands in the text. A quiet fault
is reported only if reading reaches it; `opener` is then the line of the
innermost bracket that is still open. -/
inductive Fault where
  | raised (line : Nat)
  | quiet (opener : Option Nat) (atEnd : Bool)
  deriving DecidableEq, Repr

inductive TokenKind where
  | name (id : Text)
  | keyword (word : Keyword)
  | number (value : Literal)
  | string (value : StringToken)
  | symbol (symbol : Symbol)
  | newline
  | indent
  | dedent
  | finish
  | fault (fault : Fault)
  deriving DecidableEq, Repr

/-- `depth` is the number of brackets that are open behind the token. -/
structure Token where
  kind : TokenKind
  line : Nat
  depth : Nat := 0
  deriving DecidableEq, Repr

end MessageForge.Source
