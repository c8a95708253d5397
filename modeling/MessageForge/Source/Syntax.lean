import MessageForge.Number.Binary64
import MessageForge.Text.Basic

/-!
# Syntax

The syntax trees of declaration files. Expressions are complete, since
annotations are printed from them; of the statements only those are kept that
a declaration can be made of.
-/

namespace MessageForge.Source

/-- Literal text is a list of code points, which may include surrogates. -/
inductive Literal where
  | none
  | truth (value : Bool)
  | ellipsis
  | integer (value : Nat)
  | real (value : Binary64)
  | imaginary (value : Binary64)
  | text (codes : List Nat) (marked : Bool)
  | bytes (values : List Nat)
  deriving DecidableEq, Repr

inductive UnaryOp where
  | not | plus | minus | invert
  deriving DecidableEq, Repr

inductive BinaryOp where
  | bitOr | bitXor | bitAnd | shiftLeft | shiftRight | add | subtract
  | multiply | divide | floorDivide | modulo | matrix | power
  deriving DecidableEq, Repr

inductive BoolOp where
  | all | any
  deriving DecidableEq, Repr

inductive CompareOp where
  | equal | notEqual | less | lessEqual | greater | greaterEqual
  | same | notSame | within | notWithin
  deriving DecidableEq, Repr

mutual

inductive Expr where
  | name (id : Text)
  | literal (value : Literal)
  | formatted (pieces : List Piece)
  | attribute (value : Expr) (name : Text)
  | subscript (value index : Expr)
  | slice (lower upper step : Option Expr)
  | call (callee : Expr) (arguments : List Expr) (keywords : List Argument) (line : Nat)
  | starred (value : Expr)
  | tuple (items : List Expr)
  | list (items : List Expr)
  | set (items : List Expr)
  | dict (items : List DictItem)
  | unary (op : UnaryOp) (operand : Expr)
  | binary (op : BinaryOp) (left right : Expr)
  | boolean (op : BoolOp) (operands : List Expr)
  | compare (left : Expr) (rest : List Comparison)
  | conditional (test body alternative : Expr)
  | lambda (parameters : List LambdaParameter) (body : Expr)
  | generator (item : Expr) (clauses : List Clause)
  | listOf (item : Expr) (clauses : List Clause)
  | setOf (item : Expr) (clauses : List Clause)
  | dictOf (key value : Expr) (clauses : List Clause)
  | await (value : Expr)
  | yield (value : Option Expr)
  | yieldFrom (value : Expr)
  | named (target value : Expr)

/-- A part of a formatted text: characters, or a value with its conversion and
possibly a specification. -/
inductive Piece where
  | codes (codes : List Nat)
  | value (value : Expr) (conversion : Option Char)
  | formattedValue (value : Expr) (conversion : Option Char) (spec : List Piece)

/-- An argument behind the positional ones. -/
inductive Argument where
  | keyword (name : Text) (value : Expr)
  | spread (value : Expr)

inductive DictItem where
  | pair (key value : Expr)
  | spread (value : Expr)

inductive Comparison where
  | mk (op : CompareOp) (right : Expr)

/-- A parameter of a lambda or one of the two separators between kinds of
parameters. -/
inductive LambdaParameter where
  | plain (name : Text)
  | default (name : Text) (value : Expr)
  | positionalEnd
  | keywordStart
  | rest (name : Text)
  | keywordRest (name : Text)

inductive Clause where
  | mk (isAsync : Bool) (target source : Expr) (conditions : List Expr)

end

instance : Inhabited Expr := ⟨.literal .none⟩

/-- A dotted or plain name with the name it is bound to, if that is another. -/
structure Alias where
  name : Text
  asName : Option Text := none
  deriving DecidableEq, Repr

inductive Node where
  | imports (names : List Alias)
  | importsFrom (level : Nat) (module : Option Text) (names : List Alias)
  | classDef (name : Text) (decorators bases : List Expr) (keywords : List Argument)
      (body : List (Nat × Node))
  | annotated (target annotation : Expr) (value : Option Expr)
  | expression (value : Expr)
  | pass
  | other

/-- A statement with the line on which it begins. -/
abbrev Stmt := Nat × Node

end MessageForge.Source
