import MessageForge.Source.Reader

/-!
# Operands

An expression as it is read: with the line on which it begins and, since
targets are read as expressions first, the line of the part that forbids it as
a target of an assignment or a deletion.
-/

namespace MessageForge.Source

structure Operand where
  expr : Expr
  line : Nat
  badTarget : Option Nat
  badDeletion : Option Nat

namespace Operand

/-- An expression that can stand on the left of an assignment. -/
def place (expr : Expr) (line : Nat) : Operand :=
  ⟨expr, line, none, none⟩

def value (expr : Expr) (line : Nat) : Operand :=
  ⟨expr, line, some line, some line⟩

def starred (operand : Operand) (line : Nat) : Operand :=
  ⟨.starred operand.expr, line, operand.badTarget, some line⟩

/-- A collection is a target if all of its items are. -/
def collect (build : List Expr → Expr) (items : List Operand) (line : Nat) : Operand :=
  ⟨build (items.map Operand.expr), line, items.findSome? Operand.badTarget,
    items.findSome? Operand.badDeletion⟩

def tuple (items : List Operand) (line : Nat) : Operand :=
  collect .tuple items line

/-- Parentheses move the beginning and nothing else. -/
def grouped (operand : Operand) (line : Nat) : Operand :=
  { operand with line }

def isStarred (operand : Operand) : Bool :=
  match operand.expr with
  | .starred _ => true
  | _ => false

/-- A single target is a name, an attribute or a subscript. -/
def isSingleTarget (operand : Operand) : Bool :=
  match operand.expr with
  | .name _ | .attribute _ _ | .subscript _ _ => true
  | _ => false

end Operand

/-- The points at which expressions are read within expressions. -/
inductive Rule where
  | expression
  | disjunction
  | inversion
  | bitOr
  | factor
  deriving DecidableEq, Repr

/-- A reader for each of them, for the parts of what is being read. -/
abbrev Parts := Rule → Reader Operand

end MessageForge.Source
