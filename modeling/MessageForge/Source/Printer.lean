import MessageForge.Number.Shortest
import MessageForge.Source.Syntax
import MessageForge.Text.Quoted

/-!
# Printer

Expressions are printed in one canonical form: single spaces around binary
operators, parentheses only where the context binds tighter, literals in their
shortest form. Within formatted text no backslash may occur in the code of a
value, so that a few trees have no printed form.
-/

namespace MessageForge.Source

namespace Binding

/-! How tightly a context binds, from the loosest to the tightest. -/

def named : Nat := 1
def tuple : Nat := 2
def yield : Nat := 3
def test : Nat := 4
def any : Nat := 5
def all : Nat := 6
def not : Nat := 7
def compare : Nat := 8
def bitOr : Nat := 9
def bitXor : Nat := 10
def bitAnd : Nat := 11
def shift : Nat := 12
def arith : Nat := 13
def term : Nat := 14
def factor : Nat := 15
def power : Nat := 16
def await : Nat := 17
def atom : Nat := 18

def tighter (binding : Nat) : Nat :=
  min (binding + 1) atom

end Binding

def UnaryOp.text : UnaryOp → Text
  | .not => "not "
  | .plus => "+"
  | .minus => "-"
  | .invert => "~"

def UnaryOp.binding : UnaryOp → Nat
  | .not => Binding.not
  | _ => Binding.factor

def BinaryOp.text : BinaryOp → Text
  | .bitOr => "|"
  | .bitXor => "^"
  | .bitAnd => "&"
  | .shiftLeft => "<<"
  | .shiftRight => ">>"
  | .add => "+"
  | .subtract => "-"
  | .multiply => "*"
  | .divide => "/"
  | .floorDivide => "//"
  | .modulo => "%"
  | .matrix => "@"
  | .power => "**"

def BinaryOp.binding : BinaryOp → Nat
  | .bitOr => Binding.bitOr
  | .bitXor => Binding.bitXor
  | .bitAnd => Binding.bitAnd
  | .shiftLeft | .shiftRight => Binding.shift
  | .add | .subtract => Binding.arith
  | .power => Binding.power
  | _ => Binding.term

def BoolOp.text : BoolOp → Text
  | .all => "and"
  | .any => "or"

def BoolOp.binding : BoolOp → Nat
  | .all => Binding.all
  | .any => Binding.any

def CompareOp.text : CompareOp → Text
  | .equal => "=="
  | .notEqual => "!="
  | .less => "<"
  | .lessEqual => "<="
  | .greater => ">"
  | .greaterEqual => ">="
  | .same => "is"
  | .notSame => "is not"
  | .within => "in"
  | .notWithin => "not in"

def parens (text : Text) : Text :=
  '(' :: text ++ [')']

def brackets (text : Text) : Text :=
  '[' :: text ++ [']']

def braces (text : Text) : Text :=
  '\x7b' :: text ++ ['\x7d']

def parenthesizeIf (condition : Bool) (text : Text) : Text :=
  if condition then parens text else text

def commaList (texts : List Text) : Text :=
  Text.join ", " texts

/-- A single item keeps a trailing comma. -/
def tupleItems : List Text → Text
  | [item] => item ++ ","
  | items => commaList items

/-! ## Quotes of formatted text -/

def quotations : List Text :=
  ["'", "\"", "\"\"\"", "'''"]

/-- Line feeds and tabs are escaped only on demand. -/
def escapeFormatted (escapeSpace : Bool) (n : Nat) : Text :=
  if n = 0x0a then (if escapeSpace then "\\n" else ['\n'])
  else if n = 0x09 then (if escapeSpace then "\\t" else ['\t'])
  else if n = 0x0d then "\\r"
  else if n = 0x5c then "\\\\"
  else if isPrintable n then [Char.ofNat n]
  else Text.escapeCode n
where
  isPrintable (n : Nat) : Bool := Text.isPrintableCode n

def escapeLast (text : Text) : Text :=
  match text.reverse with
  | [] => []
  | last :: front => front.reverse ++ ['\\', last]

/-- The characters between the quotes of a literal and the quotations that may
stand around it: those that do not occur in it, first those that differ from
the last character. If there is none, all is escaped for a quote that the
literal form chooses. -/
def literalBody (codes : List Nat) (candidates : List Text) (escapeSpace : Bool) :
    Text × List Text :=
  let escaped := codes.flatMap (escapeFormatted escapeSpace)
  let fitting := candidates.filter fun q =>
    (!escaped.contains '\n' || q.length = 3) && !Text.hasPart q escaped
  match fitting with
  | [] =>
      let literal := Text.quoteCodes codes
      let quote := literal.head?.getD '\''
      let quotation := (candidates.find? (·.contains quote)).getD [quote]
      ((literal.drop 1).dropLast, [quotation])
  | _ =>
      match escaped.getLast? with
      | none => (escaped, fitting)
      | some last =>
          let differs (q : Text) : Bool := q.head? ≠ some last
          let ordered := fitting.filter differs ++ fitting.filter (!differs ·)
          if (ordered.head?.any differs) then (escaped, ordered)
          else (escapeLast escaped, ordered)

def quoted (quotation body : Text) : Text :=
  quotation ++ body ++ quotation

def avoidBackslashes (codes : List Nat) : Text :=
  let (body, candidates) := literalBody codes quotations false
  quoted (candidates.headD []) body

/-- A part of formatted text and whether it consists of plain characters. -/
structure Part where
  codes : List Nat
  plain : Bool

/-- The bodies of all parts for a quotation that suits every one of them. -/
def fitParts : List Part → List Text → Option (List Text × List Text)
  | [], candidates => some ([], candidates)
  | part :: rest, candidates => do
      let (body, fitting) := literalBody part.codes candidates part.plain
      if fitting.any candidates.contains then
        let (bodies, last) ← fitParts rest fitting
        return (body :: bodies, last)
      else none

/-- The escaped form of a part between three apostrophes. -/
def partInApostrophes (part : Part) : Text :=
  (part.codes.flatMap (Text.quoteCode '\''))

def formattedText (parts : List Part) : Text :=
  match fitParts parts quotations with
  | some (bodies, candidates) => quoted (candidates.headD []) bodies.flatten
  | none => quoted "'''" (parts.flatMap partInApostrophes)

/-! ## Literals -/

/-- The least number that is too long to be written. -/
def longInteger : Nat := Nat.pow 10 4300

def literalText (plainQuotes : Bool) : Literal → Option Text
  | .none => some "None"
  | .truth true => some "True"
  | .truth false => some "False"
  | .ellipsis => some "..."
  | .integer n => if n < longInteger then some (Text.ofNat n) else none
  | .real value => some (value.text ".0")
  | .imaginary value => some (value.text [] ++ "j")
  | .text codes marked =>
      let body := if plainQuotes then avoidBackslashes codes else Text.quoteCodes codes
      some (if marked then 'u' :: body else body)
  | .bytes values => some (Text.quoteBytes values)

def isWholeLiteral : Expr → Bool
  | .literal (.integer _) => true
  | .literal (.truth _) => true
  | _ => false

/-- An index that is a tuple of some items needs no parentheses. -/
def Expr.indexBinding : Expr → Nat
  | .tuple _ => Binding.tuple
  | _ => Binding.test

def doubleBraces (codes : List Nat) : List Nat :=
  codes.flatMap fun n => if n = 0x7b || n = 0x7d then [n, n] else [n]

def codesOf (text : Text) : List Nat :=
  text.map Char.toNat

/-- A value of formatted text between braces. A blank keeps two opening braces
apart, and a backslash cannot be written. -/
def placeholderCodes (text : Text) (conversion : Option Char) (spec : Option (List Nat)) :
    Option (List Nat) :=
  if text.contains '\\' then none
  else
    let gap : Text := if Text.startsWith "\x7b" text then " " else []
    let convert : Text :=
      match conversion with
      | none => []
      | some c => ['!', c]
    let spec :=
      match spec with
      | none => []
      | some codes => 0x3a :: codes
    some (0x7b :: codesOf (gap ++ text ++ convert) ++ spec ++ [0x7d])

/-! ## Expressions -/

mutual

/-- Prints an expression for a context that binds as tightly as given. Within
the values of formatted text `plain` forbids backslashes. -/
def Expr.print (plain : Bool) (binding : Nat) : Expr → Option Text
  | .name id => some id
  | .literal value => literalText plain value
  | .formatted pieces => do
      if plain then
        let parts ← partsOf pieces
        return 'f' :: avoidBackslashes (parts.flatMap Part.codes)
      else return 'f' :: formattedText (← partsOf pieces)
  | .attribute value name => do
      let owner ← value.print plain Binding.atom
      let gap : Text := if isWholeLiteral value then " " else []
      return owner ++ gap ++ '.' :: name
  | .subscript value index => do
      let owner ← value.print plain Binding.atom
      let inner ← index.print plain index.indexBinding
      return owner ++ brackets inner
  | .slice lower upper step => do
      let lower ← printOptional plain Binding.test lower
      let upper ← printOptional plain Binding.test upper
      let stepText ← printOptional plain Binding.test step
      return lower ++ ':' :: upper ++ (if step.isNone then [] else ':' :: stepText)
  | .call callee arguments keywords _ => do
      let callee ← callee.print plain Binding.atom
      let arguments ← printAll plain Binding.test arguments
      let keywords ← printArguments plain keywords
      return callee ++ parens (commaList (arguments ++ keywords))
  | .starred value => do
      return '*' :: (← value.print plain Binding.bitOr)
  | .tuple items => do
      let texts ← printAll plain Binding.test items
      return parenthesizeIf (texts.isEmpty || Binding.tuple < binding) (tupleItems texts)
  | .list items => do
      return brackets (commaList (← printAll plain Binding.test items))
  | .set items => do
      let texts ← printAll plain Binding.test items
      return braces (if texts.isEmpty then "*()" else commaList texts)
  | .dict items => do
      return braces (commaList (← printItems plain items))
  | .unary op operand => do
      let text ← operand.print plain op.binding
      return parenthesizeIf (op.binding < binding) (op.text ++ text)
  | .binary op left right => do
      let (leftBinding, rightBinding) :=
        if op = .power then (Binding.tighter op.binding, op.binding)
        else (op.binding, Binding.tighter op.binding)
      let left ← left.print plain leftBinding
      let right ← right.print plain rightBinding
      return parenthesizeIf (op.binding < binding) (left ++ " " ++ op.text ++ " " ++ right)
  | .boolean op operands => do
      let texts ← printRising plain (Binding.tighter op.binding) operands
      return parenthesizeIf (op.binding < binding) (Text.join (" " ++ op.text ++ " ") texts)
  | .compare left rest => do
      let left ← left.print plain (Binding.tighter Binding.compare)
      let rest ← printComparisons plain rest
      return parenthesizeIf (Binding.compare < binding) (left ++ rest)
  | .conditional test body alternative => do
      let body ← body.print plain Binding.any
      let test ← test.print plain Binding.any
      let alternative ← alternative.print plain Binding.test
      return parenthesizeIf (Binding.test < binding)
        (body ++ " if " ++ test ++ " else " ++ alternative)
  | .lambda parameters body => do
      let parameters ← printParameters plain parameters
      let body ← body.print plain Binding.test
      let head : Text := if parameters.isEmpty then [] else ' ' :: commaList parameters
      return parenthesizeIf (Binding.test < binding) ("lambda" ++ head ++ ": " ++ body)
  | .generator item clauses => do
      let item ← item.print plain Binding.test
      return parens (item ++ (← printClauses plain clauses))
  | .listOf item clauses => do
      let item ← item.print plain Binding.test
      return brackets (item ++ (← printClauses plain clauses))
  | .setOf item clauses => do
      let item ← item.print plain Binding.test
      return braces (item ++ (← printClauses plain clauses))
  | .dictOf key value clauses => do
      let key ← key.print plain Binding.test
      let value ← value.print plain Binding.test
      return braces (key ++ ": " ++ value ++ (← printClauses plain clauses))
  | .await value => do
      let text ← value.print plain Binding.atom
      return parenthesizeIf (Binding.await < binding) ("await " ++ text)
  | .yield value => do
      let text ← printOptional plain Binding.atom value
      return parenthesizeIf (Binding.yield < binding)
        (if value.isNone then "yield" else "yield " ++ text)
  | .yieldFrom value => do
      let text ← value.print plain Binding.atom
      return parenthesizeIf (Binding.yield < binding) ("yield from " ++ text)
  | .named target value => do
      let target ← target.print plain Binding.atom
      let value ← value.print plain Binding.atom
      return parenthesizeIf (Binding.named < binding) (target ++ " := " ++ value)

def printOptional (plain : Bool) (binding : Nat) : Option Expr → Option Text
  | none => some []
  | some e => e.print plain binding

def printAll (plain : Bool) (binding : Nat) : List Expr → Option (List Text)
  | [] => some []
  | e :: rest => do
      let text ← e.print plain binding
      return text :: (← printAll plain binding rest)

/-- Each operand of a chain is printed for a tighter context than the one
before it. -/
def printRising (plain : Bool) (binding : Nat) : List Expr → Option (List Text)
  | [] => some []
  | e :: rest => do
      let text ← e.print plain binding
      return text :: (← printRising plain (Binding.tighter binding) rest)

def printArguments (plain : Bool) : List Argument → Option (List Text)
  | [] => some []
  | .keyword name value :: rest => do
      let text ← value.print plain Binding.test
      return (name ++ "=" ++ text) :: (← printArguments plain rest)
  | .spread value :: rest => do
      let text ← value.print plain Binding.test
      return ("**" ++ text) :: (← printArguments plain rest)

def printItems (plain : Bool) : List DictItem → Option (List Text)
  | [] => some []
  | .pair key value :: rest => do
      let key ← key.print plain Binding.test
      let value ← value.print plain Binding.test
      return (key ++ ": " ++ value) :: (← printItems plain rest)
  | .spread value :: rest => do
      let text ← value.print plain Binding.bitOr
      return ("**" ++ text) :: (← printItems plain rest)

def printComparisons (plain : Bool) : List Comparison → Option Text
  | [] => some []
  | .mk op right :: rest => do
      let text ← right.print plain (Binding.tighter Binding.compare)
      return " " ++ op.text ++ " " ++ text ++ (← printComparisons plain rest)

def printParameters (plain : Bool) : List LambdaParameter → Option (List Text)
  | [] => some []
  | .plain name :: rest => do
      return name :: (← printParameters plain rest)
  | .default name value :: rest => do
      let text ← value.print plain Binding.test
      return (name ++ "=" ++ text) :: (← printParameters plain rest)
  | .positionalEnd :: rest => do
      return "/" :: (← printParameters plain rest)
  | .keywordStart :: rest => do
      return "*" :: (← printParameters plain rest)
  | .rest name :: rest => do
      return ("*" ++ name) :: (← printParameters plain rest)
  | .keywordRest name :: rest => do
      return ("**" ++ name) :: (← printParameters plain rest)

def printClauses (plain : Bool) : List Clause → Option Text
  | [] => some []
  | .mk isAsync target source conditions :: rest => do
      let target ← target.print plain Binding.tuple
      let source ← source.print plain Binding.any
      let conditions ← printConditions plain conditions
      let head : Text := if isAsync then " async for " else " for "
      return head ++ target ++ " in " ++ source ++ conditions ++ (← printClauses plain rest)

def printConditions (plain : Bool) : List Expr → Option Text
  | [] => some []
  | e :: rest => do
      let text ← e.print plain Binding.any
      return " if " ++ text ++ (← printConditions plain rest)

def partsOf : List Piece → Option (List Part)
  | [] => some []
  | .codes codes :: rest => do
      return ⟨doubleBraces codes, true⟩ :: (← partsOf rest)
  | .value value conversion :: rest => do
      let text ← value.print true Binding.any
      let codes ← placeholderCodes text conversion none
      return ⟨codes, false⟩ :: (← partsOf rest)
  | .formattedValue value conversion spec :: rest => do
      let text ← value.print true Binding.any
      let spec ← partsOf spec
      let codes ← placeholderCodes text conversion (some (spec.flatMap Part.codes))
      return ⟨codes, false⟩ :: (← partsOf rest)

end

/-- The text of an expression that stands by itself. -/
def Expr.text (e : Expr) : Option Text :=
  e.print false Binding.test

def Alias.text (a : Alias) : Text :=
  match a.asName with
  | none => a.name
  | some asName => a.name ++ " as " ++ asName

/-- The text of an import statement. -/
def Node.importText? : Node → Option Text
  | .imports names => some ("import " ++ commaList (names.map Alias.text))
  | .importsFrom level module names =>
      some ("from " ++ List.replicate level '.' ++ module.getD [] ++ " import " ++
        commaList (names.map Alias.text))
  | _ => none

end MessageForge.Source
