import MessageForge.Schema.Token
import MessageForge.Text.NormalForm

/-!
# Lexer of schemas

Schemas are read byte by byte, each byte as the character of its number, so
that only strings and comments may hold anything but ASCII. Operator signs in a
row are one operator. Numbers must not run into letters.
-/

namespace MessageForge.Schema

namespace Lexer

def isBlank (c : Char) : Bool :=
  c = ' ' || c = '\n' || c = '\r' || c = '\t' || c.toNat = 0x0b || c.toNat = 0x0c

def isLetter (c : Char) : Bool :=
  ('a' ≤ c && c ≤ 'z') || ('A' ≤ c && c ≤ 'Z')

def isDigit (c : Char) : Bool :=
  '0' ≤ c && c ≤ '9'

def isOctal (c : Char) : Bool :=
  '0' ≤ c && c ≤ '7'

def isHex (c : Char) : Bool :=
  (Text.hexDigitValue? c).isSome

def isNameStart (c : Char) : Bool :=
  isLetter c || c = '_'

def isNamePart (c : Char) : Bool :=
  isNameStart c || isDigit c

def operatorSigns : Text := "!$%&*+-./:<=>?@^|~"

mutual

/-- Drops blanks, comments and byte order marks. -/
def skipBlank : Text → Text
  | [] => []
  | '#' :: rest => skipComment rest
  | '\xef' :: '\xbb' :: '\xbf' :: rest => skipBlank rest
  | c :: rest => if isBlank c then skipBlank rest else c :: rest

def skipComment : Text → Text
  | [] => []
  | '\n' :: rest => skipBlank rest
  | _ :: rest => skipComment rest

end

/-- A number must not be followed by a letter, an underscore or a point. -/
def endsNumber (rest : Text) : Bool :=
  match rest with
  | c :: _ => !(isLetter c || c = '_' || c = '.')
  | [] => true

def endNumber (token : Token) (rest : Text) : Option (Token × Text) :=
  if endsNumber rest then some (token, rest) else none

/-- Numbers have 64 bits. -/
def valueIn (base : Nat) (digits : Text) : Nat :=
  (digits.foldl (fun n c => base * n + (Text.hexDigitValue? c).getD 0) 0) % Nat.pow 2 64

def integerIn (base : Nat) (isDigit : Char → Bool) (digits : Text) : Option (Token × Text) :=
  endNumber (.integer (valueIn base (digits.takeWhile isDigit))) (digits.dropWhile isDigit)

def integer? (text : Text) : Option (Token × Text) :=
  match text with
  | '0' :: 'x' :: digits => if digits.head?.any isHex then integerIn 16 isHex digits else none
  | '0' :: digits => integerIn 8 isOctal digits
  | _ => integerIn 10 isDigit text

def dropFraction : Text → Text
  | '.' :: rest => rest.dropWhile isDigit
  | rest => rest

def dropSign : Text → Text
  | '+' :: rest => rest
  | '-' :: rest => rest
  | rest => rest

def dropExponent : Text → Text
  | 'e' :: rest => (dropSign rest).dropWhile isDigit
  | 'E' :: rest => (dropSign rest).dropWhile isDigit
  | rest => rest

def float? (text : Text) : Option (Token × Text) :=
  endNumber .float (dropExponent (dropFraction (text.dropWhile isDigit)))

def number? (text : Text) : Option (Token × Text) :=
  (integer? text).orElse fun _ => float? text

/-- Pairs of hexadecimal digits up to the closing quote, with blanks anywhere. -/
def binaryBody (isOpen : Bool) : Text → Option (Token × Text)
  | [] => none
  | '"' :: rest => if isOpen then none else some (.binary, rest)
  | c :: rest =>
      if isBlank c then binaryBody isOpen rest
      else if isHex c then binaryBody (!isOpen) rest
      else none

/-- Digits in quotes must be there. -/
def binary? : Text → Option (Token × Text)
  | text => if (text.find? (!isBlank ·)) = some '"' then none else binaryBody false text

def simpleEscape? : Char → Option Char
  | 'a' => some '\x07'
  | 'b' => some '\x08'
  | 'f' => some '\x0c'
  | 'n' => some '\n'
  | 'r' => some '\r'
  | 't' => some '\t'
  | 'v' => some '\x0b'
  | '\'' => some '\''
  | '"' => some '"'
  | '\\' => some '\\'
  | '?' => some '?'
  | _ => none

/-- One character of a string behind a backslash. -/
def escape? : Text → Option (Char × Text)
  | [] => none
  | 'x' :: high :: low :: rest =>
      if isHex high && isHex low then some (Char.ofNat (valueIn 16 [high, low]), rest) else none
  | c :: rest =>
      match simpleEscape? c with
      | some plain => some (plain, rest)
      | none =>
          let digits := ((c :: rest).take 3).takeWhile isOctal
          if digits.isEmpty then none
          else some (Char.ofNat (valueIn 8 digits % 256), (c :: rest).drop digits.length)

/-- The rest of a string on its line. -/
def stringBody : (fuel : Nat) → Text → Option (Text × Text)
  | _ + 1, '"' :: rest => some ([], rest)
  | _ + 1, '\n' :: _ => none
  | fuel + 1, '\\' :: rest => do
      let (c, rest) ← escape? rest
      let (content, rest) ← stringBody fuel rest
      return (c :: content, rest)
  | fuel + 1, c :: rest => do
      let (content, rest) ← stringBody fuel rest
      return (c :: content, rest)
  | _, _ => none

def word? (text : Text) : Option (Token × Text) :=
  match text with
  | [] => none
  | '"' :: rest => (stringBody text.length rest).map fun (content, rest) => (.text content, rest)
  | '0' :: 'x' :: '"' :: rest => binary? rest
  | c :: _ =>
      if isNameStart c then
        some (.identifier (text.takeWhile isNamePart), text.dropWhile isNamePart)
      else if isDigit c then number? text
      else if operatorSigns.contains c then
        some (.operator (text.takeWhile operatorSigns.contains),
          text.dropWhile operatorSigns.contains)
      else none

/-- An empty list holds no item, and a comma may stand behind the last one. -/
def trimItems (items : List (List Token)) : List (List Token) :=
  match items.getLast? with
  | some [] => items.dropLast
  | _ => items

mutual

def token? : (fuel : Nat) → Text → Option (Token × Text)
  | 0, _ => none
  | fuel + 1, '(' :: rest => do
      let (items, rest) ← items? fuel ')' rest
      return (.parentheses (trimItems items), rest)
  | fuel + 1, '[' :: rest => do
      let (items, rest) ← items? fuel ']' rest
      return (.brackets (trimItems items), rest)
  | _ + 1, text => word? text

/-- Tokens as far as they go, and what follows them and the blanks. -/
def tokens : (fuel : Nat) → Text → List Token × Text
  | 0, text => ([], text)
  | fuel + 1, text =>
      let text := skipBlank text
      match token? fuel text with
      | none => ([], text)
      | some (token, rest) =>
          let (more, rest) := tokens fuel rest
          (token :: more, rest)

/-- The items of a list up to its closing sign. -/
def items? : (fuel : Nat) → (close : Char) → Text → Option (List (List Token) × Text)
  | 0, _, _ => none
  | fuel + 1, close, text => do
      let (first, rest) := tokens fuel text
      match rest with
      | ',' :: rest =>
          let (more, rest) ← items? fuel close rest
          return (first :: more, rest)
      | c :: rest => if c = close then some ([first], rest) else none
      | [] => none

end

/-- Statements as far as they go. -/
def statements : (fuel : Nat) → Text → Option (List Statement × Text)
  | 0, _ => none
  | fuel + 1, text => do
      let (head, rest) := tokens (3 * text.length + 3) text
      match rest with
      | ';' :: rest =>
          let (more, rest) ← statements fuel rest
          return (.line head :: more, rest)
      | '\x7b' :: rest =>
          let (body, rest) ← statements fuel rest
          match rest with
          | '\x7d' :: rest =>
              let (more, rest) ← statements fuel rest
              return (.block head body :: more, rest)
          | _ => none
      | rest => if head.isEmpty then some ([], rest) else none

end Lexer

/-- The statements of a schema, if it is well formed down to its end. -/
def lexStatements (text : Text) : Option (List Statement) :=
  match Lexer.statements (text.length + 1) text with
  | some (statements, []) => some statements
  | _ => none

end MessageForge.Schema
