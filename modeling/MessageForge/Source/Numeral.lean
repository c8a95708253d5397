import MessageForge.Source.Token
import MessageForge.Text.Identifier

/-!
# Numerals

Integers in four bases, decimal fractions and imaginary numbers. Underscores
may stand between digits. A decimal integer other than zero has no leading
zero, and no letter may follow a numeral unless a keyword begins there.
-/

namespace MessageForge.Source

/-- A character that may belong to a name, before the tables are asked. -/
def isNameChar (c : Char) : Bool :=
  Text.isAsciiLetter c || Text.isAsciiDigit c || c = '_' || 128 ≤ c.toNat

def digitOf (c : Char) : Nat :=
  if Text.isAsciiDigit c then c.toNat - 0x30
  else if 'a' ≤ c && c ≤ 'f' then c.toNat - 0x57
  else c.toNat - 0x37

def isHexDigit (c : Char) : Bool :=
  Text.isAsciiDigit c || ('a' ≤ c && c ≤ 'f') || ('A' ≤ c && c ≤ 'F')

def digitsValue (base : Nat) (digits : Text) : Nat :=
  digits.foldl (fun n c => base * n + digitOf c) 0

/-- The digits at the front, where an underscore must be followed by a digit. -/
def digitTail (isDigit : Char → Bool) : Text → Option (Text × Text)
  | [] => some ([], [])
  | '_' :: [] => none
  | '_' :: c :: rest =>
      if isDigit c then
        (digitTail isDigit rest).map fun (digits, after) => (c :: digits, after)
      else none
  | c :: rest =>
      if isDigit c then
        (digitTail isDigit rest).map fun (digits, after) => (c :: digits, after)
      else some ([], c :: rest)

/-- Digits of which there is at least one, possibly behind an underscore. -/
def someDigits (isDigit : Char → Bool) (text : Text) : Option (Text × Text) :=
  let text :=
    match text with
    | '_' :: rest => rest
    | _ => text
  match text with
  | c :: _ => if isDigit c then digitTail isDigit text else none
  | [] => none

/-- Whether a numeral may end before the given text. -/
def numeralEnds (rest : Text) : Bool :=
  let keywords : List Text := ["and", "else", "for", "if", "in", "is", "or", "not"]
  keywords.any (Text.startsWith · rest) ||
    match rest with
    | c :: _ => !isNameChar c
    | [] => true

def basedNumeral (base : Nat) (isDigit : Char → Bool) (text : Text) :
    Option (Literal × Text) := do
  let (digits, rest) ← someDigits isDigit text
  match rest with
  | c :: _ => if Text.isAsciiDigit c then none
  | [] => pure ()
  if numeralEnds rest then some (.integer (digitsValue base digits), rest) else none

def realValue (whole fraction : Text) (exponent : Int) : Binary64 :=
  let digits := whole ++ fraction
  Binary64.ofDecimal (digitsValue 10 digits) digits.length (exponent - fraction.length)

/-- The longest decimal integer that is read. -/
def integerDigitLimit : Nat := 4300

/-- What follows the digits of a decimal numeral: the mark of an imaginary
number or the end. -/
def finishDecimal (whole : Text) (fraction : Option Text) (exponent : Option Int)
    (rest : Text) : Option (Literal × Text) :=
  let value := realValue whole (fraction.getD []) (exponent.getD 0)
  match rest with
  | 'j' :: after | 'J' :: after =>
      if numeralEnds after then some (.imaginary value, after) else none
  | _ =>
      if !numeralEnds rest then none
      else if fraction.isSome || exponent.isSome then some (.real value, rest)
      else if whole.length > integerDigitLimit then none
      else if whole.head? = some '0' && whole.any (· ≠ '0') then none
      else some (.integer (digitsValue 10 whole), rest)

/-- An exponent, if a sign or digit follows its letter. -/
def exponentPart (text : Text) : Option (Option Int × Text) :=
  match text with
  | e :: rest =>
      if e = 'e' || e = 'E' then
        let (negative, signed, digits) :=
          match rest with
          | '-' :: after => (true, true, after)
          | '+' :: after => (false, true, after)
          | _ => (false, false, rest)
        match digits with
        | c :: _ =>
            if Text.isAsciiDigit c then do
              let (digits, after) ← digitTail Text.isAsciiDigit digits
              let n : Int := digitsValue 10 digits
              some (some (if negative then -n else n), after)
            else if signed then none
            else some (none, text)
        | [] => if signed then none else some (none, text)
      else some (none, text)
  | [] => some (none, text)

def fractionPart (text : Text) : Option (Option Text × Text) :=
  match text with
  | '.' :: c :: rest =>
      if Text.isAsciiDigit c then
        (digitTail Text.isAsciiDigit (c :: rest)).map fun (digits, after) => (some digits, after)
      else some (some [], c :: rest)
  | '.' :: [] => some (some [], [])
  | _ => some (none, text)

def decimalNumeral (text : Text) : Option (Literal × Text) := do
  let (whole, rest) ← digitTail Text.isAsciiDigit text
  let (fraction, rest) ← fractionPart rest
  let (exponent, rest) ← exponentPart rest
  finishDecimal whole fraction exponent rest

/-- Reads the numeral at the front of a text that begins with a digit or with
a point and a digit. -/
def readNumeral (text : Text) : Option (Literal × Text) :=
  match text with
  | '0' :: c :: rest =>
      if c = 'x' || c = 'X' then basedNumeral 16 isHexDigit rest
      else if c = 'o' || c = 'O' then basedNumeral 8 (fun d => '0' ≤ d && d ≤ '7') rest
      else if c = 'b' || c = 'B' then basedNumeral 2 (fun d => d = '0' || d = '1') rest
      else decimalNumeral text
  | _ => decimalNumeral text

end MessageForge.Source
