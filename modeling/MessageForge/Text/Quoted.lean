import MessageForge.Text.Printable

/-!
# Quoted text

The literal form of a text stands in apostrophes, or in double quotes if it
holds an apostrophe but no double quote. What cannot be shown is escaped with
the shortest of three hexadecimal forms. Texts are lists of code points here,
since a literal may name lone surrogates.
-/

namespace MessageForge.Text

def hexDigit (n : Nat) : Char :=
  if n < 10 then Char.ofNat (0x30 + n) else Char.ofNat (0x57 + n)

/-- The last `width` hexadecimal digits. -/
def hexDigits : (width : Nat) → Nat → Text
  | 0, _ => []
  | width + 1, n => hexDigits width (n / 16) ++ [hexDigit (n % 16)]

def escapeCode (n : Nat) : Text :=
  if n ≤ 0xff then '\\' :: 'x' :: hexDigits 2 n
  else if n ≤ 0xffff then '\\' :: 'u' :: hexDigits 4 n
  else '\\' :: 'U' :: hexDigits 8 n

def quoteCode (quote : Char) (n : Nat) : Text :=
  if n = quote.toNat || n = 0x5c then ['\\', Char.ofNat n]
  else if n = 0x0a then ['\\', 'n']
  else if n = 0x0d then ['\\', 'r']
  else if n = 0x09 then ['\\', 't']
  else if isPrintableCode n then [Char.ofNat n]
  else escapeCode n

/-- Outside ASCII a byte has no character of its own. -/
def quoteByte (quote : Char) (n : Nat) : Text :=
  if n < 0x80 then quoteCode quote n else escapeCode n

def chooseQuote (codes : List Nat) : Char :=
  if codes.contains 0x27 && !codes.contains 0x22 then '"' else '\''

def quoteCodes (codes : List Nat) : Text :=
  let quote := chooseQuote codes
  quote :: codes.flatMap (quoteCode quote) ++ [quote]

def quoteBytes (bytes : List Nat) : Text :=
  let quote := chooseQuote bytes
  'b' :: quote :: bytes.flatMap (quoteByte quote) ++ [quote]

def quote (text : Text) : Text :=
  quoteCodes (text.map Char.toNat)

end MessageForge.Text
