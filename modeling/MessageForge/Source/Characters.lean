import MessageForge.Source.Token
import MessageForge.Text.NormalForm
import MessageForge.Text.Quoted

/-!
# Characters of literals

The escapes of literal text and bytes. An unknown escape stands for itself,
backslash included; a known escape without its digits is an error. Characters
have names, which are given as a table: an escape by name is spelled by number
before anything else is read, and a name that is not in the table is an error.
-/

namespace MessageForge.Source

/-! ## Escapes by name -/

/-- The characters that names stand for. -/
abbrev CharacterNames := Text → Option Char

/-- No character has a name. -/
def namelessCharacters : CharacterNames :=
  fun _ => none

/-- The text with numbers in place of the names in its escapes. -/
def spellNames (characters : CharacterNames) : (fuel : Nat) → Text → Text
  | fuel + 1, '\\' :: 'N' :: '\x7b' :: rest =>
      let name := rest.takeWhile (· ≠ '\x7d')
      match rest.drop name.length, characters name with
      | _ :: after, some c =>
          '\\' :: 'U' :: (Text.hexDigits 8 c.toNat ++ spellNames characters fuel after)
      | _, _ => '\\' :: 'N' :: spellNames characters fuel ('\x7b' :: rest)
  | fuel + 1, '\\' :: c :: rest => '\\' :: c :: spellNames characters fuel rest
  | fuel + 1, c :: rest => c :: spellNames characters fuel rest
  | _, rest => rest

/-- Raw literals and bytes have no escapes by name. -/
def StringToken.spelled (characters : CharacterNames) (token : StringToken) : StringToken :=
  if token.raw || token.bytes then token
  else { token with body := spellNames characters (token.body.length + 1) token.body }

def TokenKind.spelled (characters : CharacterNames) : TokenKind → TokenKind
  | .string token => .string (token.spelled characters)
  | kind => kind

def Token.spelled (characters : CharacterNames) (token : Token) : Token :=
  { token with kind := token.kind.spelled characters }

/-! ## Escapes by number -/

/-- The value of exactly `count` hexadecimal digits at the front. -/
def hexEscape : (count : Nat) → (value : Nat) → Text → Option (Nat × Text)
  | 0, value, rest => some (value, rest)
  | _ + 1, _, [] => none
  | count + 1, value, c :: rest => do
      let digit ← Text.hexDigitValue? c
      hexEscape count (16 * value + digit) rest

def isOctalDigit (c : Char) : Bool :=
  '0' ≤ c && c ≤ '7'

/-- The value of up to three octal digits, the first of which is given. -/
def octalEscape (first : Char) (rest : Text) : Nat × Text :=
  let more := (rest.take 2).takeWhile isOctalDigit
  ((first :: more).foldl (fun n c => 8 * n + (c.toNat - 0x30)) 0, rest.drop more.length)

/-- The escapes of one letter. -/
def simpleEscape (c : Char) : Option Nat :=
  match c with
  | '\\' => some 0x5c
  | '\'' => some 0x27
  | '"' => some 0x22
  | 'a' => some 0x07
  | 'b' => some 0x08
  | 'f' => some 0x0c
  | 'n' => some 0x0a
  | 'r' => some 0x0d
  | 't' => some 0x09
  | 'v' => some 0x0b
  | _ => none

def decodeTextFrom : (fuel : Nat) → Text → Option (List Nat)
  | fuel + 1, '\\' :: '\n' :: rest => decodeTextFrom fuel rest
  | fuel + 1, '\\' :: c :: rest =>
      match simpleEscape c with
      | some n => (decodeTextFrom fuel rest).map (n :: ·)
      | none =>
          if isOctalDigit c then
            let (n, after) := octalEscape c rest
            (decodeTextFrom fuel after).map (n :: ·)
          else
            let width := if c = 'x' then 2 else if c = 'u' then 4 else if c = 'U' then 8 else 0
            if width ≠ 0 then do
              let (n, after) ← hexEscape width 0 rest
              if n < 0x110000 then (decodeTextFrom fuel after).map (n :: ·) else none
            else if c = 'N' then none
            else (decodeTextFrom fuel rest).map (fun codes => 0x5c :: c.toNat :: codes)
  | fuel + 1, c :: rest => (decodeTextFrom fuel rest).map (c.toNat :: ·)
  | _, _ => some []

/-- The code points of a literal text. -/
def decodeText (raw : Bool) (body : Text) : Option (List Nat) :=
  if raw then some (body.map Char.toNat) else decodeTextFrom (body.length + 1) body

def decodeBytesFrom : (fuel : Nat) → Text → Option (List Nat)
  | fuel + 1, '\\' :: '\n' :: rest => decodeBytesFrom fuel rest
  | fuel + 1, '\\' :: c :: rest =>
      match simpleEscape c with
      | some n => (decodeBytesFrom fuel rest).map (n :: ·)
      | none =>
          if isOctalDigit c then
            let (n, after) := octalEscape c rest
            (decodeBytesFrom fuel after).map (n % 256 :: ·)
          else if c = 'x' then do
            let (n, after) ← hexEscape 2 0 rest
            (decodeBytesFrom fuel after).map (n :: ·)
          else (decodeBytesFrom fuel rest).map (fun codes => 0x5c :: c.toNat :: codes)
  | fuel + 1, c :: rest => (decodeBytesFrom fuel rest).map (c.toNat :: ·)
  | _, _ => some []

/-- The bytes of a literal, which must be written in ASCII. -/
def decodeBytes (raw : Bool) (body : Text) : Option (List Nat) :=
  if raw then some (body.map Char.toNat) else decodeBytesFrom (body.length + 1) body

def isAscii (text : Text) : Bool :=
  text.all (·.toNat < 128)

/-! ## Formatted text -/

/-- The characters up to the next value or the end. Doubled braces stand for
single ones at the outer level; `again` says that the text goes on behind such
a pair. -/
structure LiteralRun where
  body : Text
  again : Bool
  rest : Text

def LiteralRun.prepend (front : Text) (run : LiteralRun) : LiteralRun :=
  { run with body := front ++ run.body }

def isBrace (c : Char) : Bool :=
  c = '\x7b' || c = '\x7d'

/-- The number of characters behind a backslash that belong to its escape and
are not looked at for braces. -/
def escapeWidth (rest : Text) : Nat :=
  match rest with
  | 'N' :: '\x7b' :: name => 3 + (name.takeWhile (· ≠ '\x7d')).length
  | c :: _ => if isBrace c then 0 else 1
  | [] => 0

/-- `none` if a closing brace stands alone. -/
def literalRun (raw nested : Bool) : (fuel : Nat) → Text → Option LiteralRun
  | fuel + 1, c :: rest =>
      let plain (count : Nat) : Option LiteralRun :=
        (literalRun raw nested fuel (rest.drop count)).map (·.prepend (c :: rest.take count))
      if c = '\\' && !raw then plain (escapeWidth rest)
      else if isBrace c then
        if !nested && rest.head? = some c then some ⟨[c], true, rest.drop 1⟩
        else if !nested && c = '\x7d' then none
        else some ⟨[], false, c :: rest⟩
      else plain 0
  | _, _ => some ⟨[], false, []⟩

/-- Where the code of a value ends: at a mark of its own level that cannot be
part of an operator. -/
structure CodeScan where
  quote : Option (Char × Bool) := none
  openers : List Char := []

def closes (opener c : Char) : Bool :=
  (opener = '(' && c = ')') || (opener = '[' && c = ']') || (opener = '\x7b' && c = '\x7d')

/-- The code of a value and what is behind it. Backslashes and comment signs
are not allowed, and brackets and quotes must match. -/
def scanCode (scan : CodeScan) : (fuel : Nat) → Text → Option (Text × Text)
  | 0, _ => none
  | _ + 1, [] => if scan.quote.isNone && scan.openers.isEmpty then some ([], []) else none
  | fuel + 1, c :: rest =>
      let keep (count : Nat) (next : CodeScan) : Option (Text × Text) :=
        (scanCode next fuel ((c :: rest).drop count)).map fun (code, after) =>
          ((c :: rest).take count ++ code, after)
      if c = '\\' then none
      else
        match scan.quote with
        | some (q, long) =>
            if c = q then
              if long then
                if Text.startsWith [q, q] rest then keep 3 { scan with quote := none }
                else keep 1 scan
              else keep 1 { scan with quote := none }
            else keep 1 scan
        | none =>
            if c = '\'' || c = '"' then
              if Text.startsWith [c, c] rest then keep 3 { scan with quote := some (c, true) }
              else keep 1 { scan with quote := some (c, false) }
            else if c = '(' || c = '[' || c = '\x7b' then
              if scan.openers.length < 200 then keep 1 { scan with openers := c :: scan.openers }
              else none
            else if c = '#' then none
            else if scan.openers.isEmpty && (c = '!' || c = ':' || c = '\x7d' || c = '=' ||
                c = '<' || c = '>') then
              if rest.head? = some '=' && c ≠ ':' && c ≠ '\x7d' then keep 2 scan
              else if c = '<' || c = '>' then keep 1 scan
              else some ([], c :: rest)
            else if c = ')' || c = ']' || c = '\x7d' then
              match scan.openers with
              | opener :: outer =>
                  if closes opener c then keep 1 { scan with openers := outer } else none
              | [] => none
            else keep 1 scan

end MessageForge.Source
