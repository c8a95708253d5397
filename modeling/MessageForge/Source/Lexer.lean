import MessageForge.Source.Numeral
import MessageForge.Text.Lines
import MessageForge.Text.NormalForm

/-!
# Lexer

The line structure counts: within brackets line ends are ignored, elsewhere
the margin of each line is compared with the open indentations. Margins are
measured twice, with tabs to multiples of eight columns and with tabs as one
column, and both measures must agree.
-/

namespace MessageForge.Source

/-- The place in the text: the line, the open indentations and the open
brackets with their lines, innermost first. -/
structure Place where
  line : Nat := 1
  indents : List (Nat × Nat) := []
  openers : List (Symbol × Nat) := []

namespace Place

def token (place : Place) (kind : TokenKind) : Token :=
  { kind, line := place.line, depth := place.openers.length }

def quietFault (place : Place) (atEnd : Bool) : Token :=
  place.token (.fault (.quiet (place.openers.head?.map Prod.snd) atEnd))

def raisedFault (place : Place) : Token :=
  place.token (.fault (.raised place.line))

def nextLine (place : Place) : Place :=
  { place with line := place.line + 1 }

def advance (place : Place) (lines : Nat) : Place :=
  { place with line := place.line + lines }

/-- The end of the text belongs to its last line. -/
def atEnd (place : Place) : Place :=
  { place with line := place.line - 1 }

end Place

/-! ## Margins -/

inductive Margin where
  | measured (columns tabsAsOne lines : Nat) (rest : Text)
  | broken (atEnd : Bool) (lines : Nat)

/-- Measures the blanks at the start of a line. Lines joined by a backslash
have the margin of the first that is indented. -/
def margin (columns tabsAsOne frozen lines : Nat) : Text → Margin
  | ' ' :: rest => margin (columns + 1) (tabsAsOne + 1) frozen lines rest
  | '\t' :: rest => margin ((columns / 8 + 1) * 8) (tabsAsOne + 1) frozen lines rest
  | '\x0c' :: rest => margin 0 0 frozen lines rest
  | ['\\', '\n'] => .broken true lines
  | '\\' :: '\n' :: rest =>
      margin columns tabsAsOne (if frozen = 0 then columns else frozen) (lines + 1) rest
  | '\\' :: _ => .broken false lines
  | rest =>
      if frozen = 0 then .measured columns tabsAsOne lines rest
      else .measured frozen frozen lines rest

def indentLimit : Nat := 100

/-- The open indentations and the tokens for a new margin, unless the margin
fits to none of them. -/
def changeIndent (columns tabsAsOne : Nat) (indents : List (Nat × Nat)) :
    Option (List (Nat × Nat) × List TokenKind) :=
  let current := indents.headD (0, 0)
  if columns = current.1 then
    if tabsAsOne = current.2 then some (indents, []) else none
  else if current.1 < columns then
    if indentLimit ≤ indents.length + 1 || tabsAsOne ≤ current.2 then none
    else some ((columns, tabsAsOne) :: indents, [.indent])
  else
    let kept := indents.dropWhile fun level => columns < level.1
    if kept.headD (0, 0) = (columns, tabsAsOne) then
      some (kept, List.replicate (indents.length - kept.length) .dedent)
    else none

/-! ## Literals of characters -/

structure StringPrefix where
  raw : Bool := false
  bytes : Bool := false
  formatted : Bool := false
  marked : Bool := false

def stringPrefix? (word : Text) : Option StringPrefix :=
  let lower := word.map fun c => if 'A' ≤ c && c ≤ 'Z' then Char.ofNat (c.toNat + 32) else c
  match lower with
  | [] => some {}
  | ['r'] => some { raw := true }
  | ['b'] => some { bytes := true }
  | ['u'] => some { marked := word = ['u'] }
  | ['f'] => some { formatted := true }
  | ['r', 'b'] | ['b', 'r'] => some { raw := true, bytes := true }
  | ['r', 'f'] | ['f', 'r'] => some { raw := true, formatted := true }
  | _ => none

/-- The body of a literal up to its closing quote on the same line, and what
is behind. An escaped character never closes. -/
def shortBody (quote : Char) : Text → Option (Text × Text)
  | [] => none
  | '\n' :: _ => none
  | '\\' :: c :: rest =>
      (shortBody quote rest).map fun (body, after) => ('\\' :: c :: body, after)
  | c :: rest =>
      if c = quote then some ([], rest)
      else (shortBody quote rest).map fun (body, after) => (c :: body, after)

/-- The body of a literal up to three closing quotes. -/
def longBody (quote : Char) : Text → Option (Text × Text)
  | [] => none
  | '\\' :: c :: rest =>
      (longBody quote rest).map fun (body, after) => ('\\' :: c :: body, after)
  | c :: rest =>
      if c = quote && Text.startsWith [quote, quote] rest then some ([], rest.drop 2)
      else (longBody quote rest).map fun (body, after) => (c :: body, after)

/-- Reads the rest of a literal behind its first quote. -/
def stringBody (quote : Char) (text : Text) : Option (Text × Text) :=
  if Text.startsWith [quote, quote] text then longBody quote (text.drop 2)
  else shortBody quote text

def lineEnds (text : Text) : Nat :=
  text.count '\n'

/-! ## Symbols -/

def symbolOf3 (a b c : Char) : Option Symbol :=
  if c = '=' then
    match a, b with
    | '*', '*' => some (.augmented .power)
    | '/', '/' => some (.augmented .floorDivide)
    | '<', '<' => some (.augmented .shiftLeft)
    | '>', '>' => some (.augmented .shiftRight)
    | _, _ => none
  else if a = '.' && b = '.' && c = '.' then some .ellipsis
  else none

def symbolOf2 (a b : Char) : Option Symbol :=
  match a, b with
  | '*', '*' => some (.binary .power)
  | '/', '/' => some (.binary .floorDivide)
  | '<', '<' => some (.binary .shiftLeft)
  | '>', '>' => some (.binary .shiftRight)
  | '-', '>' => some .arrow
  | '<', '>' => some .unknown
  | ':', '=' => some .bind
  | '=', '=' => some (.compare .equal)
  | '!', '=' => some (.compare .notEqual)
  | '<', '=' => some (.compare .lessEqual)
  | '>', '=' => some (.compare .greaterEqual)
  | '+', '=' => some (.augmented .add)
  | '-', '=' => some (.augmented .subtract)
  | '*', '=' => some (.augmented .multiply)
  | '/', '=' => some (.augmented .divide)
  | '%', '=' => some (.augmented .modulo)
  | '@', '=' => some (.augmented .matrix)
  | '&', '=' => some (.augmented .bitAnd)
  | '|', '=' => some (.augmented .bitOr)
  | '^', '=' => some (.augmented .bitXor)
  | _, _ => none

/-- Control characters are no symbols. -/
def symbolOf1 (c : Char) : Option Symbol :=
  match c with
  | '(' => some .openParen
  | ')' => some .closeParen
  | '[' => some .openBracket
  | ']' => some .closeBracket
  | '\x7b' => some .openBrace
  | '\x7d' => some .closeBrace
  | ',' => some .comma
  | ':' => some .colon
  | '.' => some .dot
  | ';' => some .semicolon
  | '=' => some .assign
  | '~' => some .tilde
  | '+' => some (.binary .add)
  | '-' => some (.binary .subtract)
  | '*' => some (.binary .multiply)
  | '/' => some (.binary .divide)
  | '%' => some (.binary .modulo)
  | '@' => some (.binary .matrix)
  | '&' => some (.binary .bitAnd)
  | '|' => some (.binary .bitOr)
  | '^' => some (.binary .bitXor)
  | '<' => some (.compare .less)
  | '>' => some (.compare .greater)
  | _ => if 0x20 ≤ c.toNat && c.toNat < 0x7f then some .unknown else none

/-- The longest symbol at the front of a text. -/
def readSymbol (text : Text) : Option (Symbol × Text) :=
  match text with
  | a :: b :: c :: rest =>
      match symbolOf3 a b c, symbolOf2 a b with
      | some s, _ => some (s, rest)
      | none, some s => some (s, c :: rest)
      | none, none => (symbolOf1 a).map fun s => (s, b :: c :: rest)
  | [a, b] =>
      match symbolOf2 a b with
      | some s => some (s, [])
      | none => (symbolOf1 a).map fun s => (s, [b])
  | [a] => (symbolOf1 a).map fun s => (s, [])
  | [] => none

def nestingLimit : Nat := 200

/-- The open brackets behind a symbol, unless it closes none or the wrong one
or is nested too deeply. -/
def changeNesting (symbol : Symbol) (line : Nat) (openers : List (Symbol × Nat)) :
    Option (List (Symbol × Nat)) :=
  let close (opener : Symbol) : Option (List (Symbol × Nat)) :=
    match openers with
    | (s, _) :: rest => if s = opener then some rest else none
    | [] => none
  match symbol with
  | .openParen | .openBracket | .openBrace =>
      if openers.length < nestingLimit then some ((symbol, line) :: openers) else none
  | .closeParen => close .openParen
  | .closeBracket => close .openBracket
  | .closeBrace => close .openBrace
  | _ => some openers

/-! ## Tokens -/

def isSpace (c : Char) : Bool :=
  c = ' ' || c = '\t' || c = '\x0c'

/-- Keywords are recognised in their plain spelling; all other names count in
their normal form. -/
def wordKind (word : Text) : TokenKind :=
  match Keyword.ofText? word with
  | some keyword => .keyword keyword
  | none => .name (Text.normalForm word)

/-- What stands at a place: nothing but the end of the line, a token, or
something that ends the reading. -/
inductive Reading where
  | joined (rest : Text)
  | lineEnd (rest : Text)
  | token (kind : TokenKind) (lines : Nat) (rest : Text)
  | broken (token : Token)

def readString (place : Place) (start : StringPrefix) (quote : Char) (text : Text) : Reading :=
  match stringBody quote text with
  | some (body, rest) =>
      let token : StringToken :=
        { raw := start.raw, bytes := start.bytes, formatted := start.formatted,
          marked := start.marked, body }
      .token (.string token) (lineEnds body) rest
  | none => .broken place.raisedFault

def readWord (place : Place) (text : Text) : Reading :=
  let word := text.takeWhile isNameChar
  let rest := text.dropWhile isNameChar
  let plain : Reading :=
    if word.all (·.toNat < 128) || Text.isIdentifier word then .token (wordKind word) 0 rest
    else .broken place.raisedFault
  match rest, stringPrefix? word with
  | '\'' :: after, some start => readString place start '\'' after
  | '"' :: after, some start => readString place start '"' after
  | _, _ => plain

def readNumber (place : Place) (text : Text) : Reading :=
  match readNumeral text with
  | some (value, rest) => .token (.number value) 0 rest
  | none => .broken place.raisedFault

/-- Reads behind the blanks. -/
def readToken (place : Place) (text : Text) : Reading :=
  match text with
  | [] => .broken (place.quietFault true)
  | '\n' :: rest => .lineEnd rest
  | ['\\', '\n'] => .broken (place.quietFault true)
  | '\\' :: '\n' :: rest => .joined rest
  | '\\' :: _ => .broken (place.quietFault false)
  | '"' :: rest => readString place {} '"' rest
  | '\'' :: rest => readString place {} '\'' rest
  | c :: rest =>
      if Text.isAsciiDigit c || (c = '.' && rest.head?.any Text.isAsciiDigit) then
        readNumber place text
      else if isNameChar c then readWord place text
      else
        match readSymbol text with
        | some (symbol, after) => .token (.symbol symbol) 0 after
        | none => .broken place.raisedFault

/-- Skips blanks and a comment. -/
def skipBlanks (text : Text) : Text :=
  let text := text.dropWhile isSpace
  match text with
  | '#' :: _ => text.dropWhile (· ≠ '\n')
  | _ => text

/-- The place behind a token and the token itself. -/
def Place.take (place : Place) (kind : TokenKind) (lines : Nat) : Except Token (Place × Token) :=
  match kind with
  | .symbol symbol =>
      match changeNesting symbol place.line place.openers with
      | some openers =>
          let after := { place with openers }
          .ok (after, after.token kind)
      | none => .error place.raisedFault
  | _ => .ok (place.advance lines, place.token kind)

/-- Reads tokens; every step either reads a character or passes from the start
of a line into it, so that twice the length is fuel enough. -/
def lexFrom : (fuel : Nat) → (lineStart : Bool) → Place → Text → List Token
  | 0, _, place, _ => [place.raisedFault]
  | fuel + 1, true, place, text =>
      match margin 0 0 0 0 text with
      | .broken atEnd lines => [(place.advance lines).quietFault atEnd]
      | .measured columns tabsAsOne lines rest =>
          let place := place.advance lines
          match rest with
          | [] =>
              let last := place.atEnd
              if place.openers.isEmpty then
                place.indents.map (fun _ => last.token .dedent) ++ [last.token .finish]
              else [last.quietFault true]
          | '\n' :: after => lexFrom fuel true place.nextLine after
          | '#' :: after =>
              lexFrom fuel true place.nextLine ((after.dropWhile (· ≠ '\n')).drop 1)
          | _ =>
              if place.openers.isEmpty then
                match changeIndent columns tabsAsOne place.indents with
                | none => [place.quietFault false]
                | some (indents, kinds) =>
                    let place := { place with indents }
                    kinds.map place.token ++ lexFrom fuel false place rest
              else lexFrom fuel false place rest
  | fuel + 1, false, place, text =>
      match readToken place (skipBlanks text) with
      | .broken token => [token]
      | .joined rest => lexFrom fuel false place.nextLine rest
      | .lineEnd rest =>
          let after := lexFrom fuel true place.nextLine rest
          if place.openers.isEmpty then place.token .newline :: after else after
      | .token kind lines rest =>
          match place.take kind lines with
          | .error token => [token]
          | .ok (place, token) => token :: lexFrom fuel false place rest

/-- Every text ends its last line. -/
def withFinalNewline (text : Text) : Text :=
  if text.getLast? = some '\n' then text else text ++ ['\n']

/-- The tokens of a text whose first line has the given number. -/
def tokenize (firstLine : Nat) (text : Text) : List Token :=
  let text := withFinalNewline (Text.universalNewlines text)
  lexFrom (2 * text.length + 2) true { line := firstLine } text

end MessageForge.Source
