import MessageForge.Source.Characters
import MessageForge.Source.Grammar.Operand
import MessageForge.Source.Lexer

/-!
# Literals in sequence

Adjacent literals of characters form one. As soon as one of them is formatted
text the whole is, and its values are read as expressions in parentheses. Text
and bytes cannot be mixed.
-/

namespace MessageForge.Source

open Reader

/-- Reads an expression of its own from tokens that stand elsewhere. -/
def readNested (reader : Reader Operand) (nested : List Token) : Reader Expr :=
  fun tokens =>
    match reader nested with
    | .ok (operand, _) => .ok (operand.expr, tokens)
    | .error refusal => .error { line := some refusal.reportedLine, rest := tokens }

def isCodeBlank (c : Char) : Bool :=
  c = ' ' || c = '\t' || c = '\n' || c = '\x0c'

def isAsciiSpace (c : Char) : Bool :=
  c = ' ' || (0x09 ≤ c.toNat && c.toNat ≤ 0x0d)

/-- The value in formatted text that begins with the given code. -/
def nestedValue (reader : Reader Operand) (line : Nat) (code : Text) : Reader Expr := do
  if code.all isCodeBlank then refuse
  else readNested reader (tokenize line ('(' :: code ++ [')']))

def someCodes (codes : List Nat) : List Piece :=
  if codes.isEmpty then [] else [.codes codes]

/-- Pieces with their end: the line and text behind them. -/
structure PieceRun where
  pieces : List Piece
  line : Nat
  rest : Text

def PieceRun.prepend (front : List Piece) (run : PieceRun) : PieceRun :=
  { run with pieces := front ++ run.pieces }

/-- The text behind an equals sign that shows the code itself, with the shown
code. -/
def shownCode (code after : Text) : Option (Text × Text) :=
  match after with
  | '=' :: rest =>
      let spaces := rest.takeWhile isAsciiSpace
      some (code ++ '=' :: spaces, rest.drop spaces.length)
  | _ => none

def conversionOf (after : Text) : Reader (Option Char × Text) :=
  match after with
  | '!' :: c :: rest =>
      if c = 's' || c = 'r' || c = 'a' then return (some c, rest) else refuse
  | '!' :: [] => refuse
  | _ => return (none, after)

mutual

/-- Adjacent plain pieces are one piece. -/
def mergePieces : List Piece → List Piece
  | .codes a :: rest =>
      match mergePieces rest with
      | .codes b :: more => .codes (a ++ b) :: more
      | merged => .codes a :: merged
  | piece :: rest => mergeSpec piece :: mergePieces rest
  | [] => []

def mergeSpec : Piece → Piece
  | .formattedValue value conversion spec =>
      .formattedValue value conversion (mergePieces spec)
  | .codes codes => .codes codes
  | .value value conversion => .value value conversion

end

/-- Reads the pieces of formatted text, or of a specification within it, which
ends at a closing brace. Values nest in specifications once. -/
def piecesFrom (reader : Reader Operand) (raw : Bool) :
    (fuel : Nat) → (level line : Nat) → Text → Reader PieceRun
  | 0, _, _, _ => refuse
  | fuel + 1, level, line, text =>
      match literalRun raw (level ≠ 0) (text.length + 1) text with
      | none => refuse
      | some run => do
          let codes ←
            match decodeText raw run.body with
            | some codes => pure codes
            | none => refuse
          let line := line + lineEnds text - lineEnds run.rest
          let front := someCodes codes
          if run.again then
            let more ← piecesFrom reader raw fuel level line run.rest
            return more.prepend front
          else
            match run.rest with
            | '\x7b' :: inner =>
                if level ≥ 2 then refuse
                else
                  match scanCode {} (inner.length + 1) inner with
                  | none | some (_, []) => refuse
                  | some (code, after) => do
                      let value ← nestedValue reader line code
                      let shown := shownCode code after
                      let after := (shown.map Prod.snd).getD after
                      let (conversion, after) ← conversionOf after
                      let label := (shown.map Prod.fst).getD []
                      let front := front ++ someCodes (label.map Char.toNat)
                      let line := line + lineEnds inner - lineEnds after
                      match after with
                      | '\x7d' :: rest => do
                          let conversion :=
                            if shown.isSome && conversion.isNone then some 'r' else conversion
                          let more ← piecesFrom reader raw fuel level line rest
                          return more.prepend (front ++ [.value value conversion])
                      | ':' :: spec => do
                          if spec.isEmpty then refuse
                          let inside ← piecesFrom reader raw fuel (level + 1) line spec
                          match inside.rest with
                          | '\x7d' :: rest => do
                              let more ← piecesFrom reader raw fuel level inside.line rest
                              return more.prepend
                                (front ++ [.formattedValue value conversion inside.pieces])
                          | _ => refuse
                      | _ => refuse
            | rest => return ⟨front, line, rest⟩

def formattedPieces (reader : Reader Operand) (raw : Bool) (line : Nat) (body : Text) :
    Reader (List Piece) := do
  let run ← piecesFrom reader raw (body.length + 2) 0 line body
  if run.rest.isEmpty then return run.pieces else refuse

/-- The pieces of one literal that is no bytes. -/
def literalPieces (reader : Reader Operand) (line : Nat) (token : StringToken) :
    Reader (List Piece) :=
  if token.formatted then formattedPieces reader token.raw line token.body
  else
    match decodeText token.raw token.body with
    | some codes => return someCodes codes
    | none => refuse

def literalBytes (line : Nat) (token : StringToken) : Reader (List Nat) :=
  if !isAscii token.body then refuseAt line
  else
    match decodeBytes token.raw token.body with
    | some bytes => return bytes
    | none => refuse

def allPieces (reader : Reader Operand) : List (Nat × StringToken) → Reader (List Piece)
  | [] => return []
  | (line, token) :: rest => do
      if token.bytes then
        let _ ← literalBytes line token
        refuse
      else
        let first ← literalPieces reader line token
        return first ++ (← allPieces reader rest)

def allBytes (reader : Reader Operand) : List (Nat × StringToken) → Reader (List Nat)
  | [] => return []
  | (line, token) :: rest => do
      if token.bytes then
        let first ← literalBytes line token
        return first ++ (← allBytes reader rest)
      else
        let _ ← literalPieces reader line token
        refuse

def plainCodes : List Piece → List Nat
  | .codes codes :: rest => codes ++ plainCodes rest
  | _ :: rest => plainCodes rest
  | [] => []

/-- The expression that a sequence of literals stands for. -/
def joinLiterals (reader : Reader Operand) (tokens : List (Nat × StringToken)) :
    Reader Expr := do
  match tokens with
  | [] => refuse
  | (_, first) :: _ =>
      if first.bytes then return .literal (.bytes (← allBytes reader tokens))
      else
        let pieces ← allPieces reader tokens
        if tokens.any (·.2.formatted) then return .formatted (mergePieces pieces)
        else return .literal (.text (plainCodes pieces) first.marked)

def stringTokens : Reader (List (Nat × StringToken)) := do
  let isString : Reader Bool := do
    match ← peek with
    | .string _ => return true
    | _ => return false
  many isString do
    let line ← nextLine
    match ← peek with
    | .string token =>
        skip
        return (line, token)
    | _ => refuse

end MessageForge.Source
