import MessageForge.Source.Grammar.Expressions

/-!
# Patterns

The patterns of case blocks. They are only checked, since no declaration is
made of them.
-/

namespace MessageForge.Source

open Reader

def wildcard : Text := "_"

/-- A name that is bound, which is followed by nothing that would make it a
part of something longer. -/
def captureTarget : Reader Unit := do
  let id ← name
  if id = wildcard then refuse
  match ← peek with
  | .symbol .dot | .symbol .openParen | .symbol .assign => refuse
  | _ => return ()

def isImaginary : Literal → Bool
  | .imaginary _ => true
  | _ => false

def signedNumber : Reader Unit := do
  let _ ← acceptSymbol (.binary .subtract)
  match ← peek with
  | .number value =>
      skip
      match ← peek with
      | .symbol (.binary .add) | .symbol (.binary .subtract) =>
          if isImaginary value then refuse
          skip
          match ← peek with
          | .number second => if isImaginary second then skip else refuse
          | _ => refuse
      | _ => return ()
  | _ => refuse

def dottedTail : Reader (List Text) :=
  many (nextIs .dot) do
    skip
    name

def startsPattern (next : TokenKind) : Bool :=
  match next with
  | .name _ | .number _ | .string _ => true
  | .keyword .noneWord | .keyword .trueWord | .keyword .falseWord => true
  | .symbol (.binary .subtract) | .symbol .openParen | .symbol .openBracket
  | .symbol .openBrace => true
  | _ => false

def startsStarPattern : Reader Bool := do
  let next ← peek
  return startsPattern next || next = .symbol starSymbol

/-- A pattern that may be a starred name. -/
def starPattern (pattern : Reader Unit) : Reader Bool := do
  if ← acceptSymbol starSymbol then
    match ← peek with
    | .name id =>
        if id = wildcard then skip else captureTarget
        return true
    | _ => refuse
  else
    pattern
    return false

def literalStrings (parts : Parts) : Reader Unit := do
  let tokens ← stringTokens
  let _ ← joinLiterals (starExpressions parts) tokens

def mappingKey (parts : Parts) : Reader Unit := do
  match ← peek with
  | .name _ =>
      skip
      let tail ← dottedTail
      if tail.isEmpty then refuse
  | .string _ => literalStrings parts
  | .keyword .noneWord | .keyword .trueWord | .keyword .falseWord => skip
  | _ => signedNumber

/-- An item of a mapping; the flag says that it takes the rest. -/
def mappingItem (parts : Parts) (pattern : Reader Unit) : Reader Bool := do
  if ← acceptSymbol doubleStarSymbol then
    captureTarget
    return true
  else
    mappingKey parts
    expectSymbol .colon
    pattern
    return false

def startsMappingItem : Reader Bool := do
  let next ← peek
  return startsPattern next || next = .symbol doubleStarSymbol

/-- An argument of a class pattern; the flag says that it has a keyword. -/
def patternArgument (pattern : Reader Unit) : Reader Bool := do
  match ← peek, ← peekSecond with
  | .name _, .symbol .assign =>
      skip
      skip
      pattern
      return true
  | _, _ =>
      pattern
      return false

/-- Whether no flag comes before a cleared one. -/
def flagsLast : List Bool → Bool
  | [] => true
  | true :: rest => rest.all id
  | false :: rest => flagsLast rest

def classArguments (pattern : Reader Unit) : Reader Unit := do
  if ← acceptSymbol .closeParen then return ()
  else
    let starts : Reader Bool := do return startsPattern (← peek)
    let (flags, _) ← commaItems starts (patternArgument pattern)
    if !flagsLast flags then refuse
    expectSymbol .closeParen

def closedPattern (parts : Parts) (pattern : Reader Unit) : Reader Unit := do
  match ← peek with
  | .name id =>
      skip
      let tail ← dottedTail
      if ← acceptSymbol .openParen then classArguments pattern
      else if tail.isEmpty && id ≠ wildcard && (← nextIs .assign) then refuse
      else return ()
  | .string _ => literalStrings parts
  | .keyword .noneWord | .keyword .trueWord | .keyword .falseWord => skip
  | .symbol .openParen =>
      skip
      if ← acceptSymbol .closeParen then return ()
      else
        let starred ← starPattern pattern
        let (_, comma) ← moreItems startsStarPattern (starPattern pattern)
        if starred && !comma then refuse
        expectSymbol .closeParen
  | .symbol .openBracket =>
      skip
      if ← acceptSymbol .closeBracket then return ()
      else
        let _ ← commaItems startsStarPattern (starPattern pattern)
        expectSymbol .closeBracket
  | .symbol .openBrace =>
      skip
      if ← acceptSymbol .closeBrace then return ()
      else
        let (flags, _) ← commaItems startsMappingItem (mappingItem parts pattern)
        if flags.dropLast.any id then refuse
        expectSymbol .closeBrace
  | _ => signedNumber

/-- Alternatives and possibly a name for the whole. -/
def patternWith (parts : Parts) (pattern : Reader Unit) : Reader Unit := do
  closedPattern parts pattern
  let _ ← many (nextIs (.binary .bitOr)) do
    skip
    closedPattern parts pattern
  if ← acceptWord .asWord then captureTarget

def patternAt (parts : Parts) : (depth : Nat) → Reader Unit
  | 0 => refuse
  | depth + 1 => patternWith parts (patternAt parts depth)

/-- The pattern of a case, which may be a sequence without brackets. -/
def casePattern (parts : Parts) : Reader Unit := do
  let tokens ← remaining
  let pattern := patternAt parts (tokens.length + 1)
  let starred ← starPattern pattern
  let (_, comma) ← moreItems startsStarPattern (starPattern pattern)
  if starred && !comma then refuse

end MessageForge.Source
