import MessageForge.Source.Grammar.Patterns

/-!
# Statements

The grammar of statements. Compound statements are checked, but only classes,
imports, annotated names and expressions leave a node of their own.
-/

namespace MessageForge.Source

open Reader

/-! ## Simple statements -/

/-- An expression on the right of an assignment. -/
def assigned (parts : Parts) : Reader (Operand × Bool) := do
  if ← nextIsWord .yieldWord then return (← yieldExpression parts, true)
  else return (← starExpressions parts, false)

def assignedExpr (parts : Parts) : Reader Expr := do
  let (operand, _) ← assigned parts
  return operand.expr

/-- Refuses a target that cannot stand before the coming symbol. -/
def refuseTarget {α : Type} (target : Operand) (rest : Reader Unit) : Reader α := do
  if ← lookahead (do skip; rest) then refuseAt target.line else refuse

def annotated (parts : Parts) (target : Operand) : Reader Node := do
  if target.isSingleTarget then
    skip
    let annotation ← parts .expression
    let value ←
      if ← acceptSymbol .assign then
        let value ← assignedExpr parts
        pure (some value)
      else pure none
    return .annotated target.expr annotation.expr value
  else refuseTarget target (do let _ ← parts .expression)

def requireAssignable (target : Operand × Bool) : Reader Unit := do
  if target.2 then refuseAt target.1.line else requireTarget target.1

/-- All but the last expression of a chain of assignments are targets. -/
def assignment (parts : Parts) (first : Operand × Bool) : Reader Node := do
  let _ ← extend (fun (target : Operand × Bool) => do
    if ← nextIs .assign then
      requireAssignable target
      skip
      return some (← assigned parts)
    else return none) first
  return .other

def expressionStatement (parts : Parts) : Reader Node := do
  let (first, isYield) ← assigned parts
  match ← peek with
  | .symbol .colon => if isYield then refuse else annotated parts first
  | .symbol .assign => assignment parts (first, isYield)
  | .symbol (.augmented _) =>
      let rest : Reader Unit := do let _ ← assigned parts
      if first.isSingleTarget then
        skip
        rest
        return .other
      else refuseTarget first rest
  | _ => return .expression first.expr

def dottedName : Reader Text := do
  let first ← name
  let rest ← many (nextIs .dot) do
    skip
    name
  return Text.join "." (first :: rest)

def asName : Reader (Option Text) := do
  if ← acceptWord .asWord then
    let id ← name
    return some id
  else return none

def startsName : Reader Bool := do
  match ← peek with
  | .name _ => return true
  | _ => return false

def importAlias : Reader Alias := do
  let name ← dottedName
  return { name, asName := ← asName }

def importedName : Reader Alias := do
  let id ← name
  return { name := id, asName := ← asName }

def importStatement : Reader Node := do
  skip
  return .imports (← separated importAlias)

/-- The number of leading dots. -/
def relativeLevel : Reader Nat := do
  let starts : Reader Bool := do
    return (← nextIs .dot) || (← nextIs .ellipsis)
  let dots ← many starts do
    let three ← nextIs .ellipsis
    skip
    return if three then 3 else 1
  return dots.foldl (· + ·) 0

def importFromStatement : Reader Node := do
  skip
  let level ← relativeLevel
  let module ←
    if ← startsName then
      let id ← dottedName
      pure (some id)
    else pure none
  if level = 0 && module.isNone then refuse
  expectWord .importWord
  if ← acceptSymbol starSymbol then
    return .importsFrom level module [{ name := "*" }]
  else if ← acceptSymbol .openParen then
    let (names, _) ← commaItems startsName importedName
    expectSymbol .closeParen
    return .importsFrom level module names
  else
    let names ← separated importedName
    return .importsFrom level module names

def namesStatement : Reader Node := do
  skip
  let _ ← separated name
  return .other

def raiseStatement (parts : Parts) : Reader Node := do
  skip
  if startsExpression (← peek) then
    let _ ← parts .expression
    if ← acceptWord .fromWord then
      let _ ← parts .expression
  return .other

def assertStatement (parts : Parts) : Reader Node := do
  skip
  let _ ← parts .expression
  if ← acceptSymbol .comma then
    let _ ← parts .expression
  return .other

def deleteStatement (parts : Parts) : Reader Node := do
  skip
  let target ← starExpressions parts
  match target.badDeletion with
  | some line => refuseAt line
  | none => return .other

def returnStatement (parts : Parts) : Reader Node := do
  skip
  if ← startsStarred then
    let _ ← starExpressions parts
  return .other

def simpleStatement (parts : Parts) : Reader Stmt := do
  let line ← nextLine
  let node ←
    match ← peek with
    | .keyword .passWord =>
        skip
        pure .pass
    | .keyword .breakWord | .keyword .continueWord =>
        skip
        pure .other
    | .keyword .returnWord => returnStatement parts
    | .keyword .raiseWord => raiseStatement parts
    | .keyword .assertWord => assertStatement parts
    | .keyword .delWord => deleteStatement parts
    | .keyword .globalWord | .keyword .nonlocalWord => namesStatement
    | .keyword .importWord => importStatement
    | .keyword .fromWord => importFromStatement
    | _ => expressionStatement parts
  return (line, node)

/-- Simple statements on one line, with semicolons between them. -/
def simpleStatements (parts : Parts) : Reader (List Stmt) := do
  let first ← simpleStatement parts
  let more ← extend (fun (done : List Stmt) => do
    if ← acceptSymbol .semicolon then
      if (← peek) = .newline then return none
      else
        let next ← simpleStatement parts
        return some (done ++ [next])
    else return none) [first]
  expect .newline
  return more

/-! ## Compound statements -/

/-- A block: the rest of the line or indented lines. -/
def block (parts : Parts) (statement : Reader (List Stmt)) : Reader (List Stmt) := do
  if ← accept .newline then
    expect .indent
    let first ← statement
    let goesOn : Reader Bool := do return (← peek) ≠ .dedent
    let more ← many goesOn statement
    expect .dedent
    return first ++ more.flatten
  else simpleStatements parts

def colonBlock (parts : Parts) (statement : Reader (List Stmt)) : Reader (List Stmt) := do
  expectSymbol .colon
  block parts statement

def elseBlock (parts : Parts) (statement : Reader (List Stmt)) : Reader Unit := do
  if ← acceptWord .elseWord then
    let _ ← colonBlock parts statement

def ifStatement (parts : Parts) (statement : Reader (List Stmt)) : Reader Node := do
  skip
  let _ ← namedExpression parts
  let _ ← colonBlock parts statement
  let _ ← many (nextIsWord .elifWord) do
    skip
    let _ ← namedExpression parts
    colonBlock parts statement
  elseBlock parts statement
  return .other

def whileStatement (parts : Parts) (statement : Reader (List Stmt)) : Reader Node := do
  skip
  let _ ← namedExpression parts
  let _ ← colonBlock parts statement
  elseBlock parts statement
  return .other

def forStatement (parts : Parts) (statement : Reader (List Stmt)) : Reader Node := do
  skip
  let _ ← loopTarget parts
  expectWord .inWord
  let _ ← starExpressions parts
  let _ ← colonBlock parts statement
  elseBlock parts statement
  return .other

def withItem (parts : Parts) : Reader Unit := do
  let _ ← parts .expression
  if ← acceptWord .asWord then
    let target ← if ← nextIs starSymbol then starredPart parts else parts .bitOr
    requireTarget target

def withHeader (parts : Parts) : Reader Unit := do
  let _ ← separated (withItem parts)
  expectSymbol .colon

def parenthesizedHeader (parts : Parts) : Reader Unit := do
  expectSymbol .openParen
  let starts : Reader Bool := do return startsExpression (← peek)
  let _ ← commaItems starts (withItem parts)
  expectSymbol .closeParen
  expectSymbol .colon

/-- Parentheses may enclose the items or belong to the first of them. -/
def withStatement (parts : Parts) (statement : Reader (List Stmt)) : Reader Node := do
  skip
  if ← nextIs .openParen then orElse (parenthesizedHeader parts) (withHeader parts)
  else withHeader parts
  let _ ← block parts statement
  return .other

/-- A handler; the flag says that it handles groups. -/
def exceptBlock (parts : Parts) (statement : Reader (List Stmt)) : Reader Bool := do
  skip
  let group ← acceptSymbol starSymbol
  if group || !(← nextIs .colon) then
    let _ ← parts .expression
    if ← acceptWord .asWord then
      let _ ← name
  let _ ← colonBlock parts statement
  return group

def tryStatement (parts : Parts) (statement : Reader (List Stmt)) : Reader Node := do
  skip
  let _ ← colonBlock parts statement
  let handlers ← many (nextIsWord .exceptWord) (exceptBlock parts statement)
  if handlers.any id && handlers.any (!·) then refuse
  if !handlers.isEmpty then elseBlock parts statement
  if ← acceptWord .finallyWord then
    let _ ← colonBlock parts statement
  else if handlers.isEmpty then refuse
  return .other

def defStatement (parts : Parts) (statement : Reader (List Stmt)) : Reader Node := do
  skip
  let _ ← name
  expectSymbol .openParen
  let _ ← parameters parts true .closeParen
  expectSymbol .closeParen
  if ← acceptSymbol .arrow then
    let _ ← parts .expression
  let _ ← colonBlock parts statement
  return .other

def classStatement (parts : Parts) (decorators : List Expr) (statement : Reader (List Stmt)) :
    Reader Node := do
  skip
  let id ← name
  let (bases, keywords) ←
    if ← acceptSymbol .openParen then arguments parts false else pure ([], [])
  let body ← colonBlock parts statement
  return .classDef id decorators bases keywords body

def asyncStatement (parts : Parts) (statement : Reader (List Stmt)) : Reader Node := do
  skip
  match ← peek with
  | .keyword .defWord => defStatement parts statement
  | .keyword .withWord => withStatement parts statement
  | .keyword .forWord => forStatement parts statement
  | _ => refuse

def caseBlock (parts : Parts) (statement : Reader (List Stmt)) : Reader Unit := do
  match ← peek with
  | .name id => if id = "case" then skip else refuse
  | _ => refuse
  casePattern parts
  if ← acceptWord .ifWord then
    let _ ← namedExpression parts
  let _ ← colonBlock parts statement

/-- The head of a match statement, by which it differs from a statement that
begins with a name. -/
def matchHeader (parts : Parts) : Reader Unit := do
  skip
  let (items, comma) ← commaItems startsStarred (starNamedExpression parts)
  match items, comma with
  | [item], false => if item.isStarred then refuse
  | _, _ => pure ()
  expectSymbol .colon
  expect .newline

def matchStatement (parts : Parts) (statement : Reader (List Stmt)) : Reader Unit := do
  expect .indent
  caseBlock parts statement
  let goesOn : Reader Bool := do return (← peek) ≠ .dedent
  let _ ← many goesOn (caseBlock parts statement)
  expect .dedent

/-- A statement that begins with the word of match statements. -/
def matchOrSimple (parts : Parts) (statement : Reader (List Stmt)) : Reader (List Stmt) := do
  let line ← nextLine
  let header : Reader (Option (List Stmt)) := do
    matchHeader parts
    return none
  let simple : Reader (Option (List Stmt)) := do
    return some (← simpleStatements parts)
  match ← orElse header simple with
  | some statements => return statements
  | none =>
      matchStatement parts statement
      return [(line, .other)]

def decorator (parts : Parts) : Reader Expr := do
  skip
  let operand ← namedExpression parts
  expect .newline
  return operand.expr

/-- A decorated definition begins where the definition itself begins. -/
def decoratedStatement (parts : Parts) (statement : Reader (List Stmt)) : Reader Stmt := do
  let decorators ← many (nextIs (.binary .matrix)) (decorator parts)
  let line ← nextLine
  match ← peek with
  | .keyword .classWord => return (line, ← classStatement parts decorators statement)
  | .keyword .defWord => return (line, ← defStatement parts statement)
  | .keyword .asyncWord =>
      match ← peekSecond with
      | .keyword .defWord => return (line, ← asyncStatement parts statement)
      | _ =>
          skip
          refuse
  | _ => refuse

def statementWith (parts : Parts) (statement : Reader (List Stmt)) : Reader (List Stmt) := do
  let line ← nextLine
  let compound (node : Reader Node) : Reader (List Stmt) := do
    return [(line, ← node)]
  match ← peek with
  | .keyword .ifWord => compound (ifStatement parts statement)
  | .keyword .whileWord => compound (whileStatement parts statement)
  | .keyword .forWord => compound (forStatement parts statement)
  | .keyword .withWord => compound (withStatement parts statement)
  | .keyword .tryWord => compound (tryStatement parts statement)
  | .keyword .defWord => compound (defStatement parts statement)
  | .keyword .classWord => compound (classStatement parts [] statement)
  | .keyword .asyncWord => compound (asyncStatement parts statement)
  | .symbol (.binary .matrix) => do
      return [← decoratedStatement parts statement]
  | .name id =>
      if id = "match" then matchOrSimple parts statement else simpleStatements parts
  | _ => simpleStatements parts

/-- Statements nested at most so deep in blocks. -/
def statementAt (parts : Parts) : (depth : Nat) → Reader (List Stmt)
  | 0 => refuse
  | depth + 1 => statementWith parts (statementAt parts depth)

def moduleReader (parts : Parts) (depth : Nat) : Reader (List Stmt) := do
  let goesOn : Reader Bool := do return (← peek) ≠ .finish
  let statements ← many goesOn (statementAt parts depth)
  expect .finish
  return statements.flatten

/-! ## Whole texts -/

/-- The tokens of a whole text, in which escapes name no characters any more. -/
def tokensOf (characters : CharacterNames) (text : Text) : List Token :=
  (tokenize 1 text).map (Token.spelled characters)

/-- The statements of a text, or the line on which it is found to be no
module. -/
def parseModule (characters : CharacterNames) (text : Text) : Except Nat (List Stmt) :=
  let tokens := tokensOf characters text
  match moduleReader (partsAt (text.length + 1)) (tokens.length + 1) tokens with
  | .ok (statements, _) => .ok statements
  | .error refusal => .error refusal.reportedLine

def expressionReader (parts : Parts) : Reader Expr := do
  let line ← nextLine
  let starts : Reader Bool := do return startsExpression (← peek)
  let (items, comma) ← commaItems starts (parts .expression)
  let _ ← many (do return (← peek) = .newline) skip
  expect .finish
  return (itemsOperand items comma line).expr

/-- The expression that a whole text is. -/
def parseExpression (characters : CharacterNames) (text : Text) : Except Nat Expr :=
  match expressionReader (partsAt (text.length + 1)) (tokensOf characters text) with
  | .ok (expr, _) => .ok expr
  | .error refusal => .error refusal.reportedLine

end MessageForge.Source
