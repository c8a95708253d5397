import MessageForge.Source.Grammar.Formatted

/-!
# Expressions

The grammar of expressions, one reader per level of precedence. Every level is
given readers for the parts within it; the readers for whole texts tie the
knot by depth of nesting.
-/

namespace MessageForge.Source

open Reader

/-! ## Sequences -/

def startsClause : Reader Bool := do
  match ← peek with
  | .keyword .forWord => return true
  | .keyword .asyncWord => return (← peekSecond) = .keyword .forWord
  | _ => return false

/-- Whether an expression may begin with a token. -/
def startsExpression : TokenKind → Bool
  | .name _ | .number _ | .string _ => true
  | .keyword word =>
      match word with
      | .falseWord | .noneWord | .trueWord | .awaitWord | .lambdaWord | .notWord => true
      | _ => false
  | .symbol symbol =>
      match symbol with
      | .openParen | .openBracket | .openBrace | .ellipsis | .tilde
      | .binary .add | .binary .subtract => true
      | _ => false
  | _ => false

def starSymbol : Symbol := .binary .multiply
def doubleStarSymbol : Symbol := .binary .power

def startsStarred : Reader Bool := do
  let next ← peek
  return startsExpression next || next = .symbol starSymbol

/-- A comma makes a tuple. -/
def itemsOperand (items : List Operand) (comma : Bool) (line : Nat) : Operand :=
  match items with
  | [item] => if comma then Operand.tuple [item] line else item
  | _ => Operand.tuple items line

/-- Further items may follow only directly behind a comma. -/
def sequenceOf (starts : Reader Bool) (item : Reader Operand) : Reader Operand := do
  let line ← nextLine
  let (items, comma) ← commaItems starts item
  return itemsOperand items comma line

def starredPart (parts : Parts) : Reader Operand := do
  let line ← nextLine
  expectSymbol starSymbol
  let operand ← parts .bitOr
  return operand.starred line

def starExpression (parts : Parts) : Reader Operand := do
  if ← nextIs starSymbol then starredPart parts else parts .expression

/-- One or more expressions, some of them starred; with a comma a tuple. -/
def starExpressions (parts : Parts) : Reader Operand :=
  sequenceOf startsStarred (starExpression parts)

def startsBinding : Reader Bool := do
  match ← peek, ← peekSecond with
  | .name _, .symbol .bind => return true
  | _, _ => return false

/-- A name bound within an expression, or an expression. -/
def namedExpression (parts : Parts) : Reader Operand := do
  let line ← nextLine
  match ← peek, ← peekSecond with
  | .name id, .symbol .bind =>
      skip
      skip
      let value ← parts .expression
      return Operand.value (.named (.name id) value.expr) line
  | _, _ =>
      let operand ← parts .expression
      if ← nextIs .bind then
        if ← lookahead (do skip; parts .expression) then refuseAt operand.line else refuse
      else return operand

def starNamedExpression (parts : Parts) : Reader Operand := do
  if ← nextIs starSymbol then starredPart parts else namedExpression parts

def yieldExpression (parts : Parts) : Reader Operand := do
  let line ← nextLine
  expectWord .yieldWord
  if ← acceptWord .fromWord then
    let value ← parts .expression
    return Operand.value (.yieldFrom value.expr) line
  else if ← startsStarred then
    let value ← starExpressions parts
    return Operand.value (.yield (some value.expr)) line
  else return Operand.value (.yield none) line

/-! ## Comprehensions -/

def requireTarget (operand : Operand) : Reader Unit :=
  match operand.badTarget with
  | some line => refuseAt line
  | none => return ()

/-- A target of a loop, which ends before `in`. -/
def loopTarget (parts : Parts) : Reader Expr := do
  let item : Reader Operand := do
    if ← nextIs starSymbol then starredPart parts else parts .bitOr
  let operand ← sequenceOf startsStarred item
  requireTarget operand
  return operand.expr

def clause (parts : Parts) : Reader Clause := do
  let isAsync ← acceptWord .asyncWord
  expectWord .forWord
  let target ← loopTarget parts
  expectWord .inWord
  let source ← parts .disjunction
  let conditions ← many (nextIsWord .ifWord) do
    skip
    let condition ← parts .disjunction
    return condition.expr
  return .mk isAsync target source.expr conditions

def clauses (parts : Parts) : Reader (List Clause) :=
  many startsClause (clause parts)

/-! ## Parameters -/

/-- What has been seen of a parameter list. -/
structure ParameterState where
  count : Nat := 0
  slash : Bool := false
  star : Bool := false
  default : Bool := false
  finished : Bool := false
  items : List LambdaParameter := []

def ParameterState.add (state : ParameterState) (item : LambdaParameter) : ParameterState :=
  { state with count := state.count + 1, items := state.items ++ [item] }

/-- An annotation of a function parameter. Only a rest parameter may have a
starred one. -/
def annotation (parts : Parts) (annotated starred : Bool) : Reader Unit := do
  if annotated then
    if ← acceptSymbol .colon then
      if starred then
        let _ ← starExpression parts
      else
        let _ ← parts .expression

/-- Refuses a star with nothing behind it, on its own line if the parameters are
those of a function. -/
def refuseBareStar {α : Type} (annotated : Bool) (line : Nat) : Reader α := do
  match ← peek with
  | .symbol .closeParen | .symbol (.binary .power) =>
      if annotated then refuseAt line else refuse
  | _ => refuse

def parameter (parts : Parts) (annotated : Bool) (state : ParameterState) :
    Reader ParameterState := do
  let line ← nextLine
  match ← peek with
  | .symbol (.binary .divide) =>
      if state.count = 0 || state.slash || state.star then refuse
      else
        skip
        return { state.add .positionalEnd with slash := true }
  | .symbol (.binary .multiply) =>
      if state.star then refuse
      else
        skip
        match ← peek with
        | .name id =>
            skip
            annotation parts annotated true
            return { state.add (.rest id) with star := true }
        | .symbol .comma =>
            match ← peekSecond with
            | .name _ => return { state.add .keywordStart with star := true }
            | _ =>
                skip
                refuseBareStar annotated line
        | _ => refuseBareStar annotated line
  | .symbol (.binary .power) =>
      skip
      let id ← name
      annotation parts annotated false
      return { state.add (.keywordRest id) with finished := true }
  | .name id =>
      skip
      annotation parts annotated false
      if ← acceptSymbol .assign then
        let value ← parts .expression
        return { state.add (.default id value.expr) with
          default := state.default || !state.star }
      else if state.default && !state.star then refuseAt line
      else return state.add (.plain id)
  | _ => refuse

/-- Parameters up to a closing symbol, which is not taken. -/
def parameters (parts : Parts) (annotated : Bool) (close : Symbol) :
    Reader (List LambdaParameter) := do
  if ← nextIs close then return []
  else
    let first ← parameter parts annotated {}
    let state ← extend (fun (state : ParameterState) => do
      if ← nextIs .comma then
        skip
        if ← nextIs close then return none
        else if state.finished then refuse
        else return some (← parameter parts annotated state)
      else return none) first
    if ← nextIs close then return state.items else refuse

/-! ## Displays -/

/-- The rest of a tuple, group or generator behind its opening parenthesis. -/
def parenthesized (parts : Parts) (line : Nat) : Reader Operand := do
  if ← acceptSymbol .closeParen then return Operand.tuple [] line
  else if ← nextIsWord .yieldWord then
    let operand ← yieldExpression parts
    expectSymbol .closeParen
    return operand.grouped line
  else
    let first ← starNamedExpression parts
    if ← startsClause then
      if first.isStarred then
        let _ ← clauses parts
        refuseAt first.line
      else
        let found ← clauses parts
        expectSymbol .closeParen
        return Operand.value (.generator first.expr found) line
    else if ← nextIs .comma then
      let (more, _) ← moreItems startsStarred (starNamedExpression parts)
      expectSymbol .closeParen
      return Operand.tuple (first :: more) line
    else if first.isStarred then
      if ← nextIs .closeParen then refuseAt first.line else refuse
    else
      expectSymbol .closeParen
      return first.grouped line

/-- Refuses clauses behind several items. -/
def refuseClauses {α : Type} (parts : Parts) (line : Nat) : Reader α := do
  let _ ← clauses parts
  refuseAt line

def bracketed (parts : Parts) (line : Nat) : Reader Operand := do
  if ← acceptSymbol .closeBracket then return Operand.collect .list [] line
  else
    let start ← nextLine
    let (items, comma) ← commaItems startsStarred (starNamedExpression parts)
    if ← startsClause then
      match items, comma with
      | [item], false =>
          let found ← clauses parts
          if item.isStarred then refuseAt start
          expectSymbol .closeBracket
          return Operand.value (.listOf item.expr found) line
      | _, _ => refuseClauses parts start
    else
      expectSymbol .closeBracket
      return Operand.collect .list items line

/-- An item of a dictionary behind the first one. -/
def dictItem (parts : Parts) : Reader DictItem := do
  if ← acceptSymbol doubleStarSymbol then
    let value ← parts .bitOr
    return .spread value.expr
  else
    let key ← parts .expression
    if !(← nextIs .colon) then refuseAt key.line
    let colonLine ← nextLine
    skip
    match ← peek with
    | .symbol .closeBrace | .symbol .comma => refuseAt colonLine
    | _ =>
        let value ← parts .expression
        return .pair key.expr value.expr

def startsDictItem : Reader Bool := do
  let next ← peek
  return startsExpression next || next = .symbol doubleStarSymbol

/-- The rest of a dictionary behind its first item. -/
def dictRest (parts : Parts) (first : DictItem) (line : Nat) : Reader Operand := do
  let (more, _) ← moreItems startsDictItem (dictItem parts)
  expectSymbol .closeBrace
  return Operand.value (.dict (first :: more)) line

def braced (parts : Parts) (line : Nat) : Reader Operand := do
  if ← acceptSymbol .closeBrace then return Operand.value (.dict []) line
  else if ← nextIs doubleStarSymbol then
    let first ← dictItem parts
    dictRest parts first line
  else
    let start ← nextLine
    let binds ← startsBinding
    let first ← starNamedExpression parts
    if (← nextIs .colon) && !first.isStarred && !binds then
      let colonLine ← nextLine
      skip
      match ← peek with
      | .symbol .closeBrace | .symbol .comma => refuseAt colonLine
      | _ =>
          let value ← parts .expression
          if ← startsClause then
            let found ← clauses parts
            expectSymbol .closeBrace
            return Operand.value (.dictOf first.expr value.expr found) line
          else dictRest parts (.pair first.expr value.expr) line
    else if ← startsClause then
      let found ← clauses parts
      if first.isStarred then refuseAt start
      expectSymbol .closeBrace
      return Operand.value (.setOf first.expr found) line
    else
      let (more, _) ← moreItems startsStarred (starNamedExpression parts)
      if (← startsClause) && !more.isEmpty then refuseClauses parts start
      expectSymbol .closeBrace
      return Operand.value (.set ((first :: more).map Operand.expr)) line

/-! ## Atoms and what follows them -/

def atom (parts : Parts) : Reader Operand := do
  let line ← nextLine
  match ← peek with
  | .name id =>
      skip
      return Operand.place (.name id) line
  | .number value =>
      skip
      return Operand.value (.literal value) line
  | .string _ =>
      let tokens ← stringTokens
      let expr ← joinLiterals (starExpressions parts) tokens
      return Operand.value expr line
  | .keyword .trueWord =>
      skip
      return Operand.value (.literal (.truth true)) line
  | .keyword .falseWord =>
      skip
      return Operand.value (.literal (.truth false)) line
  | .keyword .noneWord =>
      skip
      return Operand.value (.literal .none) line
  | .symbol .ellipsis =>
      skip
      return Operand.value (.literal .ellipsis) line
  | .symbol .openParen =>
      skip
      parenthesized parts line
  | .symbol .openBracket =>
      skip
      bracketed parts line
  | .symbol .openBrace =>
      skip
      braced parts line
  | _ => refuse

/-- What has been read of the arguments of a call. `misplaced` says that a
positional argument came behind a keyword. -/
structure ArgumentState where
  positional : List Expr := []
  keywords : List Argument := []
  spread : Bool := false
  misplaced : Bool := false
  count : Nat := 0

def ArgumentState.addPositional (state : ArgumentState) (expr : Expr) (starred : Bool) :
    ArgumentState :=
  { state with
    positional := state.positional ++ [expr]
    misplaced := state.misplaced || (!starred && !state.keywords.isEmpty)
    count := state.count + 1 }

def ArgumentState.addKeyword (state : ArgumentState) (argument : Argument) (spread : Bool) :
    ArgumentState :=
  { state with
    keywords := state.keywords ++ [argument]
    spread := state.spread || spread
    count := state.count + 1 }

/-- One argument. A generator needs no parentheses of its own where it is the
only argument of a call. -/
def argument (parts : Parts) (start : Nat) (generators : Bool) (state : ArgumentState) :
    Reader ArgumentState := do
  let line ← nextLine
  match ← peek, ← peekSecond with
  | .symbol (.binary .multiply), _ =>
      if state.spread then refuseAt start
      skip
      let value ← parts .expression
      return state.addPositional (.starred value.expr) true
  | .symbol (.binary .power), _ =>
      skip
      let value ← parts .expression
      return state.addKeyword (.spread value.expr) true
  | .name id, .symbol .assign =>
      skip
      skip
      let value ← parts .expression
      if ← startsClause then refuseAt line
      return state.addKeyword (.keyword id value.expr) false
  | _, _ =>
      let operand ← namedExpression parts
      if ← nextIs .assign then refuseAt operand.line
      if ← startsClause then
        let found ← clauses parts
        if generators && state.count = 0 && (← nextIs .closeParen) then
          return state.addPositional (.generator operand.expr found) false
        else refuseAt operand.line
      else return state.addPositional operand.expr false

/-- The arguments of a call up to the closing parenthesis, which is taken. -/
def arguments (parts : Parts) (generators : Bool) :
    Reader (List Expr × List Argument) := do
  if ← acceptSymbol .closeParen then return ([], [])
  else
    let start ← nextLine
    let first ← argument parts start generators {}
    let state ← extend (fun (state : ArgumentState) => do
      if ← nextIs .comma then
        skip
        if ← nextIs .closeParen then return none
        else return some (← argument parts start generators state)
      else return none) first
    if state.misplaced then refuse
    expectSymbol .closeParen
    return (state.positional, state.keywords)

def startsSlice : Reader Bool := do
  return (← startsStarred) || (← nextIs .colon)

def optionalExpression (parts : Parts) : Reader (Option Expr) := do
  if startsExpression (← peek) then
    let operand ← parts .expression
    return some operand.expr
  else return none

/-- The rest of a slice behind its first colon. -/
def sliceRest (parts : Parts) (lower : Option Expr) (line : Nat) : Reader Operand := do
  let upper ← optionalExpression parts
  let step ←
    if ← acceptSymbol .colon then optionalExpression parts else pure none
  return Operand.value (.slice lower upper step) line

def sliceItem (parts : Parts) : Reader Operand := do
  let line ← nextLine
  if ← acceptSymbol starSymbol then
    let value ← parts .expression
    return value.starred line
  else if ← acceptSymbol .colon then sliceRest parts none line
  else
    let binds ← startsBinding
    let first ← namedExpression parts
    if ← nextIs .colon then
      if binds then refuse
      else
        skip
        sliceRest parts (some first.expr) line
    else return first

/-- A comma or a star makes the index a tuple. -/
def indexExpression (parts : Parts) : Reader Expr := do
  let line ← nextLine
  let (items, comma) ← commaItems startsSlice (sliceItem parts)
  match items, comma with
  | [item], false => return if item.isStarred then .tuple [item.expr] else item.expr
  | _, _ => return (Operand.tuple items line).expr

def suffix (parts : Parts) (operand : Operand) : Reader (Option Operand) := do
  match ← peek with
  | .symbol .dot =>
      skip
      let id ← name
      return some (Operand.place (.attribute operand.expr id) operand.line)
  | .symbol .openParen =>
      skip
      let (positional, keywords) ← arguments parts true
      return some
        (Operand.value (.call operand.expr positional keywords operand.line) operand.line)
  | .symbol .openBracket =>
      skip
      let index ← indexExpression parts
      expectSymbol .closeBracket
      return some (Operand.place (.subscript operand.expr index) operand.line)
  | _ => return none

def primary (parts : Parts) : Reader Operand := do
  let first ← atom parts
  extend (suffix parts) first

def awaited (parts : Parts) : Reader Operand := do
  let line ← nextLine
  if ← acceptWord .awaitWord then
    let operand ← primary parts
    return Operand.value (.await operand.expr) line
  else primary parts

/-! ## Operators -/

def power (parts : Parts) : Reader Operand := do
  let base ← awaited parts
  if ← acceptSymbol doubleStarSymbol then
    let exponent ← parts .factor
    return Operand.value (.binary .power base.expr exponent.expr) base.line
  else return base

def factor (parts : Parts) : Reader Operand := do
  let line ← nextLine
  let op : Option UnaryOp :=
    match ← peek with
    | .symbol (.binary .add) => some .plus
    | .symbol (.binary .subtract) => some .minus
    | .symbol .tilde => some .invert
    | _ => none
  match op with
  | some op =>
      skip
      let operand ← parts .factor
      return Operand.value (.unary op operand.expr) line
  | none => power parts

/-- A left-associative level of binary operators. -/
def binaryLevel (belongs : BinaryOp → Bool) (next : Reader Operand) : Reader Operand := do
  let first ← next
  extend (fun (left : Operand) => do
    match ← peek with
    | .symbol (.binary op) =>
        if belongs op then
          skip
          let right ← next
          return some (Operand.value (.binary op left.expr right.expr) left.line)
        else return none
    | _ => return none) first

def term (parts : Parts) : Reader Operand :=
  binaryLevel [.multiply, .divide, .floorDivide, .modulo, .matrix].contains (factor parts)

def sum (parts : Parts) : Reader Operand :=
  binaryLevel [.add, .subtract].contains (term parts)

def shift (parts : Parts) : Reader Operand :=
  binaryLevel [.shiftLeft, .shiftRight].contains (sum parts)

def bitAnd (parts : Parts) : Reader Operand :=
  binaryLevel [.bitAnd].contains (shift parts)

def bitXor (parts : Parts) : Reader Operand :=
  binaryLevel [.bitXor].contains (bitAnd parts)

def bitOr (parts : Parts) : Reader Operand :=
  binaryLevel [.bitOr].contains (bitXor parts)

/-- The operator of a comparison, some of which are two words. -/
def compareOp : Reader (Option CompareOp) := do
  match ← peek, ← peekSecond with
  | .symbol (.compare op), _ =>
      skip
      return some op
  | .keyword .inWord, _ =>
      skip
      return some .within
  | .keyword .notWord, .keyword .inWord =>
      skip
      skip
      return some .notWithin
  | .keyword .isWord, second =>
      skip
      if second = .keyword .notWord then
        skip
        return some .notSame
      else return some .same
  | _, _ => return none

def comparison (parts : Parts) : Reader Operand := do
  let left ← bitOr parts
  let rest ← extend (fun (rest : List Comparison) => do
    match ← compareOp with
    | some op =>
        let right ← bitOr parts
        return some (rest ++ [.mk op right.expr])
    | none => return none) []
  if rest.isEmpty then return left
  else return Operand.value (.compare left.expr rest) left.line

def inversion (parts : Parts) : Reader Operand := do
  let line ← nextLine
  if ← acceptWord .notWord then
    let operand ← parts .inversion
    return Operand.value (.unary .not operand.expr) line
  else comparison parts

/-- A chain of operands with a word between them. -/
def booleanLevel (op : BoolOp) (word : Keyword) (next : Reader Operand) : Reader Operand := do
  let first ← next
  let more ← many (nextIsWord word) do
    skip
    next
  if more.isEmpty then return first
  else return Operand.value (.boolean op ((first :: more).map Operand.expr)) first.line

def conjunction (parts : Parts) : Reader Operand :=
  booleanLevel .all .andWord (inversion parts)

def disjunction (parts : Parts) : Reader Operand :=
  booleanLevel .any .orWord (conjunction parts)

def lambda (parts : Parts) : Reader Operand := do
  let line ← nextLine
  expectWord .lambdaWord
  let found ← parameters parts false .colon
  expectSymbol .colon
  let body ← parts .expression
  return Operand.value (.lambda found body.expr) line

def isOpener (kind : TokenKind) : Bool :=
  match kind with
  | .symbol .openParen | .symbol .openBracket | .symbol .openBrace => true
  | _ => false

/-- Whether brackets are open before the next token. -/
def withinBrackets : Reader Bool := do
  match ← remaining with
  | token :: _ => return (if isOpener token.kind then 1 else 0) < token.depth
  | [] => return false

/-- Words that begin statements in some contexts and are names in others. -/
def softKeywords : List Text := ["match", "case", "_"]

/-- Names of former statements that took their arguments without brackets. -/
def formerStatements : List Text := ["print", "exec"]

def beginsSoftly : Reader Bool := do
  match ← peek, ← peekSecond with
  | .name _, .string _ => return true
  | .name id, _ => return softKeywords.contains id
  | _, _ => return false

/-- Refuses two expressions next to each other: within brackets, where a comma
is missing behind the first, and behind the word of a former statement. -/
def refuseAdjacent (parts : Parts) (softly : Bool) (first : Operand) : Reader Unit := do
  let former : Bool :=
    match first.expr with
    | .name id => formerStatements.contains id
    | _ => false
  if startsExpression (← peek) && (former || (!softly && (← withinBrackets))) then
    if ← lookahead (parts .expression) then refuseAt first.line

def expression (parts : Parts) : Reader Operand := do
  if ← nextIsWord .lambdaWord then lambda parts
  else
    let softly ← beginsSoftly
    let body ← disjunction parts
    if ← acceptWord .ifWord then
      let test ← parts .disjunction
      if !(← acceptWord .elseWord) then
        if ← nextIs .colon then refuse else refuseAt body.line
      let alternative ← parts .expression
      return Operand.value (.conditional test.expr body.expr alternative.expr) body.line
    else
      refuseAdjacent parts softly body
      return body

/-- Readers for expressions nested at most so deep. Each step inwards takes a
token. -/
def partsAt : (depth : Nat) → Parts
  | 0 => fun _ => refuse
  | depth + 1 => fun
      | .expression => expression (partsAt depth)
      | .disjunction => disjunction (partsAt depth)
      | .inversion => inversion (partsAt depth)
      | .bitOr => bitOr (partsAt depth)
      | .factor => factor (partsAt depth)

end MessageForge.Source
