import MessageForge.Source.Token

/-!
# Readers

A reader takes tokens from the front of a list. It is refused at the first
token that does not fit, or with the line of an earlier construct that is the
cause. From a refusal the line of the diagnostic is computed: faults of the
text that come later but are raised win over most misplaced tokens.
-/

namespace MessageForge.Source

/-- `rest` begins with the token that did not fit. -/
structure Refusal where
  line : Option Nat := none
  rest : List Token

abbrev Reader := StateT (List Token) (Except Refusal)

/-- The line on which a fault is reported when it is met directly. -/
def faultLine (token : Token) : Fault → Nat
  | .raised line => line
  | .quiet (some opener) true => opener
  | .quiet _ _ => token.line

/-- The line that a later fault gives to a refusal at `line`. -/
def laterFaultLine (line : Nat) (reported : Nat) : List Token → Nat
  | [] => reported
  | token :: rest =>
      match token.kind with
      | .fault (.raised raisedLine) => raisedLine
      | .fault (.quiet (some opener) _) => if opener < line then opener else reported
      | .fault (.quiet none _) => reported
      | _ => laterFaultLine line reported rest

/-- Misplaced indentation is reported at once, whatever comes later. -/
def Refusal.reportedLine (refusal : Refusal) : Nat :=
  match refusal.rest with
  | [] => refusal.line.getD 1
  | token :: rest =>
      match token.kind, refusal.line with
      | .fault fault, _ => faultLine token fault
      | .indent, none | .dedent, none => token.line
      | _, line => laterFaultLine token.line (line.getD token.line) rest

namespace Reader

def refuse {α : Type} : Reader α :=
  fun tokens => .error { rest := tokens }

def refuseAt {α : Type} (line : Nat) : Reader α :=
  fun tokens => .error { line := some line, rest := tokens }

def remaining : Reader (List Token) :=
  fun tokens => .ok (tokens, tokens)

def peek : Reader TokenKind :=
  fun tokens => .ok ((tokens.head?.map Token.kind).getD .finish, tokens)

def peekSecond : Reader TokenKind :=
  fun tokens => .ok (((tokens.drop 1).head?.map Token.kind).getD .finish, tokens)

/-- The line of the next token. -/
def nextLine : Reader Nat :=
  fun tokens => .ok ((tokens.head?.map Token.line).getD 1, tokens)

def skip : Reader Unit :=
  fun tokens => .ok ((), tokens.drop 1)

/-- Takes the token if it comes next. -/
def accept (kind : TokenKind) : Reader Bool :=
  fun tokens =>
    match tokens with
    | token :: rest => if token.kind = kind then .ok (true, rest) else .ok (false, tokens)
    | [] => .ok (false, [])

def expect (kind : TokenKind) : Reader Unit := do
  if !(← accept kind) then refuse

def acceptSymbol (symbol : Symbol) : Reader Bool :=
  accept (.symbol symbol)

def expectSymbol (symbol : Symbol) : Reader Unit :=
  expect (.symbol symbol)

def acceptWord (word : Keyword) : Reader Bool :=
  accept (.keyword word)

def expectWord (word : Keyword) : Reader Unit :=
  expect (.keyword word)

def nextIs (symbol : Symbol) : Reader Bool := do
  return (← peek) = .symbol symbol

def nextIsWord (word : Keyword) : Reader Bool := do
  return (← peek) = .keyword word

def name : Reader Text := do
  match ← peek with
  | .name id =>
      skip
      return id
  | _ => refuse

/-- The first reader that is not refused. If both are, the one that came
further tells where. -/
def orElse {α : Type} (first second : Reader α) : Reader α :=
  fun tokens =>
    match first tokens with
    | .ok result => .ok result
    | .error early =>
        match second tokens with
        | .ok result => .ok result
        | .error late =>
            .error (if early.rest.length < late.rest.length then early else late)

/-- The result of a reader that may be refused, without taking a token then. -/
def attempt {α : Type} (reader : Reader α) : Reader (Option α) :=
  fun tokens =>
    match reader tokens with
    | .ok (value, rest) => .ok (some value, rest)
    | .error _ => .ok (none, tokens)

/-- Whether a reader would succeed; no token is taken. -/
def lookahead {α : Type} (reader : Reader α) : Reader Bool :=
  fun tokens =>
    match reader tokens with
    | .ok _ => .ok (true, tokens)
    | .error _ => .ok (false, tokens)

def manyFrom {α : Type} (continues : Reader Bool) (reader : Reader α) : Nat → Reader (List α)
  | 0 => return []
  | fuel + 1 => do
      if ← continues then
        let first ← reader
        return first :: (← manyFrom continues reader fuel)
      else return []

/-- Reads as long as a test of the next tokens holds. Each round takes a token,
so that their number is fuel enough. -/
def many {α : Type} (continues : Reader Bool) (reader : Reader α) : Reader (List α) := do
  let tokens ← remaining
  manyFrom continues reader (tokens.length + 1)

/-- Items behind commas; the flag says whether there was any comma. -/
def behindCommas {α : Type} (starts : Reader Bool) (item : Reader α) :
    Nat → Reader (List α × Bool)
  | 0 => return ([], false)
  | fuel + 1 => do
      if ← acceptSymbol .comma then
        if ← starts then
          let first ← item
          let (rest, _) ← behindCommas starts item fuel
          return (first :: rest, true)
        else return ([], true)
      else return ([], false)

/-- The items that follow a first one, and whether a comma followed it. -/
def moreItems {α : Type} (starts : Reader Bool) (item : Reader α) :
    Reader (List α × Bool) := do
  let tokens ← remaining
  behindCommas starts item (tokens.length + 1)

/-- One or more items with commas between them and possibly behind the last. -/
def commaItems {α : Type} (starts : Reader Bool) (item : Reader α) :
    Reader (List α × Bool) := do
  let first ← item
  let (rest, comma) ← moreItems starts item
  return (first :: rest, comma)

/-- One or more items with commas between them only. -/
def separated {α : Type} (item : Reader α) : Reader (List α) := do
  let first ← item
  let rest ← many (nextIs .comma) do
    skip
    item
  return first :: rest

def extendFrom {α : Type} (step : α → Reader (Option α)) : Nat → α → Reader α
  | 0, value => return value
  | fuel + 1, value => do
      match ← step value with
      | none => return value
      | some next => extendFrom step fuel next

/-- Extends a value as long as there is something to extend it by. -/
def extend {α : Type} (step : α → Reader (Option α)) (value : α) : Reader α := do
  let tokens ← remaining
  extendFrom step (tokens.length + 1) value

end Reader

end MessageForge.Source
