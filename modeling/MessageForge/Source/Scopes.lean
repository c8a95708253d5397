import MessageForge.Source.Grammar.Statements

/-!
# Scopes in annotations

Not every annotation that can be read can stay in a module. An annotation
neither waits nor yields nor assigns, and it counts as part of the body of its
class. Only functions inside of it have a scope of their own: they may do all of
this, while the comprehensions in them do not yield, and assign to no name that
they or those around them iterate with.
-/

namespace MessageForge.Source

/-- Where an expression stands in an annotation. -/
structure Scope where
  inFunction : Bool := false
  inComprehension : Bool := false
  /-- Whether it is part of what a comprehension iterates over. -/
  inSource : Bool := false
  /-- The names that the comprehensions around it have iterated with so far. -/
  seen : List Text := []
  /-- The names that must not be assigned to. -/
  iterated : List Text := []

namespace Scope

/-- Whether an expression stands in a scope of the annotation itself. -/
def isOutermost (scope : Scope) : Bool :=
  !scope.inFunction && !scope.inComprehension

def mayYield (scope : Scope) : Bool :=
  scope.inFunction && !scope.inComprehension

def mayAssign (scope : Scope) (name : Text) : Bool :=
  scope.inFunction && !scope.inSource && !scope.iterated.contains name

def inBody (scope : Scope) : Scope :=
  { inFunction := true, inSource := scope.inSource }

def asSource (scope : Scope) : Scope :=
  { scope with inSource := true }

/-- Inside a comprehension that iterates with some names, before any of them. -/
def iterating (scope : Scope) (names : List Text) : Scope :=
  { scope with inComprehension := true, iterated := names ++ scope.seen }

/-- Behind the clause that iterates with some names. -/
def behind (scope : Scope) (names : List Text) : Scope :=
  { scope with seen := names ++ scope.seen }

end Scope

mutual

/-- The names in what a clause of a comprehension iterates with. -/
def Expr.targetNames : Expr → List Text
  | .name id => [id]
  | .attribute value _ => value.targetNames
  | .subscript value index => value.targetNames ++ index.targetNames
  | .starred value => value.targetNames
  | .tuple items | .list items => targetNamesOf items
  | _ => []

def targetNamesOf : List Expr → List Text
  | [] => []
  | e :: rest => e.targetNames ++ targetNamesOf rest

end

def Clause.targetNames : Clause → List Text
  | .mk _ target _ _ => target.targetNames

def LambdaParameter.name? : LambdaParameter → Option Text
  | .plain name | .default name _ | .rest name | .keywordRest name => some name
  | .positionalEnd | .keywordStart => none

/-- Inside a comprehension with these clauses. -/
def Scope.within (scope : Scope) (clauses : List Clause) : Scope :=
  scope.iterating (clauses.flatMap Clause.targetNames)

/-- Behind all clauses of a comprehension. -/
def Scope.atItem (scope : Scope) (clauses : List Clause) : Scope :=
  (scope.within clauses).behind (clauses.flatMap Clause.targetNames)

mutual

/-- Whether the scopes of an expression are in order where it stands. -/
def Expr.isAllowed (scope : Scope) : Expr → Bool
  | .name _ | .literal _ => true
  | .formatted pieces => piecesAllowed scope pieces
  | .attribute value _ | .starred value => value.isAllowed scope
  | .subscript value index => value.isAllowed scope && index.isAllowed scope
  | .slice lower upper step =>
      optionalAllowed scope lower && optionalAllowed scope upper && optionalAllowed scope step
  | .call callee arguments keywords _ =>
      callee.isAllowed scope && allAllowed scope arguments && argumentsAllowed scope keywords
  | .tuple items | .list items | .set items => allAllowed scope items
  | .dict items => itemsAllowed scope items
  | .unary _ operand => operand.isAllowed scope
  | .binary _ left right => left.isAllowed scope && right.isAllowed scope
  | .boolean _ operands => allAllowed scope operands
  | .compare left rest => left.isAllowed scope && comparisonsAllowed scope rest
  | .conditional test body alternative =>
      test.isAllowed scope && body.isAllowed scope && alternative.isAllowed scope
  | .lambda parameters body =>
      parametersAllowed scope parameters &&
        decide (parameters.filterMap LambdaParameter.name?).Nodup && body.isAllowed scope.inBody
  | .generator item clauses | .listOf item clauses | .setOf item clauses =>
      clausesAllowed scope (scope.within clauses) clauses && item.isAllowed (scope.atItem clauses)
  | .dictOf key value clauses =>
      clausesAllowed scope (scope.within clauses) clauses &&
        key.isAllowed (scope.atItem clauses) && value.isAllowed (scope.atItem clauses)
  | .await value => !scope.isOutermost && value.isAllowed scope
  | .yield value => scope.mayYield && optionalAllowed scope value
  | .yieldFrom value => scope.mayYield && value.isAllowed scope
  | .named target value =>
      target.targetNames.all scope.mayAssign && target.isAllowed scope && value.isAllowed scope

def optionalAllowed (scope : Scope) : Option Expr → Bool
  | none => true
  | some e => e.isAllowed scope

def allAllowed (scope : Scope) : List Expr → Bool
  | [] => true
  | e :: rest => e.isAllowed scope && allAllowed scope rest

def argumentsAllowed (scope : Scope) : List Argument → Bool
  | [] => true
  | .keyword _ value :: rest | .spread value :: rest =>
      value.isAllowed scope && argumentsAllowed scope rest

def itemsAllowed (scope : Scope) : List DictItem → Bool
  | [] => true
  | .pair key value :: rest =>
      key.isAllowed scope && value.isAllowed scope && itemsAllowed scope rest
  | .spread value :: rest => value.isAllowed scope && itemsAllowed scope rest

def comparisonsAllowed (scope : Scope) : List Comparison → Bool
  | [] => true
  | .mk _ right :: rest => right.isAllowed scope && comparisonsAllowed scope rest

/-- Defaults are computed outside of the function that they belong to. -/
def parametersAllowed (scope : Scope) : List LambdaParameter → Bool
  | [] => true
  | .default _ value :: rest => value.isAllowed scope && parametersAllowed scope rest
  | _ :: rest => parametersAllowed scope rest

/-- What the first clause of a comprehension iterates over is still computed
around it. -/
def clausesAllowed (around scope : Scope) : List Clause → Bool
  | [] => true
  | .mk isAsync target source conditions :: rest =>
      let reached := scope.behind (Clause.mk isAsync target source conditions).targetNames
      source.isAllowed around.asSource && target.isAllowed scope.asSource &&
        allAllowed reached conditions && clausesAllowed reached reached rest

def piecesAllowed (scope : Scope) : List Piece → Bool
  | [] => true
  | .codes _ :: rest => piecesAllowed scope rest
  | .value value _ :: rest => value.isAllowed scope && piecesAllowed scope rest
  | .formattedValue value _ spec :: rest =>
      value.isAllowed scope && piecesAllowed scope spec && piecesAllowed scope rest

end

/-- The expression that a text is, if it is one. -/
def readExpression? (characters : CharacterNames) (text : Text) : Option Expr :=
  match parseModule characters (text ++ "\n") with
  | .ok [(_, .expression value)] => some value
  | _ => none

/-- Whether an annotation can stay in a module. -/
def canAnnotate (characters : CharacterNames) (hint : Text) : Bool :=
  (readExpression? characters hint).any (·.isAllowed {})

end MessageForge.Source
