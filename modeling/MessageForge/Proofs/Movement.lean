import MessageForge.Proofs.Classification
import MessageForge.Proofs.Contributions

/-!
# Moved statements

A statement that stands some lines further down in a text is the same tree with
greater line numbers. Neither the names in an expression nor its printed form
depend on them.
-/

namespace MessageForge.Source

open Vocabulary

/-! ## Moving -/

variable (n : Nat)

mutual

/-- The expression `n` lines further down. -/
def Expr.moved : Expr → Expr
  | .name id => .name id
  | .literal value => .literal value
  | .formatted pieces => .formatted (movedPieces pieces)
  | .attribute value name => .attribute value.moved name
  | .subscript value index => .subscript value.moved index.moved
  | .slice lower upper step =>
      .slice (movedOptional lower) (movedOptional upper) (movedOptional step)
  | .call callee arguments keywords line =>
      .call callee.moved (movedAll arguments) (movedArguments keywords) (line + n)
  | .starred value => .starred value.moved
  | .tuple items => .tuple (movedAll items)
  | .list items => .list (movedAll items)
  | .set items => .set (movedAll items)
  | .dict items => .dict (movedItems items)
  | .unary op operand => .unary op operand.moved
  | .binary op left right => .binary op left.moved right.moved
  | .boolean op operands => .boolean op (movedAll operands)
  | .compare left rest => .compare left.moved (movedComparisons rest)
  | .conditional test body alternative => .conditional test.moved body.moved alternative.moved
  | .lambda parameters body => .lambda (movedParameters parameters) body.moved
  | .generator item clauses => .generator item.moved (movedClauses clauses)
  | .listOf item clauses => .listOf item.moved (movedClauses clauses)
  | .setOf item clauses => .setOf item.moved (movedClauses clauses)
  | .dictOf key value clauses => .dictOf key.moved value.moved (movedClauses clauses)
  | .await value => .await value.moved
  | .yield value => .yield (movedOptional value)
  | .yieldFrom value => .yieldFrom value.moved
  | .named target value => .named target.moved value.moved

def movedOptional : Option Expr → Option Expr
  | none => none
  | some e => some e.moved

def movedAll : List Expr → List Expr
  | [] => []
  | e :: rest => e.moved :: movedAll rest

def movedArguments : List Argument → List Argument
  | [] => []
  | .keyword name value :: rest => .keyword name value.moved :: movedArguments rest
  | .spread value :: rest => .spread value.moved :: movedArguments rest

def movedItems : List DictItem → List DictItem
  | [] => []
  | .pair key value :: rest => .pair key.moved value.moved :: movedItems rest
  | .spread value :: rest => .spread value.moved :: movedItems rest

def movedComparisons : List Comparison → List Comparison
  | [] => []
  | .mk op right :: rest => .mk op right.moved :: movedComparisons rest

def movedParameters : List LambdaParameter → List LambdaParameter
  | [] => []
  | .default name value :: rest => .default name value.moved :: movedParameters rest
  | .plain name :: rest => .plain name :: movedParameters rest
  | .positionalEnd :: rest => .positionalEnd :: movedParameters rest
  | .keywordStart :: rest => .keywordStart :: movedParameters rest
  | .rest name :: rest => .rest name :: movedParameters rest
  | .keywordRest name :: rest => .keywordRest name :: movedParameters rest

def movedClauses : List Clause → List Clause
  | [] => []
  | .mk isAsync target source conditions :: rest =>
      .mk isAsync target.moved source.moved (movedAll conditions) :: movedClauses rest

def movedPieces : List Piece → List Piece
  | [] => []
  | .codes codes :: rest => .codes codes :: movedPieces rest
  | .value value conversion :: rest => .value value.moved conversion :: movedPieces rest
  | .formattedValue value conversion spec :: rest =>
      .formattedValue value.moved conversion (movedPieces spec) :: movedPieces rest

end

mutual

def Node.moved : Node → Node
  | .classDef name decorators bases keywords body =>
      .classDef name (movedAll n decorators) (movedAll n bases) (movedArguments n keywords)
        (movedBody body)
  | .annotated target type value =>
      .annotated (target.moved n) (type.moved n) (movedOptional n value)
  | .expression value => .expression (value.moved n)
  | .imports names => .imports names
  | .importsFrom level module names => .importsFrom level module names
  | .pass => .pass
  | .other => .other

/-- The statement `n` lines further down. -/
def Stmt.moved : Nat × Node → Nat × Node
  | (line, node) => (line + n, node.moved)

def movedBody : List (Nat × Node) → List (Nat × Node)
  | [] => []
  | stmt :: rest => Stmt.moved stmt :: movedBody rest

end

/-! ## Printing -/

variable {n : Nat}

@[simp] theorem isWholeLiteral_moved (e : Expr) :
    isWholeLiteral (e.moved n) = isWholeLiteral e := by
  cases e <;> rfl

@[simp] theorem indexBinding_moved (e : Expr) : (e.moved n).indexBinding = e.indexBinding := by
  cases e <;> rfl

@[simp] theorem isSome_movedOptional (value : Option Expr) :
    (movedOptional n value).isSome = value.isSome := by
  cases value <;> rfl

@[simp] theorem isNone_movedOptional (value : Option Expr) :
    (movedOptional n value).isNone = value.isNone := by
  cases value <;> rfl

mutual

theorem print_moved (plain : Bool) : ∀ (e : Expr) (binding : Nat),
    (e.moved n).print plain binding = e.print plain binding
  | .name id, _ => rfl
  | .literal value, _ => rfl
  | .formatted pieces, _ => by simp only [Expr.moved, Expr.print, partsOf_moved pieces]
  | .attribute value name, _ => by
      simp only [Expr.moved, Expr.print, print_moved plain value, isWholeLiteral_moved]
  | .subscript value index, _ => by
      simp only [Expr.moved, Expr.print, print_moved plain value, print_moved plain index,
        indexBinding_moved]
  | .slice lower upper step, _ => by
      simp only [Expr.moved, Expr.print, printOptional_moved plain lower,
        printOptional_moved plain upper, printOptional_moved plain step, isNone_movedOptional]
  | .call callee arguments keywords line, _ => by
      simp only [Expr.moved, Expr.print, print_moved plain callee, printAll_moved plain arguments,
        printArguments_moved plain keywords]
  | .starred value, _ => by simp only [Expr.moved, Expr.print, print_moved plain value]
  | .tuple items, _ => by simp only [Expr.moved, Expr.print, printAll_moved plain items]
  | .list items, _ => by simp only [Expr.moved, Expr.print, printAll_moved plain items]
  | .set items, _ => by simp only [Expr.moved, Expr.print, printAll_moved plain items]
  | .dict items, _ => by simp only [Expr.moved, Expr.print, printItems_moved plain items]
  | .unary op operand, _ => by simp only [Expr.moved, Expr.print, print_moved plain operand]
  | .binary op left right, _ => by
      simp only [Expr.moved, Expr.print, print_moved plain left, print_moved plain right]
  | .boolean op operands, _ => by
      simp only [Expr.moved, Expr.print, printRising_moved plain operands]
  | .compare left rest, _ => by
      simp only [Expr.moved, Expr.print, print_moved plain left, printComparisons_moved plain rest]
  | .conditional test body alternative, _ => by
      simp only [Expr.moved, Expr.print, print_moved plain test, print_moved plain body,
        print_moved plain alternative]
  | .lambda parameters body, _ => by
      simp only [Expr.moved, Expr.print, printParameters_moved plain parameters,
        print_moved plain body]
  | .generator item clauses, _ => by
      simp only [Expr.moved, Expr.print, print_moved plain item, printClauses_moved plain clauses]
  | .listOf item clauses, _ => by
      simp only [Expr.moved, Expr.print, print_moved plain item, printClauses_moved plain clauses]
  | .setOf item clauses, _ => by
      simp only [Expr.moved, Expr.print, print_moved plain item, printClauses_moved plain clauses]
  | .dictOf key value clauses, _ => by
      simp only [Expr.moved, Expr.print, print_moved plain key, print_moved plain value,
        printClauses_moved plain clauses]
  | .await value, _ => by simp only [Expr.moved, Expr.print, print_moved plain value]
  | .yield value, _ => by
      simp only [Expr.moved, Expr.print, printOptional_moved plain value, isNone_movedOptional]
  | .yieldFrom value, _ => by simp only [Expr.moved, Expr.print, print_moved plain value]
  | .named target value, _ => by
      simp only [Expr.moved, Expr.print, print_moved plain target, print_moved plain value]

theorem printOptional_moved (plain : Bool) : ∀ (value : Option Expr) (binding : Nat),
    printOptional plain binding (movedOptional n value) = printOptional plain binding value
  | none, _ => rfl
  | some e, _ => print_moved plain e _

theorem printAll_moved (plain : Bool) : ∀ (list : List Expr) (binding : Nat),
    printAll plain binding (movedAll n list) = printAll plain binding list
  | [], _ => rfl
  | e :: rest, _ => by
      simp only [movedAll, printAll, print_moved plain e, printAll_moved plain rest]

theorem printRising_moved (plain : Bool) : ∀ (list : List Expr) (binding : Nat),
    printRising plain binding (movedAll n list) = printRising plain binding list
  | [], _ => rfl
  | e :: rest, _ => by
      simp only [movedAll, printRising, print_moved plain e, printRising_moved plain rest]

theorem printArguments_moved (plain : Bool) : ∀ list : List Argument,
    printArguments plain (movedArguments n list) = printArguments plain list
  | [] => rfl
  | .keyword name value :: rest => by
      simp only [movedArguments, printArguments, print_moved plain value,
        printArguments_moved plain rest]
  | .spread value :: rest => by
      simp only [movedArguments, printArguments, print_moved plain value,
        printArguments_moved plain rest]

theorem printItems_moved (plain : Bool) : ∀ list : List DictItem,
    printItems plain (movedItems n list) = printItems plain list
  | [] => rfl
  | .pair key value :: rest => by
      simp only [movedItems, printItems, print_moved plain key, print_moved plain value,
        printItems_moved plain rest]
  | .spread value :: rest => by
      simp only [movedItems, printItems, print_moved plain value, printItems_moved plain rest]

theorem printComparisons_moved (plain : Bool) : ∀ list : List Comparison,
    printComparisons plain (movedComparisons n list) = printComparisons plain list
  | [] => rfl
  | .mk op right :: rest => by
      simp only [movedComparisons, printComparisons, print_moved plain right,
        printComparisons_moved plain rest]

theorem printParameters_moved (plain : Bool) : ∀ list : List LambdaParameter,
    printParameters plain (movedParameters n list) = printParameters plain list
  | [] => rfl
  | .default name value :: rest => by
      simp only [movedParameters, printParameters, print_moved plain value,
        printParameters_moved plain rest]
  | .plain name :: rest => by
      simp only [movedParameters, printParameters, printParameters_moved plain rest]
  | .positionalEnd :: rest => by
      simp only [movedParameters, printParameters, printParameters_moved plain rest]
  | .keywordStart :: rest => by
      simp only [movedParameters, printParameters, printParameters_moved plain rest]
  | .rest name :: rest => by
      simp only [movedParameters, printParameters, printParameters_moved plain rest]
  | .keywordRest name :: rest => by
      simp only [movedParameters, printParameters, printParameters_moved plain rest]

theorem printClauses_moved (plain : Bool) : ∀ list : List Clause,
    printClauses plain (movedClauses n list) = printClauses plain list
  | [] => rfl
  | .mk isAsync target source conditions :: rest => by
      simp only [movedClauses, printClauses, print_moved plain target, print_moved plain source,
        printConditions_moved plain conditions, printClauses_moved plain rest]

theorem printConditions_moved (plain : Bool) : ∀ list : List Expr,
    printConditions plain (movedAll n list) = printConditions plain list
  | [] => rfl
  | e :: rest => by
      simp only [movedAll, printConditions, print_moved plain e, printConditions_moved plain rest]

theorem partsOf_moved : ∀ list : List Piece, partsOf (movedPieces n list) = partsOf list
  | [] => rfl
  | .codes codes :: rest => by simp only [movedPieces, partsOf, partsOf_moved rest]
  | .value value conversion :: rest => by
      simp only [movedPieces, partsOf, print_moved true value, partsOf_moved rest]
  | .formattedValue value conversion spec :: rest => by
      simp only [movedPieces, partsOf, print_moved true value, partsOf_moved spec,
        partsOf_moved rest]

end

/-! ## Names and texts -/

@[simp] theorem text_moved (e : Expr) : (e.moved n).text = e.text :=
  print_moved false e _

@[simp] theorem printed_moved (e : Expr) : printed (e.moved n) = printed e := by
  rw [printed, printed, text_moved]

theorem movedAll_eq_map (list : List Expr) : movedAll n list = list.map (Expr.moved n) := by
  induction list with
  | nil => rfl
  | cons e rest ih => rw [movedAll, ih, List.map_cons]

@[simp] theorem lastName?_moved (e : Expr) : (e.moved n).lastName? = e.lastName? := by
  cases e with
  | call callee arguments keywords line => exact lastName?_moved callee
  | _ => rfl

@[simp] theorem namedAmong_moved (names : List Text) (e : Expr) :
    namedAmong names (e.moved n) = namedAmong names e := by
  rw [namedAmong, namedAmong, lastName?_moved]

@[simp] theorem isPseudoField_moved (type : Expr) :
    isPseudoField (type.moved n) = isPseudoField type := by
  cases type with
  | subscript value index => exact namedAmong_moved pseudoFields value
  | _ => exact namedAmong_moved pseudoFields _

@[simp] theorem categoryText?_moved (argument : Expr) :
    (argument.moved n).categoryText? = argument.categoryText? := by
  cases argument with
  | literal value => rfl
  | _ => exact text_moved _

@[simp] theorem any_namedAmong_movedAll (names : List Text) (list : List Expr) :
    (movedAll n list).any (namedAmong names) = list.any (namedAmong names) := by
  rw [movedAll_eq_map, List.any_map]
  exact congrArg list.any (funext fun e => namedAmong_moved names e)

theorem filter_namedAmong_movedAll (names : List Text) (list : List Expr) :
    ((movedAll n list).filter fun e => !namedAmong names e) =
      movedAll n (list.filter fun e => !namedAmong names e) := by
  rw [movedAll_eq_map, movedAll_eq_map, List.filter_map]
  simp only [Function.comp_def, namedAmong_moved]

theorem movedArguments_eq_nil_iff {list : List Argument} :
    movedArguments n list = [] ↔ list = [] := by
  cases list with
  | nil => exact Iff.rfl
  | cons argument rest => cases argument <;> exact iff_of_false nofun nofun

end MessageForge.Source
