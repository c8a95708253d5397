import MessageForge.Text.Basic

/-!
# Wildcards

Patterns for single names: a star stands for any text, a question mark for any
character, and brackets for one character of a class. A class lists characters
and ranges, an exclamation mark in front negates it, and a bracket without a
partner stands for itself. A range whose ends are in the wrong order is empty.
-/

namespace MessageForge

inductive Wildcard where
  | literal (c : Char)
  | any
  | star
  | oneOf (isNegated : Bool) (ranges : List (Char × Char))
  deriving DecidableEq, Repr

namespace Wildcard

/-- Cuts at the first hyphen behind the first `skip` characters. -/
def splitHyphen? (skip : Nat) (text : Text) : Option (Text × Text) :=
  match (text.drop skip).dropWhile (· ≠ '-') with
  | [] => none
  | _ :: after => some (text.take skip ++ (text.drop skip).takeWhile (· ≠ '-'), after)

def appendToLast (c : Char) : List Text → List Text
  | [] => []
  | [chunk] => [chunk ++ [c]]
  | chunk :: rest => chunk :: appendToLast c rest

/-- The pieces of a class between the hyphens that make a range. A hyphen needs
two characters since the last one, and at the end of the class it is a
character itself. -/
def chunksFrom : (fuel skip : Nat) → Text → List Text
  | 0, _, text => [text]
  | fuel + 1, skip, text =>
      match splitHyphen? skip text with
      | none => [text]
      | some (chunk, []) => [chunk ++ ['-']]
      | some (chunk, after) => chunk :: chunksFrom fuel 2 after

/-- Joins the pieces around an empty range and drops its ends. -/
def dropEmptyRange (chunk : Text) : List Text → List Text
  | [] => [chunk]
  | next :: rest =>
      match chunk.getLast?, next with
      | some low, high :: tail =>
          if high.toNat < low.toNat then (chunk.dropLast ++ tail) :: rest
          else chunk :: next :: rest
      | _, _ => chunk :: next :: rest

def single (c : Char) : Char × Char :=
  (c, c)

/-- The ranges of a class given by its pieces. -/
def rangesOf : List Text → List (Char × Char)
  | [] => []
  | chunk :: rest =>
      match rest with
      | [] => chunk.map single
      | next :: _ =>
          match chunk.getLast?, next with
          | some low, high :: _ =>
              chunk.dropLast.map single ++ (low, high) :: (rangesOf rest).drop 1
          | _, _ => chunk.map single ++ single '-' :: rangesOf rest

def ofClass (body : Text) : Wildcard :=
  let skip := if body.head? = some '!' then 2 else 1
  match (chunksFrom body.length skip body).foldr dropEmptyRange [] with
  | [] => .oneOf false []
  | ('!' :: first) :: rest => .oneOf true (rangesOf (first :: rest))
  | chunks => .oneOf false (rangesOf chunks)

/-- The body of a class behind its opening bracket, and what follows its
closing one. A closing bracket at the very front belongs to the class. -/
def splitClass? (text : Text) : Option (Text × Text) :=
  let negation := if text.head? = some '!' then 1 else 0
  let front := if (text.drop negation).head? = some ']' then negation + 1 else negation
  match (text.drop front).dropWhile (· ≠ ']') with
  | [] => none
  | _ :: after => some (text.take front ++ (text.drop front).takeWhile (· ≠ ']'), after)

def ofTextFrom : (fuel : Nat) → Text → List Wildcard
  | 0, _ => []
  | _, [] => []
  | fuel + 1, '*' :: rest => .star :: ofTextFrom fuel rest
  | fuel + 1, '?' :: rest => .any :: ofTextFrom fuel rest
  | fuel + 1, '[' :: rest =>
      match splitClass? rest with
      | none => .literal '[' :: ofTextFrom fuel rest
      | some (body, after) => ofClass body :: ofTextFrom fuel after
  | fuel + 1, c :: rest => .literal c :: ofTextFrom fuel rest

def ofText (pattern : Text) : List Wildcard :=
  ofTextFrom pattern.length pattern

def accepts (wildcard : Wildcard) (c : Char) : Bool :=
  match wildcard with
  | .literal d => c = d
  | .any | .star => true
  | .oneOf isNegated ranges =>
      ranges.any (fun (low, high) => low.toNat ≤ c.toNat && c.toNat ≤ high.toNat) != isNegated

/-- Whether some final part of a text, or all of it, passes a test. -/
def anyTail (test : Text → Bool) : Text → Bool
  | [] => test []
  | c :: rest => test (c :: rest) || anyTail test rest

def matchAll : List Wildcard → Text → Bool
  | [], text => text.isEmpty
  | .star :: rest, text => anyTail (matchAll rest) text
  | _ :: _, [] => false
  | wildcard :: rest, c :: text => wildcard.accepts c && matchAll rest text

end Wildcard

def matchesPattern (pattern name : Text) : Bool :=
  Wildcard.matchAll (Wildcard.ofText pattern) name

end MessageForge
