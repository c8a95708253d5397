import MessageForge.Text.Basic
import MessageForge.Text.CompositionTable

/-!
# Compatibility normal form

Two spellings of an identifier are the same name if their compatibility normal
forms agree. The form is computed in the three steps of Unicode: full
decomposition, ordering of marks by combining class, and composition. ASCII
text is its own normal form.
-/

namespace MessageForge.Text

def hexDigitValue? (c : Char) : Option Nat :=
  if '0' ≤ c && c ≤ '9' then some (c.toNat - 0x30)
  else if 'a' ≤ c && c ≤ 'f' then some (c.toNat - 0x57)
  else if 'A' ≤ c && c ≤ 'F' then some (c.toNat - 0x37)
  else none

def hexValue (digits : Text) : Nat :=
  digits.foldl (fun n c => 16 * n + (hexDigitValue? c).getD 0) 0

/-- An entry of a table with its first code point, the number of code points
it covers and its values. -/
structure TableRange where
  first : Nat
  count : Nat
  values : List Nat

def TableRange.covers (range : TableRange) (n : Nat) : Bool :=
  range.first ≤ n && n < range.first + range.count

/-- Reads `first+count=value.value…`, where a missing count is 1. -/
def TableRange.ofWord (word : Text) : TableRange :=
  match split '=' word with
  | [key, values] =>
      let values := (split '.' values).map hexValue
      match split '+' key with
      | [first, count] => ⟨hexValue first, hexValue count, values⟩
      | _ => ⟨hexValue key, 1, values⟩
  | _ => ⟨0, 0, []⟩

/-- Words stand apart by spaces and line ends. -/
def readTable (words : String) : List TableRange :=
  let lines := split '\n' words.toList
  ((lines.flatMap (split ' ')).filter (!·.isEmpty)).map TableRange.ofWord

def decompositions : List TableRange :=
  readTable decompositionWords

def combiningClasses : List TableRange :=
  readTable classWords

def compositions : List TableRange :=
  readTable compositionWords

/-- A Hangul syllable consists of a leading consonant, a vowel and possibly a
trailing consonant. -/
def decomposeSyllable? (n : Nat) : Option (List Nat) :=
  if 0xac00 ≤ n && n < 0xac00 + 11172 then
    let index := n - 0xac00
    let pair := [0x1100 + index / 588, 0x1161 + index % 588 / 28]
    some (if index % 28 = 0 then pair else pair ++ [0x11a7 + index % 28])
  else none

def addToLast (offset : Nat) : List Nat → List Nat
  | [] => []
  | [n] => [n + offset]
  | n :: rest => n :: addToLast offset rest

def decomposeCode (n : Nat) : List Nat :=
  match decomposeSyllable? n with
  | some parts => parts
  | none =>
      match decompositions.find? (·.covers n) with
      | some range => addToLast (n - range.first) range.values
      | none => [n]

def combiningClass (n : Nat) : Nat :=
  match combiningClasses.find? (·.covers n) with
  | some range => range.values.headD 0
  | none => 0

/-- Puts a mark before all directly preceding marks of a higher class. The
text is given in reverse. -/
def insertMark (mark : Nat × Nat) : List (Nat × Nat) → List (Nat × Nat)
  | [] => [mark]
  | other :: rest =>
      if mark.2 ≠ 0 && mark.2 < other.2 then other :: insertMark mark rest
      else mark :: other :: rest

def orderMarks (codes : List (Nat × Nat)) : List (Nat × Nat) :=
  (codes.foldl (fun done mark => insertMark mark done) []).reverse

def pairIn (starter : Nat) : List Nat → Option Nat
  | s :: composite :: rest => if s = starter then some composite else pairIn starter rest
  | _ => none

def composePair (starter mark : Nat) : Option Nat :=
  if 0x1100 ≤ starter && starter < 0x1113 && 0x1161 ≤ mark && mark < 0x1176 then
    some (0xac00 + ((starter - 0x1100) * 21 + (mark - 0x1161)) * 28)
  else if 0xac00 ≤ starter && starter < 0xac00 + 11172 && (starter - 0xac00) % 28 = 0 &&
      0x11a8 ≤ mark && mark < 0x11c3 then
    some (starter + (mark - 0x11a7))
  else
    compositions.findSome? fun range =>
      if range.covers mark then pairIn starter range.values else none

/-- Composes behind a starter: `passed` are the marks kept since the starter,
in reverse, and a mark is blocked by a kept one of the same or a higher class. -/
def composeFrom (starter : Option Nat) (passed : List (Nat × Nat)) :
    List (Nat × Nat) → List Nat
  | [] => starter.toList ++ (passed.reverse.map Prod.fst)
  | (n, cls) :: rest =>
      let blocked :=
        match passed with
        | [] => false
        | (_, last) :: _ => last = 0 || cls ≤ last
      let composite :=
        match starter with
        | some s => if blocked then none else composePair s n
        | none => none
      match composite with
      | some c => composeFrom (some c) passed rest
      | none =>
          if cls = 0 then
            starter.toList ++ passed.reverse.map Prod.fst ++ composeFrom (some n) [] rest
          else composeFrom starter ((n, cls) :: passed) rest

def normalForm (text : Text) : Text :=
  if text.all (·.toNat < 128) then text
  else
    let codes := text.flatMap fun c => decomposeCode c.toNat
    let ordered := orderMarks (codes.map fun n => (n, combiningClass n))
    (composeFrom none [] ordered).map Char.ofNat

end MessageForge.Text
