import MessageForge.Text.Basic
import MessageForge.Text.IdentifierTable

/-!
# Identifiers

An identifier begins with a letter or an underscore and goes on with letters,
digits, marks and underscores, in the sense of Unicode. ASCII is decided
without the table.
-/

namespace MessageForge.Text

/-- Membership in a set that is given by the code points where it begins and
ends alternately. -/
def withinBoundaries (n : Nat) : List Nat → Bool
  | [] => false
  | first :: rest => if n < first then false else !withinBoundaries n rest

def isAsciiLetter (c : Char) : Bool :=
  ('a' ≤ c && c ≤ 'z') || ('A' ≤ c && c ≤ 'Z')

def isAsciiDigit (c : Char) : Bool :=
  '0' ≤ c && c ≤ '9'

def isIdentifierStart (c : Char) : Bool :=
  isAsciiLetter c || c = '_' || (128 ≤ c.toNat && withinBoundaries c.toNat startBoundaries)

def isIdentifierContinue (c : Char) : Bool :=
  isAsciiLetter c || isAsciiDigit c || c = '_' ||
    (128 ≤ c.toNat && withinBoundaries c.toNat continueBoundaries)

def isIdentifier : Text → Bool
  | [] => false
  | c :: rest => isIdentifierStart c && rest.all isIdentifierContinue

end MessageForge.Text
