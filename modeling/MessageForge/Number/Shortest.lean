import MessageForge.Number.Binary64
import MessageForge.Text.Basic

/-!
# Shortest decimals

A binary number is written with the fewest decimal digits that read back as
it, and of several such decimals as the nearest. Digits stand positionally for
decimal points from behind the fourth leading zero to the sixteenth digit, and
with an exponent of at least two digits beyond.
-/

namespace MessageForge.Binary64

/-- A positive rational. -/
structure Ratio where
  num : Nat
  den : Nat

def Ratio.le (a b : Ratio) : Bool :=
  a.num * b.den ≤ b.num * a.den

def Ratio.lt (a b : Ratio) : Bool :=
  a.num * b.den < b.num * a.den

def scaled (num : Nat) (exponent : Int) : Ratio :=
  match exponent with
  | .ofNat k => ⟨num * Nat.pow 2 k, 1⟩
  | .negSucc k => ⟨num, Nat.pow 2 (k + 1)⟩

def decimal (digits : Nat) (exponent : Int) : Ratio :=
  match exponent with
  | .ofNat k => ⟨digits * Nat.pow 10 k, 1⟩
  | .negSucc k => ⟨digits, Nat.pow 10 (k + 1)⟩

/-- Whether a rational rounds to `mantissa * 2 ^ exponent`. Below a power of
two the numbers lie twice as dense. -/
def roundsTo (mantissa : Nat) (exponent : Int) (value : Ratio) : Bool :=
  let upper := scaled (2 * mantissa + 1) (exponent - 1)
  let lower :=
    if mantissa = Nat.pow 2 52 && -1074 < exponent then scaled (4 * mantissa - 1) (exponent - 2)
    else scaled (2 * mantissa - 1) (exponent - 1)
  if mantissa % 2 = 0 then lower.le value && value.le upper
  else lower.lt value && value.lt upper

/-- The number of digits before the decimal point, or minus the number of
zeros behind it: the least `p` with `value < 10 ^ p`. -/
def pointOf (value : Ratio) : Int :=
  let estimate : Int := ((value.num.log2 : Int) - (value.den.log2 : Int)) * 30103 / 100000 - 1
  if value.lt (decimal 1 estimate) then estimate
  else if value.lt (decimal 1 (estimate + 1)) then estimate + 1
  else if value.lt (decimal 1 (estimate + 2)) then estimate + 2
  else estimate + 3

/-- The better of the two neighbours of `value` among the multiples of a power
of ten, if one of them reads back. -/
def onGrid (mantissa : Nat) (exponent : Int) (value : Ratio) (unit : Int) : Option Nat :=
  let floor :=
    match unit with
    | .ofNat k => value.num / (value.den * Nat.pow 10 k)
    | .negSucc k => value.num * Nat.pow 10 (k + 1) / value.den
  let below := decimal floor unit
  let above := decimal (floor + 1) unit
  let fits := roundsTo mantissa exponent
  let nearerBelow : Bool :=
    -- the sum of the neighbours against twice the value
    let middle := decimal (2 * floor + 1) unit
    let twice : Ratio := ⟨2 * value.num, value.den⟩
    twice.lt middle || (twice.le middle && floor % 2 = 0)
  match fits below, fits above with
  | true, true => some (if nearerBelow then floor else floor + 1)
  | true, false => some floor
  | false, true => some (floor + 1)
  | false, false => none

def searchGrid (mantissa : Nat) (exponent : Int) (value : Ratio) (point : Int) :
    (count left : Nat) → Nat × Int
  | count, 0 => (0, point - count)
  | count, left + 1 =>
      match onGrid mantissa exponent value (point - count) with
      | some digits => (digits, point - count)
      | none => searchGrid mantissa exponent value point (count + 1) left

def dropZeros : Text → Text
  | '0' :: rest => dropZeros rest
  | text => text

/-- The digits without trailing zeros and the place of the point in them. -/
def shortest (mantissa : Nat) (exponent : Int) : Text × Int :=
  if mantissa = 0 then (['0'], 1)
  else
    let value := scaled mantissa exponent
    let (digits, unit) := searchGrid mantissa exponent value (pointOf value) 1 17
    let text := Text.ofNat digits
    ((dropZeros text.reverse).reverse, unit + text.length)

def exponentText (n : Int) : Text :=
  let digits := Text.ofNat n.natAbs
  (if n < 0 then '-' else '+') :: (if digits.length < 2 then '0' :: digits else digits)

/-- The text of a finite number; `whole` is written behind a number without
fractional digits. -/
def finiteText (whole : Text) (mantissa : Nat) (exponent : Int) : Text :=
  let (digits, point) := shortest mantissa exponent
  if -4 < point && point ≤ 16 then
    if point ≤ 0 then ("0." : Text) ++ List.replicate point.natAbs '0' ++ digits
    else if digits.length ≤ point.natAbs then
      digits ++ List.replicate (point.natAbs - digits.length) '0' ++ whole
    else digits.take point.natAbs ++ '.' :: digits.drop point.natAbs
  else
    let mantissaText :=
      match digits with
      | [] => []
      | [d] => [d]
      | d :: rest => d :: '.' :: rest
    mantissaText ++ 'e' :: exponentText (point - 1)

/-- Infinity has no literal of its own and is written as a number that is too
large. -/
def text (whole : Text) : Binary64 → Text
  | .finite mantissa exponent => finiteText whole mantissa exponent
  | .infinite => "1e309"

end MessageForge.Binary64
