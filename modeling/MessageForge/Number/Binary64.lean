/-!
# Binary floating point

The finite positive numbers of the 64-bit binary format are `m * 2 ^ e` with
`m < 2 ^ 53` and `-1074 ≤ e`. A decimal is rounded to the nearest of them, a
tie to the even mantissa, and to infinity from half a step above the largest.
-/

namespace MessageForge

/-- A number of the format without its sign. -/
inductive Binary64 where
  | finite (mantissa : Nat) (exponent : Int)
  | infinite
  deriving DecidableEq, Repr

namespace Binary64

/-- A quotient to the nearest integer, a tie to the even one. -/
def roundDiv (num den : Nat) : Nat :=
  let floor := num / den
  let twice := 2 * (num % den)
  if twice < den then floor
  else if twice = den then floor + floor % 2
  else floor + 1

/-- The quotient `num / den` in units of `2 ^ exponent`, rounded. -/
def inUnits (num den : Nat) (exponent : Int) : Nat :=
  match exponent with
  | .ofNat k => roundDiv num (den * Nat.pow 2 k)
  | .negSucc k => roundDiv (num * Nat.pow 2 (k + 1)) den

/-- The number nearest to `num / den`. The exponent is first taken from the
lengths of the two numbers, which is right up to one binary place. -/
def ofQuotient (num den : Nat) : Binary64 :=
  if num = 0 || den = 0 then .finite 0 0
  else
    let guess := max ((num.log2 : Int) - (den.log2 : Int) - 52) (-1074)
    let exponent := if inUnits num den guess < Nat.pow 2 52 then max (guess - 1) (-1074) else guess
    let mantissa := inUnits num den exponent
    let (mantissa, exponent) :=
      if mantissa < Nat.pow 2 53 then (mantissa, exponent)
      else (inUnits num den (exponent + 1), exponent + 1)
    if exponent > 971 then .infinite else .finite mantissa exponent

/-- The number nearest to `digits * 10 ^ exponent`, where `count` bounds the
number of digits. Exponents far out of range are decided without the power. -/
def ofDecimal (digits count : Nat) (exponent : Int) : Binary64 :=
  if digits = 0 then .finite 0 0
  else if exponent > 400 then .infinite
  else if exponent < -(400 + count : Int) then .finite 0 0
  else
    match exponent with
    | .ofNat k => ofQuotient (digits * Nat.pow 10 k) 1
    | .negSucc k => ofQuotient digits (Nat.pow 10 (k + 1))

end Binary64

end MessageForge
