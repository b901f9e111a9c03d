import Stencil.Number.Integer

/-!
# Floating-point numbers

A binary64 number is kept as an exact value: a sign, a whole mantissa and a power of two.  Every
operation computes the exact result as a ratio of whole numbers and rounds it once, to the nearest
number and to the even one of two nearest.  `Binary64.ofRatio` is that rounding.
-/

namespace Stencil.Number

/-- A binary64 number.  A finite one is `mantissa * 2 ^ exponent` with its sign; `Binary64.ofRatio`
gives every number its one form, in which the mantissa has 53 bits or the exponent is the least
one. -/
inductive Binary64 where
  | nan
  | infinite (negative : Bool)
  | finite (negative : Bool) (mantissa : Nat) (exponent : Int)
deriving DecidableEq, Repr, Inhabited

namespace Binary64

/-- The exponent of the smallest numbers. -/
def leastExponent : Int := -1074

/-- The exponent of the largest numbers. -/
def greatestExponent : Int := 971

/-- Zero with a sign. -/
def zero (negative : Bool) : Binary64 := .finite negative 0 leastExponent

/-- The whole number nearest to `num / den`, and the even one of two nearest. -/
def roundDiv (num den : Nat) : Nat :=
  let whole := num / den
  let twice := 2 * (num % den)
  if twice < den then whole else if den < twice then whole + 1 else whole + whole % 2

/-- `num / den` divided by a power of two, as a ratio again. -/
def scaleDown (num den : Nat) (exponent : Int) : Nat × Nat :=
  if 0 ≤ exponent then (num, den * twoTo exponent.toNat) else (num * twoTo (-exponent).toNat, den)

/-- The exponent with which `num / den` is rounded: the mantissa then has 53 bits, unless the
exponent is the least one.  The logarithms give this exponent or the one below it. -/
def roundingExponent (num den : Nat) : Int :=
  let guess : Int := max leastExponent ((num.log2 : Int) - den.log2 - 53)
  let scaled := scaleDown num den guess
  if scaled.2 * twoTo 53 ≤ scaled.1 then guess + 1 else guess

/-- The mantissa nearest to `num / den` with an exponent. -/
def mantissaAt (num den : Nat) (exponent : Int) : Nat :=
  let scaled := scaleDown num den exponent
  roundDiv scaled.1 scaled.2

/-- The number with a mantissa and an exponent, which is infinite beyond the greatest exponent. -/
def ofParts (negative : Bool) (mantissa : Nat) (exponent : Int) : Binary64 :=
  if greatestExponent < exponent then .infinite negative else .finite negative mantissa exponent

/-- The number nearest to `num / den`.  A mantissa that is rounded up to `2 ^ 53` is halved. -/
def ofRatio (negative : Bool) (num den : Nat) : Binary64 :=
  if num = 0 || den = 0 then zero negative
  else
    let exponent := roundingExponent num den
    let mantissa := mantissaAt num den exponent
    if mantissa = twoTo 53 then ofParts negative (twoTo 52) (exponent + 1)
    else ofParts negative mantissa exponent

/-- The number nearest to an integer. -/
def ofInt (n : Int) : Binary64 := ofRatio (n < 0) n.natAbs 1

/-- The number nearest to `digits * 10 ^ exponent`.  Powers far outside the range are settled
without computing them. -/
def ofDecimal (negative : Bool) (digits : Nat) (exponent : Int) : Binary64 :=
  if digits = 0 then zero negative
  else if 400 < exponent then .infinite negative
  else if exponent + digits.log2 < -1200 then zero negative
  else if 0 ≤ exponent then ofRatio negative (digits * tenTo exponent.toNat) 1
  else ofRatio negative digits (tenTo (-exponent).toNat)

/-! ## Properties and arithmetic -/

/-- Whether a number is neither infinite nor undefined. -/
def isFinite : Binary64 → Bool
  | .finite .. => true
  | _ => false

/-- Whether a number is zero, of either sign. -/
def isZero : Binary64 → Bool
  | .finite _ 0 _ => true
  | _ => false

/-- The number with the other sign. -/
def neg : Binary64 → Binary64
  | .nan => .nan
  | .infinite negative => .infinite !negative
  | .finite negative m q => .finite (!negative) m q

/-- A magnitude as an exact ratio. -/
def ratio (mantissa : Nat) (exponent : Int) : Nat × Nat :=
  if 0 ≤ exponent then (mantissa * twoTo exponent.toNat, 1)
  else (mantissa, twoTo (-exponent).toNat)

/-- The integer that equals a number, when one does. -/
def toInt? : Binary64 → Option Int
  | .finite negative m q =>
    let (num, den) := ratio m q
    if num % den = 0 then some (signed negative (num / den)) else none
  | _ => none

/-- Equality of numbers: zeros of both signs are equal, and an undefined number equals none. -/
def numericallyEqual : Binary64 → Binary64 → Bool
  | .nan, _ => false
  | _, .nan => false
  | x, y => (x.isZero && y.isZero) || x == y

/-- The rounded sum. -/
def add : Binary64 → Binary64 → Binary64
  | .nan, _ => .nan
  | _, .nan => .nan
  | .infinite a, .infinite b => if a = b then .infinite a else .nan
  | .infinite a, _ => .infinite a
  | _, .infinite b => .infinite b
  | .finite a m q, .finite b n r =>
    let least := min q r
    let sum := signed a (m * twoTo (q - least).toNat) + signed b (n * twoTo (r - least).toNat)
    if sum = 0 then zero (a && b)
    else
      let (num, den) := ratio sum.natAbs least
      ofRatio (sum < 0) num den

/-- The rounded product. -/
def mul : Binary64 → Binary64 → Binary64
  | .nan, _ => .nan
  | _, .nan => .nan
  | .infinite a, .infinite b => .infinite (a != b)
  | .infinite a, .finite b n _ => if n = 0 then .nan else .infinite (a != b)
  | .finite a m _, .infinite b => if m = 0 then .nan else .infinite (a != b)
  | .finite a m q, .finite b n r =>
    let (num, den) := ratio (m * n) (q + r)
    ofRatio (a != b) num den

example : ofDecimal false 1 (-1) = .finite false 7205759403792794 (-56) := by decide +kernel

example : (ofInt 9007199254740993).toInt? = some 9007199254740992 := by decide +kernel

end Binary64
end Stencil.Number
