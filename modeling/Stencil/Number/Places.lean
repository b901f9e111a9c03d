import Stencil.Number.Layout

/-!
# Numbers to a given number of places

Where a form asks for a fixed number of digits, the exact value is rounded once, to the nearest
decimal and to the even one of two nearest.  The digits come with a fixed number of places after the
point, with an exponent, or in the shorter of both forms.
-/

namespace Stencil.Number.Places

open Binary64

/-- Digits before and after a point; the point is left out when nothing follows it, unless it is
asked for. -/
def pointed (keepPoint : Bool) (whole fraction : Text) : Text :=
  if fraction.isEmpty && !keepPoint then whole else whole ++ '.' :: fraction

/-- The digits of `num / den` before and after the point, with so many places after it. -/
def fixedDigits (places num den : Nat) : Text × Text :=
  let digits :=
    Layout.padZeros (places + 1) (Nat.toDigits 10 (roundDiv (num * tenTo places) den))
  digits.splitAt (digits.length - places)

/-- The decimal exponent of the first digit of `num / den`, which is not zero. -/
def leadingExponent (num den : Nat) : Int :=
  if den ≤ num then (Nat.toDigits 10 (num / den)).length - 1
  else -(Nat.toDigits 10 ((den - 1) / num)).length

/-- The first digits of `num / den`, one and so many more, and the exponent of the first. -/
def leadingDigits (more num den : Nat) : Text × Int :=
  if num = 0 then (List.replicate (more + 1) '0', 0)
  else
    let exponent := leadingExponent num den
    let shift : Int := more - exponent
    let rounded :=
      if 0 ≤ shift then roundDiv (num * tenTo shift.toNat) den
      else roundDiv num (den * tenTo (-shift).toNat)
    if rounded = tenTo (more + 1) then (Nat.toDigits 10 (tenTo more), exponent + 1)
    else (Nat.toDigits 10 rounded, exponent)

/-- An exponent with its sign and at least two digits. -/
def exponentText (exponent : Int) : Text :=
  'e' :: (if exponent < 0 then '-' else '+')
    :: Layout.padZeros 2 (Nat.toDigits 10 exponent.natAbs)

/-- `num / den` with so many places after the point. -/
def fixed (keepPoint : Bool) (places num den : Nat) : Text :=
  let (whole, fraction) := fixedDigits places num den
  pointed keepPoint whole fraction

/-- `num / den` with an exponent and so many places after the point. -/
def scientific (keepPoint : Bool) (places num den : Nat) : Text :=
  let (digits, exponent) := leadingDigits places num den
  pointed keepPoint (digits.take 1) (digits.drop 1) ++ exponentText exponent

/-- `num / den` to so many digits, with an exponent when it is small or needs more digits before the
point.  Zeros at the end are dropped unless the point is asked for. -/
def general (keepPoint : Bool) (digits num den : Nat) : Text :=
  let more := digits - 1
  let (leading, exponent) := leadingDigits more num den
  let shorten (fraction : Text) : Text :=
    if keepPoint then fraction else Text.trimEnd (· = '0') fraction
  if exponent < -4 || (more : Int) < exponent then
    pointed keepPoint (leading.take 1) (shorten (leading.drop 1)) ++ exponentText exponent
  else
    let (whole, fraction) := fixedDigits (more - exponent).toNat num den
    pointed keepPoint whole (shorten fraction)

/-- A number in a form for magnitudes. -/
def render (magnitude : Nat → Nat → Text) : Binary64 → Text
  | .nan => "nan"
  | .infinite negative => if negative then "-inf" else "inf"
  | .finite negative m q =>
    let (num, den) := ratio m q
    (if negative then ['-'] else []) ++ magnitude num den

example : fixed false 2 5 2 = "2.50".toList := by decide +kernel

example : scientific false 1 25 1 = "2.5e+01".toList := by decide +kernel

example : general false 6 1 100000 = "1e-05".toList := by decide +kernel

end Stencil.Number.Places
