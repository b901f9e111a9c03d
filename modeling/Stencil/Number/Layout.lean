import Stencil.Number.Shortest

/-!
# Layouts of floating-point numbers

Which digits a number has is one question, how they are laid out another.  A layout says for which
sizes the digits are written around a decimal point, how an exponent is written otherwise, and what
stands for the numbers that have no digits.
-/

namespace Stencil.Number

/-- How numbers are laid out.  The place of the decimal point is counted from the first digit, so
that 1 has its point at 1 and 0.01 at -1. -/
structure Layout where
  /-- The least place of the point that is written out. -/
  leastPoint : Int
  /-- The greatest place of the point that is written out. -/
  greatestPoint : Int
  /-- The least number of digits of an exponent. -/
  exponentWidth : Nat
  /-- What stands for an undefined number. -/
  undefinedText : Text
  /-- What stands for an infinite number, by its sign. -/
  infiniteText : (negative : Bool) → Text

namespace Layout

/-- The text with zeros before it up to a width. -/
def padZeros (width : Nat) (t : Text) : Text := List.replicate (width - t.length) '0' ++ t

/-- Digits with the decimal point after the first `point` of them. -/
def positional (digits : Text) (point : Int) : Text :=
  if point ≤ 0 then "0." ++ List.replicate (-point).toNat '0' ++ digits
  else if digits.length ≤ point.toNat then
    digits ++ List.replicate (point.toNat - digits.length) '0' ++ ".0"
  else digits.take point.toNat ++ "." ++ digits.drop point.toNat

/-- Digits with a signed exponent: one digit before the point, and no point after a single
digit. -/
def scientific (layout : Layout) (digits : Text) (point : Int) : Text :=
  let mantissa : Text := match digits with
    | [] => []
    | [d] => [d]
    | d :: rest => d :: '.' :: rest
  let exponent := point - 1
  mantissa ++ (if exponent < 0 then "e-" else "e+")
    ++ padZeros layout.exponentWidth (Nat.toDigits 10 exponent.natAbs)

/-- A decimal in the given layout. -/
def decimal (layout : Layout) (d : Decimal) : Text :=
  let digits := Nat.toDigits 10 d.digits
  let point := digits.length + d.exponent
  if layout.leastPoint ≤ point && point ≤ layout.greatestPoint then positional digits point
  else layout.scientific digits point

/-- A number in the given layout. -/
def render (layout : Layout) : Binary64 → Text
  | .nan => layout.undefinedText
  | .infinite negative => layout.infiniteText negative
  | .finite negative m q =>
    (if negative then ['-'] else []) ++
      (if m = 0 then ("0.0" : Text) else layout.decimal (shortest m q))

/-- Numbers in rendered text: written out from 0.0001 up to sixteen digits before the point,
otherwise with an exponent of at least two digits. -/
def plain : Layout where
  leastPoint := -3
  greatestPoint := 16
  exponentWidth := 2
  undefinedText := "nan"
  infiniteText negative := if negative then "-inf" else "inf"

/-- Numbers in JSON: written out from 0.00001 up to sixteen digits before the point, otherwise
with an exponent.  JSON has no undefined and no infinite numbers. -/
def json : Layout where
  leastPoint := -4
  greatestPoint := 16
  exponentWidth := 1
  undefinedText := "null"
  infiniteText _ := "null"

example : plain.render (.ofDecimal false 1 16) = "1e+16".toList := by decide +kernel

example : plain.render (.ofDecimal true 5 (-324)) = "-5e-324".toList := by decide +kernel

example : json.render (.ofDecimal false 1 (-5)) = "0.00001".toList := by decide +kernel

example : json.render (.ofDecimal false 1 16) = "1e+16".toList := by decide +kernel

example : json.render (.infinite true) = "null".toList := rfl

end Layout
end Stencil.Number
