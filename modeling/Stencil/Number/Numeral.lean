import Stencil.Number.Binary64
import Stencil.Number.Integer
import Stencil.Text.Blank

/-!
# Reading floating-point numbers

A numeral may stand between spaces and has an optional sign.  It is a name of infinity or of the
undefined number, or decimal digits with an optional point and exponent.  Digits of every script
count, and a low line may stand between two digits.
-/

namespace Stencil.Number

/-- The ASCII form of a numeral's characters: digits of other scripts become ASCII digits, and any
other foreign character is refused. -/
def asciiNumeral? (t : Text) : Option Text :=
  t.mapM fun c =>
    if c.toNat < 127 then some c
    else (Text.decimalValue? c).map fun d => Char.ofNat ('0'.toNat + d)

/-- Whether a character is an ASCII digit. -/
def isAsciiDigit (c : Char) : Bool := '0' ≤ c && c ≤ '9'

/-- The text without low lines, each of which must stand between two digits.  `previous` tells
whether the character before was a digit. -/
def dropLowLines? (previous : Bool) : Text → Option Text
  | [] => some []
  | '_' :: rest =>
    match rest with
    | d :: _ => if previous && isAsciiDigit d then dropLowLines? false rest else none
    | [] => none
  | c :: rest => (dropLowLines? (isAsciiDigit c) rest).map (c :: ·)

/-- The value of a list of ASCII digits. -/
def digitsValue (t : Text) : Nat := ofDigits 10 (t.map fun c => c.toNat - '0'.toNat)

/-- Reads an exponent: nothing, or a mark, an optional sign and digits. -/
def exponent? : Text → Option Int
  | [] => some 0
  | mark :: rest =>
    if mark = 'e' || mark = 'E' then
      let (negative, digits) := splitSign rest
      if digits.isEmpty || !digits.all isAsciiDigit then none
      else some (signed negative (digitsValue digits))
    else none

/-- Reads an unsigned decimal: digits with an optional point, at least one digit, and an optional
exponent. -/
def decimal? (t : Text) : Option (Nat × Int) :=
  let whole := t.takeWhile isAsciiDigit
  let rest := t.dropWhile isAsciiDigit
  let (fraction, rest) := match rest with
    | '.' :: rest => (rest.takeWhile isAsciiDigit, rest.dropWhile isAsciiDigit)
    | rest => ([], rest)
  if whole.isEmpty && fraction.isEmpty then none
  else (exponent? rest).map fun e => (digitsValue (whole ++ fraction), e - fraction.length)

/-- An ASCII letter in lower case. -/
def lowerAscii (t : Text) : Text := t.map Char.toLower

/-- Reads an unsigned number with the given sign. -/
def unsigned? (negative : Bool) (t : Text) : Option Binary64 :=
  let name := lowerAscii t
  if name = "inf".toList || name = "infinity".toList then some (.infinite negative)
  else if name = "nan".toList then some .nan
  else do
    let (digits, exponent) ← decimal? (← dropLowLines? false t)
    return .ofDecimal negative digits exponent

/-- Reads a floating-point number. -/
def readFloat? (t : Text) : Option Binary64 := do
  let ascii ← asciiNumeral? (Text.trimBoth Text.isSpacing t)
  unsigned? (splitSign ascii).1 (splitSign ascii).2

example : readFloat? " 1_0.5e0\u00a0".toList = some (.ofDecimal false 105 (-1)) := by decide +kernel

example : readFloat? "1_.5".toList = none := by decide +kernel

end Stencil.Number
