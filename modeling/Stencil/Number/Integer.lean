import Stencil.Power
import Stencil.Text.Digit
import Stencil.Text.Quoted

/-!
# Integers as text

Integers are written in decimal and read from decimal digits of any script.  Conversions in either
direction are refused beyond a fixed number of digits, so that a hostile number cannot stall a
render.
-/

namespace Stencil.Number

/-- The most decimal digits that an integer may have to be converted from or to text. -/
def digitLimit : Nat := 4300

/-- Why an integer cannot be converted. -/
inductive IntegerFault where
  /-- The integer has too many digits to be written. -/
  | tooLongToWrite
  /-- The text has too many digits to be read; they are counted, leading zeros included. -/
  | tooLongToRead (digits : Nat)
  /-- The text is no numeral of the base. -/
  | noNumeral (base : Nat) (source : Text)
deriving DecidableEq, Repr

/-- The wording of a fault.  A text that is no numeral is shown in quotes, cut short after two
hundred characters. -/
def IntegerFault.message : IntegerFault → Text
  | .tooLongToWrite =>
    "Exceeds the limit (" ++ Nat.toDigits 10 digitLimit ++ " digits) for integer string conversion"
      ++ "; use sys.set_int_max_str_digits() to increase the limit"
  | .tooLongToRead digits =>
    "Exceeds the limit (" ++ Nat.toDigits 10 digitLimit ++ " digits) for integer string conversion"
      ++ ": value has " ++ Nat.toDigits 10 digits
      ++ " digits; use sys.set_int_max_str_digits() to increase the limit"
  | .noNumeral base source =>
    "invalid literal for int() with base " ++ Nat.toDigits 10 base ++ ": "
      ++ (Text.quoted source).take 200

/-! ## Writing -/

/-- The decimal form of an integer of any size. -/
def digits (n : Int) : Text :=
  if n < 0 then '-' :: Nat.toDigits 10 n.natAbs else Nat.toDigits 10 n.natAbs

/-- The decimal form of an integer within the limit. -/
def write (n : Int) : Except IntegerFault Text :=
  if tenTo digitLimit ≤ n.natAbs then .error .tooLongToWrite else .ok (digits n)

/-! ## Reading -/

/-- The number that a list of digit values stands for in a base. -/
def ofDigits (base : Nat) (values : List Nat) : Nat :=
  values.foldl (fun n d => n * base + d) 0

/-- Reads a numeral of decimal digits.  The digits are counted up to the first character that is
none, and too many of them are refused before the rest is looked at. -/
def readNatural (t : Text) : Except IntegerFault Nat :=
  let leading := (t.takeWhile Text.isDecimal).length
  if digitLimit < leading then .error (.tooLongToRead leading)
  else if leading = t.length && leading ≠ 0 then .ok (ofDigits 10 (t.filterMap Text.decimalValue?))
  else .error (.noNumeral 10 t)

/-- Splits a text into its sign and the rest; without a sign it is positive. -/
def splitSign : Text → Bool × Text
  | '-' :: rest => (true, rest)
  | '+' :: rest => (false, rest)
  | rest => (false, rest)

/-- The integer with the given sign and magnitude. -/
def signed (negative : Bool) (n : Nat) : Int := if negative then -(n : Int) else n

/-- Whether a text is an integer: an optional sign and at least one decimal digit. -/
def isInteger (t : Text) : Bool :=
  let rest := (splitSign t).2
  !rest.isEmpty && rest.all Text.isDecimal

/-- Reads an integer with an optional sign. -/
def readInteger (t : Text) : Except IntegerFault Int :=
  (readNatural (splitSign t).2).map (signed (splitSign t).1)

example : (readInteger "-٣4".toList).toOption = some (-34) := by decide +kernel

example : (readNatural "²".toList).toOption = none := by decide +kernel

end Stencil.Number
