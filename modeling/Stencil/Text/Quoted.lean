import Stencil.Text.Printable

/-!
# Quoted texts

A quoted text stands between single quotes, or between double quotes when it holds a single quote
and no double quote.  The quote itself, the backslash and every character that cannot be shown are
escaped, so that a quoted text is one printable line.  Bytes are quoted in the same manner, with a
leading `b`.
-/

namespace Stencil.Text

/-- One hexadecimal digit, in lower case. -/
def hexDigit (n : Nat) : Char :=
  if n < 10 then Char.ofNat ('0'.toNat + n) else Char.ofNat ('a'.toNat + (n - 10))

/-- The last `width` hexadecimal digits of a number. -/
def hexDigits : (width : Nat) → Nat → Text
  | 0, _ => []
  | width + 1, n => hexDigits width (n / 16) ++ [hexDigit (n % 16)]

@[simp]
theorem length_hexDigits (width n : Nat) : (hexDigits width n).length = width := by
  induction width generalizing n with
  | zero => rfl
  | succ width ih => simp [hexDigits, ih]

/-- The mark that a text is quoted with. -/
def quoteMark (t : Text) : Char := if t.contains '\'' && !t.contains '"' then '"' else '\''

/-- How a character is written between the given quotes. -/
def escaped (mark c : Char) : Text :=
  if c = mark || c = '\\' then ['\\', c]
  else if c = '\n' then "\\n"
  else if c = '\r' then "\\r"
  else if c = '\t' then "\\t"
  else if isPrintable c then [c]
  else if c.toNat < 0x100 then "\\x" ++ hexDigits 2 c.toNat
  else if c.toNat < 0x10000 then "\\u" ++ hexDigits 4 c.toNat
  else "\\U" ++ hexDigits 8 c.toNat

/-- A text in which the characters that cannot be shown are escaped. -/
def visible (t : Text) : Text := t.flatMap fun c => if isPrintable c then [c] else escaped '\'' c

/-- A text in quotes. -/
def quoted (t : Text) : Text := quoteMark t :: t.flatMap (escaped (quoteMark t)) ++ [quoteMark t]

/-- How a byte is written between the given quotes: as the ASCII character it is, or by number. -/
def escapedByte (mark : Char) (b : UInt8) : Text :=
  if b.toNat < 0x7F then escaped mark (Char.ofNat b.toNat) else "\\x" ++ hexDigits 2 b.toNat

/-- Bytes in quotes. -/
def quotedBytes (bytes : List UInt8) : Text :=
  let mark := quoteMark (bytes.map fun b => Char.ofNat b.toNat)
  'b' :: mark :: bytes.flatMap (escapedByte mark) ++ [mark]

example : quoted "it's".toList = "\"it's\"".toList := by decide +kernel

example : quoted "a'\"\n\u00a0".toList = "'a\\'\"\\n\\xa0'".toList := by decide +kernel

end Stencil.Text
