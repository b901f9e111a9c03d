import Stencil.Text.Basic
import Stencil.Text.Ranges

/-!
# Blank characters

White space of every script, together with the four separators U+001C to U+001F and the next-line
control.  The zero-width space and the byte-order mark are not blank.
-/

namespace Stencil.Text

/-- The blank characters. -/
def blanks : Ranges := [
  (0x9, 0xD), (0x1C, 0x20), (0x85, 0x85), (0xA0, 0xA0), (0x1680, 0x1680), (0x2000, 0x200A),
  (0x2028, 0x2029), (0x202F, 0x202F), (0x205F, 0x205F), (0x3000, 0x3000)]

/-- Whether a character is blank. -/
def isBlank (c : Char) : Bool := blanks.holds c

/-- The text without blanks at its ends. -/
def trim (t : Text) : Text := trimBoth isBlank t

/-- Blank in the narrower sense used around numbers: the separators U+001C to U+001F do not
count. -/
def isSpacing (c : Char) : Bool :=
  isBlank c && !(0x1C ≤ c.toNat && c.toNat ≤ 0x1F)

example : blanks.ascending = true := by decide

example : trim " \t x y\u00a0".toList = "x y".toList := by decide +kernel

end Stencil.Text
