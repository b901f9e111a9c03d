import Stencil.Text.Basic

/-!
# Control sequences

Text for a terminal may hold control sequences; they are taken out where the output is no terminal.
-/

namespace Stencil.Text

/-- What follows a control sequence at the beginning of a text: an escape, a bracket, parameters and
a letter. -/
def afterControl? : Text → Option Text
  | '\x1b' :: '[' :: rest =>
    match rest.dropWhile fun c => c.isDigit || c = ';' || c = '?' with
    | c :: after => if c.isAlpha then some after else none
    | [] => none
  | _ => none

/-- The text without control sequences.  Every step takes at least one character, so that `fuel` as
large as the text is enough. -/
def stripControlsWithin : (fuel : Nat) → Text → Text
  | 0, _ => []
  | _, [] => []
  | fuel + 1, c :: rest =>
    match afterControl? (c :: rest) with
    | some after => stripControlsWithin fuel after
    | none => c :: stripControlsWithin fuel rest

/-- The text without control sequences. -/
def stripControls (t : Text) : Text := stripControlsWithin t.length t

example : stripControls "a\x1b[1;31mb\x1b[".toList = "ab\x1b[".toList := by decide +kernel

end Stencil.Text
