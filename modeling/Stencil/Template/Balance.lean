import Stencil.Template.Error
import Stencil.Template.Token

/-!
# Balanced delimiters

Before a template is read as a program, every line must hold as many opening as closing delimiters.
Only the numbers count, not the order.
-/

namespace Stencil.Template

/-- How a line fails to balance, if it does. -/
def lineImbalance? (d : Delimiters) (line : Text) : Option Imbalance :=
  let opened := Text.count d.opening line
  let closed := Text.count d.closing line
  if opened = closed then none
  else if closed < opened then some (.missing d.closing)
  else some (.unexpected d.closing d.opening)

/-- The first line that does not balance, where the lines are numbered from `number` on. -/
def firstImbalance? (d : Delimiters) (number : Nat) : List Text → Option (Nat × Imbalance)
  | [] => none
  | line :: lines =>
    match lineImbalance? d line with
    | some imbalance => some (number, imbalance)
    | none => firstImbalance? d (number + 1) lines

/-- Accepts a template whose delimiters balance on every line, and otherwise names the first line
where they do not. -/
def checkBalance (d : Delimiters) (identifier text : Text) : Except Error Unit :=
  match firstImbalance? d 1 (Text.lines text) with
  | none => .ok ()
  | some (line, imbalance) => .error (.unbalanced identifier line imbalance)

end Stencil.Template
