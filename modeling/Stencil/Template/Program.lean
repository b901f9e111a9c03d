import Stencil.Template.Balance

/-!
# Programs

A template without components is a program: texts and lookups in order.  Equal programs are the same
program, whatever template they come from.
-/

namespace Stencil.Template

/-- One step of a program. -/
inductive Segment where
  /-- Shows a text. -/
  | text (t : Text)
  /-- Shows the value that an expression leads to, or nothing when there is none. -/
  | lookup (expression : Text)
deriving DecidableEq, Repr

/-- The steps that produce the text of a rendered template. -/
structure Program where
  segments : List Segment
deriving DecidableEq, Repr, Inhabited

/-- The elements of a list without later repetitions. -/
def firstOccurrences : List Text → List Text
  | [] => []
  | x :: xs => x :: (firstOccurrences xs).filter (· ≠ x)

namespace Program

/-- The expressions of the lookups, in order. -/
def lookups (p : Program) : List Text :=
  p.segments.filterMap fun
    | .text _ => none
    | .lookup expression => some expression

/-- The different expressions of the lookups, in the order of their first occurrence. -/
def paths (p : Program) : List Text := firstOccurrences p.lookups

end Program

/-- The segment of a token.  A component marker is left in the text only when the components were
not put in; it becomes a lookup that no path can spell. -/
def segment (identifier : Text) : Token → Except Error Segment
  | .literal text => .ok (.text text)
  | .placeholder expression raw =>
    if expression = [] then .error (.emptyPlaceholder raw identifier)
    else .ok (.lookup expression)
  | .component name _ => .ok (.lookup ("component(" ++ name ++ ")"))

/-- The segments of a list of tokens, or the first error among them. -/
def segments (identifier : Text) : List Token → Except Error (List Segment)
  | [] => .ok []
  | token :: tokens => do
    let s ← segment identifier token
    let ss ← segments identifier tokens
    return s :: ss

/-- Reads a template as a program. -/
def interpolate (d : Delimiters) (identifier text : Text) : Except Error Program := do
  checkBalance d identifier text
  let ss ← segments identifier (scan d text)
  return ⟨ss⟩

end Stencil.Template
