import Stencil.Value.Basic

/-!
# Values as text

The text of a value is what a template shows for it.  A text is shown as it is, and an object says
itself what it shows; every other value is shown in its form, in which texts are quoted and
collections stand in brackets.  A collection inside itself is shown by three dots.  Values of every
depth have a form: how deep the calls of an interpreter can be nested is left out.
-/

namespace Stencil.Value

/-- A list of forms between brackets. -/
def bracketed (opening : Text) (forms : List Text) (closing : Text) : Text :=
  opening ++ Text.join ", " forms ++ closing

/-- A form between round brackets; one alone is followed by a comma. -/
def roundBracketed : List Text → Text
  | [one] => "(" ++ one ++ ",)"
  | forms => bracketed "(" forms ")"

/-- The form of a set. -/
def setBracketed : List Text → Text
  | [] => "set()"
  | forms => bracketed "\x7b" forms "\x7d"

section Forms

variable (part : Nat → Except Raised Text)

mutual

/-- The form of a value inside other values, where `part` shows the collections of the pool. -/
def formWith : Value → Except Raised Text
  | null => .ok "None"
  | bool b => .ok (if b then "True" else "False")
  | int n => (Number.write n).mapError Raised.ofInteger
  | float x => .ok (Number.Layout.plain.render x)
  | text t => .ok (Text.quoted t)
  | bytes b => .ok (Text.quotedBytes b)
  | date d => .ok d.form
  | moment m => .ok m.form
  | duration d => .ok (Calendar.durationForm d)
  | zone offset => .ok (Calendar.zoneForm offset)
  | list items => (formsWith items).map fun fs => bracketed "[" fs "]"
  | tuple items => (formsWith items).map roundBracketed
  | mapping entries => (entryFormsWith entries).map fun fs => bracketed "\x7b" fs "\x7d"
  | set members => (formsWith members).map setBracketed
  | object _ _ form => form
  | shared number => part number

/-- The forms of several values, or the first exception among them. -/
def formsWith : List Value → Except Raised (List Text)
  | [] => .ok []
  | v :: rest => do
    let f ← formWith v
    let fs ← formsWith rest
    return f :: fs

/-- The forms of the entries of a mapping. -/
def entryFormsWith : List (Value × Value) → Except Raised (List Text)
  | [] => .ok []
  | (k, v) :: rest => do
    let kf ← formWith k
    let vf ← formWith v
    let fs ← entryFormsWith rest
    return (kf ++ ": " ++ vf) :: fs

end

end Forms

/-- What stands for a collection inside itself. -/
def ellipsis : Value → Text
  | mapping _ => "\x7b...\x7d"
  | set _ => "set(...)"
  | tuple _ => "(...)"
  | _ => "[...]"

/-- The form of a collection of the pool inside others, which are named by `opened`.  Every step
opens another one, so that `fuel` beyond the size of the pool is enough. -/
def partForm (pool : Pool) : (fuel : Nat) → (opened : List Nat) → Nat → Except Raised Text
  | 0, _, number => .ok (ellipsis (pool.getD number null))
  | fuel + 1, opened, number =>
    let collection := pool.getD number null
    if opened.contains number then .ok (ellipsis collection)
    else formWith (partForm pool fuel (number :: opened)) collection

/-- The form of a value inside other values. -/
def form (v : Value) (pool : Pool) : Except Raised Text :=
  formWith (partForm pool (pool.size + 1) []) v

/-- The text that a template shows for a value. -/
def display (v : Value) (pool : Pool) : Except Raised Text :=
  match v with
  | text t => .ok t
  | date d => .ok d.text
  | moment m => .ok (m.text ' ')
  | duration d => .ok (Calendar.durationText d)
  | zone offset => .ok (Calendar.zoneText offset)
  | object _ display _ => display
  | v => v.form pool

end Stencil.Value
