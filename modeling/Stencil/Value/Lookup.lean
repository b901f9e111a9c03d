import Stencil.Value.Mapping
import Stencil.Value.Display

/-!
# Looking values up

A path leads into a value one part at a time: a mapping is entered by a text key, a sequence by an
index, and anything else by the name of a public attribute.  What a path does not reach is null, and
so is everything beyond null.
-/

namespace Stencil.Value

/-- The attributes of a whole number. -/
def integerAttribute (n : Int) (name : Text) : Option Value :=
  if name = "real".toList || name = "numerator".toList then some (.int n)
  else if name = "imag".toList then some (.int 0)
  else if name = "denominator".toList then some (.int 1)
  else none

/-- The attributes of a floating-point number. -/
def floatAttribute (x : Number.Binary64) (name : Text) : Option Value :=
  if name = "real".toList then some (.float x)
  else if name = "imag".toList then some (.float (.zero false))
  else none

/-- The attributes of a date. -/
def dateAttribute (d : Calendar.Date) (name : Text) : Option Value :=
  if name = "year".toList then some (.int d.year)
  else if name = "month".toList then some (.int d.month)
  else if name = "day".toList then some (.int d.day)
  else if name = "min".toList then some (.date .first)
  else if name = "max".toList then some (.date .last)
  else if name = "resolution".toList then some (.duration Calendar.perDay)
  else none

/-- The attributes of a moment. -/
def momentAttribute (m : Calendar.Moment) (name : Text) : Option Value :=
  if name = "hour".toList then some (.int m.hour)
  else if name = "minute".toList then some (.int m.minute)
  else if name = "second".toList then some (.int m.second)
  else if name = "microsecond".toList then some (.int m.microsecond)
  else if name = "fold".toList then some (.int 0)
  else if name = "tzinfo".toList then
    some <| match m.offset with
      | none => .null
      | some offset => .zone offset
  else if name = "min".toList then some (.moment .first)
  else if name = "max".toList then some (.moment .last)
  else if name = "resolution".toList then some (.duration 1)
  else dateAttribute m.date name

/-- The attributes of a duration. -/
def durationAttribute (microseconds : Int) (name : Text) : Option Value :=
  if name = "days".toList then some (.int (Calendar.durationDays microseconds))
  else if name = "seconds".toList then some (.int (Calendar.durationSeconds microseconds))
  else if name = "microseconds".toList then
    some (.int (Calendar.durationMicroseconds microseconds))
  else if name = "min".toList then some (.duration Calendar.leastDuration)
  else if name = "max".toList then some (.duration Calendar.greatestDuration)
  else if name = "resolution".toList then some (.duration 1)
  else none

/-- The attributes of every time zone. -/
def zoneAttribute (name : Text) : Option Value :=
  if name = "utc".toList then some (.zone 0)
  else if name = "min".toList then some (.zone (-Calendar.greatestOffset))
  else if name = "max".toList then some (.zone Calendar.greatestOffset)
  else none

/-- The attribute of an object, in a list of attributes.  One that is not there and one whose
reading says so are the same. -/
def objectAttribute (attributes : List (Text × Except Raised Value)) (name : Text) :
    Except Raised (Option Value) :=
  match attributes.lookup name with
  | none => .ok none
  | some (.ok v) => .ok (some v)
  | some (.error r) => if r.isMissing then .ok none else .error r

/-- The public attribute of a value that is neither a mapping nor a sequence.  Only attributes that
hold data count: methods, whose texts would tell where they are stored, are left out and found by no
name. -/
def publicAttribute (v : Value) (name : Text) : Except Raised (Option Value) :=
  if Text.startsWith ['_'] name then .ok none
  else match v with
    | bool b => .ok (integerAttribute (if b then 1 else 0) name)
    | int n => .ok (integerAttribute n name)
    | float x => .ok (floatAttribute x name)
    | date d => .ok (dateAttribute d name)
    | moment m => .ok (momentAttribute m name)
    | duration d => .ok (durationAttribute d name)
    | zone _ => .ok (zoneAttribute name)
    | object attributes _ _ => objectAttribute attributes name
    | _ => .ok none

/-- The element of a sequence that a part names.  A part of digits is an index; digits without a
decimal value are refused. -/
def element (items : List Value) (part : Text) : Except Raised (Option Value) :=
  if part.isEmpty || !part.all Text.isDigit then .ok none
  else match Number.readNatural part with
    | .ok n => .ok items[n]?
    | .error fault => .error (Raised.ofInteger fault)

/-- The value one part further, if there is one. -/
def step (v : Value) (pool : Pool) (part : Text) : Except Raised (Option Value) :=
  match pool.reveal v with
  | mapping entries => .ok (Entries.find? part entries)
  | list items => element items part
  | tuple items => element items part
  | v => publicAttribute v part

/-- The value at the end of a path; null when a part of it leads nowhere. -/
def resolve (v : Value) (pool : Pool) : List Text → Except Raised Value
  | [] => .ok v
  | part :: rest =>
    match v with
    | .null => .ok .null
    | v =>
      match v.step pool part with
      | .error r => .error r
      | .ok none => .ok .null
      | .ok (some w) => resolve w pool rest

@[simp]
theorem resolve_nil (v : Value) (pool : Pool) : v.resolve pool [] = .ok v := by
  unfold resolve
  rfl

/-- Nothing lies beyond null. -/
@[simp]
theorem resolve_null (pool : Pool) (path : List Text) :
    Value.null.resolve pool path = .ok .null := by
  cases path <;> simp [resolve]

end Stencil.Value
