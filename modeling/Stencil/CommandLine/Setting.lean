import Stencil.Number.Numeral
import Stencil.Value.Mapping

/-!
# Settings

A setting `a.b=text` puts a value into the data before a template is applied to it.  The text is
read as a whole number, a finite number or a truth value when it is one, and is kept as a text
otherwise.  On the way to its place a setting makes a new mapping wherever there is none.  What it
puts into a shared mapping is seen wherever that mapping stands.
-/

namespace Stencil.CommandLine

/-- Why a setting is refused. -/
inductive SettingFault where
  /-- The setting has no equals sign. -/
  | noEquals (setting : Text)
  /-- The value is a whole number with too many digits. -/
  | number (fault : Number.IntegerFault)
deriving DecidableEq, Repr

/-- The wording of a fault. -/
def SettingFault.message : SettingFault → Text
  | .noEquals setting => "Expected key=value, got: " ++ setting
  | .number fault => fault.message

/-! ## Values -/

/-- The truth value that a text names in letters of either case. -/
def truth? (t : Text) : Option Bool :=
  let word := Number.lowerAscii t
  if word = "true".toList then some true else if word = "false".toList then some false else none

/-- The value that the text of a setting stands for when it is no whole number. -/
def readPlain (t : Text) : Value :=
  match Number.readFloat? t with
  | some (.finite negative m q) => .float (.finite negative m q)
  | _ => match truth? t with
    | some b => .bool b
    | none => .text t

/-- The value that the text of a setting stands for. -/
def readValue (t : Text) : Except Number.IntegerFault Value :=
  if Number.isInteger t then (Number.readInteger t).map .int else .ok (readPlain t)

/-! ## Places -/

/-- The entries of the mapping under a key; none when there is no mapping. -/
def inner (key : Text) (entries : Entries) : Entries :=
  match entries.find? key with
  | some (.mapping found) => found
  | _ => []

/-- The entries with a value at the place that a list of parents and a last key lead to. -/
def place (parents : List Text) (last : Text) (value : Value) (entries : Entries) : Entries :=
  match parents with
  | [] => entries.put (.text last) value
  | key :: rest => entries.put (.text key) (.mapping (place rest last value (inner key entries)))

/-- The entries of a value that is a mapping. -/
def entriesOf? (pool : Pool) (v : Value) : Option Entries :=
  match pool.reveal v with
  | .mapping entries => some entries
  | _ => none

/-- The number of a value that is a shared mapping. -/
def sharedMapping? (pool : Pool) (v : Value) : Option Nat :=
  match v with
  | .shared number => (entriesOf? pool v).map fun _ => number
  | _ => none

/-- The last shared mapping on the way that a list of keys leads through mappings, and the keys
beyond it. -/
def lastShared? (pool : Pool) (v : Value) (keys : List Text) : Option (Nat × List Text) :=
  let here := (sharedMapping? pool v).map fun number => (number, keys)
  match keys with
  | [] => here
  | key :: rest =>
    match (entriesOf? pool v).bind (·.find? key) with
    | some w => (lastShared? pool w rest).or here
    | none => here

/-- The data with a value at the place that a list of parents and a last key lead to.  It is written
into the last shared mapping on the way, or else into the root. -/
def placeIn (parents : List Text) (last : Text) (value : Value) (data : Data) : Data :=
  let placed (keys : List Text) (v : Value) : Value :=
    .mapping (place keys last value ((entriesOf? data.pool v).getD []))
  match lastShared? data.pool data.root parents with
  | none => { data with root := placed parents data.root }
  | some (number, rest) =>
    { data with pool := data.pool.setIfInBounds number (placed rest (.shared number)) }

/-! ## Settings -/

/-- The keys of a dotted name: those on the way, and the last one. -/
def placeOf (name : Text) : List Text × Text :=
  let keys := Text.split '.' name
  (keys.dropLast, keys.getLastD [])

/-- Applies one setting to data whose root is a mapping. -/
def applySetting (data : Data) (setting : Text) : Except SettingFault Data :=
  match Text.cut ['='] setting with
  | none => .error (.noEquals setting)
  | some (name, text) =>
    match readValue text with
    | .error fault => .error (.number fault)
    | .ok value => .ok (placeIn (placeOf name).1 (placeOf name).2 value data)

/-- Applies settings one after the other. -/
def applySettings (data : Data) : List Text → Except SettingFault Data
  | [] => .ok data
  | setting :: rest => (applySetting data setting).bind fun data => applySettings data rest

/-- Inside a mapping that a setting passes through, the rest of the setting is applied. -/
@[simp]
theorem inner_place_cons (key : Text) (rest : List Text) (last : Text) (value : Value)
    (entries : Entries) :
    inner key (place (key :: rest) last value entries)
      = place rest last value (inner key entries) := by
  simp [place, inner]

end Stencil.CommandLine
