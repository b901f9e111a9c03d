import Stencil.Value.Exception

/-!
# Data values

The data that a template is applied to: scalars, sequences, mappings and sets as data files hold
them, and objects with named attributes.  A mapping keeps its entries in the order in which their
keys first came.  Looking at an object may raise an exception.

A collection that a document can name in several places is kept in a pool, and its number stands
for it everywhere, also inside itself.
-/

namespace Stencil

/-- A text that is there. -/
instance : Coe Text (Except Raised Text) := ⟨.ok⟩

/-- A data value. -/
inductive Value where
  | null
  | bool (b : Bool)
  | int (n : Int)
  | float (x : Number.Binary64)
  | text (t : Text)
  | bytes (bytes : List UInt8)
  | date (d : Calendar.Date)
  | moment (m : Calendar.Moment)
  | duration (microseconds : Int)
  /-- The time zone at an offset from universal time, in microseconds. -/
  | zone (offset : Int)
  | list (items : List Value)
  | tuple (items : List Value)
  | mapping (entries : List (Value × Value))
  /-- A set, whose members are scalars. -/
  | set (members : List Value)
  /-- An object: its attributes, reading of which may raise; its text, and the form in which it is
  shown inside other values, each of which may raise too. -/
  | object (attributes : List (Text × Except Raised Value)) (display form : Except Raised Text)
  /-- The collection of a number in the pool. -/
  | shared (number : Nat)
deriving Inhabited

/-- The collections that a document can name in several places, by number.  None of them is a bare
number itself. -/
abbrev Pool := Array Value

/-- A value with the pool that its numbers stand for. -/
structure Data where
  root : Value
  pool : Pool
deriving Inhabited

/-- A value that shares nothing. -/
def Data.ofTree (root : Value) : Data := ⟨root, #[]⟩

/-- The value itself, where the number of a collection may stand for it. -/
def Pool.reveal (pool : Pool) : Value → Value
  | .shared number => pool.getD number .null
  | v => v

/-- The root of data, with its own items in place of their numbers. -/
def Data.revealed (data : Data) : Value := Pool.reveal data.pool data.root

namespace Value

/-- The name of the type of a value. -/
def typeName : Value → Text
  | null => "NoneType"
  | bool _ => "bool"
  | int _ => "int"
  | float _ => "float"
  | text _ => "str"
  | bytes _ => "bytes"
  | date _ => "datetime.date"
  | moment _ => "datetime.datetime"
  | duration _ => "datetime.timedelta"
  | zone _ => "datetime.timezone"
  | list _ => "list"
  | tuple _ => "tuple"
  | mapping _ => "dict"
  | set _ => "set"
  | object .. => "object"
  | shared _ => "collection"

/-- Whether a value counts for nothing when a document is expected: null, false, a zero, or an
empty text or collection. -/
def isVoid : Value → Bool
  | null => true
  | bool b => !b
  | int n => n = 0
  | float x => x.isZero
  | text t => t.isEmpty
  | bytes b => b.isEmpty
  | list items => items.isEmpty
  | tuple items => items.isEmpty
  | mapping entries => entries.isEmpty
  | set members => members.isEmpty
  | _ => false

/-- Whether a value can be a key: collections that can grow cannot. -/
def isKey : Value → Bool
  | list _ => false
  | mapping _ => false
  | set _ => false
  | shared _ => false
  | _ => true

end Value
end Stencil
