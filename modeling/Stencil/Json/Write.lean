import Stencil.Json.Read
import Stencil.Value.Display

/-!
# Writing JSON

Values are written without blanks and on one line.  Keys that are no texts are written as texts,
undefined and infinite numbers as null, and whatever JSON has no form for as its text.  Some values
cannot be written: a whole number beyond 64 bits, a key that is a container, nesting that is too
deep, and what has no text.
-/

namespace Stencil.Json

/-- Why a value cannot be written. -/
inductive Fault where
  | integer
  | integerKey
  | key
  | depth
  /-- The value has no text. -/
  | noText (typeName : Text)
deriving DecidableEq, Repr

/-- The wording of a fault. -/
def Fault.message : Fault → Text
  | .integer => "Integer exceeds 64-bit range"
  | .integerKey => "Dict integer key must be within 64-bit range"
  | .key => "Dict key must a type serializable with OPT_NON_STR_KEYS"
  | .depth => "Recursion limit reached"
  | .noText typeName => "Type is not JSON serializable: " ++ typeName

/-- How a character is written in a string. -/
def escaped (c : Char) : Text :=
  if c = '"' then "\\\""
  else if c = '\\' then "\\\\"
  else if c = '\n' then "\\n"
  else if c = '\r' then "\\r"
  else if c = '\t' then "\\t"
  else if c = '\x08' then "\\b"
  else if c = '\x0c' then "\\f"
  else if c.toNat < 0x20 then "\\u" ++ Text.hexDigits 4 c.toNat
  else [c]

/-- A text as a string. -/
def string (t : Text) : Text := '"' :: t.flatMap escaped ++ ['"']

/-- A list of parts between brackets. -/
def enclosed (opening : Char) (parts : List Text) (closing : Char) : Text :=
  opening :: Text.join "," parts ++ [closing]

/-- A member of an object. -/
def member (name value : Text) : Text := string name ++ ":" ++ value

/-- An offset from universal time in hours and minutes.  The minutes count one more from thirty
seconds on, which may make them sixty. -/
def offsetText (microseconds : Int) : Text :=
  let seconds := microseconds.fdiv Calendar.perSecond
  let magnitude := seconds.natAbs
  let minutes := magnitude / 60 % 60 + (if 30 ≤ magnitude % 60 then 1 else 0)
  (if seconds < 0 then ['-'] else ['+']) ++ Calendar.padded 2 (magnitude / 3600) ++ ":"
    ++ Calendar.padded 2 minutes

/-- A moment in the form 2024-02-29T01:02:03+00:00. -/
def momentText (m : Calendar.Moment) : Text := m.date.text ++ "T" ++ m.timeText offsetText

/-- A key of a mapping, as the name of a member. -/
def keyText : Value → Except Fault Text
  | .text t => .ok t
  | .null => .ok "null"
  | .bool b => .ok (if b then "true" else "false")
  | .int n => if isWord n then .ok (Number.digits n) else .error .integerKey
  | .float x => .ok (Number.Layout.json.render x)
  | .date d => .ok d.text
  | .moment m => .ok (momentText m)
  | _ => .error .key

/-- The text of a value that JSON has no form for: what it shows, or its form when that raises. -/
def fallback (pool : Pool) (v : Value) : Except Fault Text :=
  match v.display pool, v.form pool with
  | .ok shown, _ => .ok shown
  | .error _, .ok form => .ok form
  | .error _, .error _ => .error (.noText v.typeName)

/-- Writes a value that is no container or an empty tuple. -/
def writeScalar (pool : Pool) : Value → Except Fault Text
  | .null => .ok "null"
  | .bool b => .ok (if b then "true" else "false")
  | .int n => if isWord n then .ok (Number.digits n) else .error .integer
  | .float x => .ok (Number.Layout.json.render x)
  | .text t => .ok (string t)
  | .date d => .ok (string d.text)
  | .moment m => .ok (string (momentText m))
  | .tuple _ => .ok "[]"
  | v => (fallback pool v).map string

/-- How many containers may stand inside one another below the one that holds a crash record. -/
def writeLimit : Nat := 253

/-- An array of items. -/
def array (items : List Text) : Text := enclosed '[' items ']'

/-- An object of members. -/
def object (names values : List Text) : Text :=
  enclosed '\x7b' (List.zipWith member names values) '\x7d'

/-- Writes a value, in which so many more containers may be nested.  The keys of a mapping are
looked at before its values. -/
def write (pool : Pool) : (depth : Nat) → Value → Except Fault Text
  | 0, v => match pool.reveal v with
    | .list _ => .error .depth
    | .tuple (_ :: _) => .error .depth
    | .mapping _ => .error .depth
    | v => writeScalar pool v
  | depth + 1, v => match pool.reveal v with
    | .list items => (items.mapM (write pool depth)).map array
    | .tuple items => (items.mapM (write pool depth)).map array
    | .mapping entries => do
      let names ← entries.mapM fun (key, _) => keyText key
      let values ← entries.mapM fun (_, v) => write pool depth v
      return object names values
    | v => writeScalar pool v

end Stencil.Json
