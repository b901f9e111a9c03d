import Stencil.Value.Mapping
import Stencil.Text.Utf8

/-!
# Reading JSON

A JSON document is UTF-8 text that holds one value between blanks.  Of several members with one name
the last counts, in the place of the first.  A whole number beyond 64 bits becomes a floating-point
number; a number beyond those, a character that is half a pair, and nesting that is too deep are
refused.
-/

namespace Stencil.Json

/-- The text without the blanks of JSON at its beginning. -/
def skipBlanks (t : Text) : Text := t.dropWhile fun c => c = ' ' || c = '\n' || c = '\r' || c = '\t'

/-- The most containers that may stand inside one another. -/
def depthLimit : Nat := 1024

/-! ## Strings -/

/-- The value of a hexadecimal digit. -/
def hexValue? (c : Char) : Option Nat :=
  if '0' ≤ c && c ≤ '9' then some (c.toNat - '0'.toNat)
  else if 'a' ≤ c && c ≤ 'f' then some (c.toNat - 'a'.toNat + 10)
  else if 'A' ≤ c && c ≤ 'F' then some (c.toNat - 'A'.toNat + 10)
  else none

/-- Reads a number of four hexadecimal digits. -/
def readUnit? : Text → Option (Nat × Text)
  | a :: b :: c :: d :: rest => do
    let digits ← [a, b, c, d].mapM hexValue?
    return (Number.ofDigits 16 digits, rest)
  | _ => none

/-- Reads the character after the mark of a numbered escape.  Characters beyond 16 bits are written
as a pair of numbers; a half of a pair stands for nothing. -/
def readNumbered? (t : Text) : Option (Char × Text) := do
  let (unit, rest) ← readUnit? t
  if unit < 0xD800 || 0xDFFF < unit then return (Char.ofNat unit, rest)
  else
    guard (unit < 0xDC00)
    let (low, rest) ← readUnit? (← Text.after? "\\u" rest)
    guard (0xDC00 ≤ low && low ≤ 0xDFFF)
    return (Char.ofNat (0x10000 + (unit - 0xD800) * 1024 + (low - 0xDC00)), rest)

/-- The character that a one-letter escape stands for. -/
def shortEscape? (c : Char) : Option Char :=
  if c = '"' || c = '\\' || c = '/' then some c
  else if c = 'b' then some '\x08'
  else if c = 'f' then some '\x0c'
  else if c = 'n' then some '\n'
  else if c = 'r' then some '\r'
  else if c = 't' then some '\t'
  else none

/-- Reads the rest of a string, up to its closing mark. -/
def readString? : (fuel : Nat) → Text → Option (Text × Text)
  | 0, _ => none
  | _, [] => none
  | _ + 1, '"' :: rest => some ([], rest)
  | fuel + 1, '\\' :: 'u' :: rest => do
    let (c, rest) ← readNumbered? rest
    let (t, rest) ← readString? fuel rest
    return (c :: t, rest)
  | fuel + 1, '\\' :: mark :: rest => do
    let c ← shortEscape? mark
    let (t, rest) ← readString? fuel rest
    return (c :: t, rest)
  | fuel + 1, c :: rest => do
    guard (c ≠ '\\' && 0x20 ≤ c.toNat)
    let (t, rest) ← readString? fuel rest
    return (c :: t, rest)

/-! ## Numbers -/

/-- The whole part of a number: one zero, or digits that do not begin with zero. -/
def readWhole? : Text → Option (Text × Text)
  | '0' :: rest => some (['0'], rest)
  | t =>
    let digits := t.takeWhile Number.isAsciiDigit
    if digits.isEmpty then none else some (digits, t.dropWhile Number.isAsciiDigit)

/-- The fraction of a number, without its point. -/
def readFraction? : Text → Option (Text × Text)
  | '.' :: rest =>
    let digits := rest.takeWhile Number.isAsciiDigit
    if digits.isEmpty then none else some (digits, rest.dropWhile Number.isAsciiDigit)
  | t => some ([], t)

/-- The exponent of a number, if it has one. -/
def readExponent? : Text → Option (Option Int × Text)
  | [] => some (none, [])
  | mark :: rest =>
    if mark = 'e' || mark = 'E' then
      let (negative, rest) := Number.splitSign rest
      let digits := rest.takeWhile Number.isAsciiDigit
      if digits.isEmpty then none
      else some (some (Number.signed negative (Number.digitsValue digits)),
        rest.dropWhile Number.isAsciiDigit)
    else some (none, mark :: rest)

/-- Whether a whole number has a place among the signed or unsigned 64-bit numbers. -/
def isWord (n : Int) : Bool := -(twoTo 63 : Int) ≤ n && n < (twoTo 64 : Int)

/-- A finite floating-point number, as a value. -/
def finite? (x : Number.Binary64) : Option Value := if x.isFinite then some (.float x) else none

/-- Reads a number. -/
def readNumber? (t : Text) : Option (Value × Text) := do
  let (negative, rest) := match t with
    | '-' :: rest => (true, rest)
    | rest => (false, rest)
  let (whole, rest) ← readWhole? rest
  let (fraction, rest) ← readFraction? rest
  let (exponent, rest) ← readExponent? rest
  let n := Number.signed negative (Number.digitsValue whole)
  if fraction.isEmpty && exponent.isNone && isWord n then return (.int n, rest)
  else
    let v ← finite? (.ofDecimal negative (Number.digitsValue (whole ++ fraction))
      (exponent.getD 0 - fraction.length))
    return (v, rest)

/-! ## Values -/

mutual

/-- Reads a value, in which so many more containers may be nested. -/
def readValue? : (fuel : Nat) → (depth : Nat) → Text → Option (Value × Text)
  | 0, _, _ => none
  | fuel + 1, depth, t =>
    match skipBlanks t with
    | 'n' :: 'u' :: 'l' :: 'l' :: rest => some (.null, rest)
    | 't' :: 'r' :: 'u' :: 'e' :: rest => some (.bool true, rest)
    | 'f' :: 'a' :: 'l' :: 's' :: 'e' :: rest => some (.bool false, rest)
    | '"' :: rest => (readString? (rest.length + 1) rest).map fun (s, rest) => (.text s, rest)
    | '[' :: rest =>
      match depth, skipBlanks rest with
      | 0, _ => none
      | _ + 1, ']' :: rest => some (.list [], rest)
      | depth + 1, rest => (readItems? fuel depth rest).map fun (vs, rest) => (.list vs, rest)
    | '\x7b' :: rest =>
      match depth, skipBlanks rest with
      | 0, _ => none
      | _ + 1, '\x7d' :: rest => some (.mapping [], rest)
      | depth + 1, rest => (readMembers? fuel depth rest).map fun (ms, rest) =>
        (.mapping (Entries.ofPairs ms), rest)
    | t => readNumber? t

/-- Reads the items of an array, up to its end. -/
def readItems? : (fuel : Nat) → (depth : Nat) → Text → Option (List Value × Text)
  | 0, _, _ => none
  | fuel + 1, depth, t => do
    let (v, rest) ← readValue? fuel depth t
    match skipBlanks rest with
    | ',' :: rest =>
      let (vs, rest) ← readItems? fuel depth rest
      return (v :: vs, rest)
    | ']' :: rest => return ([v], rest)
    | _ => none

/-- Reads the members of an object, up to its end. -/
def readMembers? : (fuel : Nat) → (depth : Nat) → Text → Option (List (Value × Value) × Text)
  | 0, _, _ => none
  | fuel + 1, depth, t => do
    let rest ← Text.after? ['"'] (skipBlanks t)
    let (name, rest) ← readString? (rest.length + 1) rest
    let rest ← Text.after? [':'] (skipBlanks rest)
    let (v, rest) ← readValue? fuel depth rest
    match skipBlanks rest with
    | ',' :: rest =>
      let (ms, rest) ← readMembers? fuel depth rest
      return ((.text name, v) :: ms, rest)
    | '\x7d' :: rest => return ([(.text name, v)], rest)
    | _ => none

end

/-- Reads a text that is one JSON value. -/
def readText? (t : Text) : Option Value := do
  let (v, rest) ← readValue? (2 * t.length + 2) depthLimit t
  guard (skipBlanks rest).isEmpty
  return v

/-- Reads a JSON document. -/
def read? (bytes : List UInt8) : Option Value := do
  let t ← (Text.Utf8.decode bytes).toOption
  readText? t

end Stencil.Json
