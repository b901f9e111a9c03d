import Stencil.Text.Lower
import Stencil.Yaml.Kind
import Stencil.Yaml.Token

/-!
# Values of YAML scalars

A scalar of a known type stands for a value.  A tag can claim a type that the text of the scalar
does not have; reading it then raises an exception.
-/

namespace Stencil.Yaml

/-- A scalar that stands for no value. -/
def raise {α : Type} (kind detail : Text) : Except Fault α := .error (.raised ⟨kind, detail⟩)

/-- The exception of a numeral that ends before its first digit. -/
def noDigit {α : Type} : Except Fault α := raise "IndexError" "string index out of range"

/-- The value of a word for a truth value. -/
def readTruth (t : Text) : Except Fault Value :=
  let word := Text.lower t
  match truthWords.lookup word with
  | some b => .ok (.bool b)
  | none => raise "KeyError" word

/-! ## Integers -/

/-- The value of a digit in a base. -/
def baseDigit? (base : Nat) (c : Char) : Option Nat :=
  let value := if c.isAlpha then some (c.toLower.toNat - 'a'.toNat + 10) else Text.decimalValue? c
  value.filter (· < base)

/-- The digits without the mark of their base in front. -/
def dropBaseMark (base : Nat) (t : Text) : Text :=
  let mark : Text := if base = 2 then "0b" else if base = 8 then "0o" else "0x"
  match Text.after? mark (Number.lowerAscii (t.take 2)) with
  | some _ => t.drop 2
  | none => t

/-- A decimal digit of any script as the ASCII digit of its value. -/
def asciiDigit (c : Char) : Char :=
  ((Text.decimalValue? c).map fun d => Char.ofNat ('0'.toNat + d)).getD c

/-- Reads the digits of an integer in base two, eight or sixteen. -/
def readDigits? (base : Nat) (t : Text) : Option Nat :=
  let digits := dropBaseMark base (t.map asciiDigit)
  if digits.isEmpty then none else (digits.mapM (baseDigit? base)).map (Number.ofDigits base)

/-- Reads an integer in a base, between spaces and with an optional sign. -/
def readBase (base : Nat) (t : Text) : Except Fault Int :=
  let (negative, digits) := Number.splitSign (Text.trimBoth Text.isSpacing t)
  let result : Except Number.IntegerFault Nat := if base = 10 then
      match Number.readNatural digits with
      | .error (.noNumeral _ _) => .error (.noNumeral base t)
      | result => result
    else match readDigits? base digits with
      | some n => .ok n
      | none => .error (.noNumeral base t)
  match result with
  | .ok n => .ok (Number.signed negative n)
  | .error fault => .error (.raised (.ofInteger fault))

/-- The number that parts stand for when each counts sixty times as much as the next. -/
def ofSixtieths (parts : List Int) : Int := parts.foldl (fun n part => n * 60 + part) 0

/-- Reads an integer without a sign in front. -/
def readMagnitude (t : Text) : Except Fault Int :=
  match t with
  | [] => noDigit
  | ['0'] => .ok 0
  | '0' :: 'b' :: rest => readBase 2 rest
  | '0' :: 'x' :: rest => readBase 16 rest
  | '0' :: _ => readBase 8 t
  | _ =>
    if t.contains ':' then ((Text.split ':' t).mapM (readBase 10)).map ofSixtieths
    else readBase 10 t

/-- Reads an integer. -/
def readInteger (t : Text) : Except Fault Value :=
  match t.filter (· ≠ '_') with
  | '-' :: rest => (readMagnitude rest).map fun n => .int (-n)
  | '+' :: rest => (readMagnitude rest).map .int
  | rest => (readMagnitude rest).map .int

/-! ## Floating-point numbers -/

/-- Reads a decimal. -/
def readDecimal (t : Text) : Except Fault Number.Binary64 :=
  match Number.readFloat? t with
  | some x => .ok x
  | none => raise "ValueError" ("could not convert string to float: " ++ Text.quoted t)

/-- The sum of parts, from the last one on, when each counts sixty times as much as the one after
it; `base` is how much the next one counts. -/
def sumSixtieths (sum : Number.Binary64) (base : Int) :
    List Number.Binary64 → Except Fault Number.Binary64
  | [] => .ok sum
  | part :: rest =>
    match Number.Binary64.ofInt base with
    | .infinite _ => raise "OverflowError" "int too large to convert to float"
    | factor => sumSixtieths (sum.add (part.mul factor)) (base * 60) rest

/-- Reads a floating-point number without a sign in front. -/
def readFloatMagnitude (t : Text) : Except Fault Number.Binary64 :=
  if t = ".inf".toList then .ok (.infinite false)
  else if t = ".nan".toList then .ok .nan
  else if t.contains ':' then do
    let parts ← (Text.split ':' t).mapM readDecimal
    sumSixtieths (.zero false) 1 parts.reverse
  else readDecimal t

/-- The text of a floating-point number in small letters and without low lines. -/
def floatText (t : Text) : Text := Text.lower (t.filter (· ≠ '_'))

/-- Whether the text of a floating-point number is the name of the undefined one. -/
def isNamedUndefined (t : Text) : Bool := dropSign (floatText t) = ".nan".toList

/-- Reads a floating-point number. -/
def readFloat (t : Text) : Except Fault Value :=
  match floatText t with
  | [] => noDigit
  | '-' :: rest => (readFloatMagnitude rest).map fun x => .float x.neg
  | '+' :: rest => (readFloatMagnitude rest).map .float
  | rest => (readFloatMagnitude rest).map .float

/-! ## Bytes -/

/-- The value of a digit in base sixty-four. -/
def sextet? (c : Char) : Option Nat :=
  if 'A' ≤ c && c ≤ 'Z' then some (c.toNat - 'A'.toNat)
  else if 'a' ≤ c && c ≤ 'z' then some (c.toNat - 'a'.toNat + 26)
  else if Number.isAsciiDigit c then some (c.toNat - '0'.toNat + 52)
  else if c = '+' then some 62
  else if c = '/' then some 63
  else none

/-- Reads bytes in base sixty-four, four digits for three bytes.  `place` counts the digits of the
present group, `held` is what its last digit left over, and `pads` counts the equals signs after it.
Other characters are skipped; after a full padding nothing is read any more. -/
def readSextets? (place held pads : Nat) : Text → Option (List UInt8)
  | [] => if place = 0 then some [] else none
  | c :: rest =>
    if c = '=' then
      if 2 ≤ place && 4 ≤ place + pads + 1 then some []
      else readSextets? place held (if 2 ≤ place then pads + 1 else pads) rest
    else match sextet? c with
      | none => readSextets? place held pads rest
      | some n =>
        match place with
        | 0 => readSextets? 1 n 0 rest
        | 1 => (readSextets? 2 (n % 16) 0 rest).map (UInt8.ofNat (held * 4 + n / 16) :: ·)
        | 2 => (readSextets? 3 (n % 4) 0 rest).map (UInt8.ofNat (held * 16 + n / 4) :: ·)
        | _ => (readSextets? 0 0 0 rest).map (UInt8.ofNat (held * 64 + n) :: ·)

/-- Reads bytes. -/
def readBinary (t : Text) : Except Fault Value :=
  if t.all fun c => c.toNat < 128 then
    match readSextets? 0 0 0 t with
    | some bytes => .ok (.bytes bytes)
    | none => malformed
  else malformed

/-! ## Dates -/

/-- The microseconds that the digits of a fraction of a second stand for. -/
def microseconds (digits : Text) : Nat :=
  Number.digitsValue ((digits ++ List.replicate 6 '0').take 6)

/-- The offset in microseconds. -/
def offsetOf : Char × Text × Text → Int
  | (sign, hour, minute) => Number.signed (sign = '-')
    ((Number.digitsValue hour * 60 + Number.digitsValue minute) * 60 * Calendar.perSecond)

/-- The value of a date or a moment, which must exist in the calendar. -/
def Timestamp.value (s : Timestamp) : Except Calendar.Fault Value :=
  let n := Number.digitsValue
  match s.time with
  | none => (Calendar.Date.make (n s.year) (n s.month) (n s.day)).map .date
  | some (hour, minute, second, fraction) =>
    (Calendar.Moment.make (n s.year) (n s.month) (n s.day) (n hour) (n minute) (n second)
      (microseconds fraction) (s.offset.map offsetOf)).map .moment

/-- Reads a date or a moment. -/
def readTimestamp (t : Text) : Except Fault Value :=
  match readTimestamp? (dropLastBreak t) with
  | none => raise "AttributeError" "'NoneType' object has no attribute 'groupdict'"
  | some s => s.value.mapError fun fault => .raised (.ofCalendar fault)

/-- The value of a scalar of a type.  Collections and unknown types have no scalars. -/
def readScalar (kind : Kind) (t : Text) : Except Fault Value :=
  match kind with
  | .null => .ok .null
  | .bool => readTruth t
  | .int => readInteger t
  | .float => readFloat t
  | .binary => readBinary t
  | .timestamp => readTimestamp t
  | .text => .ok (.text t)
  | _ => malformed

end Stencil.Yaml
