import Stencil.Number.Numeral
import Stencil.Yaml.Cursor

/-!
# Types of plain scalars

A plain scalar without a tag has the type that its form shows: a truth value, a number, null, a
date, or else a text.  The forms are those of YAML 1.1, so that `yes` is true, `010` is octal and
`190:20:30` counts in sixties.
-/

namespace Stencil.Yaml

/-- The types of nodes that are known by name. -/
inductive Kind where
  | null
  | bool
  | int
  | float
  | binary
  | timestamp
  | text
  | sequence
  | mapping
  | set
  | orderedMapping
  | pairs
  /-- The type of the key that merges other mappings into a mapping. -/
  | merge
  /-- The type of the key of a mapping that stands for the mapping. -/
  | standIn
  /-- Any other type. -/
  | unknown
deriving DecidableEq, Repr, Inhabited

/-- The words for truth values, in one of the three spellings. -/
def truthWords : List (Text × Bool) :=
  [("yes", true), ("no", false), ("true", true), ("false", false), ("on", true), ("off", false)]

/-- Whether a text is a word in lower case, in upper case, or with a capital. -/
def isSpelling (word t : Text) : Bool :=
  t = word || t = word.map Char.toUpper
    || t = (word.take 1).map Char.toUpper ++ word.drop 1

/-- Whether a text is a word for a truth value. -/
def isTruth (t : Text) : Bool := truthWords.any fun (word, _) => isSpelling word t

/-- Whether a text is a word for null. -/
def isNull (t : Text) : Bool := t.isEmpty || t = ['~'] || isSpelling "null" t

/-! ## Numbers -/

/-- Whether a character is an ASCII digit or a low line. -/
def isDigitOrLine (c : Char) : Bool := c = '_' || Number.isAsciiDigit c

/-- The text without a sign in front. -/
def dropSign : Text → Text
  | '+' :: rest => rest
  | '-' :: rest => rest
  | t => t

/-- Whether a text is one digit up to nine or two up to fifty-nine. -/
def isSixtieth : Text → Bool
  | [d] => Number.isAsciiDigit d
  | [t, d] => '0' ≤ t && t ≤ '5' && Number.isAsciiDigit d
  | _ => false

/-- Whether a text is made of digits and low lines, with a digit in front. -/
def isDigits : Text → Bool
  | d :: rest => Number.isAsciiDigit d && rest.all isDigitOrLine
  | [] => false

/-- Whether a text is made of characters of a class, with at least one. -/
def isSome (p : Char → Bool) (t : Text) : Bool := !t.isEmpty && t.all p

/-- Whether a text has the form of an integer: binary, octal, decimal, hexadecimal, or in sixties.
-/
def isIntegerForm (t : Text) : Bool :=
  match dropSign t with
  | '0' :: 'b' :: rest => isSome (fun c => c = '0' || c = '1' || c = '_') rest
  | '0' :: 'x' :: rest => isSome (fun c => isDigitOrLine c || isOneOf "abcdefABCDEF" c) rest
  | '0' :: rest => rest.all fun c => c = '_' || ('0' ≤ c && c ≤ '7')
  | t => match Text.split ':' t with
    | [] => false
    | first :: sixtieths => isDigits first && sixtieths.all isSixtieth

/-- Whether a text is an exponent with a sign, or nothing. -/
def isExponent : Text → Bool
  | [] => true
  | e :: sign :: digits =>
    (e = 'e' || e = 'E') && (sign = '+' || sign = '-') && isSome Number.isAsciiDigit digits
  | _ => false

/-- Whether a text begins with digits and low lines that only an exponent follows. -/
def isFraction (t : Text) : Bool := isExponent (t.dropWhile isDigitOrLine)

/-- Whether a text with a point has the form of a floating-point number. -/
def isPointForm (t whole fraction : Text) : Bool :=
  match Text.split ':' whole with
  | [] => false
  | [digits] =>
    (isDigits digits && isFraction fraction)
      || (digits.isEmpty && (fraction.headD ' ').isDigit && isFraction fraction
        && Text.startsWith ['.'] t)
  | first :: sixtieths =>
    isDigits first && sixtieths.all isSixtieth && fraction.all isDigitOrLine

/-- Whether a text has the form of a floating-point number: with a point, in sixties with a point,
or as a name. -/
def isFloatForm (t : Text) : Bool :=
  match Text.cut ['.'] (dropSign t) with
  | none => false
  | some (whole, fraction) =>
    isPointForm t whole fraction
      || (whole.isEmpty && ([("inf" : Text), "Inf", "INF"].contains fraction
        || (t.length = 4 && [("nan" : Text), "NaN", "NAN"].contains fraction)))

/-! ## Dates -/

/-- Takes from `least` to `most` digits, as many as there are. -/
def takeDigits? (least most : Nat) (t : Text) : Option (Text × Text) :=
  let digits := (t.take most).takeWhile Number.isAsciiDigit
  if least ≤ digits.length then some (digits, t.drop digits.length) else none

/-- The fields of a date or a moment as they are written. -/
structure Timestamp where
  year : Text
  month : Text
  day : Text
  /-- The hour, the minute, the second and the digits of the fraction. -/
  time : Option (Text × Text × Text × Text)
  /-- The sign, the hour and the minute of the offset. -/
  offset : Option (Char × Text × Text)
deriving DecidableEq, Repr

/-- Reads an offset up to the end: nothing, a `Z`, or a sign with an hour and perhaps a minute. -/
def readZone? : Text → Option (Option (Char × Text × Text))
  | [] => some none
  | ['Z'] => some (some ('+', ['0'], ['0']))
  | sign :: rest => do
    guard (sign = '+' || sign = '-')
    let (hour, rest) ← takeDigits? 1 2 rest
    match rest with
    | [] => return some (sign, hour, ['0'])
    | ':' :: rest =>
      let (minute, rest) ← takeDigits? 2 2 rest
      guard rest.isEmpty
      return some (sign, hour, minute)
    | _ => none

/-- The text without spaces and tabs in front. -/
def dropBlanks (t : Text) : Text := t.dropWhile fun c => c = ' ' || c = '\t'

/-- The text after the mark between a date and a time of day. -/
def afterTimeMark? : Text → Option Text
  | 'T' :: rest => some rest
  | 't' :: rest => some rest
  | c :: rest => if c = ' ' || c = '\t' then some (dropBlanks rest) else none
  | [] => none

/-- Reads a date or a moment.  The fields are not checked against the calendar. -/
def readTimestamp? (t : Text) : Option Timestamp := do
  let (year, rest) ← takeDigits? 4 4 t
  let (month, rest) ← takeDigits? 1 2 (← Text.after? ['-'] rest)
  let (day, rest) ← takeDigits? 1 2 (← Text.after? ['-'] rest)
  if rest.isEmpty then return ⟨year, month, day, none, none⟩
  else
    let (hour, rest) ← takeDigits? 1 2 (← afterTimeMark? rest)
    let (minute, rest) ← takeDigits? 2 2 (← Text.after? [':'] rest)
    let (second, rest) ← takeDigits? 2 2 (← Text.after? [':'] rest)
    let (fraction, rest) := match rest with
      | '.' :: rest => (rest.takeWhile Number.isAsciiDigit, rest.dropWhile Number.isAsciiDigit)
      | rest => ([], rest)
    guard (rest.isEmpty || !(dropBlanks rest).isEmpty)
    return ⟨year, month, day, some (hour, minute, second, fraction), ← readZone? (dropBlanks rest)⟩

/-- Whether a text has the form of a date or a moment; the month and the day of a date alone have
two digits. -/
def isTimestampForm (t : Text) : Bool :=
  match readTimestamp? t with
  | none => false
  | some ⟨_, month, day, none, _⟩ => month.length = 2 && day.length = 2
  | some _ => true

/-- The text without one line feed at its end, which the forms do not see. -/
def dropLastBreak (t : Text) : Text := if t.getLast? = some '\n' then t.dropLast else t

/-- The type that the form of a plain scalar shows. -/
def plainKind (scalar : Text) : Kind :=
  let t := dropLastBreak scalar
  if scalar.isEmpty || (isNull t && !t.isEmpty) then .null
  else if isTruth t then .bool
  else if isFloatForm t then .float
  else if isIntegerForm t then .int
  else if t = "<<".toList then .merge
  else if isTimestampForm t then .timestamp
  else if t = ['='] then .standIn
  else if t = ['!'] || t = ['&'] || t = ['*'] then .unknown
  else .text

/-- What the tags of YAML itself begin with. -/
def standardTags : Text := "tag:yaml.org,2002:"

/-- The types by their names. -/
def kindNames : List (Text × Kind) :=
  [("null", .null), ("bool", .bool), ("int", .int), ("float", .float), ("binary", .binary),
    ("timestamp", .timestamp), ("str", .text), ("seq", .sequence), ("map", .mapping),
    ("set", .set), ("omap", .orderedMapping), ("pairs", .pairs), ("merge", .merge),
    ("value", .standIn)]

/-- The type that a tag names. -/
def tagKind (tag : Text) : Kind :=
  match Text.after? standardTags tag with
  | some name => (kindNames.lookup name).getD .unknown
  | none => .unknown

example : plainKind "010".toList = .int ∧ plainKind "08".toList = .text := by decide +kernel

example : plainKind "1e3".toList = .text ∧ plainKind "1.e+3".toList = .float := by decide +kernel

example : plainKind "2024-1-2".toList = .text ∧ plainKind "190:20:30".toList = .int := by
  decide +kernel

end Stencil.Yaml
