import Stencil.Config.Basic
import Stencil.Text.Utf8
import Stencil.Value.Mapping

/-!
# Validation of configurations

A configuration is built from a mapping of field names to values.  Each field is read on its own:
paths from texts, texts also from UTF-8 bytes, numbers also from truth values, whole floating-point
numbers and numerals.  All fields at fault are reported together, in the order of the fields.
-/

namespace Stencil.Config

/-- What is wrong with a field. -/
inductive Reason where
  | notAText
  | notUtf8
  | notAPath
  | notAPair
  | tooLong
  | missing
  | emptyDelimiter
  | notAnInteger
  | noNumeral
  | tooManyDigits
  | fractional
  | notFinite
  | tooSmall
deriving DecidableEq, Repr

/-- The name under which a reason is reported. -/
def Reason.name : Reason → Text
  | .notAText => "string_type"
  | .notUtf8 => "string_unicode"
  | .notAPath => "path_type"
  | .notAPair => "tuple_type"
  | .tooLong => "too_long"
  | .missing => "missing"
  | .emptyDelimiter => "value_error"
  | .notAnInteger => "int_type"
  | .noNumeral => "int_parsing"
  | .tooManyDigits => "int_parsing_size"
  | .fractional => "int_from_float"
  | .notFinite => "finite_number"
  | .tooSmall => "greater_than_equal"

/-- A fault of a field, or of one of the two delimiters. -/
structure Fault where
  field : Text
  index : Option Nat
  reason : Reason
deriving DecidableEq, Repr

/-! ## Texts and paths -/

/-- Reads a text. -/
def readText : Value → Except Reason Text
  | .text t => .ok t
  | .bytes b => (Text.Utf8.decode b).mapError fun _ => .notUtf8
  | _ => .error .notAText

/-- Reads a path. -/
def readPath : Value → Except Reason File.Path
  | .text t => .ok (.ofText t)
  | _ => .error .notAPath

/-! ## Numbers -/

/-- Reads a bare numeral: an optional minus sign and digits, the first of which is zero only when it
is the only one.  A run of too many digits is refused whatever follows it; the sign is counted. -/
def readBare (t : Text) : Except Reason Int :=
  let (negative, rest) := match t with
    | '-' :: rest => (true, rest)
    | rest => (false, rest)
  let digits := rest.takeWhile Number.isAsciiDigit
  if Text.startsWith ['0'] digits && digits ≠ ['0'] then .error .noNumeral
  else if Number.digitLimit < digits.length + (if negative then 1 else 0) then
    .error .tooManyDigits
  else if digits.isEmpty || digits.length ≠ rest.length then .error .noNumeral
  else .ok (Number.signed negative (Number.digitsValue digits))

/-- The numeral without zeros and low lines in front of its first other digit.  One zero stays when
there is no other digit before the point.  Only a digit or a minus sign may come first. -/
def dropLeadingZeros? : Text → Option Text
  | '0' :: rest => go '0' rest
  | c :: rest => if c = '-' || Number.isAsciiDigit c then some (c :: rest) else none
  | [] => none
where
  /-- Drops zeros and low lines, the last of which was `last`. -/
  go (last : Char) : Text → Option Text
    | [] => some [last]
    | c :: rest =>
      if c = '0' || c = '_' then go c rest
      else if c = '-' || Number.isAsciiDigit c then some (c :: rest)
      else if c = '.' then some (last :: c :: rest)
      else none

/-- The numeral without a point that is followed by zeros and nothing else. -/
def dropZeroFraction (t : Text) : Text :=
  match Text.cut ['.'] t with
  | some (whole, fraction) =>
    if !fraction.isEmpty && fraction.all (· = '0') then whole else t
  | none => t

/-- The numeral without low lines, each of which must stand alone between other characters. -/
def dropLowLines (t : Text) : Text :=
  if Text.startsWith ['_'] t || Text.endsWith ['_'] t || (Text.cut "__" t).isSome then t
  else t.filter (· ≠ '_')

/-- Reads a numeral that may have zeros in front, low lines between its digits and a fraction of
zeros; `sign` is the minus sign before it, if there is one. -/
def readLoose (sign t : Text) : Except Reason Int :=
  match dropLeadingZeros? t with
  | none => .error .noNumeral
  | some t => readBare (sign ++ dropLowLines (dropZeroFraction t))

/-- Reads a numeral: a bare one, or a loose one between spaces with an optional sign. -/
def readNumeral (t : Text) : Except Reason Int :=
  match readBare t with
  | .error .noNumeral => match Text.trimBoth Text.isSpacing t with
    | '+' :: '-' :: _ => .error .noNumeral
    | '+' :: rest => readLoose [] rest
    | '-' :: rest => readLoose ['-'] rest
    | t => readLoose [] t
  | result => result

/-- Reads a whole number. -/
def readInteger : Value → Except Reason Int
  | .bool b => .ok (if b then 1 else 0)
  | .int n => .ok n
  | .text t => readNumeral t
  | .bytes b => match Text.Utf8.decode b with
    | .ok t => readNumeral t
    | .error _ => .error .noNumeral
  | .float x =>
    if !x.isFinite then .error .notFinite
    else match x.toInt? with
      | none => .error .fractional
      | some n => if n.natAbs < twoTo 63 then .ok n else .error .tooManyDigits
  | _ => .error .notAnInteger

/-- Reads a whole number that is at least `least`. -/
def readAtLeast (least : Nat) (v : Value) : Except Reason Nat :=
  match readInteger v with
  | .error reason => .error reason
  | .ok n => if n < least then .error .tooSmall else .ok n.toNat

/-- Reads a whole number that is at least one, or null. -/
def readSize : Value → Except Reason (Option Nat)
  | .null => .ok none
  | v => (readAtLeast 1 v).map some

/-! ## Fields -/

/-- The value of a field that has no parts: the standard one when it is not given. -/
def readField {α : Type} (entries : Entries) (field : Text) (standard : α)
    (read : Value → Except Reason α) : Except (List Fault) α :=
  match entries.find? field with
  | none => .ok standard
  | some v => (read v).mapError fun reason => [⟨field, none, reason⟩]

/-- The text at a place of a pair of which only some items are given. -/
def readPart (field : Text) (index : Nat) (items : List Value) : Except (List Fault) Text :=
  match items[index]? with
  | none => .error [⟨field, some index, .missing⟩]
  | some v => (readText v).mapError fun reason => [⟨field, some index, reason⟩]

/-- The faults of a reading. -/
def faults {α : Type} : Except (List Fault) α → List Fault
  | .ok _ => []
  | .error fs => fs

/-- Reads the delimiters from the items of a sequence. -/
def readPair (field : Text) (items : List Value) : Except (List Fault) Template.Delimiters :=
  if 2 < items.length then .error [⟨field, none, .tooLong⟩]
  else match readPart field 0 items, readPart field 1 items with
    | .ok opening, .ok closing =>
      if opening.isEmpty || closing.isEmpty then .error [⟨field, none, .emptyDelimiter⟩]
      else .ok ⟨opening, closing⟩
    | first, second => .error (faults first ++ faults second)

/-- Reads the delimiters. -/
def readDelimiters (entries : Entries) (field : Text) : Except (List Fault) Template.Delimiters :=
  match entries.find? field with
  | none => .ok standard.delimiters
  | some (.list items) => readPair field items
  | some (.tuple items) => readPair field items
  | some (.set members) => readPair field members
  | some _ => .error [⟨field, none, .notAPair⟩]

/-- Builds a configuration from the entries of a mapping.  Entries of other names are ignored. -/
def validate (entries : Entries) : Except (List Fault) Config :=
  let delimiters := readDelimiters entries "syntax"
  let basePath := readField entries "base_path" standard.basePath readPath
  let extension := readField entries "extension" standard.extension readText
  let maxDepth := readField entries "max_depth" standard.maxDepth (readAtLeast 0)
  let errorLog := readField entries "error_log" standard.errorLog readPath
  let crashLog := readField entries "crash_log" standard.crashLog readPath
  let cacheSize := readField entries "cache_size" standard.cacheSize readSize
  match delimiters, basePath, extension, maxDepth, errorLog, crashLog, cacheSize with
  | .ok delimiters, .ok basePath, .ok extension, .ok maxDepth, .ok errorLog, .ok crashLog,
      .ok cacheSize =>
    .ok ⟨delimiters, basePath, extension, maxDepth, errorLog, crashLog, cacheSize⟩
  | _, _, _, _, _, _, _ =>
    .error (faults delimiters ++ faults basePath ++ faults extension ++ faults maxDepth
      ++ faults errorLog ++ faults crashLog ++ faults cacheSize)

end Stencil.Config
