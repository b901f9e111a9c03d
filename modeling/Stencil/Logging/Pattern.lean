import Stencil.Number.Places
import Stencil.Value.Display
import Stencil.Value.Mapping

/-!
# Message patterns

The text of a log message is a pattern, in which directives that begin with a percent sign stand for
arguments: `%s` for a text, `%5.2f` for a number in five columns with two places, `%(name)s` for the
entry of a mapping.  `Pattern.fill` puts the arguments in.
-/

namespace Stencil.Logging

/-- A width or a precision: written out, or taken from the arguments. -/
inductive Amount where
  | written (n : Nat)
  | taken
deriving DecidableEq, Repr

/-- A directive of a pattern. -/
structure Directive where
  /-- The key of the entry that is meant, if the arguments are a mapping. -/
  key : Option Text
  flags : List Char
  width : Option Amount
  precision : Option Amount
  /-- How the argument is written; nothing when the pattern ends before that is said. -/
  conversion : Option Char
  /-- The place of the conversion in the pattern. -/
  place : Nat
deriving DecidableEq, Repr

/-- A piece of a pattern. -/
inductive Piece where
  | literal (c : Char)
  | directive (d : Directive)
  /-- A key without an end. -/
  | openKey
deriving DecidableEq, Repr

namespace Pattern

/-! ## Reading patterns -/

/-- The key up to the bracket that closes it, inside so many others, and what follows. -/
def readKey : (depth : Nat) → Text → Option (Text × Text)
  | _, [] => none
  | depth, ')' :: rest =>
    if depth = 0 then some ([], rest)
    else (readKey (depth - 1) rest).map fun (key, rest) => (')' :: key, rest)
  | depth, c :: rest =>
    (readKey (if c = '(' then depth + 1 else depth) rest).map fun (key, rest) => (c :: key, rest)

/-- A width or a precision at the beginning of a text, and what follows. -/
def readAmount (t : Text) : Option Amount × Text :=
  match t with
  | '*' :: rest => (some .taken, rest)
  | _ =>
    let digits := t.takeWhile Char.isDigit
    if digits.isEmpty then (none, t)
    else
      let n := Number.ofDigits 10 (digits.map fun c => c.toNat - '0'.toNat)
      (some (.written n), t.drop digits.length)

/-- A precision at the beginning of a text, and what follows.  A point alone asks for none. -/
def readPrecision (t : Text) : Option Amount × Text :=
  match t with
  | '.' :: rest =>
    let (amount, rest) := readAmount rest
    (some (amount.getD (.written 0)), rest)
  | _ => (none, t)

/-- The text without a mark of the size of a number, which says nothing here. -/
def skipSize : Text → Text
  | c :: rest => if c = 'h' || c = 'l' || c = 'L' then rest else c :: rest
  | [] => []

/-- The directive after a percent sign and a key, and what follows; `total` is the length of the
whole pattern. -/
def readDirective (total : Nat) (key : Option Text) (t : Text) : Piece × Text :=
  let isFlag (c : Char) : Bool := "-+ #0".contains c
  let (width, rest) := readAmount (t.dropWhile isFlag)
  let (precision, rest) := readPrecision rest
  let rest := skipSize rest
  (.directive ⟨key, t.takeWhile isFlag, width, precision, rest.head?, total - rest.length⟩,
    rest.drop 1)

/-- The pieces of the rest of a pattern of length `total`.  Every piece takes at least one
character, so that `fuel` as large as the rest is enough. -/
def readPieces (total : Nat) : (fuel : Nat) → Text → List Piece
  | 0, _ => []
  | _, [] => []
  | fuel + 1, '%' :: '%' :: rest => .literal '%' :: readPieces total fuel rest
  | fuel + 1, '%' :: '(' :: rest =>
    match readKey 0 rest with
    | none => [.openKey]
    | some (key, rest) =>
      let (piece, rest) := readDirective total (some key) rest
      piece :: readPieces total fuel rest
  | fuel + 1, '%' :: rest =>
    let (piece, rest) := readDirective total none rest
    piece :: readPieces total fuel rest
  | fuel + 1, c :: rest => .literal c :: readPieces total fuel rest

/-- The pieces of a pattern. -/
def read (t : Text) : List Piece := readPieces t.length t.length t

/-! ## Arguments -/

/-- The arguments that are left: the mapping, if there is one, and the values to be taken next. -/
structure Supply where
  mapping : Option Entries
  values : List Value

/-- The exception of an argument of the wrong type. -/
def wrongType (detail : Text) : Raised := ⟨"TypeError", detail⟩

/-- Takes an argument. -/
def take (s : Supply) : Except Raised (Value × Supply) :=
  match s.values with
  | [] => .error (wrongType "not enough arguments for format string")
  | v :: rest => .ok (v, { s with values := rest })

/-- Makes the entry of a key the next argument. -/
def choose (s : Supply) : Option Text → Except Raised Supply
  | none => .ok s
  | some key => match s.mapping with
    | none => .error (wrongType "format requires a mapping")
    | some entries => match entries.find? key with
      | none => .error ⟨"KeyError", key⟩
      | some v => .ok { s with values := [v] }

/-- The whole number that a value stands for. -/
def whole? : Value → Option Int
  | .int n => some n
  | .bool b => some (if b then 1 else 0)
  | _ => none

/-- What an amount says. -/
inductive Measure where
  | width
  | precision
deriving DecidableEq, Repr

/-- The bound that an amount cannot reach. -/
def Measure.bound : Measure → Nat
  | .width => twoTo 63
  | .precision => twoTo 31

/-- The exception of a written amount that reaches its bound. -/
def Measure.tooBig : Measure → Raised
  | .width => ⟨"ValueError", "width too big"⟩
  | .precision => ⟨"ValueError", "precision too big"⟩

/-- The exception of a number that is taken for an amount and is out of its range. -/
def Measure.outOfRange : Measure → Raised
  | .width => ⟨"OverflowError", "Python int too large to convert to C ssize_t"⟩
  | .precision => ⟨"OverflowError", "Python int too large to convert to C int"⟩

/-- The number of an amount, which may be an argument. -/
def amount (m : Measure) (s : Supply) : Option Amount → Except Raised (Option Int × Supply)
  | none => .ok (none, s)
  | some (.written n) => if m.bound ≤ n then .error m.tooBig else .ok (some n, s)
  | some .taken => do
    let (v, s) ← take s
    match whole? v with
    | none => .error (wrongType "* wants int")
    | some n =>
      if -(m.bound : Int) ≤ n && n < m.bound then .ok (some n, s) else .error m.outOfRange

/-- The most characters that a directive may add to what it writes. -/
def greatestFill : Nat := twoTo 24

/-- Refuses to add too many characters. -/
def checkFill (n : Nat) : Except Raised Unit :=
  if greatestFill < n then .error ⟨"MemoryError", ""⟩ else .ok ()

/-! ## Writing arguments -/

/-- A text in which characters beyond ASCII are escaped. -/
def escapeBeyondAscii (t : Text) : Text :=
  t.flatMap fun c =>
    if c.toNat < 0x80 then [c]
    else if c.toNat < 0x100 then "\\x" ++ Text.hexDigits 2 c.toNat
    else if c.toNat < 0x10000 then "\\u" ++ Text.hexDigits 4 c.toNat
    else "\\U" ++ Text.hexDigits 8 c.toNat

/-- What is written for an argument: the sign and the mark of the base in front, and the rest. -/
structure Written where
  sign : Text
  mark : Text
  body : Text

/-- The whole number that a value is cut down to. -/
def truncated (conversion : Char) (v : Value) : Except Raised Int :=
  let byBase := conversion = 'o' || conversion = 'x' || conversion = 'X'
  match v with
  | .int n => .ok n
  | .bool b => .ok (if b then 1 else 0)
  | .float x =>
    if byBase then .error (wrongType
      ('%' :: conversion :: " format: an integer is required, not float".toList))
    else match x with
      | .nan => .error ⟨"ValueError", "cannot convert float NaN to integer"⟩
      | .infinite _ => .error ⟨"OverflowError", "cannot convert float infinity to integer"⟩
      | .finite negative m q =>
        let (num, den) := Number.Binary64.ratio m q
        .ok (Number.signed negative (num / den))
  | v =>
    let wanted : Text := if byBase then "an integer" else "a real number"
    .error (wrongType
      ('%' :: conversion :: " format: ".toList ++ wanted ++ " is required, not " ++ v.typeName))

/-- The greatest precision for whole numbers. -/
def greatestLength : Nat := twoTo 31 - 4

/-- A whole number in the base of a conversion, with at least so many digits. -/
def writeWhole (conversion : Char) (marked : Bool) (least : Nat) (n : Int) :
    Except Raised Written := do
  if greatestLength < least then throw ⟨"OverflowError", "precision too large"⟩
  let digits ←
    if conversion = 'o' then pure (Nat.toDigits 8 n.natAbs)
    else if conversion = 'x' then pure (Nat.toDigits 16 n.natAbs)
    else if conversion = 'X' then pure ((Nat.toDigits 16 n.natAbs).map Char.toUpper)
    else (Number.write n.natAbs).mapError Raised.ofInteger
  checkFill least
  let byBase := conversion = 'o' || conversion = 'x' || conversion = 'X'
  return {
    sign := if n < 0 then ['-'] else []
    mark := if byBase && marked then ['0', conversion] else []
    body := Number.Layout.padZeros least digits }

/-- The number that a value stands for. -/
def number (v : Value) : Except Raised Number.Binary64 :=
  match v with
  | .float x => .ok x
  | v => match whole? v with
    | none => .error (wrongType ("must be real number, not " ++ v.typeName))
    | some n => match Number.Binary64.ofInt n with
      | .infinite _ => .error ⟨"OverflowError", "int too large to convert to float"⟩
      | x => .ok x

/-- The most digits that a number has before the zeros at its end. -/
def greatestDigits : Nat := 800

/-- A number in the form of a conversion. -/
def writeNumber (conversion : Char) (marked : Bool) (precision : Nat) (x : Number.Binary64) :
    Except Raised Written := do
  let form := conversion.toLower
  let digits := if form = 'g' && !marked then min greatestDigits precision else precision
  if x.isFinite then checkFill digits
  let magnitude :=
    if form = 'f' then Number.Places.fixed marked digits
    else if form = 'e' then Number.Places.scientific marked digits
    else Number.Places.general marked (max 1 digits)
  let t := Number.Places.render magnitude x
  let t := if conversion.isUpper then t.map Char.toUpper else t
  return if Text.startsWith ['-'] t then ⟨['-'], [], t.drop 1⟩ else ⟨[], [], t⟩

/-- The character that a value stands for. -/
def character (v : Value) : Except Raised Char :=
  match v with
  | .text [c] => .ok c
  | v => match whole? v with
    | none => .error (wrongType "%c requires int or char")
    | some n =>
      if 0 ≤ n && n < 0x110000 then .ok (Char.ofNat n.toNat)
      else .error ⟨"OverflowError", "%c arg not in range(0x110000)"⟩

/-- An argument in the form of a conversion. -/
def write (d : Directive) (precision : Option Nat) (conversion : Char) (v : Value) :
    Except Raised Written := do
  let marked := d.flags.contains '#'
  let cut (t : Text) : Written := ⟨[], [], match precision with
    | none => t
    | some n => t.take n⟩
  if conversion = 's' then return cut (← v.display #[])
  else if conversion = 'r' then return cut (← v.form #[])
  else if conversion = 'a' then return cut (escapeBeyondAscii (← v.form #[]))
  else if "diuoxX".contains conversion then
    writeWhole conversion marked (precision.getD 0) (← truncated conversion v)
  else if "eEfFgG".contains conversion then
    writeNumber conversion marked (precision.getD 6) (← number v)
  else if conversion = 'c' then return ⟨[], [], [← character v]⟩
  else
    let shown : Char := if 31 ≤ conversion.toNat && conversion.toNat ≤ 126 then conversion else '?'
    throw ⟨"ValueError", "unsupported format character '" ++ shown :: "' (0x".toList
      ++ Nat.toDigits 16 conversion.toNat ++ ") at index " ++ Nat.toDigits 10 d.place⟩

/-- Fills a width: on the left, between the sign and the digits, or on the right. -/
def fillWidth (d : Directive) (numeric : Bool) (left : Bool) (width : Nat) (w : Written) : Text :=
  let sign : Text :=
    if !numeric || !w.sign.isEmpty then w.sign
    else if d.flags.contains '+' then "+" else if d.flags.contains ' ' then " " else []
  let front := sign ++ w.mark
  let missing := width - (front.length + w.body.length)
  if left || d.flags.contains '-' then front ++ w.body ++ List.replicate missing ' '
  else if numeric && d.flags.contains '0' then front ++ List.replicate missing '0' ++ w.body
  else List.replicate missing ' ' ++ front ++ w.body

/-- What a directive is replaced by. -/
def fillDirective (d : Directive) (s : Supply) : Except Raised (Text × Supply) := do
  let s ← choose s d.key
  let (width, s) ← amount .width s d.width
  let (precision, s) ← amount .precision s d.precision
  match d.conversion with
  | none => throw ⟨"ValueError", "incomplete format"⟩
  | some conversion =>
    let (v, s) ← take s
    let written ← write d (precision.map Int.toNat) conversion v
    let numeric := "diuoxXeEfFgG".contains conversion
    let columns := width.getD 0
    -- The least width has no opposite, so it asks for nothing.
    let columns := if columns = -(Measure.width.bound : Int) then 0 else columns
    checkFill columns.natAbs
    return (fillWidth d numeric (columns < 0) columns.natAbs written, s)

/-- The exception of arguments that are left over. -/
def leftOver : Raised := wrongType "not all arguments converted during string formatting"

/-- What the pieces of a pattern become. -/
def fillPieces (s : Supply) : List Piece → Except Raised Text
  | [] => if s.mapping.isNone && !s.values.isEmpty then .error leftOver else .ok []
  | .literal c :: rest => (fillPieces s rest).map (c :: ·)
  | .openKey :: _ =>
    if s.mapping.isNone then .error (wrongType "format requires a mapping")
    else .error ⟨"ValueError", "incomplete format key"⟩
  | .directive d :: rest => do
    let (t, s) ← fillDirective d s
    if s.mapping.isSome && !s.values.isEmpty then throw leftOver
    return t ++ (← fillPieces s rest)

/-- Puts arguments into a pattern.  Without arguments the pattern is a plain text, and a mapping
that is the only argument is taken apart by keys. -/
def fill (pattern : Text) (arguments : List Value) : Except Raised Text :=
  match arguments with
  | [] => .ok pattern
  | [.mapping (e :: es)] => fillPieces ⟨some (e :: es), [.mapping (e :: es)]⟩ (read pattern)
  | _ => fillPieces ⟨none, arguments⟩ (read pattern)

end Pattern
end Stencil.Logging
