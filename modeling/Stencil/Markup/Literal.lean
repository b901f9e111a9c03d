import Stencil.Number.Integer
import Stencil.Number.Numeral
import Stencil.Text.Blank
import Stencil.Text.Word

/-!
# Literals

A tag that begins with an at sign can have parameters: a literal, or the name of what is called with
literals.  A literal is a number, a text, a word for a constant, or brackets with literals in them.
What counts here is only whether parameters can be read.  They have no lists, because no square
bracket can stand in a tag.  Comments and continued lines are left out, and every name of a
character counts as one.
-/

namespace Stencil.Markup.Literal

/-- What a literal can be a part of. -/
inductive Kind where
  /-- A number without a sign. -/
  | real
  /-- A multiple of the imaginary unit without a sign. -/
  | imaginary
  /-- A number with a sign. -/
  | signed
  /-- Another literal that can be a key. -/
  | key
  /-- A literal that cannot be a key. -/
  | growing
deriving DecidableEq, Repr

/-- The kind of a literal at the beginning of a text, and what follows it. -/
abbrev Reader := Text → Option (Kind × Text)

/-- A text without the blanks at its beginning.  Between brackets lines may end. -/
def skip (nested : Bool) (t : Text) : Text :=
  t.dropWhile fun c => c = ' ' || c = '\t' || c = '\x0c' || (nested && (c = '\n' || c = '\r'))

/-! ## Numbers -/

/-- What follows digits, of which there may be none; single low lines may stand between them. -/
def skipDigits (isDigit : Char → Bool) : Text → Text
  | '_' :: c :: rest => if isDigit c then skipDigits isDigit rest else '_' :: c :: rest
  | c :: rest => if isDigit c then skipDigits isDigit rest else c :: rest
  | [] => []

/-- What follows digits, of which there must be one. -/
def afterDigits? (isDigit : Char → Bool) : Text → Option Text
  | c :: rest => if isDigit c then some (skipDigits isDigit rest) else none
  | [] => none

/-- Whether a character is a hexadecimal digit. -/
def isHex (c : Char) : Bool := c.isDigit || ('a' ≤ c.toLower && c.toLower ≤ 'f')

/-- What follows an integer whose base is told. -/
def afterBased? : Text → Option Text
  | '0' :: base :: rest =>
    let rest := (Text.after? "_" rest).getD rest
    match base.toLower with
    | 'x' => afterDigits? isHex rest
    | 'o' => afterDigits? (fun c => '0' ≤ c && c ≤ '7') rest
    | 'b' => afterDigits? (fun c => c = '0' || c = '1') rest
    | _ => none
  | _ => none

/-- What follows the fraction of a number that may have a whole part. -/
def afterFraction? (whole : Bool) : Text → Option Text
  | '.' :: rest => match afterDigits? Number.isAsciiDigit rest with
    | some rest => some rest
    | none => if whole then some rest else none
  | _ => none

/-- What follows an exponent. -/
def afterExponent? : Text → Option Text
  | mark :: rest =>
    if mark.toLower = 'e' then
      afterDigits? Number.isAsciiDigit <| match rest with
        | '+' :: rest => rest
        | '-' :: rest => rest
        | rest => rest
    else none
  | [] => none

/-- Whether digits are an integer: it does not begin with a zero unless it is zero, and it is not
too long. -/
def isInteger (written : Text) : Bool :=
  let digits := written.filter (· ≠ '_')
  (digits.head? ≠ some '0' || digits.all (· = '0')) && digits.length ≤ Number.digitLimit

/-- A decimal number. -/
def readDecimal? : Reader := fun t => do
  let whole := afterDigits? Number.isAsciiDigit t
  let fraction := afterFraction? whole.isSome (whole.getD t)
  let mantissa ← fraction <|> whole
  let exponent := afterExponent? mantissa
  match exponent.getD mantissa with
  | 'j' :: rest => return (.imaginary, rest)
  | 'J' :: rest => return (.imaginary, rest)
  | rest =>
    guard (fraction.isSome || exponent.isSome || isInteger (t.take (t.length - rest.length)))
    return (.real, rest)

/-- A number without a sign. -/
def readNumber? : Reader := fun t => match afterBased? t with
  | some rest => some (.real, rest)
  | none => readDecimal? t

/-! ## Texts -/

/-- How a text is written. -/
structure Quotation where
  /-- Whether backslashes stand for themselves. -/
  raw : Bool
  /-- Whether it stands for bytes. -/
  bytes : Bool
deriving DecidableEq

/-- The quotation that begins with letters. -/
def Quotation.ofPrefix? (letters : Text) : Option Quotation :=
  [("", ⟨false, false⟩), ("r", ⟨true, false⟩), ("u", ⟨false, false⟩), ("b", ⟨false, true⟩),
    ("br", ⟨true, true⟩), ("rb", ⟨true, true⟩)].lookup (String.ofList (letters.map Char.toLower))

/-- Whether an escape can stand before a text: its digits must be there, and be those of a
character. -/
def escapes (bytes : Bool) (mark : Char) (rest : Text) : Bool :=
  let digits (n : Nat) : Bool := (rest.take n).length = n && (rest.take n).all isHex
  if mark = 'x' then digits 2
  else if bytes then true
  else if mark = 'u' then digits 4
  else if mark = 'U' then
    digits 8 && (Text.startsWith "0010" rest || Text.startsWith "000" rest)
  else if mark = 'N' then
    Text.startsWith "\x7b" rest && 2 ≤ (rest.takeWhile (· ≠ '\x7d')).length && rest.contains '\x7d'
  else true

/-- What follows a text, behind its opening quotes. -/
def afterQuoted? (q : Quotation) (quote : Char) (triple : Bool) : Text → Option Text
  | [] => none
  | '\\' :: c :: rest =>
    if (q.bytes && 0x80 ≤ c.toNat) || !(q.raw || escapes q.bytes c rest) then none
    else afterQuoted? q quote triple rest
  | c :: rest =>
    if c = quote && (!triple || Text.startsWith [quote, quote] rest) then
      some (if triple then rest.drop 2 else rest)
    else if (c = '\n' && !triple) || (q.bytes && 0x80 ≤ c.toNat) then none
    else afterQuoted? q quote triple rest

/-- Whether a text stands for bytes, and what follows it. -/
def readQuoted? (t : Text) : Option (Bool × Text) := do
  let letters := t.takeWhile Char.isAlpha
  let q ← Quotation.ofPrefix? letters
  match t.drop letters.length with
  | quote :: rest =>
    guard (quote = '"' || quote = '\'')
    let inside := Text.after? [quote, quote] rest
    return (q.bytes, ← afterQuoted? q quote inside.isSome (inside.getD rest))
  | [] => none

/-- What follows further texts, which must be like the first one.  Every step takes at least one
character, so that `fuel` as large as the text is enough. -/
def afterTexts? (nested bytes : Bool) : (fuel : Nat) → Text → Option Text
  | 0, t => some t
  | fuel + 1, t => match readQuoted? (skip nested t) with
    | none => some t
    | some (bytes', rest) => if bytes' = bytes then afterTexts? nested bytes fuel rest else none

/-- Texts, which are put together. -/
def readTexts? (nested : Bool) : Reader := fun t => do
  let (bytes, rest) ← readQuoted? t
  return (.key, ← afterTexts? nested bytes rest.length rest)

/-! ## Brackets -/

/-- Whether a literal can be a key. -/
def Kind.isKey (kind : Kind) : Bool := kind ≠ .growing

/-- Items up to a closing bracket, with commas between them: their kinds, whether there was a comma,
and what follows. -/
def readItems? {α : Type} (read : Text → Option (α × Text)) (nested : Bool) (closing : Char) :
    (fuel : Nat) → Text → Option (List α × Bool × Text)
  | 0, _ => none
  | fuel + 1, t =>
    let t := skip nested t
    if t.head? = some closing then some ([], false, t.drop 1)
    else do
      let (item, rest) ← read t
      let rest := skip nested rest
      if rest.head? = some ',' then
        let (items, _, rest) ← readItems? read nested closing fuel (rest.drop 1)
        return (item :: items, true, rest)
      else
        guard (rest.head? = some closing)
        return ([item], false, rest.drop 1)

/-- A member of a set, or a key of a mapping with its value. -/
def readMember? (read : Reader) (t : Text) : Option ((Kind × Bool) × Text) := do
  let (kind, rest) ← read t
  match Text.after? ":" (skip true rest) with
  | none => return ((kind, false), rest)
  | some rest =>
    let (_, rest) ← read (skip true rest)
    return ((kind, true), rest)

/-- Brackets, where `read` reads what stands in them.  Round brackets around one literal change
nothing. -/
def readBrackets? (read : Reader) : Reader
  | '(' :: rest => do
    let (kinds, comma, after) ← readItems? read true ')' (rest.length + 1) rest
    match kinds, comma with
    | [kind], false => return (kind, after)
    | kinds, _ => return (if kinds.all Kind.isKey then .key else .growing, after)
  | '\x7b' :: rest => do
    let (members, _, after) ← readItems? (readMember? read) true '\x7d' (rest.length + 1) rest
    guard (members.all fun (kind, paired) =>
      kind.isKey && members.head?.map Prod.snd = some paired)
    return (.growing, after)
  | _ => none

/-! ## Literals -/

/-- A word for a constant. -/
def readWord? (nested : Bool) : Reader := fun t =>
  let word := t.takeWhile Text.isWord
  let rest := t.drop word.length
  if ["True", "False", "None"].contains (String.ofList word) then some (.key, rest)
  else if word = "set".toList then do
    let inside ← Text.after? "(" (skip nested rest)
    return (.growing, ← Text.after? ")" (skip true inside))
  else (Text.after? "..." t).map fun rest => (.key, rest)

/-- A literal without a sign, where `inside?` reads what stands in brackets. -/
def readAtom? (nested : Bool) (inside? : Option Reader) : Reader := fun t =>
  readTexts? nested t <|> readNumber? t <|> readWord? nested t
    <|> inside?.bind fun inside => readBrackets? inside t

/-- A literal that may have a sign. -/
def readSigned? (nested : Bool) (atom : Reader) : Reader := fun t =>
  if t.head? = some '+' || t.head? = some '-' then do
    match ← atom (skip nested (t.drop 1)) with
    | (.real, rest) => return (.signed, rest)
    | (.imaginary, rest) => return (.key, rest)
    | _ => none
  else atom t

/-- A literal, which may be the sum of a number and a multiple of the imaginary unit. -/
def readSum? (nested : Bool) (atom : Reader) : Reader := fun t => do
  let (kind, rest) ← readSigned? nested atom t
  let behind := skip nested rest
  if behind.head? = some '+' || behind.head? = some '-' then
    guard (kind = .real || kind = .signed)
    match ← atom (skip nested (behind.drop 1)) with
    | (.imaginary, rest) => return (.key, rest)
    | _ => none
  else return (kind, rest)

/-- A literal in which so many more brackets may stand inside one another. -/
def read? : (depth : Nat) → (nested : Bool) → Reader
  | 0, nested => readSum? nested (readAtom? nested none)
  | depth + 1, nested => readSum? nested (readAtom? nested (some (read? depth true)))

/-- How many brackets may stand inside one another. -/
def depthLimit : Nat := 200

/-- Whether a text is a literal, or several with commas between them. -/
def isLiteral (t : Text) : Bool :=
  match readItems? (read? depthLimit false) false ')' (t.length + 1) (t ++ ")") with
  | some (kinds, _, []) => !kinds.isEmpty && !t.contains '\x00'
  | _ => false

/-- Whether parameters can be read: the name of what is called, alone or before brackets on one
line, or a literal. -/
def isReadable (parameters : Text) : Bool :=
  let t := Text.trim parameters
  let behind := t.dropWhile fun c => Text.isWord c || c = '.'
  if Text.startsWith "(" behind && Text.endsWith ")" behind && !behind.contains '\n' then
    isLiteral behind
  else behind.isEmpty || isLiteral t

example : isReadable "app.open('a', -1 + 2j)" = true := by decide +kernel

example : isReadable "(" = false := by decide +kernel

end Stencil.Markup.Literal
