import Stencil.Yaml.Name

/-!
# Scalars of a YAML document

A scalar is written plainly, between quotes, or as a block of lines.  Line ends inside it are
folded: one becomes a space, and of several the first one disappears.
-/

namespace Stencil.Yaml

/-! ## Quoted scalars -/

/-- The character that a one-letter escape stands for. -/
def escape? (c : Char) : Option Char :=
  ("0abt\tnvfre \"\\/N_LP".toList.zip
    "\x00\x07\x08\t\t\n\x0b\x0c\r\x1b \"\\/\u0085\u00a0\u2028\u2029".toList).lookup c

/-- The number of digits of a numbered escape. -/
def escapeWidth? (c : Char) : Option Nat := [('x', 2), ('u', 4), ('U', 8)].lookup c

/-- The exception of a number that is no character. -/
def noCharacter (n : Nat) : Raised :=
  if n < twoTo 31 then ⟨"ValueError", "chr() arg not in range(0x110000)"⟩
  else ⟨"OverflowError", "Python int too large to convert to C int"⟩

/-- Takes the line ends and the blanks at the beginnings of lines.  A separator of documents cannot
stand inside quotes. -/
def scanQuotedBreaks : (fuel : Nat) → Cursor → Except Fault (Text × Cursor)
  | 0, _ => malformed
  | fuel + 1, c =>
    if c.isSeparator then malformed
    else
      let c := c.skipWhile fun ch => ch = ' ' || ch = '\t'
      if isBreak c.head then do
        let (first, c) := c.takeBreak
        let (rest, c) ← scanQuotedBreaks fuel c
        return (first ++ rest, c)
      else .ok ([], c)

/-- A line end with the further ones after it, folded. -/
def fold (first rest : Text) : Text :=
  if first ≠ ['\n'] then first ++ rest else if rest.isEmpty then [' '] else rest

/-- Takes blanks inside quotes, and folds the line ends among them. -/
def scanQuotedBlanks (c : Cursor) : Except Fault (Text × Cursor) :=
  let (blanks, c) := c.takeWhile fun ch => ch = ' ' || ch = '\t'
  if c.head = endMark then malformed
  else if isBreak c.head then do
    let (first, c) := c.takeBreak
    let (rest, c) ← scanQuotedBreaks (c.rest.length + 1) c
    return (fold first rest, c)
  else .ok (blanks, c)

/-- Reads an escape, after its mark.  An escaped line end disappears.  The number of half a
surrogate pair is that of no character; an escape with such a number gives the character zero. -/
def scanEscape (c : Cursor) : Except Fault (Text × Cursor) :=
  match escape? c.head, escapeWidth? c.head with
  | some ch, _ => .ok ([ch], c.next)
  | none, some width => do
    let (n, c) ← scanHex width c.next
    if n < 0x110000 then return ([Char.ofNat n], c) else .error (.raised (noCharacter n))
  | none, none =>
    if isBreak c.head then scanQuotedBreaks (c.rest.length + 1) c.takeBreak.2 else malformed

/-- Whether a character between quotes stands for itself, whatever the quotes are. -/
def isQuotedChar (c : Char) : Bool := !(isGap c || c = '\'' || c = '"' || c = '\\')

/-- Reads the rest of a scalar between quotes, with the closing one. -/
def scanQuoted (quote : Char) : (fuel : Nat) → Cursor → Except Fault (Text × Cursor)
  | 0, _ => malformed
  | fuel + 1, c =>
    let double := quote = '"'
    if isQuotedChar c.head then do
      let (t, c) := c.takeWhile isQuotedChar
      let (rest, c) ← scanQuoted quote fuel c
      return (t ++ rest, c)
    else if !double && c.head = '\'' && c.peek 1 = '\'' then do
      let (rest, c) ← scanQuoted quote fuel (c.skip 2)
      return ('\'' :: rest, c)
    else if c.head = quote then .ok ([], c.next)
    else if double && c.head = '\\' then do
      let (t, c) ← scanEscape c.next
      let (rest, c) ← scanQuoted quote fuel c
      return (t ++ rest, c)
    else if isGap c.head then do
      let (t, c) ← scanQuotedBlanks c
      let (rest, c) ← scanQuoted quote fuel c
      return (t ++ rest, c)
    else do
      let (rest, after) ← scanQuoted quote fuel c.next
      return (c.head :: rest, after)

/-- Reads a scalar between quotes. -/
def scanQuotedScalar (c : Cursor) : Except Fault (Token × Cursor) := do
  let (t, after) ← scanQuoted c.head (c.rest.length + 1) c.next
  return (.scalar t false, after)

/-! ## Plain scalars -/

/-- Whether the cursor stands at the end of a part of a plain scalar.  Inside brackets a plain
scalar also ends before the marks of the collection. -/
def endsPlain (inFlow : Bool) (c : Char) (following : Char) : Bool :=
  isGap c || (c = ':' && (isGap following || (inFlow && isOneOf ",[]\x7b\x7d" following)))
    || (inFlow && isOneOf ",?[]\x7b\x7d" c)

/-- The length of the part of a plain scalar at the beginning of a text. -/
def plainLength (inFlow : Bool) : Text → Nat
  | [] => 0
  | c :: rest => if endsPlain inFlow c (rest.headD endMark) then 0 else plainLength inFlow rest + 1

/-- Takes the line ends and spaces after the first line end in a plain scalar; nothing when a
separator of documents follows one of them. -/
def scanPlainBreaks : (fuel : Nat) → Cursor → Option Text × Cursor
  | 0, c => (none, c)
  | fuel + 1, c =>
    if c.head = ' ' then scanPlainBreaks fuel c.next
    else if isBreak c.head then
      let (first, c) := c.takeBreak
      if c.isSeparator then (none, c)
      else
        let (rest, c) := scanPlainBreaks fuel c
        (rest.map (first ++ ·), c)
    else (some [], c)

/-- Takes the blanks after a part of a plain scalar, folded; nothing when a separator of documents
follows.  Also tells whether there was a line end. -/
def scanPlainBlanks (c : Cursor) : Option Text × Bool × Cursor :=
  let (blanks, c) := c.takeWhile (· = ' ')
  if isBreak c.head then
    let (first, c) := c.takeBreak
    if c.isSeparator then (none, true, c)
    else
      let (rest, c) := scanPlainBreaks (c.rest.length + 1) c
      (rest.map (fold first), true, c)
  else (some blanks, false, c)

/-- Reads a plain scalar whose further lines are indented by `indent` at least, where `blanks`
stands before the next part.  Also tells whether a line end was taken after the last part. -/
def scanPlain (inFlow : Bool) (indent : Int) : (fuel : Nat) → (blanks : Text) → (broken : Bool) →
    Cursor → Text × Bool × Cursor
  | 0, _, broken, c => ([], broken, c)
  | fuel + 1, blanks, broken, c =>
    let length := plainLength inFlow c.rest
    if c.head = '#' || length = 0 then ([], broken, c)
    else
      let part := c.rest.take length
      let (following, broken, c) := scanPlainBlanks (c.skip length)
      let following := following.getD []
      if following.isEmpty || c.head = '#' || (!inFlow && c.column < indent) then
        (blanks ++ part, broken, c)
      else
        let (rest, broken, c) := scanPlain inFlow indent fuel following broken c
        (blanks ++ part ++ rest, broken, c)

/-! ## Block scalars -/

/-- What becomes of the line ends at the end of a block. -/
inductive Chomping where
  | strip
  | clip
  | keep
deriving DecidableEq, Repr

/-- Reads a mark for the line ends at the end of a block. -/
def scanChomping (c : Cursor) : Option Chomping × Cursor :=
  if c.head = '+' then (some .keep, c.next)
  else if c.head = '-' then (some .strip, c.next)
  else (none, c)

/-- Reads a mark for the indentation of a block. -/
def scanIncrement (c : Cursor) : Except Fault (Option Nat × Cursor) :=
  if c.head = '0' then malformed
  else if Number.isAsciiDigit c.head then .ok (some (c.head.toNat - '0'.toNat), c.next)
  else .ok (none, c)

/-- Reads the marks of a block, in either order. -/
def scanBlockMarks (c : Cursor) : Except Fault ((Chomping × Option Nat) × Cursor) := do
  let (before, c) := scanChomping c
  let (increment, c) ← scanIncrement c
  let (after, c) := if before.isNone && increment.isSome then scanChomping c else (none, c)
  if isEndOrSpace c.head then .ok (((before.or after).getD .clip, increment), c) else malformed

/-- Takes the empty lines before a block, and finds the greatest column among them. -/
def scanBlockIndent : (fuel : Nat) → (greatest : Nat) → Cursor → Text × Nat × Cursor
  | 0, greatest, c => ([], greatest, c)
  | fuel + 1, greatest, c =>
    if c.head = ' ' then scanBlockIndent fuel (max greatest c.next.column) c.next
    else if isBreak c.head then
      let (first, c) := c.takeBreak
      let (rest, greatest, c) := scanBlockIndent fuel greatest c
      (first ++ rest, greatest, c)
    else ([], greatest, c)

/-- Goes forward over spaces, but not beyond a column. -/
def skipIndent (indent : Nat) (c : Cursor) : Cursor :=
  c.skip (min ((c.rest.takeWhile (· = ' ')).length) (indent - c.column))

/-- Takes empty lines inside a block. -/
def scanBlockBreaks (indent : Nat) : (fuel : Nat) → Cursor → Text × Cursor
  | 0, c => ([], c)
  | fuel + 1, c =>
    let c := skipIndent indent c
    if isBreak c.head then
      let (first, c) := c.takeBreak
      let (rest, c) := scanBlockBreaks indent fuel c
      (first ++ rest, c)
    else ([], c)

/-- What stands between two lines of a block for the line end and the empty lines between them. -/
def blockJoin (folded textual : Bool) (lineEnd breaks : Text) : Text :=
  if folded && textual && lineEnd = ['\n'] then if breaks.isEmpty then [' '] else breaks
  else lineEnd ++ breaks

/-- Reads the lines of a block at a column.  Also gives the last line end and the empty lines after
it. -/
def scanBlockLines (folded : Bool) (indent : Nat) : (fuel : Nat) → Cursor →
    Text × Text × Text × Cursor
  | 0, c => ([], [], [], c)
  | fuel + 1, c =>
    let textual := !(c.head = ' ' || c.head = '\t')
    let (line, c) := c.takeWhile fun ch => !isEnd ch
    let (lineEnd, c) := c.takeBreak
    let (breaks, c) := scanBlockBreaks indent (c.rest.length + 1) c
    if c.column = indent && c.head ≠ endMark then
      let textual := textual && !(c.head = ' ' || c.head = '\t')
      let (rest, lastEnd, lastBreaks, c) := scanBlockLines folded indent fuel c
      (line ++ blockJoin folded textual lineEnd breaks ++ rest, lastEnd, lastBreaks, c)
    else (line, lineEnd, breaks, c)

/-- Reads a block scalar inside a block of the given indentation. -/
def scanBlockScalar (outer : Int) (c : Cursor) : Except Fault (Token × Cursor) := do
  let folded := c.head = '>'
  let ((chomping, increment), c) ← scanBlockMarks c.next
  let c ← leaveLine c
  let least := max 1 (outer + 1).toNat
  let (leading, indent, c) := match increment with
    | none =>
      let (breaks, greatest, c) := scanBlockIndent (c.rest.length + 1) 0 c
      (breaks, max least greatest, c)
    | some n =>
      let indent := least + n - 1
      let (breaks, c) := scanBlockBreaks indent (c.rest.length + 1) c
      (breaks, indent, c)
  let (text, lineEnd, breaks, c) :=
    if c.column = indent && c.head ≠ endMark then
      let (text, lineEnd, breaks, c) := scanBlockLines folded indent (c.rest.length + 1) c
      (leading ++ text, lineEnd, breaks, c)
    else ([], [], leading, c)
  let tail := match chomping with
    | .strip => []
    | .clip => lineEnd
    | .keep => lineEnd ++ breaks
  return (.scalar (text ++ tail) false, c)

end Stencil.Yaml
