import Stencil.Text.Basic

/-!
# The cursor of a YAML document

A cursor stands before the rest of a document and knows its line and column, which decide what
belongs together in YAML.  At the end of the document it stands before a zero character, which no
document holds.
-/

namespace Stencil.Yaml

/-- A place in a document, with the rest of the document. -/
structure Cursor where
  rest : Text
  /-- The number of characters before the cursor. -/
  index : Nat
  line : Nat
  column : Nat
deriving Repr, Inhabited

/-- Stands for the character after the last one. -/
def endMark : Char := '\x00'

/-- The byte-order mark. -/
def byteOrderMark : Char := '\ufeff'

/-- Whether a character ends a line. -/
def isBreak (c : Char) : Bool :=
  c = '\r' || c = '\n' || c = '\u0085' || c = '\u2028' || c = '\u2029'

/-- Whether a character ends a line or the document. -/
def isEnd (c : Char) : Bool := c = endMark || isBreak c

/-- Whether a character is a space or ends a line or the document. -/
def isEndOrSpace (c : Char) : Bool := c = ' ' || isEnd c

/-- Whether a character is a space or a tab or ends a line or the document. -/
def isGap (c : Char) : Bool := c = '\t' || isEndOrSpace c

/-- Whether a character is one of a text. -/
def isOneOf (choices : String) (c : Char) : Bool := choices.toList.contains c

/-- Whether a character may stand in the name of an anchor or a directive. -/
def isNameChar (c : Char) : Bool := c.isAlphanum || c = '-' || c = '_'

namespace Cursor

/-- The cursor at the beginning of a document. -/
def start (document : Text) : Cursor := ⟨document, 0, 0, 0⟩

/-- The character `n` places further. -/
def peek (c : Cursor) (n : Nat) : Char := (c.rest.drop n).headD endMark

/-- The character that the cursor stands before. -/
def head (c : Cursor) : Char := c.rest.headD endMark

/-- The cursor one character further.  A carriage return before a line feed does not yet end the
line. -/
def next (c : Cursor) : Cursor :=
  match c.rest with
  | [] => c
  | ch :: rest =>
    if isBreak ch && !(ch = '\r' && rest.headD endMark = '\n') then
      ⟨rest, c.index + 1, c.line + 1, 0⟩
    else if ch = byteOrderMark then ⟨rest, c.index + 1, c.line, c.column⟩
    else ⟨rest, c.index + 1, c.line, c.column + 1⟩

/-- The cursor so many characters further. -/
def skip : Nat → Cursor → Cursor
  | 0, c => c
  | n + 1, c => skip n c.next

/-- The characters that satisfy a condition, and the cursor after them. -/
def takeWhile (p : Char → Bool) (c : Cursor) : Text × Cursor :=
  let taken := c.rest.takeWhile p
  (taken, c.skip taken.length)

/-- The cursor after the characters that satisfy a condition. -/
def skipWhile (p : Char → Bool) (c : Cursor) : Cursor := (c.takeWhile p).2

/-- Takes a line end, which counts as a line feed unless it is a separator of its own; nothing
elsewhere. -/
def takeBreak (c : Cursor) : Text × Cursor :=
  match c.rest with
  | '\r' :: '\n' :: _ => (['\n'], c.skip 2)
  | ch :: _ =>
    if ch = '\r' || ch = '\n' || ch = '\u0085' then (['\n'], c.next)
    else if ch = '\u2028' || ch = '\u2029' then ([ch], c.next)
    else ([], c)
  | [] => ([], c)

/-- Whether the cursor stands before three characters and a gap after them. -/
def isMark (mark : String) (c : Cursor) : Bool :=
  match Text.after? mark c.rest with
  | some rest => isGap (rest.headD endMark)
  | none => false

/-- Whether the cursor stands before a separator of documents. -/
def isSeparator (c : Cursor) : Bool := c.isMark "---" || c.isMark "..."

end Cursor
end Stencil.Yaml
