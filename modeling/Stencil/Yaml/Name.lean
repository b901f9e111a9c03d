import Stencil.Text.Utf8
import Stencil.Yaml.Token

/-!
# Names in a YAML document

Anchors and aliases have names of letters, digits, hyphens and low lines.  Tags consist of a handle
between exclamation marks and a part of an address, in which bytes may be written by number.
Directives stand on lines of their own.
-/

namespace Stencil.Yaml

/-- The value of a hexadecimal digit. -/
def hexDigit? (c : Char) : Option Nat :=
  if c.isDigit then some (c.toNat - '0'.toNat)
  else if 'a' ≤ c && c ≤ 'f' then some (c.toNat - 'a'.toNat + 10)
  else if 'A' ≤ c && c ≤ 'F' then some (c.toNat - 'A'.toNat + 10)
  else none

/-- Reads so many hexadecimal digits. -/
def scanHex (width : Nat) (c : Cursor) : Except Fault (Nat × Cursor) :=
  match (c.rest.take width).mapM hexDigit? with
  | some digits =>
    if digits.length = width then .ok (Number.ofDigits 16 digits, c.skip width) else malformed
  | none => malformed

/-- Reads a name. -/
def scanName (c : Cursor) : Except Fault (Text × Cursor) :=
  let (name, c) := c.takeWhile isNameChar
  if name.isEmpty then malformed else .ok (name, c)

/-- Reads the name of an anchor or an alias, after its mark. -/
def scanAnchorName (c : Cursor) : Except Fault (Text × Cursor) := do
  let (name, c) ← scanName c.next
  if isGap c.head || isOneOf "?:,]\x7d%@`" c.head then .ok (name, c) else malformed

/-! ## Tags -/

/-- Whether a character may stand in an address. -/
def isAddressChar (c : Char) : Bool := c.isAlphanum || isOneOf "-;/?:@&=+$,_.!~*'()[]" c

/-- Reads bytes that are written by number. -/
def scanBytes : (fuel : Nat) → Cursor → Except Fault (List UInt8 × Cursor)
  | 0, _ => malformed
  | fuel + 1, c =>
    if c.head = '%' then do
      let (n, c) ← scanHex 2 c.next
      let (bytes, c) ← scanBytes fuel c
      return (UInt8.ofNat n :: bytes, c)
    else .ok ([], c)

/-- Reads the characters of an address; there may be none. -/
def scanAddressFrom : (fuel : Nat) → Cursor → Except Fault (Text × Cursor)
  | 0, _ => malformed
  | fuel + 1, c =>
    if c.head = '%' then do
      let (bytes, c) ← scanBytes (c.rest.length + 1) c
      match Text.Utf8.decode bytes with
      | .error _ => malformed
      | .ok t =>
        let (rest, c) ← scanAddressFrom fuel c
        return (t ++ rest, c)
    else if isAddressChar c.head then do
      let (t, c) := c.takeWhile isAddressChar
      let (rest, c) ← scanAddressFrom fuel c
      return (t ++ rest, c)
    else .ok ([], c)

/-- Reads an address. -/
def scanAddress (c : Cursor) : Except Fault (Text × Cursor) :=
  if c.head = '%' || isAddressChar c.head then scanAddressFrom (c.rest.length + 1) c else malformed

/-- Reads a handle: one exclamation mark, or a name between two. -/
def scanHandle (c : Cursor) : Except Fault (Text × Cursor) :=
  if c.head ≠ '!' then malformed
  else if c.peek 1 = ' ' then .ok (['!'], c.next)
  else
    let (name, after) := c.next.takeWhile isNameChar
    if after.head = '!' then .ok ('!' :: name ++ ['!'], after.next) else malformed

/-- Whether another exclamation mark stands before the next gap. -/
def hasHandle (c : Cursor) : Bool :=
  (c.next.rest.takeWhile fun ch => !isEndOrSpace ch).contains '!'

/-- Reads a tag. -/
def scanTag (c : Cursor) : Except Fault (Token × Cursor) := do
  let ((handle, suffix), c) ←
    if c.peek 1 = '<' then do
      let (suffix, c) ← scanAddress (c.skip 2)
      if c.head = '>' then .ok (((none : Option Text), suffix), c.next) else malformed
    else if isGap (c.peek 1) then .ok ((none, ['!']), c.next)
    else if hasHandle c then do
      let (handle, c) ← scanHandle c
      let (suffix, c) ← scanAddress c
      .ok ((some handle, suffix), c)
    else do
      let (suffix, c) ← scanAddress c.next
      .ok ((some ['!'], suffix), c)
  if isEndOrSpace c.head then .ok (.tag handle suffix, c) else malformed

/-! ## Directives -/

/-- The cursor after spaces. -/
def skipSpaces (c : Cursor) : Cursor := c.skipWhile (· = ' ')

/-- The cursor after the rest of a line, without its end. -/
def skipLine (c : Cursor) : Cursor := c.skipWhile fun ch => !isEnd ch

/-- Leaves a line on which nothing follows but spaces and a comment. -/
def leaveLine (c : Cursor) : Except Fault Cursor :=
  let c := skipSpaces c
  let c := if c.head = '#' then skipLine c else c
  if isEnd c.head then .ok c.takeBreak.2 else malformed

/-- Reads a number of decimal digits, of which there must not be too many. -/
def scanNumber (c : Cursor) : Except Fault (Nat × Cursor) :=
  let (digits, c) := c.takeWhile Number.isAsciiDigit
  if digits.isEmpty then malformed
  else match Number.readNatural digits with
    | .ok n => .ok (n, c)
    | .error fault => .error (.raised (.ofInteger fault))

/-- Reads what a version directive says. -/
def scanVersion (c : Cursor) : Except Fault (Token × Cursor) := do
  let (major, c) ← scanNumber (skipSpaces c)
  if c.head ≠ '.' then malformed
  else
    let (_, c) ← scanNumber c.next
    if isEndOrSpace c.head then .ok (.version major, c) else malformed

/-- Reads what a tag directive says. -/
def scanTagHandle (c : Cursor) : Except Fault (Token × Cursor) := do
  let (handle, c) ← scanHandle (skipSpaces c)
  if c.head ≠ ' ' then malformed
  else
    let (target, c) ← scanAddress (skipSpaces c)
    if isEndOrSpace c.head then .ok (.tagHandle handle target, c) else malformed

/-- Reads a directive. -/
def scanDirective (c : Cursor) : Except Fault (Token × Cursor) := do
  let (name, c) ← scanName c.next
  if !isEndOrSpace c.head then malformed
  else
    let (token, c) ←
      if name = "YAML".toList then scanVersion c
      else if name = "TAG".toList then scanTagHandle c
      else .ok (.directive, skipLine c)
    return (token, ← leaveLine c)

end Stencil.Yaml
