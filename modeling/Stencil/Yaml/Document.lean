import Stencil.Yaml.NodeValue

/-!
# Reading YAML documents

A document is text, or bytes in UTF-8 or, with a byte-order mark, in UTF-16.  Only printable
characters may stand in it.
-/

namespace Stencil.Yaml

/-- Whether a character may stand in a document. -/
def isAllowed (c : Char) : Bool :=
  let n := c.toNat
  n = 0x9 || n = 0xA || n = 0xD || (0x20 ≤ n && n ≤ 0x7E) || n = 0x85 || (0xA0 ≤ n && n ≤ 0xD7FF)
    || (0xE000 ≤ n && n ≤ 0xFFFD) || 0x10000 ≤ n

/-- The data of a document that is given as text. -/
def read (document : Text) : Except Fault Data :=
  if document.all isAllowed then readText document else malformed

/-! ## Encodings -/

/-- The units of UTF-16, with the less significant byte first or last. -/
def units? (littleEndian : Bool) : List UInt8 → Option (List Nat)
  | [] => some []
  | [_] => none
  | a :: b :: rest => (units? littleEndian rest).map
    ((if littleEndian then b.toNat * 256 + a.toNat else a.toNat * 256 + b.toNat) :: ·)

/-- The text that units of UTF-16 encode. -/
def decodeUnits? : List Nat → Option Text
  | [] => some []
  | unit :: rest =>
    if unit < 0xD800 || 0xDFFF < unit then (decodeUnits? rest).map (Char.ofNat unit :: ·)
    else match rest with
      | [] => none
      | low :: rest =>
        if unit < 0xDC00 && 0xDC00 ≤ low && low ≤ 0xDFFF then
          (decodeUnits? rest).map
            (Char.ofNat (0x10000 + (unit - 0xD800) * 1024 + (low - 0xDC00)) :: ·)
        else none

/-- The text of the bytes of a document. -/
def decode? (bytes : List UInt8) : Option Text :=
  match bytes with
  | 0xFF :: 0xFE :: _ => (units? true bytes).bind decodeUnits?
  | 0xFE :: 0xFF :: _ => (units? false bytes).bind decodeUnits?
  | _ => (Text.Utf8.decode bytes).toOption

/-- The data of a document that is given as bytes. -/
def readEncoded (bytes : List UInt8) : Except Fault Data :=
  match decode? bytes with
  | some document => read document
  | none => malformed

end Stencil.Yaml
