import Stencil.Power
import Stencil.Text.Quoted

/-!
# UTF-8

Encoding writes each character in one to four bytes; decoding accepts exactly the well-formed
sequences and otherwise names the bytes at fault.  A sequence is at fault from its first byte up to
the first byte that cannot continue it; when the text ends inside a sequence, the rest of the text
is at fault.
-/

namespace Stencil.Text.Utf8

/-- Why a byte sequence is no text. -/
inductive Cause where
  | invalidStart
  | invalidContinuation
  | unexpectedEnd
deriving DecidableEq, Repr

/-- The wording of a cause. -/
def Cause.wording : Cause → Text
  | .invalidStart => "invalid start byte"
  | .invalidContinuation => "invalid continuation byte"
  | .unexpectedEnd => "unexpected end of data"

/-- A place where decoding stops: the first byte at fault, its position, and how many bytes are at
fault. -/
structure Fault where
  first : UInt8
  position : Nat
  length : Nat
  cause : Cause
deriving DecidableEq, Repr

/-- The message of a decoding fault names one byte by its value and several by their positions. -/
def Fault.message (f : Fault) : Text :=
  let place : Text :=
    if f.length = 1 then
      "byte 0x" ++ hexDigits 2 f.first.toNat ++ " in position " ++ Nat.toDigits 10 f.position
    else
      "bytes in position " ++ Nat.toDigits 10 f.position ++ "-"
        ++ Nat.toDigits 10 (f.position + f.length - 1)
  "'utf-8' codec can't decode " ++ place ++ ": " ++ f.cause.wording

/-! ## Encoding -/

/-- The byte that holds the six bits of `n` above the lowest `shift` ones. -/
def continuation (n shift : Nat) : UInt8 := UInt8.ofNat (0x80 + n / twoTo shift % 64)

/-- The bytes of one character. -/
def encodeChar (c : Char) : List UInt8 :=
  let n := c.toNat
  if n < 0x80 then [UInt8.ofNat n]
  else if n < 0x800 then [UInt8.ofNat (0xC0 + n / 64), continuation n 0]
  else if n < 0x10000 then [UInt8.ofNat (0xE0 + n / 4096), continuation n 6, continuation n 0]
  else [UInt8.ofNat (0xF0 + n / 262144), continuation n 12, continuation n 6, continuation n 0]

/-- The bytes of a text. -/
def encode (t : Text) : List UInt8 := t.flatMap encodeChar

/-! ## Decoding -/

/-- Whether a byte continues a sequence. -/
def isContinuation (b : UInt8) : Bool := 0x80 ≤ b.toNat && b.toNat < 0xC0

/-- Whether `second` may follow `first` in a sequence of three or four bytes: over-long forms,
surrogates and numbers beyond the last character are excluded here. -/
def isSecond (first second : UInt8) : Bool :=
  isContinuation second &&
    (if first = 0xE0 then 0xA0 ≤ second.toNat
     else if first = 0xED then second.toNat < 0xA0
     else if first = 0xF0 then 0x90 ≤ second.toNat
     else if first = 0xF4 then second.toNat < 0x90
     else true)

/-- The six bits that a continuation byte carries. -/
def payload (b : UInt8) : Nat := b.toNat % 64

/-- Decodes the bytes from `position` on. -/
def decodeFrom (position : Nat) : List UInt8 → Except Fault Text
  | [] => .ok []
  | a :: rest =>
    let fault (length : Nat) (cause : Cause) : Except Fault Text :=
      .error ⟨a, position, length, cause⟩
    let value := a.toNat
    if value < 0x80 then (decodeFrom (position + 1) rest).map (Char.ofNat value :: ·)
    else if value < 0xC2 || 0xF5 ≤ value then fault 1 .invalidStart
    else match rest with
      | [] => fault 1 .unexpectedEnd
      | b :: rest =>
        if !isSecond a b then fault 1 .invalidContinuation
        else if value < 0xE0 then
          (decodeFrom (position + 2) rest).map
            (Char.ofNat (value % 32 * 64 + payload b) :: ·)
        else match rest with
          | [] => fault 2 .unexpectedEnd
          | c :: rest =>
            if !isContinuation c then fault 2 .invalidContinuation
            else if value < 0xF0 then
              (decodeFrom (position + 3) rest).map
                (Char.ofNat (value % 16 * 4096 + payload b * 64 + payload c) :: ·)
            else match rest with
              | [] => fault 3 .unexpectedEnd
              | d :: rest =>
                if !isContinuation d then fault 3 .invalidContinuation
                else (decodeFrom (position + 4) rest).map
                  (Char.ofNat (value % 8 * 262144 + payload b * 4096 + payload c * 64
                    + payload d) :: ·)

/-- The text that the bytes encode, or the first fault in them. -/
def decode (bytes : List UInt8) : Except Fault Text := decodeFrom 0 bytes

example : (decode (encode "aé你🚀".toList)).toOption = some "aé你🚀".toList := by decide +kernel

example : (decode [0x61, 0xE0, 0x80, 0x8A]).toOption = none := by decide +kernel

end Stencil.Text.Utf8
