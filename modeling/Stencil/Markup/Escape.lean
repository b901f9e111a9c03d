import Stencil.Text.Basic

/-!
# Escaping markup

In markup a tag in square brackets changes the style of the text that follows it.  Text that only
looks like a tag is escaped by a backslash.
-/

namespace Stencil.Markup

/-- Whether a character can be the first one of a tag. -/
def beginsTag (c : Char) : Bool := ('a' ≤ c && c ≤ 'z') || c = '#' || c = '/' || c = '@'

/-- The inside of a tag at the beginning of a text, and what follows the tag. -/
def readTag? : Text → Option (Text × Text)
  | '[' :: c :: rest =>
    let inner := rest.takeWhile fun c => c ≠ ']' && c ≠ '['
    match rest.drop inner.length with
    | ']' :: after => if beginsTag c then some (c :: inner, after) else none
    | _ => none
  | _ => none

/-- A tag with the given inside. -/
def tag (inner : Text) : Text := '[' :: inner ++ [']']

/-- Escapes tags in the rest of a text.  Every step takes at least one character, so that `fuel` as
large as the text is enough. -/
def escapeTags : (fuel : Nat) → Text → Text
  | 0, t => t
  | fuel + 1, t =>
    let slashes := t.takeWhile (· = '\\')
    let rest := t.drop slashes.length
    match readTag? rest with
    | some (inner, after) => slashes ++ slashes ++ '\\' :: tag inner ++ escapeTags fuel after
    | none => match rest with
      | [] => slashes
      | c :: rest => slashes ++ c :: escapeTags fuel rest

/-- The markup that shows a text as it is.  A single backslash at its end is doubled, so that it
does not escape what is put behind it. -/
def escape (t : Text) : Text :=
  let t := escapeTags t.length t
  if Text.endsWith ['\\'] t && !Text.endsWith ['\\', '\\'] t then t ++ ['\\'] else t

/-- Markup that shows a text in a style. -/
def styled (style body : Text) : Text := tag style ++ body ++ tag ('/' :: style)

example : escape "\\[b] [0]".toList = "\\\\\\[b] [0]".toList := by decide +kernel

end Stencil.Markup
