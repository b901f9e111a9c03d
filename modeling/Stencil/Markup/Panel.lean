import Stencil.Markup.Escape
import Stencil.Markup.Literal
import Stencil.Markup.Style
import Stencil.Value.Basic

/-!
# Panels

A panel is a framed text with a title.  Both are markup, in which every closing tag needs an open
tag of its style; tags that stay open and styles of tags that are unknown do no harm.  A tag whose
style begins with an at sign is closed only if its parameters can be read.  The style of the frame
must be known.
-/

namespace Stencil.Markup

/-- Why a panel cannot be drawn. -/
inductive Fault where
  /-- The style of the frame is unknown. -/
  | style (name : Text) (fault : StyleFault)
  /-- A closing tag at a place has no open tag of its style. -/
  | unopened (source : Text) (place : Nat)
  /-- A closing tag without a style stands at a place where no tag is open. -/
  | nothingOpen (place : Nat)
  /-- The parameters of a tag cannot be read. -/
  | parameters (source : Text)
  /-- A numeral in a style cannot be read. -/
  | numeral (fault : Number.IntegerFault)
deriving DecidableEq, Repr

/-- The wording of a fault.  What is wrong with parameters is not said. -/
def Fault.message : Fault → Text
  | .style name fault => "Failed to get style " ++ Text.quoted name ++ "; " ++ fault.message
  | .unopened source place =>
    "closing tag '" ++ source ++ "' at position " ++ Nat.toDigits 10 place
      ++ " doesn't match any open tag"
  | .nothingOpen place =>
    "closing tag '[/]' at position " ++ Nat.toDigits 10 place ++ " has nothing to close"
  | .parameters source => "error parsing " ++ Text.quoted source
  | .numeral fault => fault.message

/-- The fault of words that are no style: a bad numeral counts for itself. -/
def Fault.ofStyle (other : Fault) (fault : StyleFault) : Fault :=
  (fault.numeral?.map Fault.numeral).getD other

/-! ## Tags -/

/-- The tags in the rest of a text, with their places; `place` is the number of characters before
it.  Of the backslashes before a tag every two make one, and one that is left makes the tag a text.
Every step takes at least one character, so that `fuel` as large as the text is enough. -/
def tags : (fuel place : Nat) → Text → List (Nat × Text)
  | 0, _, _ => []
  | fuel + 1, place, t =>
    let slashes := (t.takeWhile (· = '\\')).length
    match readTag? (t.drop slashes), t.drop slashes with
    | some (inner, after), _ =>
      let following := tags fuel (place + slashes + inner.length + 2) after
      if slashes % 2 = 0 then (place + slashes, inner) :: following else following
    | none, _ :: rest => tags fuel (place + slashes + 1) rest
    | none, [] => []

/-- The normal form of the style of a tag; a style that is unknown stands for itself. -/
def tagStyle (name : Text) : Except Fault Text :=
  match readStyle name with
  | .ok style => .ok style.text
  | .error fault => match fault.numeral? with
    | some fault => .error (.numeral fault)
    | none => .ok (Text.lower (Text.trim name))

/-- An open tag. -/
structure OpenTag where
  style : Text
  /-- What follows an equals sign in the tag. -/
  parameters : Text
deriving DecidableEq

/-- Closes a tag.  The parameters count only where the style begins with an at sign. -/
def OpenTag.close (t : OpenTag) : Except Fault Unit :=
  if Text.startsWith "@" t.style && !t.parameters.isEmpty && !Literal.isReadable t.parameters then
    .error (.parameters t.parameters)
  else .ok ()

example : (OpenTag.close ⟨"@a", "("⟩).isOk = false := by decide +kernel

/-- Checks tags, where `opened` are the open ones, the innermost first. -/
def checkTags (opened : List OpenTag) : List (Nat × Text) → Except Fault Unit
  | [] => .ok ()
  | (place, inner) :: rest =>
    match inner.takeWhile (· ≠ '=') with
    | '/' :: name =>
      if (Text.trim name).isEmpty then
        match opened with
        | [] => .error (.nothingOpen place)
        | last :: outer => do
          last.close
          checkTags outer rest
      else do
        let style ← tagStyle (Text.trim name)
        match opened.find? fun t => t.style = style with
        | none => .error (.unopened (tag inner) place)
        | some last =>
          last.close
          checkTags (opened.erase last) rest
    | name => do
      let style ← tagStyle name
      checkTags (⟨style, (inner.dropWhile (· ≠ '=')).drop 1⟩ :: opened) rest

/-- Checks markup. -/
def check (t : Text) : Except Fault Unit := checkTags [] (tags t.length 0 t)

/-! ## Panels -/

/-- A framed text with a title. -/
structure Panel where
  title : Text
  body : Text
  /-- The style of the frame. -/
  style : Text
deriving DecidableEq, Repr

/-- The style of panels where nothing else is said. -/
def Panel.standardStyle : Text := "cyan"

/-- Checks the style of a frame. -/
def checkStyle (name : Text) : Except Fault Unit :=
  if namedStyles.contains name then .ok ()
  else match readStyle name with
    | .ok _ => .ok ()
    | .error fault => .error (.ofStyle (.style name fault) fault)

/-- Checks whether a panel can be drawn: its frame, then its title, then its body. -/
def Panel.check (p : Panel) : Except Fault Unit := do
  checkStyle p.style
  Markup.check p.title
  Markup.check p.body

example : (check "a [b]c[/bold] \\[/u] [i]".toList).isOk = true := by decide +kernel

example : (check "a[/b]".toList).isOk = false := by decide +kernel

end Stencil.Markup
