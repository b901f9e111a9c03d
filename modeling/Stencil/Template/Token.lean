import Stencil.Text.Blank

/-!
# Tokens of a template

A template is literal text with markers in it.  A marker runs from an opening delimiter to the first
closing delimiter after it, on one line; delimiters are plain texts.  An opening delimiter that is
not closed on its line is literal.  `scan` reads the tokens from left to right, and `unscan_scan`
says that the tokens give the template back.
-/

namespace Stencil.Template

/-- The pair of texts that a marker stands between. -/
structure Delimiters where
  opening : Text
  closing : Text
deriving DecidableEq, Repr, Inhabited

/-- A piece of a template. -/
inductive Token where
  /-- Text that is shown as it is. -/
  | literal (text : Text)
  /-- A marker that is replaced by a data value: its trimmed inside, and the marker as written. -/
  | placeholder (expression raw : Text)
  /-- A marker that is replaced by another template: its name, and the marker as written. -/
  | component (name raw : Text)
deriving DecidableEq, Repr

namespace Token

/-- What a token looks like in the template. -/
def source : Token → Text
  | literal text => text
  | placeholder _ raw => raw
  | component _ raw => raw

/-- Whether a token is a component marker. -/
def isComponent : Token → Bool
  | component .. => true
  | _ => false

end Token

/-- The name between the brackets of `component(...)`. -/
def componentName? (expression : Text) : Option Text :=
  match Text.after? "component(" expression with
  | some rest => if rest.getLast? = some ')' then some (Text.trim rest.dropLast) else none
  | none => none

/-- The marker with the given inside. -/
def marker (d : Delimiters) (inner : Text) : Token :=
  let raw := d.opening ++ inner ++ d.closing
  match componentName? (Text.trim inner) with
  | some name => .component name raw
  | none => .placeholder (Text.trim inner) raw

/-- The token of a literal text, if there is any text. -/
def literalTokens (text : Text) : List Token := if text = [] then [] else [.literal text]

/-- Reads the tokens of `rest`, where `pending` is the literal text that stands directly before
it.  A closing delimiter on a later line ends no marker, and the opening one becomes literal.  (An
opening delimiter that is empty cannot become literal; there the rest of the text does.) -/
def scanFrom (d : Delimiters) (pending rest : Text) : List Token :=
  match Text.cut d.opening rest with
  | none => literalTokens (pending ++ rest)
  | some (before, inside) =>
    match Text.cut d.closing inside with
    | none => literalTokens (pending ++ rest)
    | some (inner, after) =>
      if '\n' ∈ inner then
        if inside.length < rest.length then
          scanFrom d (pending ++ before ++ d.opening) inside
        else literalTokens (pending ++ rest)
      else if after.length < rest.length then
        literalTokens (pending ++ before) ++ marker d inner :: scanFrom d [] after
      else literalTokens (pending ++ rest)
termination_by rest.length

/-- The tokens of a template. -/
def scan (d : Delimiters) (text : Text) : List Token := scanFrom d [] text

/-- The template that consists of the given tokens. -/
def unscan (tokens : List Token) : Text := tokens.flatMap Token.source

@[simp]
theorem source_marker (d : Delimiters) (inner : Text) :
    (marker d inner).source = d.opening ++ inner ++ d.closing := by
  unfold marker
  split <;> rfl

@[simp]
theorem unscan_literalTokens (text : Text) : unscan (literalTokens text) = text := by
  unfold literalTokens
  split <;> simp_all [unscan, Token.source]

theorem unscan_append (a b : List Token) : unscan (a ++ b) = unscan a ++ unscan b := by
  simp [unscan]

theorem unscan_cons (token : Token) (rest : List Token) :
    unscan (token :: rest) = token.source ++ unscan rest := by
  simp [unscan]

theorem unscan_scanFrom (d : Delimiters) (pending rest : Text) :
    unscan (scanFrom d pending rest) = pending ++ rest := by
  induction pending, rest using scanFrom.induct d <;> rw [scanFrom]
  case case1 hopen => simp [hopen]
  case case2 hopen hclose => simp [hopen, hclose]
  case case3 hopen _ _ hclose hline hlen ih =>
    have hsource := Text.eq_of_cut hopen
    simp only [hopen, hclose, hline, hlen, if_true, ih]
    simpa using hsource.symm
  case case4 hopen _ _ hclose hline hlen => simp [hopen, hclose, hline, if_neg hlen]
  case case5 hopen _ _ hclose hline hlen ih =>
    have hsource := Text.eq_of_cut hopen
    rw [Text.eq_of_cut hclose] at hsource
    simp [hopen, hclose, hline, hlen, ih, unscan_append, unscan_cons] at hsource ⊢
    exact hsource.symm
  case case6 hopen _ _ hclose hline hlen => simp [hopen, hclose, hline, if_neg hlen]

/-- Scanning loses nothing. -/
theorem unscan_scan (d : Delimiters) (text : Text) : unscan (scan d text) = text := by
  simp [scan, unscan_scanFrom]

end Stencil.Template
