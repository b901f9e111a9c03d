/-!
# Texts

A text is the list of its characters, so that templates, identifiers, messages and data are all
cut, joined and compared by one small set of list functions.  A string constant stands for the text
of its characters.  The main functions are `Text.split`, which cuts at a character, and `Text.cut`,
which finds the first place of a word; `Text.count` counts the places where a word can be cut out
one after the other.
-/

namespace Stencil

/-- A text: its characters in order. -/
abbrev Text := List Char

/-- A string constant stands for its characters. -/
instance : Coe String Text := ⟨String.toList⟩

namespace Text

/-! ## Cutting at a character -/

/-- The pieces between the places where `sep` stands.  There is always at least one piece, and a
text without `sep` is its own only piece. -/
def split (sep : Char) : Text → List Text
  | [] => [[]]
  | c :: rest =>
    if c = sep then [] :: split sep rest
    else match split sep rest with
      | [] => [[c]]
      | piece :: pieces => (c :: piece) :: pieces

theorem split_ne_nil (sep : Char) (t : Text) : split sep t ≠ [] := by
  cases t with
  | nil => simp [split]
  | cons c rest =>
    simp only [split]
    split
    · simp
    · split <;> simp

/-- The lines of a text: the pieces between its line feeds. -/
def lines (t : Text) : List Text := split '\n' t

/-- The text with `sep` written between its pieces. -/
def join (sep : Text) (pieces : List Text) : Text := sep.intercalate pieces

/-- Splitting loses nothing: joined by the separator, the pieces give the text back. -/
theorem join_split (sep : Char) (t : Text) : join [sep] (split sep t) = t := by
  induction t with
  | nil => rfl
  | cons c rest ih =>
    simp only [split]
    split
    · rename_i h
      subst h
      cases hs : split c rest with
      | nil => exact absurd hs (split_ne_nil _ _)
      | cons piece pieces =>
        rw [hs] at ih
        simpa [join, List.intercalate, List.intersperse] using ih
    · cases hs : split sep rest with
      | nil => exact absurd hs (split_ne_nil _ _)
      | cons piece pieces =>
        rw [hs] at ih
        cases pieces with
        | nil => simpa [join, List.intercalate, List.intersperse] using ih
        | cons q qs => simpa [join, List.intercalate, List.intersperse] using ih

/-! ## The first place of a word -/

/-- What follows `word` at the beginning of a text, or `none` when the text begins otherwise. -/
def after? : (word : Text) → Text → Option Text
  | [], t => some t
  | _ :: _, [] => none
  | w :: word, c :: rest => if w = c then after? word rest else none

theorem after?_eq_some_iff {word t rest : Text} : after? word t = some rest ↔ t = word ++ rest := by
  induction word generalizing t with
  | nil => simp [after?, eq_comm]
  | cons w word ih =>
    cases t with
    | nil => simp [after?]
    | cons c t =>
      by_cases h : w = c
      · simp [after?, h, ih]
      · simp [after?, h, Ne.symm h]

/-- Whether a text begins with a word. -/
def startsWith (word t : Text) : Bool := (after? word t).isSome

/-- What stands before and after the first place of `word`, or `none` when it stands nowhere.  The
empty word stands at the very beginning. -/
def cut (word : Text) : Text → Option (Text × Text)
  | [] => if word = [] then some ([], []) else none
  | c :: rest =>
    match after? word (c :: rest) with
    | some after => some ([], after)
    | none => (cut word rest).map fun (before, after) => (c :: before, after)

/-- A cut loses nothing but the word itself. -/
theorem eq_of_cut {word t before after : Text} (h : cut word t = some (before, after)) :
    t = before ++ word ++ after := by
  induction t generalizing before with
  | nil =>
    simp only [cut] at h
    split at h
    · rename_i hw; simp_all
    · simp at h
  | cons c rest ih =>
    simp only [cut] at h
    split at h
    · rename_i rest' hp
      simp only [Option.some.injEq, Prod.mk.injEq] at h
      obtain ⟨rfl, rfl⟩ := h
      simpa using after?_eq_some_iff.1 hp
    · obtain ⟨⟨b, a⟩, hc, heq⟩ := Option.map_eq_some_iff.1 h
      simp only [Prod.mk.injEq] at heq
      obtain ⟨rfl, rfl⟩ := heq
      simp [ih hc]

/-- What follows a non-empty word is shorter than the text it was cut from. -/
theorem length_after_lt {word t before after : Text} (h : cut word t = some (before, after))
    (hw : word ≠ []) : after.length < t.length := by
  have hpos := List.length_pos_iff.2 hw
  have hlen := congrArg List.length (eq_of_cut h)
  simp only [List.length_append] at hlen
  omega

/-- How often `word` can be cut out of a text from left to right, each time after the last place.
The empty word fits before, between and after all characters. -/
def count (word : Text) (t : Text) : Nat :=
  if hw : word = [] then t.length + 1
  else match h : cut word t with
    | none => 0
    | some (_, after) => count word after + 1
termination_by t.length
decreasing_by exact length_after_lt h hw

/-! ## Line ends -/

/-- Line ends of every kind become line feeds: a carriage return counts for one, together with a
line feed after it. -/
def unixLines : Text → Text
  | [] => []
  | '\r' :: '\n' :: rest => '\n' :: unixLines rest
  | '\r' :: rest => '\n' :: unixLines rest
  | c :: rest => c :: unixLines rest

/-! ## Trimming -/

/-- The text without the characters of a class at its end. -/
def trimEnd (p : Char → Bool) (t : Text) : Text := (t.reverse.dropWhile p).reverse

/-- The text without the characters of a class at its beginning and its end. -/
def trimBoth (p : Char → Bool) (t : Text) : Text := trimEnd p (t.dropWhile p)

/-- Whether a text ends with a word. -/
def endsWith (word t : Text) : Bool := startsWith word.reverse t.reverse

end Text
end Stencil
