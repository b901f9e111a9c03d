import Mathlib.Computability.Language
import Stencil.Proofs.Text.Splitting
import Stencil.Template.Compiled

/-!
# Dotted paths as a language

An expression is a path when it splits at its points into words.  The same expressions are
described by a grammar that does not split: a word is one word character or more, and a path is
a word with any number of words behind it, each after a point.

Main results:

- Definitions `Worded` and `Dotted.path`: the two descriptions.
- Theorem `Dotted.mem_path_iff`: an expression is in the language when words make it up that are
  joined by points.
- Theorem `worded_iff_mem_path`: both descriptions are of the same expressions.
- Theorem `isPath_iff`: they are the expressions that pass as paths.
-/

namespace Stencil
namespace Template

open Text
open scoped Computability

variable {t : Text}

/-- A word: a text of word characters that is not empty. -/
def IsWord (t : Text) : Prop := t ≠ [] ∧ ∀ c ∈ t, isWord c = true

instance (t : Text) : Decidable (IsWord t) :=
  decidable_of_iff (t ≠ [] ∧ t.all isWord = true) (by rw [IsWord, List.all_eq_true])

/-- An expression that splits at its points into one or more words. -/
def Worded (expression : Text) : Prop :=
  split '.' expression ≠ [] ∧ ∀ word ∈ split '.' expression, IsWord word

/-- The expressions that split into words are those that pass as paths. -/
theorem isPath_iff {expression : Text} : isPath expression = true ↔ Worded expression := by
  simp [isPath, Worded, IsWord, split_ne_nil]

instance (expression : Text) : Decidable (Worded expression) := decidable_of_iff _ isPath_iff

/-! ## The grammar of paths -/

namespace Dotted

/-- One word character. -/
def character : Language Char := {t | ∃ c, isWord c = true ∧ t = [c]}

/-- A word: one word character or more. -/
def word : Language Char := character * character∗

/-- A word that follows a point. -/
def further : Language Char := {['.']} * word

/-- A path: a word, and any number of words that follow points. -/
def path : Language Char := word * further∗

theorem mem_character : t ∈ character ↔ ∃ c, isWord c = true ∧ t = [c] := Iff.rfl

/-- A run of word characters. -/
theorem mem_kstar_character : t ∈ character∗ ↔ ∀ c ∈ t, isWord c = true := by
  rw [Language.mem_kstar]
  constructor
  · rintro ⟨pieces, rfl, hpieces⟩ c hc
    rcases List.mem_flatten.1 hc with ⟨piece, hpiece, hc⟩
    rcases mem_character.1 (hpieces piece hpiece) with ⟨c', hword, rfl⟩
    rw [List.mem_singleton.1 hc]
    exact hword
  · intro hall
    refine ⟨t.map fun c => [c], by rw [← List.flatMap_def, List.flatMap_singleton'], ?_⟩
    intro piece hpiece
    rcases List.mem_map.1 hpiece with ⟨c, hc, rfl⟩
    exact mem_character.2 ⟨c, hall c hc, rfl⟩

/-- The expression of a word matches the words. -/
theorem mem_word : t ∈ word ↔ IsWord t := by
  rw [word, Language.mem_mul]
  constructor
  · rintro ⟨first, hfirst, rest, hrest, rfl⟩
    rcases mem_character.1 hfirst with ⟨c, hc, rfl⟩
    refine ⟨by simp, ?_⟩
    exact List.forall_mem_cons.2 ⟨hc, mem_kstar_character.1 hrest⟩
  · rintro ⟨hne, hall⟩
    rcases List.exists_cons_of_ne_nil hne with ⟨c, rest, rfl⟩
    rcases List.forall_mem_cons.1 hall with ⟨hc, hrest⟩
    exact ⟨[c], ⟨c, hc, rfl⟩, rest, mem_kstar_character.2 hrest, rfl⟩

/-- Every further word follows a point. -/
theorem mem_further : t ∈ further ↔ ∃ w, IsWord w ∧ t = '.' :: w := by
  rw [further, Language.mem_mul]
  constructor
  · rintro ⟨point, rfl, w, hw, rfl⟩
    exact ⟨w, mem_word.1 hw, rfl⟩
  · rintro ⟨w, hw, rfl⟩
    exact ⟨['.'], rfl, w, mem_word.2 hw, rfl⟩

/-- Words, each after a point, one after the other. -/
theorem mem_kstar_further :
    t ∈ further∗ ↔
      ∃ words : List Text, (∀ w ∈ words, IsWord w) ∧ t = words.flatMap ('.' :: ·) := by
  rw [Language.mem_kstar]
  constructor
  · rintro ⟨pieces, rfl, hpieces⟩
    induction pieces with
    | nil => exact ⟨[], by simp, rfl⟩
    | cons piece pieces ih =>
        rcases List.forall_mem_cons.1 hpieces with ⟨hpiece, hrest⟩
        rcases mem_further.1 hpiece with ⟨w, hw, rfl⟩
        rcases ih hrest with ⟨words, hwords, heq⟩
        refine ⟨w :: words, List.forall_mem_cons.2 ⟨hw, hwords⟩, ?_⟩
        rw [List.flatten_cons, heq, List.flatMap_cons]
  · rintro ⟨words, hwords, rfl⟩
    refine ⟨words.map ('.' :: ·), List.flatMap_def .., ?_⟩
    intro piece hpiece
    rcases List.mem_map.1 hpiece with ⟨w, hw, rfl⟩
    exact mem_further.2 ⟨w, hwords w hw, rfl⟩

/-- Words are joined by points. -/
theorem join_cons (w : Text) (words : List Text) :
    join ['.'] (w :: words) = w ++ words.flatMap ('.' :: ·) := by
  induction words generalizing w with
  | nil => rw [join_singleton, List.flatMap_nil, List.append_nil]
  | cons first words ih => rw [join_cons_cons, ih, List.flatMap_cons, List.cons_append]

/-- A path is made up of words that are joined by points. -/
theorem mem_path_iff :
    t ∈ path ↔ ∃ words, words ≠ [] ∧ (∀ w ∈ words, IsWord w) ∧ t = join ['.'] words := by
  rw [path, Language.mem_mul]
  constructor
  · rintro ⟨w, hw, rest, hrest, rfl⟩
    rcases mem_kstar_further.1 hrest with ⟨words, hwords, rfl⟩
    refine ⟨w :: words, by simp, ?_, (join_cons w words).symm⟩
    exact List.forall_mem_cons.2 ⟨mem_word.1 hw, hwords⟩
  · rintro ⟨words, hne, hwords, rfl⟩
    rcases List.exists_cons_of_ne_nil hne with ⟨w, words, rfl⟩
    rcases List.forall_mem_cons.1 hwords with ⟨hw, hrest⟩
    exact ⟨w, mem_word.2 hw, _, mem_kstar_further.2 ⟨words, hrest, rfl⟩, (join_cons w words).symm⟩

end Dotted

/-- A point is no word character. -/
theorem IsWord.point_not_mem (h : IsWord t) : '.' ∉ t := by
  intro hmem
  have hpoint : isWord '.' = false := by decide +kernel
  rw [h.2 '.' hmem] at hpoint
  cases hpoint

/-- Splitting finds the words of a path, and what splits into words is a path. -/
theorem worded_iff_mem_path {expression : Text} :
    Worded expression ↔ expression ∈ Dotted.path := by
  rw [Dotted.mem_path_iff]
  constructor
  · rintro ⟨hne, hwords⟩
    exact ⟨split '.' expression, hne, hwords, (join_split '.' expression).symm⟩
  · rintro ⟨words, hne, hwords, rfl⟩
    have hsplit : split '.' (join ['.'] words) = words :=
      split_join hne fun w hw => (hwords w hw).point_not_mem
    rw [Worded, hsplit]
    exact ⟨hne, hwords⟩

end Template
end Stencil
