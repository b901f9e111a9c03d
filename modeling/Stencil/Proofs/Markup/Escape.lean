import Mathlib.Control.Monad.Basic
import Stencil.Markup.Panel

/-!
# Escaped text in markup

Escaping leaves no tags in a text, whatever stands behind it in the markup: every tag of the
text comes to stand behind an odd number of backslashes, and no bracket is put in that could
close a tag.  So text that is escaped can always be drawn.

Main results:

- Theorem `readTag?_eq_some_iff`: what a tag is.
- Theorem `tags_escapeTags`: the tags of markup that begins with an escaped text are those
  of what stands behind it.
- Theorems `check_styled_escape` and `check_styled_append_escape`: markup that shows escaped
  text in a style, or behind a word in a style, can be drawn.
-/

namespace Stencil
namespace Markup

variable {t u inner after : Text} {c : Char}

/-! ## Tags -/

/-- Whether a character is no bracket. -/
def isPlain (c : Char) : Bool := c ≠ ']' && c ≠ '['

theorem drop_length_takeWhile (p : Char → Bool) (t : Text) :
    t.drop (t.takeWhile p).length = t.dropWhile p :=
  calc t.drop (t.takeWhile p).length
      = (t.takeWhile p ++ t.dropWhile p).drop (t.takeWhile p).length := by
        rw [List.takeWhile_append_dropWhile]
    _ = t.dropWhile p := List.drop_left

theorem takeWhile_isPlain {rest : Text} (hrest : rest.all isPlain) (after : Text) :
    (rest ++ ']' :: after).takeWhile isPlain = rest := by
  rw [List.takeWhile_append_of_pos (List.all_eq_true.1 hrest),
    List.takeWhile_cons_of_neg (by decide), List.append_nil]

theorem dropWhile_isPlain {rest : Text} (hrest : rest.all isPlain) (after : Text) :
    (rest ++ ']' :: after).dropWhile isPlain = ']' :: after := by
  rw [← drop_length_takeWhile, takeWhile_isPlain hrest, List.drop_left]

/-- A tag is read up to its closing bracket. -/
theorem readTag?_of_isPlain {rest : Text} (hbegins : beginsTag c = true)
    (hrest : rest.all isPlain) (after : Text) :
    readTag? ('[' :: (c :: rest) ++ ']' :: after) = some (c :: rest, after) := by
  unfold readTag?
  split
  · rename_i c' rest' heq
    obtain ⟨rfl, rfl⟩ : c = c' ∧ rest ++ ']' :: after = rest' := by simpa using heq
    dsimp only
    rw [drop_length_takeWhile]
    split
    · rename_i after' hafter
      obtain rfl := (List.cons.inj ((dropWhile_isPlain hrest after).symm.trans hafter)).2
      rw [if_pos hbegins]
      exact congrArg (fun inner => some (c :: inner, after)) (takeWhile_isPlain hrest after)
    · rename_i hnone
      exact absurd (dropWhile_isPlain hrest after) (hnone after)
  · rename_i hnone
    exact absurd rfl (hnone c (rest ++ ']' :: after))

/-- A tag stands between brackets, holds no others, and begins with a character that can
begin one. -/
theorem readTag?_eq_some_iff :
    readTag? t = some (inner, after) ↔
      ∃ c rest, inner = c :: rest ∧ beginsTag c = true ∧ rest.all isPlain ∧
        t = '[' :: inner ++ ']' :: after := by
  constructor
  · intro h
    unfold readTag? at h
    split at h
    · rename_i c rest
      dsimp only at h
      rw [drop_length_takeWhile] at h
      split at h
      · rename_i after' hafter
        split at h
        · rename_i hbegins
          simp only [Option.some.injEq, Prod.mk.injEq] at h
          obtain ⟨rfl, rfl⟩ := h
          refine ⟨c, _, rfl, hbegins, List.all_takeWhile, ?_⟩
          rw [List.cons_append, List.cons_append, ← hafter, List.takeWhile_append_dropWhile]
        · cases h
      · cases h
    · cases h
  · rintro ⟨c, rest, rfl, hbegins, hrest, rfl⟩
    exact readTag?_of_isPlain hbegins hrest after

/-- The first bracket of a text is a closing one. -/
def Closes (t : Text) : Prop :=
  ∃ before after, t = before ++ ']' :: after ∧ before.all isPlain

theorem not_closes_nil : ¬ Closes [] := by
  rintro ⟨before, after, h, -⟩
  simp at h

/-- A text closes a bracket at its first character or behind one that may stand in a tag. -/
theorem closes_cons_iff : Closes (c :: t) ↔ c = ']' ∨ isPlain c = true ∧ Closes t := by
  constructor
  · rintro ⟨_ | ⟨b, before⟩, after, h, hplain⟩
    · exact Or.inl (List.cons.inj h).1
    · obtain ⟨rfl, rfl⟩ := List.cons.inj h
      rw [List.all_cons, Bool.and_eq_true] at hplain
      exact Or.inr ⟨hplain.1, before, after, rfl, hplain.2⟩
  · rintro (rfl | ⟨hc, before, after, rfl, hplain⟩)
    · exact ⟨[], t, rfl, rfl⟩
    · exact ⟨c :: before, after, rfl, by rw [List.all_cons, hc, hplain]; rfl⟩

/-- Where two texts together close a bracket, one of them does. -/
theorem closes_or_closes_of_append (h : Closes (t ++ u)) : Closes t ∨ Closes u := by
  induction t with
  | nil => exact Or.inr h
  | cons c t ih =>
      rw [List.cons_append, closes_cons_iff] at h
      rw [closes_cons_iff]
      rcases h with hc | ⟨hc, h⟩
      · exact Or.inl (Or.inl hc)
      · exact (ih h).imp_left fun ht => Or.inr ⟨hc, ht⟩

/-- An opening bracket begins no tag unless one can begin behind it and the next bracket is a
closing one. -/
theorem readTag?_cons_eq_none_iff :
    readTag? ('[' :: t) = none ↔ ∀ c rest, t = c :: rest → beginsTag c = true → ¬ Closes rest := by
  constructor
  · rintro h c rest rfl hbegins ⟨before, after, rfl, hplain⟩
    exact absurd (h.symm.trans (readTag?_of_isPlain hbegins hplain after)) (by simp)
  · intro h
    cases htag : readTag? ('[' :: t) with
    | none => rfl
    | some found =>
        obtain ⟨inner, after⟩ := found
        obtain ⟨c, rest, rfl, hbegins, hplain, ht⟩ := readTag?_eq_some_iff.1 htag
        exact absurd ⟨rest, after, rfl, hplain⟩ (h c _ (List.cons.inj ht).2 hbegins)

/-- What stands behind a tag does not matter for it. -/
theorem readTag?_tag (h : readTag? t = some (inner, after)) (u : Text) :
    readTag? (tag inner ++ u) = some (inner, u) := by
  obtain ⟨c, rest, rfl, hbegins, hplain, -⟩ := readTag?_eq_some_iff.1 h
  exact readTag?_eq_some_iff.2 ⟨c, rest, rfl, hbegins, hplain, by simp [tag]⟩

/-- A tag takes up its inside and two brackets. -/
theorem length_of_tag (h : readTag? t = some (inner, after)) :
    t.length = inner.length + after.length + 2 := by
  obtain ⟨c, rest, rfl, -, -, rfl⟩ := readTag?_eq_some_iff.1 h
  simp only [List.length_cons, List.length_append]
  omega

theorem readTag?_eq_none_of_ne (h : c ≠ '[') : readTag? (c :: t) = none := by
  unfold readTag?
  split
  · rename_i heq
    exact absurd (List.cons.inj heq).1 h
  · rfl

/-! ## Reading over markup -/

/-- So many backslashes. -/
abbrev slashes (n : Nat) : Text := List.replicate n '\\'

theorem slashes_succ (n : Nat) : slashes (n + 1) = '\\' :: slashes n := rfl

theorem slashes_append_cons (n : Nat) (t : Text) :
    slashes n ++ '\\' :: t = slashes (n + 1) ++ t := by
  rw [slashes, slashes, List.replicate_succ', List.append_assoc, List.singleton_append]

/-- A text does not begin with a backslash. -/
def Unslashed (t : Text) : Prop := ∀ c u, t = c :: u → c ≠ '\\'

theorem takeWhile_slashes {n : Nat} (h : Unslashed t) :
    (slashes n ++ t).takeWhile (· = '\\') = slashes n := by
  rw [List.takeWhile_append_of_pos (by simp [slashes])]
  cases t with
  | nil => simp
  | cons c u => rw [List.takeWhile_cons_of_neg (by simpa using h c u rfl), List.append_nil]

/-- Every text begins with some backslashes, and goes on without one. -/
theorem exists_slashes (t : Text) : ∃ n rest, t = slashes n ++ rest ∧ Unslashed rest := by
  induction t with
  | nil => exact ⟨0, [], rfl, by simp [Unslashed]⟩
  | cons c u ih =>
      by_cases hc : c = '\\'
      · obtain ⟨n, rest, rfl, hrest⟩ := ih
        exact ⟨n + 1, rest, by rw [hc]; rfl, hrest⟩
      · refine ⟨0, c :: u, rfl, fun d v hd => ?_⟩
        rw [← (List.cons.inj hd).1]
        exact hc

/-- A tag begins with its bracket. -/
theorem unslashed_of_tag (htag : readTag? t = some (inner, after)) : Unslashed t := by
  obtain ⟨c, rest, -, -, -, rfl⟩ := readTag?_eq_some_iff.1 htag
  rintro d v ⟨⟩
  decide

theorem unslashed_cons (hc : c ≠ '\\') : Unslashed (c :: t) := by
  rintro d v ⟨⟩
  exact hc

/-- A tag behind backslashes is read; it counts if their number is even. -/
theorem tags_of_tag {n fuel place : Nat} (htag : readTag? t = some (inner, after)) :
    tags (fuel + 1) place (slashes n ++ t) =
      if n % 2 = 0 then (place + n, inner) :: tags fuel (place + n + inner.length + 2) after
      else tags fuel (place + n + inner.length + 2) after := by
  rw [tags]
  simp [takeWhile_slashes (unslashed_of_tag htag), htag]

/-- A character that begins no tag is passed over. -/
theorem tags_of_cons {n fuel place : Nat} (hc : c ≠ '\\') (htag : readTag? (c :: t) = none) :
    tags (fuel + 1) place (slashes n ++ c :: t) = tags fuel (place + n + 1) t := by
  rw [tags]
  simp [takeWhile_slashes (unslashed_cons hc), htag]

/-- The backslashes before a tag are doubled, and one more escapes it. -/
theorem escapeTags_of_tag {n fuel : Nat} (htag : readTag? t = some (inner, after)) :
    escapeTags (fuel + 1) (slashes n ++ t) =
      slashes (n + n + 1) ++ (tag inner ++ escapeTags fuel after) := by
  rw [escapeTags, ← slashes_append_cons]
  simp [takeWhile_slashes (unslashed_of_tag htag), htag, tag]

/-- Backslashes before anything else are left alone. -/
theorem escapeTags_of_cons {n fuel : Nat} (hc : c ≠ '\\') (htag : readTag? (c :: t) = none) :
    escapeTags (fuel + 1) (slashes n ++ c :: t) = slashes n ++ c :: escapeTags fuel t := by
  rw [escapeTags]
  simp [takeWhile_slashes (unslashed_cons hc), htag]

/-- So are those at the end. -/
theorem escapeTags_slashes (n fuel : Nat) : escapeTags fuel (slashes n) = slashes n := by
  cases fuel with
  | zero => rfl
  | succ fuel =>
      rw [escapeTags]
      simp [readTag?]

/-- How escaping goes on: over a tag, over a character that begins none, or to the end. -/
theorem escapeTags_cases (t : Text) :
    (∃ n rest inner after, t = slashes n ++ rest ∧ readTag? rest = some (inner, after) ∧
      ∀ fuel, escapeTags (fuel + 1) t =
        slashes (n + n + 1) ++ (tag inner ++ escapeTags fuel after)) ∨
    (∃ n c rest, t = slashes n ++ c :: rest ∧ c ≠ '\\' ∧ readTag? (c :: rest) = none ∧
      ∀ fuel, escapeTags (fuel + 1) t = slashes n ++ c :: escapeTags fuel rest) ∨
    ∃ n, t = slashes n ∧ ∀ fuel, escapeTags fuel t = slashes n := by
  obtain ⟨n, rest, rfl, hrest⟩ := exists_slashes t
  cases htag : readTag? rest with
  | some found =>
      obtain ⟨inner, after⟩ := found
      exact Or.inl ⟨n, rest, inner, after, rfl, htag, fun _ => escapeTags_of_tag htag⟩
  | none =>
      cases rest with
      | nil =>
          rw [List.append_nil]
          exact Or.inr (Or.inr ⟨n, rfl, escapeTags_slashes n⟩)
      | cons c rest =>
          have hc := hrest c rest rfl
          exact Or.inr (Or.inl ⟨n, c, rest, rfl, hc, htag, fun _ => escapeTags_of_cons hc htag⟩)

/-- A backslash may stand in a tag. -/
theorem closes_slashes_iff {n : Nat} : Closes (slashes n ++ t) ↔ Closes t := by
  induction n with
  | zero => rfl
  | succ n ih =>
      rw [slashes_succ, List.cons_append, closes_cons_iff, ih]
      simp [isPlain]

/-! ## Escaped text -/

variable {suffix : Text}

/-- Escaping puts no closing bracket before the first bracket. -/
theorem not_closes_escapeTags (hsuffix : ¬ Closes suffix) (fuel : Nat) (h : ¬ Closes t) :
    ¬ Closes (escapeTags fuel t ++ suffix) := by
  induction fuel generalizing t with
  | zero => exact fun hcloses => (closes_or_closes_of_append hcloses).elim h hsuffix
  | succ fuel ih =>
      obtain ⟨n, rest, inner, after, rfl, htag, hstep⟩ | ⟨n, c, rest, rfl, -, -, hstep⟩ |
        ⟨n, rfl, hstep⟩ := escapeTags_cases t
      · rw [hstep, List.append_assoc, closes_slashes_iff, tag, List.cons_append, List.cons_append,
          List.cons_append, closes_cons_iff]
        simp [isPlain]
      · rw [closes_slashes_iff, closes_cons_iff, not_or, not_and] at h
        rw [hstep, List.append_assoc, closes_slashes_iff, List.cons_append, closes_cons_iff, not_or,
          not_and]
        exact ⟨h.1, fun hc => ih (h.2 hc)⟩
      · rw [hstep, closes_slashes_iff]
        exact hsuffix

/-- Text that completes no tag before it: no tag can begin with it, and its first bracket is
no closing one. -/
structure Inert (suffix : Text) : Prop where
  begins : ∀ c u, suffix = c :: u → beginsTag c = false
  closes : ¬ Closes suffix

/-- A bracket that began no tag begins none when what stands behind it is escaped. -/
theorem readTag?_escapeTags (hsuffix : Inert suffix) {fuel : Nat} (hfuel : t.length ≤ fuel)
    (h : readTag? ('[' :: t) = none) :
    readTag? ('[' :: (escapeTags fuel t ++ suffix)) = none := by
  rw [readTag?_cons_eq_none_iff] at h ⊢
  intro d v hd hbegins
  have hslash : ∀ {n : Nat} {w : Text}, d :: v ≠ slashes (n + 1) ++ w := by
    intro n w heq
    rw [(List.cons.inj heq).1] at hbegins
    exact absurd hbegins (by decide)
  cases fuel with
  | zero =>
      obtain rfl := List.length_eq_zero_iff.1 (Nat.le_zero.1 hfuel)
      rw [hsuffix.begins d v hd] at hbegins
      cases hbegins
  | succ fuel =>
      obtain ⟨n, rest, inner, after, rfl, htag, hstep⟩ | ⟨n, c, rest, rfl, -, -, hstep⟩ |
        ⟨n, rfl, hstep⟩ := escapeTags_cases t
      · rw [hstep, List.append_assoc] at hd
        exact absurd hd.symm hslash
      · rw [hstep, List.append_assoc] at hd
        cases n with
        | zero =>
            obtain ⟨rfl, rfl⟩ := List.cons.inj hd
            exact not_closes_escapeTags hsuffix.closes fuel (h c rest rfl hbegins)
        | succ n => exact absurd hd.symm hslash
      · rw [hstep] at hd
        cases n with
        | zero =>
            rw [hsuffix.begins d v hd] at hbegins
            cases hbegins
        | succ n => exact absurd hd.symm hslash

/-- Escaped text has no tags: reading markup that begins with it comes to what stands behind
it, with some backslashes. -/
theorem tags_escapeTags (hsuffix : Inert suffix) {fuel fuel' : Nat} (place : Nat)
    (ht : t.length ≤ fuel) (hfuel : (escapeTags fuel t ++ suffix).length ≤ fuel') :
    ∃ n rest place', (slashes n ++ suffix).length ≤ rest ∧
      tags fuel' place (escapeTags fuel t ++ suffix) = tags rest place' (slashes n ++ suffix) := by
  induction fuel generalizing t fuel' place with
  | zero =>
      obtain rfl := List.length_eq_zero_iff.1 (Nat.le_zero.1 ht)
      exact ⟨0, fuel', place, hfuel, rfl⟩
  | succ fuel ih =>
      obtain ⟨n, rest, inner, after, rfl, htag, hstep⟩ | ⟨n, c, rest, rfl, hc, htag, hstep⟩ |
        ⟨n, rfl, hstep⟩ := escapeTags_cases t
      · rw [hstep, List.append_assoc, List.append_assoc] at hfuel ⊢
        have hrest := length_of_tag htag
        have hagain := readTag?_tag htag (escapeTags fuel after ++ suffix)
        have hlength := length_of_tag hagain
        simp only [slashes, List.length_append, List.length_replicate] at ht hfuel hlength
        obtain ⟨fuel', rfl⟩ : ∃ n, fuel' = n + 1 := Nat.exists_eq_add_of_le' (by omega)
        rw [tags_of_tag hagain, if_neg (by omega)]
        exact ih _ (by omega) (by rw [List.length_append]; omega)
      · rw [hstep, List.append_assoc] at hfuel ⊢
        have hagain : readTag? (c :: (escapeTags fuel rest ++ suffix)) = none := by
          by_cases hbracket : c = '['
          · subst hbracket
            exact readTag?_escapeTags hsuffix (by simp at ht; omega) htag
          · exact readTag?_eq_none_of_ne hbracket
        simp only [slashes, List.length_append, List.length_replicate, List.length_cons,
          List.cons_append] at ht hfuel
        obtain ⟨fuel', rfl⟩ : ∃ n, fuel' = n + 1 := Nat.exists_eq_add_of_le' (by omega)
        rw [List.cons_append, tags_of_cons hc hagain]
        exact ih _ (by omega) (by rw [List.length_append]; omega)
      · rw [hstep] at hfuel ⊢
        exact ⟨n, fuel', place, hfuel, rfl⟩

theorem inert_nil : Inert [] :=
  ⟨by simp, not_closes_nil⟩

theorem inert_tag (inner : Text) : Inert (tag inner) where
  begins c u h := by
    rw [← (List.cons.inj h).1]
    decide
  closes := by
    rw [tag, List.cons_append, closes_cons_iff]
    simp [isPlain]

theorem Inert.cons_backslash (h : Inert suffix) : Inert ('\\' :: suffix) where
  begins c u heq := by
    rw [← (List.cons.inj heq).1]
    decide
  closes := by
    rw [closes_cons_iff]
    rintro (heq | ⟨-, hcloses⟩)
    · cases heq
    · exact h.closes hcloses

/-- The same where a backslash at the end was doubled. -/
theorem tags_escape (hsuffix : Inert suffix) (t : Text) {fuel : Nat} (place : Nat)
    (hfuel : (escape t ++ suffix).length ≤ fuel) :
    ∃ n rest place', (slashes n ++ suffix).length ≤ rest ∧
      tags fuel place (escape t ++ suffix) = tags rest place' (slashes n ++ suffix) := by
  unfold escape at hfuel ⊢
  dsimp only at hfuel ⊢
  split at hfuel
  · rename_i hodd
    rw [if_pos hodd]
    rw [List.append_assoc] at hfuel ⊢
    obtain ⟨n, rest, place', hrest, htags⟩ :=
      tags_escapeTags hsuffix.cons_backslash place (Nat.le_refl t.length) hfuel
    rw [slashes_append_cons] at hrest htags
    exact ⟨n + 1, rest, place', hrest, htags⟩
  · rename_i heven
    rw [if_neg heven]
    exact tags_escapeTags hsuffix place (Nat.le_refl t.length) hfuel

/-- Backslashes are no tags. -/
theorem tags_slashes (n fuel place : Nat) : tags fuel place (slashes n) = [] := by
  cases fuel with
  | zero => rfl
  | succ fuel =>
      rw [tags]
      simp [readTag?]

/-- Whether a character can neither begin a tag nor escape one. -/
def isHarmless (c : Char) : Bool := c ≠ '[' && c ≠ '\\'

theorem isHarmless_iff : isHarmless c = true ↔ c ≠ '[' ∧ c ≠ '\\' := by
  simp [isHarmless]

/-- Text of harmless characters has no tags. -/
theorem tags_of_harmless {w : Text} (hw : w.all isHarmless) {fuel : Nat} (place : Nat)
    (hfuel : (w ++ t).length ≤ fuel) :
    ∃ rest place', t.length ≤ rest ∧ tags fuel place (w ++ t) = tags rest place' t := by
  induction w generalizing fuel place with
  | nil => exact ⟨fuel, place, hfuel, rfl⟩
  | cons c w ih =>
      rw [List.all_cons, Bool.and_eq_true, isHarmless_iff] at hw
      obtain ⟨⟨hbracket, hslash⟩, hw⟩ := hw
      obtain ⟨fuel, rfl⟩ : ∃ n, fuel = n + 1 := Nat.exists_eq_add_of_le' (by simp at hfuel; omega)
      have hstep : tags (fuel + 1) place (c :: (w ++ t)) = tags fuel (place + 0 + 1) (w ++ t) :=
        tags_of_cons (n := 0) hslash (readTag?_eq_none_of_ne hbracket)
      rw [List.cons_append, hstep]
      exact ih hw _ (by simpa using hfuel)

/-! ## Markup that can be drawn -/

/-- A text without brackets and backslashes has no tags to go wrong. -/
theorem check_of_harmless {w : Text} (hw : w.all isHarmless) : check w = .ok () := by
  obtain ⟨rest, place, -, htags⟩ : ∃ rest place', ([] : Text).length ≤ rest ∧
      tags w.length 0 (w ++ []) = tags rest place' [] := tags_of_harmless hw 0 (by simp)
  rw [List.append_nil] at htags
  rw [check, htags, show tags rest place [] = [] from tags_slashes 0 rest place]
  rfl

theorem readStyle_red : readStyle "red" = .ok ⟨[], some "red", none, none⟩ := by decide

/-- A style that can be read is one for a frame. -/
theorem checkStyle_of_readStyle {name : Text} {style : Style} (h : readStyle name = .ok style) :
    checkStyle name = .ok () := by
  rw [checkStyle, h]
  split <;> rfl

/-- Red text is drawn, also where its closing tag counts as text. -/
theorem checkTags_red {found : List (Nat × Text)}
    (h : found = [] ∨ ∃ place, found = [(place, ("/red" : Text))]) (place : Nat) :
    checkTags [] ((place, ("red" : Text)) :: found) = .ok () := by
  have hred : tagStyle ("red" : Text) = .ok ("red" : Text) := by
    rw [tagStyle, readStyle_red]
    rfl
  have hopen :
      checkTags [] ((place, ("red" : Text)) :: found) = checkTags [⟨"red", []⟩] found := by
    change tagStyle ("red" : Text) >>= (fun style => checkTags [⟨style, []⟩] found) = _
    rw [hred]
    rfl
  rw [hopen]
  rcases h with rfl | ⟨place', rfl⟩
  · rfl
  · change tagStyle ("red" : Text) >>= _ = _
    rw [hred]
    rfl

theorem styled_red (body : Text) : styled "red" body = tag "red" ++ (body ++ tag "/red") :=
  List.append_assoc ..

/-- Markup that begins with red text has the tag of it first. -/
theorem exists_tags_red (t : Text) :
    ∃ rest place, t.length ≤ rest ∧
      tags (tag "red" ++ t).length 0 (tag "red" ++ t) =
        (0, ("red" : Text)) :: tags rest place t := by
  have htag : readTag? (tag "red") = some (("red" : Text), []) := rfl
  have hlength : (tag "red" ++ t).length = t.length + 4 + 1 := by
    simp [tag]
  rw [hlength]
  refine ⟨t.length + 4, 0 + 0 + ("red" : Text).length + 2, by omega, ?_⟩
  exact tags_of_tag (n := 0) (readTag?_tag htag t)

/-- The closing tag of red text counts, unless it stands behind an odd number of
backslashes. -/
theorem exists_tags_closing {n fuel : Nat} (place : Nat) (t : Text)
    (hfuel : (slashes n ++ (tag "/red" ++ t)).length ≤ fuel) :
    ∃ found rest place', (found = [] ∨ ∃ at', found = [(at', ("/red" : Text))]) ∧
      t.length ≤ rest ∧
      tags fuel place (slashes n ++ (tag "/red" ++ t)) = found ++ tags rest place' t := by
  have htag : readTag? (tag "/red") = some (("/red" : Text), []) := rfl
  simp only [slashes, tag, List.length_append, List.length_replicate, List.length_cons,
    List.length_nil] at hfuel
  obtain ⟨fuel, rfl⟩ : ∃ n, fuel = n + 1 := Nat.exists_eq_add_of_le' (by omega)
  rw [tags_of_tag (readTag?_tag htag t)]
  split
  · exact ⟨[_], fuel, _, Or.inr ⟨_, rfl⟩, by omega, rfl⟩
  · exact ⟨[], fuel, _, Or.inl rfl, by omega, rfl⟩

/-- Escaped text in red can be drawn. -/
theorem check_styled_escape (t : Text) : check (styled "red" (escape t)) = .ok () := by
  rw [styled_red]
  obtain ⟨fuel, place, hfuel, hopen⟩ := exists_tags_red (escape t ++ tag "/red")
  obtain ⟨n, fuel', place', hfuel', hbody⟩ := tags_escape (inert_tag "/red") t place hfuel
  rw [← List.append_nil (tag "/red")] at hfuel'
  obtain ⟨found, rest, place'', hfound, -, hclosing⟩ := exists_tags_closing place' [] hfuel'
  rw [List.append_nil, show tags rest place'' [] = [] from tags_slashes 0 rest place'',
    List.append_nil] at hclosing
  rw [check, hopen, hbody, hclosing]
  exact checkTags_red hfound 0

/-- A plain word in red and escaped text behind it can be drawn. -/
theorem check_styled_append_escape {w : Text} (hw : w.all isHarmless) (t : Text) :
    check (styled "red" w ++ ": " ++ escape t) = .ok () := by
  have hcolon : (": " : Text).all isHarmless := by decide
  rw [styled_red, List.append_assoc, List.append_assoc, List.append_assoc]
  obtain ⟨fuel, place, hfuel, hopen⟩ := exists_tags_red (w ++ (tag "/red" ++ (": " ++ escape t)))
  obtain ⟨fuel', place', hfuel', hword⟩ := tags_of_harmless hw place hfuel
  obtain ⟨found, fuel'', place'', hfound, hfuel'', hclosing⟩ :=
    exists_tags_closing (n := 0) place' (": " ++ escape t) hfuel'
  obtain ⟨fuel₃, place₃, hfuel₃, hbehind⟩ := tags_of_harmless hcolon place'' hfuel''
  have hfuel₄ : (escape t ++ []).length ≤ fuel₃ := by rwa [List.append_nil]
  obtain ⟨n, fuel₄, place₄, -, hbody⟩ := tags_escape inert_nil t place₃ hfuel₄
  rw [List.append_nil, List.append_nil, tags_slashes] at hbody
  have htags : tags fuel' place' (tag "/red" ++ (": " ++ escape t)) = found := by
    rw [show tag "/red" ++ (": " ++ escape t) = slashes 0 ++ (tag "/red" ++ (": " ++ escape t))
      from rfl, hclosing, hbehind, hbody, List.append_nil]
  rw [check, hopen, hword, htags]
  exact checkTags_red hfound 0

end Markup
end Stencil
