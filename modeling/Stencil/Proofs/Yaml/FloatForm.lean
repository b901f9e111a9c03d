import Mathlib.Algebra.Group.Int.Defs
import Stencil.Proofs.Yaml.IntegerForm

/-!
# Scalars in the form of a floating-point number

A scalar in the form of a floating-point number is read as one, but for one reason: a number in
sixties has so many parts that the weight of the first one is beyond all floating-point numbers.

Main results:

- Theorem `floatForm_of_isFloatForm`: the three forms of a floating-point number.
- Theorem `sumSixtieths_of_pow`: how many parts can be summed.
- Theorem `readFloat_eq_error_iff`: which scalars in the form of a floating-point number raise an
  exception.
-/

namespace Stencil
namespace Text

/-! ## Small letters -/

/-- Visible characters have the small letters of ASCII. -/
theorem lowerLetter_of_isVisible {c : Char} (h : Number.IsVisible c) :
    lowerLetter c = c.toLower := by
  have hletters : ∀ n < 0x7F, (Char.ofNat n).toLower =
      if 0x41 ≤ n ∧ n ≤ 0x5A then Char.ofNat (n + 32) else Char.ofNat n := by decide
  have hlower := hletters _ h.2
  rw [Char.ofNat_toNat] at hlower
  -- But for the first run, the capitals lie beyond the visible characters.
  have hruns : capitalRuns = (0x41, 0x5A, 1, 32) :: capitalRuns.tail := rfl
  have hfar : ∀ run ∈ capitalRuns.tail, 0x7F ≤ run.1 := by decide +kernel
  have hnone (meets : Nat × Nat × Nat × Int → Bool)
      (hmeets : ∀ run, meets run = true → run.1 ≤ c.toNat) :
      capitalRuns.tail.find? meets = none :=
    List.find?_eq_none.2 fun run hrun hrunMeets =>
      absurd (Nat.le_trans (hfar run hrun) (hmeets run hrunMeets)) (Nat.not_le.2 h.2)
  have hfirst : (decide (0x41 ≤ c.toNat) && decide (c.toNat ≤ 0x5A) &&
      decide ((c.toNat - 0x41) % 1 = 0)) = decide (0x41 ≤ c.toNat ∧ c.toNat ≤ 0x5A) := by
    simp [Nat.mod_one]
  unfold lowerLetter
  dsimp only
  rw [hlower, hruns, List.find?_cons, hfirst, hnone _ fun run hmeets => ?_]
  · by_cases hcapital : 0x41 ≤ c.toNat ∧ c.toNat ≤ 0x5A
    · rw [if_pos hcapital, decide_eq_true hcapital]
      rfl
    · rw [if_neg hcapital, decide_eq_false hcapital]
  · simp only [Bool.and_eq_true, decide_eq_true_eq] at hmeets
    exact hmeets.1.1

theorem lowerAfter_of_isVisible {t : Text} (h : ∀ c ∈ t, Number.IsVisible c) (before : Text) :
    lowerAfter before t = t.map Char.toLower := by
  induction t generalizing before with
  | nil => rfl
  | cons c t ih =>
      obtain ⟨hc, ht⟩ := List.forall_mem_cons.1 h
      have hsigma : c ≠ 'Σ' := fun heq => absurd (heq ▸ hc.2) (by decide)
      have hdotted : c ≠ 'İ' := fun heq => absurd (heq ▸ hc.2) (by decide)
      rw [lowerAfter, if_neg hsigma, if_neg hdotted, ih ht, lowerLetter_of_isVisible hc]
      rfl

/-- A text of visible characters is put into small letters one by one. -/
theorem lower_of_isVisible {t : Text} (h : ∀ c ∈ t, Number.IsVisible c) :
    lower t = t.map Char.toLower :=
  lowerAfter_of_isVisible h []

end Text

namespace Yaml

open Number (isAsciiDigit IsVisible)

variable {t u whole fraction rest : Text} {c : Char} {e : Raised}

/-! ## Forms of floating-point numbers -/

/-- The forms of floating-point numbers without a sign: with a point and perhaps an exponent, in
sixties with a point, and names. -/
inductive FloatForm : Text → Prop where
  | decimal {whole fraction exponent : Text} (hwhole : ∀ c ∈ whole, c = '_' ∨ isAsciiDigit c = true)
      (hfraction : ∀ c ∈ fraction, c = '_' ∨ isAsciiDigit c = true)
      (hdigit : dropLines whole ++ dropLines fraction ≠ [])
      (hexponent : isExponent exponent = true) :
      FloatForm (whole ++ '.' :: (fraction ++ exponent))
  | sixties {whole fraction first : Text} {sixtieths : List Text}
      (hsplit : Text.split ':' whole = first :: sixtieths) (hne : sixtieths ≠ [])
      (hfirst : isDigits first = true) (hsixtieths : ∀ s ∈ sixtieths, isSixtieth s = true)
      (hfraction : ∀ c ∈ fraction, c = '_' ∨ isAsciiDigit c = true) :
      FloatForm (whole ++ '.' :: fraction)
  | name {name : Text} (h : name ∈ [("inf" : Text), "Inf", "INF", "nan", "NaN", "NAN"]) :
      FloatForm ('.' :: name)

theorem forall_of_isDigits (h : isDigits t = true) : ∀ c ∈ t, c = '_' ∨ isAsciiDigit c = true := by
  obtain ⟨d, rest, rfl, hd, hrest⟩ := exists_of_isDigits h
  exact List.forall_mem_cons.2 ⟨.inr hd, hrest⟩

theorem ne_lowLine_of_isAsciiDigit (h : isAsciiDigit c = true) : c ≠ '_' := by
  rintro rfl
  exact absurd h (by decide)

/-- A fraction is made of digits, and of an exponent after them. -/
theorem exists_of_isFraction (h : isFraction t = true) :
    ∃ digits exponent, t = digits ++ exponent ∧ (∀ c ∈ digits, c = '_' ∨ isAsciiDigit c = true) ∧
      (t.head?.any isAsciiDigit = true → dropLines digits ≠ []) ∧ isExponent exponent = true := by
  refine ⟨t.takeWhile isDigitOrLine, t.dropWhile isDigitOrLine,
    List.takeWhile_append_dropWhile.symm, fun c hc => ?_, fun hhead => ?_, h⟩
  · simpa [isDigitOrLine] using List.mem_takeWhile_imp hc
  · obtain ⟨d, hd, hdigit⟩ := (Option.any_eq_true _ _).1 hhead
    obtain ⟨rest, rfl⟩ := List.head?_eq_some_iff.1 hd
    have hclass : isDigitOrLine d = true := by simp [isDigitOrLine, hdigit]
    rw [List.takeWhile_cons_of_pos hclass, dropLines_cons_of_ne (ne_lowLine_of_isAsciiDigit hdigit)]
    exact List.cons_ne_nil _ _

theorem floatForm_of_isPointForm {body : Text}
    (hcut : Text.cut ['.'] body = some (whole, fraction))
    (h : isPointForm t whole fraction = true) : FloatForm body := by
  have hbody : body = whole ++ '.' :: fraction := by simpa using Text.eq_of_cut hcut
  rw [hbody]
  unfold isPointForm at h
  split at h
  · cases h
  · rename_i digits hsplit
    have hwhole : whole = digits := by
      rw [← Text.join_split ':' whole, hsplit, Text.join_singleton]
    subst hwhole
    simp only [Bool.or_eq_true, Bool.and_eq_true] at h
    rcases h with ⟨hdigits, hrest⟩ | ⟨⟨⟨hnone, hhead⟩, hrest⟩, -⟩
    · obtain ⟨digits, exponent, rfl, hfraction, -, hexponent⟩ := exists_of_isFraction hrest
      exact .decimal (forall_of_isDigits hdigits) hfraction
        (by simp [(dropLines_digits hdigits).1]) hexponent
    · obtain rfl : whole = [] := List.isEmpty_iff.1 hnone
      have hfirst : fraction.head?.any isAsciiDigit = true := by
        cases fraction with
        | nil => cases hhead
        | cons d rest => exact hhead
      obtain ⟨digits, exponent, rfl, hfraction, hdigit, hexponent⟩ := exists_of_isFraction hrest
      exact .decimal (by simp) hfraction (hdigit hfirst) hexponent
  · rename_i first sixtieths hother hsplit
    simp only [Bool.and_eq_true, List.all_eq_true] at h
    obtain ⟨⟨hfirst, hsixtieths⟩, hfraction⟩ := h
    refine .sixties hsplit ?_ hfirst hsixtieths fun c hc => ?_
    · rintro rfl
      exact hother rfl
    · simpa [isDigitOrLine] using hfraction c hc

theorem floatForm_of_isFloatForm (h : isFloatForm t = true) : FloatForm (dropSign t) := by
  unfold isFloatForm at h
  split at h
  · cases h
  · rename_i whole fraction hcut
    rcases Bool.or_eq_true_iff.1 h with hpoint | hname
    · exact floatForm_of_isPointForm hcut hpoint
    · simp only [Bool.and_eq_true, Bool.or_eq_true] at hname
      obtain ⟨hnone, hname⟩ := hname
      obtain rfl : whole = [] := List.isEmpty_iff.1 hnone
      have hbody : dropSign t = '.' :: fraction := by simpa using Text.eq_of_cut hcut
      rw [hbody]
      refine .name ?_
      rcases hname with hinf | ⟨-, hnan⟩
      · exact List.mem_append_left [("nan" : Text), "NaN", "NAN"] (List.contains_iff_mem.1 hinf)
      · exact List.mem_append_right [("inf" : Text), "Inf", "INF"] (List.contains_iff_mem.1 hnan)

/-! ## Reading decimals -/

/-- The characters of decimals. -/
def decimalChars : Text := "0123456789.+-e"

/-- Digits and colons have no small letters. -/
theorem map_toLower_of_digits (h : ∀ c ∈ t, c = ':' ∨ isAsciiDigit c = true) :
    t.map Char.toLower = t := by
  have hall : ∀ c ∈ ("0123456789:" : Text), c.toLower = c :=
    List.all_iff_forall_prop.1 (by decide)
  refine (List.map_congr_left fun c hc => ?_).trans (List.map_id t)
  rcases h c hc with rfl | hdigit
  · exact hall ':' (by decide)
  · exact hall c (List.mem_append_left [':'] (Number.mem_digits_of_isAsciiDigit hdigit))

theorem mem_decimalChars_of_isAsciiDigit (h : isAsciiDigit c = true) : c ∈ decimalChars :=
  List.mem_append_left ".+-e".toList (Number.mem_digits_of_isAsciiDigit h)

/-- The characters of exponents. -/
def exponentChars : Text := "0123456789+-eE"

/-- An exponent in small letters is read. -/
theorem exponent_of_isExponent (h : isExponent t = true) :
    (Number.exponent? (t.map Char.toLower)).isSome = true ∧
      (t.map Char.toLower).head?.all (!isAsciiDigit ·) = true ∧
      (∀ c ∈ t.map Char.toLower, c ∈ decimalChars) ∧ ∀ c ∈ t, c ∈ exponentChars := by
  unfold isExponent at h
  split at h
  · exact ⟨rfl, rfl, by simp, by simp⟩
  · rename_i mark sign digits
    simp only [Bool.and_eq_true, Bool.or_eq_true, decide_eq_true_eq] at h
    obtain ⟨⟨hmark, hsign⟩, hdigits⟩ := h
    obtain ⟨hne, hdigits⟩ := isSome_iff.1 hdigits
    have hlower : (mark :: sign :: digits).map Char.toLower = 'e' :: sign :: digits := by
      have hmark' : mark.toLower = 'e' := by
        rcases hmark with rfl | rfl <;> decide
      have hsign' : sign.toLower = sign := by
        rcases hsign with rfl | rfl <;> decide
      rw [List.map_cons, List.map_cons, hmark', hsign',
        map_toLower_of_digits fun c hc => .inr (hdigits c hc)]
    rw [hlower]
    refine ⟨?_, rfl, ?_, ?_⟩
    · rcases hsign with rfl | rfl <;> simpa [Number.exponent?, Number.splitSign, hne] using hdigits
    · refine List.forall_mem_cons.2 ⟨by decide, List.forall_mem_cons.2 ⟨?_, fun c hc => ?_⟩⟩
      · rcases hsign with rfl | rfl <;> decide
      · exact mem_decimalChars_of_isAsciiDigit (hdigits c hc)
    · refine List.forall_mem_cons.2 ⟨?_, List.forall_mem_cons.2 ⟨?_, fun c hc => ?_⟩⟩
      · rcases hmark with rfl | rfl <;> decide
      · rcases hsign with rfl | rfl <;> decide
      · exact List.mem_append_left "+-eE".toList
          (Number.mem_digits_of_isAsciiDigit (hdigits c hc))
  · cases h

/-- A numeral of decimal characters that begins with a digit or a point is read when it is a
decimal. -/
theorem exists_readDecimal_eq (hchars : ∀ c ∈ t, c ∈ decimalChars)
    (hhead : t.head?.any (fun c => isAsciiDigit c || c = '.') = true)
    (hdecimal : (Number.decimal? t).isSome = true) : ∃ x, readDecimal t = .ok x := by
  have hall : ∀ c ∈ decimalChars, IsVisible c ∧ c ≠ '_' :=
    List.all_iff_forall_prop.1 (by decide)
  have hread := Number.readFloat?_of_visible (fun c hc => (hall c (hchars c hc)).1)
    (fun hmem => (hall _ (hchars _ hmem)).2 rfl) hhead
  obtain ⟨value, hvalue⟩ := Option.isSome_iff_exists.1 hdecimal
  rw [hvalue] at hread
  unfold readDecimal
  rw [hread]
  exact ⟨_, rfl⟩

theorem head_digit_of_forall (hne : t ≠ []) (h : ∀ c ∈ t, isAsciiDigit c = true) (u : Text) :
    (t ++ u).head?.any (fun c => isAsciiDigit c || c = '.') = true := by
  obtain ⟨c, t, rfl⟩ := List.exists_cons_of_ne_nil hne
  simp [h c List.mem_cons_self]

theorem exists_readDecimal_of_digits (hne : t ≠ []) (h : ∀ c ∈ t, isAsciiDigit c = true) :
    ∃ x, readDecimal t = .ok x := by
  refine exists_readDecimal_eq (fun c hc => mem_decimalChars_of_isAsciiDigit (h c hc)) ?_
    (Number.isSome_decimal?_of_digits hne h)
  simpa using head_digit_of_forall hne h []

theorem exists_readDecimal_of_point (hwhole : ∀ c ∈ whole, isAsciiDigit c = true)
    (hfraction : ∀ c ∈ fraction, isAsciiDigit c = true) (hne : whole ++ fraction ≠ [])
    (hrest : (Number.exponent? rest).isSome = true)
    (hhead : rest.head?.all (!isAsciiDigit ·) = true) (hchars : ∀ c ∈ rest, c ∈ decimalChars) :
    ∃ x, readDecimal (whole ++ '.' :: (fraction ++ rest)) = .ok x := by
  refine exists_readDecimal_eq ?_ ?_
    (Number.isSome_decimal?_of_point hwhole hfraction hne hrest hhead)
  · intro c hc
    simp only [List.mem_append, List.mem_cons] at hc
    rcases hc with hc | rfl | hc | hc
    · exact mem_decimalChars_of_isAsciiDigit (hwhole c hc)
    · decide
    · exact mem_decimalChars_of_isAsciiDigit (hfraction c hc)
    · exact hchars c hc
  · by_cases hnone : whole = []
    · rw [hnone]
      rfl
    · exact head_digit_of_forall hnone hwhole _

/-! ## Sums of sixties -/

/-- The number of parts that can be summed. -/
def mostParts : Nat := 174

/-- The exception of a whole number beyond all floating-point numbers. -/
def beyondFloats : Raised := ⟨"OverflowError", "int too large to convert to float"⟩

theorem ofInt_pow_of_lt {k : Nat} (h : k < mostParts) (negative : Bool) :
    Number.Binary64.ofInt (60 ^ k) ≠ .infinite negative := by
  have hall : ∀ k < mostParts, (Number.Binary64.ofInt (60 ^ k)).isFinite = true := by
    decide +kernel
  intro hinfinite
  cases hinfinite ▸ hall k h

theorem ofInt_pow_mostParts : Number.Binary64.ofInt (60 ^ mostParts) = .infinite false := by
  decide +kernel

/-- Parts are summed, unless they are too many. -/
theorem sumSixtieths_of_pow {parts : List Number.Binary64} {k : Nat} (hk : k ≤ mostParts)
    (sum : Number.Binary64) :
    (mostParts < k + parts.length →
        sumSixtieths sum (60 ^ k) parts = .error (.raised beyondFloats)) ∧
      (k + parts.length ≤ mostParts → ∃ x, sumSixtieths sum (60 ^ k) parts = .ok x) := by
  induction parts generalizing k sum with
  | nil => exact ⟨fun h => absurd h (by simpa using hk), fun _ => ⟨sum, rfl⟩⟩
  | cons part parts ih =>
      rw [List.length_cons]
      rcases Nat.lt_or_eq_of_le hk with hlt | rfl
      · have hstep : sumSixtieths sum (60 ^ k) (part :: parts) =
            sumSixtieths (sum.add (part.mul (.ofInt (60 ^ k)))) (60 ^ (k + 1)) parts := by
          rw [sumSixtieths, Int.pow_succ]
          split
          · rename_i negative hinfinite
            exact absurd hinfinite (ofInt_pow_of_lt hlt negative)
          · rfl
        rw [hstep]
        obtain ⟨hmany, hfew⟩ := ih hlt (sum.add (part.mul (.ofInt (60 ^ k))))
        exact ⟨fun h => hmany (by omega), fun h => hfew (by omega)⟩
      · refine ⟨fun _ => ?_, fun h => absurd h (by omega)⟩
        rw [sumSixtieths, ofInt_pow_mostParts]
        rfl

/-! ## Reading floating-point numbers -/

theorem digits_dropLines (h : ∀ c ∈ t, c = '_' ∨ isAsciiDigit c = true) :
    ∀ c ∈ dropLines t, isAsciiDigit c = true :=
  fun c hc => (h c (mem_dropLines.1 hc).1).resolve_left (mem_dropLines.1 hc).2

/-- The characters in front of the point of a number in sixties. -/
theorem forall_of_split_sixties {first : Text} {sixtieths : List Text}
    (hsplit : Text.split ':' t = first :: sixtieths) (hfirst : isDigits first = true)
    (hsixtieths : ∀ s ∈ sixtieths, isSixtieth s = true) :
    ∀ c ∈ t, c = ':' ∨ c = '_' ∨ isAsciiDigit c = true := by
  intro c hc
  by_cases hcolon : c = ':'
  · exact .inl hcolon
  · rw [← Text.join_split ':' t, Text.mem_join hcolon, hsplit] at hc
    obtain ⟨piece, hpiece, hmem⟩ := hc
    rcases List.mem_cons.1 hpiece with rfl | hpiece
    · exact .inr (forall_of_isDigits hfirst c hmem)
    · exact .inr (.inr ((isSixtieth_digits (hsixtieths piece hpiece)).2.2 c hmem))

theorem isVisible_of_mem_form (hform : FloatForm t) : ∀ c ∈ t, IsVisible c := by
  have hdigits : ∀ {t : Text}, (∀ c ∈ t, c = '_' ∨ isAsciiDigit c = true) → ∀ c ∈ t,
      IsVisible c := by
    intro t h c hc
    rcases h c hc with rfl | hdigit
    · exact ⟨by decide, by decide⟩
    · exact Number.isVisible_of_isAsciiDigit hdigit
  have hpoint : IsVisible '.' := ⟨by decide, by decide⟩
  intro c hc
  cases hform with
  | decimal hwhole hfraction _ hexponent =>
      have hall : ∀ c ∈ exponentChars, IsVisible c := List.all_iff_forall_prop.1 (by decide)
      simp only [List.mem_append, List.mem_cons] at hc
      rcases hc with hc | rfl | hc | hc
      · exact hdigits hwhole c hc
      · exact hpoint
      · exact hdigits hfraction c hc
      · exact hall c ((exponent_of_isExponent hexponent).2.2.2 c hc)
  | sixties hsplit _ hfirst hsixtieths hfraction =>
      rcases List.mem_append.1 hc with hc | hc
      · rcases forall_of_split_sixties hsplit hfirst hsixtieths c hc with rfl | hdigit
        · exact ⟨by decide, by decide⟩
        · exact hdigits (t := [c]) (by simpa using hdigit) c List.mem_cons_self
      · rcases List.mem_cons.1 hc with rfl | hc
        · exact hpoint
        · exact hdigits hfraction c hc
  | name hname =>
      have hall : ∀ name ∈ [("inf" : Text), "Inf", "INF", "nan", "NaN", "NAN"],
          ('.' :: name).all (IsVisible ·) := by decide
      exact List.all_iff_forall_prop.1 (hall _ hname) c hc

theorem floatText_eq_map (h : ∀ c ∈ t, IsVisible c) :
    floatText t = (dropLines t).map Char.toLower :=
  Text.lower_of_isVisible fun c hc => h c (mem_dropLines.1 hc).1

theorem dropLines_append (t u : Text) : dropLines (t ++ u) = dropLines t ++ dropLines u :=
  List.filter_append t u

/-- A text in small letters that is no name is read as a sum of sixties, or as a decimal. -/
theorem readFloatMagnitude_of_not_mem (h : 'n' ∉ t) :
    readFloatMagnitude t =
      if t.contains ':' then do
        let parts ← (Text.split ':' t).mapM readDecimal
        sumSixtieths (.zero false) 1 parts.reverse
      else readDecimal t := by
  have hinf : t ≠ ".inf".toList := by
    rintro rfl
    exact h (by decide)
  have hnan : t ≠ ".nan".toList := by
    rintro rfl
    exact h (by decide)
  rw [readFloatMagnitude, if_neg hinf, if_neg hnan]

theorem exists_readFloatMagnitude_decimal {exponent : Text}
    (hform : FloatForm (whole ++ '.' :: (fraction ++ exponent)))
    (hwhole : ∀ c ∈ whole, c = '_' ∨ isAsciiDigit c = true)
    (hfraction : ∀ c ∈ fraction, c = '_' ∨ isAsciiDigit c = true)
    (hdigit : dropLines whole ++ dropLines fraction ≠ []) (hexponent : isExponent exponent = true) :
    ∃ x, readFloatMagnitude (floatText (whole ++ '.' :: (fraction ++ exponent))) = .ok x := by
  obtain ⟨hread, hhead, hchars, hplain⟩ := exponent_of_isExponent hexponent
  have hlines : dropLines exponent = exponent := by
    refine dropLines_of_not_mem fun hmem => ?_
    exact absurd (hplain _ hmem) (by decide)
  have htext : floatText (whole ++ '.' :: (fraction ++ exponent)) =
      dropLines whole ++ '.' :: (dropLines fraction ++ exponent.map Char.toLower) := by
    have hpoint : Char.toLower '.' = '.' := by decide
    rw [floatText_eq_map (isVisible_of_mem_form hform), dropLines_append,
      dropLines_cons_of_ne (by decide), dropLines_append, hlines, List.map_append, List.map_cons,
      List.map_append, hpoint,
      map_toLower_of_digits fun c hc => .inr (digits_dropLines hwhole c hc),
      map_toLower_of_digits fun c hc => .inr (digits_dropLines hfraction c hc)]
  have hall : ∀ c ∈ dropLines whole ++ '.' :: (dropLines fraction ++ exponent.map Char.toLower),
      c ∈ decimalChars := by
    intro c hc
    simp only [List.mem_append, List.mem_cons] at hc
    rcases hc with hc | rfl | hc | hc
    · exact mem_decimalChars_of_isAsciiDigit (digits_dropLines hwhole c hc)
    · decide
    · exact mem_decimalChars_of_isAsciiDigit (digits_dropLines hfraction c hc)
    · exact hchars c hc
  rw [htext, readFloatMagnitude_of_not_mem fun hmem => absurd (hall _ hmem) (by decide), if_neg]
  · exact exists_readDecimal_of_point (digits_dropLines hwhole) (digits_dropLines hfraction) hdigit
      hread hhead hchars
  · intro hcolon
    exact absurd (hall _ (List.contains_iff_mem.1 hcolon)) (by decide)

/-- A number in sixties is read, unless it has too many parts. -/
theorem readFloatMagnitude_sixties {first : Text} {sixtieths : List Text}
    (hform : FloatForm (whole ++ '.' :: fraction))
    (hsplit : Text.split ':' whole = first :: sixtieths) (hne : sixtieths ≠ [])
    (hfirst : isDigits first = true) (hsixtieths : ∀ s ∈ sixtieths, isSixtieth s = true)
    (hfraction : ∀ c ∈ fraction, c = '_' ∨ isAsciiDigit c = true) :
    (mostParts < sixtieths.length + 1 → readFloatMagnitude (floatText (whole ++ '.' :: fraction)) =
        .error (.raised beyondFloats)) ∧
      (sixtieths.length + 1 ≤ mostParts →
        ∃ x, readFloatMagnitude (floatText (whole ++ '.' :: fraction)) = .ok x) := by
  have hwhole := forall_of_split_sixties hsplit hfirst hsixtieths
  have hdigits := digits_dropLines hfraction
  have hchars : ∀ c ∈ dropLines whole, c = ':' ∨ isAsciiDigit c = true := by
    intro c hc
    obtain ⟨hmem, hline⟩ := mem_dropLines.1 hc
    exact (hwhole c hmem).imp_right fun h => h.resolve_left hline
  have htext : floatText (whole ++ '.' :: fraction) =
      dropLines whole ++ '.' :: dropLines fraction := by
    have hpoint : Char.toLower '.' = '.' := by decide
    rw [floatText_eq_map (isVisible_of_mem_form hform), dropLines_append,
      dropLines_cons_of_ne (by decide), List.map_append, List.map_cons, hpoint,
      map_toLower_of_digits hchars,
      map_toLower_of_digits fun c hc => .inr (hdigits c hc)]
  -- The last part takes the point and the fraction along.
  obtain ⟨before, last, point, after, hbefore, hpoint, hparts⟩ :=
    Text.split_append ':' (dropLines whole) ('.' :: dropLines fraction)
  have hnone : ':' ∉ '.' :: dropLines fraction := by
    intro hmem
    rcases List.mem_cons.1 hmem with heq | hmem
    · exact absurd heq (by decide)
    · exact absurd (hdigits _ hmem) (by decide)
  rw [Text.split_of_not_mem hnone] at hpoint
  obtain ⟨rfl, rfl⟩ := List.cons.inj hpoint
  rw [split_dropLines, hsplit, List.map_cons] at hbefore
  have hpieces : ∀ s ∈ before ++ [last], s ≠ [] ∧ ∀ c ∈ s, isAsciiDigit c = true := by
    rw [← hbefore]
    refine List.forall_mem_cons.2 ⟨dropLines_digits hfirst, fun s hs => ?_⟩
    obtain ⟨s, hmem, rfl⟩ := List.mem_map.1 hs
    obtain ⟨hne, -, hsixtieth⟩ := isSixtieth_digits (hsixtieths s hmem)
    rw [dropLines_of_not_mem fun hline => ne_lowLine_of_isAsciiDigit (hsixtieth _ hline) rfl]
    exact ⟨hne, hsixtieth⟩
  have hread : ∀ s ∈ before ++ (last ++ '.' :: dropLines fraction) :: [],
      ∃ x, readDecimal s = .ok x := by
    intro s hs
    rcases List.mem_append.1 hs with hs | hs
    · obtain ⟨hne, hall⟩ := hpieces s (List.mem_append_left _ hs)
      exact exists_readDecimal_of_digits hne hall
    · obtain ⟨hne, hall⟩ := hpieces last (by simp)
      rw [List.mem_singleton.1 hs, ← List.append_nil (dropLines fraction)]
      exact exists_readDecimal_of_point hall hdigits (by simp [hne]) rfl rfl (by simp)
  obtain ⟨parts, hmap, hlength⟩ := Outcome.exists_mapM_eq_ok hread
  have hcount : parts.reverse.length = sixtieths.length + 1 := by
    have hboth := congrArg List.length hbefore
    simp only [List.length_cons, List.length_map, List.length_append, List.length_nil] at hboth
    rw [List.length_reverse, hlength, hboth]
    simp
  have hcolon : (dropLines whole ++ '.' :: dropLines fraction).contains ':' = true := by
    rw [List.contains_iff_mem]
    refine Classical.byContradiction fun hmem => hne ?_
    rw [Text.split_of_not_mem hmem] at hparts
    have hlength := congrArg List.length hparts
    have hboth := congrArg List.length hbefore
    simp only [List.length_cons, List.length_map, List.length_append, List.length_nil] at *
    exact List.eq_nil_of_length_eq_zero (by omega)
  rw [htext, readFloatMagnitude_of_not_mem, if_pos hcolon, hparts, Outcome.bind_of_ok hmap,
    ← hcount]
  · have hsum := @sumSixtieths_of_pow parts.reverse 0 (Nat.zero_le _) (.zero false)
    simpa using hsum
  · intro hmem
    simp only [List.mem_append, List.mem_cons] at hmem
    rcases hmem with hmem | heq | hmem
    · exact absurd (hchars _ hmem) (by decide)
    · exact absurd heq (by decide)
    · exact absurd (hdigits _ hmem) (by decide)

/-- A floating-point number is read, unless it has too many parts. -/
theorem readFloatMagnitude_of_form (hform : FloatForm t) :
    (mostParts < (Text.split ':' t).length →
        readFloatMagnitude (floatText t) = .error (.raised beyondFloats)) ∧
      ((Text.split ':' t).length ≤ mostParts →
        ∃ x, readFloatMagnitude (floatText t) = .ok x) := by
  have hform' := hform
  cases hform with
  | @decimal whole fraction exponent hwhole hfraction hdigit hexponent =>
      have hcolon : ':' ∉ whole ++ '.' :: (fraction ++ exponent) := by
        have hplain := (exponent_of_isExponent hexponent).2.2.2
        intro hmem
        simp only [List.mem_append, List.mem_cons] at hmem
        rcases hmem with hmem | hmem | hmem | hmem
        · exact absurd (hwhole _ hmem) (by decide)
        · exact absurd hmem (by decide)
        · exact absurd (hfraction _ hmem) (by decide)
        · exact absurd (hplain _ hmem) (by decide)
      rw [Text.split_of_not_mem hcolon, List.length_singleton]
      exact ⟨fun h => absurd h (by decide), fun _ =>
        exists_readFloatMagnitude_decimal hform' hwhole hfraction hdigit hexponent⟩
  | @sixties whole fraction first sixtieths hsplit hne hfirst hsixtieths hfraction =>
      have hlength : (Text.split ':' (whole ++ '.' :: fraction)).length = sixtieths.length + 1 := by
        have hnone : ':' ∉ '.' :: fraction := by
          intro hmem
          rcases List.mem_cons.1 hmem with heq | hmem
          · exact absurd heq (by decide)
          · exact absurd (hfraction _ hmem) (by decide)
        rw [Text.length_split, List.count_append, List.count_eq_zero_of_not_mem hnone, Nat.add_zero,
          ← Text.length_split, hsplit, List.length_cons]
      rw [hlength]
      exact readFloatMagnitude_sixties hform' hsplit hne hfirst hsixtieths hfraction
  | @name name hname =>
      have hall : ∀ name ∈ [("inf" : Text), "Inf", "INF", "nan", "NaN", "NAN"],
          ':' ∉ '.' :: name ∧
            (floatText ('.' :: name) = ".inf".toList ∨
              floatText ('.' :: name) = ".nan".toList) := by decide +kernel
      obtain ⟨hcolon, htext⟩ := hall name hname
      rw [Text.split_of_not_mem hcolon, List.length_singleton]
      refine ⟨fun h => absurd h (by decide), fun _ => ?_⟩
      rcases htext with htext | htext
      · exact ⟨.infinite false, by rw [htext]; rfl⟩
      · exact ⟨.nan, by rw [htext]; rfl⟩

/-- Without low lines, a floating-point number begins with a digit or its point. -/
theorem exists_of_floatForm (hform : FloatForm t) :
    ∃ d rest, dropLines t = d :: rest ∧ d ∈ ("0123456789." : Text) := by
  have hmem : ∀ {d : Char}, isAsciiDigit d = true → d ∈ ("0123456789." : Text) :=
    fun hd => List.mem_append_left ['.'] (Number.mem_digits_of_isAsciiDigit hd)
  cases hform with
  | @decimal whole fraction exponent hwhole _ _ _ =>
      have hdigits := digits_dropLines hwhole
      rw [dropLines_append, dropLines_cons_of_ne (by decide)]
      cases hlines : dropLines whole with
      | nil => exact ⟨'.', _, rfl, by decide⟩
      | cons d rest => exact ⟨d, _, rfl, hmem (hdigits d (by simp [hlines]))⟩
  | sixties hsplit _ hfirst _ _ =>
      obtain ⟨d, rest, rfl, hd, -⟩ := exists_of_isDigits hfirst
      obtain ⟨u, rfl⟩ := exists_of_split_cons hsplit
      rw [List.cons_append, dropLines_cons_of_ne (ne_lowLine_of_isAsciiDigit hd)]
      exact ⟨d, _, rfl, hmem hd⟩
  | name _ =>
      rw [dropLines_cons_of_ne (by decide)]
      exact ⟨'.', _, rfl, by decide⟩

/-- A floating-point number is read by its magnitude, whatever its sign. -/
theorem exists_readFloat_eq (hform : FloatForm (dropSign t)) :
    ∃ sign : Number.Binary64 → Number.Binary64,
      readFloat t = (readFloatMagnitude (floatText (dropSign t))).map fun x => .float (sign x) := by
  have hvisible := isVisible_of_mem_form hform
  have hsigned : ∀ {sign : Char}, sign = '+' ∨ sign = '-' → t = sign :: dropSign t →
      floatText t = sign :: floatText (dropSign t) := by
    intro sign hsign ht
    have hall : ∀ sign ∈ ['+', '-'],
        IsVisible sign ∧ sign ≠ '_' ∧ sign.toLower = sign :=
      List.all_iff_forall_prop.1 (by decide)
    obtain ⟨hseen, hline, hlower⟩ := hall sign (by simpa using hsign)
    have hvisible' : ∀ c ∈ t, IsVisible c := by
      rw [ht]
      exact List.forall_mem_cons.2 ⟨hseen, hvisible⟩
    rw [floatText_eq_map hvisible', ht, dropLines_cons_of_ne hline, List.map_cons, hlower, ← ht,
      floatText_eq_map hvisible]
  obtain ht | ht | ⟨ht, -, -⟩ := dropSign_cases t
  · exact ⟨id, by rw [readFloat, hsigned (.inl rfl) ht]; rfl⟩
  · exact ⟨Number.Binary64.neg, by rw [readFloat, hsigned (.inr rfl) ht]; rfl⟩
  · obtain ⟨d, rest, hlines, hd⟩ := exists_of_floatForm hform
    have hall : ∀ d ∈ ("0123456789." : Text), d ≠ '+' ∧ d ≠ '-' ∧ d.toLower = d :=
      List.all_iff_forall_prop.1 (by decide)
    obtain ⟨hplus, hminus, hlower⟩ := hall d hd
    have htext : floatText (dropSign t) = d :: rest.map Char.toLower := by
      rw [floatText_eq_map hvisible, hlines, List.map_cons, hlower]
    refine ⟨id, ?_⟩
    rw [← ht] at htext ⊢
    unfold readFloat
    rw [htext]
    split
    · rename_i heq
      cases heq
    · rename_i heq
      exact absurd (List.cons.inj heq).1 hminus
    · rename_i heq
      exact absurd (List.cons.inj heq).1 hplus
    · rfl

/-- What has the form of a floating-point number is read as one, unless it has too many parts. -/
theorem readFloat_eq_error_iff (hform : isFloatForm t = true) :
    readFloat t = .error (.raised e) ↔
      e = beyondFloats ∧ mostParts < (Text.split ':' (dropSign t)).length := by
  have hfloat := floatForm_of_isFloatForm hform
  obtain ⟨hmany, hfew⟩ := readFloatMagnitude_of_form hfloat
  obtain ⟨sign, hread⟩ := exists_readFloat_eq hfloat
  rw [hread, Outcome.map_eq_error_iff]
  rcases Nat.lt_or_ge mostParts (Text.split ':' (dropSign t)).length with hlength | hlength
  · rw [hmany hlength]
    constructor
    · intro h
      cases h
      exact ⟨rfl, hlength⟩
    · rintro ⟨rfl, -⟩
      rfl
  · obtain ⟨x, hx⟩ := hfew hlength
    rw [hx]
    constructor
    · intro h
      cases h
    · rintro ⟨-, hlt⟩
      exact absurd hlt (Nat.not_lt.2 hlength)

end Yaml
end Stencil
