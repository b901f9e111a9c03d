import Mathlib.Data.Bool.AllAny
import Mathlib.Data.List.TakeWhile
import Stencil.Number.Numeral
import Stencil.Proofs.Text.Blank

/-!
# Reading numerals

Numerals that have the right form are read, and only their length can be in the way: a whole number
of too many digits is refused.

Main results:

- Theorem `readNatural_of_isDecimal`: reading decimal digits.
- Theorem `readInteger_of_isInteger`: reading an integer in the form of one.
- Theorem `readFloat?_of_visible`: a numeral in ASCII is read as a decimal.
- Theorems `isSome_decimal?_of_digits` and `isSome_decimal?_of_point`: digits are a decimal, with
  and without a point.
-/

namespace Stencil
namespace Number

variable {t : Text}

/-- Decimal digits are read, unless they are too many. -/
theorem readNatural_of_isDecimal (hne : t ≠ []) (h : ∀ c ∈ t, Text.isDecimal c = true) :
    readNatural t =
      if digitLimit < t.length then .error (.tooLongToRead t.length)
      else .ok (ofDigits 10 (t.filterMap Text.decimalValue?)) := by
  have hall : t.takeWhile Text.isDecimal = t := List.takeWhile_eq_self_iff.2 h
  have hpos : t.length ≠ 0 := by simpa using hne
  unfold readNatural
  simp [hall, hpos]

/-- An integer is a sign or none, and at least one decimal digit. -/
theorem isInteger_iff : isInteger t = true ↔
    (splitSign t).2 ≠ [] ∧ ∀ c ∈ (splitSign t).2, Text.isDecimal c = true := by
  simp [isInteger]

/-- What has the form of an integer is read as one, unless its digits are too many. -/
theorem readInteger_of_isInteger (h : isInteger t = true) :
    readInteger t =
      if digitLimit < (splitSign t).2.length then .error (.tooLongToRead (splitSign t).2.length)
      else .ok (signed (splitSign t).1
        (ofDigits 10 ((splitSign t).2.filterMap Text.decimalValue?))) := by
  obtain ⟨hne, hdecimal⟩ := isInteger_iff.1 h
  rw [readInteger, readNatural_of_isDecimal hne hdecimal]
  split <;> rfl

/-! ## Decimals -/

variable {c : Char} {digits whole fraction rest : Text}

/-- The ASCII characters that can be seen. -/
def IsVisible (c : Char) : Prop := 0x21 ≤ c.toNat ∧ c.toNat < 0x7F

instance : DecidablePred IsVisible := fun c =>
  inferInstanceAs (Decidable (0x21 ≤ c.toNat ∧ c.toNat < 0x7F))

theorem isAsciiDigit_iff : isAsciiDigit c = true ↔ '0'.toNat ≤ c.toNat ∧ c.toNat ≤ '9'.toNat := by
  simp [isAsciiDigit, Char.le_def, UInt32.le_iff_toNat_le]

theorem isVisible_of_isAsciiDigit (h : isAsciiDigit c = true) : IsVisible c := by
  have hrange := isAsciiDigit_iff.1 h
  simp only [Char.reduceToNat] at hrange
  exact ⟨by omega, by omega⟩

/-- Visible characters are no blanks. -/
theorem isSpacing_of_isVisible (h : IsVisible c) : Text.isSpacing c = false := by
  have hvisible : Text.Ranges.holds [(0x21, 0x7E)] c = true :=
    Text.Ranges.holds_iff.2 ⟨_, List.mem_singleton_self _, h.1, Nat.le_of_lt_succ h.2⟩
  have happart : Text.Ranges.apart [(0x21, 0x7E)] Text.blanks = true := by decide
  have hblank : Text.isBlank c = false := Text.Ranges.holds_eq_false_of_apart happart hvisible
  rw [Text.isSpacing, hblank, Bool.false_and]

/-- Visible characters stay when spaces are cut off. -/
theorem trimBoth_of_isVisible (h : ∀ c ∈ t, IsVisible c) : Text.trimBoth Text.isSpacing t = t := by
  have hdrop : ∀ u : Text, (∀ c ∈ u, IsVisible c) → u.dropWhile Text.isSpacing = u := by
    rintro (- | ⟨c, u⟩) hu
    · rfl
    · rw [List.dropWhile_cons, isSpacing_of_isVisible (hu c List.mem_cons_self)]
      rfl
  rw [Text.trimBoth, Text.trimEnd, hdrop t h, hdrop t.reverse (by simpa using h),
    List.reverse_reverse]

/-- A visible text stands for itself as a numeral. -/
theorem asciiNumeral?_of_isVisible (h : ∀ c ∈ t, IsVisible c) : asciiNumeral? t = some t := by
  induction t with
  | nil => rfl
  | cons c t ih =>
      obtain ⟨hc, ht⟩ := List.forall_mem_cons.1 h
      have hrest : asciiNumeral? t = some t := ih ht
      rw [asciiNumeral?] at hrest ⊢
      rw [List.mapM_cons, if_pos hc.2, hrest]
      rfl

/-- A text without low lines stays as it is. -/
theorem dropLowLines?_of_not_mem (h : '_' ∉ t) (previous : Bool) :
    dropLowLines? previous t = some t := by
  induction t generalizing previous with
  | nil => rfl
  | cons c t ih =>
      rw [List.mem_cons, not_or] at h
      rw [dropLowLines?, ih h.2]
      · rfl
      · exact fun heq => absurd heq.symm h.1

theorem mem_digits_of_isAsciiDigit (h : isAsciiDigit c = true) : c ∈ ("0123456789" : Text) := by
  have hall : ∀ n < 58, 48 ≤ n → Char.ofNat n ∈ ("0123456789" : Text) := by decide
  have hrange := isAsciiDigit_iff.1 h
  simp only [Char.reduceToNat] at hrange
  rw [← Char.ofNat_toNat c]
  exact hall _ (by omega) hrange.1

/-- The ten digits are decimal digits. -/
theorem isDecimal_of_isAsciiDigit (h : isAsciiDigit c = true) : Text.isDecimal c = true := by
  have hall : ∀ c ∈ ("0123456789" : Text), Text.isDecimal c = true :=
    List.all_iff_forall_prop.1 (by decide +kernel)
  exact hall c (mem_digits_of_isAsciiDigit h)

/-- A numeral in visible ASCII characters that begins with a digit or a point, and has no low lines,
is read as a decimal. -/
theorem readFloat?_of_visible (hvisible : ∀ c ∈ t, IsVisible c) (hlines : '_' ∉ t)
    (hhead : t.head?.any (fun c => isAsciiDigit c || c = '.') = true) :
    readFloat? t = (decimal? t).map fun (digits, exponent) => .ofDecimal false digits exponent := by
  obtain ⟨c, rest, rfl⟩ : ∃ c rest, t = c :: rest := by
    cases t with
    | nil => cases hhead
    | cons c rest => exact ⟨c, rest, rfl⟩
  -- Neither a sign nor a name begins like this.
  have hfirst : c ≠ '-' ∧ c ≠ '+' ∧ c.toLower ≠ 'i' ∧ c.toLower ≠ 'n' := by
    have hall : ∀ c ∈ ("0123456789." : Text),
        c ≠ '-' ∧ c ≠ '+' ∧ c.toLower ≠ 'i' ∧ c.toLower ≠ 'n' :=
      List.all_iff_forall_prop.1 (by decide)
    have hc : isAsciiDigit c = true ∨ c = '.' := by simpa using hhead
    rcases hc with hc | rfl
    · exact hall c (List.mem_append_left ['.'] (mem_digits_of_isAsciiDigit hc))
    · exact hall '.' (by decide)
  obtain ⟨hminus, hplus, hi, hn⟩ := hfirst
  have hsign : splitSign (c :: rest) = (false, c :: rest) := by
    unfold splitSign
    split
    · rename_i heq
      exact absurd (List.cons.inj heq).1 hminus
    · rename_i heq
      exact absurd (List.cons.inj heq).1 hplus
    · rfl
  have hname : ∀ (d : Char) (name : Text), c.toLower ≠ d → lowerAscii (c :: rest) ≠ d :: name :=
    fun d name hd heq => hd (List.cons.inj heq).1
  have hinf : lowerAscii (c :: rest) ≠ "inf".toList := hname 'i' _ hi
  have hinfinity : lowerAscii (c :: rest) ≠ "infinity".toList := hname 'i' _ hi
  have hnan : lowerAscii (c :: rest) ≠ "nan".toList := hname 'n' _ hn
  rw [readFloat?, trimBoth_of_isVisible hvisible, asciiNumeral?_of_isVisible hvisible]
  change unsigned? (splitSign (c :: rest)).1 (splitSign (c :: rest)).2 = _
  rw [hsign, unsigned?, dropLowLines?_of_not_mem hlines]
  simp only [hinf, hinfinity, hnan, decide_false, Bool.or_self, Bool.false_eq_true, if_false]
  change ((some (c :: rest)).bind fun u => (decimal? u).bind fun d => some _) = _
  rw [Option.bind_some]
  cases decimal? (c :: rest) <;> rfl

/-- Digits are a decimal. -/
theorem isSome_decimal?_of_digits (hne : digits ≠ [])
    (h : ∀ c ∈ digits, isAsciiDigit c = true) : (decimal? digits).isSome = true := by
  have htake : digits.takeWhile isAsciiDigit = digits := List.takeWhile_eq_self_iff.2 h
  have hdrop : digits.dropWhile isAsciiDigit = [] := List.dropWhile_eq_nil_iff.2 h
  simp [decimal?, htake, hdrop, hne, exponent?]

/-- Digits with a point and an exponent are a decimal. -/
theorem isSome_decimal?_of_point (hwhole : ∀ c ∈ whole, isAsciiDigit c = true)
    (hfraction : ∀ c ∈ fraction, isAsciiDigit c = true) (hne : whole ++ fraction ≠ [])
    (hrest : (exponent? rest).isSome = true) (hhead : rest.head?.all (!isAsciiDigit ·) = true) :
    (decimal? (whole ++ '.' :: (fraction ++ rest))).isSome = true := by
  have hpoint : isAsciiDigit '.' = false := by decide
  have hstop : rest.takeWhile isAsciiDigit = [] ∧ rest.dropWhile isAsciiDigit = rest := by
    cases rest with
    | nil => simp
    | cons c rest =>
        have hc : isAsciiDigit c = false := by simpa using hhead
        simp [hc]
  have hboth : ¬ (whole = [] ∧ fraction = []) := by simpa using hne
  unfold decimal?
  rw [List.takeWhile_append_of_pos hwhole, List.dropWhile_append_of_pos hwhole]
  simp [hpoint, List.takeWhile_append_of_pos hfraction, List.dropWhile_append_of_pos hfraction,
    hstop, hboth, hrest]

end Number
end Stencil
