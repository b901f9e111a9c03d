import Stencil.Json.Write
import Stencil.Proofs.Number.Digits
import Stencil.Proofs.Number.Reading

/-!
# Numbers in JSON

A number in JSON has a whole part without zeros before it, and it may have a fraction and an
exponent.  Such a number is read, when it is below the overflow, and every number that is written
is one of that form.

Main results:

- Structure `Numeral` and predicate `Numeral.Proper`: the parts of a number, and their forms.
- Theorem `readNumber?_text`: a number is read.
- Theorem `exists_numeral_digits`: an integer of 64 bits is written as a number.
- Theorem `exists_numeral_render`: so is a finite floating-point number.
-/

namespace Stencil
namespace Json

open Number

/-! ## Digits -/

/-- The characters are digits. -/
def AreDigits (t : Text) : Prop := ∀ c ∈ t, isAsciiDigit c = true

/-- The text does not begin with a digit. -/
def NoDigit (t : Text) : Prop := t.head?.all (!isAsciiDigit ·) = true

variable {c : Char} {t u rest whole fraction : Text} {n k : Nat}

/-- Digits are taken up to the first character that is none. -/
theorem takeWhile_digits (h : AreDigits t) (hrest : NoDigit rest) :
    (t ++ rest).takeWhile isAsciiDigit = t ∧
      (t ++ rest).dropWhile isAsciiDigit = rest := by
  have hstop : rest.takeWhile isAsciiDigit = [] ∧ rest.dropWhile isAsciiDigit = rest := by
    cases rest with
    | nil => simp
    | cons c rest =>
        have hc : isAsciiDigit c = false := by simpa [NoDigit] using hrest
        simp [hc]
  rw [List.takeWhile_append_of_pos h, List.dropWhile_append_of_pos h, hstop.1, hstop.2]
  simp

theorem isAsciiDigit_of_isDigit (h : c.isDigit = true) : isAsciiDigit c = true := by
  rw [isAsciiDigit_iff]
  simpa [Char.isDigit, UInt32.le_iff_toNat_le] using h

theorem areDigits_toDigits (n : Nat) : AreDigits (Nat.toDigits 10 n) :=
  fun _ hc => isAsciiDigit_of_isDigit (Nat.isDigit_of_mem_toDigits (by decide) (by decide) hc)

theorem areDigits_zeros (k : Nat) : AreDigits (List.replicate k '0') := by
  intro c hc
  rw [List.eq_of_mem_replicate hc]
  decide

theorem AreDigits.append (h : AreDigits t) (h' : AreDigits u) :
    AreDigits (t ++ u) := by
  intro c hc
  exact (List.mem_append.1 hc).elim (h c) (h' c)

theorem digitsValue_eq (t : Text) : digitsValue t = Nat.ofDigitChars 10 t 0 := by
  rw [digitsValue, ofDigits, List.foldl_map, Nat.ofDigitChars_eq_foldl]
  simp only [Nat.mul_comm]

theorem digitsValue_toDigits (n : Nat) : digitsValue (Nat.toDigits 10 n) = n := by
  rw [digitsValue_eq, Nat.ofDigitChars_ten_toDigits]

theorem digitsValue_zeros_append (k : Nat) (t : Text) :
    digitsValue (List.replicate k '0' ++ t) = digitsValue t := by
  rw [digitsValue_eq, Nat.ofDigitChars_append, Nat.ofDigitChars_replicate_zero, Nat.mul_zero,
    digitsValue_eq]

theorem digitsValue_append_zeros (t : Text) (k : Nat) :
    digitsValue (t ++ List.replicate k '0') = digitsValue t * 10 ^ k := by
  rw [digitsValue_eq, Nat.ofDigitChars_append, Nat.ofDigitChars_replicate_zero, digitsValue_eq,
    Nat.mul_comm]

/-- The digits of a number do not begin with zero. -/
theorem head?_toDigits_ne (hn : n ≠ 0) : (Nat.toDigits 10 n).head? ≠ some '0' := by
  induction n using Nat.strongRecOn with
  | ind n ih =>
      by_cases hsmall : n < 10
      · have hall : ∀ m < 10, m ≠ 0 → Nat.digitChar m ≠ '0' := by decide
        rw [Nat.toDigits_of_lt_base hsmall]
        simpa using hall n hsmall hn
      · have hrest := ih (n / 10) (by omega) (by omega)
        rw [Nat.toDigits_of_base_le (by decide) (by omega)]
        rwa [List.head?_append_of_ne_nil _ Nat.toDigits_ne_nil]

/-! ## Numerals -/

/-- The parts of a number: its sign, its whole part, its fraction without the point, and the sign
and the digits of its exponent. -/
structure Numeral where
  negative : Bool
  whole : Text
  fraction : Text
  exponent : Option (Bool × Text)

/-- The digits of a positive number: they do not begin with zero. -/
structure ArePositive (t : Text) : Prop where
  nonempty : t ≠ []
  digits : AreDigits t
  head : t.head? ≠ some '0'

/-- A whole part: one zero, or digits that do not begin with zero. -/
def IsWhole (whole : Text) : Prop := whole = ['0'] ∨ ArePositive whole

namespace Numeral

/-- The text of an exponent. -/
def exponentText : Option (Bool × Text) → Text
  | none => []
  | some (negative, t) => 'e' :: (if negative then '-' else '+') :: t

/-- The number of an exponent. -/
def shift? : Option (Bool × Text) → Option Int
  | none => none
  | some (negative, t) => some (signed negative (digitsValue t))

/-- The text of a fraction. -/
def fractionText (fraction : Text) : Text := if fraction = [] then [] else '.' :: fraction

/-- The text of a number. -/
def text (n : Numeral) : Text :=
  (if n.negative then ['-'] else []) ++ (n.whole ++ (fractionText n.fraction
    ++ exponentText n.exponent))

/-- All digits before the exponent, as a number. -/
def coefficient (n : Numeral) : Nat := digitsValue (n.whole ++ n.fraction)

/-- The power of ten by which that number is multiplied. -/
def power (n : Numeral) : Int := (shift? n.exponent).getD 0 - n.fraction.length

/-- What a number is read as: an integer of 64 bits if possible. -/
def value (n : Numeral) : Value :=
  if n.fraction.isEmpty && n.exponent.isNone && isWord (signed n.negative (digitsValue n.whole))
  then .int (signed n.negative (digitsValue n.whole))
  else .float (.ofDecimal n.negative n.coefficient n.power)

/-- The size of a number. -/
def magnitude (n : Numeral) : ℚ := n.coefficient * 10 ^ n.power

/-- The parts of a number have their forms. -/
structure Formed (n : Numeral) : Prop where
  whole : IsWhole n.whole
  fraction : AreDigits n.fraction
  exponent : ∀ e ∈ n.exponent, e.2 ≠ [] ∧ AreDigits e.2

/-- A number that can be read: it is below the overflow. -/
structure Proper (n : Numeral) : Prop extends n.Formed where
  inRange : n.magnitude < overflow

end Numeral

/-! ## Reading -/

/-- Nothing follows, or what can follow a value: a comma or the end of a container. -/
def AtEnd (rest : Text) : Prop := ∀ c ∈ rest.head?, c ∈ [',', ']', '\x7d']

theorem AtEnd.noDigit (h : AtEnd rest) : NoDigit rest := by
  have hall : ∀ c ∈ [',', ']', '\x7d'], isAsciiDigit c = false := by simp [isAsciiDigit]
  cases rest with
  | nil => rfl
  | cons c rest => simpa [NoDigit] using hall c (h c rfl)

theorem readWhole?_append (h : IsWhole whole) (hrest : NoDigit rest) :
    readWhole? (whole ++ rest) = some (whole, rest) := by
  obtain rfl | ⟨hne, hdigits, hhead⟩ := h
  · rfl
  · obtain ⟨htake, hdrop⟩ := takeWhile_digits hdigits hrest
    obtain ⟨c, whole, rfl⟩ := List.exists_cons_of_ne_nil hne
    have hc : c ≠ '0' := by simpa using hhead
    rw [List.cons_append] at htake hdrop ⊢
    rw [readWhole?]
    · rw [htake, hdrop]
      rfl
    · exact fun _ heq => hc (List.cons.inj heq).1

theorem readFraction?_append (h : AreDigits fraction) (hdigit : NoDigit rest)
    (hpoint : '.' ∉ rest.head?) :
    readFraction? (Numeral.fractionText fraction ++ rest) = some (fraction, rest) := by
  unfold Numeral.fractionText
  by_cases hne : fraction = []
  · rw [if_pos hne, hne, List.nil_append, readFraction?]
    rintro rest rfl
    exact hpoint rfl
  · obtain ⟨htake, hdrop⟩ := takeWhile_digits h hdigit
    rw [if_neg hne, List.cons_append, readFraction?, htake, hdrop]
    simp [hne]

theorem readExponent?_append {exponent : Option (Bool × Text)}
    (h : ∀ e ∈ exponent, e.2 ≠ [] ∧ AreDigits e.2) (hrest : AtEnd rest) :
    readExponent? (Numeral.exponentText exponent ++ rest) =
      some (Numeral.shift? exponent, rest) := by
  cases exponent with
  | none =>
      cases rest with
      | nil => rfl
      | cons c rest =>
          have hall : ∀ c ∈ [',', ']', '\x7d'], c ≠ 'e' ∧ c ≠ 'E' := by simp
          have hmark := hall c (hrest c rfl)
          simp [Numeral.exponentText, Numeral.shift?, readExponent?, hmark]
  | some e =>
      obtain ⟨negative, t⟩ := e
      obtain ⟨hne, hdigits⟩ := h _ rfl
      obtain ⟨htake, hdrop⟩ := takeWhile_digits hdigits hrest.noDigit
      cases negative <;>
        simp [Numeral.exponentText, Numeral.shift?, readExponent?, splitSign, htake, hdrop, hne]

theorem head?_exponentText_append (exponent : Option (Bool × Text)) (hrest : AtEnd rest) :
    ∀ c ∈ (Numeral.exponentText exponent ++ rest).head?, c ∈ ['e', ',', ']', '\x7d'] := by
  cases exponent with
  | none => exact fun c hc => List.mem_cons_of_mem _ (hrest c hc)
  | some e =>
      rintro c ⟨⟩
      exact List.mem_cons_self

/-- A whole part begins with a digit. -/
theorem IsWhole.exists_cons (h : IsWhole whole) :
    ∃ c t, whole = c :: t ∧ isAsciiDigit c = true := by
  obtain rfl | ⟨hne, hdigits, -⟩ := h
  · exact ⟨'0', [], rfl, by decide⟩
  · obtain ⟨c, t, rfl⟩ := List.exists_cons_of_ne_nil hne
    exact ⟨c, t, rfl, hdigits c List.mem_cons_self⟩

theorem IsWhole.areDigits (h : IsWhole whole) : AreDigits whole := by
  obtain rfl | ⟨-, hdigits, -⟩ := h
  · exact areDigits_zeros 1
  · exact hdigits

/-- The sign of a number is read, and then its other parts. -/
theorem readNumber?_sign (negative : Bool) (h : IsWhole whole) (t : Text) :
    readNumber? ((if negative then ['-'] else []) ++ (whole ++ t)) = (do
      let (whole, rest) ← readWhole? (whole ++ t)
      let (fraction, rest) ← readFraction? rest
      let (exponent, rest) ← readExponent? rest
      let n := signed negative (digitsValue whole)
      if fraction.isEmpty && exponent.isNone && isWord n then return (.int n, rest)
      else
        let v ← finite? (.ofDecimal negative (digitsValue (whole ++ fraction))
          (exponent.getD 0 - fraction.length))
        return (v, rest)) := by
  obtain ⟨c, u, rfl, hc⟩ := h.exists_cons
  cases negative with
  | true => rfl
  | false =>
      have hminus : c ≠ '-' := by
        rintro rfl
        exact absurd hc (by decide)
      change readNumber? (c :: (u ++ t)) = _
      unfold readNumber?
      split
      rename_i heq
      split at heq
      · rename_i hcons
        exact absurd (List.cons.inj hcons).1 hminus
      · cases heq
        rfl

/-- A number is read, also when something follows that can follow a value. -/
theorem readNumber?_text {n : Numeral} (h : n.Proper) (hrest : AtEnd rest) :
    readNumber? (n.text ++ rest) = some (n.value, rest) := by
  let tail := Numeral.exponentText n.exponent ++ rest
  have hhead : ∀ c ∈ tail.head?, isAsciiDigit c = false ∧ c ≠ '.' := by
    have hall : ∀ c ∈ ['e', ',', ']', '\x7d'], isAsciiDigit c = false ∧ c ≠ '.' := by
      simp [isAsciiDigit]
    exact fun c hc => hall c (head?_exponentText_append n.exponent hrest c hc)
  have htail : NoDigit tail := by
    cases hcases : tail with
    | nil => rfl
    | cons c t => simpa [NoDigit] using (hhead c (by rw [hcases]; rfl)).1
  have hafter : NoDigit (Numeral.fractionText n.fraction ++ tail) := by
    unfold Numeral.fractionText
    split
    · exact htail
    · rfl
  have hfinite : (Binary64.ofDecimal n.negative n.coefficient n.power).isFinite = true :=
    Binary64.isFinite_ofDecimal _ h.inRange
  have htext : n.text ++ rest = (if n.negative then ['-'] else []) ++
      (n.whole ++ (Numeral.fractionText n.fraction ++ tail)) := by
    simp only [Numeral.text, List.append_assoc, tail]
  rw [htext, readNumber?_sign n.negative h.whole, readWhole?_append h.whole hafter]
  change (readFraction? _).bind _ = _
  rw [readFraction?_append h.fraction htail fun hpoint => (hhead _ hpoint).2 rfl]
  change (readExponent? tail).bind _ = _
  rw [readExponent?_append h.exponent hrest]
  have hexponent : (Numeral.shift? n.exponent).isNone = n.exponent.isNone := by
    cases n.exponent <;> rfl
  simp only [Option.bind_some, hexponent, Numeral.value, Numeral.coefficient, Numeral.power]
    at hfinite ⊢
  split
  · rfl
  · simp [finite?, hfinite]

/-! ## Writing -/

variable {d : Decimal}

/-- The text of a sign. -/
def signText (negative : Bool) : Text := if negative then ['-'] else []

theorem arePositive_toDigits (hn : n ≠ 0) : ArePositive (Nat.toDigits 10 n) :=
  ⟨Nat.toDigits_ne_nil, areDigits_toDigits n, head?_toDigits_ne hn⟩

theorem isWhole_toDigits (n : Nat) : IsWhole (Nat.toDigits 10 n) := by
  by_cases hn : n = 0
  · rw [hn]
    exact .inl rfl
  · exact .inr (arePositive_toDigits hn)

/-- An integer of 64 bits is written as a number. -/
theorem exists_numeral_digits {n : Int} (h : isWord n = true) :
    ∃ m : Numeral, m.Proper ∧ m.text = Number.digits n := by
  refine ⟨⟨n < 0, Nat.toDigits 10 n.natAbs, [], none⟩,
    ⟨⟨isWhole_toDigits _, by simp [AreDigits], by simp⟩, ?_⟩, ?_⟩
  · have hsize : n.natAbs ≤ twoTo 64 := by
      have hhalf : twoTo 64 = twoTo 63 * 2 := twoTo_succ 63
      simp only [isWord, Bool.and_eq_true, decide_eq_true_iff] at h
      omega
    have hbound : ((1 : Nat) : ℚ) * 2 ^ (64 : Int) < overflow :=
      value_lt_overflow (by decide) (by decide)
    have hcast : (n.natAbs : ℚ) ≤ 2 ^ 64 := by
      rw [← cast_twoTo]
      exact_mod_cast hsize
    simp only [Numeral.magnitude, Numeral.coefficient, Numeral.power, Numeral.shift?,
      List.append_nil, digitsValue_toDigits, Option.getD_none, List.length_nil, Nat.cast_zero,
      sub_zero, zpow_zero, mul_one]
    rw [Nat.cast_one, one_mul] at hbound
    exact hcast.trans_lt hbound
  · by_cases hn : n < 0 <;>
      simp [Numeral.text, Numeral.fractionText, Numeral.exponentText, Number.digits, hn]

section

variable {e : Int} (negative : Bool) (h : ArePositive t)
include h

/-- Digits behind the point. -/
theorem exists_numeral_behind (he : t.length + e ≤ 0) :
    ∃ n : Numeral, n.Formed ∧ n.magnitude = digitsValue t * 10 ^ e ∧
      n.text = signText negative ++ ("0." ++ List.replicate (-(t.length + e)).toNat '0' ++ t) := by
  let zeros : Text := List.replicate (-(t.length + e)).toNat '0'
  refine ⟨⟨negative, ['0'], zeros ++ t, none⟩,
    ⟨.inl rfl, (areDigits_zeros _).append h.digits, by simp⟩, ?_, ?_⟩
  · have hcoefficient : digitsValue (['0'] ++ (zeros ++ t)) = digitsValue t := by
      rw [show (['0'] : Text) = List.replicate 1 '0' from rfl, digitsValue_zeros_append,
        digitsValue_zeros_append]
    have hpower : (0 : Int) - ((zeros ++ t).length : Nat) = e := by
      simp only [zeros, List.length_append, List.length_replicate]
      omega
    simp only [Numeral.magnitude, Numeral.coefficient, Numeral.power, Numeral.shift?,
      Option.getD_none, hcoefficient, hpower]
  · simp [Numeral.text, Numeral.fractionText, Numeral.exponentText, signText, zeros, h.nonempty]

/-- Digits before the point, with zeros between them and the point. -/
theorem exists_numeral_before (he : 0 ≤ e) :
    ∃ n : Numeral, n.Formed ∧ n.magnitude = digitsValue t * 10 ^ e ∧
      n.text = signText negative ++ (t ++ List.replicate e.toNat '0' ++ ".0") := by
  let zeros : Text := List.replicate e.toNat '0'
  have hhead : (t ++ zeros).head? = t.head? := List.head?_append_of_ne_nil _ h.nonempty
  refine ⟨⟨negative, t ++ zeros, ['0'], none⟩,
    ⟨.inr ⟨by simp [h.nonempty], h.digits.append (areDigits_zeros _), hhead ▸ h.head⟩,
      areDigits_zeros 1, by simp⟩, ?_, ?_⟩
  · have hcoefficient : digitsValue (t ++ zeros ++ ['0']) = digitsValue t * 10 ^ e.toNat * 10 := by
      rw [show (['0'] : Text) = List.replicate 1 '0' from rfl, digitsValue_append_zeros,
        digitsValue_append_zeros, pow_one]
    have hpow : (10 : ℚ) ^ e.toNat = 10 ^ e := by rw [← zpow_natCast, Int.toNat_of_nonneg he]
    simp only [Numeral.magnitude, Numeral.coefficient, Numeral.power, Numeral.shift?,
      Option.getD_none, hcoefficient, List.length_singleton]
    push_cast
    rw [hpow]
    norm_num
    ring
  · simp [Numeral.text, Numeral.fractionText, Numeral.exponentText, signText, zeros]

/-- Digits with the point among them. -/
theorem exists_numeral_around {point : Nat} (hpoint : 0 < point) (hlength : point < t.length)
    (he : (point : Int) = t.length + e) :
    ∃ n : Numeral, n.Formed ∧ n.magnitude = digitsValue t * 10 ^ e ∧
      n.text = signText negative ++ (t.take point ++ "." ++ t.drop point) := by
  have hhead : (t.take point).head? = t.head? := by
    rw [List.head?_take, if_neg (by omega)]
  have hrest : t.drop point ≠ [] := by simpa using hlength
  refine ⟨⟨negative, t.take point, t.drop point, none⟩,
    ⟨.inr ⟨?_, fun c hc => h.digits c (List.mem_of_mem_take hc), hhead ▸ h.head⟩,
      fun c hc => h.digits c (List.mem_of_mem_drop hc), by simp⟩, ?_, ?_⟩
  · simp [h.nonempty, hpoint.ne']
  · have hpower : (0 : Int) - ((t.drop point).length : Nat) = e := by
      rw [List.length_drop]
      omega
    simp only [Numeral.magnitude, Numeral.coefficient, Numeral.power, Numeral.shift?,
      Option.getD_none, List.take_append_drop, hpower]
  · simp [Numeral.text, Numeral.fractionText, Numeral.exponentText, signText, hrest]

/-- Digits around the point. -/
theorem exists_numeral_positional :
    ∃ n : Numeral, n.Formed ∧ n.magnitude = digitsValue t * 10 ^ e ∧
      n.text = signText negative ++ Layout.positional t (t.length + e) := by
  unfold Layout.positional
  by_cases hbehind : t.length + e ≤ 0
  · rw [if_pos hbehind]
    exact exists_numeral_behind negative h hbehind
  · rw [if_neg hbehind]
    by_cases hbefore : t.length ≤ (t.length + e).toNat
    · rw [if_pos hbefore, show (t.length + e).toNat - t.length = e.toNat by omega]
      exact exists_numeral_before negative h (by omega)
    · rw [if_neg hbefore]
      exact exists_numeral_around negative h (by omega) (by omega) (by omega)

/-- Digits with an exponent. -/
theorem exists_numeral_scientific (layout : Layout) :
    ∃ n : Numeral, n.Formed ∧ n.magnitude = digitsValue t * 10 ^ e ∧
      n.text = signText negative ++ layout.scientific t (t.length + e) := by
  obtain ⟨c, u, rfl⟩ := List.exists_cons_of_ne_nil h.nonempty
  have hdigits := List.forall_mem_cons.1 h.digits
  let shift : Int := u.length + e
  let exponent := Layout.padZeros layout.exponentWidth (Nat.toDigits 10 shift.natAbs)
  refine ⟨⟨negative, [c], u, some (shift < 0, exponent)⟩,
    ⟨.inr ⟨by simp, by simpa [AreDigits] using hdigits.1, h.head⟩, hdigits.2, ?_⟩, ?_, ?_⟩
  · rintro _ ⟨⟩
    refine ⟨?_, (areDigits_zeros _).append (areDigits_toDigits _)⟩
    exact List.append_ne_nil_of_right_ne_nil _ Nat.toDigits_ne_nil
  · have hshift : signed (shift < 0) (digitsValue exponent) = shift := by
      rw [show digitsValue exponent = shift.natAbs from
        (digitsValue_zeros_append _ _).trans (digitsValue_toDigits _)]
      by_cases hneg : shift < 0
      · simp only [signed, hneg, decide_true, if_true]
        omega
      · simp only [signed, hneg, decide_false, Bool.false_eq_true, if_false]
        omega
    have hpower : shift - (u.length : Nat) = e := by omega
    simp only [Numeral.magnitude, Numeral.coefficient, Numeral.power, Numeral.shift?,
      Option.getD_some, hshift, hpower, List.singleton_append]
  · have hpoint : ((c :: u).length : Int) + e - 1 = shift := by
      simp only [List.length_cons, shift]
      omega
    have hmark : (if shift < 0 then "e-" else "e+").toList =
        ['e', if shift < 0 then '-' else '+'] := by
      split <;> rfl
    unfold Layout.scientific
    extract_lets mantissa power
    have hmantissa : mantissa = c :: Numeral.fractionText u := by cases u <;> rfl
    rw [show power = shift from hpoint, hmark, hmantissa]
    simp [Numeral.text, Numeral.exponentText, signText, exponent]

end

/-- A decimal is written as a number. -/
theorem exists_numeral_decimal (layout : Layout) (negative : Bool) (hd : d.digits ≠ 0) :
    ∃ n : Numeral, n.Formed ∧ n.magnitude = d.value ∧
      n.text = signText negative ++ layout.decimal d := by
  have hpositive := arePositive_toDigits hd
  have hvalue : d.value = digitsValue (Nat.toDigits 10 d.digits) * 10 ^ d.exponent := by
    rw [digitsValue_toDigits, Decimal.value]
  unfold Layout.decimal
  rw [hvalue]
  extract_lets digits point
  split
  · exact exists_numeral_positional negative hpositive
  · exact exists_numeral_scientific negative hpositive layout

/-- A finite number of 64 bits is written as a number. -/
theorem exists_numeral_render (layout : Layout) {negative : Bool} {m : Nat} {q : Int}
    (h : (Binary64.finite negative m q).Fits) :
    ∃ n : Numeral, n.Proper ∧ n.text = layout.render (.finite negative m q) := by
  obtain ⟨hbits, hleast, hgreatest⟩ := h
  have htext : layout.render (.finite negative m q) =
      signText negative ++ (if m = 0 then ("0.0" : Text) else layout.decimal (shortest m q)) := rfl
  rw [htext]
  by_cases hm : m = 0
  · refine ⟨⟨negative, ['0'], ['0'], none⟩, ⟨⟨.inl rfl, areDigits_zeros 1, by simp⟩, ?_⟩, ?_⟩
    · have hzero : digitsValue ['0', '0'] = 0 := by decide
      have hbound : ((0 : Nat) : ℚ) * 2 ^ (0 : Int) < overflow :=
        value_lt_overflow (by decide) (by decide)
      simpa [Numeral.magnitude, Numeral.coefficient, hzero] using hbound
    · simp [Numeral.text, Numeral.fractionText, Numeral.exponentText, signText, hm]
  · obtain ⟨hpos, hrange⟩ := shortest_bounds (Nat.pos_of_ne_zero hm) hbits hleast hgreatest
    have hdigits : (shortest m q).digits ≠ 0 := by
      intro hzero
      rw [Decimal.value, hzero, Nat.cast_zero, zero_mul] at hpos
      exact lt_irrefl _ hpos
    obtain ⟨n, hformed, hmagnitude, htext⟩ := exists_numeral_decimal layout negative hdigits
    rw [if_neg hm]
    exact ⟨n, ⟨hformed, hmagnitude ▸ hrange⟩, htext⟩

end Json
end Stencil
