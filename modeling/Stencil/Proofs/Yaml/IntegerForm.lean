import Stencil.Proofs.Number.Reading
import Stencil.Proofs.Outcome
import Stencil.Proofs.Text.Occurrence
import Stencil.Proofs.Text.Splitting
import Stencil.Yaml.ScalarValue

/-!
# Scalars in the form of an integer

A scalar in the form of an integer is read as one, but for two reasons.  Only low lines stand after
the mark of its base, which the form takes for digits; or there are too many decimal digits.

Main results:

- Theorem `integerForm_of_isIntegerForm`: the four forms of an integer.
- Theorems `readBase_of_digitsOf` and `readBase_ten`: reading digits in a base.
- Theorem `readInteger_eq_error_iff`: which scalars in the form of an integer raise an exception.
-/

namespace Stencil
namespace Yaml

open Number (isAsciiDigit digitLimit IsVisible)

variable {t digits : Text} {c : Char} {base : Nat} {e : Raised}

/-! ## Signs -/

/-- A text begins with one sign or none. -/
theorem dropSign_cases (t : Text) :
    t = '+' :: dropSign t ∨ t = '-' :: dropSign t ∨
      t = dropSign t ∧ t.head? ≠ some '+' ∧ t.head? ≠ some '-' := by
  unfold dropSign
  split
  · exact .inl rfl
  · exact .inr (.inl rfl)
  · rename_i hplus hminus
    refine .inr (.inr ⟨rfl, fun hhead => ?_, fun hhead => ?_⟩)
    · obtain ⟨rest, rfl⟩ := List.head?_eq_some_iff.1 hhead
      exact hplus rest rfl
    · obtain ⟨rest, rfl⟩ := List.head?_eq_some_iff.1 hhead
      exact hminus rest rfl

/-- The text without low lines. -/
def dropLines (t : Text) : Text := t.filter (· ≠ '_')

@[simp]
theorem dropLines_cons_of_ne (h : c ≠ '_') (t : Text) : dropLines (c :: t) = c :: dropLines t := by
  simp [dropLines, h]

/-- Only low lines are dropped. -/
theorem mem_dropLines : c ∈ dropLines t ↔ c ∈ t ∧ c ≠ '_' := by
  simp [dropLines]

/-- An integer is read by its magnitude, whatever its sign. -/
theorem exists_readInteger_eq (hhead : (dropSign t).head?.any isAsciiDigit = true) :
    ∃ sign : Int → Int,
      readInteger t = (readMagnitude (dropLines (dropSign t))).map fun n => .int (sign n) := by
  obtain ht | ht | ⟨ht, -, -⟩ := dropSign_cases t
  · have hfilter : t.filter (· ≠ '_') = '+' :: dropLines (dropSign t) := by
      rw [ht]
      rfl
    exact ⟨id, by rw [readInteger, hfilter]; rfl⟩
  · have hfilter : t.filter (· ≠ '_') = '-' :: dropLines (dropSign t) := by
      rw [ht]
      rfl
    exact ⟨Neg.neg, by rw [readInteger, hfilter]; rfl⟩
  · rw [← ht] at hhead ⊢
    obtain ⟨c, rest, rfl⟩ : ∃ c rest, t = c :: rest := by
      cases t with
      | nil => cases hhead
      | cons c rest => exact ⟨c, rest, rfl⟩
    have hdigit : isAsciiDigit c = true := by simpa using hhead
    have hc : c ≠ '+' ∧ c ≠ '-' ∧ c ≠ '_' := by
      have hall : ∀ c ∈ ("0123456789" : Text), c ≠ '+' ∧ c ≠ '-' ∧ c ≠ '_' :=
        List.all_iff_forall_prop.1 (by decide)
      exact hall c (Number.mem_digits_of_isAsciiDigit hdigit)
    refine ⟨id, ?_⟩
    unfold readInteger
    rw [← dropLines, dropLines_cons_of_ne hc.2.2]
    split
    · rename_i heq
      exact absurd (List.cons.inj heq).1 hc.2.1
    · rename_i heq
      exact absurd (List.cons.inj heq).1 hc.1
    · rfl

/-! ## Integers in another base -/

/-- The digits of base two, eight and sixteen. -/
def digitsOf (base : Nat) : Text :=
  if base = 2 then "01" else if base = 8 then "01234567" else "0123456789abcdefABCDEF"

/-- What the digits of a base are: they can be seen, have a value, and belong to no sign or mark. -/
structure IsBaseDigit (base : Nat) (c : Char) : Prop where
  visible : IsVisible c
  ascii : asciiDigit c = c
  value : (baseDigit? base c).isSome = true
  unsigned : c ≠ '+' ∧ c ≠ '-'
  unmarked : c.toLower ≠ (if base = 2 then 'b' else if base = 8 then 'o' else 'x')

/-- The digits of a base are visible and no signs, and have a value in it. -/
theorem isBaseDigit_of_mem (hbase : base ∈ [2, 8, 16]) (hc : c ∈ digitsOf base) :
    IsBaseDigit base c := by
  have hall : ∀ base ∈ [2, 8, 16], (digitsOf base).all fun c =>
      IsVisible c ∧ asciiDigit c = c ∧ (baseDigit? base c).isSome = true ∧ (c ≠ '+' ∧ c ≠ '-') ∧
        c.toLower ≠ (if base = 2 then 'b' else if base = 8 then 'o' else 'x') := by
    decide +kernel
  obtain ⟨hvisible, hascii, hvalue, hsign, hmark⟩ :=
    List.all_iff_forall_prop.1 (hall base hbase) c hc
  exact ⟨hvisible, hascii, hvalue, hsign, hmark⟩

/-- A text that begins with no sign has none. -/
theorem splitSign_of_head (h : t.head? ≠ some '+' ∧ t.head? ≠ some '-') :
    Number.splitSign t = (false, t) := by
  unfold Number.splitSign
  split
  · exact absurd rfl h.2
  · exact absurd rfl h.1
  · rfl

/-- Digits have no mark of their base in front. -/
theorem dropBaseMark_of_forall
    (h : ∀ c ∈ t, c.toLower ≠ (if base = 2 then 'b' else if base = 8 then 'o' else 'x')) :
    dropBaseMark base t = t := by
  have hmark : ∀ (mark : Text) (last : Char), mark = ['0', last] → (∀ c ∈ t, c.toLower ≠ last) →
      Text.after? mark (Number.lowerAscii (t.take 2)) = none := by
    rintro mark last rfl hlast
    rw [Text.after?_eq_none_iff]
    rintro ⟨rest, heq⟩
    have hmem : last ∈ Number.lowerAscii (t.take 2) := by
      rw [← heq]
      simp
    obtain ⟨c, hc, hlower⟩ := List.mem_map.1 hmem
    exact hlast c (List.mem_of_mem_take hc) hlower
  unfold dropBaseMark
  dsimp only
  split at h <;> rename_i hbase
  · rw [if_pos hbase, hmark "0b" 'b' rfl h]
  · split at h <;> rename_i hbase'
    · rw [if_neg hbase, if_pos hbase', hmark "0o" 'o' rfl h]
    · rw [if_neg hbase, if_neg hbase', hmark "0x" 'x' rfl h]

theorem isSome_mapM {α β : Type} {f : α → Option β} {xs : List α}
    (h : ∀ x ∈ xs, (f x).isSome = true) : (xs.mapM f).isSome = true := by
  induction xs with
  | nil => rfl
  | cons x xs ih =>
      obtain ⟨hx, hxs⟩ := List.forall_mem_cons.1 h
      obtain ⟨y, hy⟩ := Option.isSome_iff_exists.1 hx
      obtain ⟨ys, hys⟩ := Option.isSome_iff_exists.1 (ih hxs)
      rw [List.mapM_cons, hy, hys]
      rfl

/-- In a base digits are read; without a digit there is no number. -/
theorem readBase_of_digitsOf (hbase : base ∈ [2, 8, 16]) (h : ∀ c ∈ t, c ∈ digitsOf base) :
    (t = [] → readBase base t = .error (.raised (.ofInteger (.noNumeral base [])))) ∧
      (t ≠ [] → ∃ n, readBase base t = .ok n) := by
  have hdigit : ∀ c ∈ t, IsBaseDigit base c := fun c hc => isBaseDigit_of_mem hbase (h c hc)
  have htrim : Text.trimBoth Text.isSpacing t = t :=
    Number.trimBoth_of_isVisible fun c hc => (hdigit c hc).visible
  have hsign : Number.splitSign t = (false, t) := by
    refine splitSign_of_head ⟨fun hhead => ?_, fun hhead => ?_⟩
    · exact (hdigit _ (List.mem_of_mem_head? hhead)).unsigned.1 rfl
    · exact (hdigit _ (List.mem_of_mem_head? hhead)).unsigned.2 rfl
  have hten : base ≠ 10 := by
    rintro rfl
    simp at hbase
  have hmap : t.map asciiDigit = t :=
    (List.map_congr_left fun c hc => (hdigit c hc).ascii).trans (List.map_id t)
  have hmark : dropBaseMark base t = t := dropBaseMark_of_forall fun c hc => (hdigit c hc).unmarked
  unfold readBase readDigits?
  rw [htrim, hsign]
  simp only [hten, if_false, hmap, hmark]
  constructor
  · rintro rfl
    rfl
  · intro hne
    obtain ⟨values, hvalues⟩ := Option.isSome_iff_exists.1
      (isSome_mapM fun c hc => (hdigit c hc).value)
    rw [hvalues]
    simp [hne]

/-! ## Decimal integers -/

/-- Decimal digits are read, unless they are too many. -/
theorem readBase_ten (hne : t ≠ []) (h : ∀ c ∈ t, isAsciiDigit c = true) :
    (digitLimit < t.length →
        readBase 10 t = .error (.raised (.ofInteger (.tooLongToRead t.length)))) ∧
      (t.length ≤ digitLimit → ∃ n, readBase 10 t = .ok n) := by
  have htrim : Text.trimBoth Text.isSpacing t = t :=
    Number.trimBoth_of_isVisible fun c hc => Number.isVisible_of_isAsciiDigit (h c hc)
  have hsign : Number.splitSign t = (false, t) := by
    refine splitSign_of_head ⟨fun hhead => ?_, fun hhead => ?_⟩
    · exact absurd (h _ (List.mem_of_mem_head? hhead)) (by decide)
    · exact absurd (h _ (List.mem_of_mem_head? hhead)) (by decide)
  unfold readBase
  rw [htrim, hsign]
  simp only [if_true,
    Number.readNatural_of_isDecimal hne fun c hc => Number.isDecimal_of_isAsciiDigit (h c hc)]
  constructor
  · intro hlong
    rw [if_pos hlong]
  · intro hshort
    rw [if_neg (Nat.not_lt.2 hshort)]
    exact ⟨_, rfl⟩

/-! ## Forms of integers -/

/-- The forms of integers without a sign: binary, hexadecimal, octal, and decimal or in sixties. -/
inductive IntegerForm : Text → Prop where
  | binary {bits : Text} (hne : bits ≠ []) (h : ∀ c ∈ bits, c = '_' ∨ c ∈ digitsOf 2) :
      IntegerForm ('0' :: 'b' :: bits)
  | hexadecimal {digits : Text} (hne : digits ≠ []) (h : ∀ c ∈ digits, c = '_' ∨ c ∈ digitsOf 16) :
      IntegerForm ('0' :: 'x' :: digits)
  | octal {digits : Text} (h : ∀ c ∈ digits, c = '_' ∨ c ∈ digitsOf 8) : IntegerForm ('0' :: digits)
  | decimal {t first : Text} {sixtieths : List Text} (hhead : t.head? ≠ some '0')
      (hsplit : Text.split ':' t = first :: sixtieths) (hfirst : isDigits first = true)
      (hsixtieths : ∀ s ∈ sixtieths, isSixtieth s = true) : IntegerForm t

theorem isSome_iff {p : Char → Bool} : isSome p t = true ↔ t ≠ [] ∧ ∀ c ∈ t, p c = true := by
  simp [isSome]

theorem integerForm_of_isIntegerForm (h : isIntegerForm t = true) : IntegerForm (dropSign t) := by
  unfold isIntegerForm at h
  split at h
  · rename_i bits ht
    rw [ht]
    obtain ⟨hne, hbits⟩ := isSome_iff.1 h
    refine .binary hne fun c hc => ?_
    have hbit : (c = '0' ∨ c = '1') ∨ c = '_' := by simpa using hbits c hc
    rcases hbit with (rfl | rfl) | rfl
    · exact .inr (by decide)
    · exact .inr (by decide)
    · exact .inl rfl
  · rename_i digits ht
    rw [ht]
    obtain ⟨hne, hdigits⟩ := isSome_iff.1 h
    refine .hexadecimal hne fun c hc => ?_
    have hdigit : (c = '_' ∨ isAsciiDigit c = true) ∨ c ∈ ("abcdefABCDEF" : Text) := by
      simpa [isDigitOrLine, isOneOf] using hdigits c hc
    rcases hdigit with (hline | hdigit) | hletter
    · exact .inl hline
    · exact .inr (List.mem_append_left "abcdefABCDEF".toList
        (Number.mem_digits_of_isAsciiDigit hdigit))
    · exact .inr (List.mem_append_right "0123456789".toList hletter)
  · rename_i digits _ _ ht
    rw [ht]
    refine .octal fun c hc => ?_
    have hdigit : c = '_' ∨ '0' ≤ c ∧ c ≤ '7' := by simpa using List.all_eq_true.1 h c hc
    refine hdigit.imp_right fun ⟨hlow, hhigh⟩ => ?_
    have hall : ∀ c ∈ ("0123456789" : Text), c ≤ '7' → c ∈ digitsOf 8 :=
      List.all_iff_forall_prop.1 (by decide)
    have hnine : c ≤ '9' := Char.le_trans hhigh (by decide)
    exact hall c (Number.mem_digits_of_isAsciiDigit (by simp [isAsciiDigit, hlow, hnine])) hhigh
  · rename_i hzero
    have hhead : (dropSign t).head? ≠ some '0' := by
      intro hhead
      obtain ⟨rest, hrest⟩ := List.head?_eq_some_iff.1 hhead
      exact hzero rest hrest
    split at h
    · cases h
    · rename_i first sixtieths hsplit
      rw [Bool.and_eq_true, List.all_eq_true] at h
      exact .decimal hhead hsplit h.1 h.2

/-! ## Reading integers -/

/-- A sixtieth has one or two digits. -/
theorem isSixtieth_digits {s : Text} (h : isSixtieth s = true) :
    s ≠ [] ∧ s.length ≤ 2 ∧ ∀ c ∈ s, isAsciiDigit c = true := by
  unfold isSixtieth at h
  split at h
  · simpa using h
  · rename_i tens d
    simp only [Bool.and_eq_true, decide_eq_true_eq] at h
    obtain ⟨⟨hlow, hhigh⟩, hd⟩ := h
    have htens : isAsciiDigit tens = true := by
      simp [isAsciiDigit, hlow, Char.le_trans hhigh (show '5' ≤ '9' by decide)]
    simp [hd, htens]
  · cases h

/-- Digits begin with a digit and may have low lines after it. -/
theorem exists_of_isDigits (h : isDigits t = true) :
    ∃ d rest, t = d :: rest ∧ isAsciiDigit d = true ∧
      ∀ c ∈ rest, c = '_' ∨ isAsciiDigit c = true := by
  cases t with
  | nil => cases h
  | cons d rest =>
      refine ⟨d, rest, rfl, ?_⟩
      simpa [isDigits, isDigitOrLine] using h

/-- Without low lines, digits are digits. -/
theorem dropLines_digits (h : isDigits t = true) :
    dropLines t ≠ [] ∧ ∀ c ∈ dropLines t, isAsciiDigit c = true := by
  obtain ⟨d, rest, rfl, hd, hrest⟩ := exists_of_isDigits h
  have hline : d ≠ '_' := by
    rintro rfl
    exact absurd hd (by decide)
  constructor
  · simp [hline]
  · intro c hc
    obtain ⟨hmem, hne⟩ := mem_dropLines.1 hc
    rcases List.mem_cons.1 hmem with rfl | hmem
    · exact hd
    · exact (hrest c hmem).resolve_left hne

/-- Where there are no low lines, nothing is dropped. -/
theorem dropLines_of_not_mem (h : '_' ∉ t) : dropLines t = t :=
  List.filter_eq_self.2 fun _ hc => decide_eq_true fun heq => h (heq ▸ hc)

/-- Dropping low lines does not meddle with colons. -/
theorem split_dropLines (t : Text) :
    Text.split ':' (dropLines t) = (Text.split ':' t).map dropLines := by
  induction t with
  | nil => rfl
  | cons c t ih =>
      obtain ⟨piece, pieces, ht⟩ := List.exists_cons_of_ne_nil (Text.split_ne_nil ':' t)
      rw [ht, List.map_cons] at ih
      by_cases hcolon : c = ':'
      · subst hcolon
        rw [dropLines_cons_of_ne (by decide), Text.split_cons_self, Text.split_cons_self, ih, ht]
        rfl
      · rw [Text.split_cons_of_ne hcolon ht, List.map_cons]
        by_cases hline : c = '_'
        · subst hline
          exact ih
        · rw [dropLines_cons_of_ne hline, dropLines_cons_of_ne hline,
            Text.split_cons_of_ne hcolon ih]

/-- A decimal integer is read from its parts, of which there may be one only. -/
theorem readMagnitude_decimal (hhead : t.head?.any isAsciiDigit = true)
    (hzero : t.head? ≠ some '0') :
    readMagnitude t = ((Text.split ':' t).mapM (readBase 10)).map ofSixtieths := by
  have hne : t ≠ [] := by
    rintro rfl
    cases hhead
  unfold readMagnitude
  split
  · exact absurd rfl hne
  · exact absurd rfl hzero
  · exact absurd rfl hzero
  · exact absurd rfl hzero
  · exact absurd rfl hzero
  · split
    · rfl
    · rename_i hcolon
      have hsplit : Text.split ':' t = [t] := Text.split_of_not_mem (by simpa using hcolon)
      rw [hsplit, List.mapM_cons, List.mapM_nil]
      cases readBase 10 t with
      | error fault => rfl
      | ok n => simp [bind, Except.bind, pure, Except.pure, Except.map, ofSixtieths]

/-- What is wrong with a text in the form of an integer: there is no digit after the mark of its
base, or there are too many decimal digits in front of the first colon. -/
inductive UnreadInteger (t : Text) : Raised → Prop where
  | bareMark {mark : Char} {base : Nat} {lines : Text}
      (hmark : mark = 'b' ∧ base = 2 ∨ mark = 'x' ∧ base = 16)
      (ht : dropSign t = '0' :: mark :: lines) (hlines : ∀ c ∈ lines, c = '_') :
      UnreadInteger t (.ofInteger (.noNumeral base []))
  | overlong {first : Text} {sixtieths : List Text} (hhead : (dropSign t).head? ≠ some '0')
      (hsplit : Text.split ':' (dropSign t) = first :: sixtieths)
      (h : digitLimit < (dropLines first).length) :
      UnreadInteger t (.ofInteger (.tooLongToRead (dropLines first).length))

theorem dropLines_eq_nil_iff : dropLines t = [] ↔ ∀ c ∈ t, c = '_' := by
  simp [dropLines, List.filter_eq_nil_iff]

theorem exists_of_split_cons {d : Char} {rest : Text} {pieces : List Text}
    (h : Text.split ':' t = (d :: rest) :: pieces) : ∃ u, t = d :: u := by
  cases t with
  | nil => cases h
  | cons c t =>
      by_cases hc : c = ':'
      · rw [hc, Text.split_cons_self] at h
        cases h
      · obtain ⟨piece, pieces', ht⟩ := List.exists_cons_of_ne_nil (Text.split_ne_nil ':' t)
        rw [Text.split_cons_of_ne hc ht] at h
        cases h
        exact ⟨t, rfl⟩

/-- A decimal integer is read, unless there are too many digits in front of its first colon. -/
theorem readMagnitude_dropLines {first : Text} {sixtieths : List Text} (hhead : t.head? ≠ some '0')
    (hsplit : Text.split ':' t = first :: sixtieths) (hfirst : isDigits first = true)
    (hsixtieths : ∀ s ∈ sixtieths, isSixtieth s = true) :
    (digitLimit < (dropLines first).length → readMagnitude (dropLines t) =
        .error (.raised (.ofInteger (.tooLongToRead (dropLines first).length)))) ∧
      ((dropLines first).length ≤ digitLimit → ∃ n, readMagnitude (dropLines t) = .ok n) := by
  obtain ⟨hne, hdigits⟩ := dropLines_digits hfirst
  have hread : readMagnitude (dropLines t) =
      ((dropLines first :: sixtieths.map dropLines).mapM (readBase 10)).map ofSixtieths := by
    obtain ⟨d, rest, rfl, hd, -⟩ := exists_of_isDigits hfirst
    obtain ⟨u, rfl⟩ := exists_of_split_cons hsplit
    have hline : d ≠ '_' := by
      rintro rfl
      exact absurd hd (by decide)
    have hhead' : (dropLines (d :: u)).head? = some d := by rw [dropLines_cons_of_ne hline]; rfl
    rw [readMagnitude_decimal (by rw [hhead']; exact hd) (by rw [hhead']; exact hhead),
      split_dropLines, hsplit, List.map_cons]
  obtain ⟨hlong, hshort⟩ := readBase_ten hne hdigits
  rw [hread, List.mapM_cons]
  constructor
  · intro h
    rw [Outcome.bind_of_error (hlong h)]
    rfl
  · intro h
    obtain ⟨n, hn⟩ := hshort h
    have hrest : ∀ s ∈ sixtieths.map dropLines, ∃ n, readBase 10 s = .ok n := by
      intro s hs
      obtain ⟨s, hmem, rfl⟩ := List.mem_map.1 hs
      obtain ⟨hne, hlength, hdigits⟩ := isSixtieth_digits (hsixtieths s hmem)
      have hlines : '_' ∉ s := fun hmem => absurd (hdigits _ hmem) (by decide)
      rw [dropLines_of_not_mem hlines]
      exact (readBase_ten hne hdigits).2 (hlength.trans (by decide))
    obtain ⟨ns, hns, -⟩ := Outcome.exists_mapM_eq_ok hrest
    rw [Outcome.bind_of_ok hn, Outcome.bind_of_ok hns]
    exact ⟨_, rfl⟩

/-- An integer form begins with a digit. -/
theorem head_digit_of_integerForm (h : IntegerForm t) : t.head?.any isAsciiDigit = true := by
  cases h with
  | binary => rfl
  | hexadecimal => rfl
  | octal => rfl
  | decimal hhead hsplit hfirst =>
      obtain ⟨d, rest, rfl, hd, -⟩ := exists_of_isDigits hfirst
      obtain ⟨u, rfl⟩ := exists_of_split_cons hsplit
      exact hd

/-- The digits after the mark of a base, without low lines. -/
theorem mem_digitsOf_of_mem_dropLines {base : Nat} (h : ∀ c ∈ t, c = '_' ∨ c ∈ digitsOf base) :
    ∀ c ∈ dropLines t, c ∈ digitsOf base :=
  fun c hc => (h c (mem_dropLines.1 hc).1).resolve_left (mem_dropLines.1 hc).2

/-- Octal digits after a zero are read, and so is a zero alone. -/
theorem readMagnitude_octal (h : ∀ c ∈ t, c ∈ digitsOf 8) :
    ∃ n, readMagnitude ('0' :: t) = .ok n := by
  cases t with
  | nil => exact ⟨0, rfl⟩
  | cons c t =>
      have hall : ∀ c ∈ digitsOf 8, c ≠ 'b' ∧ c ≠ 'x' :=
        List.all_iff_forall_prop.1 (by decide)
      obtain ⟨hb, hx⟩ := hall c (h c List.mem_cons_self)
      have hread : readMagnitude ('0' :: c :: t) = readBase 8 ('0' :: c :: t) := by
        unfold readMagnitude
        split
        · rename_i heq
          cases heq
        · rename_i heq
          cases heq
        · rename_i heq
          cases heq
          exact absurd rfl hb
        · rename_i heq
          cases heq
          exact absurd rfl hx
        · rfl
        · rename_i hother
          exact absurd rfl (hother _)
      rw [hread]
      refine (readBase_of_digitsOf (by decide) fun d hd => ?_).2 (List.cons_ne_nil _ _)
      rcases List.mem_cons.1 hd with rfl | hd
      · decide
      · exact h d hd

/-- The one fault of an integer form is that it has too many digits. -/
theorem unreadInteger_of_error (hform : IntegerForm (dropSign t))
    (h : readMagnitude (dropLines (dropSign t)) = .error (.raised e)) : UnreadInteger t e := by
  generalize hbody : dropSign t = body at hform h
  cases hform with
  | @binary bits hne hbits =>
      have hread : readMagnitude (dropLines ('0' :: 'b' :: bits)) = readBase 2 (dropLines bits) :=
        rfl
      obtain ⟨hbare, hsome⟩ :=
        readBase_of_digitsOf (by decide) (mem_digitsOf_of_mem_dropLines hbits)
      by_cases hnone : dropLines bits = []
      · cases h.symm.trans (hread.trans (hbare hnone))
        exact .bareMark (.inl ⟨rfl, rfl⟩) hbody (dropLines_eq_nil_iff.1 hnone)
      · obtain ⟨n, hn⟩ := hsome hnone
        cases h.symm.trans (hread.trans hn)
  | @hexadecimal digits hne hdigits =>
      have hread : readMagnitude (dropLines ('0' :: 'x' :: digits)) =
          readBase 16 (dropLines digits) := rfl
      obtain ⟨hbare, hsome⟩ :=
        readBase_of_digitsOf (by decide) (mem_digitsOf_of_mem_dropLines hdigits)
      by_cases hnone : dropLines digits = []
      · cases h.symm.trans (hread.trans (hbare hnone))
        exact .bareMark (.inr ⟨rfl, rfl⟩) hbody (dropLines_eq_nil_iff.1 hnone)
      · obtain ⟨n, hn⟩ := hsome hnone
        cases h.symm.trans (hread.trans hn)
  | @octal digits hdigits =>
      obtain ⟨n, hn⟩ := readMagnitude_octal (mem_digitsOf_of_mem_dropLines hdigits)
      cases h.symm.trans ((congrArg readMagnitude (dropLines_cons_of_ne (by decide) _)).trans hn)
  | decimal hhead hsplit hfirst hsixtieths =>
      obtain ⟨hlong, hshort⟩ := readMagnitude_dropLines hhead hsplit hfirst hsixtieths
      rcases Nat.lt_or_ge digitLimit _ with hlimit | hlimit
      · cases h.symm.trans (hlong hlimit)
        exact .overlong (hbody ▸ hhead) (hbody ▸ hsplit) hlimit
      · obtain ⟨n, hn⟩ := hshort hlimit
        cases h.symm.trans hn

/-- What has the form of an integer is read as one, unless its digits are missing or too many. -/
theorem readInteger_eq_error_iff (hform : isIntegerForm t = true) :
    readInteger t = .error (.raised e) ↔ UnreadInteger t e := by
  have hinteger := integerForm_of_isIntegerForm hform
  obtain ⟨sign, hread⟩ := exists_readInteger_eq (head_digit_of_integerForm hinteger)
  rw [hread, Outcome.map_eq_error_iff]
  refine ⟨unreadInteger_of_error hinteger, fun hunread => ?_⟩
  cases hunread with
  | @bareMark mark base lines hmark ht hlines =>
      have hnone := dropLines_eq_nil_iff.2 hlines
      rcases hmark with ⟨rfl, rfl⟩ | ⟨rfl, rfl⟩
      · rw [ht, dropLines_cons_of_ne (by decide), dropLines_cons_of_ne (by decide), hnone]
        rfl
      · rw [ht, dropLines_cons_of_ne (by decide), dropLines_cons_of_ne (by decide), hnone]
        rfl
  | overlong hhead hsplit hlong =>
      generalize dropSign t = body at hinteger hhead hsplit
      cases hinteger with
      | binary => exact absurd rfl hhead
      | hexadecimal => exact absurd rfl hhead
      | octal => exact absurd rfl hhead
      | decimal hhead hsplit' hfirst hsixtieths =>
          obtain ⟨rfl, rfl⟩ := List.cons.inj (hsplit.symm.trans hsplit')
          exact (readMagnitude_dropLines hhead hsplit hfirst hsixtieths).1 hlong

end Yaml
end Stencil
