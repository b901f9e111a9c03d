import Mathlib.Algebra.Order.Field.Power
import Mathlib.Data.Rat.Cast.Order
import Mathlib.Tactic.GCongr
import Mathlib.Tactic.Linarith
import Mathlib.Tactic.LinearCombination
import Mathlib.Tactic.NormNum
import Mathlib.Tactic.Positivity
import Mathlib.Tactic.Ring
import Stencil.Number.Binary64

/-!
# The range of floating-point numbers

A number of 64 bits has a mantissa below `2 ^ 53` and an exponent within fixed limits.  What is
rounded becomes such a number, and it becomes an infinite one only from half a step above the
greatest finite number on.

Main results:

- Predicate `Binary64.Fits`: the numbers of 64 bits.
- Theorem `roundingExponent_spec`: with which exponent a ratio is rounded.
- Theorem `fits_ofRatio`: rounding gives a number of 64 bits.
- Theorem `isFinite_ofDecimal`: the decimals below the overflow are read as finite numbers.
-/

namespace Stencil
namespace Number

/-- Half a step above the greatest finite number.  From here on numbers are rounded to infinity. -/
def overflow : ℚ := (2 ^ 54 - 1) * 2 ^ (Binary64.greatestExponent - 1)

variable {m n num den k : Nat} {e : Int}

@[simp]
theorem cast_twoTo (n : Nat) : ((twoTo n : Nat) : ℚ) = 2 ^ n := Nat.cast_pow 2 n

@[simp]
theorem cast_tenTo (n : Nat) : ((tenTo n : Nat) : ℚ) = 10 ^ n := Nat.cast_pow 10 n

/-- A power with an integer exponent is the ratio of two powers. -/
theorem zpow_mul_pow_neg {base : ℚ} (hbase : base ≠ 0) (e : Int) :
    base ^ e * base ^ (-e).toNat = base ^ e.toNat := by
  rw [← zpow_natCast, ← zpow_natCast, ← zpow_add₀ hbase]
  congr 1
  omega

namespace Binary64

/-- A number that 64 bits hold. -/
def Fits : Binary64 → Prop
  | .finite _ mantissa exponent =>
    mantissa < twoTo 53 ∧ leastExponent ≤ exponent ∧ exponent ≤ greatestExponent
  | _ => True

instance : DecidablePred Fits
  | .nan => inferInstanceAs (Decidable True)
  | .infinite _ => inferInstanceAs (Decidable True)
  | .finite _ mantissa exponent => inferInstanceAs (Decidable (mantissa < twoTo 53 ∧
      leastExponent ≤ exponent ∧ exponent ≤ greatestExponent))

/-! ## The parts of a rounded number -/

/-- A ratio less than half a step above a whole number is not rounded beyond it. -/
theorem roundDiv_le (h : 2 * num < (2 * k + 1) * den) : roundDiv num den ≤ k := by
  have hsplit : den * (num / den) + num % den = num := Nat.div_add_mod num den
  have hbound : (2 * k + 1) * den = 2 * (den * k) + den := by ring
  have hwhole : num / den ≤ k := by
    by_contra hgt
    have hle : den * (k + 1) ≤ den * (num / den) := Nat.mul_le_mul_left den (by omega)
    rw [Nat.mul_succ] at hle
    omega
  unfold roundDiv
  by_cases hup : 2 * (num % den) < den
  · simp only [hup, if_true]
    exact hwhole
  · -- From half a step on the whole part itself is below `k`.
    have hne : num / den ≠ k := by
      intro heq
      rw [heq] at hsplit
      omega
    simp only [hup, if_false]
    split <;> omega

/-- A ratio is compared on the scale of a power of two like everywhere. -/
theorem scaleDown_lt_iff (hden : 0 < den) (e : Int) (a b : Nat) :
    a * (scaleDown num den e).1 < b * (scaleDown num den e).2 ↔
      (a : ℚ) * num < b * 2 ^ e * den := by
  have hpos : (0 : ℚ) < den := by exact_mod_cast hden
  unfold scaleDown
  rw [← Nat.cast_lt (α := ℚ)]
  by_cases he : 0 ≤ e
  · have hpow : (2 : ℚ) ^ e = 2 ^ e.toNat := by rw [← zpow_natCast, Int.toNat_of_nonneg he]
    simp only [he, if_true]
    push_cast [cast_twoTo]
    rw [hpow, mul_comm (den : ℚ), mul_assoc]
  · have hpow : (2 : ℚ) ^ e * 2 ^ (-e).toNat = 1 := by
      rw [zpow_mul_pow_neg (by norm_num), Int.toNat_of_nonpos (by omega), pow_zero]
    have hscale : (b : ℚ) * den = b * 2 ^ e * den * 2 ^ (-e).toNat := by
      linear_combination -(b : ℚ) * den * hpow
    simp only [he, if_false]
    push_cast [cast_twoTo]
    rw [hscale, ← mul_assoc, mul_lt_mul_iff_of_pos_right (by positivity)]

/-- How large a ratio is, by the logarithms of its parts. -/
theorem ratio_bounds (hnum : num ≠ 0) (hden : den ≠ 0) :
    (2 : ℚ) ^ ((num.log2 : Int) - den.log2 - 1) * den < num ∧
      (num : ℚ) < 2 ^ ((num.log2 : Int) - den.log2 + 1) * den := by
  have htwo : (2 : ℚ) ≠ 0 := by norm_num
  have hnum_le : (2 : ℚ) ^ num.log2 ≤ num := by exact_mod_cast Nat.log2_self_le hnum
  have hnum_lt : (num : ℚ) < 2 ^ (num.log2 + 1) := by exact_mod_cast Nat.lt_log2_self
  have hden_le : (2 : ℚ) ^ den.log2 ≤ den := by exact_mod_cast Nat.log2_self_le hden
  have hden_lt : (den : ℚ) < 2 ^ (den.log2 + 1) := by exact_mod_cast Nat.lt_log2_self
  constructor
  · calc (2 : ℚ) ^ ((num.log2 : Int) - den.log2 - 1) * den
        < 2 ^ ((num.log2 : Int) - den.log2 - 1) * 2 ^ (den.log2 + 1) := by gcongr
      _ = 2 ^ num.log2 := by
          rw [← zpow_natCast, ← zpow_natCast, ← zpow_add₀ htwo]
          congr 1
          push_cast
          ring
      _ ≤ num := hnum_le
  · calc (num : ℚ) < 2 ^ (num.log2 + 1) := hnum_lt
      _ = 2 ^ ((num.log2 : Int) - den.log2 + 1) * 2 ^ den.log2 := by
          rw [← zpow_natCast, ← zpow_natCast, ← zpow_add₀ htwo]
          congr 1
          push_cast
          ring
      _ ≤ 2 ^ ((num.log2 : Int) - den.log2 + 1) * den := by gcongr

/-- The mantissa has at most 53 bits, and not fewer unless the exponent is the least one. -/
theorem roundingExponent_spec (hnum : num ≠ 0) (hden : den ≠ 0) :
    leastExponent ≤ roundingExponent num den ∧
      (num : ℚ) < 2 ^ (roundingExponent num den + 53) * den ∧
      (roundingExponent num den = leastExponent ∨
        (2 : ℚ) ^ (roundingExponent num den + 52) * den ≤ num) := by
  have htwo : (2 : ℚ) ≠ 0 := by norm_num
  have hpow : ∀ {i j : Int}, i ≤ j → (2 : ℚ) ^ i * den ≤ 2 ^ j * den := by
    intro i j hij
    gcongr
    norm_num
  obtain ⟨hlow, hhigh⟩ := ratio_bounds hnum hden
  unfold roundingExponent
  extract_lets guess scaled
  have hleast : leastExponent ≤ guess := le_max_left _ _
  have hguess : (num.log2 : Int) - den.log2 - 53 ≤ guess := le_max_right _ _
  -- The scaled ratio reaches `2 ^ 53` exactly when the ratio reaches the bound of the guess.
  have hreach : scaled.2 * twoTo 53 ≤ scaled.1 ↔ (2 : ℚ) ^ (guess + 53) * den ≤ num := by
    have hless : 1 * scaled.1 < twoTo 53 * scaled.2 ↔ _ :=
      scaleDown_lt_iff (Nat.pos_of_ne_zero hden) guess 1 (twoTo 53)
    rw [one_mul, Nat.cast_one, one_mul, cast_twoTo, mul_comm (twoTo 53), ← zpow_natCast,
      ← zpow_add₀ htwo, add_comm _ guess] at hless
    rw [← not_lt, ← not_lt]
    exact not_congr hless
  by_cases hbump : scaled.2 * twoTo 53 ≤ scaled.1
  · rw [if_pos hbump]
    refine ⟨by omega, lt_of_lt_of_le hhigh (hpow (by omega)), .inr ?_⟩
    rw [add_assoc]
    exact hreach.1 hbump
  · rw [if_neg hbump]
    refine ⟨hleast, not_le.1 (mt hreach.2 hbump), ?_⟩
    obtain hmax | hmax := max_choice leastExponent ((num.log2 : Int) - den.log2 - 53)
    · exact .inl hmax
    · exact .inr (le_trans (hpow (by omega)) hlow.le)

theorem mantissaAt_le (hden : den ≠ 0) (h : (2 : ℚ) * num < (2 * k + 1) * 2 ^ e * den) :
    mantissaAt num den e ≤ k := by
  refine roundDiv_le ((scaleDown_lt_iff (Nat.pos_of_ne_zero hden) e 2 (2 * k + 1)).2 ?_)
  push_cast
  exact h

/-! ## Rounded numbers -/

theorem fits_zero (negative : Bool) : (zero negative).Fits := ⟨twoTo_pos 53, le_rfl, by decide⟩

theorem fits_ofParts (negative : Bool) (hm : m < twoTo 53) (he : leastExponent ≤ e) :
    (ofParts negative m e).Fits := by
  unfold ofParts
  split
  · exact trivial
  · exact ⟨hm, he, by omega⟩

theorem isFinite_ofParts (negative : Bool) (m : Nat) (he : e ≤ greatestExponent) :
    (ofParts negative m e).isFinite = true := by
  rw [ofParts, if_neg (by omega)]
  rfl

/-- Rounding gives a number of 64 bits. -/
theorem fits_ofRatio (negative : Bool) (num den : Nat) : (ofRatio negative num den).Fits := by
  unfold ofRatio
  by_cases hparts : num = 0 ∨ den = 0
  · rw [if_pos (by simpa using hparts)]
    exact fits_zero negative
  · rw [not_or] at hparts
    obtain ⟨hleast, hhigh, -⟩ := roundingExponent_spec hparts.1 hparts.2
    rw [if_neg (by simp [hparts])]
    extract_lets e mantissa
    have hbits : mantissa ≤ twoTo 53 := by
      apply mantissaAt_le hparts.2
      rw [zpow_add₀ (by norm_num), zpow_ofNat] at hhigh
      rw [cast_twoTo]
      have hpos : (0 : ℚ) < 2 ^ e * den := by
        have hden : (0 : ℚ) < den := by exact_mod_cast Nat.pos_of_ne_zero hparts.2
        positivity
      linarith
    by_cases hcarry : mantissa = twoTo 53
    · rw [if_pos hcarry]
      exact fits_ofParts negative (twoTo_succ 52 ▸ by have := twoTo_pos 52; omega) (by omega)
    · rw [if_neg hcarry]
      exact fits_ofParts negative (by omega) hleast

/-- A decimal is read as a number of 64 bits. -/
theorem fits_ofDecimal (negative : Bool) (n : Nat) (e : Int) : (ofDecimal negative n e).Fits := by
  unfold ofDecimal
  split
  · exact fits_zero negative
  · split
    · exact trivial
    · split
      · exact fits_zero negative
      · split <;> exact fits_ofRatio negative _ _

theorem overflow_lt : overflow < 2 ^ (greatestExponent + 53) := by
  have hsplit : (2 : ℚ) ^ (greatestExponent + 53) = 2 ^ 54 * 2 ^ (greatestExponent - 1) := by
    rw [← zpow_natCast, ← zpow_add₀ (by norm_num)]
    congr 1
  rw [overflow, hsplit]
  gcongr
  norm_num

/-- A ratio below the overflow is rounded to a finite number. -/
theorem isFinite_ofRatio (negative : Bool) (h : (num : ℚ) < overflow * den) :
    (ofRatio negative num den).isFinite = true := by
  unfold ofRatio
  by_cases hparts : num = 0 ∨ den = 0
  · rw [if_pos (by simpa using hparts)]
    rfl
  · rw [not_or] at hparts
    obtain ⟨-, -, hbits⟩ := roundingExponent_spec hparts.1 hparts.2
    have hden : (0 : ℚ) < den := by exact_mod_cast Nat.pos_of_ne_zero hparts.2
    rw [if_neg (by simp [hparts])]
    extract_lets e mantissa
    have he : e ≤ greatestExponent := by
      by_contra hgt
      have hlow : (2 : ℚ) ^ (e + 52) * den ≤ num := by
        refine hbits.resolve_left fun hleast => hgt ?_
        rw [show e = leastExponent from hleast]
        decide
      have hpow : (2 : ℚ) ^ (greatestExponent + 53) ≤ 2 ^ (e + 52) :=
        zpow_le_zpow_right₀ (by norm_num) (by omega)
      have hless : overflow * den < 2 ^ (e + 52) * den := by
        gcongr
        exact lt_of_lt_of_le overflow_lt hpow
      exact absurd (hless.trans_le hlow) h.asymm
    by_cases hcarry : mantissa = twoTo 53
    · -- With the greatest exponent the mantissa is not rounded up to `2 ^ 53`.
      have hlt : e ≠ greatestExponent := by
        intro heq
        have hless : (2 : ℚ) * num < (2 * (twoTo 53 - 1 : Nat) + 1) * 2 ^ e * den := by
          have hstep : (2 : ℚ) ^ e = 2 * 2 ^ (greatestExponent - 1) := by
            rw [heq, ← zpow_one_add₀ (by norm_num)]
            congr 1
          rw [Nat.cast_sub (twoTo_pos 53), cast_twoTo, hstep]
          rw [overflow] at h
          push_cast
          linarith
        have hle : mantissa ≤ twoTo 53 - 1 := mantissaAt_le hparts.2 hless
        have hpos : 0 < twoTo 53 := twoTo_pos 53
        omega
      rw [if_pos hcarry]
      exact isFinite_ofParts negative _ (by omega)
    · rw [if_neg hcarry]
      exact isFinite_ofParts negative _ he

/-- Powers of ten that are too large to be computed are beyond the overflow. -/
theorem overflow_lt_of_far (he : 400 < e) : overflow < 10 ^ e := by
  calc overflow < 2 ^ (greatestExponent + 53) := overflow_lt
    _ = 8 ^ 341 * 2 := by
        rw [show greatestExponent + 53 = ((3 * 341 + 1 : Nat) : Int) by decide, zpow_natCast,
          pow_succ, pow_mul]
        norm_num only
    _ ≤ 10 ^ 341 * 10 := by gcongr <;> norm_num
    _ = 10 ^ ((342 : Nat) : Int) := by rw [zpow_natCast, ← pow_succ]
    _ ≤ 10 ^ e := zpow_le_zpow_right₀ (by norm_num) (by omega)

/-- A decimal below the overflow is read as a finite number. -/
theorem isFinite_ofDecimal (negative : Bool) (h : (n : ℚ) * 10 ^ e < overflow) :
    (ofDecimal negative n e).isFinite = true := by
  unfold ofDecimal
  by_cases hn : n = 0
  · rw [if_pos hn]
    rfl
  have hfar : ¬ 400 < e := by
    intro hfar
    have hpos : (0 : ℚ) < 10 ^ e := by positivity
    have hone : (1 : ℚ) ≤ n := by exact_mod_cast Nat.one_le_iff_ne_zero.2 hn
    have hover : overflow < n * 10 ^ e :=
      (overflow_lt_of_far hfar).trans_le (le_mul_of_one_le_left hpos.le hone)
    exact absurd hover h.asymm
  rw [if_neg hn, if_neg hfar]
  by_cases hnear : e + n.log2 < -1200
  · rw [if_pos hnear]
    rfl
  rw [if_neg hnear]
  by_cases he : 0 ≤ e
  · rw [if_pos he]
    apply isFinite_ofRatio
    rw [Nat.cast_mul, cast_tenTo, Nat.cast_one, mul_one, ← zpow_natCast, Int.toNat_of_nonneg he]
    exact h
  · rw [if_neg he]
    apply isFinite_ofRatio
    have hpow : (10 : ℚ) ^ e * 10 ^ (-e).toNat = 1 := by
      rw [zpow_mul_pow_neg (by norm_num), Int.toNat_of_nonpos (by omega), pow_zero]
    calc (n : ℚ) = n * 10 ^ e * 10 ^ (-e).toNat := by rw [mul_assoc, hpow, mul_one]
      _ < overflow * (tenTo (-e).toNat : Nat) := by
          rw [cast_tenTo]
          gcongr

end Binary64
end Number
end Stencil
