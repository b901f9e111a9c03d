import Stencil.Number.Shortest
import Stencil.Proofs.Number.Rounding

/-!
# The digits of a number

The decimal that is chosen for a finite number is compared with it exactly.  It lies within half a
step of the number or just below it, so that it is positive and below the overflow: it is read as a
finite number again.

Main results:

- Definition `Decimal.value`: the number that a decimal is.
- Theorem `Decimal.bounds_of_roundsTo`: where the decimals lie that round to a number.
- Theorem `shortest_bounds`: where the decimal of a number lies.
-/

namespace Stencil
namespace Number

/-- The number that a decimal is. -/
def Decimal.value (d : Decimal) : ℚ := d.digits * 10 ^ d.exponent

variable {a b m fuel limit : Nat} {i j q grid guess : Int} {d : Decimal}

/-! ## Exact comparison -/

/-- The two sides of an exact comparison are both values on one scale. -/
theorem exists_scale (a : Nat) (i : Int) (b : Nat) (j : Int) :
    ∃ c : ℚ, 0 < c ∧ ((a * tenTo i.toNat * twoTo (-j).toNat : Nat) : ℚ) = a * 10 ^ i * c ∧
      ((b * twoTo j.toNat * tenTo (-i).toNat : Nat) : ℚ) = b * 2 ^ j * c := by
  refine ⟨10 ^ (-i).toNat * 2 ^ (-j).toNat, by positivity, ?_, ?_⟩
  · push_cast [cast_twoTo, cast_tenTo]
    rw [← zpow_mul_pow_neg (by norm_num : (10 : ℚ) ≠ 0) i]
    ring
  · push_cast [cast_twoTo, cast_tenTo]
    rw [← zpow_mul_pow_neg (by norm_num : (2 : ℚ) ≠ 0) j]
    ring

theorem compareScaled_eq_lt :
    compareScaled a i b j = .lt ↔ (a : ℚ) * 10 ^ i < b * 2 ^ j := by
  obtain ⟨c, hc, ha, hb⟩ := exists_scale a i b j
  rw [compareScaled, Nat.compare_eq_lt, ← Nat.cast_lt (α := ℚ), ha, hb,
    mul_lt_mul_iff_of_pos_right hc]

theorem compareScaled_eq_eq :
    compareScaled a i b j = .eq ↔ (a : ℚ) * 10 ^ i = b * 2 ^ j := by
  obtain ⟨c, hc, ha, hb⟩ := exists_scale a i b j
  rw [compareScaled, Nat.compare_eq_eq, ← Nat.cast_inj (R := ℚ), ha, hb,
    mul_left_inj' hc.ne']

theorem compareScaled_eq_gt :
    compareScaled a i b j = .gt ↔ (b : ℚ) * 2 ^ j < a * 10 ^ i := by
  obtain ⟨c, hc, ha, hb⟩ := exists_scale a i b j
  rw [compareScaled, Nat.compare_eq_gt, ← Nat.cast_lt (α := ℚ), ha, hb,
    mul_lt_mul_iff_of_pos_right hc]

/-! ## Decimals that round to a number -/

/-- A decimal that rounds to a number is at most half a step away, and less than that above a number
with an odd mantissa. -/
theorem Decimal.bounds_of_roundsTo (h : d.roundsTo m q = true) :
    ((4 * m - 2 : Nat) : ℚ) * 2 ^ (q - 2) ≤ d.value ∧
      (d.value < ((4 * m + 2 : Nat) : ℚ) * 2 ^ (q - 2) ∨
        m % 2 = 0 ∧ d.value = ((4 * m + 2 : Nat) : ℚ) * 2 ^ (q - 2)) := by
  unfold Decimal.roundsTo at h
  extract_lets narrow low above below closed at h
  have hlow : 4 * m - 2 ≤ low := by
    have hcases : low = 4 * m - 1 ∨ low = 4 * m - 2 := ite_eq_or_eq _ _ _
    omega
  have hscaled : ((4 * m - 2 : Nat) : ℚ) * 2 ^ (q - 2) ≤ low * 2 ^ (q - 2) := by gcongr
  rw [Bool.and_eq_true, Bool.or_eq_true, Bool.or_eq_true, Bool.and_eq_true, Bool.and_eq_true,
    beq_iff_eq, beq_iff_eq, beq_iff_eq, beq_iff_eq, compareScaled_eq_gt, compareScaled_eq_eq,
    compareScaled_eq_lt, compareScaled_eq_eq, decide_eq_true_iff] at h
  obtain ⟨hgt | ⟨-, heq⟩, hbelow⟩ := h
  · exact ⟨hscaled.trans hgt.le, hbelow⟩
  · exact ⟨hscaled.trans heq.ge, hbelow⟩

/-- The overflow in quarters of a step. -/
theorem quarters_le_overflow (hq : q ≤ Binary64.greatestExponent) :
    2 * (2 ^ 54 - 1) * (2 : ℚ) ^ (q - 2) ≤ overflow := by
  have hstep : 2 * (2 : ℚ) ^ (q - 2) ≤ 2 ^ (Binary64.greatestExponent - 1) := by
    rw [← zpow_one_add₀ (by norm_num)]
    exact zpow_le_zpow_right₀ (by norm_num) (by omega)
  rw [overflow, mul_comm 2, mul_assoc]
  exact mul_le_mul_of_nonneg_left hstep (by norm_num)

/-- A decimal that rounds to a number of 64 bits is below the overflow. -/
theorem Decimal.value_lt_of_roundsTo (h : d.roundsTo m q = true) (hm : m < twoTo 53)
    (hq : q ≤ Binary64.greatestExponent) : d.value < overflow := by
  have hover := quarters_le_overflow hq
  have hpos : (0 : ℚ) < 2 ^ (q - 2) := by positivity
  obtain ⟨-, hless | ⟨heven, heq⟩⟩ := Decimal.bounds_of_roundsTo h
  · have hbits : (m : ℚ) + 1 ≤ 2 ^ 53 := by
      rw [← cast_twoTo]
      exact_mod_cast hm
    refine (hless.trans_le (mul_le_mul_of_nonneg_right ?_ hpos.le)).trans_le hover
    push_cast
    linarith only [hbits]
  · -- The greatest mantissa is odd.
    have hbits : (m : ℚ) + 2 ≤ 2 ^ 53 := by
      have hdouble : twoTo 53 = twoTo 52 * 2 := twoTo_succ 52
      have hroom : m + 2 ≤ twoTo 53 := by omega
      rw [← cast_twoTo]
      exact_mod_cast hroom
    rw [heq]
    refine (mul_lt_mul_of_pos_right ?_ hpos).trans_le hover
    push_cast
    linarith only [hbits]

theorem value_lt_overflow (hm : m < twoTo 53) (hq : q ≤ Binary64.greatestExponent) :
    (m : ℚ) * 2 ^ q < overflow := by
  have hbits : (m : ℚ) + 1 ≤ 2 ^ 53 := by
    rw [← cast_twoTo]
    exact_mod_cast hm
  have hquarters : (2 : ℚ) ^ q = 4 * 2 ^ (q - 2) := by
    rw [zpow_sub₀ (by norm_num)]
    norm_num
    ring
  rw [hquarters, ← mul_assoc]
  refine (mul_lt_mul_of_pos_right ?_ (by positivity)).trans_le (quarters_le_overflow hq)
  linarith only [hbits]

theorem Decimal.value_pos_of_roundsTo (h : d.roundsTo m q = true) (hm : 0 < m) : 0 < d.value := by
  refine lt_of_lt_of_le ?_ (Decimal.bounds_of_roundsTo h).1
  have hlow : (0 : ℚ) < (4 * m - 2 : Nat) := by exact_mod_cast (by omega : 0 < 4 * m - 2)
  positivity

/-- What is found on a grid rounds to the number. -/
theorem roundsTo_of_onGrid? (h : onGrid? m q grid = some d) : d.roundsTo m q = true := by
  unfold onGrid? at h
  rcases hneighbours : neighbours m q grid with ⟨low, high⟩
  rw [hneighbours] at h
  dsimp only at h
  cases hlow : low.roundsTo m q <;> cases hhigh : high.roundsTo m q <;> rw [hlow, hhigh] at h
  · cases h
  · exact Option.some.inj h ▸ hhigh
  · exact Option.some.inj h ▸ hlow
  · dsimp only at h
    split at h
    · exact Option.some.inj h ▸ hlow
    · exact Option.some.inj h ▸ hhigh
    · split at h
      · exact Option.some.inj h ▸ hlow
      · exact Option.some.inj h ▸ hhigh

/-! ## The decimal below a number -/

/-- The decimal below a number on a grid is not above it, and it is not zero on a grid that is fine
enough. -/
theorem neighbours_fst (m : Nat) (q grid : Int) :
    (neighbours m q grid).1.value ≤ m * 2 ^ q ∧
      ((10 : ℚ) ^ grid ≤ m * 2 ^ q → 0 < (neighbours m q grid).1.value) := by
  obtain ⟨c, hc, hden, hnum⟩ := exists_scale 1 grid m q
  unfold neighbours Decimal.value
  extract_lets num den
  rw [Nat.cast_one, one_mul, one_mul, mul_comm (tenTo _)] at hden
  have hden' : (den : ℚ) = 10 ^ grid * c := hden
  have hnum' : (num : ℚ) = m * 2 ^ q * c := hnum
  constructor
  · have hle : ((num / den : Nat) : ℚ) * den ≤ num := by exact_mod_cast Nat.div_mul_le_self num den
    rw [hden', hnum', ← mul_assoc] at hle
    exact le_of_mul_le_mul_right hle hc
  · intro hfine
    have hle : (den : ℚ) ≤ num := by
      rw [hden', hnum']
      gcongr
    have hpos : 0 < den := by
      have hcast : (0 : ℚ) < den := hden' ▸ by positivity
      exact_mod_cast hcast
    have hdigits : 0 < num / den := Nat.div_pos (by exact_mod_cast hle) hpos
    have hcast : (0 : ℚ) < (num / den : Nat) := by exact_mod_cast hdigits
    positivity

/-- Powers of ten are compared with powers of two by `10 ^ 3 ≤ 2 ^ 10` and `2 ^ 33 ≤ 10 ^ 10`. -/
theorem ten_zpow_le_two_zpow (hup : 10 * i ≤ 3 * j) (hdown : 33 * i ≤ 10 * j) :
    (10 : ℚ) ^ i ≤ 2 ^ j := by
  have htwo : (1 : ℚ) ≤ 2 := by norm_num
  by_cases hi : 0 ≤ i
  · refine le_of_pow_le_pow_left₀ (n := 3) (by norm_num) (by positivity) ?_
    calc ((10 : ℚ) ^ i) ^ 3 = (10 ^ 3) ^ i := by rw [← zpow_natCast, zpow_comm, zpow_natCast]
      _ ≤ (2 ^ 10) ^ i := zpow_le_zpow_left₀ hi (by norm_num) (by norm_num)
      _ = 2 ^ (10 * i) := by rw [← zpow_natCast, ← zpow_mul, Nat.cast_ofNat]
      _ ≤ 2 ^ (j * 3) := zpow_le_zpow_right₀ htwo (by omega)
      _ = (2 ^ j) ^ 3 := by rw [zpow_mul, zpow_ofNat]
  · refine le_of_pow_le_pow_left₀ (n := 10) (by norm_num) (by positivity) ?_
    calc ((10 : ℚ) ^ i) ^ 10 = (10 ^ 10) ^ i := by rw [← zpow_natCast, zpow_comm, zpow_natCast]
      _ = ((10 ^ 10)⁻¹) ^ (-i) := by rw [inv_zpow', neg_neg]
      _ ≤ ((2 ^ 33)⁻¹) ^ (-i) := zpow_le_zpow_left₀ (by omega) (by positivity) (by norm_num)
      _ = (2 ^ 33) ^ i := by rw [inv_zpow', neg_neg]
      _ = 2 ^ (33 * i) := by rw [← zpow_natCast, ← zpow_mul, Nat.cast_ofNat]
      _ ≤ 2 ^ (j * 10) := zpow_le_zpow_right₀ htwo (by omega)
      _ = (2 ^ j) ^ 10 := by rw [zpow_mul, zpow_ofNat]

/-- The search for the power of ten above a number stops at most one power above it. -/
theorem scaleFrom_le (h : (10 : ℚ) ^ (guess - 1) ≤ m * 2 ^ q) :
    (10 : ℚ) ^ (scaleFrom m q fuel guess - 1) ≤ m * 2 ^ q := by
  induction fuel generalizing guess with
  | zero => exact h
  | succ fuel ih =>
      rw [scaleFrom]
      by_cases hgt : compareScaled 1 guess m q = .gt
      · rw [hgt]
        exact h
      · rw [if_neg (by simpa using hgt)]
        apply ih
        rw [add_sub_cancel_right]
        simpa [compareScaled_eq_gt] using hgt

/-! ## The chosen decimal -/

theorem Decimal.value_stripZeros (limit : Nat) (d : Decimal) :
    (d.stripZeros limit).value = d.value := by
  induction limit generalizing d with
  | zero => rfl
  | succ limit ih =>
      rw [Decimal.stripZeros]
      by_cases hzero : d.digits % 10 = 0
      · have hdigits : (d.digits : ℚ) = (d.digits / 10 : Nat) * 10 := by
          exact_mod_cast (Nat.div_mul_cancel (Nat.dvd_of_mod_eq_zero hzero)).symm
        rw [if_pos hzero, ih, Decimal.value, Decimal.value, hdigits, zpow_add_one₀ (by norm_num)]
        ring
      · rw [if_neg hzero]

/-- The power of ten above a number of 64 bits is found. -/
theorem scale_le (hm : 0 < m) (hbits : m < twoTo 53) (hleast : Binary64.leastExponent ≤ q)
    (hgreatest : q ≤ Binary64.greatestExponent) : (10 : ℚ) ^ (scale m q - 1) ≤ m * 2 ^ q := by
  apply scaleFrom_le
  have hlog : m.log2 < 53 := (Nat.log2_lt hm.ne').2 hbits
  simp only [Binary64.leastExponent, Binary64.greatestExponent] at hleast hgreatest
  have hlow : (2 : ℚ) ^ (q + m.log2) ≤ m * 2 ^ q := by
    have hself : (2 : ℚ) ^ m.log2 ≤ m := by exact_mod_cast Nat.log2_self_le hm.ne'
    rw [zpow_add₀ (by norm_num), zpow_natCast, mul_comm]
    gcongr
  exact (ten_zpow_le_two_zpow (by omega) (by omega)).trans hlow

/-- The decimal of a positive number of 64 bits is positive and below the overflow. -/
theorem shortest_bounds (hm : 0 < m) (hbits : m < twoTo 53) (hleast : Binary64.leastExponent ≤ q)
    (hgreatest : q ≤ Binary64.greatestExponent) :
    0 < (shortest m q).value ∧ (shortest m q).value < overflow := by
  unfold shortest
  extract_lets top found
  rw [Decimal.value_stripZeros]
  cases hfound : found with
  | some d =>
      obtain ⟨n, -, hgrid⟩ := List.exists_of_findSome?_eq_some hfound
      have hrounds : d.roundsTo m q = true := roundsTo_of_onGrid? hgrid
      exact ⟨d.value_pos_of_roundsTo hrounds hm, d.value_lt_of_roundsTo hrounds hbits hgreatest⟩
  | none =>
      obtain ⟨hle, hpos⟩ := neighbours_fst m q (top - 17)
      refine ⟨hpos ?_, ?_⟩
      · have hfine : (10 : ℚ) ^ (top - 17) ≤ 10 ^ (top - 1) :=
          zpow_le_zpow_right₀ (by norm_num) (by omega)
        exact hfine.trans (scale_le hm hbits hleast hgreatest)
      · exact hle.trans_lt (value_lt_overflow hbits hgreatest)

end Number
end Stencil
