import Mathlib.Algebra.Order.Field.Power
import Mathlib.Algebra.Order.Field.Rat
import Mathlib.Tactic.Linarith
import Mathlib.Tactic.NormNum
import Mathlib.Tactic.Positivity
import PatternAction.Number.Decimal

/-!
Exact sizes.  A fraction is a rational number, and its binary logarithm is what its name says.  So
rounding is known at both ends of a format: what reaches the first power of two beyond it becomes
infinite, and what is below half of the least value becomes zero.  A decimal numeral is therefore
rounded to the same number whether or not its power of ten is ever computed.
-/

set_option autoImplicit false
set_option relaxedAutoImplicit false

namespace PatternAction

/-! ## Fractions -/

namespace Fraction

def toRat (q : Fraction) : ℚ :=
  q.num / q.den

private theorem toRat_scaled (q : Fraction) (base : Nat) (e : Int) :
    toRat (if 0 ≤ e then ⟨q.num * Nat.pow base e.toNat, q.den⟩
      else ⟨q.num, q.den * Nat.pow base (-e).toNat⟩) = q.toRat * (base : ℚ) ^ e := by
  by_cases nonneg : 0 ≤ e
  · obtain ⟨k, rfl⟩ := Int.eq_ofNat_of_zero_le nonneg
    rw [if_pos nonneg, toRat, toRat, Int.toNat_natCast, Nat.pow_eq, zpow_natCast]
    push_cast
    rw [mul_div_right_comm]
  · obtain ⟨k, rfl⟩ : ∃ k : Nat, e = -k := ⟨(-e).toNat, by omega⟩
    rw [if_neg nonneg, toRat, toRat, neg_neg, Int.toNat_natCast, Nat.pow_eq, zpow_neg, zpow_natCast]
    push_cast
    rw [div_mul_eq_div_div, div_eq_mul_inv]

theorem toRat_shift (q : Fraction) (e : Int) : (q.shift e).toRat = q.toRat * 2 ^ e :=
  q.toRat_scaled 2 e

private theorem toRat_shiftTen (q : Fraction) (e : Int) : (q.shiftTen e).toRat = q.toRat * 10 ^ e :=
  q.toRat_scaled 10 e

variable {q : Fraction}

theorem den_shift_pos (den : 0 < q.den) (e : Int) : 0 < (q.shift e).den := by
  rw [shift]
  split
  · exact den
  · exact Nat.mul_pos den (Nat.two_pow_pos _)

private theorem den_le_num_iff (den : 0 < q.den) : q.den ≤ q.num ↔ 1 ≤ q.toRat := by
  have pos : (0 : ℚ) < q.den := Nat.cast_pos.mpr den
  rw [toRat, one_le_div pos, Nat.cast_le]

/-- The binary logarithm is the exponent of the power of two at or below the fraction. -/
theorem log2_spec (num : 0 < q.num) (den : 0 < q.den) :
    (2 : ℚ) ^ q.log2 ≤ q.toRat ∧ q.toRat < 2 ^ (q.log2 + 1) := by
  have numPos : (0 : ℚ) < q.num := Nat.cast_pos.mpr num
  have denPos : (0 : ℚ) < q.den := Nat.cast_pos.mpr den
  have numLow : (2 : ℚ) ^ (q.num.log2 : Int) ≤ q.num := by
    exact_mod_cast Nat.log2_self_le num.ne'
  have numHigh : (q.num : ℚ) < 2 ^ (q.num.log2 + 1 : Int) := by
    exact_mod_cast Nat.lt_log2_self
  have denLow : (2 : ℚ) ^ (q.den.log2 : Int) ≤ q.den := by
    exact_mod_cast Nat.log2_self_le den.ne'
  have denHigh : (q.den : ℚ) < 2 ^ (q.den.log2 + 1 : Int) := by
    exact_mod_cast Nat.lt_log2_self
  set k : Int := q.num.log2 - q.den.log2 with same
  -- The difference of the logarithms is right or one too great; moving the point by it decides.
  have above : q.toRat < 2 ^ (k + 1) := by
    rw [toRat, div_lt_iff₀ denPos]
    calc (q.num : ℚ) < 2 ^ (q.num.log2 + 1 : Int) := numHigh
      _ = 2 ^ (k + 1) * 2 ^ (q.den.log2 : Int) := by
        rw [← zpow_add₀ two_ne_zero]
        congr 1
        omega
      _ ≤ 2 ^ (k + 1) * q.den := by gcongr
  have below : (2 : ℚ) ^ (k - 1) ≤ q.toRat := by
    rw [toRat, le_div_iff₀ denPos]
    calc (2 : ℚ) ^ (k - 1) * q.den ≤ 2 ^ (k - 1) * 2 ^ (q.den.log2 + 1 : Int) := by gcongr
      _ = 2 ^ (q.num.log2 : Int) := by
        rw [← zpow_add₀ two_ne_zero]
        congr 1
        omega
      _ ≤ q.num := numLow
  have moved : (q.shift (-k)).den ≤ (q.shift (-k)).num ↔ (2 : ℚ) ^ k ≤ q.toRat := by
    rw [den_le_num_iff (den_shift_pos den _), toRat_shift, zpow_neg, ← div_eq_mul_inv,
      one_le_div (by positivity)]
  have value : q.log2 = if (q.shift (-k)).den ≤ (q.shift (-k)).num then k else k - 1 := rfl
  rw [value]
  split
  · rename_i reached
    exact ⟨moved.mp reached, above⟩
  · rename_i missed
    rw [sub_add_cancel]
    exact ⟨below, not_le.mp fun reached => missed (moved.mpr reached)⟩

theorem le_log2 (num : 0 < q.num) (den : 0 < q.den) {e : Int} (low : (2 : ℚ) ^ e ≤ q.toRat) :
    e ≤ q.log2 := by
  have less : (2 : ℚ) ^ e < 2 ^ (q.log2 + 1) := low.trans_lt (log2_spec num den).2
  have := (zpow_lt_zpow_iff_right₀ one_lt_two).mp less
  omega

theorem log2_lt (num : 0 < q.num) (den : 0 < q.den) {e : Int} (high : q.toRat < 2 ^ e) :
    q.log2 < e :=
  (zpow_lt_zpow_iff_right₀ one_lt_two).mp ((log2_spec num den).1.trans_lt high)

end Fraction

/-! ## Both ends of a format -/

namespace Precision

variable (p : Precision) (negative : Bool) {q : Fraction}

theorem round_of_num_eq_zero (zero : q.num = 0) :
    p.round negative q = .finite negative 0 p.least := by
  rw [round, if_pos zero]

private theorem round_of_le (num : 0 < q.num) (den : 0 < q.den)
    (great : (2 : ℚ) ^ p.beyond ≤ q.toRat) :
    p.round negative q = .infinite negative := by
  have exponent := Fraction.le_log2 num den great
  rw [round, if_neg num.ne']
  dsimp only
  -- Whether or not the significand overflows, the exponent is at least what the logarithm asks for.
  by_cases full : (q.shift (-max (q.log2 + 1 - p.bits) p.least)).round = Nat.pow 2 p.bits
  · rw [if_pos full]
    exact if_pos (by dsimp only; omega)
  · rw [if_neg full]
    exact if_pos (by dsimp only; omega)

private theorem round_of_lt (num : 0 < q.num) (den : 0 < q.den) (some : p.least + p.bits ≤ p.beyond)
    (tiny : q.toRat < 2 ^ (p.least - 1)) : p.round negative q = .finite negative 0 p.least := by
  have exponent := Fraction.log2_lt num den tiny
  have lowest : max (q.log2 + 1 - p.bits) p.least = p.least := max_eq_right (by omega)
  have half : 2 * (q.shift (-p.least)).num < (q.shift (-p.least)).den := by
    have pos : (0 : ℚ) < (q.shift (-p.least)).den := Nat.cast_pos.mpr (Fraction.den_shift_pos den _)
    have small : (q.shift (-p.least)).toRat < 1 / 2 := by
      rw [Fraction.toRat_shift, zpow_neg, ← div_eq_mul_inv, div_lt_iff₀ (by positivity)]
      rw [zpow_sub_one₀ two_ne_zero] at tiny
      linarith
    rw [Fraction.toRat, div_lt_iff₀ pos] at small
    have doubled : (2 * (q.shift (-p.least)).num : ℚ) < (q.shift (-p.least)).den := by linarith
    exact_mod_cast doubled
  have nothing : (q.shift (-p.least)).round = 0 := by
    rw [Fraction.round, roundDiv, Nat.div_eq_of_lt (by omega), Nat.mod_eq_of_lt (by omega)]
    exact if_pos (.inl half)
  rw [round, if_neg num.ne']
  dsimp only
  have room : 0 ≠ Nat.pow 2 p.bits := (Nat.two_pow_pos _).ne
  rw [lowest, nothing, if_neg room]
  exact if_neg (by omega)

end Precision

/-! ## Decimal numerals -/

namespace Decimal

variable (d : Decimal)

/-- The exact size of a numeral. -/
def fraction : Fraction :=
  Fraction.shiftTen ⟨d.coefficient, 1⟩ d.exponent

theorem toRat_fraction : d.fraction.toRat = d.coefficient * 10 ^ d.exponent := by
  rw [fraction, Fraction.toRat_shiftTen, Fraction.toRat, Nat.cast_one, div_one]

theorem den_fraction_pos : 0 < d.fraction.den := by
  rw [fraction, Fraction.shiftTen]
  split
  · exact Nat.one_pos
  · exact Nat.mul_pos Nat.one_pos (Nat.pow_pos (by decide))

private theorem num_fraction_eq_zero (zero : d.coefficient = 0) : d.fraction.num = 0 := by
  rw [fraction, Fraction.shiftTen]
  split
  · rw [zero, Nat.zero_mul]
  · exact zero

theorem num_fraction_pos (pos : 0 < d.coefficient) : 0 < d.fraction.num := by
  rw [fraction, Fraction.shiftTen]
  split
  · exact Nat.mul_pos pos (Nat.pow_pos (by decide))
  · exact pos

/-- A numeral is the number nearest to its exact size; the powers of ten that are not computed make
no difference. -/
theorem toNumber_eq_round : d.toNumber = Precision.double.round d.negative d.fraction := by
  rw [toNumber]
  by_cases zero : d.coefficient = 0
  · rw [if_pos zero, Precision.round_of_num_eq_zero _ _ (d.num_fraction_eq_zero zero)]
  rw [if_neg zero]
  have pos : 0 < d.coefficient := Nat.pos_of_ne_zero zero
  have num := d.num_fraction_pos pos
  have den := d.den_fraction_pos
  -- Ten is compared with eight, whose powers are powers of two.
  have eight : (8 : ℚ) ^ d.exponent = 2 ^ (3 * d.exponent) := by
    rw [zpow_mul]
    norm_num
  by_cases great : 400 < d.exponent
  · have size : (2 : ℚ) ^ Precision.double.beyond ≤ d.fraction.toRat := by
      have one : (1 : ℚ) ≤ d.coefficient := Nat.one_le_cast.mpr pos
      have power : (8 : ℚ) ^ d.exponent ≤ 10 ^ d.exponent :=
        zpow_le_zpow_left₀ (by omega) (by norm_num) (by norm_num)
      calc (2 : ℚ) ^ Precision.double.beyond ≤ 2 ^ (3 * d.exponent) := by
            refine zpow_le_zpow_right₀ one_le_two ?_
            change (1024 : Int) ≤ _
            omega
        _ = 8 ^ d.exponent := eight.symm
        _ ≤ 1 * 10 ^ d.exponent := by rwa [one_mul]
        _ ≤ d.coefficient * 10 ^ d.exponent := by gcongr
        _ = d.fraction.toRat := d.toRat_fraction.symm
    rw [if_pos great, Precision.round_of_le _ _ num den size]
  rw [if_neg great]
  by_cases tiny : d.coefficient.log2 + 1 + 3 * d.exponent < -1200
  · have size : d.fraction.toRat < 2 ^ (Precision.double.least - 1) := by
      have coefficient : (d.coefficient : ℚ) < 2 ^ (d.coefficient.log2 + 1 : Int) := by
        exact_mod_cast Nat.lt_log2_self
      have power : (10 : ℚ) ^ d.exponent ≤ 8 ^ d.exponent := by
        obtain ⟨k, same⟩ : ∃ k : Nat, d.exponent = -k := ⟨(-d.exponent).toNat, by omega⟩
        rw [same, zpow_neg, zpow_neg, zpow_natCast, zpow_natCast]
        gcongr
        norm_num
      calc d.fraction.toRat = d.coefficient * 10 ^ d.exponent := d.toRat_fraction
        _ ≤ d.coefficient * 8 ^ d.exponent := by gcongr
        _ < 2 ^ (d.coefficient.log2 + 1 : Int) * 8 ^ d.exponent := by gcongr
        _ = 2 ^ (d.coefficient.log2 + 1 + 3 * d.exponent : Int) := by
            rw [eight, ← zpow_add₀ two_ne_zero]
        _ ≤ 2 ^ (Precision.double.least - 1) := by
            refine zpow_le_zpow_right₀ one_le_two ?_
            change _ ≤ (-1074 - 1 : Int)
            omega
    rw [if_pos tiny, Precision.round_of_lt _ _ num den (by decide) size]
  · rw [if_neg tiny, fraction]

end Decimal

end PatternAction
