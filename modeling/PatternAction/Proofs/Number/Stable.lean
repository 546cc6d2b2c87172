import PatternAction.Proofs.Number.Midpoints
import PatternAction.Proofs.Number.Written

/-!
Reading what was written, and writing it again.  The decimal that is written for a number tells a
single number from its neighbours, but it is read as a number in double precision, which is narrowed
when it is written again: it is rounded twice.  The first rounding cannot take it past the ends of
the interval of the single number, since these are numbers in double precision, but it may take it
to an end, and the end of an odd significand is narrowed to the neighbour.  That happens for one
magnitude only.  All other finite numbers are written again as they were.
-/

set_option autoImplicit false
set_option relaxedAutoImplicit false

namespace PatternAction

/-! ## Rounding to double precision -/

private theorem abs_le_half {x unit : ℚ} (pos : 0 < unit) (below : |x| ≤ |x + unit|)
    (above : |x| ≤ |x - unit|) : |x| ≤ unit / 2 := by
  have left := sq_le_sq.mpr below
  have right := sq_le_sq.mpr above
  have low : 0 ≤ (2 * x + unit) * unit := by linarith
  have high : 0 ≤ (unit - 2 * x) * unit := by linarith
  have lowUnit := nonneg_of_mul_nonneg_left low pos
  have highUnit := nonneg_of_mul_nonneg_left high pos
  exact abs_le.mpr ⟨by linarith, by linarith⟩

namespace Precision

private theorem abs_sub_le_of_round {negative s : Bool} {q : Fraction} {a b : ℕ} {e f : Int}
    (num : 0 < q.num) (den : 0 < q.den) (done : double.round negative q = .finite s a f)
    (pos : 0 < b) (significand : b < 2 ^ 25) (least : -149 ≤ e)
    (hit : (a : ℚ) * 2 ^ f = b * 2 ^ (e - 1)) : |q.toRat - b * 2 ^ (e - 1)| ≤ 2 ^ (e - 30) := by
  have unit : (0 : ℚ) < 2 ^ (e - 29) := by positivity
  have half : (2 : ℚ) ^ (e - 30) = 2 ^ (e - 29) / 2 := by
    rw [show e - 29 = e - 30 + 1 by ring, zpow_add_one₀ two_ne_zero]
    ring
  have fine : ((b * 2 ^ 28 : ℕ) : ℚ) * 2 ^ (e - 29) = b * 2 ^ (e - 1) := by
    rw [show e - 1 = 28 + (e - 29) by ring, zpow_add₀ two_ne_zero]
    push_cast
    ring
  have below := double.nearest_of_round negative num den (by decide) done
    (show b * 2 ^ 28 - 1 ≤ 2 ^ 53 by omega) (show (-1074 : Int) ≤ e - 29 by omega)
  have above := double.nearest_of_round negative num den (by decide) done
    (show b * 2 ^ 28 + 1 ≤ 2 ^ 53 by omega) (show (-1074 : Int) ≤ e - 29 by omega)
  rw [Nat.cast_sub (by omega), Nat.cast_one, sub_mul, one_mul, fine, hit, ← sub_add] at below
  rw [Nat.cast_add, Nat.cast_one, add_mul, one_mul, fine, hit, ← sub_sub] at above
  rw [half]
  exact abs_le_half unit below above

/-! ## Both ends of an interval -/

private theorem top_eq (m : ℕ) (e : Int) : top m e = (2 * m + 1 : ℕ) * 2 ^ (e - 1) := by
  rw [top, zpow_sub_one₀ two_ne_zero]
  push_cast
  ring

private theorem middle_of_odd {m : ℕ} (odd : m % 2 = 1) (e : Int) :
    ¬ (m = 2 ^ (single.bits - 1) ∧ single.least < e) := by
  rintro ⟨rfl, -⟩
  exact absurd odd (by decide)

private theorem bottom_eq_of_odd {m : ℕ} (odd : m % 2 = 1) (e : Int) :
    single.bottom m e = (2 * m - 1 : ℕ) * 2 ^ (e - 1) := by
  rw [bottom, if_neg (middle_of_odd odd e), zpow_sub_one₀ two_ne_zero, Nat.cast_sub (by omega)]
  push_cast
  ring

private theorem exists_bottom_eq {m : ℕ} (pos : 0 < m) (e : Int) :
    ∃ b ≤ 4 * m, single.bottom m e = (b : ℕ) * 2 ^ (e - 2) := by
  have quarter : (2 : ℚ) ^ e = 4 * 2 ^ (e - 2) := by
    rw [zpow_sub₀ two_ne_zero]
    norm_num
    ring
  rw [bottom, quarter]
  split
  · refine ⟨4 * m - 1, by omega, ?_⟩
    rw [Nat.cast_sub (by omega)]
    push_cast
    ring
  · refine ⟨4 * m - 2, by omega, ?_⟩
    rw [Nat.cast_sub (by omega)]
    push_cast
    ring

end Precision

/-! ## The decimal of a single number, read in double precision -/

namespace Number

section Reread

variable {m n a : ℕ} {e k f : Int} {negative s : Bool} {q : Fraction}
variable (canonical : Precision.single.Canonical m e) (shortest : Shortest .single m e n k)
variable (stable : ¬ (m = 11420669 ∧ e = -107))
variable (num : 0 < q.num) (den : 0 < q.den) (value : q.toRat = n * 10 ^ k)
variable (done : Precision.double.round negative q = .finite s a f)
include canonical shortest stable num den value done

private theorem Shortest.read_ne_end {b : ℕ} (odd : m % 2 = 1)
    (isEnd : b = 2 * m - 1 ∨ b = 2 * m + 1) (inside : (n : ℚ) * 10 ^ k ≠ b * 2 ^ (e - 1)) : (a : ℚ)
    * 2 ^ f ≠ b * 2 ^ (e - 1) := by
  intro hit
  have significand : m < 2 ^ 24 := canonical.significand
  have least : (-149 : Int) ≤ e := canonical.least
  have beyond : e + 24 ≤ 128 := canonical.beyond
  have close := Precision.abs_sub_le_of_round num den done (by omega) (by omega) least hit
  rw [value] at close
  -- The end is half a unit away, and the decimal no farther than half a step of its grid.
  have double : (2 : ℚ) ^ e = 2 * 2 ^ (e - 1) := by
    rw [zpow_sub_one₀ two_ne_zero]
    ring
  have part : (2 : ℚ) ^ (e - 30) = 2 ^ (e - 1) / 2 ^ 29 := by
    rw [show e - 30 = e - 1 - 29 by ring, zpow_sub₀ two_ne_zero]
    norm_num
  have unit : (0 : ℚ) < 2 ^ (e - 1) := by positivity
  have away : |(b : ℚ) * 2 ^ (e - 1) - m * 2 ^ e| = 2 ^ (e - 1) := by
    rcases isEnd with rfl | rfl
    · rw [Nat.cast_sub (by omega), double, abs_of_nonpos] <;> push_cast <;> linarith
    · rw [double, abs_of_nonneg] <;> push_cast <;> linarith
  have near := shortest.near (Precision.middle_of_odd odd e)
  have coarse : (1 - 1 / 2 ^ 28) * (2 : ℚ) ^ e ≤ 10 ^ k := by
    have triangle := abs_sub_le ((b : ℚ) * 2 ^ (e - 1)) (n * 10 ^ k) (m * 2 ^ e)
    rw [away, abs_sub_comm] at triangle
    linarith
  rcases Midpoint.eq_of_close least (by omega) coarse (by omega) close with same | ⟨rfl, same⟩
  · exact inside same
  · exact stable ⟨by omega, rfl⟩

private theorem Shortest.cell_of_round (pos : 0 < m) : Precision.single.Cell m e (a * 2 ^ f) := by
  obtain ⟨low, high, ends⟩ := shortest.cell
  have significand : m < 2 ^ 24 := canonical.significand
  have least : (-149 : Int) ≤ e := canonical.least
  refine ⟨?_, ?_, fun odd => ?_⟩
  · obtain ⟨b, le, bottom⟩ := Precision.exists_bottom_eq pos e
    rw [bottom] at low ⊢
    exact Precision.double.le_of_round negative num den (by decide) done
      (show b ≤ 2 ^ 53 by omega) (show (-1074 : Int) ≤ e - 2 by omega) (low.trans_eq value.symm)
  · rw [Precision.top_eq] at high ⊢
    exact Precision.double.ge_of_round negative num den (by decide) done
      (show 2 * m + 1 ≤ 2 ^ 53 by omega) (show (-1074 : Int) ≤ e - 1 by omega)
      (value.trans_le high)
  · obtain ⟨notBottom, notTop⟩ := ends odd
    rw [Precision.bottom_eq_of_odd odd] at notBottom ⊢
    rw [Precision.top_eq] at notTop ⊢
    exact ⟨shortest.read_ne_end canonical stable num den value done odd (.inl rfl) notBottom,
      shortest.read_ne_end canonical stable num den value done odd (.inr rfl) notTop⟩

end Reread

/-! ## Written numbers, read -/

theorem render_eq (x : Number) : x.render = String.ofList x.narrow.singleText :=
  rfl

private theorem read_zero {x : Number} {negative : Bool} {e : Int}
    (narrowed : x.narrow = .finite negative 0 e) :
    (Scalar.ofNumber x).toNumber = .finite negative 0 Precision.double.least := by
  have text : Scalar.ofNumber x = ⟨if negative then "-0.0" else "0.0"⟩ := by
    rw [Scalar.ofNumber, render_eq, narrowed]
    cases negative <;> rfl
  rw [text]
  cases negative <;> rfl

private theorem exists_read {x : Number} {negative : Bool} {m : ℕ} {e : Int}
    (narrowed : x.narrow = .finite negative m e) (pos : 0 < m) :
    ∃ q : Fraction, 0 < q.num ∧ 0 < q.den ∧
      q.toRat = (shortestDigits .single m e).1 * 10 ^ (shortestDigits .single m e).2 ∧
      (Scalar.ofNumber x).toNumber = Precision.double.round negative q := by
  have canonical := canonical_narrow narrowed
  obtain ⟨n, spelled, written, -, size⟩ := exists_singleText canonical pos negative
  have digits := (single_shortest canonical pos).digits_pos pos
  have text : n.spelling = (Scalar.ofNumber x).chars := by
    rw [spelled, Scalar.chars_ofNumber, narrowed]
  have some : 0 < n.decimal.coefficient := by
    by_contra none
    rw [Numeral.size, Nat.eq_zero_of_not_pos none, Nat.cast_zero, zero_mul, zero_eq_mul,
      Nat.cast_eq_zero] at size
    rcases size with zero | zero
    · omega
    · exact absurd zero (by positivity)
  refine ⟨n.decimal.fraction, n.decimal.num_fraction_pos some, n.decimal.den_fraction_pos, ?_, ?_⟩
  · rw [n.decimal.toRat_fraction]
    exact size
  · rw [Scalar.toNumber, ← text, n.ofLeading_spelling, Numeral.value, written.sign,
      Numeral.isNegative_minus]

theorem exists_read_finite {x : Number} {negative : Bool} {m : ℕ} {e : Int}
    (narrowed : x.narrow = .finite negative m e) (pos : 0 < m) :
    ∃ q : Fraction, 0 < q.num ∧ 0 < q.den ∧
      q.toRat = (shortestDigits .single m e).1 * 10 ^ (shortestDigits .single m e).2 ∧
      ∃ a f, (Scalar.ofNumber x).toNumber = .finite negative a f ∧
        Precision.double.round negative q = .finite negative a f := by
  have canonical := canonical_narrow narrowed
  obtain ⟨q, num, den, value, read⟩ := exists_read narrowed pos
  have small : q.toRat < 2 ^ (Precision.double.beyond - 1) := by
    calc q.toRat ≤ Precision.top m e := value.trans_le (single_shortest canonical pos).cell.high
      _ < 2 ^ (128 : Int) := top_lt_single canonical
      _ ≤ 2 ^ (Precision.double.beyond - 1) := zpow_le_zpow_right₀ one_le_two (by decide)
  obtain ⟨a, f, done⟩ := Precision.double.exists_round_finite negative num den (by decide) small
  exact ⟨q, num, den, value, a, f, read.trans done, done⟩

theorem narrow_read {x : Number} {negative : Bool} {m : ℕ} {e : Int}
    (narrowed : x.narrow = .finite negative m e) (stable : ¬ (m = 11420669 ∧ e = -107)) :
    (Scalar.ofNumber x).toNumber.narrow = .finite negative m e := by
  have canonical := canonical_narrow narrowed
  rcases Nat.eq_zero_or_pos m with rfl | pos
  · rw [read_zero narrowed]
    rcases canonical.normal with rfl | normal
    · cases negative <;> rfl
    · exact absurd normal (by decide)
  · obtain ⟨q, num, den, value, a, f, read, done⟩ := exists_read_finite narrowed pos
    have cell :=
      (single_shortest canonical pos).cell_of_round canonical stable num den value done pos
    have some : 0 < a := by
      by_contra none
      have low := (bottom_pos pos).trans_le cell.low
      rw [Nat.eq_zero_of_not_pos none, Nat.cast_zero, zero_mul] at low
      exact lt_irrefl _ low
    rw [← toRat_fraction] at cell
    rw [read, narrow]
    exact cell.round negative (num_fraction_pos some f) (den_fraction_pos a f) (by decide) canonical

/-- The magnitude whose shortest decimal is read as a number half way to its neighbour. -/
def halfway (negative : Bool) : Number :=
  .finite negative 11420669 (-107)

end Number

end PatternAction
