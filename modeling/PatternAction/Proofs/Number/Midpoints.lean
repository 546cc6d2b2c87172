import Mathlib.Algebra.Order.Field.Power
import Mathlib.Algebra.Order.Field.Rat
import Mathlib.Tactic.FieldSimp
import Mathlib.Tactic.Linarith
import Mathlib.Tactic.LinearCombination
import Mathlib.Tactic.NormNum
import Mathlib.Tactic.Positivity
import Mathlib.Tactic.Ring
import Mathlib.Tactic.Zify

/-!
Decimals beside midpoints.  A midpoint between two neighbours in single precision is an odd multiple
of half a unit in the last place.  How near can a decimal come to one without being one, if the step
of its grid is not less than that unit?  Multiples of a power of ten that are near to multiples of a
power of two are found by Euclid's algorithm, which encloses their ratio from both sides: of all
pairs of multiples up to some size none is nearer than the two pairs that are found.  For every
exponent in single precision these two are farther away than half a unit in double precision, with
one exception.
-/

set_option autoImplicit false
set_option relaxedAutoImplicit false

namespace PatternAction

/-! ## Enclosing a ratio -/

/-- Two pairs of multiples of two numbers, of which one exceeds and the other falls short. -/
structure Enclosure where
  aOver : ℕ
  bOver : ℕ
  excess : ℕ
  aUnder : ℕ
  bUnder : ℕ
  deficit : ℕ
deriving DecidableEq, Repr

namespace Enclosure

/-- What the pairs of an enclosure are for two numbers.  All pairs of integers are combinations of
the two. -/
structure Of (a b : ℕ) (c : Enclosure) : Prop where
  exceeding : c.aOver * a = c.bOver * b + c.excess
  lacking : c.aUnder * a + c.deficit = c.bUnder * b
  adjacent : c.aOver * c.bUnder = c.bOver * c.aUnder + 1

def start (a b : ℕ) : Enclosure :=
  ⟨1, a / b, a % b, 0, 1, b⟩

def lowerOver (c : Enclosure) (t : ℕ) : Enclosure :=
  { c with
    aOver := c.aOver + t * c.aUnder
    bOver := c.bOver + t * c.bUnder
    excess := c.excess - t * c.deficit }

/-- Raise the pair that falls short by the other one, some times. -/
def raiseUnder (c : Enclosure) (t : ℕ) : Enclosure :=
  { c with
    aUnder := c.aUnder + t * c.aOver
    bUnder := c.bUnder + t * c.bOver
    deficit := c.deficit - t * c.excess }

/-- No pair up to a size is between the two, or one of them is exact. -/
def IsDone (size : ℕ) (c : Enclosure) : Prop :=
  size < c.aOver + c.aUnder ∨ c.excess = 0 ∨ c.deficit = 0

instance (size : ℕ) (c : Enclosure) : Decidable (c.IsDone size) :=
  inferInstanceAs (Decidable (_ ∨ _ ∨ _))

/-- Each of the two is exact, or its error is more than a part of the second number. -/
def IsFar (b scale : ℕ) (c : Enclosure) : Prop :=
  (c.excess = 0 ∨ b < scale * c.excess) ∧ (c.deficit = 0 ∨ b < scale * c.deficit)

instance (b scale : ℕ) (c : Enclosure) : Decidable (c.IsFar b scale) :=
  inferInstanceAs (Decidable (_ ∧ _))

/-- Bring the pair nearer that is farther away, with multiples up to a size. -/
def refine (size : ℕ) (c : Enclosure) : Enclosure :=
  if c.deficit ≤ c.excess then
    c.lowerOver (min (c.excess / c.deficit) ((size - c.aOver) / c.aUnder))
  else c.raiseUnder (min (c.deficit / c.excess) ((size - c.aUnder) / c.aOver))

def search (size : ℕ) : ℕ → Enclosure → Enclosure
  | 0, c => c
  | fuel + 1, c => if c.IsDone size then c else (c.refine size).search size fuel

variable {a b : ℕ} {c : Enclosure}

private theorem of_start (a b : ℕ) : (start a b).Of a b where
  exceeding := by
    change 1 * a = a / b * b + a % b
    rw [one_mul, Nat.div_add_mod']
  lacking := by
    change 0 * a + b = 1 * b
    rw [zero_mul, zero_add, one_mul]
  adjacent := by
    change 1 * 1 = a / b * 0 + 1
    rw [mul_zero]

private theorem Of.lowerOver (h : c.Of a b) {t : ℕ} (le : t * c.deficit ≤ c.excess) :
    (c.lowerOver t).Of a b := by
  obtain ⟨exceeding, lacking, adjacent⟩ := h
  refine ⟨?_, lacking, ?_⟩
  · change (c.aOver + t * c.aUnder) * a = (c.bOver + t * c.bUnder) * b + (c.excess - t * c.deficit)
    zify [le] at exceeding lacking ⊢
    linear_combination exceeding + t * lacking
  · change (c.aOver + t * c.aUnder) * c.bUnder = (c.bOver + t * c.bUnder) * c.aUnder + 1
    zify at adjacent ⊢
    linear_combination adjacent

private theorem Of.raiseUnder (h : c.Of a b) {t : ℕ} (le : t * c.excess ≤ c.deficit) :
    (c.raiseUnder t).Of a b := by
  obtain ⟨exceeding, lacking, adjacent⟩ := h
  refine ⟨exceeding, ?_, ?_⟩
  · change (c.aUnder + t * c.aOver) * a + (c.deficit - t * c.excess) = (c.bUnder + t * c.bOver) * b
    zify [le] at exceeding lacking ⊢
    linear_combination lacking + t * exceeding
  · change c.aOver * (c.bUnder + t * c.bOver) = c.bOver * (c.aUnder + t * c.aOver) + 1
    zify at adjacent ⊢
    linear_combination adjacent

private theorem Of.refine (h : c.Of a b) (size : ℕ) : (c.refine size).Of a b := by
  rw [Enclosure.refine]
  split
  · refine h.lowerOver (le_trans ?_ (Nat.div_mul_le_self c.excess c.deficit))
    exact Nat.mul_le_mul_right _ (min_le_left _ _)
  · refine h.raiseUnder (le_trans ?_ (Nat.div_mul_le_self c.deficit c.excess))
    exact Nat.mul_le_mul_right _ (min_le_left _ _)

private theorem Of.search (h : c.Of a b) (size fuel : ℕ) : (c.search size fuel).Of a b := by
  induction fuel generalizing c with
  | zero => exact h
  | succ fuel ih =>
    rw [Enclosure.search]
    split
    · exact h
    · exact ih (h.refine size)

/-- Combinations up to a size have coefficients of different signs: with coefficients of one sign
the pair would be beyond the size, or negative. -/
private theorem signs_differ {i j : ℤ} {n aOver aUnder : ℕ}
    (pair : (n : ℤ) = i * aOver + j * aUnder)
    (bound : n < aOver + aUnder) : i ≤ 0 ∧ 0 ≤ j ∨ 0 ≤ i ∧ j ≤ 0 := by
  have exceeding : (0 : ℤ) ≤ aOver := Int.natCast_nonneg _
  have lacking : (0 : ℤ) ≤ aUnder := Int.natCast_nonneg _
  by_contra same
  rcases lt_or_ge i 0 with left | left
  · have right : j < 0 := by omega
    have first : i * aOver ≤ -1 * aOver := mul_le_mul_of_nonneg_right (by omega) exceeding
    have second : j * aUnder ≤ -1 * aUnder := mul_le_mul_of_nonneg_right (by omega) lacking
    omega
  · have some : 1 ≤ i := by omega
    have right : 1 ≤ j := by omega
    have first : 1 * aOver ≤ i * aOver := mul_le_mul_of_nonneg_right some exceeding
    have second : 1 * aUnder ≤ j * aUnder := mul_le_mul_of_nonneg_right right lacking
    omega

private theorem abs_sub_of_signs {i j x y : ℤ} (x_nonneg : 0 ≤ x) (y_nonneg : 0 ≤ y)
    (signs : i ≤ 0 ∧ 0 ≤ j ∨ 0 ≤ i ∧ j ≤ 0) : |i * x - j * y| = |i| * x + |j| * y := by
  rcases signs with ⟨left, right⟩ | ⟨left, right⟩
  · have first : i * x ≤ 0 := mul_nonpos_of_nonpos_of_nonneg left x_nonneg
    have second : 0 ≤ j * y := mul_nonneg right y_nonneg
    rw [abs_of_nonpos left, abs_of_nonneg right, abs_of_nonpos (by omega)]
    ring
  · have first : 0 ≤ i * x := mul_nonneg left x_nonneg
    have second : j * y ≤ 0 := mul_nonpos_of_nonpos_of_nonneg right y_nonneg
    rw [abs_of_nonneg left, abs_of_nonpos right, abs_of_nonneg (by omega)]
    ring

private theorem Of.exists_combination (h : c.Of a b) {size n : ℕ} (m : ℕ) (done : c.IsDone size)
    (small : n ≤ size) :
    ∃ i j : ℤ, n = i * c.aOver + j * c.aUnder ∧ m = i * c.bOver + j * c.bUnder ∧
      |(n * a - m * b : ℤ)| = |i| * c.excess + |j| * c.deficit := by
  obtain ⟨exceeding, lacking, adjacent⟩ := h
  zify at exceeding lacking adjacent
  have first : (n : ℤ) = (n * c.bUnder - m * c.aUnder) * c.aOver +
      (m * c.aOver - n * c.bOver) * c.aUnder := by
    linear_combination -(n : ℤ) * adjacent
  have second : (m : ℤ) = (n * c.bUnder - m * c.aUnder) * c.bOver +
      (m * c.aOver - n * c.bOver) * c.bUnder := by
    linear_combination -(m : ℤ) * adjacent
  refine ⟨_, _, first, second, ?_⟩
  generalize (n * c.bUnder - m * c.aUnder : ℤ) = i at first second ⊢
  generalize (m * c.aOver - n * c.bOver : ℤ) = j at first second ⊢
  have error : (n * a - m * b : ℤ) = i * c.excess - j * c.deficit := by
    rw [first, second]
    linear_combination i * exceeding + j * lacking
  rw [error]
  rcases done with wide | none | none
  · exact abs_sub_of_signs (Int.natCast_nonneg _) (Int.natCast_nonneg _)
      (signs_differ first (by omega))
  · rw [none, Nat.cast_zero, mul_zero, mul_zero, zero_sub, zero_add, abs_neg, abs_mul, Nat.abs_cast]
  · rw [none, Nat.cast_zero, mul_zero, mul_zero, sub_zero, add_zero, abs_mul, Nat.abs_cast]

private theorem part_eq_zero {i rest error : ℤ} {b scale x : ℕ} (far : x = 0 ∨ b < scale * x)
    (sum : error = |i| * x + rest) (nonneg : 0 ≤ rest) (close : scale * error ≤ b) :
    |i| * x = 0 := by
  rcases far with none | far
  · rw [none, Nat.cast_zero, mul_zero]
  · by_contra some
    have coefficient : 1 ≤ |i| := Int.one_le_abs (by rintro rfl; simp at some)
    have le : (x : ℤ) ≤ error := by
      have : 1 * (x : ℤ) ≤ |i| * x := mul_le_mul_of_nonneg_right coefficient (Int.natCast_nonneg _)
      omega
    have scaled : (scale : ℤ) * x ≤ scale * error :=
      mul_le_mul_of_nonneg_left le (Int.natCast_nonneg _)
    have : (b : ℤ) < scale * x := by exact_mod_cast far
    omega

private theorem Of.eq_of_close (h : c.Of a b) {size scale n m : ℕ} (done : c.IsDone size)
    (far : c.IsFar b scale) (small : n ≤ size) (close : scale * |(n * a - m * b : ℤ)| ≤ b) :
    n * a = m * b := by
  obtain ⟨i, j, -, -, error⟩ := h.exists_combination m done small
  have noOver : |i| * c.excess = 0 := part_eq_zero far.1 error (by positivity) close
  have noUnder : |j| * c.deficit = 0 :=
    part_eq_zero far.2 (error.trans (add_comm _ _)) (by positivity) close
  rw [noOver, noUnder, add_zero, abs_eq_zero, sub_eq_zero] at error
  exact_mod_cast error

/-- If only the pair that exceeds is far away, and twice the other one is beyond the size, then
there is one pair of multiples more that can be near. -/
private theorem Of.eq_or_eq_of_close (h : c.Of a b) {size scale n m : ℕ} (done : c.IsDone size)
    (far : b < scale * c.excess) (less : size < 2 * c.aUnder) (small : n ≤ size)
    (close : scale * |(n * a - m * b : ℤ)| ≤ b) :
    n * a = m * b ∨ m = c.bUnder := by
  obtain ⟨i, j, first, second, error⟩ := h.exists_combination m done small
  have noOver : |i| * c.excess = 0 := part_eq_zero (.inr far) error (by positivity) close
  have some : (c.excess : ℤ) ≠ 0 := by
    intro none
    rw [Nat.cast_eq_zero.mp none, mul_zero] at far
    exact Nat.not_lt_zero b far
  have zero : i = 0 := abs_eq_zero.mp ((mul_eq_zero.mp noOver).resolve_right some)
  rw [zero, zero_mul, zero_add] at first second
  have positive : (0 : ℤ) < c.aUnder := by omega
  have nonneg : 0 ≤ j := by
    by_contra negative
    have : j * c.aUnder < 0 := mul_neg_of_neg_of_pos (not_le.mp negative) positive
    omega
  have one : j < 2 := by
    by_contra more
    have : 2 * (c.aUnder : ℤ) ≤ j * c.aUnder :=
      mul_le_mul_of_nonneg_right (not_lt.mp more) positive.le
    omega
  obtain rfl | rfl : j = 0 ∨ j = 1 := by omega
  · left
    rw [zero_mul] at first second
    rw [Nat.cast_eq_zero.mp first, Nat.cast_eq_zero.mp second, zero_mul, zero_mul]
  · right
    rw [one_mul] at second
    exact_mod_cast second

end Enclosure

/-! ## Powers of ten beside powers of two -/

namespace Midpoint

/-- The exponent of the finest grid of powers of ten whose step is about a power of two or more. -/
def grid (e : Int) : Int :=
  -(-e * 1233 / 4096)

/-- The step of the grid and one half of the power of two, multiplied so that both are integers. -/
def tens (e : Int) : ℕ :=
  10 ^ (grid e).toNat * 2 ^ (1 - e).toNat

@[inherit_doc tens]
def twos (e : Int) : ℕ :=
  2 ^ (e - 1).toNat * 10 ^ (-grid e).toNat

/-- How many steps of the grid reach the first significand beyond all midpoints. -/
def steps (e : Int) : ℕ :=
  2 ^ 25 * twos e / tens e

def enclosure (e : Int) : Enclosure :=
  (Enclosure.start (tens e) (twos e)).search (steps e) 40

/-- The next finer grid has a step that is clearly less than the power of two, and as far as there
are midpoints the points of the grid are on halves of the power of two or far from them. -/
def IsSeparated (e : Int) : Prop :=
  2 ^ 28 * tens e + 20 * twos e < 2 ^ 28 * (20 * twos e) ∧ (enclosure e).IsDone (steps e) ∧
    (enclosure e).IsFar (twos e) (2 ^ 29)

instance (e : Int) : Decidable (IsSeparated e) :=
  inferInstanceAs (Decidable (_ ∧ _ ∧ _))

section Ratio

variable {e : Int}

private theorem pow_toNat {x : ℚ} (some : x ≠ 0) (k : Int) :
    x ^ k.toNat = x ^ k * x ^ (-k).toNat := by
  rw [← zpow_natCast, ← zpow_natCast, ← zpow_add₀ some]
  congr 1
  omega

private theorem tens_eq (e : Int) : (tens e : ℚ) * 2 ^ (e - 1) = twos e * 10 ^ grid e := by
  have two := pow_toNat two_ne_zero (e - 1)
  have ten := pow_toNat (show (10 : ℚ) ≠ 0 by norm_num) (grid e)
  rw [neg_sub] at two
  rw [tens, twos]
  push_cast
  rw [ten, two]
  ring

private theorem twos_pos (e : Int) : 0 < twos e :=
  Nat.mul_pos (Nat.pow_pos (by decide)) (Nat.pow_pos (by decide))

private theorem tens_pos (e : Int) : 0 < tens e :=
  Nat.mul_pos (Nat.pow_pos (by decide)) (Nat.pow_pos (by decide))

private theorem grid_le {k : Int} (fine : 2 ^ 28 * tens e + 20 * twos e < 2 ^ 28 * (20 * twos e))
    (coarse : (1 - 1 / 2 ^ 28) * (2 : ℚ) ^ e ≤ 10 ^ k) : grid e ≤ k := by
  have unit : (0 : ℚ) < 2 ^ (e - 1) := by positivity
  have count : (0 : ℚ) < twos e := Nat.cast_pos.mpr (twos_pos e)
  have ratio := tens_eq e
  have double : (2 : ℚ) ^ e = 2 * 2 ^ (e - 1) := by
    rw [← zpow_one_add₀ two_ne_zero]
    congr 1
    omega
  have cast : (2 ^ 28 * tens e + 20 * twos e : ℚ) < 2 ^ 28 * (20 * twos e) := by exact_mod_cast fine
  have less : (10 : ℚ) ^ grid e < 10 ^ (k + 1) := by
    rw [zpow_add_one₀ (by norm_num)]
    refine lt_of_mul_lt_mul_left ?_ count.le
    calc (twos e : ℚ) * 10 ^ grid e = tens e * 2 ^ (e - 1) := ratio.symm
      _ < 20 * twos e * (1 - 1 / 2 ^ 28) * 2 ^ (e - 1) := by
          gcongr
          linarith
      _ = twos e * ((1 - 1 / 2 ^ 28) * 2 ^ e * 10) := by
          rw [double]
          ring
      _ ≤ twos e * (10 ^ k * 10) := by gcongr
  have := (zpow_lt_zpow_iff_right₀ (by norm_num)).mp less
  omega

private theorem exists_steps {k : Int} {n m : ℕ} (le : grid e ≤ k) (small : m < 2 ^ 25)
    (close : |(n : ℚ) * 10 ^ k - m * 2 ^ (e - 1)| ≤ 2 ^ (e - 30)) :
    ∃ a : ℕ, a ≤ steps e ∧ 2 ^ 29 * |(a * tens e - m * twos e : ℤ)| ≤ twos e ∧
      (a * tens e = m * twos e → (n : ℚ) * 10 ^ k = m * 2 ^ (e - 1)) := by
  have unit : (0 : ℚ) < 2 ^ (e - 1) := by positivity
  have count : (0 : ℚ) < twos e := Nat.cast_pos.mpr (twos_pos e)
  obtain ⟨t, rfl⟩ : ∃ t : ℕ, k = grid e + t := ⟨(k - grid e).toNat, by omega⟩
  have scaled : ((n * 10 ^ t : ℕ) * tens e - m * twos e : ℚ) * 2 ^ (e - 1) =
      (n * 10 ^ (grid e + t) - m * 2 ^ (e - 1)) * twos e := by
    rw [zpow_add₀ (by norm_num), zpow_natCast, sub_mul, sub_mul, mul_assoc, tens_eq]
    push_cast
    ring
  refine ⟨n * 10 ^ t, ?_⟩
  generalize n * 10 ^ t = a at scaled ⊢
  have part : (2 : ℚ) ^ 29 * 2 ^ (e - 30) = 2 ^ (e - 1) := by
    rw [← zpow_natCast, ← zpow_add₀ two_ne_zero]
    congr 1
    push_cast
    ring
  have near : (2 : ℚ) ^ 29 * |(a * tens e - m * twos e : ℚ)| ≤ twos e := by
    refine le_of_mul_le_mul_right ?_ unit
    calc (2 : ℚ) ^ 29 * |(a * tens e - m * twos e : ℚ)| * 2 ^ (e - 1)
        = (2 : ℚ) ^ 29 * (|(n : ℚ) * 10 ^ (grid e + t) - m * 2 ^ (e - 1)| * twos e) := by
          have := congrArg abs scaled
          rw [abs_mul, abs_mul, abs_of_pos unit, abs_of_pos count] at this
          rw [mul_assoc, this]
      _ ≤ (2 : ℚ) ^ 29 * (2 ^ (e - 30) * twos e) := by gcongr
      _ = twos e * 2 ^ (e - 1) := by
          rw [← mul_assoc, part, mul_comm]
  refine ⟨?_, by exact_mod_cast near, fun same => ?_⟩
  · rw [steps, Nat.le_div_iff_mul_le (tens_pos e)]
    have bound : (m : ℚ) + 1 ≤ 2 ^ 25 := by exact_mod_cast small
    have high : (a * tens e - m * twos e : ℚ) ≤ twos e := by
      have := le_abs_self (a * tens e - m * twos e : ℚ)
      have := abs_nonneg (a * tens e - m * twos e : ℚ)
      linarith
    have le : (a * tens e : ℚ) ≤ 2 ^ 25 * twos e := by
      calc (a * tens e : ℚ) ≤ (m + 1) * twos e := by linarith
        _ ≤ 2 ^ 25 * twos e := by gcongr
    exact_mod_cast le
  · have none : (a * tens e - m * twos e : ℚ) = 0 := by
      rw [sub_eq_zero]
      exact_mod_cast same
    rw [none, zero_mul, zero_eq_mul] at scaled
    exact sub_eq_zero.mp (scaled.resolve_right count.ne')

end Ratio

private theorem isSeparated_of_lt : ∀ i : ℕ, i < 254 → i = 42 ∨ IsSeparated ((i : Int) - 149) := by
  decide +kernel

/-- A decimal on a grid about as coarse as the single numbers of an exponent is a midpoint between
two of them or farther away from it than half a unit in double precision.  There is one exception.
-/
theorem eq_of_close {e k : Int} {n m : ℕ} (least : -149 ≤ e) (most : e ≤ 104)
    (coarse : (1 - 1 / 2 ^ 28) * (2 : ℚ) ^ e ≤ 10 ^ k) (small : m < 2 ^ 25)
    (close : |(n : ℚ) * 10 ^ k - m * 2 ^ (e - 1)| ≤ 2 ^ (e - 30)) :
    (n : ℚ) * 10 ^ k = m * 2 ^ (e - 1) ∨ e = -107 ∧ m = 22841339 := by
  have of := (Enclosure.of_start (tens e) (twos e)).search (steps e) 40
  rcases isSeparated_of_lt (e + 149).toNat (by omega) with exception | separated
  · obtain rfl : e = -107 := by omega
    obtain ⟨a, reach, near, exact⟩ := exists_steps (grid_le (by decide +kernel) coarse) small close
    rcases of.eq_or_eq_of_close (by decide +kernel) (by decide +kernel) (by decide +kernel)
      reach near
      with same | same
    · exact .inl (exact same)
    · refine .inr ⟨rfl, same.trans ?_⟩
      decide +kernel
  · rw [show ((e + 149).toNat : Int) - 149 = e by omega] at separated
    obtain ⟨fine, done, far⟩ := separated
    obtain ⟨a, reach, near, exact⟩ := exists_steps (grid_le fine coarse) small close
    exact .inl (exact (of.eq_of_close done far reach near))

end Midpoint

end PatternAction
