import Mathlib.Tactic.FieldSimp
import Mathlib.Tactic.Ring
import PatternAction.Number.Digits
import PatternAction.Proofs.Number.Exact

/-!
Rounding.  The value to which a fraction is rounded is one that the format has, and none that the
format has is nearer.  So what the format has is rounded to itself.  The fractions that are rounded
to a given value are those in its interval, which reaches half way to each neighbour and has its
ends if the significand is even.
-/

set_option autoImplicit false
set_option relaxedAutoImplicit false

namespace PatternAction

/-! ## Integers -/

/-- The nearest integer, and of two that are equally near the even one. -/
structure NearestEven (x : ℚ) (r : ℕ) : Prop where
  near : |x - r| ≤ 1 / 2
  even : |x - r| = 1 / 2 → r % 2 = 0

namespace NearestEven

variable {x : ℚ} {r : ℕ}

private theorem le (h : NearestEven x r) : x ≤ r + 1 / 2 := by
  have := (abs_le.mp h.near).2
  linarith

private theorem ge (h : NearestEven x r) : r - 1 / 2 ≤ x := by
  have := (abs_le.mp h.near).1
  linarith

/-- Of two different integers, one would be at least one half below the number and the other at
least one half above it, both would be even, and there would be another one between them. -/
private theorem not_less {s : ℕ} (hr : NearestEven x r) (hs : NearestEven x s) : ¬ r < s := by
  intro less
  have gap : (r : ℚ) + 1 ≤ s := by exact_mod_cast less
  have below := hr.le
  have above := hs.ge
  have evenLow : r % 2 = 0 := by
    refine hr.even ?_
    rw [abs_of_nonneg (by linarith)]
    linarith
  have evenHigh : s % 2 = 0 := by
    refine hs.even ?_
    rw [abs_of_nonpos (by linarith)]
    linarith
  have next : s ≤ r + 1 := by
    have : (s : ℚ) ≤ r + 1 := by linarith
    exact_mod_cast this
  omega

private theorem unique {s : ℕ} (hr : NearestEven x r) (hs : NearestEven x s) : r = s :=
  Nat.le_antisymm (Nat.le_of_not_lt (hs.not_less hr)) (Nat.le_of_not_lt (hr.not_less hs))

private theorem abs_le_abs (h : NearestEven x r) (k : ℕ) : |x - r| ≤ |x - k| := by
  have low := h.ge
  have high := h.le
  rcases lt_trichotomy r k with less | rfl | greater
  · have gap : (r : ℚ) + 1 ≤ k := by exact_mod_cast less
    rw [abs_of_nonpos (show x - k ≤ 0 by linarith)]
    exact abs_le.mpr ⟨by linarith, by linarith⟩
  · exact le_refl _
  · have gap : (k : ℚ) + 1 ≤ r := by exact_mod_cast greater
    rw [abs_of_nonneg (show 0 ≤ x - k by linarith)]
    exact abs_le.mpr ⟨by linarith, by linarith⟩

private theorem of_part {t : ℚ} (nonneg : 0 ≤ t) (small : t < 1) (k : ℕ) :
    NearestEven (k + t) (if t < 1 / 2 ∨ t = 1 / 2 ∧ k % 2 = 0 then k else k + 1) := by
  by_cases down : t < 1 / 2 ∨ t = 1 / 2 ∧ k % 2 = 0
  · rw [if_pos down]
    have distance : |(k : ℚ) + t - k| = t := by rw [add_sub_cancel_left, abs_of_nonneg nonneg]
    refine ⟨?_, fun reached => ?_⟩
    · rw [distance]
      rcases down with less | ⟨same, -⟩
      · exact less.le
      · exact same.le
    · rw [distance] at reached
      rcases down with less | ⟨-, even⟩
      · exact absurd reached less.ne
      · exact even
  · rw [if_neg down]
    rw [not_or, not_lt, not_and] at down
    obtain ⟨more, odd⟩ := down
    have distance : |(k : ℚ) + t - (k + 1 : ℕ)| = 1 - t := by
      push_cast
      rw [abs_of_nonpos (by linarith)]
      ring
    refine ⟨?_, fun reached => ?_⟩
    · rw [distance]
      linarith
    · rw [distance] at reached
      have := odd (by linarith)
      omega

end NearestEven

namespace Fraction

variable {q : Fraction}

private theorem nearestEven_round (den : 0 < q.den) : NearestEven q.toRat q.round := by
  obtain ⟨n, d⟩ := q
  have pos : (0 : ℚ) < d := Nat.cast_pos.mpr den
  have parts : (n : ℚ) = d * (n / d : ℕ) + (n % d : ℕ) := by
    exact_mod_cast (Nat.div_add_mod n d).symm
  have value : toRat ⟨n, d⟩ = (n / d : ℕ) + (n % d : ℕ) / d := by
    rw [toRat, div_eq_iff pos.ne']
    field_simp
    linarith
  have small : ((n % d : ℕ) : ℚ) / d < 1 := by
    rw [div_lt_one pos]
    exact_mod_cast Nat.mod_lt n den
  have half : 2 * (n % d) < d ↔ ((n % d : ℕ) : ℚ) / d < 1 / 2 := by
    rw [div_lt_div_iff₀ pos two_pos, one_mul, mul_comm]
    exact_mod_cast Iff.rfl
  have tie : 2 * (n % d) = d ↔ ((n % d : ℕ) : ℚ) / d = 1 / 2 := by
    rw [div_eq_div_iff pos.ne' two_ne_zero, one_mul, mul_comm]
    exact_mod_cast Iff.rfl
  have result : round ⟨n, d⟩ =
      if 2 * (n % d) < d ∨ (2 * (n % d) = d ∧ n / d % 2 = 0) then n / d else n / d + 1 := rfl
  rw [value, result]
  simp only [half, tie]
  exact .of_part (by positivity) small (n / d)

end Fraction

/-! ## Values of a format -/

namespace Precision

/-- A significand and an exponent as they are in the values of a format: all bits of the significand
are used, unless the exponent is the least. -/
structure Canonical (p : Precision) (m : ℕ) (e : Int) : Prop where
  significand : m < 2 ^ p.bits
  least : p.least ≤ e
  beyond : e + p.bits ≤ p.beyond
  normal : e = p.least ∨ 2 ^ (p.bits - 1) ≤ m

variable (p : Precision) (negative : Bool) {q : Fraction}

/-- The exponent of the last place to which a fraction is rounded. -/
def lastPlace (q : Fraction) : Int :=
  max (q.log2 + 1 - p.bits) p.least

/-- The significand to which a fraction is rounded, which may need one more bit than there are. -/
def rounded (q : Fraction) : ℕ :=
  (q.shift (-p.lastPlace q)).round

def units (q : Fraction) : ℚ :=
  q.toRat / 2 ^ p.lastPlace q

private theorem toRat_eq_units (q : Fraction) : q.toRat = p.units q * 2 ^ p.lastPlace q := by
  have pos : (0 : ℚ) < 2 ^ p.lastPlace q := by positivity
  rw [units, div_mul_cancel₀ _ pos.ne']

private theorem round_eq (num : 0 < q.num) :
    p.round negative q =
      if p.rounded q = 2 ^ p.bits then
        if p.beyond < p.lastPlace q + 1 + p.bits then .infinite negative
        else .finite negative (2 ^ (p.bits - 1)) (p.lastPlace q + 1)
      else
        if p.beyond < p.lastPlace q + p.bits then .infinite negative
        else .finite negative (p.rounded q) (p.lastPlace q) := by
  rw [round, if_neg num.ne']
  dsimp only
  by_cases carry : (q.shift (-max (q.log2 + 1 - p.bits) p.least)).round = Nat.pow 2 p.bits
  · rw [if_pos carry, if_pos (show p.rounded q = 2 ^ p.bits from carry)]
    rfl
  · rw [if_neg carry, if_neg (show ¬ p.rounded q = 2 ^ p.bits from carry)]
    rfl

variable (num : 0 < q.num) (den : 0 < q.den)

include den in
private theorem nearestEven_rounded : NearestEven (p.units q) (p.rounded q) := by
  have moved : (q.shift (-p.lastPlace q)).toRat = p.units q := by
    rw [Fraction.toRat_shift, zpow_neg, ← div_eq_mul_inv, units]
  rw [← moved]
  exact Fraction.nearestEven_round (Fraction.den_shift_pos den _)

include num den

private theorem units_lt : p.units q < 2 ^ p.bits := by
  have high := (Fraction.log2_spec num den).2
  have place : q.log2 + 1 ≤ p.bits + p.lastPlace q := by
    rw [lastPlace]
    omega
  rw [units, div_lt_iff₀ (by positivity), ← zpow_natCast, ← zpow_add₀ two_ne_zero]
  exact high.trans_le (zpow_le_zpow_right₀ one_le_two place)

private theorem le_units (some : 0 < p.bits) (other : p.lastPlace q ≠ p.least) :
    2 ^ (p.bits - 1) ≤ p.units q := by
  have low := (Fraction.log2_spec num den).1
  have place : ((p.bits - 1 : ℕ) : Int) + p.lastPlace q = q.log2 := by
    rw [lastPlace] at other ⊢
    omega
  rw [units, le_div_iff₀ (by positivity), ← zpow_natCast, ← zpow_add₀ two_ne_zero, place]
  exact low

private theorem rounded_le : p.rounded q ≤ 2 ^ p.bits := by
  have low := (p.nearestEven_rounded den).ge
  have high := p.units_lt num den
  have less : (p.rounded q : ℚ) < (2 ^ p.bits + 1 : ℕ) := by
    push_cast
    linarith
  exact Nat.lt_succ_iff.mp (by exact_mod_cast less)

private theorem le_rounded (some : 0 < p.bits) (other : p.lastPlace q ≠ p.least) :
    2 ^ (p.bits - 1) ≤ p.rounded q := by
  have low := p.le_units num den some other
  have high := (p.nearestEven_rounded den).le
  have less : ((2 ^ (p.bits - 1) : ℕ) : ℚ) < (p.rounded q + 1 : ℕ) := by
    push_cast
    linarith
  exact Nat.lt_succ_iff.mp (by exact_mod_cast less)

omit num den in
private theorem two_pow_bits (some : 0 < p.bits) : 2 ^ p.bits = 2 * 2 ^ (p.bits - 1) := by
  rw [← pow_succ']
  congr 1
  omega

theorem round_finite {s : Bool} {m : ℕ} {e : Int} (some : 0 < p.bits)
    (done : p.round negative q = .finite s m e) :
    s = negative ∧ p.Canonical m e ∧ (m : ℚ) * 2 ^ e = p.rounded q * 2 ^ p.lastPlace q ∧
      p.lastPlace q ≤ e := by
  have least : p.least ≤ p.lastPlace q := le_max_right _ _
  rw [p.round_eq negative num] at done
  by_cases carry : p.rounded q = 2 ^ p.bits
  · rw [if_pos carry] at done
    split at done
    · cases done
    · cases done
      rename_i fits
      refine ⟨rfl, ⟨?_, by omega, by omega, .inr (le_refl _)⟩, ?_, by omega⟩
      · have := p.two_pow_bits some
        have := Nat.two_pow_pos (p.bits - 1)
        omega
      · rw [carry, p.two_pow_bits some, zpow_add_one₀ two_ne_zero]
        push_cast
        ring
  · rw [if_neg carry] at done
    split at done
    · cases done
    · cases done
      rename_i fits
      have le := p.rounded_le num den
      refine ⟨rfl, ⟨lt_of_le_of_ne le carry, least, by omega, ?_⟩, rfl, le_refl _⟩
      by_cases lowest : p.lastPlace q = p.least
      · exact .inl lowest
      · exact .inr (p.le_rounded num den some lowest)

theorem round_congr {r : Fraction} (num' : 0 < r.num) (den' : 0 < r.den)
    (same : q.toRat = r.toRat) :
    p.round negative q = p.round negative r := by
  have logarithm : q.log2 = r.log2 := by
    have low := Fraction.log2_spec num den
    have high := Fraction.log2_spec num' den'
    rw [same] at low
    exact le_antisymm (Fraction.le_log2 num' den' low.1) (Fraction.le_log2 num den (same ▸ high.1))
  have place : p.lastPlace q = p.lastPlace r := by rw [lastPlace, lastPlace, logarithm]
  have units : p.units q = p.units r := by rw [Precision.units, Precision.units, same, place]
  have significand : p.rounded q = p.rounded r := by
    have nearest := p.nearestEven_rounded den
    rw [units] at nearest
    exact nearest.unique (p.nearestEven_rounded den')
  rw [p.round_eq negative num, p.round_eq negative num', significand, place]

theorem nearest_of_round {s : Bool} {m a : ℕ} {e f : Int} (some : 0 < p.bits)
    (done : p.round negative q = .finite s m e) (significand : a ≤ 2 ^ p.bits)
    (least : p.least ≤ f) : |q.toRat - m * 2 ^ e| ≤ |q.toRat - a * 2 ^ f| := by
  obtain ⟨-, -, value, -⟩ := p.round_finite negative num den some done
  have nearest := p.nearestEven_rounded den
  have pos : (0 : ℚ) < 2 ^ p.lastPlace q := by positivity
  have scaled (k : ℚ) :
      |q.toRat - k * 2 ^ p.lastPlace q| = |p.units q - k| * 2 ^ p.lastPlace q := by
    rw [p.toRat_eq_units q, ← sub_mul, abs_mul, abs_of_pos pos]
  have multiple (k : ℕ) : |q.toRat - m * 2 ^ e| ≤ |q.toRat - k * 2 ^ p.lastPlace q| := by
    rw [value, scaled, scaled]
    exact mul_le_mul_of_nonneg_right (nearest.abs_le_abs k) pos.le
  by_cases coarse : p.lastPlace q ≤ f
  · -- The value is a multiple of the last place.
    obtain ⟨k, rfl⟩ : ∃ k : ℕ, f = p.lastPlace q + k := ⟨(f - p.lastPlace q).toNat, by omega⟩
    have same : (a : ℚ) * 2 ^ (p.lastPlace q + k) = (a * 2 ^ k : ℕ) * 2 ^ p.lastPlace q := by
      rw [zpow_add₀ two_ne_zero, zpow_natCast]
      push_cast
      ring
    rw [same]
    exact multiple _
  · -- The value is at most the least significand of all bits, which is at most the fraction.
    have other : p.lastPlace q ≠ p.least := by omega
    have low := p.le_units num den some other
    have bound : (a : ℚ) * 2 ^ f ≤ (2 ^ (p.bits - 1) : ℕ) * 2 ^ p.lastPlace q := by
      have cast : (a : ℚ) ≤ 2 ^ p.bits := by exact_mod_cast significand
      calc (a : ℚ) * 2 ^ f ≤ 2 ^ p.bits * 2 ^ (p.lastPlace q - 1) := by
            gcongr
            · exact one_le_two
            · omega
        _ = (2 ^ (p.bits - 1) : ℕ) * 2 ^ p.lastPlace q := by
            rw [← zpow_natCast, ← zpow_add₀ two_ne_zero]
            push_cast
            rw [← zpow_natCast, ← zpow_add₀ two_ne_zero]
            congr 1
            omega
    have reached : ((2 ^ (p.bits - 1) : ℕ) : ℚ) * 2 ^ p.lastPlace q ≤ q.toRat := by
      rw [p.toRat_eq_units q]
      push_cast
      gcongr
    refine (multiple (2 ^ (p.bits - 1))).trans ?_
    rw [abs_of_nonneg (by linarith), abs_of_nonneg (by linarith)]
    linarith

theorem le_of_round {s : Bool} {m a : ℕ} {e f : Int} (some : 0 < p.bits)
    (done : p.round negative q = .finite s m e) (significand : a ≤ 2 ^ p.bits)
    (least : p.least ≤ f) (low : (a : ℚ) * 2 ^ f ≤ q.toRat) : (a : ℚ) * 2 ^ f ≤ m * 2 ^ e := by
  have near := p.nearest_of_round negative num den some done significand least
  by_contra past
  rw [abs_of_nonneg (by linarith), abs_of_nonneg (by linarith)] at near
  linarith

theorem ge_of_round {s : Bool} {m a : ℕ} {e f : Int} (some : 0 < p.bits)
    (done : p.round negative q = .finite s m e) (significand : a ≤ 2 ^ p.bits)
    (least : p.least ≤ f) (high : q.toRat ≤ a * 2 ^ f) : (m : ℚ) * 2 ^ e ≤ a * 2 ^ f := by
  have near := p.nearest_of_round negative num den some done significand least
  by_contra past
  rw [abs_of_nonpos (by linarith), abs_of_nonpos (by linarith)] at near
  linarith

/-- What is well below the first power of two beyond the format is rounded to a finite value. -/
theorem exists_round_finite (fits : p.least + p.bits < p.beyond)
    (small : q.toRat < 2 ^ (p.beyond - 1)) : ∃ m e, p.round negative q = .finite negative m e := by
  have exponent := Fraction.log2_lt num den small
  have place : p.lastPlace q + 1 + p.bits ≤ p.beyond := by
    rw [lastPlace]
    omega
  rw [p.round_eq negative num]
  by_cases carry : p.rounded q = 2 ^ p.bits
  · exact ⟨_, _, by rw [if_pos carry, if_neg (by omega)]⟩
  · exact ⟨_, _, by rw [if_neg carry, if_neg (by omega)]⟩

theorem round_exact {a : ℕ} {f : Int} (some : 0 < p.bits) (fits : p.least + p.bits < p.beyond)
    (small : q.toRat < 2 ^ (p.beyond - 1)) (significand : a ≤ 2 ^ p.bits) (least : p.least ≤ f)
    (value : q.toRat = a * 2 ^ f) :
    ∃ m e, p.round negative q = .finite negative m e ∧ p.Canonical m e ∧ m * 2 ^ e = q.toRat := by
  obtain ⟨m, e, done⟩ := p.exists_round_finite negative num den fits small
  have canonical := (p.round_finite negative num den some done).2.1
  have nearest := p.nearest_of_round negative num den some done significand least
  refine ⟨m, e, done, canonical, ?_⟩
  rw [value, sub_self, abs_zero] at nearest
  have zero := abs_eq_zero.mp (le_antisymm nearest (abs_nonneg _))
  rw [value]
  linarith

end Precision

/-! ## What is rounded to a value -/

namespace Precision

variable (p : Precision) (m : ℕ) (e : Int)

/-- Half way down to the neighbour of a value, which is nearer below a power of two. -/
def bottom : ℚ :=
  (m - (if m = 2 ^ (p.bits - 1) ∧ p.least < e then 1 / 4 else 1 / 2)) * 2 ^ e

/-- Half way up to the neighbour of a value. -/
def top : ℚ :=
  (m + 1 / 2) * 2 ^ e

/-- The numbers from half way down to half way up, with both ends if the significand is even. -/
structure Cell (x : ℚ) : Prop where
  low : p.bottom m e ≤ x
  high : x ≤ top m e
  ends : m % 2 = 1 → x ≠ p.bottom m e ∧ x ≠ top m e

theorem le_bottom : ((m : ℚ) - 1 / 2) * 2 ^ e ≤ p.bottom m e := by
  rw [bottom]
  gcongr
  split <;> norm_num

theorem bottom_lt : p.bottom m e < m * 2 ^ e := by
  rw [bottom]
  gcongr
  split <;> norm_num

theorem lt_top : (m : ℚ) * 2 ^ e < top m e := by
  rw [top]
  gcongr
  norm_num

theorem Cell.self : p.Cell m e (m * 2 ^ e) :=
  ⟨(p.bottom_lt m e).le, (lt_top m e).le, fun _ => ⟨(p.bottom_lt m e).ne', (lt_top m e).ne⟩⟩

variable {p m e} {x : ℚ}

private theorem Cell.nearestEven (cell : p.Cell m e x) : NearestEven (x / 2 ^ e) m := by
  have pos : (0 : ℚ) < 2 ^ e := by positivity
  have low : (m : ℚ) - 1 / 2 ≤ x / 2 ^ e := by
    rw [le_div_iff₀ pos]
    exact (p.le_bottom m e).trans cell.low
  have high : x / 2 ^ e ≤ m + 1 / 2 := by
    rw [div_le_iff₀ pos]
    exact cell.high
  refine ⟨abs_le.mpr ⟨by linarith, by linarith⟩, fun tie => ?_⟩
  by_contra odd
  obtain ⟨notBottom, notTop⟩ := cell.ends (by omega)
  rcases (abs_eq (by norm_num)).mp tie with above | below
  · refine notTop ?_
    rw [top, ← div_eq_iff pos.ne']
    linarith
  · refine notBottom (le_antisymm ?_ cell.low)
    refine le_trans ?_ (p.le_bottom m e)
    rw [← div_le_iff₀ pos]
    linarith

variable (negative : Bool) {q : Fraction} (num : 0 < q.num) (den : 0 < q.den)
include num den

private theorem Cell.log2_lt (canonical : p.Canonical m e) (cell : p.Cell m e q.toRat) :
    q.log2 < p.bits + e := by
  have bound : (m : ℚ) + 1 ≤ 2 ^ p.bits := by exact_mod_cast canonical.significand
  refine Fraction.log2_lt num den (cell.high.trans_lt ?_)
  rw [top, zpow_add₀ two_ne_zero, zpow_natCast]
  gcongr
  linarith

private theorem Cell.round_in_place (canonical : p.Canonical m e) (cell : p.Cell m e q.toRat)
    (place : p.lastPlace q = e) : p.round negative q = .finite negative m e := by
  have rounded : p.rounded q = m := by
    refine (p.nearestEven_rounded den).unique ?_
    rw [units, place]
    exact cell.nearestEven
  have full : ¬ p.rounded q = 2 ^ p.bits := by
    have := canonical.significand
    omega
  have beyond := canonical.beyond
  rw [p.round_eq negative num, if_neg full, place, if_neg (by omega), rounded]

private theorem round_below_power (some : 0 < p.bits) (least : p.least < e)
    (beyond : e + p.bits ≤ p.beyond) (bottom : ((2 : ℚ) ^ (p.bits - 1) - 1 / 4) * 2 ^ e ≤ q.toRat)
    (less : q.toRat < 2 ^ (p.bits - 1) * 2 ^ e) :
    p.round negative q = .finite negative (2 ^ (p.bits - 1)) e := by
  have half : (2 : ℚ) ^ p.bits = 2 * 2 ^ (p.bits - 1) := by exact_mod_cast p.two_pow_bits some
  have one : (1 : ℚ) ≤ 2 ^ (p.bits - 1) := one_le_pow₀ one_le_two
  have place : p.lastPlace q = e - 1 := by
    have high : q.log2 < (p.bits - 1 : ℕ) + e := by
      refine Fraction.log2_lt num den ?_
      rwa [zpow_add₀ two_ne_zero, zpow_natCast]
    have low : ((p.bits - 1 : ℕ) : Int) + (e - 1) ≤ q.log2 := by
      refine Fraction.le_log2 num den (le_trans ?_ bottom)
      rw [zpow_add₀ two_ne_zero, zpow_natCast, zpow_sub_one₀ two_ne_zero]
      have : (2 : ℚ) ^ (p.bits - 1) * (2 ^ e * 2⁻¹) = 2 ^ (p.bits - 1) / 2 * 2 ^ e := by ring
      rw [this]
      gcongr
      linarith
    rw [lastPlace]
    omega
  have rounded : p.rounded q = 2 ^ p.bits := by
    refine (p.nearestEven_rounded den).unique ?_
    have low : (2 : ℚ) ^ p.bits - 1 / 2 ≤ q.toRat / 2 ^ (e - 1) := by
      rw [le_div_iff₀ (by positivity), zpow_sub_one₀ two_ne_zero, half]
      linarith
    have high : q.toRat / 2 ^ (e - 1) ≤ 2 ^ p.bits := by
      rw [div_le_iff₀ (by positivity), zpow_sub_one₀ two_ne_zero, half]
      linarith
    rw [units, place]
    refine ⟨?_, fun _ => ?_⟩
    · push_cast
      exact abs_le.mpr ⟨by linarith, by linarith⟩
    · rw [p.two_pow_bits some]
      exact Nat.mul_mod_right 2 _
  rw [p.round_eq negative num, if_pos rounded, place, if_neg (by omega), sub_add_cancel]

omit num den in
private theorem Cell.eq_power (cell : p.Cell m e x) (normal : 2 ^ (p.bits - 1) ≤ m)
    (less : x < 2 ^ (p.bits - 1) * 2 ^ e) : m = 2 ^ (p.bits - 1) := by
  have pos : (0 : ℚ) < 2 ^ e := by positivity
  refine le_antisymm ?_ normal
  by_contra greater
  have cast : (2 : ℚ) ^ (p.bits - 1) + 1 ≤ m := by exact_mod_cast not_le.mp greater
  have low := ((p.le_bottom m e).trans cell.low).trans_lt less
  rw [mul_lt_mul_iff_of_pos_right pos] at low
  linarith

theorem Cell.round (some : 0 < p.bits) (canonical : p.Canonical m e) (cell : p.Cell m e q.toRat) :
    p.round negative q = .finite negative m e := by
  have below := cell.log2_lt num den canonical
  have least := canonical.least
  by_cases reached : (2 : ℚ) ^ (p.bits - 1) * 2 ^ e ≤ q.toRat
  · refine cell.round_in_place negative num den canonical ?_
    rw [← zpow_natCast, ← zpow_add₀ two_ne_zero] at reached
    have := Fraction.le_log2 num den reached
    rw [lastPlace]
    omega
  · by_cases lowest : e = p.least
    · refine cell.round_in_place negative num den canonical ?_
      rw [lastPlace]
      omega
    · have power := cell.eq_power (canonical.normal.resolve_left lowest) (not_le.mp reached)
      have low := cell.low
      rw [bottom, if_pos ⟨power, by omega⟩, power] at low
      push_cast at low
      rw [power]
      exact round_below_power negative num den some (by omega) canonical.beyond low
        (not_le.mp reached)

end Precision

end PatternAction
