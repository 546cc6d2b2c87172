import PatternAction.Proofs.Number.Rounding

/-!
The fewest digits.  A value is written with a decimal that is rounded back to it.  Coarser grids of
powers of ten than that of its last digit have no such decimal, and on its own grid it is the one
nearest to the value.
-/

set_option autoImplicit false
set_option relaxedAutoImplicit false

namespace PatternAction

/-! ## Decimal logarithms -/

theorem length_decimalDigits_pos (n : ℕ) : 0 < (decimalDigits n).length :=
  Nat.length_toDigits_pos

private theorem lt_pow_length_decimalDigits (n : ℕ) : n < 10 ^ (decimalDigits n).length :=
  (Nat.length_toDigits_le_iff (by decide) (length_decimalDigits_pos n)).mp (le_refl _)

theorem pow_length_decimalDigits_le {n : ℕ} (pos : 0 < n) :
    10 ^ ((decimalDigits n).length - 1) ≤ n := by
  by_cases single : (decimalDigits n).length - 1 = 0
  · rw [single, pow_zero]
    exact pos
  · by_contra less
    have short := (Nat.length_toDigits_le_iff (by decide) (Nat.pos_of_ne_zero single)).mpr
      (not_le.mp less)
    change (decimalDigits n).length ≤ _ at short
    omega

namespace Fraction

private theorem tensBelow_spec {den fuel num : ℕ} (enough : den ≤ num * 10 ^ fuel) :
    den ≤ num * 10 ^ tensBelow den fuel num ∧
      ∀ k < tensBelow den fuel num, num * 10 ^ k < den := by
  induction fuel generalizing num with
  | zero => exact ⟨enough, nofun⟩
  | succ fuel ih =>
    rw [tensBelow]
    by_cases reached : den ≤ num
    · rw [if_pos reached, pow_zero, mul_one]
      exact ⟨reached, nofun⟩
    · rw [if_neg reached]
      have more : den ≤ num * 10 * 10 ^ fuel := by
        rw [mul_assoc, ← pow_succ']
        exact enough
      obtain ⟨last, before⟩ := ih more
      refine ⟨?_, fun k less => ?_⟩
      · rw [pow_succ', ← mul_assoc]
        exact last
      · cases k with
        | zero =>
          rw [pow_zero, mul_one]
          exact not_le.mp reached
        | succ k =>
          rw [pow_succ', ← mul_assoc]
          exact before k (by omega)

variable {q : Fraction} (num : 0 < q.num) (den : 0 < q.den)
include num den

private theorem log10_spec : (10 : ℚ) ^ q.log10 ≤ q.toRat ∧ q.toRat < 10 ^ (q.log10 + 1) := by
  have denPos : (0 : ℚ) < q.den := Nat.cast_pos.mpr den
  rw [log10]
  by_cases great : q.den ≤ q.num
  · rw [if_pos great]
    have some : 0 < q.floor := Nat.div_pos great den
    have length := length_decimalDigits_pos q.floor
    have low : q.floor * q.den ≤ q.num := Nat.div_mul_le_self q.num q.den
    have high : q.num < (q.floor + 1) * q.den := Nat.lt_mul_of_div_lt (Nat.lt_succ_self _) den
    constructor
    · have cast : ((decimalDigits q.floor).length : Int) - 1 =
          ((decimalDigits q.floor).length - 1 : ℕ) := by omega
      rw [cast, zpow_natCast, toRat, le_div_iff₀ denPos]
      calc (10 : ℚ) ^ ((decimalDigits q.floor).length - 1) * q.den
          ≤ q.floor * q.den := by
            gcongr
            exact_mod_cast pow_length_decimalDigits_le some
        _ ≤ q.num := by exact_mod_cast low
    · rw [sub_add_cancel, zpow_natCast, toRat, div_lt_iff₀ denPos]
      calc (q.num : ℚ) < (q.floor + 1) * q.den := by exact_mod_cast high
        _ ≤ 10 ^ (decimalDigits q.floor).length * q.den := by
            gcongr
            exact_mod_cast lt_pow_length_decimalDigits q.floor
  · rw [if_neg great]
    have enough : q.den ≤ q.num * 10 ^ (q.den.log2 + 1) := by
      calc q.den ≤ 2 ^ (q.den.log2 + 1) := Nat.lt_log2_self.le
        _ ≤ 10 ^ (q.den.log2 + 1) := Nat.pow_le_pow_left (by decide) _
        _ ≤ q.num * 10 ^ (q.den.log2 + 1) := Nat.le_mul_of_pos_left _ num
    obtain ⟨last, before⟩ := tensBelow_spec enough
    set t := tensBelow q.den (q.den.log2 + 1) q.num with same
    constructor
    · rw [zpow_neg, zpow_natCast, toRat, inv_le_iff_one_le_mul₀ (by positivity), div_mul_eq_mul_div,
        one_le_div denPos]
      exact_mod_cast last
    · have positive : t ≠ 0 := by
        intro zero
        rw [zero, pow_zero, mul_one] at last
        exact great last
      obtain ⟨k, more⟩ : ∃ k, t = k + 1 := ⟨t - 1, by omega⟩
      have cast : -(t : Int) + 1 = -(k : Int) := by omega
      have short := before k (by omega)
      rw [cast, zpow_neg, zpow_natCast, toRat, lt_inv_comm₀ (by positivity) (by positivity),
        inv_div, lt_div_iff₀ (by positivity), mul_comm]
      exact_mod_cast short

theorem le_log10 {e : Int} (low : (10 : ℚ) ^ e ≤ q.toRat) : e ≤ q.log10 := by
  have less : (10 : ℚ) ^ e < 10 ^ (q.log10 + 1) := low.trans_lt (log10_spec num den).2
  have := (zpow_lt_zpow_iff_right₀ (by norm_num)).mp less
  omega

end Fraction

/-! ## Intervals -/

namespace Number

theorem toRat_fraction (m : ℕ) (e : Int) : (fraction m e).toRat = m * 2 ^ e := by
  rw [fraction, Fraction.toRat_shift, Fraction.toRat, Nat.cast_one, div_one]

theorem den_fraction_pos (m : ℕ) (e : Int) : 0 < (fraction m e).den :=
  Fraction.den_shift_pos Nat.one_pos e

theorem num_fraction_pos {m : ℕ} (pos : 0 < m) (e : Int) : 0 < (fraction m e).num := by
  have size : (0 : ℚ) < (fraction m e).toRat := by
    have : (0 : ℚ) < m := Nat.cast_pos.mpr pos
    rw [toRat_fraction]
    positivity
  by_contra none
  rw [Fraction.toRat, Nat.eq_zero_of_not_pos none, Nat.cast_zero, zero_div] at size
  exact lt_irrefl _ size

namespace Interval

/-- What the integers of an interval stand for. -/
structure Measures (i : Interval) (low value high : ℚ) : Prop where
  den : 0 < i.den
  low : (i.low : ℚ) = low * i.den
  value : (i.value : ℚ) = value * i.den
  high : (i.high : ℚ) = high * i.den

variable {i : Interval} {low value high : ℚ}

private theorem Measures.shiftTen (h : i.Measures low value high) (k : Int) :
    (i.shiftTen (-k)).Measures (low / 10 ^ k) (value / 10 ^ k) (high / 10 ^ k) := by
  obtain ⟨den, hl, hv, hh⟩ := h
  rw [Interval.shiftTen]
  by_cases nonneg : 0 ≤ -k
  · obtain ⟨t, rfl⟩ : ∃ t : ℕ, k = -t := ⟨(-k).toNat, by omega⟩
    rw [if_pos nonneg]
    dsimp only
    rw [neg_neg, Int.toNat_natCast, Nat.pow_eq, zpow_neg, zpow_natCast]
    refine ⟨den, ?_, ?_, ?_⟩ <;> dsimp only <;> push_cast
    · rw [hl, div_inv_eq_mul]
      ring
    · rw [hv, div_inv_eq_mul]
      ring
    · rw [hh, div_inv_eq_mul]
      ring
  · obtain ⟨t, rfl⟩ : ∃ t : ℕ, k = t := ⟨k.toNat, by omega⟩
    rw [if_neg nonneg, neg_neg, Int.toNat_natCast, Nat.pow_eq, zpow_natCast]
    have power : (10 : ℚ) ^ t ≠ 0 := by positivity
    refine ⟨Nat.mul_pos den (Nat.pow_pos (by decide)), ?_, ?_, ?_⟩ <;> dsimp only <;> push_cast
    · rw [hl]
      field_simp
    · rw [hv]
      field_simp
    · rw [hh]
      field_simp

private theorem measures_interval (p : Precision) {m : ℕ} (pos : 0 < m) (e : Int) :
    (interval p m e).Measures (p.bottom m e) (m * 2 ^ e) (Precision.top m e) := by
  have den := den_fraction_pos 1 (e - 2)
  have unit : ((fraction 1 (e - 2)).num : ℚ) = 2 ^ e / 4 * (fraction 1 (e - 2)).den := by
    have size := toRat_fraction 1 (e - 2)
    have cast : ((fraction 1 (e - 2)).den : ℚ) ≠ 0 := by exact_mod_cast den.ne'
    rw [Fraction.toRat, div_eq_iff cast, zpow_sub₀ two_ne_zero] at size
    rw [size]
    norm_num
  refine ⟨den, ?_, ?_, ?_⟩
  · change (((4 * m - if m = Nat.pow 2 (p.bits - 1) ∧ p.least < e then 1 else 2) *
      (fraction 1 (e - 2)).num : ℕ) : ℚ) = _
    rw [Precision.bottom, Nat.pow_eq, Nat.cast_mul, unit]
    split
    · rw [Nat.cast_sub (by omega)]
      push_cast
      change _ = (m - 1 / 4 : ℚ) * 2 ^ e * (fraction 1 (e - 2)).den
      ring
    · rw [Nat.cast_sub (by omega)]
      push_cast
      change _ = (m - 1 / 2 : ℚ) * 2 ^ e * (fraction 1 (e - 2)).den
      ring
  · change ((4 * m * (fraction 1 (e - 2)).num : ℕ) : ℚ) = m * 2 ^ e * (fraction 1 (e - 2)).den
    push_cast
    rw [unit]
    ring
  · change (((4 * m + 2) * (fraction 1 (e - 2)).num : ℕ) : ℚ) =
      (m + 1 / 2) * 2 ^ e * (fraction 1 (e - 2)).den
    push_cast
    rw [unit]
    ring

/-! ## One grid -/

section Grid

variable (h : i.Measures low value high)
include h

private theorem Measures.holds_iff (n : ℕ) :
    i.holds (n * i.den) = true ↔
      (low ≤ n ∧ n ≤ high) ∧ (i.closed = false → (n : ℚ) ≠ low ∧ (n : ℚ) ≠ high) := by
  have den : (0 : ℚ) < i.den := Nat.cast_pos.mpr h.den
  have lowLe : i.low ≤ n * i.den ↔ low ≤ n := by
    rw [← Nat.cast_le (α := ℚ), h.low, Nat.cast_mul, mul_le_mul_iff_of_pos_right den]
  have leHigh : n * i.den ≤ i.high ↔ (n : ℚ) ≤ high := by
    rw [← Nat.cast_le (α := ℚ), h.high, Nat.cast_mul, mul_le_mul_iff_of_pos_right den]
  have lowLt : i.low < n * i.den ↔ low < n := by
    rw [← Nat.cast_lt (α := ℚ), h.low, Nat.cast_mul, mul_lt_mul_iff_of_pos_right den]
  have ltHigh : n * i.den < i.high ↔ (n : ℚ) < high := by
    rw [← Nat.cast_lt (α := ℚ), h.high, Nat.cast_mul, mul_lt_mul_iff_of_pos_right den]
  rw [holds]
  cases i.closed with
  | true =>
    simp only [if_true, Bool.and_eq_true, decide_eq_true_eq, lowLe, leHigh, Bool.true_eq_false,
      false_implies, and_true]
  | false =>
    simp only [Bool.false_eq_true, if_false, Bool.and_eq_true, decide_eq_true_eq, lowLt, ltHigh,
      true_implies]
    constructor
    · rintro ⟨above, below⟩
      exact ⟨⟨above.le, below.le⟩, above.ne', below.ne⟩
    · rintro ⟨⟨above, below⟩, notLow, notHigh⟩
      exact ⟨lt_of_le_of_ne above notLow.symm, lt_of_le_of_ne below notHigh⟩

private theorem Measures.floor_le : ((i.value / i.den : ℕ) : ℚ) ≤ value := by
  have den : (0 : ℚ) < i.den := Nat.cast_pos.mpr h.den
  have low : ((i.value / i.den * i.den : ℕ) : ℚ) ≤ i.value := by
    exact_mod_cast Nat.div_mul_le_self i.value i.den
  rw [Nat.cast_mul, h.value] at low
  exact le_of_mul_le_mul_right low den

private theorem Measures.lt_floor : value < ((i.value / i.den + 1 : ℕ) : ℚ) := by
  have den : (0 : ℚ) < i.den := Nat.cast_pos.mpr h.den
  have high : (i.value : ℚ) < ((i.value / i.den + 1) * i.den : ℕ) := by
    exact_mod_cast Nat.lt_mul_of_div_lt (Nat.lt_succ_self _) h.den
  rw [Nat.cast_mul, h.value] at high
  exact lt_of_mul_lt_mul_right high den.le

private theorem Measures.nearest?_ne_none (below : low < value) (above : value < high) {a : ℕ}
    (hit : i.holds (a * i.den) = true) : i.nearest? ≠ none := by
  have floorLe := h.floor_le
  have ltFloor := h.lt_floor
  set b := i.value / i.den with floor
  obtain ⟨⟨lowLe, leHigh⟩, open'⟩ := (h.holds_iff a).mp hit
  have found : i.holds (b * i.den) = true ∨ i.holds ((b + 1) * i.den) = true := by
    by_cases left : a ≤ b
    · have cast : (a : ℚ) ≤ b := by exact_mod_cast left
      refine .inl ((h.holds_iff b).mpr ⟨⟨by linarith, by linarith⟩, fun strict => ⟨?_, ?_⟩⟩)
      · have := lt_of_le_of_ne lowLe (open' strict).1.symm
        exact (this.trans_le cast).ne'
      · exact (floorLe.trans_lt above).ne
    · have cast : ((b + 1 : ℕ) : ℚ) ≤ a := by exact_mod_cast not_le.mp left
      refine .inr ((h.holds_iff (b + 1)).mpr ⟨⟨by linarith, by linarith⟩, fun strict => ⟨?_, ?_⟩⟩)
      · exact (below.trans ltFloor).ne'
      · have := lt_of_le_of_ne leHigh (open' strict).2
        exact (cast.trans_lt this).ne
  rw [nearest?, ← floor]
  rcases found with hit | hit
  · rw [hit]
    cases i.holds ((b + 1) * i.den) <;> exact Option.some_ne_none _
  · rw [hit]
    cases i.holds (b * i.den) <;> exact Option.some_ne_none _

/-- The integer that is found is in the interval.  It is one of the two beside the value, and if the
other one is in the interval too, that is not nearer. -/
private theorem Measures.nearest?_cases {n : ℕ} (found : i.nearest? = some n) :
    i.holds (n * i.den) = true ∧
      ((n : ℚ) ≤ value ∧ value < n + 1 ∧
          (i.holds ((n + 1) * i.den) = true → value - n < n + 1 - value) ∨
        ∃ b : ℕ, n = b + 1 ∧ (b : ℚ) ≤ value ∧ value < b + 1 ∧
          (i.holds (b * i.den) = true → b + 1 - value ≤ value - b)) := by
  have den : (0 : ℚ) < i.den := Nat.cast_pos.mpr h.den
  have floorLe := h.floor_le
  have ltFloor := h.lt_floor
  push_cast at ltFloor
  have lowNat : i.value / i.den * i.den ≤ i.value := Nat.div_mul_le_self _ _
  have highNat : i.value < (i.value / i.den + 1) * i.den :=
    Nat.lt_mul_of_div_lt (Nat.lt_succ_self _) h.den
  set b := i.value / i.den with floor
  have nearer : i.value - b * i.den < (b + 1) * i.den - i.value ↔ value - b < b + 1 - value := by
    rw [← Nat.cast_lt (α := ℚ), Nat.cast_sub lowNat, Nat.cast_sub highNat.le]
    push_cast
    rw [h.value, ← sub_mul, ← sub_mul, mul_lt_mul_iff_of_pos_right den]
  rw [nearest?, ← floor] at found
  cases below : i.holds (b * i.den) with
  | true =>
    cases above : i.holds ((b + 1) * i.den) with
    | true =>
      rw [below, above] at found
      obtain rfl := Option.some.inj found
      by_cases near : i.value - b * i.den < (b + 1) * i.den - i.value
      · rw [if_pos near]
        exact ⟨below, .inl ⟨floorLe, ltFloor, fun _ => nearer.mp near⟩⟩
      · rw [if_neg near]
        refine ⟨above, .inr ⟨b, rfl, floorLe, ltFloor, fun _ => ?_⟩⟩
        exact not_lt.mp fun less => near (nearer.mpr less)
    | false =>
      rw [below, above] at found
      obtain rfl := Option.some.inj found
      refine ⟨below, .inl ⟨floorLe, ltFloor, fun other => ?_⟩⟩
      rw [above] at other
      cases other
  | false =>
    cases above : i.holds ((b + 1) * i.den) with
    | true =>
      rw [below, above] at found
      obtain rfl := Option.some.inj found
      refine ⟨above, .inr ⟨b, rfl, floorLe, ltFloor, fun other => ?_⟩⟩
      rw [below] at other
      cases other
    | false =>
      rw [below, above] at found
      cases found

private theorem Measures.abs_sub_le {n : ℕ} (found : i.nearest? = some n)
    (middle : value - low = high - value) : |(n : ℚ) - value| ≤ 1 / 2 := by
  obtain ⟨hit, sides⟩ := h.nearest?_cases found
  obtain ⟨⟨lowLe, leHigh⟩, -⟩ := (h.holds_iff n).mp hit
  rcases sides with ⟨below, above, nearer⟩ | ⟨b, rfl, below, above, nearer⟩
  · have other : value - n ≤ n + 1 - value := by
      by_cases both : i.holds ((n + 1) * i.den) = true
      · exact (nearer both).le
      · -- The other integer is beyond the upper end, which is as far away as the lower one.
        by_contra far
        refine both ((h.holds_iff (n + 1)).mpr ⟨⟨?_, ?_⟩, fun _ => ⟨?_, ?_⟩⟩) <;> push_cast
        · linarith
        · linarith
        · exact (show low < n + 1 by linarith).ne'
        · exact (show (n : ℚ) + 1 < high by linarith).ne
    rw [abs_of_nonpos (by linarith)]
    linarith
  · push_cast at lowLe leHigh ⊢
    have other : b + 1 - value ≤ value - b := by
      by_cases both : i.holds (b * i.den) = true
      · exact nearer both
      · by_contra far
        refine both ((h.holds_iff b).mpr ⟨⟨?_, ?_⟩, fun _ => ⟨?_, ?_⟩⟩)
        · linarith
        · linarith
        · exact (show low < b by linarith).ne'
        · exact (show (b : ℚ) < high by linarith).ne
    rw [abs_of_nonneg (by linarith)]
    linarith

end Grid

/-! ## From grid to grid -/

/-- The search goes down from grid to grid and stops at the first one with a point in the interval,
unless it gives up before. -/
private theorem shortest_cases (i : Interval) (fuel : ℕ) (e : Int) :
    (∃ n k, i.shortest fuel e = (n, k) ∧ e - fuel < k ∧ k ≤ e ∧
        (i.shiftTen (-k)).nearest? = some n ∧
        ∀ j, k < j → j ≤ e → (i.shiftTen (-j)).nearest? = none) ∨
      ∀ j, e - fuel < j → j ≤ e → (i.shiftTen (-j)).nearest? = none := by
  induction fuel generalizing e with
  | zero =>
    right
    intro j after before
    omega
  | succ fuel ih =>
    rw [shortest]
    cases found : (i.shiftTen (-e)).nearest? with
    | some n =>
      left
      refine ⟨n, e, rfl, by omega, le_refl e, found, fun j after before => ?_⟩
      omega
    | none =>
      rcases ih (e - 1) with ⟨n, k, done, low, high, hit, misses⟩ | misses
      · left
        refine ⟨n, k, done, by omega, by omega, hit, fun j after before => ?_⟩
        rcases eq_or_lt_of_le before with rfl | less
        · exact found
        · exact misses j after (by omega)
      · right
        intro j after before
        rcases eq_or_lt_of_le before with rfl | less
        · exact found
        · exact misses j (by omega) (by omega)

end Interval

/-! ## Shortest decimals -/

/-- A decimal that is rounded to a value, on the coarsest grid of powers of ten that has one, where
no power of ten greater than the value is tried.  If the value is in the middle between its
neighbours, the decimal is as near to it as the grid allows. -/
structure Shortest (p : Precision) (m : ℕ) (e : Int) (n : ℕ) (k : Int) : Prop where
  cell : p.Cell m e (n * 10 ^ k)
  fewest : ∀ (j : Int) (a : ℕ), k < j → j ≤ (fraction m e).log10 → ¬ p.Cell m e (a * 10 ^ j)
  near : ¬ (m = 2 ^ (p.bits - 1) ∧ p.least < e) → |(n : ℚ) * 10 ^ k - m * 2 ^ e| ≤ 10 ^ k / 2
  low : (fraction m e).log10 - p.bits ≤ k

variable {p : Precision} {m : ℕ} {e : Int} (pos : 0 < m)
include pos

private theorem holds_iff_cell (k : Int) (n : ℕ) :
    ((interval p m e).shiftTen (-k)).holds (n * ((interval p m e).shiftTen (-k)).den) = true ↔
      p.Cell m e (n * 10 ^ k) := by
  have power : (0 : ℚ) < 10 ^ k := by positivity
  have closed : ((interval p m e).shiftTen (-k)).closed = (m % 2 == 0) := by
    rw [Interval.shiftTen]
    split <;> rfl
  rw [((Interval.measures_interval p pos e).shiftTen k).holds_iff n, closed, div_le_iff₀ power,
    le_div_iff₀ power, ne_eq, ne_eq, eq_div_iff power.ne', eq_div_iff power.ne',
    beq_eq_false_iff_ne]
  constructor
  · rintro ⟨⟨low, high⟩, ends⟩
    exact ⟨low, high, fun odd => ends (by omega)⟩
  · rintro ⟨low, high, ends⟩
    exact ⟨⟨low, high⟩, fun odd => ends (by omega)⟩

theorem bottom_pos : 0 < p.bottom m e := by
  refine lt_of_lt_of_le ?_ (p.le_bottom m e)
  have one : (1 : ℚ) ≤ m := Nat.one_le_cast.mpr pos
  have half : (0 : ℚ) < m - 1 / 2 := by linarith
  positivity

theorem Shortest.digits_pos {n : ℕ} {k : Int} (h : Shortest p m e n k) : 0 < n := by
  have size : (0 : ℚ) < n * 10 ^ k := (bottom_pos pos).trans_le h.cell.low
  by_contra none
  rw [Nat.eq_zero_of_not_pos none, Nat.cast_zero, zero_mul] at size
  exact lt_irrefl _ size

private theorem nearest?_ne_none_of_cell {j : Int} {a : ℕ} (cell : p.Cell m e (a * 10 ^ j)) :
    ((interval p m e).shiftTen (-j)).nearest? ≠ none := by
  have power : (0 : ℚ) < 10 ^ j := by positivity
  refine ((Interval.measures_interval p pos e).shiftTen j).nearest?_ne_none ?_ ?_
    ((holds_iff_cell pos j a).mpr cell)
  · exact div_lt_div_of_pos_right (p.bottom_lt m e) power
  · exact div_lt_div_of_pos_right (Precision.lt_top m e) power

private theorem exists_cell_of_fine (some : 0 < p.bits) (significand : m < 2 ^ p.bits) :
    ∃ a : ℕ, p.Cell m e (a * 10 ^ ((fraction m e).log10 - p.bits)) := by
  set j := (fraction m e).log10 - p.bits with grid
  have power : (0 : ℚ) < 10 ^ j := by positivity
  have unit : (0 : ℚ) < 2 ^ e := by positivity
  have fine : (10 : ℚ) ^ j < 2 ^ e / 4 := by
    have logarithm := (Fraction.log10_spec (num_fraction_pos pos e) (den_fraction_pos m e)).1
    have cast : (m : ℚ) < 2 ^ p.bits := by exact_mod_cast significand
    have fifth : (2 / 10 : ℚ) ^ p.bits ≤ 2 / 10 :=
      pow_le_of_le_one (by norm_num) (by norm_num) some.ne'
    rw [toRat_fraction] at logarithm
    calc (10 : ℚ) ^ j = 10 ^ (fraction m e).log10 / 10 ^ p.bits := by
          rw [grid, zpow_sub₀ (by norm_num), zpow_natCast]
      _ ≤ m * 2 ^ e / 10 ^ p.bits := by gcongr
      _ < 2 ^ p.bits * 2 ^ e / 10 ^ p.bits := by gcongr
      _ = (2 / 10) ^ p.bits * 2 ^ e := by
          rw [div_pow]
          ring
      _ ≤ 2 / 10 * 2 ^ e := by gcongr
      _ < 2 ^ e / 4 := by linarith
  have measures := (Interval.measures_interval p pos e).shiftTen j
  have below := measures.floor_le
  have above := measures.lt_floor
  set b := ((interval p m e).shiftTen (-j)).value / ((interval p m e).shiftTen (-j)).den
  rw [le_div_iff₀ power] at below
  rw [div_lt_iff₀ power] at above
  push_cast at above
  have bottom : p.bottom m e ≤ (m - 1 / 4) * 2 ^ e := by
    rw [Precision.bottom]
    gcongr
    split <;> norm_num
  have inside : p.bottom m e < b * 10 ^ j := by linarith
  have under : (b : ℚ) * 10 ^ j < Precision.top m e := below.trans_lt (Precision.lt_top m e)
  exact ⟨b, inside.le, under.le, fun _ => ⟨inside.ne', under.ne⟩⟩

private theorem abs_sub_le_of_nearest? {n : ℕ} {k : Int}
    (middle : ¬ (m = 2 ^ (p.bits - 1) ∧ p.least < e))
    (hit : ((interval p m e).shiftTen (-k)).nearest? = some n) :
    |(n : ℚ) * 10 ^ k - m * 2 ^ e| ≤ 10 ^ k / 2 := by
  have power : (0 : ℚ) < 10 ^ k := by positivity
  have halves : (m * 2 ^ e : ℚ) / 10 ^ k - p.bottom m e / 10 ^ k =
      Precision.top m e / 10 ^ k - m * 2 ^ e / 10 ^ k := by
    rw [Precision.bottom, if_neg middle, Precision.top]
    ring
  have close := ((Interval.measures_interval p pos e).shiftTen k).abs_sub_le hit halves
  have units : (n : ℚ) * 10 ^ k - m * 2 ^ e = (n - m * 2 ^ e / 10 ^ k) * 10 ^ k := by
    rw [sub_mul, div_mul_cancel₀ _ power.ne']
  rw [units, abs_mul, abs_of_pos power]
  calc |(n : ℚ) - m * 2 ^ e / 10 ^ k| * 10 ^ k ≤ 1 / 2 * 10 ^ k := by gcongr
    _ = 10 ^ k / 2 := by ring

theorem shortest_digits (some : 0 < p.bits) (significand : m < 2 ^ p.bits) :
    Shortest p m e (shortestDigits p m e).1 (shortestDigits p m e).2 := by
  have measures (k : Int) := (Interval.measures_interval p pos e).shiftTen k
  rcases (interval p m e).shortest_cases (p.bits + 1) (fraction m e).log10 with
    ⟨n, k, done, low, high, hit, misses⟩ | misses
  · have cell : p.Cell m e (n * 10 ^ k) :=
      (holds_iff_cell pos k n).mp ((measures k).nearest?_cases hit).1
    have fewest (j : Int) (a : ℕ) (after : k < j) (before : j ≤ (fraction m e).log10) :
        ¬ p.Cell m e (a * 10 ^ j) :=
      fun other => nearest?_ne_none_of_cell pos other (misses j after before)
    rw [shortestDigits, done]
    dsimp only
    by_cases ten : n = 10
    · -- Ten units of a grid are one of the next.
      have same : ((1 : ℕ) : ℚ) * 10 ^ (k + 1) = n * 10 ^ k := by
        rw [ten, zpow_add_one₀ (by norm_num)]
        push_cast
        ring
      rw [if_pos ten]
      refine ⟨?_, fun j a after => fewest j a (by omega), fun middle => ?_, by omega⟩
      · rw [same]
        exact cell
      · rw [same]
        refine (abs_sub_le_of_nearest? pos middle hit).trans ?_
        gcongr
        · norm_num
        · omega
    · rw [if_neg ten]
      exact ⟨cell, fewest, fun middle => abs_sub_le_of_nearest? pos middle hit, by omega⟩
  · obtain ⟨a, cell⟩ := exists_cell_of_fine pos some significand
    exact absurd (misses _ (by omega) (by omega)) (nearest?_ne_none_of_cell pos cell)

end Number

end PatternAction
