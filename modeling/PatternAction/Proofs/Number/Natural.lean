import PatternAction.Proofs.Number.Stable

/-!
Natural numbers.  One more than a natural number is computed exactly up to `2 ^ 53`, and up to `2 ^
24` it is written in full, so that it is read as what it was.
-/

set_option autoImplicit false
set_option relaxedAutoImplicit false

namespace PatternAction

/-! ## Sums -/

namespace Number

private theorem exists_finite_of_extent {x : Number} {r : ℚ} (size : x.extent? = some (.ofRat r)) :
    ∃ s m e, x = .finite s m e ∧ finiteSize s m e = r := by
  cases x with
  | nan => cases size
  | infinite s =>
    have same := Option.some.inj size
    cases s with
    | true => exact absurd same (WithBot.bot_lt_coe _).ne
    | false => exact absurd same (WithBot.coe_lt_coe.mpr (WithTop.coe_lt_top r)).ne'
  | finite s m e =>
    exact ⟨s, m, e, rfl, Extent.strictMono_ofRat.injective (Option.some.inj size)⟩

private theorem one_eq : one = .finite false (2 ^ 52) (-52) :=
  rfl

theorem toRat_natural (n : ℕ) : Fraction.toRat ⟨n, 1⟩ = n := by
  rw [Fraction.toRat, Nat.cast_one, div_one]

theorem add_one {x : Number} {n : ℕ} (natural : x.extent? = some (.ofRat n)) :
    x.add one = Precision.double.round false ⟨n + 1, 1⟩ := by
  obtain ⟨s, m, e, rfl, size⟩ := exists_finite_of_extent natural
  let low := min e (-52)
  let sum := aligned s m e low + aligned false (2 ^ 52) (-52) low
  have unit : (0 : ℚ) < 2 ^ low := by positivity
  have total : (sum : ℚ) * 2 ^ low = (n + 1 : ℕ) := by
    have one : finiteSize false (2 ^ 52) (-52) = 1 := by norm_num [finiteSize]
    rw [Int.cast_add, add_mul, aligned_mul _ _ (min_le_left _ _),
      aligned_mul _ _ (min_le_right _ _),
      size, one]
    push_cast
    rfl
  have positive : 0 < sum := by
    have : (0 : ℚ) < sum * 2 ^ low := by
      rw [total]
      positivity
    exact_mod_cast pos_of_mul_pos_left this unit.le
  have value : (fraction sum.natAbs low).toRat = Fraction.toRat ⟨n + 1, 1⟩ := by
    rw [toRat_fraction, toRat_natural, ← total, ← Int.cast_natCast,
      Int.natAbs_of_nonneg positive.le]
  rw [one_eq]
  change (if sum = 0 then _ else Precision.double.round (sum < 0) (fraction sum.natAbs low)) = _
  rw [if_neg positive.ne', decide_eq_false (not_lt.mpr positive.le)]
  exact Precision.double.round_congr false (num_fraction_pos (Int.natAbs_pos.mpr positive.ne') low)
    (den_fraction_pos _ low) n.succ_pos Nat.one_pos value

/-! ## Natural numbers in a format -/

theorem natural_lt {n : ℕ} {e : Int} (small : n ≤ 2 ^ 53) (high : 53 < e) :
    Fraction.toRat ⟨n, 1⟩ < 2 ^ e := by
  have bound : (n : ℚ) ≤ 2 ^ (53 : Int) := by exact_mod_cast small
  rw [toRat_natural]
  exact bound.trans_lt (zpow_lt_zpow_right₀ one_lt_two high)

private theorem pos_of_size {m n : ℕ} {e : Int} (pos : 0 < n) (size : (m : ℚ) * 2 ^ e = n) :
    0 < m := by
  by_contra none
  rw [Nat.eq_zero_of_not_pos none, Nat.cast_zero, zero_mul] at size
  exact pos.ne (by exact_mod_cast size)

/-- A natural number that needs no more bits than there are is a value of the format. -/
theorem exists_round_natural (p : Precision) {n : ℕ} (pos : 0 < n) (some : 0 < p.bits)
    (fits : p.least + p.bits < p.beyond) (least : p.least ≤ 0) (beyond : 53 < p.beyond - 1)
    (small : n ≤ 2 ^ 53) (significand : n ≤ 2 ^ p.bits) :
    ∃ m e, p.round false ⟨n, 1⟩ = .finite false m e ∧ p.Canonical m e ∧ (m : ℚ) * 2 ^ e = n := by
  obtain ⟨m, e, done, canonical, value⟩ := p.round_exact false pos Nat.one_pos some fits
    (natural_lt small beyond) significand least (by rw [toRat_natural, zpow_zero, mul_one])
  exact ⟨m, e, done, canonical, value.trans (toRat_natural n)⟩

/-- Up to `2 ^ 53` the first rounding of a natural number is exact, so it is rounded once. -/
theorem narrow_natural {n : ℕ} (pos : 0 < n) (small : n ≤ 2 ^ 53) :
    (Precision.double.round false ⟨n, 1⟩).narrow = Precision.single.round false ⟨n, 1⟩ := by
  obtain ⟨a, f, done, -, size⟩ := exists_round_natural .double pos (by decide) (by decide)
    (by decide) (by decide) small small
  rw [done]
  refine Precision.single.round_congr false (num_fraction_pos (pos_of_size pos size) f)
    (den_fraction_pos a f) pos Nat.one_pos ?_
  rw [toRat_fraction, toRat_natural, size]

section Written

variable {m n N : ℕ} {e k : Int} (canonical : Precision.single.Canonical m e)
variable (value : (m : ℚ) * 2 ^ e = N) (pos : 0 < N)

include canonical value in
private theorem exponent_nonpos (small : N < 2 ^ 24) : e ≤ 0 := by
  rcases canonical.normal with lowest | normal
  · rw [lowest]
    decide
  · have bound : (N : ℚ) < 2 ^ 24 := by exact_mod_cast small
    have full : 2 ^ 23 ≤ m := normal
    have less : (2 : ℚ) ^ e < 2 ^ (1 : Int) := by
      rw [zpow_one]
      refine lt_of_mul_lt_mul_left ?_ (show (0 : ℚ) ≤ 2 ^ 23 by norm_num)
      calc (2 : ℚ) ^ 23 * 2 ^ e ≤ m * 2 ^ e := by
            gcongr
            exact_mod_cast full
        _ = N := value
        _ < 2 ^ 23 * 2 := by linarith
    have := (zpow_lt_zpow_iff_right₀ one_lt_two).mp less
    omega

include value pos in
private theorem Shortest.grid_nonneg (shortest : Shortest .single m e n k) : 0 ≤ k := by
  have one : (1 : ℚ) ≤ N := Nat.one_le_cast.mpr pos
  by_contra fine
  refine shortest.fewest 0 N (not_le.mp fine) ?_ ?_
  · refine Fraction.le_log10 (num_fraction_pos (pos_of_size pos value) e) (den_fraction_pos m e) ?_
    rw [toRat_fraction, value, zpow_zero]
    exact one
  · rw [zpow_zero, mul_one, ← value]
    exact .self _ _ _

include canonical value pos in
private theorem Shortest.eq_of_natural (shortest : Shortest .single m e n k) (small : N < 2 ^ 24) :
    (n : ℚ) * 10 ^ k = N := by
  have integral := shortest.grid_nonneg value pos
  have whole := exponent_nonpos canonical value small
  have narrow : (2 : ℚ) ^ e ≤ 1 := zpow_le_one_of_nonpos₀ one_le_two whole
  have low : (N : ℚ) - 1 / 2 ≤ n * 10 ^ k := by
    refine le_trans ?_ ((Precision.le_bottom _ m e).trans shortest.cell.low)
    rw [sub_mul, value]
    linarith
  have high : n * 10 ^ k ≤ (N : ℚ) + 1 / 2 := by
    refine shortest.cell.high.trans ?_
    rw [Precision.top, add_mul, value]
    linarith
  obtain ⟨t, rfl⟩ : ∃ t : ℕ, k = t := ⟨k.toNat, by omega⟩
  rw [zpow_natCast] at low high ⊢
  have below : ((N : ℕ) : ℚ) < (n * 10 ^ t + 1 : ℕ) := by
    push_cast
    linarith
  have above : ((n * 10 ^ t : ℕ) : ℚ) < (N + 1 : ℕ) := by
    push_cast
    linarith
  have same : n * 10 ^ t = N := by
    have := Nat.cast_lt.mp below
    have := Nat.cast_lt.mp above
    omega
  exact_mod_cast same

end Written

/-- What is written for a natural number up to `2 ^ 24` is read as that number. -/
theorem read_natural {x : Number} {N : ℕ} (pos : 0 < N) (small : N ≤ 2 ^ 24)
    (narrowed : x.narrow = Precision.single.round false ⟨N, 1⟩) :
    (Scalar.ofNumber x).toNumber.extent? = some (.ofRat N) := by
  obtain ⟨m, e, done, canonical, value⟩ := exists_round_natural .single pos (by decide) (by decide)
    (by decide) (by decide) (by omega) small
  have some : 0 < m := pos_of_size pos value
  obtain ⟨q, num, den, decimal, a, f, read, rounded⟩ :=
    exists_read_finite (narrowed.trans done) some
  have exact : q.toRat = N * 2 ^ (0 : Int) := by
    rw [zpow_zero, mul_one, decimal]
    rcases lt_or_eq_of_le small with less | rfl
    · exact (single_shortest canonical some).eq_of_natural canonical value pos less
    · have last : Precision.single.round false ⟨2 ^ 24, 1⟩ = .finite false (2 ^ 23) 1 :=
        rfl
      have digits : shortestDigits .single (2 ^ 23) 1 = (2 ^ 24, 0) := rfl
      obtain ⟨-, rfl, rfl⟩ : false = false ∧ m = 2 ^ 23 ∧ e = 1 := by
        simpa using done.symm.trans last
      rw [digits, zpow_zero, mul_one]
  have low := Precision.double.le_of_round false num den (by decide) rounded
    (show N ≤ 2 ^ 53 by omega) (show (-1074 : Int) ≤ 0 by decide) exact.ge
  have high := Precision.double.ge_of_round false num den (by decide) rounded
    (show N ≤ 2 ^ 53 by omega) (show (-1074 : Int) ≤ 0 by decide) exact.le
  rw [zpow_zero, mul_one] at low high
  rw [read, extent?, finiteSize, if_neg Bool.false_ne_true, le_antisymm high low]

end Number

end PatternAction
