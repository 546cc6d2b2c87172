import PatternAction.Proofs.Number.Natural

/-!
Counts.  A count is written with all its digits, and up to `2 ^ 53` it is read as what it is.
-/

set_option autoImplicit false
set_option relaxedAutoImplicit false

namespace PatternAction

def Numeral.count (n : ℕ) : Numeral where
  sign := none
  whole := decimalDigits n
  places? := none
  exponent? := none
  wholeDigits := fun _ => isDigit_of_mem_decimalDigits
  placesDigits := nofun
  nonempty := .inl (decimalDigits_ne_nil n)

theorem Numeral.spelling_count (n : ℕ) : (count n).spelling = decimalDigits n :=
  List.append_nil _

private theorem Numeral.fraction_count (n : ℕ) : (count n).decimal.fraction = ⟨n, 1⟩ := by
  have coefficient : (count n).decimal.coefficient = n := by
    change Decimal.digitsValue 0 (decimalDigits n ++ []) = n
    rw [List.append_nil, Decimal.digitsValue_decimalDigits]
  have exponent : (count n).decimal.exponent = 0 := rfl
  rw [Decimal.fraction, coefficient, exponent]
  simp [Fraction.shiftTen]

private theorem Scalar.toNumber_ofCount (n : ℕ) :
    (ofCount n).toNumber = Precision.double.round false ⟨n, 1⟩ := by
  have chars : (ofCount n).chars = (Numeral.count n).spelling := by
    rw [Numeral.spelling_count]
    exact String.toList_ofList
  rw [toNumber, chars, Numeral.ofLeading_spelling, Numeral.value, Numeral.fraction_count]
  rfl

private theorem Fraction.floor_eq {q : Fraction} {n : ℕ} (den : 0 < q.den) (value : q.toRat = n) :
    q.floor = n := by
  have pos : (q.den : ℚ) ≠ 0 := Nat.cast_ne_zero.mpr den.ne'
  have product : q.num = n * q.den := by
    rw [toRat, div_eq_iff pos] at value
    exact_mod_cast value
  rw [floor, product, Nat.mul_div_cancel _ den]

theorem Scalar.toInt64_ofCount {n : ℕ} (small : n ≤ 2 ^ 53) : (ofCount n).toNumber.toInt64 = n := by
  rw [toNumber_ofCount]
  rcases Nat.eq_zero_or_pos n with rfl | pos
  · decide +kernel
  · obtain ⟨m, e, rounded, -, size⟩ := Number.exists_round_natural .double pos (by decide)
      (by decide) (by decide) (by decide) small small
    have value : (Number.fraction m e).toRat = n := by
      rw [Number.toRat_fraction, size]
    have whole : (Number.fraction m e).floor = n :=
      Fraction.floor_eq (Number.den_fraction_pos m e) value
    rw [rounded, Number.toInt64, Number.truncate, whole]
    simp only [Bool.false_eq_true, if_false]
    omega

end PatternAction
