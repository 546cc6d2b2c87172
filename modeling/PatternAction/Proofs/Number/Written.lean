import PatternAction.Proofs.Number.Grammar
import PatternAction.Proofs.Number.Shortest
import PatternAction.Proofs.Number.Size

/-!
Written numbers.  What arithmetic writes for a number is a numeral: it has a point with digits on
both sides, and outside of the positional range one digit in front of the point and an exponent.  So
both readers take all of it, and what the numeral says is the shortest decimal that was chosen.
What is written for something that is not finite is no numeral.
-/

set_option autoImplicit false
set_option relaxedAutoImplicit false

namespace PatternAction

/-! ## Digits -/

namespace Decimal

theorem digitsValue_decimalDigits (n : ℕ) : digitsValue 0 (decimalDigits n) = n := by
  have same (ds : List Char) (high : ℕ) : digitsValue high ds = Nat.ofDigitChars 10 ds high := by
    induction ds generalizing high with
    | nil => rfl
    | cons c ds ih =>
      change digitsValue (high * 10 + (c.toNat - 48)) ds =
        Nat.ofDigitChars 10 ds (10 * high + (c.toNat - 48))
      rw [ih, Nat.mul_comm]
  rw [same]
  exact Nat.ofDigitChars_ten_toDigits

theorem digitsValue_zeros (count : ℕ) (ds : List Char) :
    digitsValue 0 (List.replicate count '0' ++ ds) = digitsValue 0 ds := by
  induction count with
  | zero => rfl
  | succ count ih =>
    rw [List.replicate_succ, List.cons_append]
    exact ih

theorem digitsValue_append_zero (high : ℕ) (ds : List Char) :
    digitsValue high (ds ++ ['0']) = digitsValue high ds * 10 := by
  rw [digitsValue_append]
  rfl

end Decimal

theorem isDigit_of_mem_decimalDigits {n : ℕ} {c : Char} (mem : c ∈ decimalDigits n) :
    c.isDigit = true :=
  Nat.isDigit_of_mem_toDigits (by decide) (by decide) mem

theorem decimalDigits_ne_nil (n : ℕ) : decimalDigits n ≠ [] :=
  Nat.toDigits_ne_nil

/-! ## Numerals that are written -/

namespace Numeral

/-- The size that a numeral says, without its sign. -/
def size (n : Numeral) : ℚ :=
  n.decimal.coefficient * 10 ^ n.decimal.exponent

def minus (negative : Bool) : Sign :=
  if negative then some true else none

private theorem spelling_minus (negative : Bool) :
    (minus negative).spelling = if negative then ['-'] else [] := by
  cases negative <;> rfl

theorem isNegative_minus (negative : Bool) : (minus negative).isNegative = negative := by
  cases negative <;> rfl

/-- A numeral as it is written: a minus sign or none, and digits on both sides of a point. -/
structure Written (n : Numeral) (negative : Bool) : Prop where
  sign : n.sign = minus negative
  whole : n.whole ≠ []
  places : n.places ≠ []

def IsPositional (n : Numeral) : Prop :=
  n.exponent? = none

/-- A numeral with one digit in front of the point and an exponent behind a capital letter, which is
written with a minus sign or none. -/
def IsScientific (n : Numeral) : Prop :=
  n.whole.length = 1 ∧ ∃ x ∈ n.exponent?, x.mark = 'E' ∧ x.sign ≠ some false

end Numeral

namespace Number

open Numeral (minus)

private theorem length_zeroFill (width : ℕ) (cs : List Char) :
    width ≤ (zeroFill width cs).length := by
  rw [zeroFill, List.length_append, List.length_replicate]
  omega

theorem isDigit_of_mem_zeroFill {width n : ℕ} {c : Char}
    (mem : c ∈ zeroFill width (decimalDigits n)) : c.isDigit = true := by
  rcases List.mem_append.mp mem with filled | digit
  · rw [List.eq_of_mem_replicate filled]
    decide
  · exact isDigit_of_mem_decimalDigits digit

theorem exists_pointed (negative : Bool) (n : ℕ) {places : ℕ} (some_places : 0 < places) :
    ∃ x : Numeral, x.spelling = (minus negative).spelling ++ pointed n places ∧
      x.Written negative ∧ x.IsPositional ∧ x.size = n * 10 ^ (-places : Int) := by
  let ds := zeroFill (places + 1) (decimalDigits n)
  have length : places + 1 ≤ ds.length := length_zeroFill _ _
  have digit : ∀ c ∈ ds, c.isDigit = true := fun _ => isDigit_of_mem_zeroFill
  have front : ds.take (ds.length - places) ≠ [] := by
    rw [← List.length_pos_iff, List.length_take]
    omega
  have behind : (ds.drop (ds.length - places)).length = places := by
    rw [List.length_drop]
    omega
  have someBehind : ds.drop (ds.length - places) ≠ [] := by
    rw [← List.length_pos_iff, behind]
    exact some_places
  let x : Numeral := {
    sign := minus negative
    whole := ds.take (ds.length - places)
    places? := some (ds.drop (ds.length - places))
    exponent? := none
    wholeDigits := fun c mem => digit c (List.mem_of_mem_take mem)
    placesDigits := fun c mem => digit c (List.mem_of_mem_drop mem)
    nonempty := .inl front }
  refine ⟨x, ?_, ⟨rfl, front, someBehind⟩, rfl, ?_⟩
  · rw [pointed, if_neg some_places.ne']
    change (minus negative).spelling ++ (ds.take (ds.length - places) ++
      ('.' :: ds.drop (ds.length - places) ++ [])) = _
    rw [List.append_nil]
  · have coefficient : x.decimal.coefficient = n := by
      change Decimal.digitsValue 0 (ds.take _ ++ ds.drop _) = n
      rw [List.take_append_drop]
      exact (Decimal.digitsValue_zeros _ _).trans (Decimal.digitsValue_decimalDigits n)
    have exponent : x.decimal.exponent = -places := by
      change (0 : Int) - ((ds.drop (ds.length - places)).length : ℕ) = _
      rw [behind, zero_sub]
    rw [Numeral.size, coefficient, exponent]

private theorem exists_positional (negative : Bool) (n : ℕ) (k : Int) :
    ∃ x : Numeral, x.spelling = (minus negative).spelling ++ positionalText n k ∧
      x.Written negative ∧ x.IsPositional ∧ x.size = n * 10 ^ k := by
  rw [positionalText]
  by_cases whole : 0 ≤ k
  · obtain ⟨t, rfl⟩ := Int.eq_ofNat_of_zero_le whole
    have digits := decimalDigits_ne_nil (n * 10 ^ t)
    have zero : ∀ c ∈ ['0'], c.isDigit = true := by
      intro c mem
      rw [List.mem_singleton.mp mem]
      rfl
    let x : Numeral := {
      sign := minus negative
      whole := decimalDigits (n * 10 ^ t)
      places? := some ['0']
      exponent? := none
      wholeDigits := fun _ => isDigit_of_mem_decimalDigits
      placesDigits := zero
      nonempty := .inl digits }
    refine ⟨x, ?_, ⟨rfl, digits, List.cons_ne_nil _ _⟩, rfl, ?_⟩
    · rw [if_pos whole]
      rfl
    · have coefficient : x.decimal.coefficient = n * 10 ^ t * 10 := by
        change Decimal.digitsValue 0 (decimalDigits (n * 10 ^ t) ++ ['0']) = _
        rw [Decimal.digitsValue_append_zero, Decimal.digitsValue_decimalDigits]
      have exponent : x.decimal.exponent = -1 := rfl
      rw [Numeral.size, coefficient, exponent, zpow_natCast, zpow_neg_one]
      push_cast
      rw [mul_inv_cancel_right₀ (by norm_num)]
  · rw [if_neg whole]
    obtain ⟨x, spelled, written, positional, size⟩ :=
      exists_pointed negative n (show 0 < (-k).toNat by omega)
    refine ⟨x, spelled, written, positional, ?_⟩
    rw [size]
    congr 2
    omega

private theorem exists_exponent (k : Int) (small : k.natAbs < 0x10000) :
    ∃ x : Exponent, x.spelling = 'E' :: integerText k ∧ x.mark = 'E' ∧ x.sign ≠ some false ∧
      x.power = k := by
  let x : Exponent := {
    mark := 'E'
    sign := minus (k < 0)
    digits := decimalDigits k.natAbs
    isMark := .inr rfl
    allDigits := fun _ => isDigit_of_mem_decimalDigits
    nonempty := decimalDigits_ne_nil _ }
  have digits : Decimal.digitsValue 0 x.digits = k.natAbs := Decimal.digitsValue_decimalDigits _
  have size : x.size = k.natAbs := by
    rw [Exponent.size, digits]
    exact if_pos small
  refine ⟨x, ?_, rfl, ?_, ?_⟩
  · rw [integerText]
    by_cases negative : k < 0
    · rw [if_pos negative]
      simp [x, Exponent.spelling, minus, negative, Sign.spelling]
    · rw [if_neg negative]
      simp [x, Exponent.spelling, minus, negative, Sign.spelling]
  · change minus (k < 0) ≠ _
    rw [minus]
    split <;> simp
  · have sign : x.sign.isNegative = decide (k < 0) := Numeral.isNegative_minus _
    rw [Exponent.power, sign, size]
    by_cases negative : k < 0
    · rw [decide_eq_true negative, if_pos rfl]
      omega
    · rw [decide_eq_false negative, if_neg Bool.false_ne_true]
      omega

private theorem exists_scientific (negative : Bool) (n : ℕ) (k : Int)
    (small : (k + (decimalDigits n).length).natAbs < 0xffff) :
    ∃ x : Numeral, x.spelling = (minus negative).spelling ++ exponentText n k ∧
      x.Written negative ∧ x.IsScientific ∧ x.size = n * 10 ^ k := by
  obtain ⟨d, ds, digits⟩ := List.exists_cons_of_ne_nil (decimalDigits_ne_nil n)
  have digit : ∀ c ∈ d :: ds, c.isDigit = true := by
    rw [← digits]
    exact fun _ => isDigit_of_mem_decimalDigits
  have value : Decimal.digitsValue 0 (d :: ds) = n := by
    rw [← digits]
    exact Decimal.digitsValue_decimalDigits n
  rw [digits, List.length_cons] at small
  obtain ⟨x, spelled, mark, sign, power⟩ := exists_exponent (k + ds.length) (by omega)
  -- A single digit is followed by a zero, which changes the coefficient and the number of places.
  let places := if ds.isEmpty then ['0'] else ds
  have placesDigits : ∀ c ∈ places, c.isDigit = true := by
    intro c mem
    by_cases single : ds.isEmpty = true
    · simp only [places, if_pos single, List.mem_singleton] at mem
      rw [mem]
      decide
    · simp only [places, if_neg single] at mem
      exact digit c (List.mem_cons_of_mem d mem)
  have somePlaces : places ≠ [] := by
    cases ds with
    | nil => exact List.cons_ne_nil _ _
    | cons c cs => exact List.cons_ne_nil _ _
  let y : Numeral := {
    sign := minus negative
    whole := [d]
    places? := some places
    exponent? := some x
    wholeDigits := fun c mem =>
      digit c (by rw [List.mem_singleton.mp mem]; exact List.mem_cons_self)
    placesDigits := placesDigits
    nonempty := .inl (List.cons_ne_nil d []) }
  refine ⟨y, ?_, ⟨rfl, List.cons_ne_nil _ _, somePlaces⟩, ⟨rfl, x, rfl, mark, sign⟩, ?_⟩
  · rw [exponentText, digits]
    change (minus negative).spelling ++ ([d] ++ ('.' :: places ++ x.spelling)) = _
    rw [spelled]
    rfl
  · have coefficient : y.decimal.coefficient = Decimal.digitsValue 0 (d :: places) := rfl
    have exponent : y.decimal.exponent = k + ds.length - places.length := by
      change x.power - (places.length : Int) = _
      rw [power]
    rw [Numeral.size, coefficient, exponent]
    cases ds with
    | nil =>
      have ten : Decimal.digitsValue 0 (d :: places) = n * 10 := by
        rw [← value]
        exact Decimal.digitsValue_append_zero 0 [d]
      have place : k + (([] : List Char).length : Int) - (places.length : Int) = k - 1 := by
        change k + 0 - 1 = k - 1
        omega
      rw [ten, place, zpow_sub_one₀ (by norm_num)]
      push_cast
      field_simp
    | cons c cs =>
      have same : Decimal.digitsValue 0 (d :: places) = n := value
      have place : k + ((c :: cs).length : Int) - (places.length : Int) = k := by
        change k + ((c :: cs).length : Int) - ((c :: cs).length : Int) = k
        omega
      rw [same, place]

/-! ## The positional range -/

/-- The size of a finite number, without its sign. -/
def size : Number → ℚ
  | .finite _ m e => m * 2 ^ e
  | _ => 0

private theorem order_finite (m n : ℕ) (e f : Int) :
    (Number.finite false m e).order (.finite false n f) =
      compare ((m : ℚ) * 2 ^ e) ((n : ℚ) * 2 ^ f) := by
  rw [order, compare_aligned]
  rfl

/-- Zero, and the sizes from the single number nearest to one thousandth on, up to ten millions. -/
def PositionalRange (m : ℕ) (e : Int) : Prop :=
  m = 0 ∨ (Precision.single.round false ⟨1, 1000⟩).size ≤ m * 2 ^ e ∧ (m : ℚ) * 2 ^ e < 10 ^ 7

private theorem isPositional_iff (m : ℕ) (e : Int) :
    isPositional m e = true ↔ PositionalRange m e := by
  have from' : positionalFrom = .finite false 8589935 (-33) := rfl
  have upto : positionalUpto = .finite false 10000000 0 := rfl
  have least : (Precision.single.round false ⟨1, 1000⟩).size = (8589935 : ℕ) * 2 ^ (-33 : Int) :=
    congrArg size from'
  have greatest : ((10000000 : ℕ) : ℚ) * 2 ^ (0 : Int) = 10 ^ 7 := by norm_num
  rw [PositionalRange, isPositional, from', upto, order_finite, order_finite, greatest, least]
  simp only [Bool.or_eq_true, beq_iff_eq, Bool.and_eq_true, bne_iff_ne, ne_eq, compare_lt_iff_lt,
    not_lt]

/-! ## Single numbers -/

theorem canonical_narrow {x : Number} {s : Bool} {m : ℕ} {e : Int}
    (narrowed : x.narrow = .finite s m e) : Precision.single.Canonical m e := by
  cases x with
  | nan => cases narrowed
  | infinite t => cases narrowed
  | finite t n f =>
    change Precision.single.round t (fraction n f) = _ at narrowed
    by_cases zero : (fraction n f).num = 0
    · rw [Precision.round_of_num_eq_zero _ _ zero] at narrowed
      cases narrowed
      exact ⟨by decide, le_refl _, by decide, .inl rfl⟩
    · exact (Precision.round_finite _ t (Nat.pos_of_ne_zero zero) (den_fraction_pos n f)
        (by decide) narrowed).2.1

section Single

variable {m : ℕ} {e : Int} (canonical : Precision.single.Canonical m e) (pos : 0 < m)
include canonical pos

theorem single_shortest :
    Shortest .single m e (shortestDigits .single m e).1 (shortestDigits .single m e).2 :=
  shortest_digits pos (by decide) canonical.significand

omit pos in
theorem top_lt_single : Precision.top m e < 2 ^ (128 : Int) := by
  have bound : (m : ℚ) + 1 ≤ 2 ^ 24 := by exact_mod_cast canonical.significand
  have beyond : e + 24 ≤ 128 := canonical.beyond
  calc Precision.top m e = (m + 1 / 2) * 2 ^ e := rfl
    _ < 2 ^ (24 : ℕ) * 2 ^ e := by
        gcongr
        linarith
    _ = 2 ^ (24 + e : Int) := by
        rw [zpow_add₀ two_ne_zero]
        norm_num
    _ ≤ 2 ^ (128 : Int) := zpow_le_zpow_right₀ one_le_two (by omega)

private theorem natAbs_exponent_lt : ((shortestDigits .single m e).2 +
    (decimalDigits (shortestDigits .single m e).1).length).natAbs < 0xffff := by
  have shortest := single_shortest canonical pos
  set n := (shortestDigits .single m e).1 with digits
  set k := (shortestDigits .single m e).2 with place
  have lower : -149 ≤ (fraction m e).log10 := by
    refine Fraction.le_log10 (num_fraction_pos pos e) (den_fraction_pos m e) ?_
    have least : (-149 : Int) ≤ e := canonical.least
    have one : (1 : ℚ) ≤ m := Nat.one_le_cast.mpr pos
    rw [toRat_fraction]
    calc (10 : ℚ) ^ (-149 : Int) ≤ 1 * 2 ^ (-149 : Int) := by norm_num
      _ ≤ m * 2 ^ e := by
          gcongr
          exact one_le_two
  have low : -149 - 24 ≤ k := by
    have := shortest.low
    change (fraction m e).log10 - (24 : ℕ) ≤ k at this
    omega
  have positive := length_decimalDigits_pos n
  have high : ((decimalDigits n).length - 1 : ℕ) + k < 128 := by
    have leading : ((10 ^ ((decimalDigits n).length - 1) : ℕ) : ℚ) ≤ n := by
      exact_mod_cast pow_length_decimalDigits_le (shortest.digits_pos pos)
    have bound : (10 : ℚ) ^ (((decimalDigits n).length - 1 : ℕ) + k : Int) < 10 ^ (128 : Int) := by
      calc (10 : ℚ) ^ (((decimalDigits n).length - 1 : ℕ) + k : Int)
          = (10 ^ ((decimalDigits n).length - 1) : ℕ) * 10 ^ k := by
            rw [zpow_add₀ (by norm_num), zpow_natCast]
            push_cast
            rfl
        _ ≤ n * 10 ^ k := by gcongr
        _ ≤ Precision.top m e := shortest.cell.high
        _ < 2 ^ (128 : Int) := top_lt_single canonical
        _ ≤ 10 ^ (128 : Int) := by norm_num
    exact (zpow_lt_zpow_iff_right₀ (by norm_num)).mp bound
  omega

/-- What is written for a single number other than zero is a numeral, and says its shortest
decimal. -/
theorem exists_singleText (negative : Bool) :
    ∃ x : Numeral, x.spelling = singleText (.finite negative m e) ∧ x.Written negative ∧
      (if isPositional m e then x.IsPositional else x.IsScientific) ∧
      x.size = (shortestDigits .single m e).1 * 10 ^ (shortestDigits .single m e).2 := by
  have text : singleText (.finite negative m e) = (minus negative).spelling ++
      if isPositional m e then
        positionalText (shortestDigits .single m e).1 (shortestDigits .single m e).2
      else exponentText (shortestDigits .single m e).1 (shortestDigits .single m e).2 := by
    rw [singleText, Numeral.spelling_minus, if_neg pos.ne']
  rw [text]
  by_cases positional : isPositional m e = true
  · simp only [if_pos positional]
    exact exists_positional negative _ _
  · simp only [if_neg positional]
    exact exists_scientific negative _ _ (natAbs_exponent_lt canonical pos)

end Single

private theorem exists_zeroText (negative : Bool) (e : Int) :
    ∃ x : Numeral, x.spelling = singleText (.finite negative 0 e) ∧ x.Written negative ∧
      x.IsPositional ∧ x.size = 0 := by
  obtain ⟨x, spelled, written, positional, size⟩ := exists_positional negative 0 0
  refine ⟨x, ?_, written, positional, ?_⟩
  · rw [spelled, singleText, Numeral.spelling_minus, if_pos rfl]
    rfl
  · rw [size, Nat.cast_zero, zero_mul]

end Number

/-! ## Reading what is written -/

namespace Numeral

variable (n : Numeral)

private theorem scan_spelling : Decimal.scan n.spelling = some (n.decimal, []) :=
  Decimal.scan_of_whole? (Decimal.whole?_eq_some_iff.mpr ⟨n, rfl, rfl⟩)

private theorem dropWhile_spelling : n.spelling.dropWhile Number.isLeadingBlank = n.spelling := by
  refine List.dropWhile_eq_self_iff.mpr fun some leading => ?_
  have inside := inNumeral_of_mem (List.getElem_mem some)
  rw [Decimal.inNumeral_eq_false_of_isBlank (Number.isBlank_of_isLeadingBlank leading)] at inside
  cases inside

theorem ofLeading_spelling : Number.ofLeading n.spelling = n.value := by
  rw [Number.ofLeading, n.dropWhile_spelling, Decimal.leading?, n.scan_spelling, Option.map_some]
  exact n.toNumber_decimal

private theorem point_not_mem_of_digits {ds : List Char} (all : ∀ c ∈ ds, c.isDigit = true) :
    '.' ∉ ds :=
  fun mem => absurd (all '.' mem) (by decide)

private theorem count_point (places : n.places ≠ []) : n.spelling.count '.' = 1 := by
  obtain ⟨s, whole, places?, x?, wholeDigits, placesDigits, nonempty⟩ := n
  cases places? with
  | none => exact absurd rfl places
  | some ds =>
    have sign : s.spelling.count '.' = 0 := by
      match s with
      | none => rfl
      | some false => rfl
      | some true => rfl
    have front : whole.count '.' = 0 :=
      List.count_eq_zero_of_not_mem (point_not_mem_of_digits wholeDigits)
    have behind : ds.count '.' = 0 :=
      List.count_eq_zero_of_not_mem (point_not_mem_of_digits placesDigits)
    have exponent : (raised x?).count '.' = 0 := by
      cases x? with
      | none => rfl
      | some x =>
        have digits : x.digits.count '.' = 0 :=
          List.count_eq_zero_of_not_mem (point_not_mem_of_digits x.allDigits)
        have signed : x.sign.spelling.count '.' = 0 := by
          match x.sign with
          | none => rfl
          | some false => rfl
          | some true => rfl
        have mark : x.mark ≠ '.' := by
          rcases x.isMark with same | same <;> rw [same] <;> decide
        change (x.mark :: (x.sign.spelling ++ x.digits)).count '.' = 0
        rw [List.count_cons_of_ne mark, List.count_append, digits, signed]
    rw [spelling, List.count_append, List.count_append, List.count_append, sign, front, exponent,
      pointed, List.count_cons_self, behind]

end Numeral

namespace Scalar

theorem chars_ofNumber (x : Number) : (ofNumber x).chars = Number.singleText x.narrow :=
  String.toList_ofList

/-- What arithmetic writes can be read back.  A number that is finite in single precision is written
as a numeral with a minus sign or none and one point with digits on both sides.  If it is zero or
its size is from the single number nearest to one thousandth up to ten millions, there is no
exponent, and otherwise there is one digit in front of the point and an exponent behind a capital
letter.  What the numeral says is rounded to that single number.  Both readers take the whole of it.
What is not finite is written as a word that no reader takes. -/
theorem written_readable (x : Number) :
    match x.narrow with
    | .finite negative m e =>
      ∃ n : Numeral, n.spelling = (ofNumber x).chars ∧ n.Written negative ∧
        (Number.PositionalRange m e ∧ n.IsPositional ∨
          ¬ Number.PositionalRange m e ∧ n.IsScientific) ∧
        Precision.single.Cell m e n.size ∧ (ofNumber x).chars.count '.' = 1 ∧
        (ofNumber x).asNumber? = some n.value ∧
        Decimal.scan ((ofNumber x).chars.dropWhile Number.isLeadingBlank) = some (n.decimal, []) ∧
        (ofNumber x).toNumber = n.value
    | .infinite negative =>
      (ofNumber x).text = (if negative then "-Infinity" else "Infinity") ∧
        (ofNumber x).asNumber? = none ∧ (ofNumber x).toNumber = .zero
    | .nan =>
      (ofNumber x).text = "NaN" ∧ (ofNumber x).asNumber? = none ∧
        (ofNumber x).toNumber = .zero := by
  cases narrowed : x.narrow with
  | nan =>
    have text : ofNumber x = ⟨"NaN"⟩ := by
      rw [ofNumber, Number.render, narrowed]
      rfl
    rw [text]
    exact ⟨rfl, rfl, rfl⟩
  | infinite negative =>
    have text : ofNumber x = ⟨if negative then "-Infinity" else "Infinity"⟩ := by
      rw [ofNumber, Number.render, narrowed, Number.singleText, String.ofList_toList]
    rw [text]
    cases negative with
    | true => exact ⟨rfl, rfl, rfl⟩
    | false => exact ⟨rfl, rfl, rfl⟩
  | finite negative m e =>
    dsimp only
    rw [← Number.isPositional_iff]
    have canonical := Number.canonical_narrow narrowed
    obtain ⟨n, spelled, written, form, cell⟩ : ∃ n : Numeral,
        n.spelling = Number.singleText (.finite negative m e) ∧ n.Written negative ∧
        (if Number.isPositional m e then n.IsPositional else n.IsScientific) ∧
        Precision.single.Cell m e n.size := by
      rcases Nat.eq_zero_or_pos m with rfl | pos
      · obtain ⟨n, spelled, written, positional, size⟩ := Number.exists_zeroText negative e
        have self := Precision.Cell.self .single 0 e
        rw [Nat.cast_zero, zero_mul, ← size] at self
        exact ⟨n, spelled, written, positional, self⟩
      · obtain ⟨n, spelled, written, form, size⟩ := Number.exists_singleText canonical pos negative
        have cell := (Number.single_shortest canonical pos).cell
        rw [← size] at cell
        exact ⟨n, spelled, written, form, cell⟩
    have text : n.spelling = (ofNumber x).chars := by rw [spelled, chars_ofNumber, narrowed]
    refine ⟨n, text, written, ?_, cell, ?_, ?_, ?_, ?_⟩
    · by_cases positional : Number.isPositional m e = true
      · rw [if_pos positional] at form
        exact .inl ⟨positional, form⟩
      · rw [if_neg positional] at form
        exact .inr ⟨positional, form⟩
    · rw [← text]
      exact n.count_point written.places
    · rw [asNumber?, ← text]
      exact n.ofWhole?_spelling
    · rw [← text, n.dropWhile_spelling]
      exact n.scan_spelling
    · rw [toNumber, ← text]
      exact n.ofLeading_spelling

end Scalar

end PatternAction
