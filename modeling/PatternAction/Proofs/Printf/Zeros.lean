import Mathlib.Data.List.DropRight
import PatternAction.Proofs.Number.Counts
import PatternAction.Proofs.Printf.Items

/-!
Zeros at the end of a number.  Dropped are those behind the point and in front of the exponent, and
the point with them if no places are left; zeros in front of the point and in the exponent stay.
What is left is a numeral again, which says the same rational number and has no such zeros.
-/

set_option autoImplicit false
set_option relaxedAutoImplicit false

namespace PatternAction

/-! ## What a numeral says -/

/-- The power of ten that an exponent says, with all of its digits. -/
def Exponent.exact (x : Exponent) : Int :=
  let n : Int := Decimal.digitsValue 0 x.digits
  if x.sign.isNegative then -n else n

namespace Numeral

/-- The rational number that a numeral says. -/
def toRat (n : Numeral) : ℚ :=
  let front : ℚ := Decimal.digitsValue 0 n.whole
  let behind : ℚ := Decimal.digitsValue 0 n.places / 10 ^ n.places.length
  (if n.sign.isNegative then -1 else 1) * (front + behind) * 10 ^ n.exponent?.elim 0 Exponent.exact

def mantissa (n : Numeral) : List Char :=
  n.sign.spelling ++ n.whole ++ pointed n.places?

/-- Where there is a point there are places behind it, and the last of them is no zero. -/
def IsStripped (n : Numeral) : Prop :=
  ∀ ds ∈ n.places?, ds ≠ [] ∧ ds.getLast? ≠ some '0'

/-- Digits without the zeros at their end, or nothing if there is nothing else. -/
def significant? (ds : List Char) : Option (List Char) :=
  let kept := ds.rdropWhile (· == '0')
  if kept = [] then none else some kept

/-- A numeral with digits in front of its point, without the zeros at the end of its places. -/
def stripped (n : Numeral) (front : n.whole ≠ []) : Numeral where
  sign := n.sign
  whole := n.whole
  places? := significant? n.places
  exponent? := n.exponent?
  wholeDigits := n.wholeDigits
  placesDigits := by
    intro c mem
    rw [significant?] at mem
    split at mem
    · cases mem
    · exact n.placesDigits c ((List.rdropWhile_prefix _ _).subset mem)
  nonempty := .inl front

private theorem getD_significant? (ds : List Char) :
    (significant? ds).getD [] = ds.rdropWhile (· == '0') := by
  simp only [significant?]
  split
  · rename_i none
    rw [none]
    rfl
  · rfl

/-! ## Values -/

private theorem digitsValue_append_zeros (high : ℕ) (ds : List Char) (count : ℕ) :
    Decimal.digitsValue high (ds ++ List.replicate count '0') =
      Decimal.digitsValue high ds * 10 ^ count := by
  induction count with
  | zero => rw [List.replicate_zero, List.append_nil, Nat.pow_zero, Nat.mul_one]
  | succ count ih =>
    rw [List.replicate_succ', ← List.append_assoc, Decimal.digitsValue_append_zero, ih,
      Nat.mul_assoc, Nat.pow_succ]

private theorem exists_zeros (ds : List Char) :
    ∃ count, ds = ds.rdropWhile (· == '0') ++ List.replicate count '0' := by
  have zeros : ∀ c ∈ ds.rtakeWhile (· == '0'), c = '0' := by
    intro c mem
    have zero := List.mem_rtakeWhile_imp mem
    exact beq_iff_eq.mp zero
  refine ⟨(ds.rtakeWhile (· == '0')).length, ?_⟩
  rw [← List.eq_replicate_of_mem zeros]
  exact List.rdropWhile_append_rtakeWhile.symm

private theorem fraction_rdropWhile (ds : List Char) :
    let kept := ds.rdropWhile (· == '0')
    (Decimal.digitsValue 0 kept : ℚ) / 10 ^ kept.length =
      Decimal.digitsValue 0 ds / 10 ^ ds.length := by
  intro kept
  obtain ⟨count, split⟩ := exists_zeros ds
  have value : Decimal.digitsValue 0 ds = Decimal.digitsValue 0 kept * 10 ^ count := by
    conv_lhs => rw [split]
    exact digitsValue_append_zeros 0 kept count
  have length : ds.length = kept.length + count := by
    conv_lhs => rw [split]
    rw [List.length_append, List.length_replicate]
  rw [value, length, pow_add]
  push_cast
  rw [mul_div_mul_right _ _ (by positivity)]

variable (n : Numeral) (front : n.whole ≠ [])

private theorem places_stripped : (n.stripped front).places = n.places.rdropWhile (· == '0') :=
  getD_significant? n.places

private theorem toRat_stripped : (n.stripped front).toRat = n.toRat := by
  have fraction := fraction_rdropWhile n.places
  simp only [toRat, places_stripped, fraction]
  rfl

private theorem isStripped_stripped : (n.stripped front).IsStripped := by
  intro ds mem
  have kept : significant? n.places = some ds := mem
  rw [significant?] at kept
  split at kept
  · cases kept
  · rename_i some_left
    obtain rfl := Option.some.inj kept
    refine ⟨some_left, fun zero => ?_⟩
    have last := List.rdropWhile_last_not (· == '0') n.places some_left
    rw [List.getLast?_eq_some_getLast some_left] at zero
    rw [Option.some.inj zero] at last
    exact last rfl

private theorem stripped_stripped : (n.stripped front).stripped front = n.stripped front := by
  have same : significant? (n.stripped front).places = significant? n.places := by
    simp only [significant?, places_stripped, List.rdropWhile_idempotent]
  simp only [stripped] at same ⊢
  simp only [same]

end Numeral

/-! ## Spellings -/

namespace Numeral

variable (n : Numeral)

private theorem spelling_eq_mantissa : n.spelling = n.mantissa ++ raised n.exponent? := by
  rw [spelling, mantissa, List.append_assoc, List.append_assoc]

private theorem of_mem_mantissa {c : Char} (mem : c ∈ n.mantissa) :
    c ∈ n.sign.spelling ∨ c.isDigit = true ∨ (c = '.' ∧ n.places?.isSome = true) := by
  obtain ⟨s, whole, places?, x?, wholeDigits, placesDigits, _⟩ := n
  rcases List.mem_append.mp mem with front | behind
  · rcases List.mem_append.mp front with sign | digit
    · exact .inl sign
    · exact .inr (.inl (wholeDigits c digit))
  · cases places? with
    | none => cases behind
    | some ds =>
      rcases List.mem_cons.mp behind with point | digit
      · exact .inr (.inr ⟨point, rfl⟩)
      · exact .inr (.inl (placesDigits c digit))

private theorem of_mem_sign {s : Sign} {c : Char} (mem : c ∈ s.spelling) : c = '+' ∨ c = '-' := by
  match s with
  | none => cases mem
  | some false => exact .inl (List.mem_singleton.mp mem)
  | some true => exact .inr (List.mem_singleton.mp mem)

private theorem contains_point_mantissa : n.mantissa.contains '.' = n.places?.isSome := by
  cases some_point : n.places?.isSome with
  | true =>
    obtain ⟨ds, places⟩ := Option.isSome_iff_exists.mp some_point
    rw [List.contains_iff_mem, mantissa, places]
    exact List.mem_append_right _ List.mem_cons_self
  | false =>
    rw [← Bool.not_eq_true, List.contains_iff_mem]
    intro mem
    rcases n.of_mem_mantissa mem with sign | digit | point
    · rcases of_mem_sign sign with same | same <;> cases same
    · cases digit
    · exact Bool.false_ne_true (some_point.symm.trans point.2)

end Numeral

namespace Printf

open Numeral (significant? raised)

private theorem isPowerMark_mantissa {n : Numeral} {c : Char} (mem : c ∈ n.mantissa) :
    isPowerMark c = false := by
  rcases n.of_mem_mantissa mem with sign | digit | point
  · rcases Numeral.of_mem_sign sign with same | same <;> rw [same] <;> rfl
  · by_contra mark
    simp only [isPowerMark, Bool.not_eq_false, Bool.or_eq_true, beq_iff_eq] at mark
    rcases mark with same | same <;> rw [same] at digit <;> cases digit
  · rw [point.1]
    rfl

private theorem isPowerMark_raised {x? : Option Exponent} {c : Char}
    (first : c ∈ (raised x?).head?) :
    isPowerMark c = true := by
  cases x? with
  | none => cases first
  | some x =>
    obtain rfl : x.mark = c := Option.some.inj first
    rcases x.isMark with same | same <;> rw [same] <;> rfl

private theorem stripZeros_spelling_eq (n : Numeral) :
    stripZeros n.spelling =
      (if n.places?.isSome then (n.mantissa.rdropWhile (· == '0')).rdropWhile (· == '.')
        else n.mantissa) ++ raised n.exponent? := by
  have front : ∀ c ∈ n.mantissa, (!isPowerMark c) = true := by
    intro c mem
    rw [isPowerMark_mantissa mem]
    rfl
  have mark : ∀ c ∈ (raised n.exponent?).head?, (!isPowerMark c) = false := by
    intro c first
    rw [isPowerMark_raised first]
    rfl
  obtain ⟨taken, left⟩ := takeWhile_dropWhile_of_stops front mark
  rw [stripZeros, n.spelling_eq_mantissa, taken, left, n.contains_point_mantissa]
  split
  · simp only [List.rdropWhile, List.reverse_reverse]
  · rfl

private theorem rdropWhile_append {p : Char → Bool} (xs ys : List Char) :
    (xs ++ ys).rdropWhile p =
      if ys.rdropWhile p = [] then xs.rdropWhile p else xs ++ ys.rdropWhile p := by
  simp only [List.rdropWhile, List.reverse_append, List.dropWhile_append, List.reverse_eq_nil_iff,
    List.isEmpty_iff]
  split
  · rfl
  · rw [List.reverse_append, List.reverse_reverse]

private theorem rdropWhile_point_append {ds : List Char} (some_digit : ds ≠ [])
    (digits : ∀ c ∈ ds, c.isDigit = true) (xs : List Char) :
    (xs ++ ds).rdropWhile (· == '.') = xs ++ ds := by
  refine List.rdropWhile_eq_self_iff.mpr fun nonempty point => ?_
  rw [List.getLast_append_of_ne_nil nonempty some_digit] at point
  have digit := digits _ (List.getLast_mem some_digit)
  rw [beq_iff_eq.mp point] at digit
  cases digit

private theorem rdropWhile_pointed {front ds : List Char}
    (front_stays : front.rdropWhile (· == '.') = front) (digits : ∀ c ∈ ds, c.isDigit = true) :
    ((front ++ '.' :: ds).rdropWhile (· == '0')).rdropWhile (· == '.') =
      front ++ Numeral.pointed (significant? ds) := by
  have point : front ++ '.' :: ds = (front ++ ['.']) ++ ds := by simp
  rw [point, rdropWhile_append, significant?]
  split
  · rw [List.rdropWhile_concat_neg _ _ _ (by decide), List.rdropWhile_concat_pos _ _ _ (by decide),
      front_stays]
    exact (List.append_nil front).symm
  · rename_i some_left
    have kept : ∀ c ∈ ds.rdropWhile (· == '0'), c.isDigit = true := by
      intro c mem
      exact digits c ((List.rdropWhile_prefix _ _).subset mem)
    rw [rdropWhile_point_append some_left kept, List.append_assoc]
    rfl

private theorem stripZeros_spelling (n : Numeral) (front : n.whole ≠ []) :
    stripZeros n.spelling = (n.stripped front).spelling := by
  have stays := rdropWhile_point_append front n.wholeDigits n.sign.spelling
  rw [stripZeros_spelling_eq, Numeral.spelling_eq_mantissa]
  refine congrArg (· ++ raised n.exponent?) ?_
  obtain ⟨s, whole, places?, x?, wholeDigits, placesDigits, _⟩ := n
  -- Without a point zeros of the whole number would be at the end; they are not looked at.
  cases places? with
  | none => rfl
  | some ds => exact rdropWhile_pointed stays placesDigits

/-- Dropping zeros at the end of a numeral that has digits in front of its point leaves a numeral
that says the same rational number.  Sign, digits in front of the point and exponent are
what they were; places that are left do not end with a zero, and no point is left alone.  Doing
it again changes nothing. -/
theorem stripZeros_exact (n : Numeral) (front : n.whole ≠ []) :
    ∃ m : Numeral, stripZeros n.spelling = m.spelling ∧
      m.sign = n.sign ∧ m.whole = n.whole ∧ m.exponent? = n.exponent? ∧
      m.toRat = n.toRat ∧ m.IsStripped ∧
      stripZeros (stripZeros n.spelling) = stripZeros n.spelling := by
  refine ⟨n.stripped front, stripZeros_spelling n front, rfl, rfl, rfl, n.toRat_stripped front,
    n.isStripped_stripped front, ?_⟩
  rw [stripZeros_spelling n front, stripZeros_spelling (n.stripped front) front,
    n.stripped_stripped front]

/-- Zeros on both sides of the point and in the exponent: only those at the end of the places go. -/
theorem stripZeros_exact_mantissa :
    let n : Numeral := ⟨none, ['1', '0', '0'], some ['2', '5', '0', '0'],
      some ⟨'e', some false, ['1', '0'], .inl rfl, List.all_eq_true.mp rfl, List.cons_ne_nil _ _⟩,
      List.all_eq_true.mp rfl, List.all_eq_true.mp rfl, .inl (List.cons_ne_nil _ _)⟩
    n.spelling = "100.2500e+10".toList ∧ n.whole ≠ [] ∧
      stripZeros n.spelling = "100.25e+10".toList ∧
      ∃ m : Numeral, "100.25e+10".toList = m.spelling ∧ m.toRat = n.toRat ∧ m.IsStripped := by
  intro n
  have front : n.whole ≠ [] := List.cons_ne_nil _ _
  have left : stripZeros n.spelling = "100.25e+10".toList := by decide +kernel
  obtain ⟨m, spelled, -, -, -, value, stripped, -⟩ := stripZeros_exact n front
  exact ⟨by decide +kernel, front, left, m, left.symm.trans spelled, value, stripped⟩

-- Where there are two points both can go in the end, but not at once.
example : stripZeros "1.0.0".toList = "1.0".toList ∧ stripZeros "1.0".toList = "1".toList := by
  decide +kernel

/-! ## The shorter of two notations -/

private theorem exists_pointed (n places : Nat) :
    ∃ x : Numeral, x.spelling = pointed n places ∧ x.whole ≠ [] ∧ x.exponent? = none := by
  rcases Nat.eq_zero_or_pos places with none | some_places
  · refine ⟨.count n, ?_, decimalDigits_ne_nil n, rfl⟩
    rw [Numeral.spelling_count, pointed, if_pos none]
  · obtain ⟨x, spelled, written, positional, -⟩ := Number.exists_pointed false n some_places
    exact ⟨x, spelled, written.whole, positional⟩

private theorem exists_powerText (upper : Bool) (k : Int) :
    ∃ x : Exponent, x.spelling = powerText upper k := by
  let x : Exponent := {
    mark := if upper then 'E' else 'e'
    sign := some (decide (k < 0))
    digits := zeroFill 2 (decimalDigits k.natAbs)
    isMark := by cases upper <;> simp
    allDigits := fun _ => Number.isDigit_of_mem_zeroFill
    nonempty := List.append_ne_nil_of_right_ne_nil _ (decimalDigits_ne_nil _) }
  refine ⟨x, ?_⟩
  rw [powerText, Exponent.spelling]
  by_cases negative : k < 0
  · rw [if_pos negative]
    simp [x, negative, Sign.spelling]
  · rw [if_neg negative]
    simp [x, negative, Sign.spelling]

private theorem exists_exponentBody {q : Fraction} {places : Nat} {upper : Bool} {text : List Char}
    (shown : exponentBody q places upper = some text) :
    ∃ x : Numeral, x.spelling = text ∧ x.whole ≠ [] := by
  obtain ⟨x, spelled, front, positional⟩ := exists_pointed (q.scientific places).1 places
  obtain ⟨e, power⟩ := exists_powerText upper (q.scientific places).2
  have parts : text =
      pointed (q.scientific places).1 places ++ powerText upper (q.scientific places).2 := by
    rw [exponentBody, Option.bind_eq_bind, Option.bind_eq_some_iff] at shown
    obtain ⟨_, usable, same⟩ := shown
    obtain ⟨rfl, -⟩ := Option.guard_eq_some_iff.mp usable
    exact (Option.some.inj same).symm
  have bare : x.mantissa = pointed (q.scientific places).1 places := by
    rw [← spelled, Numeral.spelling_eq_mantissa, positional]
    exact (List.append_nil _).symm
  refine ⟨{ x with exponent? := some e }, ?_, front⟩
  rw [Numeral.spelling_eq_mantissa, parts, ← bare, ← power]
  rfl

private theorem exists_shorterBody {q : Fraction} {digits : Nat} {upper : Bool} {text : List Char}
    (shown : shorterBody q digits upper = some text) :
    ∃ x : Numeral, x.spelling = text ∧ x.whole ≠ [] := by
  rw [shorterBody, Option.bind_eq_bind, Option.bind_eq_some_iff] at shown
  obtain ⟨k, -, shown⟩ := shown
  split at shown
  · exact exists_exponentBody shown
  · obtain ⟨places, -, rfl⟩ := Option.map_eq_some_iff.mp shown
    obtain ⟨x, spelled, front, -⟩ := exists_pointed _ _
    exact ⟨x, spelled, front⟩

/-- With and without the flag that keeps zeros a general conversion says the same number, and
without it no zero ends the places. -/
theorem generalBody_says {q : Fraction} {digits : Nat} {upper : Bool} {text : List Char}
    (shown : generalBody q digits true upper = some text) :
    ∃ n m : Numeral, text = n.spelling ∧
      generalBody q digits false upper = some m.spelling ∧
      m.toRat = n.toRat ∧ m.exponent? = n.exponent? ∧ m.IsStripped := by
  have body : shorterBody q (max digits 1) upper = some text := shown
  obtain ⟨n, rfl, front⟩ := exists_shorterBody body
  refine ⟨n, n.stripped front, rfl, ?_, n.toRat_stripped front, rfl, n.isStripped_stripped front⟩
  rw [← stripZeros_spelling n front, generalBody, body]
  rfl

end Printf

end PatternAction
