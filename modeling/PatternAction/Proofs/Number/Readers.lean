import Mathlib.Data.List.TakeWhile
import PatternAction.Proofs.Token.Legible
import PatternAction.Value

/-!
The two readers of numbers.  Both use one scanner of numerals: one takes what it finds in front of a
text, the other wants nothing but blanks around it.  They differ in what they take for a blank.  The
first knows five characters, the second all those of Unicode.  So a text that is a numeral is read
alike by both if every blank in front of it is one of the five; behind any other blank the first
reader finds no numeral and answers zero.
-/

set_option autoImplicit false
set_option relaxedAutoImplicit false

namespace PatternAction

open Text

/-! ## Numerals with something behind them -/

namespace Decimal

def inNumeral (c : Char) : Bool :=
  c.isDigit || c ∈ ['+', '-', '.', 'e', 'E']

theorem sign_cons {c : Char} (plus : c ≠ '+') (minus : c ≠ '-') (cs : List Char) :
    sign (c :: cs) = (false, c :: cs) := by
  unfold sign
  split
  · rename_i same
    exact absurd (List.cons.inj same).1 plus
  · rename_i same
    exact absurd (List.cons.inj same).1 minus
  · rfl

theorem places_cons {c : Char} (point : c ≠ '.') (cs : List Char) :
    places (c :: cs) = ([], c :: cs) := by
  unfold places
  split
  · rename_i same
    exact absurd (List.cons.inj same).1 point
  · rfl

def Stops (rest : List Char) : Prop :=
  ∀ c ∈ rest.head?, inNumeral c = false

section Stops

variable {rest : List Char} (stops : Stops rest)
include stops

private theorem Stops.ne {c : Char} {tail : List Char} (h : rest = c :: tail) (d : Char)
    (mark : d ∈ ['+', '-', '.', 'e', 'E']) : c ≠ d := by
  rintro rfl
  have outside := stops c (by rw [h]; rfl)
  simp only [inNumeral, mark, decide_true, Bool.or_true, Bool.true_eq_false] at outside

private theorem Stops.digits : digits rest = ([], rest) := by
  unfold Decimal.digits
  cases rest with
  | nil => rfl
  | cons c tail =>
    have outside := stops c rfl
    have noDigit : c.isDigit = false := (Bool.or_eq_false_iff.mp outside).1
    rw [List.takeWhile_cons, List.dropWhile_cons, noDigit]
    rfl

private theorem Stops.sign : sign rest = (false, rest) := by
  cases rest with
  | nil => rfl
  | cons c tail =>
    exact sign_cons (stops.ne rfl '+' (by decide)) (stops.ne rfl '-' (by decide)) tail

private theorem Stops.places : places rest = ([], rest) := by
  cases rest with
  | nil => rfl
  | cons c tail => exact places_cons (stops.ne rfl '.' (by decide)) tail

private theorem Stops.exponentPart : exponentPart rest = (0, rest) := by
  unfold Decimal.exponentPart
  split
  · rename_i c tail
    rw [if_neg]
    rintro (rfl | rfl)
    · exact absurd rfl (stops.ne rfl 'e' (by decide))
    · exact absurd rfl (stops.ne rfl 'E' (by decide))
  · rfl

private theorem sign_append (cs : List Char) :
    sign (cs ++ rest) = ((sign cs).1, (sign cs).2 ++ rest) := by
  cases cs with
  | nil => exact stops.sign
  | cons c cs =>
    by_cases plus : c = '+'
    · subst plus
      rfl
    · by_cases minus : c = '-'
      · subst minus
        rfl
      · rw [List.cons_append, sign_cons plus minus, sign_cons plus minus, List.cons_append]

private theorem digits_append (cs : List Char) :
    digits (cs ++ rest) = ((digits cs).1, (digits cs).2 ++ rest) := by
  induction cs with
  | nil => exact stops.digits
  | cons c cs ih =>
    obtain ⟨taken, left⟩ := Prod.mk.inj ih
    unfold digits
    rw [List.cons_append, List.takeWhile_cons, List.dropWhile_cons, List.takeWhile_cons,
      List.dropWhile_cons]
    cases c.isDigit with
    | true => simp only [if_true, taken, left, digits]
    | false => rfl

private theorem places_append (cs : List Char) :
    places (cs ++ rest) = ((places cs).1, (places cs).2 ++ rest) := by
  cases cs with
  | nil => exact stops.places
  | cons c cs =>
    by_cases point : c = '.'
    · subst point
      exact digits_append stops cs
    · rw [List.cons_append, places_cons point, places_cons point, List.cons_append]

private theorem exponentPart_append (cs : List Char) :
    exponentPart (cs ++ rest) = ((exponentPart cs).1, (exponentPart cs).2 ++ rest) := by
  cases cs with
  | nil => exact stops.exponentPart
  | cons c cs =>
    unfold exponentPart
    simp only [List.cons_append, sign_append stops, digits_append stops]
    split
    · split <;> rfl
    · rfl

private theorem scan_append (cs : List Char) :
    scan (cs ++ rest) = (scan cs).map fun found => (found.1, found.2 ++ rest) := by
  unfold scan
  simp only [sign_append stops, digits_append stops, places_append stops,
    exponentPart_append stops]
  split <;> rfl

private theorem scan_of_stops : scan rest = none := by
  unfold scan
  simp only [stops.sign, stops.digits, stops.places]
  rfl

end Stops

end Decimal

/-! ## Blanks -/

theorem Decimal.inNumeral_eq_false_of_isBlank {c : Char} (blank : isBlank c = true) :
    inNumeral c = false := by
  have all : ∀ n ∈ blanks, inNumeral (Char.ofNat n) = false := by decide
  simpa using all c.toNat (toNat_mem_blanks blank)

private theorem Decimal.stops_of_blanks {rest : List Char} (blanks : ∀ c ∈ rest, isBlank c = true) :
    Stops rest :=
  fun c first => inNumeral_eq_false_of_isBlank (blanks c (List.mem_of_mem_head? first))

private theorem Text.exists_trimEnd_append (cs : List Char) :
    ∃ back, trimEnd cs ++ back = cs ∧ ∀ c ∈ back, isBlank c = true := by
  refine ⟨(cs.reverse.takeWhile isBlank).reverse, ?_, ?_⟩
  · rw [trimEnd, ← List.reverse_append, List.takeWhile_append_dropWhile, List.reverse_reverse]
  · intro c mem
    exact List.mem_takeWhile_imp (List.mem_reverse.mp mem)

theorem Number.isBlank_of_isLeadingBlank {c : Char} (h : isLeadingBlank c = true) :
    isBlank c = true := by
  simp only [isLeadingBlank, Bool.or_eq_true, beq_iff_eq] at h
  rcases h with (((rfl | rfl) | rfl) | rfl) | rfl <;> decide

/-! ## Both readers -/

theorem Decimal.scan_of_whole? {cs : List Char} {d : Decimal} (h : whole? cs = some d) :
    scan cs = some (d, []) := by
  unfold whole? at h
  split at h
  · rename_i scanned
    rw [scanned, Option.some.inj h]
  · cases h

namespace Number

/-- Whether every blank in front of a text is one that the forgiving reader skips. -/
def isPlainFront (cs : List Char) : Bool :=
  (cs.takeWhile isBlank).all isLeadingBlank

private theorem isPlainFront_cons (c : Char) (cs : List Char) :
    isPlainFront (c :: cs) = (!isBlank c || isLeadingBlank c && isPlainFront cs) := by
  rw [isPlainFront, List.takeWhile_cons]
  cases isBlank c with
  | true => rw [if_pos rfl, List.all_cons, isPlainFront, Bool.not_true, Bool.false_or]
  | false => rfl

private theorem dropWhile_isLeadingBlank {cs : List Char} (plain : isPlainFront cs = true) :
    cs.dropWhile isLeadingBlank = trimStart cs := by
  unfold trimStart
  induction cs with
  | nil => rfl
  | cons c cs ih =>
    rw [isPlainFront_cons] at plain
    rw [List.dropWhile_cons, List.dropWhile_cons]
    cases blank : isBlank c with
    | true =>
      rw [blank, Bool.not_true, Bool.false_or, Bool.and_eq_true] at plain
      rw [if_pos plain.1, if_pos rfl]
      exact ih plain.2
    | false =>
      have other : ¬ isLeadingBlank c = true := by
        intro leading
        rw [isBlank_of_isLeadingBlank leading] at blank
        cases blank
      rw [if_neg other, if_neg Bool.false_ne_true]

private theorem stops_dropWhile_isLeadingBlank {cs : List Char} (other : isPlainFront cs = false) :
    Decimal.Stops (cs.dropWhile isLeadingBlank) := by
  induction cs with
  | nil => cases other
  | cons c cs ih =>
    rw [isPlainFront_cons, Bool.or_eq_false_iff, Bool.not_eq_false'] at other
    obtain ⟨blank, rest⟩ := other
    rw [List.dropWhile_cons]
    cases leading : isLeadingBlank c with
    | true =>
      rw [leading, Bool.true_and] at rest
      rw [if_pos rfl]
      exact ih rest
    | false =>
      rw [if_neg Bool.false_ne_true]
      intro d first
      rw [← Option.some.inj first]
      exact Decimal.inNumeral_eq_false_of_isBlank blank

private theorem ofLeading_of_plain {cs : List Char} {n : Number} (plain : isPlainFront cs = true)
    (whole : ofWhole? cs = some n) : ofLeading cs = n := by
  obtain ⟨d, read, rfl⟩ := Option.map_eq_some_iff.mp whole
  have scanned : Decimal.scan (trim cs) = some (d, []) := Decimal.scan_of_whole? read
  obtain ⟨back, rejoined, blanks⟩ := exists_trimEnd_append (trimStart cs)
  have found : Decimal.leading? (trimStart cs) = some d := by
    rw [Decimal.leading?, ← rejoined, Decimal.scan_append (Decimal.stops_of_blanks blanks), ← trim,
      scanned]
    rfl
  rw [ofLeading, dropWhile_isLeadingBlank plain, found]

private theorem ofLeading_of_not_plain {cs : List Char} (other : isPlainFront cs = false) :
    ofLeading cs = zero := by
  have missing : Decimal.leading? (cs.dropWhile isLeadingBlank) = none := by
    rw [Decimal.leading?, Decimal.scan_of_stops (stops_dropWhile_isLeadingBlank other)]
    rfl
  rw [ofLeading, missing]

end Number

namespace Scalar

/-- Whether every blank in front of the text is one that arithmetic skips. -/
def isPlain (s : Scalar) : Bool :=
  Number.isPlainFront s.chars

/-- A text that comparisons and tests of truth take for a number is that number in arithmetic as
well, if the blanks in front of it are plain, and otherwise only if the number is zero.  So for
plain texts comparisons and tests of truth are those of the numbers that arithmetic finds. -/
theorem readers_agree {s : Scalar} {n : Number} (whole : s.asNumber? = some n) :
    (s.toNumber = n ↔ s.isPlain = true ∨ n = .zero) ∧
    (s.isPlain = true → s.isTruthy = !s.toNumber.isZero ∧
      ∀ (t : Scalar) (k : Number), t.asNumber? = some k → t.isPlain = true →
        s.order t = s.toNumber.order t.toNumber) := by
  have plainly {t : Scalar} {k : Number} (plain : t.isPlain = true) (h : t.asNumber? = some k) :
      t.toNumber = k :=
    Number.ofLeading_of_plain plain h
  refine ⟨⟨fun same => ?_, ?_⟩, fun plain => ⟨?_, fun t k other plain' => ?_⟩⟩
  · cases front : s.isPlain with
    | true => exact .inl rfl
    | false => exact .inr (same.symm.trans (Number.ofLeading_of_not_plain front))
  · rintro (plain | rfl)
    · exact plainly plain whole
    · cases front : s.isPlain with
      | true => exact plainly front whole
      | false => exact Number.ofLeading_of_not_plain front
  · rw [isTruthy, whole, plainly plain whole]
  · rw [order, whole, other, plainly plain whole, plainly plain' other]

/-- A numeral with plain blanks in front, another kind of blank behind, and an exponent. -/
theorem readers_agree_exponent :
    let s : Scalar := ⟨" \t-1.5e2\u2003"⟩
    let n := Number.finite true 0x12c00000000000 (-45)
    s.asNumber? = some n ∧ s.isPlain = true ∧ s.toNumber = n ∧ s.isTruthy = true := by
  intro s n
  have whole : s.asNumber? = some n := by decide +kernel
  have plain : s.isPlain = true := by decide +kernel
  have agree := readers_agree whole
  have same : s.toNumber = n := agree.1.mpr (.inl plain)
  refine ⟨whole, plain, same, ?_⟩
  rw [(agree.2 plain).1, same]
  rfl

/-- Behind a blank that arithmetic does not skip, a text is five in comparisons and zero in
arithmetic. -/
theorem readers_disagree_no_break :
    let s : Scalar := ⟨"\u00a05"⟩
    ∃ n, s.asNumber? = some n ∧ s.toNumber ≠ n ∧ s.order ⟨"5"⟩ = .eq ∧
      s.toNumber.isZero = true := by
  refine ⟨.ofBits 0x4014000000000000, ?_⟩
  decide +kernel

end Scalar

end PatternAction
