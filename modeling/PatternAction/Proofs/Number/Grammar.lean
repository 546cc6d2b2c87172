import PatternAction.Proofs.Number.Exact
import PatternAction.Proofs.Number.Readers

/-!
The grammar of numerals: a sign, digits with at most one point among or around them, and an
exponent, where sign and exponent may be missing.  The scanner finds the longest numeral in front of
a text, and finds none only if there is none.  So the forgiving reader answers the value of the
longest numeral in front of its text, and the strict reader accepts exactly the texts that are
numerals, blanks around them apart.
-/

set_option autoImplicit false
set_option relaxedAutoImplicit false

namespace PatternAction

open Text

/-! ## Numerals -/

/-- A sign as it is written, if it is: `true` is a minus. -/
abbrev Sign := Option Bool

namespace Sign

def spelling : Sign → List Char
  | none => []
  | some false => ['+']
  | some true => ['-']

def isNegative (s : Sign) : Bool :=
  s == some true

end Sign

/-- An exponent: a mark, a sign that may be missing, and digits. -/
structure Exponent where
  mark : Char
  sign : Sign
  digits : List Char
  isMark : mark = 'e' ∨ mark = 'E'
  allDigits : ∀ c ∈ digits, c.isDigit = true
  nonempty : digits ≠ []

namespace Exponent

def spelling (x : Exponent) : List Char :=
  x.mark :: (x.sign.spelling ++ x.digits)

/-- The number that the digits spell.  Of digits that reach `2 ^ 16` only so many count as are
needed to reach it. -/
def size (x : Exponent) : Nat :=
  let n := Decimal.digitsValue 0 x.digits
  if n < 0x10000 then n else Decimal.exponentValue x.digits

def power (x : Exponent) : Int :=
  if x.sign.isNegative then -x.size else x.size

end Exponent

/-- A numeral.  There is a digit in front of the point or behind it. -/
structure Numeral where
  sign : Sign
  whole : List Char
  /-- The digits behind the point, if there is a point. -/
  places? : Option (List Char)
  exponent? : Option Exponent
  wholeDigits : ∀ c ∈ whole, c.isDigit = true
  placesDigits : ∀ c ∈ places?.getD [], c.isDigit = true
  nonempty : whole ≠ [] ∨ places?.getD [] ≠ []

namespace Numeral

def pointed : Option (List Char) → List Char
  | none => []
  | some ds => '.' :: ds

def raised (x? : Option Exponent) : List Char :=
  x?.elim [] Exponent.spelling

variable (n : Numeral)

def places : List Char :=
  n.places?.getD []

def spelling : List Char :=
  n.sign.spelling ++ (n.whole ++ (pointed n.places? ++ raised n.exponent?))

/-- All digits as one integer, and the power of ten that goes with them. -/
def decimal : Decimal :=
  ⟨n.sign.isNegative, Decimal.digitsValue 0 (n.whole ++ n.places),
    n.exponent?.elim 0 Exponent.power - n.places.length⟩

/-- The number nearest to what the numeral says. -/
def value : Number :=
  Precision.double.round n.sign.isNegative n.decimal.fraction

theorem toNumber_decimal : n.decimal.toNumber = n.value :=
  n.decimal.toNumber_eq_round

/-- No numeral in front of a text is longer. -/
def LongestIn (cs : List Char) : Prop :=
  n.spelling <+: cs ∧ ∀ other : Numeral, other.spelling <+: cs →
    other.spelling.length ≤ n.spelling.length

end Numeral

/-! ## What is scanned is a numeral -/

namespace Decimal

theorem digitsValue_append (high : Nat) (ds es : List Char) :
    digitsValue high (ds ++ es) = digitsValue (digitsValue high ds) es :=
  List.foldl_append

private theorem le_digitsValue (high : Nat) (ds : List Char) : high ≤ digitsValue high ds := by
  induction ds generalizing high with
  | nil => exact Nat.le_refl high
  | cons c ds ih =>
    have step : digitsValue high (c :: ds) = digitsValue (high * 10 + (c.toNat - 48)) ds := rfl
    have rest := ih (high * 10 + (c.toNat - 48))
    omega

private theorem exponentValue_of_lt {ds : List Char} (small : digitsValue 0 ds < 0x10000) :
    exponentValue ds = digitsValue 0 ds := by
  have counted : ∀ (high : Nat) (ds : List Char), digitsValue high ds < 0x10000 →
      ds.foldl (fun n c => if n < 0x10000 then digitsValue n [c] else n) high =
        digitsValue high ds := by
    intro high ds
    induction ds generalizing high with
    | nil => exact fun _ => rfl
    | cons c ds ih =>
      intro small
      have room : high < 0x10000 := Nat.lt_of_le_of_lt (le_digitsValue high (c :: ds)) small
      rw [List.foldl_cons, if_pos room]
      exact ih _ small
  exact counted 0 ds small

private theorem exponentValue_eq_size (x : Exponent) : exponentValue x.digits = x.size := by
  rw [Exponent.size]
  split
  · rename_i small
    exact exponentValue_of_lt small
  · rfl

private theorem digits_eq (cs : List Char) : (digits cs).1 ++ (digits cs).2 = cs :=
  List.takeWhile_append_dropWhile

private theorem isDigit_of_mem_digits {cs : List Char} {c : Char} (mem : c ∈ (digits cs).1) :
    c.isDigit = true :=
  List.mem_takeWhile_imp mem

private theorem exists_sign (cs : List Char) :
    ∃ s : Sign, s.spelling ++ (sign cs).2 = cs ∧ s.isNegative = (sign cs).1 := by
  unfold sign
  split
  · exact ⟨some false, rfl, rfl⟩
  · exact ⟨some true, rfl, rfl⟩
  · exact ⟨none, rfl, rfl⟩

private theorem exists_places (cs : List Char) :
    ∃ ds? : Option (List Char), Numeral.pointed ds? ++ (places cs).2 = cs ∧
      ds?.getD [] = (places cs).1 ∧ ∀ c ∈ ds?.getD [], c.isDigit = true := by
  unfold places
  split
  · rename_i rest
    refine ⟨some (digits rest).1, ?_, rfl, fun c => isDigit_of_mem_digits⟩
    rw [Numeral.pointed, List.cons_append, digits_eq]
  · exact ⟨none, rfl, rfl, nofun⟩

private theorem exists_exponent (cs : List Char) :
    ∃ x? : Option Exponent, Numeral.raised x? ++ (exponentPart cs).2 = cs ∧
      x?.elim 0 Exponent.power = (exponentPart cs).1 := by
  cases cs with
  | nil => exact ⟨none, rfl, rfl⟩
  | cons c rest =>
    rw [exponentPart]
    by_cases mark : c = 'e' ∨ c = 'E'
    · rw [if_pos mark]
      obtain ⟨s, signed, negative⟩ := exists_sign rest
      by_cases missing : (digits (sign rest).2).1 = []
      · refine ⟨none, ?_, ?_⟩
        · simp only [missing, List.isEmpty_nil, if_true]
          rfl
        · simp only [missing, List.isEmpty_nil, if_true]
          rfl
      · let x : Exponent := ⟨c, s, (digits (sign rest).2).1, mark,
          fun _ => isDigit_of_mem_digits, missing⟩
        have found : (digits (sign rest).2).1.isEmpty = false := by
          simpa using missing
        have size : (exponentValue (digits (sign rest).2).1 : Int) = x.size :=
          congrArg Nat.cast (exponentValue_eq_size x)
        refine ⟨some x, ?_, ?_⟩
        · simp only [found, Bool.false_eq_true, if_false]
          change c :: (s.spelling ++ (digits (sign rest).2).1) ++ (digits (sign rest).2).2 = _
          rw [List.cons_append, List.append_assoc, digits_eq, signed]
        · simp only [found, Bool.false_eq_true, if_false, size, ← negative]
          rfl
    · rw [if_neg mark]
      exact ⟨none, rfl, rfl⟩

private theorem scan_eq (cs : List Char) :
    scan cs =
      let whole := digits (sign cs).2
      let part := places whole.2
      let raised := exponentPart part.2
      if whole.1.isEmpty && part.1.isEmpty then none
      else some (⟨(sign cs).1, digitsValue 0 (whole.1 ++ part.1), raised.1 - part.1.length⟩,
        raised.2) := by
  simp only [digitsValue_append]
  rfl

private theorem exists_numeral {cs rest : List Char} {d : Decimal}
    (found : scan cs = some (d, rest)) :
    ∃ n : Numeral, n.spelling ++ rest = cs ∧ n.decimal = d := by
  obtain ⟨s, signed, negative⟩ := exists_sign cs
  obtain ⟨ds?, pointed, same, allDigits⟩ := exists_places (digits (sign cs).2).2
  obtain ⟨x?, raised, power⟩ := exists_exponent (places (digits (sign cs).2).2).2
  rw [scan_eq] at found
  dsimp only at found
  split at found
  · cases found
  · rename_i some_digit
    obtain ⟨rfl, rfl⟩ := Prod.mk.inj (Option.some.inj found)
    have nonempty : (digits (sign cs).2).1 ≠ [] ∨ ds?.getD [] ≠ [] := by
      rw [same]
      by_contra none
      simp only [not_or, not_not] at none
      rw [none.1, none.2] at some_digit
      exact some_digit rfl
    refine ⟨⟨s, (digits (sign cs).2).1, ds?, x?, fun _ => isDigit_of_mem_digits, allDigits,
      nonempty⟩, ?_, ?_⟩
    · simp only [Numeral.spelling, List.append_assoc]
      rw [raised, pointed, digits_eq, signed]
    · simp only [Numeral.decimal, Numeral.places, same, power, negative]

/-! ## Numerals are scanned to their end -/

private theorem sign_spelling (s : Sign) {cs : List Char}
    (first : ∀ c ∈ cs.head?, c.isDigit = true ∨ c = '.') :
    sign (s.spelling ++ cs) = (s.isNegative, cs) := by
  match s with
  | some false => rfl
  | some true => rfl
  | none =>
    cases cs with
    | nil => rfl
    | cons c cs =>
      have head := first c rfl
      refine sign_cons ?_ ?_ cs
      · rintro rfl
        exact absurd head (by decide)
      · rintro rfl
        exact absurd head (by decide)

private theorem digits_append_of_digits {ds : List Char} (all : ∀ c ∈ ds, c.isDigit = true)
    (cs : List Char) : digits (ds ++ cs) = (ds ++ (digits cs).1, (digits cs).2) := by
  rw [digits, List.takeWhile_append_of_pos all, List.dropWhile_append_of_pos all]
  rfl

private theorem digits_cons_of_not {c : Char} (other : c.isDigit = false) (cs : List Char) :
    digits (c :: cs) = ([], c :: cs) := by
  rw [digits, List.takeWhile_cons, List.dropWhile_cons, other]
  rfl

private theorem length_digits_le (cs : List Char) : (digits cs).2.length ≤ cs.length :=
  List.IsSuffix.length_le ⟨_, digits_eq cs⟩

private theorem length_places_le (cs : List Char) : (places cs).2.length ≤ cs.length := by
  obtain ⟨ds?, parts, -⟩ := exists_places cs
  exact List.IsSuffix.length_le ⟨_, parts⟩

private theorem length_exponentPart_le (cs : List Char) :
    (exponentPart cs).2.length ≤ cs.length := by
  obtain ⟨x?, parts, -⟩ := exists_exponent cs
  exact List.IsSuffix.length_le ⟨_, parts⟩

section Exponent

variable (x : Exponent) (rest : List Char)

private theorem isDigit_mark : x.mark.isDigit = false := by
  rcases x.isMark with same | same <;> rw [same] <;> rfl

private theorem digits_exponent : digits (x.spelling ++ rest) = ([], x.spelling ++ rest) :=
  digits_cons_of_not (isDigit_mark x) _

private theorem places_exponent : places (x.spelling ++ rest) = ([], x.spelling ++ rest) := by
  refine places_cons ?_ _
  rcases x.isMark with same | same <;> rw [same] <;> decide

private theorem exponentPart_exponent :
    exponentPart (x.spelling ++ rest) =
      (if x.sign.isNegative then -(exponentValue (x.digits ++ (digits rest).1) : Int)
        else exponentValue (x.digits ++ (digits rest).1), (digits rest).2) := by
  obtain ⟨c, ds, same⟩ := List.exists_cons_of_ne_nil x.nonempty
  have signed : sign (x.sign.spelling ++ (x.digits ++ rest)) =
      (x.sign.isNegative, x.digits ++ rest) := by
    refine sign_spelling x.sign fun d head => .inl (x.allDigits d ?_)
    rw [same] at head ⊢
    rw [← Option.some.inj head]
    exact List.mem_cons_self
  have found : (x.digits ++ (digits rest).1).isEmpty = false := by
    rw [same]
    rfl
  rw [Exponent.spelling, List.cons_append, List.append_assoc, exponentPart, if_pos x.isMark]
  simp only [signed, digits_append_of_digits x.allDigits, found, Bool.false_eq_true, if_false]

end Exponent

private theorem digits_raised (x? : Option Exponent) :
    digits (Numeral.raised x?) = ([], Numeral.raised x?) := by
  cases x? with
  | none => rfl
  | some x =>
    have stop := digits_exponent x []
    rwa [List.append_nil] at stop

private theorem places_raised (x? : Option Exponent) :
    places (Numeral.raised x?) = ([], Numeral.raised x?) := by
  cases x? with
  | none => rfl
  | some x =>
    have stop := places_exponent x []
    rwa [List.append_nil] at stop

private theorem exponentPart_raised (x? : Option Exponent) :
    exponentPart (Numeral.raised x?) = (x?.elim 0 Exponent.power, []) := by
  cases x? with
  | none => rfl
  | some x =>
    have taken := exponentPart_exponent x []
    have nothing : digits [] = ([], []) := rfl
    rw [nothing, List.append_nil, List.append_nil, exponentValue_eq_size] at taken
    exact taken

private theorem length_exponentPart_raised_le (x? : Option Exponent) (rest : List Char) :
    (exponentPart (digits (Numeral.raised x? ++ rest)).2).2.length ≤ rest.length ∧
      (exponentPart (places (digits (Numeral.raised x? ++ rest)).2).2).2.length ≤ rest.length := by
  cases x? with
  | none =>
    have first := length_digits_le rest
    have second := (length_places_le (digits rest).2).trans first
    exact ⟨(length_exponentPart_le _).trans first, (length_exponentPart_le _).trans second⟩
  | some x =>
    change (exponentPart (digits (x.spelling ++ rest)).2).2.length ≤ _ ∧
      (exponentPart (places (digits (x.spelling ++ rest)).2).2).2.length ≤ _
    rw [digits_exponent, places_exponent, exponentPart_exponent]
    exact ⟨length_digits_le rest, length_digits_le rest⟩

private theorem sign_spelling_append (n : Numeral) (rest : List Char) :
    sign (n.spelling ++ rest) =
      (n.sign.isNegative, n.whole ++ (Numeral.pointed n.places? ++
        (Numeral.raised n.exponent? ++ rest))) := by
  have first : ∀ c ∈ (n.whole ++ (Numeral.pointed n.places? ++
      (Numeral.raised n.exponent? ++ rest))).head?, c.isDigit = true ∨ c = '.' := by
    obtain ⟨s, whole, places?, x?, wholeDigits, -, nonempty⟩ := n
    cases whole with
    | cons c whole =>
      intro d same
      obtain rfl : c = d := Option.some.inj same
      exact .inl (wholeDigits c List.mem_cons_self)
    | nil =>
      cases places? with
      | none => exact absurd rfl (nonempty.resolve_left (not_not_intro rfl))
      | some ds =>
        intro d same
        exact .inr (Option.some.inj same).symm
  rw [Numeral.spelling]
  simp only [List.append_assoc]
  exact sign_spelling n.sign first

private theorem scan_spelling_append (n : Numeral) (rest : List Char) :
    ∃ d left, scan (n.spelling ++ rest) = some (d, left) ∧ left.length ≤ rest.length ∧
      (rest = [] → d = n.decimal) := by
  have signed := sign_spelling_append n rest
  obtain ⟨s, whole, places?, x?, wholeDigits, placesDigits, nonempty⟩ := n
  have short := length_exponentPart_raised_le x? rest
  rw [scan_eq, signed]
  dsimp only
  rw [digits_append_of_digits wholeDigits]
  cases places? with
  | none =>
    -- Without a point the digits may go on behind the numeral, and a point may follow them.
    have found : whole ≠ [] := nonempty.resolve_right (not_not_intro rfl)
    obtain ⟨c, ds, rfl⟩ := List.exists_cons_of_ne_nil found
    refine ⟨_, _, if_neg nofun, short.2, ?_⟩
    rintro rfl
    rw [Numeral.pointed, List.nil_append, List.append_nil, digits_raised, places_raised,
      exponentPart_raised]
    simp only [Numeral.decimal, Numeral.places, Option.getD_none, List.append_nil]
  | some ds =>
    have point (cs : List Char) : digits (Numeral.pointed (some ds) ++ cs) =
        ([], '.' :: (ds ++ cs)) := digits_cons_of_not rfl _
    have behind (cs : List Char) : places ('.' :: (ds ++ cs)) =
        (ds ++ (digits cs).1, (digits cs).2) := digits_append_of_digits placesDigits cs
    have found : ((whole ++ []).isEmpty && (ds ++ (digits (Numeral.raised x? ++ rest)).1).isEmpty) =
        false := by
      rcases nonempty with digit | digit
      · obtain ⟨c, cs, rfl⟩ := List.exists_cons_of_ne_nil digit
        rfl
      · obtain ⟨c, cs, rfl⟩ := List.exists_cons_of_ne_nil (show ds ≠ [] from digit)
        rw [Bool.and_eq_false_iff]
        exact .inr rfl
    rw [point, behind, found]
    refine ⟨_, _, if_neg Bool.false_ne_true, short.1, ?_⟩
    rintro rfl
    rw [List.append_nil, List.append_nil, digits_raised, List.append_nil, exponentPart_raised]
    rfl

theorem whole?_eq_some_iff {cs : List Char} {d : Decimal} :
    whole? cs = some d ↔ ∃ n : Numeral, n.spelling = cs ∧ n.decimal = d := by
  constructor
  · intro read
    obtain ⟨n, rejoined, same⟩ := exists_numeral (scan_of_whole? read)
    rw [List.append_nil] at rejoined
    exact ⟨n, rejoined, same⟩
  · rintro ⟨n, rfl, rfl⟩
    obtain ⟨d, left, scanned, short, same⟩ := scan_spelling_append n []
    rw [List.append_nil] at scanned
    rw [whole?, scanned, List.eq_nil_of_length_eq_zero (Nat.le_zero.mp short), same rfl]

private theorem exists_longest {cs rest : List Char} {d : Decimal}
    (found : scan cs = some (d, rest)) :
    ∃ n : Numeral, n.LongestIn cs ∧ n.decimal = d := by
  obtain ⟨n, rejoined, same⟩ := exists_numeral found
  refine ⟨n, ⟨⟨rest, rejoined⟩, ?_⟩, same⟩
  rintro other ⟨rest', rejoined'⟩
  obtain ⟨d', left, scanned, short, -⟩ := scan_spelling_append other rest'
  rw [rejoined', found] at scanned
  obtain ⟨-, rfl⟩ := Prod.mk.inj (Option.some.inj scanned)
  have lengths := congrArg List.length (rejoined.trans rejoined'.symm)
  rw [List.length_append, List.length_append] at lengths
  omega

private theorem not_isPrefix_of_scan {cs : List Char} (missing : scan cs = none) (n : Numeral) :
    ¬ n.spelling <+: cs := by
  rintro ⟨rest, rejoined⟩
  obtain ⟨d, left, scanned, -⟩ := scan_spelling_append n rest
  rw [rejoined, missing] at scanned
  cases scanned

end Decimal

/-! ## No blanks in numerals -/

namespace Numeral

private theorem inNumeral_of_isDigit {c : Char} (digit : c.isDigit = true) :
    Decimal.inNumeral c = true := by
  rw [Decimal.inNumeral, digit, Bool.true_or]

private theorem inNumeral_of_mem_sign {s : Sign} {c : Char} (mem : c ∈ s.spelling) :
    Decimal.inNumeral c = true := by
  match s with
  | none => cases mem
  | some false =>
    rw [List.mem_singleton.mp mem]
    decide
  | some true =>
    rw [List.mem_singleton.mp mem]
    decide

private theorem inNumeral_of_mem_exponent {x : Exponent} {c : Char} (mem : c ∈ x.spelling) :
    Decimal.inNumeral c = true := by
  rcases List.mem_cons.mp mem with rfl | behind
  · rcases x.isMark with same | same <;> rw [same] <;> decide
  · rcases List.mem_append.mp behind with sign | digit
    · exact inNumeral_of_mem_sign sign
    · exact inNumeral_of_isDigit (x.allDigits c digit)

theorem inNumeral_of_mem {n : Numeral} {c : Char} (mem : c ∈ n.spelling) :
    Decimal.inNumeral c = true := by
  obtain ⟨s, whole, places?, x?, wholeDigits, placesDigits, nonempty⟩ := n
  simp only [spelling, List.mem_append] at mem
  rcases mem with sign | digit | place | exponent
  · exact inNumeral_of_mem_sign sign
  · exact inNumeral_of_isDigit (wholeDigits c digit)
  · cases places? with
    | none => cases place
    | some ds =>
      rcases List.mem_cons.mp place with rfl | digit
      · decide
      · exact inNumeral_of_isDigit (placesDigits c digit)
  · cases x? with
    | none => cases exponent
    | some x => exact inNumeral_of_mem_exponent exponent

private theorem trim_spelling (n : Numeral) : trim n.spelling = n.spelling := by
  have solid : ∀ c ∈ n.spelling, ¬ isBlank c = true := by
    intro c mem blank
    have outside := Decimal.inNumeral_eq_false_of_isBlank blank
    rw [inNumeral_of_mem mem] at outside
    cases outside
  have front : trimStart n.spelling = n.spelling :=
    List.dropWhile_eq_self_iff.mpr fun _ => solid _ (List.getElem_mem _)
  have back : n.spelling.reverse.dropWhile isBlank = n.spelling.reverse :=
    List.dropWhile_eq_self_iff.mpr fun _ => solid _ (List.mem_reverse.mp (List.getElem_mem _))
  rw [trim, front, trimEnd, back, List.reverse_reverse]

theorem ofWhole?_spelling (n : Numeral) : Number.ofWhole? n.spelling = some n.value := by
  rw [Number.ofWhole?, n.trim_spelling, Decimal.whole?_eq_some_iff.mpr ⟨n, rfl, rfl⟩,
    Option.map_some, n.toNumber_decimal]

end Numeral

/-! ## Both readers -/

/-- The forgiving reader skips the blanks it knows and answers the value of the longest numeral that
follows, which the strict reader accepts with the same value; it answers zero only if no numeral
follows.  The strict reader accepts a text exactly if what is left of it without the blanks on both
sides is a numeral, and answers its value. -/
theorem Scalar.readers_follow_grammar (s : Scalar) :
    let front := s.chars.dropWhile Number.isLeadingBlank
    ((∃ n : Numeral, n.LongestIn front ∧ s.toNumber = n.value ∧
        (Scalar.ofChars n.spelling).asNumber? = some n.value) ∨
      (∀ n : Numeral, ¬ n.spelling <+: front) ∧ s.toNumber = .zero) ∧
    ∀ x, s.asNumber? = some x ↔ ∃ n : Numeral, n.spelling = trim s.chars ∧ n.value = x := by
  intro front
  refine ⟨?_, fun x => ?_⟩
  · cases scanned : Decimal.scan front with
    | some found =>
      obtain ⟨n, longest, same⟩ := Decimal.exists_longest scanned
      refine .inl ⟨n, longest, ?_, ?_⟩
      · rw [toNumber, Number.ofLeading, Decimal.leading?, scanned, Option.map_some, ← same,
          ← n.toNumber_decimal]
      · rw [asNumber?, chars, ofChars, String.toList_ofList, n.ofWhole?_spelling]
    | none =>
      refine .inr ⟨Decimal.not_isPrefix_of_scan scanned, ?_⟩
      rw [toNumber, Number.ofLeading, Decimal.leading?, scanned, Option.map_none]
  · rw [asNumber?, Number.ofWhole?, Option.map_eq_some_iff]
    constructor
    · rintro ⟨d, read, rfl⟩
      obtain ⟨n, spelled, rfl⟩ := Decimal.whole?_eq_some_iff.mp read
      exact ⟨n, spelled, n.toNumber_decimal.symm⟩
    · rintro ⟨n, spelled, rfl⟩
      exact ⟨n.decimal, Decimal.whole?_eq_some_iff.mpr ⟨n, spelled, rfl⟩, n.toNumber_decimal⟩

-- A point needs no digits behind it, and a second exponent ends the numeral.
example :
    (⟨"\t-1.E2E3"⟩ : Scalar).toNumber = (⟨"-100"⟩ : Scalar).toNumber ∧
      (⟨"\t-1.E2E3"⟩ : Scalar).asNumber? = none := by
  decide +kernel

end PatternAction
