import PatternAction.Proofs.Number.Written
import PatternAction.Proofs.Printf.Items

/-!
Integers in fields.  A number is laid out as a mark and digits, with blanks on one side or zeros
between the mark and the digits where the field is wider.  Whatever the flags, the width and the
precision are, the mark and the digits spell exactly the number that is shown.  A precision is a
least number of digits for signed numbers; in base eight and sixteen it only keeps zeros from
filling the field.
-/

set_option autoImplicit false
set_option relaxedAutoImplicit false

namespace PatternAction.Printf

/-! ## Fields -/

/-- A mark and digits, with so many blanks in front of them and behind. -/
structure Field where
  before : Nat
  mark : List Char
  digits : List Char
  behind : Nat

namespace Field

def text (f : Field) : List Char :=
  List.replicate f.before ' ' ++ (f.mark ++ f.digits ++ List.replicate f.behind ' ')

/-- A field is as wide as is asked for, or as its contents if these are wider.  It has the least
number of digits or more; more only if zeros fill it, and then up to the width. -/
structure Fills (f : Field) (s : Spec) (least : Nat) : Prop where
  length : f.text.length = max (s.width.getD 0) (f.mark.length + f.digits.length)
  enough : least ≤ f.digits.length
  zeros : least < f.digits.length → s.zero = true ∧ s.left = false ∧ s.precision = none ∧
    f.mark.length + f.digits.length = s.width.getD 0

namespace Fills

variable {f : Field} {s : Spec} {least : Nat} (h : f.Fills s least)
include h

private theorem digits_ne_nil (pos : 0 < least) : f.digits ≠ [] :=
  List.ne_nil_of_length_pos (Nat.lt_of_lt_of_le pos h.enough)

private theorem length_digits {p : Nat} (asked : s.precision = some p) :
    f.digits.length = least := by
  by_contra other
  obtain ⟨-, -, absent, -⟩ := h.zeros (Nat.lt_of_le_of_ne h.enough (Ne.symm other))
  cases absent.symm.trans asked

end Fills

private theorem length_text (f : Field) :
    f.text.length = f.before + (f.mark.length + f.digits.length) + f.behind := by
  simp only [text, List.length_append, List.length_replicate]
  omega

private theorem trim_blanks {solid : List Char} (nonempty : solid ≠ [])
    (none : ∀ c ∈ solid, Text.isBlank c = false) (before behind : Nat) :
    Text.trim (List.replicate before ' ' ++ (solid ++ List.replicate behind ' ')) = solid := by
  have blanks (count : Nat) : ∀ c ∈ List.replicate count ' ', Text.isBlank c = true := by
    intro c mem
    rw [List.eq_of_mem_replicate mem]
    rfl
  have front : ∀ c ∈ (solid ++ List.replicate behind ' ').head?, Text.isBlank c = false := by
    rw [List.head?_append_of_ne_nil _ nonempty]
    exact fun c first => none c (List.mem_of_mem_head? first)
  have back : ∀ c ∈ solid.reverse.head?, Text.isBlank c = false := by
    exact fun c first => none c (List.mem_reverse.mp (List.mem_of_mem_head? first))
  rw [Text.trim, Text.trimStart, (takeWhile_dropWhile_of_stops (blanks before) front).2,
    Text.trimEnd, List.reverse_append, List.reverse_replicate,
    (takeWhile_dropWhile_of_stops (blanks behind) back).2, List.reverse_reverse]

private theorem trim_text {f : Field} (nonempty : f.digits ≠ [])
    (digits : ∀ c ∈ f.digits, Text.isBlank c = false)
    (mark : f.mark = [' '] ∨ ∀ c ∈ f.mark, Text.isBlank c = false) :
    Text.trim f.text = (if f.mark = [' '] then [] else f.mark) ++ f.digits := by
  split
  · rename_i blank
    have text : f.text = List.replicate (f.before + 1) ' ' ++
        (f.digits ++ List.replicate f.behind ' ') := by
      simp [Field.text, blank, List.replicate_succ']
    rw [text, trim_blanks nonempty digits]
    rfl
  · rename_i solid
    refine trim_blanks (List.append_ne_nil_of_right_ne_nil _ nonempty) (fun c mem => ?_) _ _
    rcases List.mem_append.mp mem with mem | mem
    · exact mark.resolve_left solid c mem
    · exact digits c mem

end Field

private theorem Spec.pad_fills (s : Spec) (mark body : List Char) :
    ∃ f : Field, s.pad mark body s.precision.isNone = f.text ∧ f.mark = mark ∧
      (∃ count, f.digits = List.replicate count '0' ++ body) ∧ f.Fills s body.length := by
  let fill := s.width.getD 0 - (mark.length + body.length)
  unfold Spec.pad
  by_cases left : s.left = true
  · refine ⟨⟨0, mark, body, fill⟩, ?_, rfl, ⟨0, rfl⟩, ?_, Nat.le_refl _, ?_⟩
    · rw [if_pos left]
      simp [Field.text, fill]
    · simp only [Field.length_text, fill]
      omega
    · intro more
      exact absurd more (Nat.lt_irrefl _)
  · by_cases zeros : (s.zero && s.precision.isNone) = true
    · refine ⟨⟨0, mark, List.replicate fill '0' ++ body, 0⟩, ?_, rfl, ⟨fill, rfl⟩, ?_, ?_, ?_⟩
      · rw [if_neg left, if_pos zeros]
        simp [Field.text, fill]
      · simp only [Field.length_text, List.length_append, List.length_replicate, fill]
        omega
      · simp only [List.length_append, List.length_replicate]
        omega
      · intro more
        obtain ⟨zero, absent⟩ := (Bool.and_eq_true _ _).mp zeros
        simp only [List.length_append, List.length_replicate, fill] at more ⊢
        refine ⟨zero, Bool.eq_false_of_not_eq_true left, Option.isNone_iff_eq_none.mp absent, ?_⟩
        omega
    · refine ⟨⟨fill, mark, body, 0⟩, ?_, rfl, ⟨0, rfl⟩, ?_, Nat.le_refl _, ?_⟩
      · rw [if_neg left, if_neg zeros]
        simp [Field.text, fill]
      · simp only [Field.length_text, fill]
        omega
      · intro more
        exact absurd more (Nat.lt_irrefl _)

private theorem forall_mem_zeros_append {P : Char → Prop} {ds : List Char} (zero : P '0')
    (all : ∀ c ∈ ds, P c) (count : Nat) : ∀ c ∈ List.replicate count '0' ++ ds, P c :=
  List.forall_mem_append.mpr ⟨fun _ mem => List.eq_of_mem_replicate mem ▸ zero, all⟩

private theorem sprintf_directive {d : Directive} {conversion : Conversion}
    (known : Conversion.ofChar? d.conversion = some conversion) (arg : Scalar) :
    sprintf d.format [arg] = (conversion.apply d.opening.spec arg).map .ofList := by
  have alone := sprintf_item (.directive d) [arg]
  rwa [Item.shown, known] at alone

/-! ## Signed numbers -/

/-- The integer that a field says: a minus sign negates what the digits spell. -/
def Field.integer (f : Field) : Int :=
  if f.mark = ['-'] then -(Decimal.digitsValue 0 f.digits : Int) else Decimal.digitsValue 0 f.digits

private theorem Spec.sign_mem (s : Spec) (negative : Bool) :
    s.sign negative ∈ [[], ['+'], [' '], ['-']] ∧ (s.sign negative = ['-'] ↔ negative = true) := by
  cases negative with
  | true => exact ⟨by simp [sign], by simp [sign]⟩
  | false =>
    unfold sign
    cases s.plus <;> cases s.space <;> simp

/-- A signed conversion shows its argument exactly, truncated and moved into 64 bits, whatever its
flags, its width and its precision are.  Without the blanks around it the text is a sign, or none,
and digits that spell that integer; there is a minus sign exactly if it is negative, and there are
as many digits as the precision asks for, or more.  The text is as wide as is asked for, unless sign
and digits are wider; zeros fill it only with their flag, without the flag for the left and without
a precision. -/
theorem Directive.integer_exact (d : Directive) (signed : d.conversion = 'd' ∨ d.conversion = 'i')
    (arg : Scalar) :
    let s := d.opening.spec
    let n := arg.toNumber.toInt64
    ∃ f : Field, sprintf d.format [arg] = some (.ofList f.text) ∧
      Text.trim f.text = (if f.mark = [' '] then [] else f.mark) ++ f.digits ∧
      f.mark ∈ [[], ['+'], [' '], ['-']] ∧ (f.mark = ['-'] ↔ n < 0) ∧
      (∀ c ∈ f.digits, c.isDigit = true) ∧ f.integer = n ∧
      (∀ p ∈ s.precision, p ≤ f.digits.length) ∧
      f.Fills s (max (s.precision.getD 0) (decimalDigits n.natAbs).length) := by
  intro s n
  have known : Conversion.ofChar? d.conversion = some .integer := by
    rcases signed with same | same <;> rw [same] <;> rfl
  let body := zeroFill (s.precision.getD 0) (decimalDigits n.natAbs)
  have size : body.length = max (s.precision.getD 0) (decimalDigits n.natAbs).length := by
    simp only [body, zeroFill, List.length_append, List.length_replicate]
    omega
  have value : Decimal.digitsValue 0 body = n.natAbs := by
    simp only [body, zeroFill]
    rw [Decimal.digitsValue_zeros, Decimal.digitsValue_decimalDigits]
  obtain ⟨f, laidOut, mark, ⟨count, filled⟩, fills⟩ := s.pad_fills (s.sign (n < 0)) body
  obtain ⟨isMark, minus⟩ := s.sign_mem (n < 0)
  rw [← mark] at isMark minus
  rw [decide_eq_true_eq] at minus
  have digits : ∀ c ∈ f.digits, c.isDigit = true := by
    have own : ∀ c ∈ body, c.isDigit = true := fun c mem => Number.isDigit_of_mem_zeroFill mem
    rw [filled]
    exact forall_mem_zeros_append (by decide) own count
  have solid : ∀ c ∈ f.digits, Text.isBlank c = false := by
    intro c mem
    by_contra blank
    have other := Text.isDigit_eq_false_of_isBlank (Bool.eq_true_of_not_eq_false blank)
    cases other.symm.trans (digits c mem)
  have integer : f.integer = n := by
    rw [Field.integer, filled, Decimal.digitsValue_zeros, value]
    simp only [minus]
    split <;> omega
  rw [size] at fills
  have nonempty : f.digits ≠ [] :=
    fills.digits_ne_nil (lt_max_of_lt_right (length_decimalDigits_pos n.natAbs))
  refine ⟨f, ?_, f.trim_text nonempty solid ?_, isMark, minus, digits, integer, ?_, fills⟩
  · rw [sprintf_directive known, ← laidOut]
    rfl
  · simp only [List.mem_cons, List.not_mem_nil, or_false] at isMark
    rcases isMark with bare | plus | blank | hyphen
    · rw [bare]
      exact .inr (List.forall_mem_nil _)
    · rw [plus]
      exact .inr (List.forall_mem_singleton.mpr rfl)
    · exact .inl blank
    · rw [hyphen]
      exact .inr (List.forall_mem_singleton.mpr rfl)
  · intro p asked
    rw [fills.length_digits asked, asked]
    exact Nat.le_max_left _ _

/-- The least integer of 64 bits, with zeros between its sign and its digits. -/
theorem Directive.integer_exact_least :
    let d : Directive := ⟨⟨['+', '0'], ['2', '5'], none, List.all_eq_true.mp rfl,
      List.all_eq_true.mp rfl, by decide, List.forall_mem_nil _⟩, 'd', by decide⟩
    let text := "-000009223372036854775808"
    d.format = "%+025d" ∧ (d.conversion = 'd' ∨ d.conversion = 'i') ∧
      sprintf d.format [⟨"-1e300"⟩] = some text ∧
      ∃ f : Field, text.toList = f.text ∧ f.mark = ['-'] ∧ f.integer = -0x8000000000000000 ∧
        f.text.length = 25 := by
  intro d text
  have signed : d.conversion = 'd' ∨ d.conversion = 'i' := .inl rfl
  have least : (⟨"-1e300"⟩ : Scalar).toNumber.toInt64 = -0x8000000000000000 := by decide +kernel
  have printed : sprintf d.format [⟨"-1e300"⟩] = some text := by decide +kernel
  obtain ⟨f, laidOut, -, -, minus, -, integer, -, -⟩ := d.integer_exact signed ⟨"-1e300"⟩
  have shown : text.toList = f.text := by
    rw [Option.some.inj (printed.symm.trans laidOut), String.toList_ofList]
  rw [least] at minus integer
  refine ⟨by decide +kernel, signed, printed, f, shown, minus.mpr (by decide), integer, ?_⟩
  rw [← shown]
  decide +kernel

/-! ## Numbers in base eight and sixteen -/

/-- A base: the conversion that shows numbers in it, its digits in their order, and what is written
in front of them in the alternate form. -/
structure Radix where
  conversion : Char
  digits : List Char
  mark : List Char

def radices : List Radix :=
  [⟨'o', "01234567".toList, ['0']⟩, ⟨'x', "0123456789abcdef".toList, ['0', 'x']⟩,
    ⟨'X', "0123456789ABCDEF".toList, ['0', 'X']⟩]

namespace Radix

variable (r : Radix)

def base : Nat :=
  r.digits.length

/-- The number that digits spell, each of them standing for its place among the digits. -/
def value (ds : List Char) : Nat :=
  ds.foldl (fun n c => n * r.base + r.digits.idxOf c) 0

private theorem value_append_singleton (ds : List Char) (c : Char) :
    r.value (ds ++ [c]) = r.value ds * r.base + r.digits.idxOf c := by
  rw [value, List.foldl_append]
  rfl

/-- The digits are the glyphs of the numbers below the base, each in its own place. -/
structure Spells (glyph : Nat → Char) : Prop where
  base : 1 < r.base
  mem : ∀ d < r.base, glyph d ∈ r.digits
  place : ∀ d < r.base, r.digits.idxOf (glyph d) = d

variable {r}

-- By induction along the quotients by the base: the digit that comes last is the remainder.
private theorem Spells.value_toDigits {f : Char → Char} (h : r.Spells fun d => f d.digitChar)
    (n : Nat) :
    r.value ((Nat.toDigits r.base n).map f) = n ∧
      ∀ c ∈ (Nat.toDigits r.base n).map f, c ∈ r.digits := by
  induction n using Nat.strong_induction_on with
  | _ n ih =>
    rw [Nat.toDigits_eq_if h.base]
    by_cases small : n < r.base
    · rw [if_pos small]
      refine ⟨?_, fun c mem => ?_⟩
      · change r.value ([] ++ [f n.digitChar]) = n
        rw [value_append_singleton, h.place n small]
        exact Nat.zero_mul _ ▸ Nat.zero_add n
      · rw [List.mem_singleton.mp mem]
        exact h.mem n small
    · have below : n % r.base < r.base := Nat.mod_lt n (Nat.zero_lt_of_lt h.base)
      obtain ⟨front, members⟩ := ih (n / r.base)
        (Nat.div_lt_self (by omega) h.base)
      rw [if_neg small, List.map_append, List.map_singleton]
      refine ⟨?_, fun c mem => ?_⟩
      · rw [value_append_singleton, front, h.place _ below]
        exact Nat.div_add_mod' n r.base
      · rcases List.mem_append.mp mem with inside | last
        · exact members c inside
        · rw [List.mem_singleton.mp last]
          exact h.mem _ below

/-- A conversion to a base writes the digits of a word in it, and the mark in front of them in the
alternate form, unless the word is zero. -/
private theorem exists_apply_of_mem (mem : r ∈ radices) :
    ∃ conversion f, Conversion.ofChar? r.conversion = some conversion ∧
      r.Spells (fun d => f d.digitChar) ∧ ∀ s arg, conversion.apply s arg =
        let n := word arg.toNumber.toInt64
        some (s.pad (if s.alternate && n != 0 then r.mark else []) ((Nat.toDigits r.base n).map f)
          s.precision.isNone) := by
  simp only [radices, List.mem_cons, List.not_mem_nil, or_false] at mem
  rcases mem with rfl | rfl | rfl
  · refine ⟨.octal, id, rfl, ⟨by decide, by decide, by decide⟩, fun s arg => ?_⟩
    simp only [List.map_id]
    rfl
  · refine ⟨.hex false, id, rfl, ⟨by decide, by decide, by decide⟩, fun s arg => ?_⟩
    simp only [List.map_id]
    rfl
  · exact ⟨.hex true, Char.toUpper, rfl, ⟨by decide, by decide, by decide⟩, fun s arg => rfl⟩

private theorem isBlank_eq_false :
    ∀ r ∈ radices, ∀ c ∈ r.mark ++ r.digits, Text.isBlank c = false := by
  have all : (radices.all fun r => (r.mark ++ r.digits).all (!Text.isBlank ·)) = true := by decide
  simpa only [List.all_eq_true, Bool.not_eq_true'] using all

private theorem head?_digits : ∀ r ∈ radices, r.digits.head? = some '0' := by
  decide

private theorem value_zeros (mem : r ∈ radices) (count : Nat) (ds : List Char) :
    r.value (List.replicate count '0' ++ ds) = r.value ds := by
  obtain ⟨others, digits⟩ := List.head?_eq_some_iff.mp (head?_digits r mem)
  have zero : r.digits.idxOf '0' = 0 := by rw [digits, List.idxOf_cons_self]
  induction count with
  | zero => rfl
  | succ count ih =>
    rw [List.replicate_succ, List.cons_append, ← ih]
    simp only [value, List.foldl_cons, zero, Nat.zero_mul, Nat.add_zero]

end Radix

private theorem le_length_toDigits_iff {base : Nat} (h : 1 < base) (n p : Nat) :
    p ≤ (Nat.toDigits base n).length ↔ p ≤ 1 ∨ base ^ (p - 1) ≤ n := by
  have some_digits : 0 < (Nat.toDigits base n).length := Nat.length_toDigits_pos
  by_cases single : p ≤ 1
  · exact iff_of_true (by omega) (.inl single)
  · have short := @Nat.length_toDigits_le_iff base n (p - 1) h (by omega)
    rw [or_iff_right single, ← not_lt, ← not_lt, ← short]
    omega

/-- A conversion to base eight or sixteen shows its argument exactly, truncated, moved into 64 bits
and counted without a sign, whatever its flags, its width and its precision are.  Without the blanks
around it the text is the mark of the alternate form, if that is asked for and the number is not
zero, and digits of the base that spell the number; it is as wide as is asked for, or wider.  The
precision has no part in how many digits there are: there are as many as it asks for exactly if the
number alone has as many. -/
theorem Directive.radix_exact {r : Radix} (mem : r ∈ radices) (d : Directive)
    (named : d.conversion = r.conversion) (arg : Scalar) :
    let s := d.opening.spec
    ∃ n : Nat, (n : Int) = arg.toNumber.toInt64 % 0x10000000000000000 ∧
    ∃ f : Field, sprintf d.format [arg] = some (.ofList f.text) ∧
      Text.trim f.text = f.mark ++ f.digits ∧
      f.mark = (if s.alternate = true ∧ n ≠ 0 then r.mark else []) ∧
      (∀ c ∈ f.digits, c ∈ r.digits) ∧ r.value f.digits = n ∧
      s.width.getD 0 ≤ f.text.length ∧
      (∀ p ∈ s.precision, p ≤ f.digits.length ↔ p ≤ 1 ∨ r.base ^ (p - 1) ≤ n) ∧
      f.Fills s (Nat.toDigits r.base n).length := by
  intro s
  let n := word arg.toNumber.toInt64
  obtain ⟨conversion, glyph, known, spells, applied⟩ := Radix.exists_apply_of_mem mem
  rw [← named] at known
  obtain ⟨value, members⟩ := spells.value_toDigits n
  obtain ⟨f, laidOut, mark, ⟨count, filled⟩, fills⟩ := s.pad_fills
    (if s.alternate && n != 0 then r.mark else []) ((Nat.toDigits r.base n).map glyph)
  have isMark : f.mark = if s.alternate = true ∧ n ≠ 0 then r.mark else [] := by
    rw [mark]
    simp only [Bool.and_eq_true, bne_iff_ne]
  rw [List.length_map] at fills
  have digits : ∀ c ∈ f.digits, c ∈ r.digits := by
    rw [filled]
    exact forall_mem_zeros_append (List.mem_of_mem_head? (Radix.head?_digits r mem)) members count
  have nonempty : f.digits ≠ [] := fills.digits_ne_nil Nat.length_toDigits_pos
  have solid := Radix.isBlank_eq_false r mem
  have solidMark : ∀ c ∈ f.mark, Text.isBlank c = false := by
    rw [isMark]
    split
    · exact fun c inside => solid c (List.mem_append_left _ inside)
    · exact List.forall_mem_nil _
  have trimmed : Text.trim f.text = f.mark ++ f.digits := by
    have other : f.mark ≠ [' '] := fun blank => by
      have := solidMark ' ' (blank ▸ List.mem_singleton_self _)
      cases this
    rw [f.trim_text nonempty (fun c inside => solid c (List.mem_append_right _ (digits c inside)))
      (.inr solidMark), if_neg other]
  refine ⟨n, ?_, f, ?_, trimmed, isMark, digits, ?_, ?_, fun p asked => ?_, fills⟩
  · simp only [n, word]
    omega
  · rw [sprintf_directive known, applied, ← laidOut]
    rfl
  · rw [filled, Radix.value_zeros mem, value]
  · rw [fills.length]
    exact Nat.le_max_left _ _
  · rw [fills.length_digits asked, le_length_toDigits_iff spells.base]

/-- The greatest word, with its mark in front of its digits and blanks behind them. -/
theorem Directive.radix_exact_negative :
    let d : Directive := ⟨⟨['-', '#', '0'], ['2', '0'], some ['3'], List.all_eq_true.mp rfl,
      List.all_eq_true.mp rfl, by decide, List.all_eq_true.mp rfl⟩, 'X', by decide⟩
    let r : Radix := ⟨'X', "0123456789ABCDEF".toList, ['0', 'X']⟩
    let text := "0XFFFFFFFFFFFFFFFF  "
    d.format = "%-#020.3X" ∧ r ∈ radices ∧ d.conversion = r.conversion ∧
      sprintf d.format [⟨"-1.5"⟩] = some text ∧
      ∃ f : Field, text.toList = f.text ∧ Text.trim text.toList = f.mark ++ f.digits ∧
        r.value f.digits = 0xffffffffffffffff := by
  intro d r text
  have mem : r ∈ radices := .tail _ (.tail _ (.head _))
  have truncated : (⟨"-1.5"⟩ : Scalar).toNumber.toInt64 = -1 := by decide +kernel
  have printed : sprintf d.format [⟨"-1.5"⟩] = some text := by decide +kernel
  obtain ⟨n, word, f, laidOut, trimmed, -, -, value, -⟩ := d.radix_exact mem rfl ⟨"-1.5"⟩
  have shown : text.toList = f.text := by
    rw [Option.some.inj (printed.symm.trans laidOut), String.toList_ofList]
  rw [truncated] at word
  rw [← shown] at trimmed
  exact ⟨by decide +kernel, mem, rfl, printed, f, shown, trimmed, by omega⟩

/-- A precision of five gives the number 255 five digits in base ten, but not in base sixteen. -/
theorem radix_precision_ignored :
    let d : Directive := ⟨⟨[], [], some ['5'], List.forall_mem_nil _, List.forall_mem_nil _,
      by decide, List.all_eq_true.mp rfl⟩, 'x', by decide⟩
    d.format = "%.5x" ∧ d.opening.spec.precision = some 5 ∧
      sprintf d.format [⟨"255"⟩] = some "ff" ∧ ¬ 5 ≤ "ff".length ∧
      sprintf "%.5d" [⟨"255"⟩] = some "00255" := by
  decide +kernel

end PatternAction.Printf
