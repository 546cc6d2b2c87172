import PatternAction.Number

/-!
Digits of numbers: exact rounding to a given number of places, and the fewest digits that tell a
number from its neighbours.
-/

set_option autoImplicit false
set_option relaxedAutoImplicit false

namespace PatternAction

def decimalDigits (n : Nat) : List Char :=
  Nat.toDigits 10 n

def zeroFill (width : Nat) (cs : List Char) : List Char :=
  List.replicate (width - cs.length) '0' ++ cs

/-- The number `n / 10 ^ places` with exactly that many places behind the point. -/
def pointed (n places : Nat) : List Char :=
  if places = 0 then decimalDigits n
  else
    let ds := zeroFill (places + 1) (decimalDigits n)
    ds.take (ds.length - places) ++ '.' :: ds.drop (ds.length - places)

namespace Fraction

/-- How often `num` is to be multiplied by ten to reach `den`. -/
def tensBelow (den : Nat) : Nat → Nat → Nat
  | 0, _ => 0
  | fuel + 1, num => if den ≤ num then 0 else tensBelow den fuel (num * 10) + 1

/-- The greatest `k` with `10 ^ k` at most the fraction, which is not zero. -/
def log10 (q : Fraction) : Int :=
  if q.den ≤ q.num then (decimalDigits q.floor).length - 1
  else -tensBelow q.den (q.den.log2 + 1) q.num

def fixed (q : Fraction) (places : Nat) : List Char :=
  pointed (q.shiftTen places).round places

/-- The fraction rounded to one digit in front of the point and `places` behind it: the digits as
one integer, and the power of ten that goes with them. -/
def scientific (q : Fraction) (places : Nat) : Nat × Int :=
  if q.num = 0 then (0, 0)
  else
    let k := q.log10
    let n := (q.shiftTen (places - k)).round
    if n = Nat.pow 10 (places + 1) then (Nat.pow 10 places, k + 1) else (n, k)

end Fraction

namespace Number

/-- The reals that round to a finite number, as integers over one denominator: the number itself,
the ends below and above it, and whether the ends belong to the interval. -/
structure Interval where
  low : Nat
  value : Nat
  high : Nat
  den : Nat
  closed : Bool

/-- The interval of a nonzero number of a format: half way to each neighbour, the ends belonging to
an even significand.  Below a power of two the neighbour is nearer. -/
def interval (p : Precision) (m : Nat) (e : Int) : Interval :=
  let q := fraction 1 (e - 2)
  let below := if m = Nat.pow 2 (p.bits - 1) ∧ p.least < e then 1 else 2
  ⟨(4 * m - below) * q.num, 4 * m * q.num, (4 * m + 2) * q.num, q.den, m % 2 == 0⟩

namespace Interval

def holds (i : Interval) (n : Nat) : Bool :=
  if i.closed then i.low ≤ n && n ≤ i.high else i.low < n && n < i.high

def shiftTen (i : Interval) (e : Int) : Interval :=
  if 0 ≤ e then
    let t := Nat.pow 10 e.toNat
    ⟨i.low * t, i.value * t, i.high * t, i.den, i.closed⟩
  else ⟨i.low, i.value, i.high, i.den * Nat.pow 10 (-e).toNat, i.closed⟩

/-- The integer in the interval that is nearest to the value, if there is one; of two equally near
the greater. -/
def nearest? (i : Interval) : Option Nat :=
  let below := i.value / i.den
  let above := below + 1
  match i.holds (below * i.den), i.holds (above * i.den) with
  | true, true =>
    some (if i.value - below * i.den < above * i.den - i.value then below else above)
  | true, false => some below
  | false, true => some above
  | false, false => none

/-- The first grid of powers of ten with a point in the interval, going down from `10 ^ e`. -/
def shortest (i : Interval) : Nat → Int → Nat × Int
  | 0, e => (i.value / i.den, e)
  | fuel + 1, e =>
    match (i.shiftTen (-e)).nearest? with
    | some n => (n, e)
    | none => shortest i fuel (e - 1)

end Interval

/-- The fewest digits that tell a nonzero number of a format from its neighbours, as one integer
and the power of ten of its last digit. -/
def shortestDigits (p : Precision) (m : Nat) (e : Int) : Nat × Int :=
  let (n, k) := (interval p m e).shortest (p.bits + 1) (fraction m e).log10
  if n = 10 then (1, k + 1) else (n, k)

example : shortestDigits .single 0xccccd (-23) = (1, -1) := by decide +kernel

end Number

end PatternAction
