/-!
Binary floating-point numbers as exact values.  A finite number is a significand times a power of
two, with a sign of its own so that both zeros exist.  Every operation computes exactly and then
rounds once, to the nearest value of the format and to the even one of two equally near.
-/

set_option autoImplicit false
set_option relaxedAutoImplicit false

namespace PatternAction

/-- The quotient rounded to the nearest integer; a half goes to the even neighbour. -/
def roundDiv (n d : Nat) : Nat :=
  let q := n / d
  let r := n % d
  if 2 * r < d ∨ (2 * r = d ∧ q % 2 = 0) then q else q + 1

structure Fraction where
  num : Nat
  den : Nat
deriving DecidableEq, Repr

namespace Fraction

def shift (q : Fraction) (e : Int) : Fraction :=
  if 0 ≤ e then ⟨q.num * Nat.pow 2 e.toNat, q.den⟩ else ⟨q.num, q.den * Nat.pow 2 (-e).toNat⟩

def shiftTen (q : Fraction) (e : Int) : Fraction :=
  if 0 ≤ e then ⟨q.num * Nat.pow 10 e.toNat, q.den⟩ else ⟨q.num, q.den * Nat.pow 10 (-e).toNat⟩

def round (q : Fraction) : Nat :=
  roundDiv q.num q.den

def floor (q : Fraction) : Nat :=
  q.num / q.den

/-- The greatest `k` with `2 ^ k` at most the fraction, which is not zero. -/
def log2 (q : Fraction) : Int :=
  let k : Int := q.num.log2 - q.den.log2
  let p := q.shift (-k)
  if p.den ≤ p.num then k else k - 1

end Fraction

inductive Number where
  | finite (negative : Bool) (significand : Nat) (exponent : Int)
  | infinite (negative : Bool)
  | nan
deriving DecidableEq, Repr

/-- A format: how many bits a significand has, the exponent of the least positive value, and the
exponent of the first power of two beyond every value. -/
structure Precision where
  bits : Nat
  least : Int
  beyond : Int
deriving DecidableEq, Repr

namespace Precision

def double : Precision := ⟨53, -1074, 1024⟩

def single : Precision := ⟨24, -149, 128⟩

/-- The value of the format nearest to a fraction; of two equally near the even one, and infinity
beyond the greatest. -/
def round (p : Precision) (negative : Bool) (q : Fraction) : Number :=
  if q.num = 0 then .finite negative 0 p.least
  else
    let e := max (q.log2 + 1 - p.bits) p.least
    let m := (q.shift (-e)).round
    let (m, e) := if m = Nat.pow 2 p.bits then (Nat.pow 2 (p.bits - 1), e + 1) else (m, e)
    if p.beyond < e + p.bits then .infinite negative else .finite negative m e

end Precision

namespace Number

def zero : Number := .finite false 0 Precision.double.least

def one : Number := Precision.double.round false ⟨1, 1⟩

def fraction (significand : Nat) (exponent : Int) : Fraction :=
  Fraction.shift ⟨significand, 1⟩ exponent

def isNegative : Number → Bool
  | .finite negative _ _ | .infinite negative => negative
  | .nan => false

def isFinite : Number → Bool
  | .finite .. => true
  | _ => false

def isZero : Number → Bool
  | .finite _ m _ => m == 0
  | _ => false

def aligned (negative : Bool) (m : Nat) (exponent e : Int) : Int :=
  let n : Int := m * Nat.pow 2 (exponent - e).toNat
  if negative then -n else n

def neg : Number → Number
  | .finite negative m e => .finite (!negative) m e
  | .infinite negative => .infinite (!negative)
  | .nan => .nan

def add : Number → Number → Number
  | .nan, _ | _, .nan => .nan
  | .infinite s, .infinite t => if s = t then .infinite s else .nan
  | .infinite s, _ => .infinite s
  | _, .infinite t => .infinite t
  | .finite s m e, .finite t n f =>
    let low := min e f
    let sum := aligned s m e low + aligned t n f low
    if sum = 0 then .finite (s && t) 0 Precision.double.least
    else Precision.double.round (sum < 0) (fraction sum.natAbs low)

def sub (a b : Number) : Number :=
  a.add b.neg

def mul : Number → Number → Number
  | .nan, _ | _, .nan => .nan
  | .infinite s, b => if b.isZero then .nan else .infinite (s != b.isNegative)
  | a, .infinite t => if a.isZero then .nan else .infinite (a.isNegative != t)
  | .finite s m e, .finite t n f => Precision.double.round (s != t) (fraction (m * n) (e + f))

def div : Number → Number → Number
  | .nan, _ | _, .nan => .nan
  | .infinite _, .infinite _ => .nan
  | .infinite s, .finite t _ _ => .infinite (s != t)
  | .finite s _ _, .infinite t => .finite (s != t) 0 Precision.double.least
  | .finite s m e, .finite t n f =>
    if n = 0 then if m = 0 then .nan else .infinite (s != t)
    else Precision.double.round (s != t) (Fraction.shift ⟨m, n⟩ (e - f))

/-- What is left of the first number after taking away the second as often as it fits; the sign is
that of the first. -/
def rem : Number → Number → Number
  | .nan, _ | _, .nan => .nan
  | .infinite _, _ => .nan
  | a, .infinite _ => a
  | .finite s m e, .finite _ n f =>
    if n = 0 then .nan
    else
      let low := min e f
      let r := (aligned false m e low).natAbs % (aligned false n f low).natAbs
      Precision.double.round s (fraction r low)

/-- The order of two numbers; what is no number is before and behind nothing. -/
def order : Number → Number → Ordering
  | .nan, _ | _, .nan => .eq
  | .infinite s, .infinite t => compare t s
  | .infinite s, _ => if s then .lt else .gt
  | _, .infinite t => if t then .gt else .lt
  | .finite s m e, .finite t n f =>
    let low := min e f
    compare (aligned s m e low) (aligned t n f low)

def narrow : Number → Number
  | .finite s m e => Precision.single.round s (fraction m e)
  | x => x

/-- The integer towards zero, moved into the range from `lo` to `hi`; what is no number is zero. -/
def truncate (lo hi : Int) : Number → Int
  | .nan => 0
  | .infinite s => if s then lo else hi
  | .finite s m e =>
    let n : Int := (fraction m e).floor
    max lo (min hi (if s then -n else n))

/-- The integer towards zero that fits into 64 bits with a sign. -/
def toInt64 (x : Number) : Int :=
  x.truncate (-0x8000000000000000) 0x7fffffffffffffff

/-! ## Interchange -/

def toBits : Number → Nat
  | .nan => 0x7ff8000000000000
  | .infinite s => (if s then 0x8000000000000000 else 0) + 0x7ff0000000000000
  | .finite s m e =>
    (if s then 0x8000000000000000 else 0) +
      if m < 0x10000000000000 then m
      else (e + 1075).toNat * 0x10000000000000 + (m - 0x10000000000000)

def ofBits (bits : Nat) : Number :=
  let s := bits / 0x8000000000000000 % 2 == 1
  let field : Nat := bits / 0x10000000000000 % 0x800
  let rest := bits % 0x10000000000000
  if field = 2047 then if rest = 0 then .infinite s else .nan
  else if field = 0 then .finite s rest (-1074)
  else .finite s (rest + 0x10000000000000) ((field : Int) - 1075)

/-- The first number raised to the second, by the machine's own power function. -/
def pow (a b : Number) : Number :=
  let x := Float.ofBits a.toBits.toUInt64
  let y := Float.ofBits b.toBits.toUInt64
  ofBits (x.pow y).toBits.toNat

example : (Precision.double.round false ⟨1, 10⟩).toBits = 0x3fb999999999999a := by decide +kernel

example : ((ofBits 0x3fb999999999999a).add (ofBits 0x3fc999999999999a)).toBits =
    0x3fd3333333333334 := by decide +kernel

end Number

end PatternAction
