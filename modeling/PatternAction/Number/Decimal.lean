import PatternAction.Number
import PatternAction.Text.Blank

/-!
Decimal numerals: a sign, digits with at most one point, and an exponent.  The same scanner serves
the reader that takes a numeral in front of a text and the one that wants nothing else in it.
-/

set_option autoImplicit false
set_option relaxedAutoImplicit false

namespace PatternAction

/-- A decimal numeral: a coefficient times a power of ten. -/
structure Decimal where
  negative : Bool
  coefficient : Nat
  exponent : Int
deriving DecidableEq, Repr

namespace Decimal

/-- The number that digits spell, the digits in front of them being worth `high`. -/
def digitsValue (high : Nat) (cs : List Char) : Nat :=
  cs.foldl (fun n c => n * 10 + (c.toNat - 48)) high

def digits (cs : List Char) : List Char × List Char :=
  (cs.takeWhile Char.isDigit, cs.dropWhile Char.isDigit)

def sign : List Char → Bool × List Char
  | '+' :: cs => (false, cs)
  | '-' :: cs => (true, cs)
  | cs => (false, cs)

def places : List Char → List Char × List Char
  | '.' :: cs => digits cs
  | cs => ([], cs)

/-- The value of the digits of an exponent, of which only those count that stand in front of one
that makes it reach `2 ^ 16`, and that one. -/
def exponentValue (ds : List Char) : Nat :=
  ds.foldl (fun n c => if n < 0x10000 then digitsValue n [c] else n) 0

def exponentPart (cs : List Char) : Int × List Char :=
  match cs with
  | c :: rest =>
    if c = 'e' ∨ c = 'E' then
      let (negative, rest) := sign rest
      let (ds, rest) := digits rest
      if ds.isEmpty then (0, cs)
      else
        let n : Int := exponentValue ds
        (if negative then -n else n, rest)
    else (0, cs)
  | [] => (0, cs)

/-- The longest numeral in front of a text, and what follows it. -/
def scan (cs : List Char) : Option (Decimal × List Char) :=
  let (negative, rest) := sign cs
  let (whole, rest) := digits rest
  let (part, rest) := places rest
  if whole.isEmpty && part.isEmpty then none
  else
    let (e, rest) := exponentPart rest
    some (⟨negative, digitsValue (digitsValue 0 whole) part, e - part.length⟩, rest)

def leading? (cs : List Char) : Option Decimal :=
  (scan cs).map (·.1)

def whole? (cs : List Char) : Option Decimal :=
  match scan cs with
  | some (d, []) => some d
  | _ => none

/-- The nearest number.  Beyond `10 ^ 400` it is infinite and below `2 ^ (-1200)` zero, so powers
of ten far outside the format are never computed. -/
def toNumber (d : Decimal) : Number :=
  if d.coefficient = 0 then .finite d.negative 0 Precision.double.least
  else if 400 < d.exponent then .infinite d.negative
  else if d.coefficient.log2 + 1 + 3 * d.exponent < -1200 then
    .finite d.negative 0 Precision.double.least
  else Precision.double.round d.negative (Fraction.shiftTen ⟨d.coefficient, 1⟩ d.exponent)

example : leading? "42abc".toList = some ⟨false, 42, 0⟩ := by decide +kernel

example : whole? "-1.50e2".toList = some ⟨true, 150, 0⟩ ∧ whole? "1e".toList = none := by
  decide +kernel

end Decimal

namespace Number

def isLeadingBlank (c : Char) : Bool :=
  c == ' ' || c == '\t' || c == '\n' || c == '\x0c' || c == '\r'

def ofLeading (cs : List Char) : Number :=
  match Decimal.leading? (cs.dropWhile isLeadingBlank) with
  | some d => d.toNumber
  | none => zero

def ofWhole? (cs : List Char) : Option Number :=
  (Decimal.whole? (Text.trim cs)).map Decimal.toNumber

end Number

end PatternAction
