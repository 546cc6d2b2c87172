import PatternAction.Value

/-!
Formatted printing.  A format is ordinary characters and directives; each directive that is known
takes the next argument, and everything else is copied.  A number cannot be laid out with more than
65535 places behind its point: a format that asks for more has no text.
-/

set_option autoImplicit false
set_option relaxedAutoImplicit false

namespace PatternAction.Printf

structure Spec where
  left : Bool
  plus : Bool
  space : Bool
  alternate : Bool
  zero : Bool
  width : Option Nat
  precision : Option Nat
deriving DecidableEq, Repr

namespace Spec

def sign (s : Spec) (negative : Bool) : List Char :=
  if negative then ['-'] else if s.plus then ['+'] else if s.space then [' '] else []

/-- Fill up to the width: blanks behind, zeros between sign and body, or blanks in front. -/
def pad (s : Spec) (sign body : List Char) (zeroAllowed : Bool) : List Char :=
  let fill := s.width.getD 0 - (sign.length + body.length)
  if s.left then sign ++ body ++ List.replicate fill ' '
  else if s.zero && zeroAllowed then sign ++ List.replicate fill '0' ++ body
  else List.replicate fill ' ' ++ sign ++ body

end Spec

inductive Conversion where
  | text
  | char
  | integer
  | octal
  | hex (upper : Bool)
  | fixed
  | exponent (upper : Bool)
  | general (upper : Bool)
deriving DecidableEq, Repr

def Conversion.ofChar? (c : Char) : Option Conversion :=
  match c with
  | 's' => some .text
  | 'c' => some .char
  | 'd' | 'i' => some .integer
  | 'o' => some .octal
  | 'x' => some (.hex false)
  | 'X' => some (.hex true)
  | 'f' | 'F' => some .fixed
  | 'e' => some (.exponent false)
  | 'E' => some (.exponent true)
  | 'g' => some (.general false)
  | 'G' => some (.general true)
  | _ => none

/-! ## Bodies -/

/-- The character of a code point; no text if there is none. -/
def codeText (n : Nat) : List Char :=
  if n.isValidChar then [Char.ofNat n] else []

/-- The first character of a text, or the character that a number stands for. -/
def charText (arg : Scalar) : List Char :=
  match arg.asNumber? with
  | some x => codeText (x.truncate 0 0xffffffff).toNat
  | none => arg.chars.take 1

def word (n : Int) : Nat :=
  (n % 0x10000000000000000).toNat

def nonFiniteText : Number → List Char
  | .nan => "NaN".toList
  | _ => "inf".toList

/-- A power of ten with its sign and at least two digits. -/
def powerText (upper : Bool) (k : Int) : List Char :=
  (if upper then 'E' else 'e') :: (if k < 0 then '-' else '+') ::
    zeroFill 2 (decimalDigits k.natAbs)

/-- The most places behind a point that a number can be laid out with. -/
def mostPlaces : Nat := 65535

/-- So many places, if a number can be laid out with them. -/
def placesOf (places : Nat) : Option Nat :=
  Option.guard (· ≤ mostPlaces) places

/-- One digit in front of the point, `places` behind it, and a power of ten. -/
def exponentBody (q : Fraction) (places : Nat) (upper : Bool) : Option (List Char) := do
  let places ← placesOf places
  let (n, k) := q.scientific places
  return pointed n places ++ powerText upper k

def isPowerMark (c : Char) : Bool :=
  c == 'e' || c == 'E'

/-- Drop zeros at the end of the places behind the point, and the point if none are left. -/
def stripZeros (body : List Char) : List Char :=
  let mantissa := body.takeWhile (!isPowerMark ·)
  let power := body.dropWhile (!isPowerMark ·)
  if mantissa.contains '.' then
    ((mantissa.reverse.dropWhile (· == '0')).dropWhile (· == '.')).reverse ++ power
  else body

/-- The power of ten of a fraction with one digit in front of the point and `places` behind it; that
of zero needs no places. -/
def power (q : Fraction) (places : Nat) : Option Int :=
  if q.num = 0 then some 0 else (placesOf places).map fun places => (q.scientific places).2

def word32 (n : Nat) : Int :=
  Int.bmod n 0x100000000

/-- The shorter of the two notations for `digits` significant digits: with a power of ten if it is
below -4 or not below the number of digits, of which 32 bits are compared. -/
def shorterBody (q : Fraction) (digits : Nat) (upper : Bool) : Option (List Char) := do
  let k ← power q (digits - 1)
  if k < -4 ∨ word32 digits ≤ k then exponentBody q (digits - 1) upper
  else (placesOf (word32 digits - 1 - k).toNat).map q.fixed

/-- The shorter notation, by default without zeros at the end of the places. -/
def generalBody (q : Fraction) (digits : Nat) (alternate upper : Bool) : Option (List Char) :=
  let body := shorterBody q (max digits 1) upper
  if alternate then body else body.map stripZeros

def real (s : Spec) (x : Number) (body : Fraction → Option (List Char)) : Option (List Char) :=
  match x with
  | .finite negative m e =>
    (body (Number.fraction m e)).map (s.pad (s.sign (negative && m != 0)) · true)
  | _ => some (s.pad (s.sign x.isNegative) (nonFiniteText x) false)

/-- A natural number in base eight or sixteen, whose prefix takes the place of a sign. -/
def radix (s : Spec) (n base : Nat) (mark : List Char) (upper : Bool) : List Char :=
  let ds := Nat.toDigits base n
  let ds := if upper then ds.map Char.toUpper else ds
  s.pad (if s.alternate && n != 0 then mark else []) ds s.precision.isNone

/-- The text that a conversion makes of an argument.  In fixed notation the places are looked at
first, even if there is no number to be laid out with them. -/
def Conversion.apply (c : Conversion) (s : Spec) (arg : Scalar) : Option (List Char) :=
  match c with
  | .text =>
    some (s.pad [] (match s.precision with
      | some p => arg.chars.take p
      | none => arg.chars) false)
  | .char => some (s.pad [] (charText arg) false)
  | .integer =>
    let n := arg.toNumber.toInt64
    some (s.pad (s.sign (n < 0)) (zeroFill (s.precision.getD 0) (decimalDigits n.natAbs))
      s.precision.isNone)
  | .octal => some (radix s (word arg.toNumber.toInt64) 8 ['0'] false)
  | .hex upper =>
    some (radix s (word arg.toNumber.toInt64) 16 ['0', if upper then 'X' else 'x'] upper)
  | .fixed => do
    let places ← placesOf (s.precision.getD 6)
    real s arg.toNumber fun q => some (q.fixed places)
  | .exponent upper => real s arg.toNumber fun q => exponentBody q (s.precision.getD 6) upper
  | .general upper =>
    real s arg.toNumber fun q => generalBody q (s.precision.getD 6) s.alternate upper

/-! ## Formats -/

def isFlag (c : Char) : Bool :=
  c == '-' || c == '+' || c == ' ' || c == '#' || c == '0'

/-- The number that digits spell; none if there are no digits or it has more than 64 bits. -/
def size? (ds : List Char) : Option Nat :=
  let n := Decimal.digitsValue 0 ds
  if ds.isEmpty || 0x10000000000000000 ≤ n then none else some n

/-- A precision and what follows it; a point without a usable number stands for zero. -/
def precision : List Char → Option Nat × List Char
  | '.' :: cs => (some ((size? (cs.takeWhile Char.isDigit)).getD 0), cs.dropWhile Char.isDigit)
  | cs => (none, cs)

/-- The flags, width and precision in front of a conversion, and what follows them. -/
def spec (cs : List Char) : Spec × List Char :=
  let flags := cs.takeWhile isFlag
  let rest := cs.dropWhile isFlag
  let (p, after) := precision (rest.dropWhile Char.isDigit)
  (⟨flags.contains '-', flags.contains '+', flags.contains ' ', flags.contains '#',
    flags.contains '0', size? (rest.takeWhile Char.isDigit), p⟩, after)

private theorem length_dropWhile_le {α : Type} (p : α → Bool) (xs : List α) :
    (xs.dropWhile p).length ≤ xs.length :=
  (List.dropWhile_suffix p).length_le

theorem precision_length_le (cs : List Char) : (precision cs).2.length ≤ cs.length := by
  unfold precision
  split
  · have := length_dropWhile_le Char.isDigit
    simp only [List.length_cons]
    exact Nat.le_succ_of_le (this _)
  · exact Nat.le_refl _

theorem spec_length_le (cs : List Char) : (spec cs).2.length ≤ cs.length := by
  simp only [spec]
  exact Nat.le_trans (precision_length_le _)
    (Nat.le_trans (length_dropWhile_le _ _) (length_dropWhile_le _ _))

/-- Lay out arguments by a format.  A missing argument is empty; an unknown directive is copied
and takes none; a directive cut off by the end is copied too. -/
def layout (args : List Scalar) (format : List Char) : Option (List Char) :=
  match format with
  | [] => some []
  | '%' :: '%' :: cs => (layout args cs).map ('%' :: ·)
  | '%' :: cs =>
    match h : (spec cs).2 with
    | [] => some ('%' :: cs)
    | c :: rest =>
      have _shorter : rest.length < cs.length := by
        have := spec_length_le cs
        rw [h] at this
        exact this
      match Conversion.ofChar? c with
      | some conversion => do
        let shown ← conversion.apply (spec cs).1 (args.headD .empty)
        (layout args.tail rest).map (shown ++ ·)
      | none => (layout args rest).map ('%' :: cs.take (cs.length - rest.length) ++ ·)
  | c :: cs => (layout args cs).map (c :: ·)
termination_by format.length

def sprintf (format : String) (args : List Scalar) : Option String :=
  (layout args format.toList).map String.ofList

example :
    sprintf "%05d|%-4s|%.2f" [⟨"42"⟩, ⟨"ab"⟩, ⟨"2.675"⟩] = some "00042|ab  |2.67" ∧
      sprintf "%.65536f" [⟨"1"⟩] = none := by
  decide +kernel

end PatternAction.Printf
