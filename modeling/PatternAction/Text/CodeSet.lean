/-!
Sets of code points as the increasing list of places where membership changes.
-/

set_option autoImplicit false
set_option relaxedAutoImplicit false

namespace PatternAction.Text

/-- A set of code points: the first bound opens a range, the next one closes it, and so on. -/
structure CodeSet where
  bounds : List Nat
deriving DecidableEq, Repr

namespace CodeSet

def side (n : Nat) (inside : Bool) : List Nat → Bool
  | [] => inside
  | b :: bs => if n < b then inside else side n (!inside) bs

/-- A code point is a member when an odd number of bounds lie at or below it. -/
def contains (s : CodeSet) (n : Nat) : Bool :=
  side n false s.bounds

private def hexValue (c : Char) : Nat :=
  if c.isDigit then c.toNat - 48 else c.toNat - 87

/-- Read bounds written in hexadecimal and divided by blanks or line ends. -/
private def readBounds : Option Nat → List Char → List Nat
  | none, [] => []
  | some n, [] => [n]
  | current, c :: cs =>
    if c.isAlphanum then readBounds (some (current.getD 0 * 16 + hexValue c)) cs
    else match current with
      | none => readBounds none cs
      | some n => n :: readBounds none cs

/-- The set whose bounds are written in lower case hexadecimal, divided by blanks or line ends. -/
def ofHex (text : String) : CodeSet :=
  ⟨readBounds none text.toList⟩

/-- The least set with every code point from `lo` up to `hi`. -/
def interval (lo hi : Nat) : CodeSet :=
  ⟨[lo, hi + 1]⟩

example : (interval 0x41 0x5a).contains 0x5a ∧ ¬ (interval 0x41 0x5a).contains 0x5b := by decide

example : ofHex "41 5b 61 7b" = ⟨[0x41, 0x5b, 0x61, 0x7b]⟩ := by decide

end CodeSet

end PatternAction.Text
