import PatternAction.Text.CharSet

/-!
Characters as bytes: the sequences of byte ranges that the characters of an interval are written
with.
-/

set_option autoImplicit false
set_option relaxedAutoImplicit false

namespace PatternAction.Regex

open Text

structure ByteRange where
  lo : Nat
  hi : Nat
deriving DecidableEq, Repr

def bytesOf (n : Nat) : List Nat :=
  if n < 0x80 then [n]
  else if n < 0x800 then [0xc0 + n / 0x40, 0x80 + n % 0x40]
  else if n < 0x10000 then [0xe0 + n / 0x1000, 0x80 + n / 0x40 % 0x40, 0x80 + n % 0x40]
  else [0xf0 + n / 0x40000, 0x80 + n / 0x1000 % 0x40, 0x80 + n / 0x40 % 0x40, 0x80 + n % 0x40]

def textBytes (text : List Char) : List Nat :=
  text.flatMap fun c => bytesOf c.toNat

namespace ByteRange

/-- The greatest code points that one, two and three bytes can hold. -/
def widthEnds : List Nat := [0x7f, 0x7ff, 0xffff]

/-- Where to cut an interval so that all its characters have one number of bytes and are
characters: the last code point in front of the cut, and the first one behind. -/
def widthCut? (i : Interval) : Option (Nat × Nat) :=
  if i.lo < 0xe000 ∧ 0xd7ff < i.hi then some (0xd7ff, 0xe000)
  else (widthEnds.find? fun e => i.lo ≤ e ∧ e < i.hi).map fun e => (e, e + 1)

/-- Where to cut an interval of characters that differ in front of their last `k` bytes so that
these take all values. -/
def blockCut? (i : Interval) (k : Nat) : Option (Nat × Nat) :=
  let block := Nat.pow 0x40 k
  if i.lo / block = i.hi / block then none
  else if i.lo % block ≠ 0 then
    let e := i.lo / block * block + (block - 1)
    some (e, e + 1)
  else if i.hi % block ≠ block - 1 then
    let b := i.hi / block * block
    some (b - 1, b)
  else none

/-- Where to cut an interval next, if it has to be cut at all. -/
def cut? (i : Interval) : Option (Nat × Nat) :=
  (widthCut? i).or (if i.hi < 0x80 then none else [1, 2, 3].findSome? (blockCut? i))

/-- The sequences for an interval that is cut at most `fuel` deep. -/
def sequencesWithin : Nat → Interval → List (List ByteRange)
  | 0, _ => []
  | fuel + 1, i =>
    match cut? i with
    | some (e, b) => sequencesWithin fuel ⟨i.lo, e⟩ ++ sequencesWithin fuel ⟨b, i.hi⟩
    | none =>
      if i.hi < i.lo then []
      else [List.zipWith ByteRange.mk (bytesOf i.lo) (bytesOf i.hi)]

/-- The sequences of byte ranges for the characters of an interval, in increasing order. -/
def sequences (i : Interval) : List (List ByteRange) :=
  sequencesWithin 32 i

example : sequences ⟨0x61, 0xe9⟩ = [[⟨0x61, 0x7f⟩], [⟨0xc2, 0xc2⟩, ⟨0x80, 0xbf⟩],
    [⟨0xc3, 0xc3⟩, ⟨0x80, 0xa9⟩]] := by
  decide +kernel

end ByteRange

end PatternAction.Regex
