import PatternAction.Text.CodeSet
import PatternAction.Text.FoldTable

/-!
Sets of characters as increasing lists of intervals, and the operations that patterns have on them.
No code point from U+D800 up to U+DFFF is a character, so the characters in front of these and
behind them are neighbours.
-/

set_option autoImplicit false
set_option relaxedAutoImplicit false

namespace PatternAction.Text

/-- The code points from `lo` up to `hi`. -/
structure Interval where
  lo : Nat
  hi : Nat
deriving DecidableEq, Repr

namespace Interval

def between (a b : Nat) : Interval :=
  if a ≤ b then ⟨a, b⟩ else ⟨b, a⟩

/-- The order by lower ends, and among equal ones by upper ends. -/
def le (i j : Interval) : Bool :=
  i.lo < j.lo || (i.lo == j.lo && i.hi ≤ j.hi)

/-- What a run of letters sends the letters of an interval to. -/
def partners (i : Interval) (r : CaseRun) : List Interval :=
  let lo := max i.lo r.first
  let hi := min i.hi r.last
  if hi < lo then []
  else if r.step = 1 then [⟨(lo + r.shift).toNat, (hi + r.shift).toNat⟩]
  else
    (List.range (hi - lo + 1)).filterMap fun k =>
      (r.image? (lo + k)).map fun n => ⟨n, n⟩

def asciiPartners (i : Interval) : List Interval :=
  i.partners ⟨0x41, 0x5a, 1, 32⟩ ++ i.partners ⟨0x61, 0x7a, 1, -32⟩

end Interval

def nextChar (n : Nat) : Nat :=
  if n = 0xd7ff then 0xe000 else n + 1

def previousChar (n : Nat) : Nat :=
  if n = 0xe000 then 0xd7ff else n - 1

def lastChar : Nat := 0x10ffff

/-- A set of characters: intervals in increasing order, none of which touches the next. -/
structure CharSet where
  intervals : List Interval
deriving DecidableEq, Repr

namespace CharSet

def empty : CharSet := ⟨[]⟩

def any : CharSet := ⟨[⟨0, lastChar⟩]⟩

def join : Interval → List Interval → List Interval
  | i, [] => [i]
  | i, j :: js =>
    if j.lo ≤ i.hi + 1 then join ⟨i.lo, max i.hi j.hi⟩ js else i :: join j js

def ofIntervals (is : List Interval) : CharSet :=
  match is.mergeSort Interval.le with
  | [] => empty
  | i :: is => ⟨join i is⟩

/-- Pair bounds up to intervals; the last interval may have no upper bound. -/
def pairs : List Nat → List Interval
  | [] => []
  | [b] => [⟨b, lastChar⟩]
  | a :: b :: bs => ⟨a, b - 1⟩ :: pairs bs

def ofCodes (s : CodeSet) : CharSet :=
  ⟨pairs s.bounds⟩

def range (lo hi : Nat) : CharSet := ⟨[⟨lo, hi⟩]⟩

def union (a b : CharSet) : CharSet :=
  ofIntervals (a.intervals ++ b.intervals)

def unionAll (sets : List CharSet) : CharSet :=
  ofIntervals (sets.flatMap (·.intervals))

def overlaps : List Interval → List Interval → List Interval
  | [], _ => []
  | _, [] => []
  | a :: as, b :: bs =>
    let rest := if a.hi < b.hi then overlaps as (b :: bs) else overlaps (a :: as) bs
    if max a.lo b.lo ≤ min a.hi b.hi then ⟨max a.lo b.lo, min a.hi b.hi⟩ :: rest else rest
termination_by as bs => as.length + bs.length

def inter (a b : CharSet) : CharSet :=
  ⟨overlaps a.intervals b.intervals⟩

def remains : List Interval → List Interval → List Interval
  | [], _ => []
  | as, [] => as
  | a :: as, b :: bs =>
    if b.hi < a.lo then remains (a :: as) bs
    else if a.hi < b.lo then a :: remains as (b :: bs)
    else
      let rest :=
        if b.hi < a.hi then remains (⟨nextChar b.hi, a.hi⟩ :: as) bs else remains as (b :: bs)
      if a.lo < b.lo then ⟨a.lo, previousChar b.lo⟩ :: rest else rest
termination_by as bs => as.length + bs.length

def diff (a b : CharSet) : CharSet :=
  ⟨remains a.intervals b.intervals⟩

def symmDiff (a b : CharSet) : CharSet :=
  (a.union b).diff (a.inter b)

def gaps (hi : Nat) : List Interval → List Interval
  | [] => if hi < lastChar then [⟨nextChar hi, lastChar⟩] else []
  | i :: is => .between (nextChar hi) (previousChar i.lo) :: gaps i.hi is

def negate (s : CharSet) : CharSet :=
  match s.intervals with
  | [] => any
  | i :: is => ⟨(if 0 < i.lo then [⟨0, previousChar i.lo⟩] else []) ++ gaps i.hi is⟩

/-- The set with every letter that differs from a member in case only. -/
def foldCase (s : CharSet) : CharSet :=
  ofIntervals (s.intervals ++ s.intervals.flatMap fun i => partnerRuns.flatMap i.partners)

def foldAscii (s : CharSet) : CharSet :=
  ofIntervals (s.intervals ++ s.intervals.flatMap Interval.asciiPartners)

def single? (s : CharSet) : Option Char :=
  match s.intervals with
  | [i] => if i.lo = i.hi then some (Char.ofNat i.lo) else none
  | _ => none

def isAscii (s : CharSet) : Bool :=
  s.intervals.all (·.hi < 128)

/-- Whether one of the intervals from place `a` of an increasing array up to place `b`, `b` itself
left out, has a code point. -/
def searchBetween (table : Array Interval) (n a b : Nat) : Bool :=
  if a < b then
    let m := (a + b) / 2
    match table[m]? with
    | none => false
    | some i =>
      if n < i.lo then searchBetween table n a m
      else if i.hi < n then searchBetween table n (m + 1) b
      else true
  else false
termination_by b - a

def search (table : Array Interval) (n : Nat) : Bool :=
  searchBetween table n 0 table.size

example : (ofIntervals [⟨5, 9⟩, ⟨1, 2⟩, ⟨3, 3⟩]) = ⟨[⟨1, 3⟩, ⟨5, 9⟩]⟩ := by cbv

example : (range 0 9).diff (range 3 4) = ⟨[⟨0, 2⟩, ⟨5, 9⟩]⟩ := by cbv

example : (range 0x41 0x42).foldAscii = ⟨[⟨0x41, 0x42⟩, ⟨0x61, 0x62⟩]⟩ := by cbv

end CharSet

end PatternAction.Text
