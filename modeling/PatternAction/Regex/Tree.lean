import PatternAction.Regex.Look

/-!
Patterns as trees in a normal form: sequences hold no sequences, empty parts or literals that could
be joined, choices hold no choices, and what could be one set is one.
-/

set_option autoImplicit false
set_option relaxedAutoImplicit false

namespace PatternAction.Regex

open Text

inductive Tree where
  | empty
  /-- Characters one behind the other, at least one. -/
  | literal (text : List Char)
  | set (chars : CharSet)
  | look (test : Look)
  /-- At least `least` times and at most `most`; a greedy repetition prefers more. -/
  | repeat (least : Nat) (most : Option Nat) (greedy : Bool) (body : Tree)
  | group (index : Nat) (body : Tree)
  | seq (parts : List Tree)
  /-- Earlier alternatives are preferred. -/
  | alt (parts : List Tree)
deriving Repr, BEq

namespace Tree

def fail : Tree := .set .empty

def width (n : Nat) : Nat :=
  if n < 0x80 then 1 else if n < 0x800 then 2 else if n < 0x10000 then 3 else 4

def textWidth (text : List Char) : Nat :=
  text.foldl (fun n c => n + width c.toNat) 0

mutual

/-- The least number of bytes that a match takes, unless there is a part that matches nowhere. -/
def least? : Tree → Option Nat
  | .empty | .look _ => some 0
  | .literal text => some (textWidth text)
  | .set chars => chars.intervals.head?.map fun i => width i.lo
  | .repeat least _ _ body => body.least?.map (· * least)
  | .group _ body => body.least?
  | .seq parts => sumLeast? parts
  | .alt parts => minLeast? parts

def sumLeast? : List Tree → Option Nat
  | [] => some 0
  | t :: ts =>
    match t.least?, sumLeast? ts with
    | some m, some n => some (m + n)
    | _, _ => none

def minLeast? : List Tree → Option Nat
  | [] => none
  | [t] => t.least?
  | t :: ts =>
    match t.least?, minLeast? ts with
    | some m, some n => some (min m n)
    | _, _ => none

end

mutual

/-- The greatest number of bytes that a match takes, unless there is none or a part that matches
nowhere. -/
def most? : Tree → Option Nat
  | .empty | .look _ => some 0
  | .literal text => some (textWidth text)
  | .set chars => chars.intervals.getLast?.map fun i => width i.hi
  | .repeat _ most _ body =>
    match most, body.most? with
    | some m, some n => some (m * n)
    | _, _ => none
  | .group _ body => body.most?
  | .seq parts => sumMost? parts
  | .alt parts => maxMost? parts

def sumMost? : List Tree → Option Nat
  | [] => some 0
  | t :: ts =>
    match t.most?, sumMost? ts with
    | some m, some n => some (m + n)
    | _, _ => none

def maxMost? : List Tree → Option Nat
  | [] => none
  | [t] => t.most?
  | t :: ts =>
    match t.most?, maxMost? ts with
    | some m, some n => some (max m n)
    | _, _ => none

end

/-- Whether a match may be empty, as far as can be told. -/
def mayBeEmpty (t : Tree) : Bool :=
  !t.least?.any (0 < ·)

mutual

def startsWith (l : Look) : Tree → Bool
  | .look test => test == l
  | .repeat least _ _ body => 0 < least && body.startsWith l
  | .group _ body => body.startsWith l
  | .seq parts => oneStartsWith l parts
  | .alt parts => !parts.isEmpty && allStartWith l parts
  | _ => false

/-- The same for a sequence: one of its parts has to, all in front of it being empty. -/
def oneStartsWith (l : Look) : List Tree → Bool
  | [] => false
  | t :: ts => t.startsWith l || (t.most? == some 0 && oneStartsWith l ts)

def allStartWith (l : Look) : List Tree → Bool
  | [] => true
  | t :: ts => t.startsWith l && allStartWith l ts

end

mutual

def endsWith (l : Look) : Tree → Bool
  | .look test => test == l
  | .repeat least _ _ body => 0 < least && body.endsWith l
  | .group _ body => body.endsWith l
  | .seq parts => (oneEndsWith l parts).1
  | .alt parts => !parts.isEmpty && allEndWith l parts
  | _ => false

/-- The same for a sequence, and whether all its parts are empty. -/
def oneEndsWith (l : Look) : List Tree → Bool × Bool
  | [] => (false, true)
  | t :: ts =>
    let (found, bare) := oneEndsWith l ts
    (found || (bare && t.endsWith l), bare && t.most? == some 0)

def allEndWith (l : Look) : List Tree → Bool
  | [] => true
  | t :: ts => t.endsWith l && allEndWith l ts

end

/-- A set of characters; one of a single character is a literal. -/
def ofSet (s : CharSet) : Tree :=
  match s.single? with
  | some c => .literal [c]
  | none => .set s

/-- A repetition; one of a body that takes no characters is made at most once, and those of
exactly none or one are not repetitions. -/
def repeated (least : Nat) (most : Option Nat) (greedy : Bool) (body : Tree) : Tree :=
  let (least, most) :=
    if body.most? = some 0 then (min least 1, some (min (most.getD 1) 1)) else (least, most)
  if most = some 0 then .empty
  else if least = 1 ∧ most = some 1 then body
  else .repeat least most greedy body

def parts : Tree → List Tree
  | .empty => []
  | .seq ts => ts
  | t => [t]

/-- Put a part in front of parts that follow it; two literals are joined. -/
def prepend (t : Tree) (ts : List Tree) : List Tree :=
  match t, ts with
  | .literal a, .literal b :: rest => .literal (a ++ b) :: rest
  | _, _ => t :: ts

def concat (ts : List Tree) : Tree :=
  match (ts.flatMap parts).foldr prepend [] with
  | [] => .empty
  | [t] => t
  | ts => .seq ts

def alternatives : Tree → List Tree
  | .alt ts => ts
  | t => [t]

def singles? (ts : List Tree) : Option (List Interval) :=
  ts.mapM fun
    | .literal [c] => some ⟨c.toNat, c.toNat⟩
    | _ => none

def sets? (ts : List Tree) : Option (List CharSet) :=
  ts.mapM fun
    | .set s => some s
    | _ => none

def seqs? (ts : List Tree) : Option (List (List Tree)) :=
  ts.mapM fun
    | .seq parts => some parts
    | _ => none

def commonLength : List Tree → List Tree → Nat
  | a :: as, b :: bs => if a == b then commonLength as bs + 1 else 0
  | _, _ => 0

def sharedLength : List (List Tree) → Nat
  | [] => 0
  | first :: others => others.foldl (fun n ts => min n (commonLength first ts)) first.length

/-- The choice between trees that are no choices and do not start alike. -/
def chooseFlat (ts : List Tree) : Tree :=
  match ts with
  | [] => fail
  | [t] => t
  | _ =>
    match singles? ts, sets? ts with
    | some is, _ => ofSet (.ofIntervals is)
    | _, some ss => ofSet (.unionAll ss)
    | none, none => .alt ts

/-- Trees to choose from.  Sequences that start alike are told apart behind their common parts. -/
def choose (ts : List Tree) : Tree :=
  let ts := ts.flatMap alternatives
  match ts, seqs? ts with
  | _ :: _ :: _, some (first :: others) =>
    match sharedLength (first :: others) with
    | 0 => chooseFlat ts
    | n =>
      let rests := (first :: others).map fun parts => concat (parts.drop n)
      concat (first.take n ++ [chooseFlat (rests.flatMap alternatives)])
  | _, _ => chooseFlat ts

end Tree

end PatternAction.Regex
