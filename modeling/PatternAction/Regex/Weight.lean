import PatternAction.Regex.ByteRange
import PatternAction.Regex.Tree
import Std.Data.HashMap

/-!
How much room a pattern takes.  A pattern is weighed as an automaton over bytes, once for reading
text forwards and once for reading it backwards, with all repetitions written out.  Each state has
a price, and so have the arcs of a state that has a list of them and the branches of a fork.
-/

set_option autoImplicit false
set_option relaxedAutoImplicit false

namespace PatternAction.Regex

open Text

def maxRoom : Nat := 10 * 0x100000

structure Tally where
  states : Nat
  /-- The room that arcs and branches take. -/
  extra : Nat

def Tally.room (t : Tally) : Nat :=
  32 * t.states + t.extra

abbrev Weigher (α : Type) := StateT Tally Option α

namespace Weigher

def count (states arcs branches : Nat) : Weigher Unit := fun t =>
  let t := { t with states := t.states + states, extra := t.extra + 8 * arcs + 4 * branches }
  if t.room ≤ maxRoom then some ((), t) else none

/-- Lead from the end of one part to another, which is one more branch if that end is a fork. -/
def lead (fork : Bool) : Weigher Unit :=
  if fork then count 0 0 1 else pure ()

/-! ## Sets of characters -/

structure Arc where
  bytes : ByteRange
  next : Nat
deriving DecidableEq

def mix (hash : UInt64) (n : Nat) : UInt64 :=
  (hash ^^^ n.toUInt64) * 1099511628211

/-- The slot of some numbers in a table with so many slots. -/
def slot (size : Nat) (ns : List Nat) : Nat :=
  (ns.foldl mix 14695981039346656037).toNat % size

/-- States that were made before, one in a slot: a later one drives out an earlier one. -/
abbrev Known (α : Type) := Std.HashMap Nat (α × Nat)

/-- The state with some arcs: one that is still known, or a new one. -/
def fanState (arcs : List Arc) (known : Known (List Arc)) : Weigher (Nat × Known (List Arc)) := do
  let s := slot 10000 (arcs.flatMap fun a => [a.bytes.lo, a.bytes.hi, a.next])
  match known[s]?.filter (·.1 = arcs) with
  | some (_, id) => return (id, known)
  | none =>
    let id := (← get).states
    count 1 arcs.length 0
    return (id, known.insert s (arcs, id))

/-- The state from which sequences of at most `width` byte ranges lead to `target`, those that start
alike sharing an arc. -/
def fan (target : Nat) : Nat → List (List ByteRange) → Known (List Arc) →
    Weigher (Nat × Known (List Arc))
  | 0, _, known => return (target, known)
  | width + 1, sequences, known => do
    if sequences.all (·.isEmpty) then return (target, known)
    let mut known := known
    let mut arcs := #[]
    for group in sequences.splitBy (fun a b => a.head? == b.head?) do
      match group with
      | (bytes :: _) :: _ =>
        let (next, known') ← fan target width (group.map (·.drop 1)) known
        known := known'
        arcs := arcs.push ⟨bytes, next⟩
      | _ => pure ()
    fanState arcs.toList known

/-- The state from which a sequence of byte ranges, read backwards, leads to `target`; what was made
for an earlier sequence is used again as long as it is known. -/
def chain : Nat → List ByteRange → Known (Nat × ByteRange) →
    Weigher (Nat × Known (Nat × ByteRange))
  | target, [], known => return (target, known)
  | target, bytes :: more, known => do
    let s := slot 1000 [target, bytes.lo, bytes.hi]
    match known[s]?.filter (·.1 = (target, bytes)) with
    | some (_, id) => chain id more known
    | none =>
      let id := (← get).states
      count 1 0 0
      chain id more (known.insert s ((target, bytes), id))

/-- A chain for each sequence, all of them being branches of one fork. -/
def chains (target : Nat) : List (List ByteRange) → Known (Nat × ByteRange) → Weigher Unit
  | [], _ => return
  | sequence :: more, known => do
    let (_, known) ← chain target sequence known
    count 0 0 1
    chains target more known

def charSet (backwards : Bool) (s : CharSet) : Weigher Unit := do
  if s.isAscii then count 2 s.intervals.length 0
  else
    let sequences := s.intervals.flatMap ByteRange.sequences
    let first := (← get).states
    if backwards then
      count 2 0 0
      chains (first + 1) sequences ∅
    else
      count 1 0 0
      let _ ← fan first 4 sequences ∅

/-! ## Literals to choose from -/

/-- Literals that were added to a state, by their first bytes.  Those added in front of a literal
that ends there are kept apart from those added behind it. -/
structure Stem where
  closed : List (List (Nat × List (List Nat)))
  active : List (Nat × List (List Nat))

/-- Add what is left of a literal behind its first byte; lists of these are reversed. -/
def addTail (byte : Nat) (tail : List Nat) :
    List (Nat × List (List Nat)) → List (Nat × List (List Nat))
  | [] => [(byte, [tail])]
  | (b, tails) :: more =>
    if b = byte then (b, tail :: tails) :: more else (b, tails) :: addTail byte tail more

def Stem.add (s : Stem) (literal : List Nat) : Stem :=
  match literal with
  | byte :: tail => { s with active := addTail byte tail s.active }
  | [] =>
    if s.active.isEmpty && s.closed.all (·.isEmpty) && !s.closed.isEmpty then s
    else ⟨s.active :: s.closed, []⟩

/-- Count the states for some literals of less than `fuel` bytes that share their states as long as
they are equal. -/
def stems : Nat → List (List Nat) → Weigher Unit
  | 0, _ => return
  | fuel + 1, literals => do
    let stem := literals.foldl Stem.add ⟨[], []⟩
    let full := (stem.active :: stem.closed).filter (!·.isEmpty)
    if full.isEmpty then return
    for group in full do
      count 1 (if group.length = 1 then 0 else group.length) 0
      for (_, tails) in group do
        stems fuel tails.reverse
    count 1 0 (full.length + stem.closed.length)

def literals (texts : List (List Nat)) : Weigher Unit := do
  count 1 0 0
  stems (texts.foldl (fun n t => max n t.length) 0 + 1) texts

/-! ## Trees -/

def texts? (ts : List Tree) : Option (List (List Char)) :=
  ts.mapM fun
    | .literal text => some text
    | _ => none

/-- A part so many times more, each time behind the last one; parts tell whether they end in a
fork. -/
def times (part : Weigher Bool) : Nat → Bool → Weigher Bool
  | 0, fork => return fork
  | n + 1, fork => do
    let next ← part
    lead fork
    times part n next

def exactly (part : Weigher Bool) : Nat → Weigher Bool
  | 0 => do
    count 1 0 0
    return false
  | n + 1 => do times part n (← part)

/-- A part up to so many times more, with a way out in front of each. -/
def optional (part : Weigher Bool) : Nat → Bool → Weigher Unit
  | 0, fork => lead fork
  | n + 1, fork => do
    count 1 0 0
    let next ← part
    lead fork
    count 0 0 2
    optional part n next

/-- A part at least so many times, one after another or none at all. -/
def atLeast (part : Weigher Bool) (mayBeEmpty : Bool) : Nat → Weigher Bool
  | 0 => do
    if mayBeEmpty then
      lead (← part)
      count 3 0 4
      return false
    else
      count 1 0 0
      let fork ← part
      count 0 0 1
      lead fork
      return true
  | n + 1 => do
    let before ← if n = 0 then pure false else exactly part n
    let fork ← part
    lead before
    lead fork
    count 1 0 1
    return true

mutual

/-- Count what a tree takes; the result tells whether it ends in a fork. -/
def tree (backwards : Bool) : Tree → Weigher Bool
  | .empty => do
    count 1 0 0
    return false
  | .literal text => do
    count (Tree.textWidth text) 0 0
    return false
  | .set s => do
    charSet backwards s
    return false
  | .look _ => do
    count 1 0 0
    return false
  | .repeat least none _ body => atLeast (tree backwards body) body.mayBeEmpty least
  | .repeat least (some most) _ body =>
    if least = most then exactly (tree backwards body) least
    else if least = 0 ∧ most = 1 then do
      count 1 0 0
      let fork ← tree backwards body
      count 1 0 2
      lead fork
      return false
    else do
      let fork ← exactly (tree backwards body) least
      count 1 0 0
      optional (tree backwards body) (most - least) fork
      return false
  | .group _ body =>
    if backwards then tree backwards body
    else do
      count 1 0 0
      let fork ← tree backwards body
      count 1 0 0
      lead fork
      return false
  | .seq parts => if backwards then seqBackwards parts else seqForwards parts false
  | .alt parts =>
    match texts? parts with
    | some texts => do
      literals (texts.map fun text =>
        if backwards then (textBytes text).reverse else textBytes text)
      return false
    | none => do
      alternatives backwards parts 0
      return false

def seqForwards : List Tree → Bool → Weigher Bool
  | [], fork => return fork
  | t :: ts, fork => do
    let next ← tree false t
    lead fork
    seqForwards ts next

def seqBackwards : List Tree → Weigher Bool
  | [] => return false
  | t :: ts => do
    let fork ← seqBackwards ts
    let next ← tree true t
    lead fork
    return next

/-- Alternatives, the fork to which is made when two of them are there; `made` are there already. -/
def alternatives (backwards : Bool) : List Tree → Nat → Weigher Unit
  | [], _ => return
  | t :: ts, made => do
    let fork ← tree backwards t
    if made = 1 then count 2 0 0
    count 0 0 1
    lead fork
    alternatives backwards ts (made + 1)

end

def pattern (backwards : Bool) (t : Tree) : Weigher Unit := do
  let anchored := if backwards then t.endsWith .textEnd else t.startsWith .textStart
  if anchored then count 1 0 0 else count 3 1 2
  let fork ← if backwards then tree true t else tree false (.group 0 t)
  count 1 0 0
  lead fork

end Weigher

def Tree.fits (t : Tree) : Bool :=
  ((Weigher.pattern false t).run ⟨0, 0⟩).isSome && ((Weigher.pattern true t).run ⟨0, 0⟩).isSome

end PatternAction.Regex
