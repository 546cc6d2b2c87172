import PatternAction.Regex.Tree

/-!
Patterns as instructions for a machine that keeps several threads at once.
-/

set_option autoImplicit false
set_option relaxedAutoImplicit false

namespace PatternAction.Regex

open Text

/-- An instruction; numbers are places in the code. -/
inductive Instr where
  /-- Take one certain character. -/
  | char (c : Char) (next : Nat)
  /-- Take one character of a set, whose intervals are in order. -/
  | set (table : Array Interval) (next : Nat)
  /-- Go on if a test holds here. -/
  | look (test : Look) (next : Nat)
  /-- Note the present place in a slot. -/
  | save (slot : Nat) (next : Nat)
  /-- Go on at two places, the first being preferred. -/
  | split (first second : Nat)
  /-- The pattern has matched. -/
  | accept
deriving Repr

abbrev Coder (α : Type) := StateM (Array Instr) α

namespace Coder

def emit (i : Instr) : Coder Nat :=
  modifyGet fun code => (code.size, code.push i)

/-- Two ways to go on; a greedy one prefers to enter the body. -/
def branch (greedy : Bool) (body exit : Nat) : Instr :=
  if greedy then .split body exit else .split exit body

/-- Do a thing `n` times, each result being what the next goes on with. -/
def times (step : Nat → Coder Nat) : Nat → Nat → Coder Nat
  | 0, next => return next
  | n + 1, next => do times step n (← step next)

/-- A body that is entered again or left, having been entered at `next`'s place. -/
def loop (greedy : Bool) (body : Nat → Coder Nat) (exit : Nat) : Coder (Nat × Nat) := do
  let again ← emit .accept
  let start ← body again
  modify (·.setIfInBounds again (branch greedy start exit))
  return (start, again)

/-- Any number of times.  A body that can be empty is entered once more or not at all, so that the
preference among empty turns stays right. -/
def star (greedy mayBeEmpty : Bool) (body : Nat → Coder Nat) (exit : Nat) : Coder Nat := do
  let (start, again) ← loop greedy body exit
  if mayBeEmpty then emit (branch greedy start exit) else return again

def chars : List Char → Nat → Coder Nat
  | [], next => return next
  | c :: cs, next => do chars cs (← emit (.char c next))

mutual

/-- Code for a tree that goes on at `next`; the result is where it starts. -/
def tree : Tree → Nat → Coder Nat
  | .empty, next => return next
  | .literal text, next => chars text.reverse next
  | .set s, next => emit (.set s.intervals.toArray next)
  | .look test, next => emit (.look test next)
  | .group index body, next => do
    let stop ← emit (.save (2 * index + 1) next)
    let start ← tree body stop
    emit (.save (2 * index) start)
  | .repeat least none greedy body, next => do
    match least with
    | 0 => star greedy body.mayBeEmpty (tree body) next
    | n + 1 =>
      let (start, _) ← loop greedy (tree body) next
      times (tree body) n start
  | .repeat least (some most) greedy body, next => do
    let optional ← times
      (fun inner => do emit (branch greedy (← tree body inner) next)) (most - least) next
    times (tree body) least optional
  | .seq parts, next => seq parts next
  | .alt parts, next => alt parts next

def seq : List Tree → Nat → Coder Nat
  | [], next => return next
  | t :: ts, next => do tree t (← seq ts next)

def alt : List Tree → Nat → Coder Nat
  | [], next => return next
  | [t], next => tree t next
  | t :: ts, next => do
    let first ← tree t next
    let second ← alt ts next
    emit (.split first second)

end

end Coder

def Tree.code (t : Tree) : Array Instr × Nat :=
  let (start, code) := (do
    let stop ← Coder.emit .accept
    let stop ← Coder.emit (.save 1 stop)
    let body ← Coder.tree t stop
    Coder.emit (.save 0 body) : Coder Nat).run #[]
  (code, start)

end PatternAction.Regex
