import PatternAction.Regex.Code

/-!
Running the code of a pattern over a text.  All threads move through the text together, in the
order of preference, and no two of them stand at the same instruction, so the time is bounded by
the length of the text times the size of the code.
-/

set_option autoImplicit false
set_option relaxedAutoImplicit false

namespace PatternAction.Regex

/-- The places noted by a thread: where each group starts and ends. -/
abbrev Slots := Array (Option Nat)

/-- A thread: an instruction to go on with, and the places noted so far. -/
structure Thread where
  pc : Nat
  slots : Slots

/-- Where a search stands: the character in front, the text behind, and the count of characters in
front. -/
structure Place where
  before : Option Char
  rest : List Char
  position : Nat

def Place.forward (p : Place) : Place :=
  match p.rest with
  | [] => p
  | c :: cs => ⟨some c, cs, p.position + 1⟩

def Place.skip (p : Place) : Nat → Place
  | 0 => p
  | n + 1 => p.forward.skip n

/-- What a round of threads came to: those that wait for a character, in order, the slots of one
that matched, behind which no thread is kept, and the rounds in which instructions were last
reached. -/
structure Round where
  waiting : List Thread
  matched : Option Slots
  reached : Array Nat

/-- Move threads on without taking characters, until each waits or one matches.  An instruction
that was reached in this round is not entered again. -/
def settle (code : Array Instr) (p : Place) (round : Nat) :
    Nat → List Thread → Array Nat → List Thread → Round
  | 0, _, reached, waiting => ⟨waiting.reverse, none, reached⟩
  | _ + 1, [], reached, waiting => ⟨waiting.reverse, none, reached⟩
  | fuel + 1, t :: ts, reached, waiting =>
    if reached.getD t.pc round = round then settle code p round fuel ts reached waiting
    else
      let reached := reached.setIfInBounds t.pc round
      match code[t.pc]? with
      | none => settle code p round fuel ts reached waiting
      | some (.char _ _) | some (.set _ _) => settle code p round fuel ts reached (t :: waiting)
      | some (.look test next) =>
        if test.holds p.before p.rest.head? then
          settle code p round fuel (⟨next, t.slots⟩ :: ts) reached waiting
        else settle code p round fuel ts reached waiting
      | some (.save slot next) =>
        let slots := t.slots.setIfInBounds slot (some p.position)
        settle code p round fuel (⟨next, slots⟩ :: ts) reached waiting
      | some (.split first second) =>
        settle code p round fuel (⟨first, t.slots⟩ :: ⟨second, t.slots⟩ :: ts) reached waiting
      | some .accept => ⟨waiting.reverse, some t.slots, reached⟩

/-- The thread behind a character, if the instruction it waits at takes that character. -/
def Thread.step? (code : Array Instr) (c : Char) (t : Thread) : Option Thread :=
  match code[t.pc]? with
  | some (.char c' next) => if c = c' then some ⟨next, t.slots⟩ else none
  | some (.set table next) =>
    if Text.CharSet.search table c.toNat then some ⟨next, t.slots⟩ else none
  | _ => none

/-- Code that is ready to run: where it starts, and how many slots its threads have. -/
structure Engine where
  code : Array Instr
  start : Nat
  slots : Nat

namespace Engine

def newThread (e : Engine) : Thread :=
  ⟨e.start, Array.replicate e.slots none⟩

/-- One round at a place.  As long as nothing has matched, a new thread starts here, less preferred
than the older ones; a match made earlier stands unless a preferred thread matches now. -/
def round (e : Engine) (p : Place) (threads : List Thread) (best : Option Slots)
    (reached : Array Nat) : Round :=
  let threads := if best.isNone then threads ++ [e.newThread] else threads
  let r :=
    settle e.code p (p.position + 1) (threads.length + 2 * e.code.size + 1) threads reached []
  ⟨r.waiting, r.matched.or best, r.reached⟩

/-- Run threads through a text, up to its end or until only the match made is left. -/
def run (e : Engine) :
    List Char → Option Char → Nat → List Thread → Option Slots → Array Nat → Option Slots
  | [], before, position, threads, best, reached =>
    (e.round ⟨before, [], position⟩ threads best reached).matched
  | c :: cs, before, position, threads, best, reached =>
    let r := e.round ⟨before, c :: cs, position⟩ threads best reached
    if r.waiting.isEmpty && r.matched.isSome then r.matched
    else run e cs (some c) (position + 1) (r.waiting.filterMap (·.step? e.code c)) r.matched
        r.reached

/-- The leftmost match from a place on, the preferred one of those that start there. -/
def search (e : Engine) (p : Place) : Option Slots :=
  e.run p.rest p.before p.position [] none (Array.replicate e.code.size 0)

end Engine

end PatternAction.Regex
