import PatternAction.Token

/-!
A place in a sequence of tokens.  The tokens themselves never change: every operation only moves
the place, and `toList` gives them back.
-/

set_option autoImplicit false
set_option relaxedAutoImplicit false

namespace PatternAction

/-- A sequence of tokens seen from one of them. -/
structure Cursor where
  /-- The tokens in front of the place, the nearest first. -/
  passed : List Token
  current : Token
  ahead : List Token
deriving DecidableEq, Repr

namespace Cursor

/-- The sequence ended by `eof`, which is added where it is missing. -/
def complete (tokens : List Token) : List Token :=
  match tokens.getLast? with
  | none => [⟨.eof, .unknown⟩]
  | some last => if last.kind = .eof then tokens else tokens ++ [⟨.eof, last.location⟩]

def ofTokens (tokens : List Token) : Cursor :=
  match complete tokens with
  | [] => ⟨[], ⟨.eof, .unknown⟩, []⟩
  | t :: ts => ⟨[], t, ts⟩

def toList (c : Cursor) : List Token :=
  c.passed.reverse ++ c.current :: c.ahead

def position (c : Cursor) : Nat :=
  c.passed.length

def remaining (c : Cursor) : Nat :=
  c.ahead.length + 1

def peek? (c : Cursor) (n : Nat) : Option Token :=
  (c.current :: c.ahead)[n]?

/-- Whether the current token is of this kind, whatever text it carries. -/
def check (c : Cursor) (kind : Token.Kind) : Bool :=
  c.current.kind.sameAs kind

def more (c : Cursor) : Bool :=
  c.current.kind != .eof

def forward (c : Cursor) : Cursor :=
  match c.ahead with
  | [] => c
  | t :: ts => ⟨c.current :: c.passed, t, ts⟩

/-- The current token, and the place behind it; `eof` is never passed. -/
def advance (c : Cursor) : Token × Cursor :=
  (c.current, if c.more then c.forward else c)

def take? (c : Cursor) (kind : Token.Kind) : Option (Token × Cursor) :=
  if c.check kind then some c.advance else none

def behindSeparators (passed : List Token) (current : Token) : List Token → Cursor
  | [] => ⟨passed, current, []⟩
  | t :: ts =>
    if current.kind = .separator then behindSeparators (current :: passed) t ts
    else ⟨passed, current, t :: ts⟩

def skipSeparators (c : Cursor) : Bool × Cursor :=
  (c.check .separator, behindSeparators c.passed c.current c.ahead)

def location (c : Cursor) : Location :=
  c.current.location

/-- The place with `n` tokens in front, or the last one if there are not so many. -/
def goto (c : Cursor) (n : Nat) : Cursor :=
  let i := min n (c.toList.length - 1)
  match c.toList.drop i with
  | [] => c
  | t :: ts => ⟨(c.toList.take i).reverse, t, ts⟩

theorem toList_forward (c : Cursor) : c.forward.toList = c.toList := by
  unfold forward
  split <;> simp_all [toList]

theorem toList_advance (c : Cursor) : c.advance.2.toList = c.toList := by
  simp only [advance]
  split
  · exact toList_forward c
  · rfl

theorem toList_behindSeparators (passed : List Token) (current : Token) (ahead : List Token) :
    (behindSeparators passed current ahead).toList = passed.reverse ++ current :: ahead := by
  induction ahead generalizing passed current with
  | nil => rfl
  | cons t ts ih =>
    simp only [behindSeparators]
    split
    · simp [ih]
    · rfl

theorem toList_skipSeparators (c : Cursor) : c.skipSeparators.2.toList = c.toList :=
  toList_behindSeparators c.passed c.current c.ahead

theorem toList_goto (c : Cursor) (n : Nat) : (c.goto n).toList = c.toList := by
  simp only [goto]
  split
  · rfl
  · rename_i t ts h
    simp only [toList, List.reverse_reverse]
    rw [← h]
    exact List.take_append_drop _ _

end Cursor

end PatternAction
