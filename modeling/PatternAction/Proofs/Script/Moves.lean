import PatternAction.Proofs.Script.Derivation

/-!
Moves of a cursor.  A cursor is a position in a sequence that never changes: where a move leads can
be told from the tokens and the position alone, and what the cursor shows is what stands there.  No
moves lead out of the sequence, since it closes with an end, over which only going to a position
leads, and that is held back at the last one.
-/

set_option autoImplicit false
set_option relaxedAutoImplicit false

namespace PatternAction

open Token (Kind)

namespace Cursor

/-- What can be done with a cursor.  A position that is saved is gone back to like any other. -/
inductive Move where
  | advance
  | take (kind : Kind)
  | skipSeparators
  | save
  | goto (n : Nat)
deriving DecidableEq, Repr

namespace Move

def apply (c : Cursor) : Move → Cursor
  | .advance => c.advance.2
  | .take kind => (c.take? kind).elim c (·.2)
  | .skipSeparators => c.skipSeparators.2
  | .save => c
  | .goto n => c.goto n

/-- Whether there is a token of such a kind at a position. -/
def isAt (tokens : List Token) (i : Nat) (p : Kind → Bool) : Bool :=
  tokens[i]?.any fun t => p t.kind

/-- The position one token further, unless an end or nothing stands at this one. -/
def next (tokens : List Token) (i : Nat) : Nat :=
  if isAt tokens i (· != .eof) then i + 1 else i

/-- The position behind a move, told from the tokens of the sequence and the position before. -/
def target (tokens : List Token) (i : Nat) : Move → Nat
  | .advance => next tokens i
  | .take kind => if isAt tokens i (·.sameAs kind) then next tokens i else i
  | .skipSeparators => i + ((tokens.drop i).takeWhile (·.kind == .separator)).length
  | .save => i
  | .goto n => min n (tokens.length - 1)

end Move

/-! ## What a cursor shows -/

private theorem position_eq (c : Cursor) : c.position = c.passed.reverse.length :=
  List.length_reverse.symm

private theorem peek?_eq (c : Cursor) (n : Nat) : c.peek? n = c.toList[c.position + n]? := by
  rw [peek?, toList, position_eq, List.getElem?_append_right (Nat.le_add_right _ _),
    Nat.add_sub_cancel_left]

private theorem isAt_position (c : Cursor) (p : Kind → Bool) :
    Move.isAt c.toList c.position p = p c.current.kind := by
  have here : c.toList[c.position]? = some c.current := (c.peek?_eq 0).symm
  rw [Move.isAt, here, Option.any_some]

private theorem drop_position (c : Cursor) : c.toList.drop c.position = c.rest := by
  rw [toList, position_eq, List.drop_left]
  rfl

private theorem length_toList (c : Cursor) : c.toList.length = c.position + c.rest.length := by
  rw [toList, List.length_append, List.length_reverse]
  rfl

private theorem position_lt (c : Cursor) : c.position < c.toList.length := by
  rw [length_toList, Cursor.rest, List.length_cons]
  omega

/-! ## One move -/

private theorem toList_apply (c : Cursor) (m : Move) : (m.apply c).toList = c.toList := by
  cases m with
  | advance => exact toList_advance c
  | take kind =>
    rw [Move.apply, take?]
    split
    · exact toList_advance c
    · rfl
  | skipSeparators => exact toList_skipSeparators c
  | save => rfl
  | goto n => exact toList_goto c n

variable {c : Cursor}

private theorem position_advance (ended : c.Ended) :
    c.advance.2.position = Move.next c.toList c.position := by
  rw [Move.next, isAt_position]
  by_cases eof : c.current.kind = .eof
  · rw [advance_of_eof eof, eof]
    rfl
  · rw [(moved_advance ended eof).position, if_pos (bne_iff_ne.mpr eof)]
    rfl

private theorem position_skipSeparators (ended : c.Ended) :
    c.skipSeparators.2.position =
      c.position + (c.rest.takeWhile (·.kind == .separator)).length := by
  obtain ⟨used, separators, moved⟩ := moved_behindSeparators c.passed c.current c.ahead
  have all : ∀ t ∈ used, (t.kind == .separator) = true := by
    intro t mem
    exact beq_iff_eq.mpr (separators t mem)
  have stop : c.skipSeparators.2.rest.takeWhile (·.kind == .separator) = [] := by
    refine List.takeWhile_cons_of_neg ?_
    rw [beq_iff_eq]
    exact skipSeparators_ne ended
  have rest : c.rest = used ++ c.skipSeparators.2.rest := moved.rest
  rw [rest, List.takeWhile_append_of_pos all, stop, List.append_nil]
  exact moved.position

private theorem position_goto (c : Cursor) (n : Nat) :
    (c.goto n).position = min n (c.toList.length - 1) := by
  have inside := c.position_lt
  simp only [goto]
  split
  · rename_i out
    have short := congrArg List.length out
    simp only [List.length_drop, List.length_nil] at short
    omega
  · rw [position, List.length_reverse, List.length_take]
    omega

private theorem goto_position {d : Cursor} (whole : d.toList = c.toList) :
    d.goto c.position = c := by
  have inside := c.position_lt
  have here : min c.position (c.toList.length - 1) = c.position := by omega
  have passed : c.toList.take c.position = c.passed.reverse := by
    rw [toList, position_eq, List.take_left]
  simp only [goto, whole, here, drop_position, passed, List.reverse_reverse]
  rfl

private theorem position_apply (ended : c.Ended) (m : Move) :
    (m.apply c).position = m.target c.toList c.position := by
  cases m with
  | advance => exact position_advance ended
  | take kind =>
    rw [Move.apply, Move.target, take?, isAt_position, check]
    split
    · exact position_advance ended
    · rfl
  | skipSeparators =>
    rw [Move.target, drop_position]
    exact position_skipSeparators ended
  | save => rfl
  | goto n => exact position_goto c n

/-! ## All moves -/

private theorem complete_begins (tokens : List Token) : tokens <+: complete tokens := by
  unfold complete
  split
  · rename_i none
    rw [List.getLast?_eq_none_iff.mp none]
    exact List.nil_prefix
  · split
    · exact List.prefix_rfl
    · exact List.prefix_append _ _

private theorem run_moves {tokens : List Token} (moves : List Move) (c : Cursor)
    (whole : c.toList = complete tokens) :
    (moves.foldl Move.apply c).toList = complete tokens ∧
      (moves.foldl Move.apply c).position =
        moves.foldl (Move.target (complete tokens)) c.position := by
  -- The tokens are kept whole: only so is the end still there that the next move needs.
  induction moves generalizing c with
  | nil => exact ⟨whole, rfl⟩
  | cons m moves ih =>
    have step := position_apply (ended_of_toList whole) m
    rw [whole] at step
    rw [List.foldl_cons, List.foldl_cons, ← step]
    exact ih (m.apply c) ((toList_apply c m).trans whole)

private theorem more_eq_false_iff (ended : c.Ended)
    (only : ∀ t ∈ c.toList.dropLast, t.kind ≠ .eof) :
    c.more = false ↔ c.position + 1 = c.toList.length := by
  obtain ⟨front, last, split, eof⟩ := ended
  have whole : c.toList = c.passed.reverse ++ (front ++ [last]) := by
    rw [← split]
    rfl
  have sight : c.more = false ↔ c.current.kind = .eof := by simp [more]
  rw [sight, length_toList, split]
  -- Either the end itself is the current token, or the current token is in front of it.
  cases front with
  | nil =>
    obtain ⟨rfl, -⟩ := List.cons.inj split
    simp [eof]
  | cons t front =>
    obtain ⟨rfl, -⟩ := List.cons.inj split
    have inside : c.current ∈ c.toList.dropLast := by
      rw [whole, ← List.append_assoc, List.dropLast_concat]
      simp
    have other := only c.current inside
    simp [other]

/-- Whatever moves are made on a cursor over whatever tokens, the tokens stay what they were when
they were completed, with an end behind them, and the position is where the moves lead by the
tokens alone: below the number of tokens.  So there is always a current token, and what is seen
ahead is what stands there; and once the position is saved, going to it leads back from wherever
further moves have led.  If the last token is the only end, then nothing is left exactly at the
last position, and advancing there answers the end and does not move. -/
theorem moves_stay_inside (tokens : List Token) (moves : List Move) :
    let stream := complete tokens
    let c := moves.foldl Move.apply (ofTokens tokens)
    tokens <+: stream ∧
      (∃ front last, stream = front ++ [last] ∧ last.kind = .eof) ∧
      c.toList = stream ∧
      c.position = moves.foldl (Move.target stream) 0 ∧
      c.position < stream.length ∧
      (∃ t, c.peek? 0 = some t) ∧
      (∀ n, c.peek? n = stream[c.position + n]?) ∧
      (∀ further : List Move, (further.foldl Move.apply c).goto c.position = c) ∧
      ((∀ t ∈ stream.dropLast, t.kind ≠ .eof) →
        (c.more = false ↔ c.position + 1 = stream.length) ∧
          (c.position + 1 = stream.length → c.advance.1.kind = .eof ∧ c.advance.2 = c)) := by
  intro stream c
  have start : (ofTokens tokens).position = 0 := by
    unfold ofTokens
    split <;> rfl
  obtain ⟨whole, position⟩ := run_moves moves (ofTokens tokens) (toList_ofTokens tokens)
  have shows : ∀ n, c.peek? n = stream[c.position + n]? := by
    intro n
    rw [peek?_eq, whole]
  have inside := c.position_lt
  rw [whole] at inside
  have back : ∀ further : List Move, (further.foldl Move.apply c).goto c.position = c := by
    intro further
    exact goto_position ((run_moves further c whole).1.trans whole.symm)
  rw [start] at position
  refine ⟨complete_begins tokens, complete_ends tokens, whole, position, inside, ⟨c.current, rfl⟩,
    shows, back, ?_⟩
  intro only
  have sight := more_eq_false_iff (ended_of_toList whole) (whole.symm ▸ only)
  rw [whole] at sight
  refine ⟨sight, fun last => ?_⟩
  have eof : c.current.kind = .eof := by simpa [more] using sight.mpr last
  exact ⟨eof, advance_of_eof eof⟩

/-- Far behind the end of a word and a separator there is still that end, and it is not passed. -/
theorem moves_stay_inside_beyond :
    let stream := complete [⟨.word "a", ⟨1, 1⟩⟩, ⟨.separator, ⟨1, 2⟩⟩]
    let c := [.take (.word ""), .goto 9, .skipSeparators, .advance].foldl Move.apply
      (ofTokens [⟨.word "a", ⟨1, 1⟩⟩, ⟨.separator, ⟨1, 2⟩⟩])
    (∀ t ∈ stream.dropLast, t.kind ≠ .eof) ∧ c.position = 2 ∧ stream.length = 3 ∧
      c.more = false ∧ c.advance.1.kind = .eof ∧ c.advance.2 = c := by
  intro stream c
  have only : ∀ t ∈ stream.dropLast, t.kind ≠ .eof := by decide
  have last : c.position + 1 = stream.length := by decide
  obtain ⟨-, -, -, -, -, -, -, -, seen⟩ := moves_stay_inside
    [⟨.word "a", ⟨1, 1⟩⟩, ⟨.separator, ⟨1, 2⟩⟩]
    [.take (.word ""), .goto 9, .skipSeparators, .advance]
  obtain ⟨sight, stays⟩ := seen only
  exact ⟨only, by decide, by decide, sight.mpr last, stays last⟩

end Cursor

end PatternAction
