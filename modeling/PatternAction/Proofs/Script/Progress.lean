import PatternAction.Proofs.Script.LockstepStmt

/-!
Parsing ends.  A parser in lockstep with itself never runs out of fuel, and what it takes lies in
front of the end; so from every place in every sequence of tokens a statement or an expression is
refused or takes at least one token, none of them an end, and a script that is read has been read
up to the first end in the sequence.
-/

set_option autoImplicit false
set_option relaxedAutoImplicit false

namespace PatternAction

open Token (Kind)

namespace Cursor

private theorem alike_self {tokens : List Token} {c : Cursor} (whole : c.toList = complete tokens) :
    c.Alike (fun _ => True) c :=
  ⟨ended_of_toList whole, rfl, fun _ _ => trivial⟩

private theorem toList_goto_ofTokens (tokens : List Token) (n : Nat) :
    ((ofTokens tokens).goto n).toList = complete tokens := by
  rw [toList_goto, toList_ofTokens]

private theorem takeWhile_complete (tokens : List Token) :
    (complete tokens).takeWhile (·.kind ≠ .eof) = tokens.takeWhile (·.kind ≠ .eof) := by
  unfold complete
  split
  · rename_i none
    rw [List.getLast?_eq_none_iff.mp none]
    rfl
  · split
    · rfl
    · rw [List.takeWhile_append]
      split
      · rename_i same
        rw [(List.takeWhile_sublist _).eq_of_length same]
        exact List.append_nil _
      · rfl

private theorem passed_of_first_end {c : Cursor} (front : ∀ t ∈ c.passed, t.kind ≠ .eof)
    (eof : c.current.kind = .eof) :
    c.passed.reverse = c.toList.takeWhile (·.kind ≠ .eof) := by
  have all : ∀ t ∈ c.passed.reverse, decide (t.kind ≠ .eof) = true := by
    intro t mem
    exact decide_eq_true (front t (List.mem_reverse.mp mem))
  rw [toList, List.takeWhile_append_of_pos all, List.takeWhile_cons]
  simp [eof]

end Cursor

namespace Parser

variable {α : Type}

/-- From this place the parser is refused, or it moves forward over at least one token and over no
end. -/
def Progresses (x : Parser α) (c : Cursor) : Prop :=
  (∃ f, x c = .error (.fault f)) ∨
    ∃ a c', x c = .ok (a, c') ∧ c'.toList = c.toList ∧ c.position < c'.position ∧
      ∀ t ∈ c.between c', t.kind ≠ .eof

private theorem progresses_of_outcome {R : α → α → Prop} {among : Token → Prop} {x : Parser α}
    {c : Cursor} (outcome : Outcome among R 1 c (x c) (x c)) : Progresses x c := by
  unfold Progresses
  generalize x c = o at outcome
  cases outcome with
  | fault => exact .inl ⟨_, rfl⟩
  | @ok a _ c' _ _ _ past =>
    obtain ⟨ks, ⟨used, moved, rfl⟩, front, long⟩ := past
    refine .inr ⟨a, c', rfl, moved.toList, ?_, ?_⟩
    · have length : 1 ≤ used.length := by simpa using long
      have position := moved.position
      omega
    · intro t mem eof
      rw [moved.between] at mem
      exact front (List.mem_map.mpr ⟨t, mem, eof⟩)

private theorem progresses_statementAt {c : Cursor} (alike : c.Alike (fun _ => True) c) {fuel : Nat}
    (enough : c.remaining < fuel) : Progresses (statementAt fuel) c :=
  progresses_of_outcome (lockstep_statementAt enough alike (Nat.le_refl _))

private theorem progresses_level {c : Cursor} (alike : c.Alike (fun _ => True) c) {fuel : Nat}
    (enough : exprFuel c ≤ fuel) : Progresses (level fuel .assignment) c := by
  refine progresses_of_outcome (served_level fuel .assignment c.remaining ?_ alike (Nat.le_refl _))
  simp only [exprFuel] at enough
  simp only [Level.rank]
  omega

private theorem items_ok_eof {n : Nat} {p q : Program} {c c' : Cursor}
    (run : items n p c = .ok (q, c')) : c'.current.kind = .eof := by
  induction n generalizing p c with
  | zero => cases run
  | succ n ih =>
    obtain ⟨_, c₁, -, run⟩ := bind_ok run
    obtain ⟨more, c₂, look, run⟩ := bind_ok run
    obtain ⟨rfl, rfl⟩ := pure_ok look
    by_cases more : c₁.more = true
    · rw [if_pos more] at run
      obtain ⟨p', c₃, -, run⟩ := bind_ok run
      exact ih run
    · rw [if_neg more] at run
      obtain ⟨-, rfl⟩ := pure_ok run
      simpa [Cursor.more] using more

end Parser

/-- Parsing ends on every sequence of tokens, wherever its ends stand.  From each place in it a
statement or an expression is refused or moves forward, never over an end; with no fuel to spare
these are `statement` and `expr`, and those inside others are given more.  A sequence is read as a
script only if all that stands in front of its first end has been taken. -/
theorem Program.parsing_ends (tokens : List Token) :
    (∀ n spare, let c := (Cursor.ofTokens tokens).goto n
      Parser.Progresses (Parser.statementAt (c.remaining + 1 + spare)) c ∧
        Parser.Progresses (Parser.level (Parser.exprFuel c + spare) .assignment) c) ∧
    ((∃ f, Program.ofTokens tokens = .error (.fault f)) ∨
      ∃ p c, Parser.program (.ofTokens tokens) = .ok (p, c) ∧ Program.ofTokens tokens = .ok p ∧
        c.toList = Cursor.complete tokens ∧ c.current.kind = .eof ∧
        c.passed.reverse = tokens.takeWhile (·.kind ≠ .eof)) := by
  constructor
  · intro n spare c
    have alike : c.Alike (fun _ => True) c :=
      Cursor.alike_self (Cursor.toList_goto_ofTokens tokens n)
    exact ⟨Parser.progresses_statementAt alike (by omega),
      Parser.progresses_level alike (Nat.le_add_right _ _)⟩
  · have start := Cursor.toList_ofTokens tokens
    have outcome := Parser.lockstep_program (Cursor.alike_self start) (Nat.le_refl _)
    unfold Program.ofTokens
    cases run : Parser.program (.ofTokens tokens) with
    | error halt =>
      rw [run] at outcome
      cases outcome with
      | fault => exact .inl ⟨_, rfl⟩
    | ok result =>
      obtain ⟨p, c⟩ := result
      rw [run] at outcome
      cases outcome with
      | ok _ _ past =>
        obtain ⟨ks, ⟨used, moved, rfl⟩, front, -⟩ := past
        have eof := Parser.items_ok_eof run
        have whole := moved.toList.trans start
        refine .inr ⟨p, c, rfl, rfl, whole, eof, ?_⟩
        have passed : ∀ t ∈ c.passed, t.kind ≠ .eof := by
          intro t mem eof
          rw [moved.passed, Cursor.passed_ofTokens, List.append_nil, List.mem_reverse] at mem
          exact front (List.mem_map.mpr ⟨t, mem, eof⟩)
        rw [Cursor.passed_of_first_end passed eof, whole, Cursor.takeWhile_complete]

end PatternAction
