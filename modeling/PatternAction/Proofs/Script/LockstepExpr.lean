import PatternAction.Proofs.Script.Lockstep

/-!
Expressions in lockstep.  A level that is tried at the place where another was tried is tighter
than it, and there are fewer than sixteen levels; so fuel of sixteen for each token left, and one
for each level down to the tightest, is enough.
-/

set_option autoImplicit false
set_option relaxedAutoImplicit false

namespace PatternAction

open Token (Kind)

private theorem Chain.rank_operand (c : Chain) : c.operand.rank + 1 = (Level.chain c).rank := by
  rw [Grammar.operand_eq_tighter, Level.rank_tighter (by simp)]

private theorem Chain.isBinary_of_operator? {c : Chain} {k : Kind} {op : Operator}
    (h : c.operator? k = some op) : op.isBinary = true := by
  obtain ⟨mem, -⟩ := Grammar.operator?_mem h
  have all : ∀ q ∈ Grammar.operators c, q.2.isBinary = true := by
    cases c <;> decide
  exact all _ mem

namespace Parser

variable {among : Token → Prop}

/-- The parsers of all levels are in lockstep wherever the fuel is enough. -/
def Served (among : Token → Prop) (sub : Level → Parser Expr) (fuel : Nat) : Prop :=
  ∀ l room, 16 * room + l.rank < fuel → Lockstep among room 1 (Expr.Alike among) (sub l) (sub l)

private theorem Served.later {sub : Level → Parser Expr} {fuel room r : Nat}
    (served : Served among sub fuel) (fits : 16 * room ≤ fuel) (le : r + 1 ≤ room) (l : Level) :
    Lockstep among r 1 (Expr.Alike among) (sub l) (sub l) := by
  have rank := l.rank_le
  exact served l r (by omega)

/-! ## Levels with operators -/

section Levels

variable {sub : Level → Parser Expr} {fuel room : Nat} (served : Served among sub fuel)

include served in
private theorem lockstep_assignment (fits : 16 * room + 12 ≤ fuel) :
    Lockstep among room 1 (Expr.Alike among) (assignment sub) (assignment sub) := by
  refine (served .ternary room (by simp only [Level.rank]; omega)).bind
    fun target target' r htarget le => ?_
  refine Lockstep.location.andThen fun l l' hl => Lockstep.kind.andThen ?_
  rintro k _ rfl
  cases form : assignForm? k with
  | none => exact .pure htarget
  | some form =>
    have value := served.later (by omega) le .assignment
    refine Lockstep.advance.andThen fun _ _ _ => value.required.slack.andThen fun _ _ hvalue => ?_
    rcases Grammar.assignForm?_cases ‹_› with ⟨rfl, -⟩ | ⟨sign, op, rfl, -, mem⟩
    · refine .pure ⟨?_, .assign htarget.holds hvalue.holds hl⟩
      simp only [Expr.unplaced, htarget.same, hvalue.same]
    · have op_mem := List.mem_map_of_mem (f := Prod.snd) mem
      refine .pure ⟨?_, .compound op_mem htarget.holds hvalue.holds hl⟩
      simp only [Expr.unplaced, htarget.same, hvalue.same]

include served in
private theorem lockstep_ternary (fits : 16 * room + 11 ≤ fuel) :
    Lockstep among room 1 (Expr.Alike among) (ternary sub) (ternary sub) := by
  refine (served (.chain .or) room (by simp only [Level.rank]; omega)).bind
    fun _ _ r hcondition le => ?_
  have arm := (served.later (by omega) le .ternary).required.slack
  refine Lockstep.location.andThen fun l l' hl => ?_
  refine .ifSymbol .question (fun r' le' => ?_) (.pure hcondition)
  refine .narrow ?_ (Nat.le_of_succ_le le')
  refine arm.andThen fun _ _ htrue => ?_
  refine (Lockstep.expectSymbol .colon .colonExpected).andThen fun _ _ _ => ?_
  refine arm.andThen fun _ _ hfalse => .pure ⟨?_, ?_⟩
  · simp only [Expr.unplaced, hcondition.same, htrue.same, hfalse.same]
  · exact .ternary hcondition.holds htrue.holds hfalse.holds hl

private theorem lockstep_chainTail (c : Chain) {operand : Parser Expr} {n : Nat}
    (h : Lockstep among room 1 (Expr.Alike among) operand operand) (enough : room < n)
    {left left' : Expr} (hleft : Expr.Alike among left left') :
    Lockstep among room 0 (Expr.Alike among) (chainTail c.operator? operand n left)
      (chainTail c.operator? operand n left') := by
  induction n generalizing room left left' with
  | zero => omega
  | succ n ih =>
    refine Lockstep.kind.andThen ?_
    rintro k _ rfl
    cases operator : c.operator? k with
    | none => exact .pure hleft
    | some op =>
      refine Lockstep.location.andThen fun l l' hl => Lockstep.advance.andThen fun _ _ _ => ?_
      refine h.required.within fun _ _ r hright le => ?_
      refine ih (h.narrow (by omega)) (by omega) ⟨?_, ?_⟩
      · simp only [Expr.unplaced, hleft.same, hright.same]
      · exact .binary (Chain.isBinary_of_operator? operator) hleft.holds hright.holds hl

include served in
private theorem lockstep_chain (c : Chain) (fits : 16 * room + (Level.chain c).rank ≤ fuel) :
    Lockstep among room 1 (Expr.Alike among) (atLevel sub fuel (.chain c))
      (atLevel sub fuel (.chain c)) := by
  have rank := c.rank_operand
  have operand := served c.operand room (by omega)
  refine operand.bind fun _ _ r hleft le => ?_
  exact lockstep_chainTail c (operand.narrow (by omega)) (by omega) hleft

include served in
private theorem lockstep_concatenation (fits : 16 * room + 5 ≤ fuel) :
    Lockstep among room 1 (Expr.Alike among) (concatenation sub) (concatenation sub) := by
  refine (served (.chain .additive) room (by simp only [Level.rank]; omega)).bind
    fun _ _ r hleft le => ?_
  refine Lockstep.kind.andThen ?_
  rintro k _ rfl
  refine .ite (Lockstep.location.andThen fun l l' hl => ?_) (.pure hleft)
  have right := served.later (by omega) le .concatenation
  refine right.slack.andThen fun _ _ hright => .pure ⟨?_, ?_⟩
  · simp only [Expr.unplaced, hleft.same, hright.same]
  · exact .binary rfl hleft.holds hright.holds hl

include served in
private theorem lockstep_exponent (fits : 16 * room + 2 ≤ fuel) :
    Lockstep among room 1 (Expr.Alike among) (exponent sub) (exponent sub) := by
  refine (served .step room (by simp only [Level.rank]; omega)).bind fun _ _ r hleft le => ?_
  refine Lockstep.location.andThen fun l l' hl => ?_
  refine .ifSymbol .caret (fun r' le' => ?_) (.pure hleft)
  have right := (served.later (by omega) le .exponent).narrow (Nat.le_of_succ_le le')
  refine right.required.slack.andThen fun _ _ hright => .pure ⟨?_, ?_⟩
  · simp only [Expr.unplaced, hleft.same, hright.same]
  · exact .binary rfl hleft.holds hright.holds hl

include served in
private theorem lockstep_step (fits : 16 * room + 1 ≤ fuel) :
    Lockstep among room 1 (Expr.Alike among) (step sub) (step sub) := by
  refine (served .primary room (by simp only [Level.rank]; omega)).bind fun _ _ r hoperand le => ?_
  refine Lockstep.location.andThen fun l l' hl => Lockstep.kind.andThen ?_
  rintro k _ rfl
  cases trailing : trailingStep? k with
  | none => exact .pure hoperand
  | some op =>
    obtain ⟨sign, -, mem⟩ := Grammar.trailingStep?_mem trailing
    have all : ∀ q ∈ Grammar.trailingSteps,
        q.2 ∈ [Operator.preInc, .preDec, .postInc, .postDec] := by
      decide
    refine Lockstep.advance.andThen fun _ _ _ => .pure ⟨?_, .stepBy (all _ mem) hoperand.holds hl⟩
    simp only [Expr.unplaced, Expr.stepBy, hoperand.same]

end Levels

/-! ## Arguments -/

section Arguments

variable {sub : Level → Parser Expr} {fuel room : Nat}
variable (hsub : ∀ l, Lockstep among room 1 (Expr.Alike among) (sub l) (sub l))
include hsub

private theorem lockstep_callArgs (enough : room < fuel) :
    Lockstep among room 0 (Alike.Listed Expr.unplaced (Expr.Built among)) (callArgs sub fuel)
      (callArgs sub fuel) := by
  refine Lockstep.advance.andThen fun _ _ _ => ?_
  refine .ifSymbol .rightParen (fun _ _ => .pure .nil) ?_
  refine (hsub .assignment).slack.andThen fun _ _ hfirst => ?_
  have next := Lockstep.skipSeparators.andThen fun _ _ _ => hsub .assignment
  refine (Lockstep.commaTail next enough).andThen fun _ _ hrest => ?_
  exact (Lockstep.expectSymbol .rightParen .closeParenExpected).andThen fun _ _ _ =>
    .pure (.cons hfirst hrest)

private theorem lockstep_bareArgs (enough : room < fuel) :
    Lockstep among room 0 (Alike.Listed Expr.unplaced (Expr.Built among)) (bareArgs sub fuel)
      (bareArgs sub fuel) := by
  refine Lockstep.kind.andThen ?_
  rintro k _ rfl
  refine .ite (.pure .nil) ((hsub .assignment).slack.andThen fun _ _ hfirst => ?_)
  refine (Lockstep.commaTail (hsub .assignment).required enough).andThen fun _ _ hrest => ?_
  exact .pure (.cons hfirst hrest)

private theorem lockstep_printArgs (enough : room < fuel) :
    Lockstep among room 0 (Alike.Listed Expr.unplaced (Expr.Built among)) (printArgs sub fuel)
      (printArgs sub fuel) := by
  have bare := lockstep_bareArgs hsub enough
  refine (Lockstep.atSymbol .leftParen).test ?_ bare
  refine (lockstep_callArgs hsub enough).wholeStatement?.andThen fun args? args?' hargs => ?_
  cases hargs with
  | none => exact bare
  | some hargs => exact .pure hargs

end Arguments

/-! ## Operands -/

section Operands

variable {sub : Level → Parser Expr} {fuel room : Nat} {l l' : Location}

private theorem lockstep_literal {e : Expr} (he : Expr.Alike among e e) :
    LockstepInFront among room 1 (Expr.Alike among) (do advance; return e)
      (do advance; return e) :=
  .advance fun _ _ => .pure he

variable (later : ∀ r, r + 1 ≤ room → ∀ l,
  Lockstep among r 1 (Expr.Alike among) (sub l) (sub l))
include later

private theorem lockstep_group :
    LockstepInFront among room 1 (Expr.Alike among)
      (do
        advance
        let inner ← sub .assignment
        expectSymbol .rightParen .closeParenExpected
        return inner)
      (do
        advance
        let inner ← sub .assignment
        expectSymbol .rightParen .closeParenExpected
        return inner) := by
  refine .advance fun r le => (later r le .assignment).slack.andThen fun _ _ hinner => ?_
  exact (Lockstep.expectSymbol .rightParen .closeParenExpected).andThen fun _ _ _ => .pure hinner

variable (hl : Placed among l)
include hl

private theorem lockstep_leading {op : Operator} (mem : op ∈ [.not, .unaryNeg, .unaryPos, .dollar])
    (level : Level) :
    LockstepInFront among room 1 (Expr.Alike among) (leading op (sub level) l)
      (leading op (sub level) l') := by
  refine .advance fun r le => (later r le level).required.slack.andThen fun _ _ he => ?_
  refine .pure ⟨?_, .unary mem he.holds hl⟩
  simp only [Expr.unplaced, he.same]

private theorem lockstep_leadingStep {op : Operator}
    (mem : op ∈ [.preInc, .preDec, .postInc, .postDec]) (level : Level) :
    LockstepInFront among room 1 (Expr.Alike among) (leadingStep op (sub level) l)
      (leadingStep op (sub level) l') := by
  refine .advance fun r le => (later r le level).required.slack.andThen fun _ _ he => ?_
  refine .pure ⟨?_, .stepBy mem he.holds hl⟩
  simp only [Expr.unplaced, Expr.stepBy, he.same]

variable (enough : room ≤ fuel)
include enough

private theorem lockstep_printCall (k : Keyword) :
    LockstepInFront among room 1 (Expr.Alike among)
      (do advance; return .call k.spelling (← printArgs sub fuel) l)
      (do advance; return .call k.spelling (← printArgs sub fuel) l') := by
  refine .advance fun r le => ?_
  refine (lockstep_printArgs (later r le) (by omega)).andThen fun _ _ hargs => ?_
  exact .pure (Expr.alike_call (.inr ⟨k, rfl⟩) hargs hl)

private theorem lockstep_keywordCall (k : Keyword) :
    LockstepInFront among room 1 (Expr.Alike among) (keywordCall k.spelling sub fuel l)
      (keywordCall k.spelling sub fuel l') := by
  refine .advance fun r le => (Lockstep.atSymbol .leftParen).test ?_ ?_
  · refine (lockstep_callArgs (later r le) (by omega)).andThen fun _ _ hargs => ?_
    exact .pure (Expr.alike_call (.inr ⟨k, rfl⟩) hargs hl)
  · exact .pure (Expr.alike_call (.inr ⟨k, rfl⟩) .nil hl)

private theorem lockstep_exitCall :
    LockstepInFront among room 1 (Expr.Alike among) (exitCall sub fuel l)
      (exitCall sub fuel l') := by
  refine .advance fun r le => (Lockstep.atSymbol .leftParen).test ?_ ?_
  · refine (lockstep_callArgs (later r le) (by omega)).andThen fun _ _ hargs => ?_
    exact .pure (Expr.alike_call (.inr ⟨.exit, rfl⟩) hargs hl)
  · refine Lockstep.atExpression.test ?_ (.pure (Expr.alike_call (.inr ⟨.exit, rfl⟩) .nil hl))
    refine (later r le .assignment).slack.andThen fun _ _ hstatus => ?_
    exact .pure (Expr.alike_call (.inr ⟨.exit, rfl⟩) (.cons hstatus .nil) hl)

private theorem lockstep_name {text : String} (hname : Worded among text) :
    LockstepInFront among room 1 (Expr.Alike among) (name text sub fuel l)
      (name text sub fuel l') := by
  refine .advance fun r le => (Lockstep.atSymbol .leftParen).test ?_ (.ifSymbol .leftBracket ?_ ?_)
  · refine (lockstep_callArgs (later r le) (by omega)).andThen fun _ _ hargs => ?_
    exact .pure (Expr.alike_call (.inl hname) hargs hl)
  · intro r' le'
    have index := (later r le .assignment).narrow (Nat.le_of_succ_le le')
    refine index.slack.andThen fun _ _ hindex => ?_
    refine (Lockstep.expectSymbol .rightBracket .closeBracketExpected).andThen fun _ _ _ => ?_
    refine .pure ⟨?_, .elem hname hindex.holds hl⟩
    simp only [Expr.unplaced, hindex.same]
  · exact .pure ⟨rfl, .var hname hl⟩

end Operands

private theorem lockstep_primary {sub : Level → Parser Expr} {fuel room : Nat}
    (served : Served among sub fuel) (fits : 16 * room ≤ fuel) :
    Lockstep among room 1 (Expr.Alike among) (primary sub fuel) (primary sub fuel) := by
  intro c d alike small
  have later (r : Nat) (le : r + 1 ≤ room) := served.later fits le
  have hl : Placed among c.location := ⟨c.current, alike.current, rfl⟩
  have enough : room ≤ fuel := by omega
  rw [primary, location_bind, location_bind, kind_bind, kind_bind, ← alike.kind]
  generalize kind : c.current.kind = k
  split
  · exact lockstep_literal ⟨rfl, .const _⟩ alike small (by simp [kind])
  · exact lockstep_literal ⟨rfl, .const _⟩ alike small (by simp [kind])
  · exact lockstep_literal ⟨rfl, .pattern _⟩ alike small (by simp [kind])
  · exact lockstep_name later hl enough ⟨c.current, alike.current, kind⟩ alike small
      (by simp [kind])
  · exact lockstep_group later alike small (by simp [kind])
  · exact lockstep_leading later hl (by decide) .exponent alike small (by simp [kind])
  · exact lockstep_leading later hl (by decide) .exponent alike small (by simp [kind])
  · exact lockstep_leading later hl (by decide) .exponent alike small (by simp [kind])
  · exact lockstep_leading later hl (by decide) .primary alike small (by simp [kind])
  · exact lockstep_leadingStep later hl (by decide) .primary alike small (by simp [kind])
  · exact lockstep_leadingStep later hl (by decide) .primary alike small (by simp [kind])
  · exact lockstep_printCall later hl enough .print alike small (by simp [kind])
  · exact lockstep_printCall later hl enough .printf alike small (by simp [kind])
  · exact lockstep_keywordCall later hl enough .getline alike small (by simp [kind])
  · exact lockstep_keywordCall later hl enough .next alike small (by simp [kind])
  · exact lockstep_keywordCall later hl enough .nextfile alike small (by simp [kind])
  · exact lockstep_exitCall later hl enough alike small (by simp [kind])
  · exact Lockstep.fail _ alike small

theorem served_level (n : Nat) : Served among (level n) n := by
  induction n with
  | zero => intro l room fits; omega
  | succ n ih =>
    intro l room fits
    cases l with
    | assignment => exact lockstep_assignment ih (Nat.le_of_lt_succ fits)
    | ternary => exact lockstep_ternary ih (Nat.le_of_lt_succ fits)
    | chain c => exact lockstep_chain ih c (Nat.le_of_lt_succ fits)
    | concatenation => exact lockstep_concatenation ih (Nat.le_of_lt_succ fits)
    | exponent => exact lockstep_exponent ih (Nat.le_of_lt_succ fits)
    | step => exact lockstep_step ih (Nat.le_of_lt_succ fits)
    | primary => exact lockstep_primary ih (Nat.le_of_lt_succ fits)

theorem lockstep_expr (room : Nat) : Lockstep among room 1 (Expr.Alike among) expr expr := by
  refine .sized (x := fun n => level (16 * (n + 1)) .assignment)
    (y := fun n => level (16 * (n + 1)) .assignment) fun n => ?_
  refine served_level _ .assignment n ?_
  simp only [Level.rank]
  omega

end Parser

end PatternAction
