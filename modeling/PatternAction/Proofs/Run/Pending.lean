import PatternAction.Phases

/-!
No statement is started while an exit is pending.  Statements are reached through the sequences they
stand in, in blocks, loops, choices and the bodies of functions alike, and a sequence looks for an
exit before each of its statements.  So it makes no difference to a run what statements would do if
they were started with an exit pending: whatever else they are made to do then is never done.
-/

set_option autoImplicit false
set_option relaxedAutoImplicit false

namespace PatternAction

variable {α : Type}

def Run.unlessExit (other x : Run α) : Run α := fun m =>
  if m.exit?.isSome = true then other m else x m

variable [Platform]

mutual

/-- The value of an expression, where statements do something else once an exit is pending. -/
def Program.evalElse (p : Program) (other : Stmt → Run Flow) : Nat → Expr → Run Value
  | 0 => fun _ => Run.outOfFuel
  | fuel + 1 => Eval.expression p (p.evalElse other fuel) (p.execElse other fuel)

/-- What a statement does, if it does something else once an exit is pending. -/
def Program.execElse (p : Program) (other : Stmt → Run Flow) : Nat → Stmt → Run Flow
  | 0, s => Run.unlessExit (other s) Run.outOfFuel
  | fuel + 1, s => Run.unlessExit (other s)
      (Eval.statement fuel (p.evalElse other fuel) (p.execElse other fuel) s)

end

/-- The phases of a run, from the meaning of expressions and statements. -/
def Program.runOver (p : Program) (eval : Expr → Run Value) (exec : Stmt → Run Flow) : Run Int := do
  Phases.blocks exec p.begins
  Phases.rules eval exec p.rules
  let pending ← Run.takeExit
  Phases.blocks exec p.ends
  return ((← Run.exitStatus?).or pending).getD 0

private theorem Program.run_eq_runOver (p : Program) (fuel : Nat) :
    p.run fuel = p.runOver (p.eval fuel) (p.exec fuel) :=
  rfl

def SameUntilExit (exec exec' : Stmt → Run Flow) : Prop :=
  ∀ s m, m.exit? = none → exec s m = exec' s m

omit [Platform] in
theorem Run.exitPending_bind (f : Bool → Run α) (m : Machine) :
    (Run.exitPending >>= f) m = f m.exit?.isSome m :=
  rfl

namespace Eval

variable {exec exec' : Stmt → Run Flow}

omit [Platform] in
theorem sequence_of_pending {m : Machine} (pending : m.exit? ≠ none) (ss : List Stmt) :
    sequence exec ss m = .ok .next m := by
  cases ss with
  | nil => rfl
  | cons s ss =>
    rw [sequence, Run.exitPending_bind, Option.isSome_iff_ne_none.mpr pending]
    rfl

omit [Platform] in
private theorem sequence_congr (same : SameUntilExit exec exec') :
    sequence exec = sequence exec' := by
  funext ss
  induction ss with
  | nil => rfl
  | cons s ss ih =>
    funext m
    rw [sequence, sequence, Run.exitPending_bind, Run.exitPending_bind, ih]
    cases pending : m.exit? with
    | some status => rfl
    | none =>
      change EStateM.bind (exec s) _ m = EStateM.bind (exec' s) _ m
      simp only [EStateM.bind, same s m pending]

variable (same : sequence exec = sequence exec')
include same

omit [Platform] in
private theorem choose_congr (eval : Expr → Run Value) (arms : List Arm) :
    choose eval exec arms = choose eval exec' arms := by
  induction arms with
  | nil => rfl
  | cons arm arms ih => rw [choose, choose, same, ih]

private theorem statement_congr (fuel : Nat) (eval : Expr → Run Value) (s : Stmt) :
    statement fuel eval exec s = statement fuel eval exec' s := by
  cases s with
  | choice arms l => exact choose_congr same eval arms
  | «while» c body l => rw [statement, statement, same]
  | doWhile body c l => rw [statement, statement, same]
  | «for» init c update body l => rw [statement, statement, same]
  | forIn name array body l => rw [statement, statement, same]
  | «return» value l => cases value <;> rfl
  | delete array indices l => cases indices <;> rfl
  | expr | «break» | «continue» => rfl

private theorem expression_congr (p : Program) (eval : Expr → Run Value) (e : Expr) :
    expression p eval exec e = expression p eval exec' e := by
  have function (f : Function) (args : List Expr) (l : Location) :
      callFunction eval exec f args l = callFunction eval exec' f args l := by
    rw [callFunction, callFunction, same]
  cases e with
  | call name args l =>
    have calls : call p eval exec name args l = call p eval exec' name args l := by
      unfold call
      split
      · rfl
      · split
        · exact function _ args l
        · rfl
    rw [expression, expression, calls]
  | _ => rfl

end Eval

namespace Phases

variable {exec exec' : Stmt → Run Flow} (same : Eval.sequence exec = Eval.sequence exec')
include same

omit [Platform] in
private theorem blocks_congr (bs : List Block) : blocks exec bs = blocks exec' bs := by
  induction bs with
  | nil => rfl
  | cons b bs ih => rw [blocks, blocks, same, ih]

private theorem rounds_congr (eval : Expr → Run Value) (rule : Rule) (count : Nat) :
    rounds eval exec rule count = rounds eval exec' rule count := by
  induction count with
  | zero => rfl
  | succ count ih => rw [rounds, rounds, same, ih]

private theorem rules_congr (eval : Expr → Run Value) (rs : List Rule) :
    rules eval exec rs = rules eval exec' rs := by
  induction rs with
  | nil => rfl
  | cons r rs ih =>
    rw [rules, rules, ih]
    simp only [rounds_congr same]

end Phases

namespace Program

-- Both halves are needed for less fuel, so one induction proves them together.
private theorem evalElse_execElse (p : Program) (other : Stmt → Run Flow) (fuel : Nat) :
    p.evalElse other fuel = p.eval fuel ∧
      Eval.sequence (p.execElse other fuel) = Eval.sequence (p.exec fuel) := by
  have untilExit {fuel : Nat} {x : Stmt → Run Flow}
      (h : ∀ s, p.execElse other fuel s = Run.unlessExit (other s) (x s)) :
      SameUntilExit (p.execElse other fuel) x := by
    intro s m none
    rw [h, Run.unlessExit, none]
    rfl
  induction fuel with
  | zero => exact ⟨rfl, Eval.sequence_congr (untilExit fun _ => rfl)⟩
  | succ fuel ih =>
    obtain ⟨values, sequences⟩ := ih
    constructor
    · funext e
      rw [evalElse, eval, values]
      exact Eval.expression_congr sequences p _ e
    · refine Eval.sequence_congr (untilExit fun s => ?_)
      rw [execElse, exec, values, Eval.statement_congr sequences]

theorem runOver_else (p : Program) (other : Stmt → Run Flow) (fuel : Nat) :
    p.runOver (p.evalElse other fuel) (p.execElse other fuel) = p.run fuel := by
  obtain ⟨values, sequences⟩ := p.evalElse_execElse other fuel
  rw [run_eq_runOver, values]
  unfold runOver
  rw [Phases.blocks_congr sequences, Phases.blocks_congr sequences, Phases.rules_congr sequences]

end Program

end PatternAction
