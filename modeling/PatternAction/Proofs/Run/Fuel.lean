import PatternAction.Proofs.Run.Composed

/-!
More fuel keeps a finished answer.  A run with little fuel may halt for want of it; whatever else it
does, with an answer or with a fault, it does with more fuel as well.  So what an expression
evaluates to can be said without fuel, and it evaluates to one value at most.

The proof compares two runs of one script by way of the script without places, since that is what
the constructs of the language are compared with; faults are therefore the same up to places.
-/

set_option autoImplicit false
set_option relaxedAutoImplicit false

namespace PatternAction

variable {α β : Type}

/-! ## Outcomes up to places -/

namespace Run

theorem unplacedOutcome_eq_ok_iff {r : EStateM.Result RunHalt Machine α} {a : α}
    {m : Machine} : unplacedOutcome r = .ok a m ↔ r = .ok a m := by
  cases r with
  | ok b n => exact Iff.rfl
  | error halt n => exact ⟨nofun, nofun⟩

private theorem unplacedOutcome_eq_aborted_iff {r : EStateM.Result RunHalt Machine α}
    {m : Machine} : unplacedOutcome r = .error .aborted m ↔ r = .error .aborted m := by
  match r with
  | .ok b n => exact ⟨nofun, nofun⟩
  | .error (.fault f) n => exact ⟨nofun, nofun⟩
  | .error .aborted n => exact Iff.rfl
  | .error .outOfFuel n => exact ⟨nofun, nofun⟩

private theorem unplacedOutcome_eq_outOfFuel_iff {r : EStateM.Result RunHalt Machine α}
    {m : Machine} : unplacedOutcome r = .error .outOfFuel m ↔ r = .error .outOfFuel m := by
  match r with
  | .ok b n => exact ⟨nofun, nofun⟩
  | .error (.fault f) n => exact ⟨nofun, nofun⟩
  | .error .aborted n => exact ⟨nofun, nofun⟩
  | .error .outOfFuel n => exact Iff.rfl

private theorem unplacedOutcome_idem (r : EStateM.Result RunHalt Machine α) :
    unplacedOutcome (unplacedOutcome r) = unplacedOutcome r := by
  match r with
  | .ok a m => rfl
  | .error .aborted m => rfl
  | .error .outOfFuel m => rfl
  | .error (.fault (.pattern f)) m => rfl
  | .error (.fault (.failure cause none)) m => rfl
  | .error (.fault (.failure cause (some l))) m => rfl

/-- Whatever the first run comes to, the second one comes to as well, unless the first is out of
fuel. -/
def KeptBy (x y : Run α) : Prop :=
  ∀ m, (∃ m', x m = .error .outOfFuel m') ∨ unplacedOutcome (y m) = unplacedOutcome (x m)

namespace KeptBy

private theorem refl (x : Run α) : x.KeptBy x :=
  fun _ => .inr rfl

private theorem of_outOfFuel (y : Run α) : (Run.outOfFuel : Run α).KeptBy y :=
  fun m => .inl ⟨m, rfl⟩

private theorem trans {x y z : Run α} (hxy : x.KeptBy y) (hyz : y.KeptBy z) : x.KeptBy z := by
  intro m
  rcases hxy m with out | same
  · exact .inl out
  · rcases hyz m with ⟨m', out⟩ | same'
    · rw [out] at same
      exact .inl ⟨m', unplacedOutcome_eq_outOfFuel_iff.mp same.symm⟩
    · exact .inr (same'.trans same)

variable [Platform]

private theorem of_twin {allowed : Licence} {x y : Run α} (h : Twin allowed x y) : x.KeptBy y := by
  intro m
  rw [h.outcome m, unplacedOutcome_idem]
  exact .inr rfl

private theorem of_twin_symm {allowed : Licence} {x y : Run α} (h : Twin allowed x y) :
    y.KeptBy x := by
  intro m
  rw [h.outcome m, unplacedOutcome_idem]
  exact .inr rfl

omit [Platform] in
theorem ok {x y : Run α} (h : x.KeptBy y) {m m' : Machine} {a : α} (done : x m = .ok a m') :
    y m = .ok a m' := by
  rcases h m with ⟨m₁, out⟩ | same
  · rw [done] at out
    cases out
  · rw [done] at same
    exact unplacedOutcome_eq_ok_iff.mp same

omit [Platform] in
private theorem error {x y : Run α} (h : x.KeptBy y) {m m' : Machine} {halt : RunHalt}
    (stopped : x m = .error halt m') (real : halt ≠ .outOfFuel) :
    ∃ halt', y m = .error halt' m' ∧ halt'.unplaced = halt.unplaced := by
  rcases h m with ⟨m₁, out⟩ | same
  · rw [stopped] at out
    injection out with none _
    exact absurd none real
  · rw [stopped] at same
    cases second : y m with
    | ok a m₁ =>
      rw [second] at same
      cases same
    | error halt' m₁ =>
      rw [second] at same
      injection same with faults states
      exact ⟨halt', by rw [states], faults⟩

omit [Platform] in
private theorem bind {x y : Run α} {f g : α → Run β} (hx : x.KeptBy y)
    (hf : ∀ a, (f a).KeptBy (g a)) :
    (x >>= f).KeptBy (y >>= g) := by
  intro m
  cases first : x m with
  | ok a m₁ =>
    rw [bind_ok first, bind_ok (hx.ok first)]
    exact hf a m₁
  | error halt m₁ =>
    rw [bind_error first]
    by_cases out : halt = .outOfFuel
    · exact .inl ⟨m₁, by rw [out]⟩
    · obtain ⟨halt', second, same⟩ := hx.error first out
      rw [bind_error second]
      exact .inr (by rw [unplacedOutcome, unplacedOutcome, same])

omit [Platform] in
private theorem withFrame (frame : Scope) {x y : Run α} (h : x.KeptBy y) :
    (Run.withFrame frame x).KeptBy (Run.withFrame frame y) := by
  intro m
  simp only [Run.withFrame]
  cases inner : x { m with frames := frame :: m.frames } with
  | ok a m₁ =>
    rw [h.ok inner]
    exact .inr rfl
  | error halt m₁ =>
    by_cases out : halt = .outOfFuel
    · exact .inl ⟨_, by rw [out]⟩
    · obtain ⟨halt', inner', same⟩ := h.error inner out
      rw [inner']
      exact .inr (by rw [unplacedOutcome, unplacedOutcome, same])

private theorem stepwise : Stepwise .any KeptBy where
  reads _ _ := trivial
  pure _ := refl _
  bind := bind
  withFrame := withFrame
  step _ _ := refl _
  fail cause l _ := of_twin (.throw (.fault (.failure cause l)) nofun : Twin .any _ _)
  advance _ := refl _

end KeptBy

end Run

variable [Platform]

/-! ## More rounds -/

namespace Eval

open Compositional (either)

private theorem keptBy_loop_succ (test : Run Bool) (body : Run Flow) (update : Run Unit)
    (rounds : Nat) :
    (loop test body update rounds).KeptBy (loop test body update (rounds + 1)) := by
  have c := Run.KeptBy.stepwise.compositional
  induction rounds with
  | zero => exact .of_outOfFuel _
  | succ rounds ih =>
    refine .bind (.refl _) fun _ => either (.refl _) ?_
    refine .bind (.refl _) fun _ => either ?_ (.refl _)
    exact .bind (.refl _) fun flow => c.afterBody (.bind (.refl _) fun _ => ih) flow

private theorem keptBy_statement_succ (rounds : Nat) (eval : Expr → Run Value)
    (exec : Stmt → Run Flow) (s : Stmt) :
    (statement rounds eval exec s).KeptBy (statement (rounds + 1) eval exec s) := by
  have c := Run.KeptBy.stepwise.compositional
  cases s with
  | «while» e b l => exact keptBy_loop_succ _ _ _ rounds
  | doWhile b e l =>
    exact .bind (.refl _) fun flow => c.afterBody (keptBy_loop_succ _ _ _ rounds) flow
  | «for» init e update b l => exact .bind (.refl _) fun _ => keptBy_loop_succ _ _ _ rounds
  | «return» value l => cases value <;> exact .refl _
  | delete array indices l => cases indices <;> exact .refl _
  | expr | choice | forIn | «break» | «continue» => exact .refl _

private theorem keptBy_statement_of_le {rounds more : Nat} (le : rounds ≤ more)
    (eval : Expr → Run Value) (exec : Stmt → Run Flow) (s : Stmt) :
    (statement rounds eval exec s).KeptBy (statement more eval exec s) := by
  induction le with
  | refl => exact .refl _
  | @step more _ ih => exact ih.trans (keptBy_statement_succ more eval exec s)

end Eval

/-! ## More fuel -/

namespace Program

variable (p : Program)

private theorem twin_eval_any (fuel : Nat) (e : Expr) :
    Twin .any (p.eval fuel e) (p.unplaced.eval fuel e.unplaced) :=
  twin_eval (fun _ _ => trivial) (p.asks_of_full Licence.full_any).functions fuel
    (e.asks_of_open Licence.full_any.toOpen)

private theorem twin_exec_any (fuel : Nat) (s : Stmt) :
    Twin .any (p.exec fuel s) (p.unplaced.exec fuel s.unplaced) :=
  twin_exec (fun _ _ => trivial) (p.asks_of_full Licence.full_any).functions fuel
    (s.asks_of_full Licence.full_any)

section Deeper

variable {p} {fuel more : Nat} (heval : ∀ e, (p.eval fuel e).KeptBy (p.eval more e))
  (hexec : ∀ s, (p.exec fuel s).KeptBy (p.exec more s))
include heval hexec

private theorem keptBy_expression (e : Expr) :
    (Eval.expression p (p.eval fuel) (p.exec fuel) e).KeptBy
      (Eval.expression p (p.eval more) (p.exec more) e) := by
  -- There through the constructs, which lead to the script without places; back as twins.
  have own : e.Own .any := (e.asks_of_open Licence.full_any.toOpen).own
  have there := Run.KeptBy.stepwise.compositional.expression (p := p) own
    (fun part _ => (heval part).trans (.of_twin (p.twin_eval_any more part)))
    fun s _ => (hexec s).trans (.of_twin (p.twin_exec_any more s))
  exact there.trans (.of_twin_symm (p.twin_eval_any (more + 1) e))

private theorem keptBy_statement (rounds : Nat) (s : Stmt) :
    (Eval.statement rounds (p.eval fuel) (p.exec fuel) s).KeptBy
      (Eval.statement rounds (p.eval more) (p.exec more) s) := by
  have own : s.Own .any := (s.asks_of_full Licence.full_any).own
  have there := Run.KeptBy.stepwise.compositional.statement rounds own (fun _ => .refl _)
    (fun e _ => (heval e).trans (.of_twin (p.twin_eval_any more e)))
    fun t _ => (hexec t).trans (.of_twin (p.twin_exec_any more t))
  have back : Twin .any (Eval.statement rounds (p.eval more) (p.exec more) s)
      (Eval.statement rounds (p.unplaced.eval more) (p.unplaced.exec more) s.unplaced) :=
    (Twin.compositional fun _ _ => trivial).statement rounds own (fun _ => .throw _ nofun)
      (fun e _ => p.twin_eval_any more e) fun t _ => p.twin_exec_any more t
  exact there.trans (.of_twin_symm back)

end Deeper

-- Expressions and statements call each other only with less fuel, so one induction does for both.
private theorem keptBy_succ (fuel : Nat) :
    (∀ e, (p.eval fuel e).KeptBy (p.eval (fuel + 1) e)) ∧
      ∀ s, (p.exec fuel s).KeptBy (p.exec (fuel + 1) s) := by
  induction fuel with
  | zero => exact ⟨fun _ => .of_outOfFuel _, fun _ => .of_outOfFuel _⟩
  | succ fuel ih =>
    refine ⟨fun e => keptBy_expression ih.1 ih.2 e, fun s => ?_⟩
    exact (keptBy_statement ih.1 ih.2 fuel s).trans (Eval.keptBy_statement_succ fuel _ _ s)

theorem keptBy_eval {fuel more : Nat} (le : fuel ≤ more) (e : Expr) :
    (p.eval fuel e).KeptBy (p.eval more e) := by
  induction le with
  | refl => exact .refl _
  | @step more _ ih => exact ih.trans ((p.keptBy_succ more).1 e)

private theorem keptBy_exec {fuel more : Nat} (le : fuel ≤ more) (s : Stmt) :
    (p.exec fuel s).KeptBy (p.exec more s) := by
  induction le with
  | refl => exact .refl _
  | @step more _ ih => exact ih.trans ((p.keptBy_succ more).2 s)

private theorem keptBy_run {fuel more : Nat} (le : fuel ≤ more) :
    (p.run fuel).KeptBy (p.run more) := by
  have there : (p.run fuel).KeptBy (p.unplaced.run more) :=
    Run.KeptBy.stepwise.compositional.run (fun _ _ => trivial)
      (fun s _ => (p.keptBy_exec le s).trans (.of_twin (p.twin_exec_any more s)))
      fun _ _ e _ => (p.keptBy_eval le e).trans (.of_twin (p.twin_eval_any more e))
  have back : Twin .any (p.run more) (p.unplaced.run more) :=
    twin_run (fun _ _ => trivial) (p.asks_of_full Licence.full_any) more
  exact there.trans (.of_twin_symm back)

/-- Where a script is aborted, it is aborted with any other fuel too, or runs out of it. -/
theorem aborted_of_aborted {fuel : Nat} {start m : Machine}
    (aborted : p.run fuel start = .error .aborted m) (other : Nat) :
    (∃ m', p.run other start = .error .outOfFuel m') ∨ p.run other start = .error .aborted m := by
  rcases Nat.le_total other fuel with less | more
  · refine (p.keptBy_run less start).imp_right fun same => ?_
    rw [aborted] at same
    exact Run.unplacedOutcome_eq_aborted_iff.mp same.symm
  · rcases p.keptBy_run more start with ⟨m', out⟩ | same
    · cases aborted.symm.trans out
    · rw [aborted] at same
      exact .inr (Run.unplacedOutcome_eq_aborted_iff.mp same)

/-- The bound on the rounds of a loop and the fuel for what happens in them may grow apart, until a
statement of the script is reached. -/
theorem keptBy_exec_of_statement {rounds fuel more : Nat} (hrounds : rounds < more)
    (hfuel : fuel < more) (s : Stmt) :
    (Eval.statement rounds (p.eval fuel) (p.exec fuel) s).KeptBy (p.exec more s) := by
  obtain ⟨less, rfl⟩ : ∃ less, more = less + 1 := ⟨more - 1, by omega⟩
  have le : fuel ≤ less := by omega
  have deeper := keptBy_statement (p.keptBy_eval le) (p.keptBy_exec le) rounds s
  exact deeper.trans (Eval.keptBy_statement_of_le (by omega) _ _ s)

/-! ## Values without fuel -/

/-- An expression comes to a scalar, and leaves a state. -/
def Yields (e : Expr) (m : Machine) (s : Scalar) (m' : Machine) : Prop :=
  ∃ fuel, p.eval fuel e m = .ok (.scalar s) m'

variable {p} in
theorem Yields.unique {e : Expr} {m m₁ m₂ : Machine} {s₁ s₂ : Scalar} (h₁ : p.Yields e m s₁ m₁)
    (h₂ : p.Yields e m s₂ m₂) : s₁ = s₂ ∧ m₁ = m₂ := by
  obtain ⟨fuel₁, first⟩ := h₁
  obtain ⟨fuel₂, second⟩ := h₂
  have first' := (p.keptBy_eval (Nat.le_max_left fuel₁ fuel₂) e).ok first
  have second' := (p.keptBy_eval (Nat.le_max_right fuel₁ fuel₂) e).ok second
  rw [first'] at second'
  injection second' with values states
  injection values with scalars
  exact ⟨scalars, states⟩

end Program

end PatternAction
