import PatternAction.Proofs.Run.Compositional

/-!
Everything a script does is put together from the elementary steps on its state.  The main statement
is that the run of a script which asks for allowed steps only is composed of them, and that the
script without its places has a twin run.
-/

set_option autoImplicit false
set_option relaxedAutoImplicit false

namespace PatternAction

variable {α : Type} {allowed : Licence}

variable [Platform]

section Lenient

variable [allowed.Lenient]

private theorem Twin.halt {halt : RunHalt} (plain : halt.isPlain = true) :
    Twin allowed (MonadExcept.throw halt : Run α) (MonadExcept.throw halt.unplaced) :=
  .throw halt (Licence.Lenient.halts halt plain)

private theorem Twin.fail (cause : RunCause) (location : Option Location)
    (lack : ∀ op, cause = .missingOperand op → allowed.MayLack op) :
    Twin allowed (Run.fail cause location : Run α)
      (Run.fail cause (location.map fun _ => .unknown)) := by
  cases cause with
  | missingOperand op => exact .throw _ (lack op rfl location)
  | _ => exact .halt rfl

private theorem Twin.stepwise (reads : ∀ s : Step, s.reads = true → allowed s) :
    Stepwise allowed (Twin allowed) where
  reads := reads
  pure := .pure
  bind := .bind
  withFrame := .withFrame
  step := .step
  fail := .fail
  advance ok := by
    refine .bind (.step .advance? ok) fun outcome => ?_
    cases outcome with
    | ok more => exact .pure _
    | error f => exact .halt rfl

theorem Twin.compositional (reads : ∀ s : Step, s.reads = true → allowed s) :
    Compositional allowed (Twin allowed) :=
  (Twin.stepwise reads).compositional

namespace Program

variable {p : Program}

theorem twin_eval (reads : ∀ s : Step, s.reads = true → allowed s)
    (hp : ∀ f ∈ p.functions, Stmt.AllAsk allowed f.body) (fuel : Nat) {e : Expr}
    (h : e.Asks allowed) : Twin allowed (p.eval fuel e) (p.unplaced.eval fuel e.unplaced) :=
  (Twin.compositional reads).evaluates (.halt rfl) hp fuel h

theorem twin_exec (reads : ∀ s : Step, s.reads = true → allowed s)
    (hp : ∀ f ∈ p.functions, Stmt.AllAsk allowed f.body) (fuel : Nat) {s : Stmt}
    (h : s.Asks allowed) : Twin allowed (p.exec fuel s) (p.unplaced.exec fuel s.unplaced) :=
  (Twin.compositional reads).executes (.halt rfl) hp fuel h

omit [Platform] in
omit [allowed.Lenient] in
private theorem reads_of_free (free : ∀ s : Step, s.binds = false → allowed s) (s : Step)
    (h : s.reads = true) : allowed s := by
  refine free s ?_
  cases s <;> first | rfl | cases h

/-- The run of a script that asks for allowed steps only is composed of them, and it has the run
of the script without places as its twin. -/
theorem twin_run (free : ∀ s : Step, s.binds = false → allowed s) (hp : p.Asks allowed)
    (fuel : Nat) : Twin allowed (p.run fuel) (p.unplaced.run fuel) :=
  (Twin.compositional (reads_of_free free)).runs (.halt rfl) free hp fuel

end Program

end Lenient

/-! ## What any script is composed of -/

private theorem Composed.ite {c : Prop} [Decidable c] {x y : Run α} (hx : Composed allowed x)
    (hy : Composed allowed y) : Composed allowed (if c then x else y) := by
  split
  · exact hx
  · exact hy

theorem Composed.sequence (reads : ∀ s : Step, s.reads = true → allowed s)
    {exec : Stmt → Run Flow} (hexec : ∀ s, Composed allowed (exec s)) (ss : List Stmt) :
    Composed allowed (Eval.sequence exec ss) := by
  induction ss with
  | nil => exact .pure _
  | cons s ss ih =>
    have pending : Composed allowed Run.exitPending :=
      .bind (.step .exitStatus? (reads _ rfl)) fun _ => .pure _
    refine .bind pending fun _ => .ite (.pure _) (.bind (hexec s) fun flow => ?_)
    cases flow with
    | next => exact ih
    | «break» => exact .pure _
    | «continue» => exact .pure _
    | «return» value => exact .pure _

namespace Program

section Full

variable [allowed.Lenient] (full : allowed.Full)
include full

/-- Evaluating an expression of any script is composed of the steps that scripts may ask for. -/
theorem composed_eval_of_full (p : Program) (fuel : Nat) (e : Expr) :
    Composed allowed (p.eval fuel e) :=
  have functions := (p.asks_of_full full).functions
  (twin_eval full.reads functions fuel (e.asks_of_open full.toOpen)).composed

theorem composed_exec_of_full (p : Program) (fuel : Nat) (s : Stmt) :
    Composed allowed (p.exec fuel s) :=
  have functions := (p.asks_of_full full).functions
  (twin_exec full.reads functions fuel (s.asks_of_full full)).composed

end Full

omit [Platform] in
theorem reads_of_script (s : Step) (h : s.reads = true) : Licence.script s :=
  Licence.full_script.reads s h

/-- Evaluating an expression of a script is composed of elementary steps, none of the phases among
them. -/
theorem composed_eval (p : Program) (fuel : Nat) (e : Expr) :
    Composed .script (p.eval fuel e) :=
  p.composed_eval_of_full Licence.full_script fuel e

theorem composed_exec (p : Program) (fuel : Nat) (s : Stmt) :
    Composed .script (p.exec fuel s) :=
  p.composed_exec_of_full Licence.full_script fuel s

theorem composed_run (p : Program) (fuel : Nat) : Composed .any (p.run fuel) :=
  (twin_run (fun _ _ => trivial) (p.asks_of_full Licence.full_any) fuel).composed

end Program

theorem Eval.composed_sequence {exec : Stmt → Run Flow}
    (hexec : ∀ s, Composed .script (exec s)) (ss : List Stmt) :
    Composed .script (sequence exec ss) :=
  .sequence Program.reads_of_script hexec ss

end PatternAction
