import Mathlib.Logic.Relation
import PatternAction.Proofs.Run.Fuel
import PatternAction.Proofs.Run.Pending
import PatternAction.Proofs.Run.Trace
import PatternAction.Script.Source
import PatternAction.Standard

/-!
A loop is over once its body has left an exit pending.  Whole rounds lead a loop from state to
state, and in each of them its body is entered.  Where the body leaves an exit pending, the loop
ends with the state that the body left: neither its condition nor its body is evaluated again.

The update of a `for` is the exception.  It stands between the body and the next look for an exit,
so it is evaluated once more; of a body that goes on all this holds if there is no update behind it.
-/

set_option autoImplicit false
set_option relaxedAutoImplicit false

namespace PatternAction

open Relation (ReflTransGen)

/-- Whether a loop whose body ended in this way goes on with the next round. -/
def Flow.goesOn : Flow → Bool
  | .next | .continue => true
  | .break | .return _ => false

/-- How a run goes on behind a loop that is over, from how it went on behind its body. -/
def Flow.behindLoop : Flow → Flow
  | .next | .continue | .break => .next
  | .return value => .return value

namespace Eval

private theorem afterBody_of_goesOn {flow : Flow} (on : flow.goesOn = true) (rest : Run Flow) :
    afterBody rest flow = rest := by
  cases flow with
  | next | «continue» => rfl
  | «break» | «return» => cases on

/-! ## Loops with a test -/

section Loop

variable (test : Run Bool) (body : Run Flow) (update : Run Unit)

def WholeRound (m m' : Machine) : Prop :=
  m.exit? = none ∧ ∃ n flow n', test m = .ok true n ∧ body n = .ok flow n' ∧ flow.goesOn = true ∧
    update n' = .ok () m'

/-- After some rounds the body is entered. -/
def ReachesBody (m n : Machine) : Prop :=
  ∃ m', ReflTransGen (WholeRound test body update) m m' ∧ m'.exit? = none ∧ test m' = .ok true n

variable {test body update} {m m' n : Machine}

private theorem loop_of_test (running : m.exit? = none) (success : test m = .ok true n)
    (rounds : Nat) :
    loop test body update (rounds + 1) m =
      (body >>= afterBody (do update; loop test body update rounds)) n := by
  rw [loop, Run.exitPending_bind, running]
  exact Run.bind_ok success

private theorem loop_of_round (round : WholeRound test body update m m') (rounds : Nat) :
    loop test body update (rounds + 1) m = loop test body update rounds m' := by
  obtain ⟨running, n, flow, n', success, ran, on, updated⟩ := round
  rw [loop_of_test running success, Run.bind_ok ran, afterBody_of_goesOn on, Run.bind_ok updated]

private theorem loop_of_rounds (made : ReflTransGen (WholeRound test body update) m m') :
    ∃ count, ∀ rounds, loop test body update (rounds + count) m =
      loop test body update rounds m' := by
  induction made using ReflTransGen.head_induction_on with
  | refl => exact ⟨0, fun _ => rfl⟩
  | head round _ ih =>
    obtain ⟨count, rest⟩ := ih
    exact ⟨count + 1, fun rounds => (loop_of_round round (rounds + count)).trans (rest rounds)⟩

private theorem loop_of_pending (pending : m.exit?.isSome = true) (rounds : Nat) :
    loop test body update (rounds + 1) m = .ok .next m := by
  rw [loop, Run.exitPending_bind, pending]
  rfl

end Loop

/-! ## Loops over arrays -/

section ForEach

variable (name array : String) (body : Run Flow)

/-- The turn of a key whose element is there: the body is entered with the variable bound to it. -/
def EntersTurn (key : String) (m n : Machine) : Prop :=
  m.exit? = none ∧ ∃ value, element? array key m = .ok (some value) m ∧
    n = m.mapScopeOf name (·.insert name (.scalar value))

/-- A whole turn leads from one state to another, with the keys that are left in each. -/
inductive WholeTurn : List String × Machine → List String × Machine → Prop
  | gone {key : String} {keys : List String} {m : Machine} :
      m.exit? = none → element? array key m = .ok none m → WholeTurn (key :: keys, m) (keys, m)
  | taken {key : String} {keys : List String} {m n n' : Machine} {flow : Flow} :
      EntersTurn name array key m n → body n = .ok flow n' → flow.goesOn = true →
      WholeTurn (key :: keys, m) (keys, n')

/-- After some turns the body is entered. -/
def ReachesTurn (keys : List String) (m n : Machine) : Prop :=
  ∃ key left m', ReflTransGen (WholeTurn name array body) (keys, m) (key :: left, m') ∧
    EntersTurn name array key m' n

variable {name array body} {m n : Machine}

theorem forEach_of_entersTurn {key : String} (enters : EntersTurn name array key m n)
    (keys : List String) :
    forEach name array body (key :: keys) m =
      (body >>= afterBody (forEach name array body keys)) n := by
  obtain ⟨running, value, found, rfl⟩ := enters
  rw [forEach, Run.exitPending_bind, running]
  exact Run.bind_ok found

theorem forEach_of_turn {now later : List String × Machine}
    (turn : WholeTurn name array body now later) :
    forEach name array body now.1 now.2 = forEach name array body later.1 later.2 := by
  cases turn with
  | gone running missing =>
    rw [forEach, Run.exitPending_bind, running]
    exact Run.bind_ok missing
  | taken enters ran on =>
    rw [forEach_of_entersTurn enters, Run.bind_ok ran, afterBody_of_goesOn on]

private theorem forEach_of_turns {now later : List String × Machine}
    (made : ReflTransGen (WholeTurn name array body) now later) :
    forEach name array body now.1 now.2 = forEach name array body later.1 later.2 := by
  induction made with
  | refl => rfl
  | tail _ turn ih => exact ih.trans (forEach_of_turn turn)

theorem forEach_of_pending (pending : m.exit?.isSome = true) (keys : List String) :
    forEach name array body keys m = .ok .next m := by
  cases keys with
  | nil => rfl
  | cons key keys =>
    rw [forEach, Run.exitPending_bind, pending]
    rfl

end ForEach

end Eval

section AnyPlatform

variable [Platform]

/-! ## All loops -/

namespace Stmt

/-- The update of a loop, if it has one. -/
def update? : Stmt → Option Expr
  | .for _ _ update _ _ => update
  | _ => none

/-- A loop that starts in one state enters its body in another, in some round. -/
def Enters (eval : Expr → Run Value) (exec : Stmt → Run Flow) (s : Stmt) (m n : Machine) : Prop :=
  match s with
  | .while c _ _ =>
    Eval.ReachesBody (Eval.holds eval (some c)) (Eval.sequence exec s.stmts) (pure ()) m n
  | .doWhile _ c _ =>
    n = m ∨ ∃ flow m', Eval.sequence exec s.stmts m = .ok flow m' ∧ flow.goesOn = true ∧
      Eval.ReachesBody (Eval.holds eval (some c)) (Eval.sequence exec s.stmts) (pure ()) m' n
  | .for init c update _ _ =>
    ∃ m', Eval.perform eval init m = .ok () m' ∧
      Eval.ReachesBody (Eval.holds eval c) (Eval.sequence exec s.stmts)
        (Eval.perform eval update) m' n
  | .forIn name array _ l =>
    ∃ keys, Eval.keysOf array l m = .ok keys m ∧
      Eval.ReachesTurn name array (Eval.sequence exec s.stmts) keys m n
  | _ => False

end Stmt

namespace Eval

/-- The rest of a loop does nothing once an exit is pending. -/
def StopsAtExit (rest : Run Flow) : Prop :=
  ∀ m : Machine, m.exit?.isSome = true → rest m = .ok .next m

variable {eval : Expr → Run Value} {exec : Stmt → Run Flow} {m n : Machine}

omit [Platform] in
private theorem loop_of_reachesBody {test : Run Bool} {body : Run Flow} {update : Run Unit}
    (reaches : ReachesBody test body update m n) :
    ∃ enough, ∀ rounds ≥ enough, ∃ rest, (update = pure () → StopsAtExit rest) ∧
      loop test body update rounds m = (body >>= afterBody rest) n := by
  obtain ⟨m', made, running, success⟩ := reaches
  obtain ⟨count, behind⟩ := loop_of_rounds made
  -- One round for the body, and one in which the loop would look for the exit.
  refine ⟨count + 2, fun rounds le => ?_⟩
  obtain ⟨more, rfl⟩ : ∃ more, rounds = more + 1 + 1 + count := ⟨rounds - count - 2, by omega⟩
  refine ⟨do update; loop test body update (more + 1), ?_, ?_⟩
  · rintro rfl m₁ pending
    exact loop_of_pending pending more
  · rw [behind, loop_of_test running success]

private theorem statement_of_enters {s : Stmt} (enters : s.Enters eval exec m n) :
    ∃ enough, ∀ rounds ≥ enough, ∃ rest, (s.update? = none → StopsAtExit rest) ∧
      statement rounds eval exec s m = (sequence exec s.stmts >>= afterBody rest) n := by
  cases s with
  | «while» c body l =>
    obtain ⟨enough, run⟩ := loop_of_reachesBody enters
    refine ⟨enough, fun rounds le => ?_⟩
    obtain ⟨rest, stops, same⟩ := run rounds le
    exact ⟨rest, fun _ => stops rfl, same⟩
  | doWhile body c l =>
    rcases enters with rfl | ⟨flow, m', ran, on, reaches⟩
    · refine ⟨1, fun rounds le => ⟨_, fun _ m₁ pending => ?_, rfl⟩⟩
      obtain ⟨more, rfl⟩ : ∃ more, rounds = more + 1 := ⟨rounds - 1, by omega⟩
      exact loop_of_pending pending more
    · obtain ⟨enough, run⟩ := loop_of_reachesBody reaches
      refine ⟨enough, fun rounds le => ?_⟩
      obtain ⟨rest, stops, same⟩ := run rounds le
      refine ⟨rest, fun _ => stops rfl, ?_⟩
      have first : sequence exec body.statements m = .ok flow m' := ran
      rw [statement, Run.bind_ok first, afterBody_of_goesOn on]
      exact same
  | «for» init c update body l =>
    obtain ⟨m', started, reaches⟩ := enters
    obtain ⟨enough, run⟩ := loop_of_reachesBody reaches
    refine ⟨enough, fun rounds le => ?_⟩
    obtain ⟨rest, stops, same⟩ := run rounds le
    refine ⟨rest, fun plain => stops ?_, ?_⟩
    · rw [show update = none from plain]
      rfl
    · rw [statement, Run.bind_ok started]
      exact same
  | forIn name array body l =>
    obtain ⟨keys, listed, key, left, m', made, turn⟩ := enters
    refine ⟨0, fun rounds _ => ⟨forEach name array (sequence exec body.statements) left, ?_, ?_⟩⟩
    · exact fun _ m₁ pending => forEach_of_pending pending left
    · rw [statement, Run.bind_ok listed]
      exact (forEach_of_turns made).trans (forEach_of_entersTurn turn left)
  | expr | choice | «return» | «break» | «continue» | delete => cases enters

omit [Platform] in
private theorem bind_afterBody_of_pending {body rest : Run Flow}
    (pending : (Run.stateOf (body n)).exit?.isSome = true)
    (stops : ∀ flow n', body n = .ok flow n' → flow.goesOn = true → StopsAtExit rest) :
    (body >>= afterBody rest) n = (Flow.behindLoop <$> body) n := by
  rw [map_eq_pure_bind]
  cases ran : body n with
  | error halt n' => rw [Run.bind_error ran, Run.bind_error ran]
  | ok flow n' =>
    rw [Run.bind_ok ran, Run.bind_ok ran]
    rw [ran] at pending
    cases flow with
    | next => exact stops .next n' ran rfl n' pending
    | «continue» => exact stops .continue n' ran rfl n' pending
    | «break» => rfl
    | «return» value => rfl

end Eval

omit [Platform] in
private theorem Run.outOfFuel_of_map {α β : Type} {f : α → β} {x : Run α} {m m' : Machine}
    (out : (f <$> x) m = .error .outOfFuel m') : x m = .error .outOfFuel m' := by
  rw [map_eq_pure_bind] at out
  cases first : x m with
  | ok a m₁ =>
    rw [Run.bind_ok first] at out
    cases out
  | error halt m₁ =>
    rw [Run.bind_error first] at out
    cases out
    rfl

namespace Program

/-- A loop is over once its body has left an exit pending.  Whatever expressions and statements do:
if a loop enters its body, and the body leaves an exit pending, then the loop ends as the body did,
with the very state that the body left.  The loops of a script do so with every amount of fuel that
is large enough.  A body that goes on must not have an update behind it. -/
theorem pending_exit_ends_loop {eval : Expr → Run Value} {exec : Stmt → Run Flow} {s : Stmt}
    {m n : Machine} (enters : s.Enters eval exec m n)
    (pending : (Run.stateOf (Eval.sequence exec s.stmts n)).exit?.isSome = true)
    (noUpdate : ∀ flow n', Eval.sequence exec s.stmts n = .ok flow n' → flow.goesOn = true →
      s.update? = none) :
    (∃ enough, ∀ rounds ≥ enough,
      Eval.statement rounds eval exec s m = (Flow.behindLoop <$> Eval.sequence exec s.stmts) n) ∧
    ∀ (p : Program) (fuel : Nat), eval = p.eval fuel → exec = p.exec fuel →
      (∀ n', Eval.sequence exec s.stmts n ≠ .error .outOfFuel n') →
      ∃ enough, ∀ more ≥ enough,
        Run.unplacedOutcome (p.exec more s m) =
          Run.unplacedOutcome ((Flow.behindLoop <$> Eval.sequence exec s.stmts) n) := by
  obtain ⟨enough, run⟩ := Eval.statement_of_enters enters
  have ends : ∀ rounds ≥ enough, Eval.statement rounds eval exec s m =
      (Flow.behindLoop <$> Eval.sequence exec s.stmts) n := by
    intro rounds le
    obtain ⟨rest, stops, same⟩ := run rounds le
    rw [same]
    exact Eval.bind_afterBody_of_pending pending fun flow n' ran on =>
      stops (noUpdate flow n' ran on)
  refine ⟨⟨enough, ends⟩, ?_⟩
  rintro p fuel rfl rfl finished
  refine ⟨max enough fuel + 1, fun more le => ?_⟩
  have kept : (Eval.statement enough (p.eval fuel) (p.exec fuel) s).KeptBy (p.exec more s) :=
    p.keptBy_exec_of_statement (by omega) (by omega) s
  rcases kept m with ⟨m', out⟩ | same
  · rw [ends enough (Nat.le_refl _)] at out
    exact absurd (Run.outOfFuel_of_map out) (finished m')
  · rw [same, ends enough (Nat.le_refl _)]

end Program

end AnyPlatform

namespace Program

/-- An exit in the second round of a loop, asked for by a statement within a statement of its
body. -/
theorem pending_exit_ends_loop_second :
    let l := Location.unknown
    let i := Expr.var "i" l
    let c := Expr.binary .lt i (.const "5") l
    let leave := Stmt.expr (.call "exit" [.const "3"] l)
    let body := Block.mk none [.expr (.stepBy .postInc i l),
      .choice [.mk (some (.binary .gt i (.const "1") l)) (.mk none [leave] l)] l, .continue l] l
    let s := Stmt.while c body l
    let p : Program := ⟨[], [.mk none [s] l], [], []⟩
    let start := Machine.ofRecords (.ofLines [])
    ∃ n, s.Enters (p.eval 9) (p.exec 9) start n ∧ n.globals.scalar "i" = ⟨"1.0"⟩ ∧
      (Run.stateOf (Eval.sequence (p.exec 9) s.stmts n)).exit? = some 3 ∧
      ∃ enough, ∀ more ≥ enough, ∃ m, p.exec more s start = .ok .next m ∧
        m.exit? = some 3 ∧ m.globals.scalar "i" = ⟨"2.0"⟩ := by
  intro l i c leave body s p start
  let test := Eval.holds (p.eval 9) (some c)
  let round := Eval.sequence (p.exec 9) s.stmts
  let n₁ := Run.stateOf (test start)
  let m₁ := Run.stateOf (round n₁)
  let n := Run.stateOf (test m₁)
  have first : test start = .ok true n₁ := Run.eq_ok_of_answer? (by decide +kernel)
  have ran : round n₁ = .ok .continue m₁ := Run.eq_ok_of_answer? (by decide +kernel)
  have second : test m₁ = .ok true n := Run.eq_ok_of_answer? (by decide +kernel)
  have last : round n = .ok .next (Run.stateOf (round n)) :=
    Run.eq_ok_of_answer? (by decide +kernel)
  have leaves : (Run.stateOf (round n)).exit? = some 3 := by decide +kernel
  have enters : s.Enters (p.eval 9) (p.exec 9) start n := by
    refine ⟨m₁, .single ⟨rfl, n₁, .continue, m₁, first, ran, rfl, rfl⟩, ?_, second⟩
    decide +kernel
  have pending : (Run.stateOf (round n)).exit?.isSome = true := by rw [leaves]; rfl
  obtain ⟨enough, ends⟩ := (pending_exit_ends_loop enters pending fun _ _ _ _ => rfl).2 p 9 rfl rfl
    (fun n' out => by cases last.symm.trans out)
  refine ⟨n, enters, by decide +kernel, leaves, enough, fun more le => ?_⟩
  have outcome : (Flow.behindLoop <$> round) n = .ok .next (Run.stateOf (round n)) := by
    rw [map_eq_pure_bind, Run.bind_ok last]
    rfl
  have done := ends more le
  rw [outcome] at done
  exact ⟨_, Run.unplacedOutcome_eq_ok_iff.mp done, leaves, by decide +kernel⟩

/-- An exit in the first round of a loop with an update: the body leaves it pending with the counter
at its first value, and the loop ends with the counter updated. -/
theorem update_behind_exit :
    let source := "BEGIN \x7b for (i = 0; i < 3; i++) exit(3) \x7d"
    let l := Location.unknown
    let i := Expr.var "i" l
    let s := Stmt.for (some (.assign .plain i (.const "0") l))
      (some (.binary .lt i (.const "3") l)) (some (.stepBy .postInc i l))
      (.mk none [.expr (.call "exit" [.const "3"] l)] l) l
    let p : Program := ⟨[], [.mk none [s] l], [], []⟩
    let start := Machine.ofRecords (.ofLines [])
    ∃ n, s.Enters (p.eval 9) (p.exec 9) start n ∧
      (Run.stateOf (Eval.sequence (p.exec 9) s.stmts n)).exit? = some 3 ∧
      (Run.stateOf (Eval.sequence (p.exec 9) s.stmts n)).globals.scalar "i" = ⟨"0"⟩ ∧
      (Run.stateOf (p.exec 10 s start)).globals.scalar "i" = ⟨"1.0"⟩ ∧
      (ofSource source).toOption.map (fun p => (Run.stateOf (p.run 12 start)).globals.scalar "i") =
        some ⟨"1.0"⟩ := by
  intro source l i s p start
  let m := Run.stateOf (Eval.perform (p.eval 9) (some (.assign .plain i (.const "0") l)) start)
  let test := Eval.holds (p.eval 9) (some (.binary .lt i (.const "3") l))
  have enters : s.Enters (p.eval 9) (p.exec 9) start (Run.stateOf (test m)) := by
    refine ⟨m, Run.eq_ok_of_answer? (by decide +kernel), m, .refl, by decide +kernel, ?_⟩
    exact Run.eq_ok_of_answer? (by decide +kernel)
  exact ⟨_, enters, by decide +kernel, by decide +kernel, by decide +kernel, by decide +kernel⟩

end Program

end PatternAction
