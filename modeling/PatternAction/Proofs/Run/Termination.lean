import Mathlib.Data.Finset.Card
import Mathlib.Logic.Relation
import Mathlib.Order.Filter.AtTopBot.Basic
import Mathlib.Order.Filter.Finite
import PatternAction.Proofs.Run.Course
import PatternAction.Proofs.Run.Faults
import PatternAction.Proofs.Run.Fuel
import PatternAction.Standard

/-!
Scripts that must come to an end.  What a statement without loops does ends if its parts end and the
bodies of the functions end that it calls.  If no function calls itself, directly or through others,
then the calls are well-founded, and so with enough fuel a script without loops never runs out of
it: a loop over an array goes through a list of keys that is taken before its first round, whatever
its body adds or deletes, and a rule is applied to lines that are never gone back to.

The end is a status or a fault, unless a number is to be laid out with more places than fit.
-/

set_option autoImplicit false
set_option relaxedAutoImplicit false

namespace PatternAction

open Filter Relation

/-! ## Computations that end -/

abbrev Run.Ends {α : Type} (x : Run α) : Prop :=
  x.HaltsBy (· ≠ .outOfFuel)

section AnyPlatform

variable [Platform]

private theorem Run.ends_compositional : Compositional .any fun x _ => x.Ends :=
  haltsBy_compositional (fun _ _ => nofun) nofun fun _ _ => nofun

/-! ## Calls -/

namespace Program

variable {p : Program}

def called (p : Program) : List String :=
  p.functions.flatMap fun f => f.body.flatMap Stmt.callees

omit [Platform] in
private theorem Calls.mem_called {caller callee : String} (h : p.Calls caller callee) :
    callee ∈ p.called := by
  obtain ⟨s, mem, inside⟩ := h
  obtain ⟨f, defined, -, mem⟩ := exists_of_mem_bodyOf mem
  have body : callee ∈ f.body.flatMap Stmt.callees := List.mem_flatMap.mpr ⟨s, mem, inside⟩
  exact List.mem_flatMap.mpr ⟨f, defined, body⟩

def ranked (p : Program) (rank : String → Nat) : Bool :=
  p.functions.all fun f => f.body.all fun s => s.callees.all fun name => rank name < rank f.name

omit [Platform] in
private theorem acyclic_of_ranked {rank : String → Nat} (h : p.ranked rank = true) (name : String) :
    ¬ TransGen p.Calls name name := by
  have call {caller callee : String} (calls : p.Calls caller callee) :
      rank callee < rank caller := by
    obtain ⟨s, mem, called⟩ := calls
    obtain ⟨f, defined, rfl, inside⟩ := exists_of_mem_bodyOf mem
    simp only [ranked, List.all_eq_true, decide_eq_true_eq] at h
    exact h f defined s inside callee called
  have path {caller callee : String} (calls : TransGen p.Calls caller callee) :
      rank callee < rank caller := by
    induction calls with
    | single last => exact call last
    | tail _ last ih => exact Nat.lt_trans (call last) ih
  exact fun circle => Nat.lt_irrefl _ (path circle)

omit [Platform] in
/-- Where no function calls itself, directly or through others, there is no endless chain of calls:
a function reaches more names than any that it calls. -/
private theorem wellFounded_calls (acyclic : ∀ name, ¬ TransGen p.Calls name name) :
    WellFounded fun callee caller => p.Calls caller callee := by
  classical
  let reached (name : String) : Finset String :=
    {other ∈ p.called.toFinset | TransGen p.Calls name other}
  have fewer {caller callee : String} (h : p.Calls caller callee) :
      (reached callee).card < (reached caller).card := by
    refine Finset.card_lt_card (Finset.ssubset_iff_of_subset ?_ |>.mpr ⟨callee, ?_, ?_⟩)
    · intro other mem
      obtain ⟨isCalled, path⟩ := Finset.mem_filter.mp mem
      exact Finset.mem_filter.mpr ⟨isCalled, .head h path⟩
    · exact Finset.mem_filter.mpr ⟨List.mem_toFinset.mpr h.mem_called, .single h⟩
    · exact fun mem => acyclic callee (Finset.mem_filter.mp mem).2
  exact Subrelation.wf fewer (measure fun name => (reached name).card).wf

/-! ## Enough fuel -/

omit [Platform] in
private theorem eventually_of_succ {P : Nat → Prop} (h : ∀ᶠ fuel in atTop, P (fuel + 1)) :
    ∀ᶠ fuel in atTop, P fuel := by
  obtain ⟨enough, from_⟩ := eventually_atTop.mp h
  refine eventually_atTop.mpr ⟨enough + 1, fun fuel more => ?_⟩
  have := from_ (fuel - 1) (by omega)
  rwa [Nat.sub_add_cancel (by omega)] at this

omit [Platform] in
private theorem eventually_forall_mem {α : Type} {l : List α} {P : Nat → α → Prop}
    (h : ∀ a ∈ l, ∀ᶠ fuel in atTop, P fuel a) : ∀ᶠ fuel in atTop, ∀ a ∈ l, P fuel a :=
  (eventually_all_finite l.finite_toSet).mpr h

/-- With enough fuel the statements end that a call of this name runs. -/
def BodyEnds (p : Program) (name : String) : Prop :=
  ∀ s ∈ p.bodyOf name, ∀ᶠ fuel in atTop, (p.exec fuel s).Ends

theorem eventually_ends_eval (e : Expr) (bodies : ∀ name ∈ e.callees, p.BodyEnds name) :
    ∀ᶠ fuel in atTop, (p.eval fuel e).Ends := by
  have parts : ∀ᶠ fuel in atTop, ∀ part ∈ e.parts, (p.eval fuel part).Ends :=
    eventually_forall_mem fun part mem => eventually_ends_eval part fun name called =>
      bodies name (Expr.callees_subset_of_mem_parts mem called)
  have body : ∀ᶠ fuel in atTop, ∀ s ∈ p.bodyAt e, (p.exec fuel s).Ends := by
    refine eventually_forall_mem fun s mem => ?_
    obtain ⟨name, called, inside⟩ := exists_of_mem_bodyAt mem
    exact bodies name (Expr.mem_callees_of_callee? called) s inside
  refine eventually_of_succ ?_
  filter_upwards [parts, body] with fuel parts body
  exact Run.ends_compositional.expression_of (e.asks_of_open Licence.full_any.toOpen).own parts body
termination_by sizeOf e
decreasing_by exact Expr.sizeOf_lt_of_mem_parts mem

private theorem eventually_ends_exec (s : Stmt) (loopFree : ∀ t ∈ s.within, t.isLoop = false)
    (bodies : ∀ name ∈ s.callees, p.BodyEnds name) : ∀ᶠ fuel in atTop, (p.exec fuel s).Ends := by
  have exprs : ∀ᶠ fuel in atTop, ∀ e ∈ s.exprs, (p.eval fuel e).Ends :=
    eventually_forall_mem fun e mem => eventually_ends_eval e fun name called =>
      bodies name (Stmt.callees_subset_of_mem_exprs mem called)
  have stmts : ∀ᶠ fuel in atTop, ∀ t ∈ s.stmts, (p.exec fuel t).Ends :=
    eventually_forall_mem fun t mem => eventually_ends_exec t
      (fun u inside => loopFree u (Stmt.within_subset_of_mem_stmts mem inside))
      fun name called => bodies name (Stmt.callees_subset_of_mem_stmts mem called)
  have own : s.Own .any := (s.asks_of_full Licence.full_any).own
  have noLoop : s.isLoop = true → (Run.outOfFuel : Run Flow).Ends := fun loop =>
    absurd ((loopFree s s.self_mem_within).symm.trans loop) Bool.false_ne_true
  refine eventually_of_succ ?_
  filter_upwards [exprs, stmts] with fuel exprs stmts
  exact Run.ends_compositional.statement_of fuel own noLoop exprs stmts
termination_by sizeOf s
decreasing_by exact Stmt.sizeOf_lt_of_mem_stmts mem

omit [Platform] in
private theorem isLoop_of_loopFree (loopFree : p.loopFree = true) {s t : Stmt}
    (mem : s ∈ p.statements) (inside : t ∈ s.within) : t.isLoop = false := by
  have all := List.all_eq_true.mp (List.all_eq_true.mp loopFree s mem) t inside
  rwa [Bool.not_eq_true'] at all

private theorem bodyEnds (loopFree : p.loopFree = true)
    (acyclic : ∀ name, ¬ TransGen p.Calls name name) (name : String) : p.BodyEnds name := by
  induction name using (wellFounded_calls acyclic).induction with
  | _ name ih =>
    intro s mem
    obtain ⟨f, defined, -, inside⟩ := exists_of_mem_bodyOf mem
    have noLoop (t : Stmt) := isLoop_of_loopFree (t := t) loopFree
      (p.mem_statements_of_function defined inside)
    exact eventually_ends_exec s noLoop fun callee called => ih callee ⟨s, mem, called⟩

end Program

/-! ## Rules -/

/-- What is composed of steps of the script never goes back to an earlier line, so of what follows
only what happens on from there matters. -/
private theorem Composed.bind_congr {α β : Type} {x : Run α} (h : Composed .script x)
    {f g : α → Run β} {m : Machine} (within : m.records.position ≤ m.records.size)
    (same : ∀ a m', m.records.Ahead m'.records → f a m' = g a m') : (x >>= f) m = (x >>= g) m := by
  obtain ⟨t, trace⟩ := h.trace m
  have ahead := trace.ahead within
  cases first : x m with
  | error halt m' => rw [Run.bind_error first, Run.bind_error first]
  | ok a m' =>
    rw [first] at ahead
    rw [Run.bind_ok first, Run.bind_ok first]
    exact same a m' ahead

private theorem Run.advance_of_usedUp {m : Machine} (usedUp : m.records.size ≤ m.records.position) :
    Run.advance m = .ok false m := by
  have noMore : Run.advance? m = .ok (.ok false) m := by
    simp only [Run.advance?, Records.advance_eq_none_iff.mpr usedUp]
  exact Run.bind_ok noMore

namespace Phases

variable {eval : Expr → Run Value} {exec : Stmt → Run Flow}

private theorem rounds_add (hguard : ∀ guard, Composed .script (applies eval guard))
    (hexec : ∀ s, Composed .script (exec s)) (rule : Rule) (more : Nat) {count : Nat} {m : Machine}
    (within : m.records.position ≤ m.records.size)
    (enough : m.records.size ≤ m.records.position + count) :
    rounds eval exec rule (count + more) m = rounds eval exec rule count m := by
  induction count generalizing m with
  | zero =>
    cases more with
    | zero => rfl
    | succ more =>
      change rounds eval exec rule (0 + (more + 1)) m = .ok () m
      rw [Nat.zero_add, rounds, Run.exitPending_bind]
      cases m.exit? with
      | some status => rfl
      | none => exact Run.bind_ok (Run.advance_of_usedUp enough)
  | succ count ih =>
    rw [Nat.add_right_comm, rounds, rounds, Run.exitPending_bind, Run.exitPending_bind]
    cases m.exit? with
    | some status => rfl
    | none =>
      simp only [Option.isSome_none, Bool.false_eq_true, if_false]
      cases taken : Run.advance m with
      | error halt m₁ => rw [Run.bind_error taken, Run.bind_error taken]
      | ok another m₁ =>
        rw [Run.bind_ok taken, Run.bind_ok taken]
        cases another with
        | false => rfl
        | true =>
          obtain ⟨-, ahead, position⟩ := Run.advance_true taken
          have others {m' : Machine} (later : m₁.records.Ahead m'.records) :
              rounds eval exec rule (count + more) m' = rounds eval exec rule count m' := by
            have lines : m'.records.size = m.records.size :=
              congrArg Array.size (later.lines.trans ahead.lines)
            have behind := later.position
            exact ih later.within (by omega)
          refine (hguard rule.guard).bind_congr ahead.within fun holds m₂ guarded => ?_
          cases holds with
          | false => exact others guarded
          | true =>
            refine (Eval.composed_sequence hexec rule.statements).bind_congr guarded.within ?_
            exact fun _ m₃ entered => others (guarded.trans entered)

end Phases

namespace Program

/-- A script without loops other than those over arrays, in which no function calls itself, directly
or through others, always finishes: there is an amount of fuel such that with as much or more, from
every state, the run ends with a status or a fault, unless it takes a step that has to lay out a
number with too many places, which aborts it.  The bound on the rounds of a rule has no part in
this: a rule that may go on behind the last line does just the same. -/
theorem loop_free_ends {p : Program} (loopFree : p.loopFree = true)
    (acyclic : ∀ name, ¬ TransGen p.Calls name name) :
    (∃ enough, ∀ fuel ≥ enough, ∀ start : Machine,
      ∃ t, Trace (fun _ => True) (p.run fuel) start t ∧
        let tooMany := ∃ m fmt args, (m, .format fmt args) ∈ t ∧ Printf.Overlong fmt ∧
          Printf.sprintf fmt args = none
        (¬ tooMany → (∃ status m, p.run fuel start = .ok status m) ∨
          ∃ fault m, p.run fuel start = .error (.fault fault) m) ∧
        (tooMany → ∃ m, p.run fuel start = .error .aborted m)) ∧
    ∀ fuel, ∀ rule ∈ p.rules, ∀ (m : Machine) (more : Nat),
      let first := { m with records := m.records.reset }
      Phases.rounds (p.eval fuel) (p.exec fuel) rule (m.records.size + more) first =
        Phases.rounds (p.eval fuel) (p.exec fuel) rule m.records.size first := by
  have bodies := bodyEnds loopFree acyclic
  have stmts : ∀ᶠ fuel in atTop, ∀ s ∈ p.statements, (p.exec fuel s).Ends :=
    eventually_forall_mem fun s mem =>
      eventually_ends_exec s (fun _ => isLoop_of_loopFree loopFree mem) fun name _ => bodies name
  have guards : ∀ᶠ fuel in atTop, ∀ e ∈ p.rules.filterMap Block.guard, (p.eval fuel e).Ends :=
    eventually_forall_mem fun e _ => eventually_ends_eval e fun name _ => bodies name
  refine ⟨?_, fun fuel rule _ m more => ?_⟩
  · obtain ⟨enough, both⟩ := eventually_atTop.mp (stmts.and guards)
    refine ⟨enough, fun fuel more start => ?_⟩
    obtain ⟨stmts, guards⟩ := both fuel more
    have ends : (p.run fuel).Ends := by
      refine Run.ends_compositional.run_of (fun _ _ => trivial) stmts fun rule mem e guard => ?_
      exact guards e (List.mem_filterMap.mpr ⟨rule, mem, guard⟩)
    obtain ⟨t, trace⟩ := (p.composed_run fuel).trace start
    have aborted_iff := trace.aborted_iff.trans exists_aborts_iff
    refine ⟨t, trace, fun enoughRoom => ?_, aborted_iff.mpr⟩
    match outcome : p.run fuel start with
    | .ok status m => exact .inl ⟨status, m, rfl⟩
    | .error (.fault fault) m => exact .inr ⟨fault, m, rfl⟩
    | .error .aborted m => exact absurd (aborted_iff.mp ⟨m, outcome⟩) enoughRoom
    | .error .outOfFuel m => exact absurd rfl (ends start m .outOfFuel outcome)
  · exact Phases.rounds_add (p.composed_applies fuel) (p.composed_exec fuel) rule more
      (Nat.zero_le _) (Nat.le_add_left _ _)

end Program

end AnyPlatform

namespace Program

/-- A script whose functions call each other and take records, and whose loops add elements to the
arrays that they go through and delete others. -/
theorem loop_free_ends_nested :
    let source :=
      "function turn(a, n) \x7b for (k in a) \x7b a[k n] = n; delete a[k] \x7d return n \x7d " ++
      "function walk(a) \x7b if (getline) nextfile; return turn(a, $1) + turn(a, $2) \x7d " ++
      "BEGIN \x7b t[\"k\"] = 1 \x7d \x7b for (k in t) walk(t); if ($1 > 8) exit(3); next \x7d"
    ∃ p, ofSource source = .ok p ∧ p.loopFree = true ∧ (∀ name, ¬ TransGen p.Calls name name) ∧
      ∃ enough, ∀ fuel ≥ enough, ∀ start : Machine,
        ∃ t, Trace (fun _ => True) (p.run fuel) start t ∧
          ((∀ m fmt args, (m, .format fmt args) ∉ t) →
            (∃ status m, p.run fuel start = .ok status m) ∨
              ∃ fault m, p.run fuel start = .error (.fault fault) m) := by
  intro source
  let rank (name : String) : Nat := if name = "walk" then 2 else if name = "turn" then 1 else 0
  have accepted : (ofSource source).toOption.map (fun p => (p.loopFree, p.ranked rank)) =
      some (true, true) := by decide +kernel
  cases read : ofSource source with
  | error halt =>
    rw [read] at accepted
    cases accepted
  | ok p =>
    rw [read] at accepted
    obtain ⟨loopFree, ranked⟩ := Prod.mk.inj (Option.some.inj accepted)
    have acyclic := acyclic_of_ranked ranked
    obtain ⟨enough, from_⟩ := (loop_free_ends loopFree acyclic).1
    refine ⟨p, rfl, loopFree, acyclic, enough, fun fuel more start => ?_⟩
    obtain ⟨t, trace, ends, -⟩ := from_ fuel more start
    exact ⟨t, trace, fun none => ends fun ⟨m, fmt, args, mem, _⟩ => none m fmt args mem⟩

/-- One place more than fit: with whatever fuel such a script ends neither with a status nor with a
fault, and with a little it is aborted. -/
theorem loop_free_aborts :
    let source := "BEGIN \x7b printf \"%.65536f\", 1 \x7d"
    let start := Machine.ofRecords .none
    ∃ p, ofSource source = .ok p ∧ p.loopFree = true ∧ (∀ name, ¬ TransGen p.Calls name name) ∧
      (∀ fuel status m, p.run fuel start ≠ .ok status m) ∧
      (∀ fuel fault m, p.run fuel start ≠ .error (.fault fault) m) ∧
      ∃ m, p.run 5 start = .error .aborted m := by
  intro source start
  let isAborted (r : EStateM.Result RunHalt Machine Int) : Bool :=
    match r with
    | .error .aborted _ => true
    | _ => false
  have accepted : (ofSource source).toOption.map
      (fun p => (p.loopFree, p.ranked fun _ => 0, isAborted (p.run 5 start))) =
      some (true, true, true) := by decide +kernel
  cases read : ofSource source with
  | error halt =>
    rw [read] at accepted
    cases accepted
  | ok p =>
    rw [read] at accepted
    obtain ⟨loopFree, rest⟩ := Prod.mk.inj (Option.some.inj accepted)
    obtain ⟨ranked, aborted⟩ := Prod.mk.inj rest
    obtain ⟨m, outcome⟩ : ∃ m, p.run 5 start = .error .aborted m := by
      match outcome : p.run 5 start with
      | .error .aborted m => exact ⟨m, rfl⟩
      | .ok _ _ | .error (.fault _) _ | .error .outOfFuel _ =>
        simp [isAborted, outcome] at aborted
    refine ⟨p, rfl, loopFree, acyclic_of_ranked ranked, ?_, ?_, m, outcome⟩
    · intro fuel status m' ended
      rcases aborted_of_aborted p outcome fuel with ⟨_, other⟩ | other <;>
        cases ended.symm.trans other
    · intro fuel fault m' ended
      rcases aborted_of_aborted p outcome fuel with ⟨_, other⟩ | other <;>
        cases ended.symm.trans other

end Program

end PatternAction
