import PatternAction.Proofs.Run.Quiet
import PatternAction.Proofs.Run.Termination
import PatternAction.Standard

/-!
Reading has no effects.  An expression without assignments and calls is composed of steps that only
look something up, and all that such steps do to the state is to hold the patterns that they
compile.  So whether the expression comes to a value or to a fault, nothing is written or bound, no
record is taken and no exit is asked for; and it always comes to one of the two.
-/

set_option autoImplicit false
set_option relaxedAutoImplicit false

namespace PatternAction

section AnyPlatform

variable [Platform]

/-! ## Growing caches -/

/-- Every pattern held in the first cache is held in the second, and what else is held there is what
its text compiles to. -/
structure Pattern.Cache.Grows (c d : Cache) : Prop where
  kept : ∀ (text : String) (q : Pattern), c.entries[text]? = some q → d.entries[text]? = some q
  added : ∀ (text : String) (q : Pattern), c.entries[text]? = none → d.entries[text]? = some q →
    Platform.compile text = .ok q

namespace Pattern.Cache.Grows

theorem refl (c : Cache) : c.Grows c where
  kept _ _ held := held
  added text q missing held := by
    rw [missing] at held
    cases held

private theorem trans {b c d : Cache} (first : b.Grows c) (second : c.Grows d) : b.Grows d where
  kept text q held := second.kept text q (first.kept text q held)
  added text q missing held := by
    cases between : c.entries[text]? with
    | none => exact second.added text q between held
    | some q' =>
      have still := second.kept text q' between
      rw [held] at still
      obtain rfl := Option.some.inj still
      exact first.added text q missing between

private theorem of_compile {c d : Cache} {text : String} {q : Pattern}
    (compiled : c.compile text = .ok (q, d)) : c.Grows d := by
  have entries := getElem?_of_compile compiled
  unfold compile at compiled
  split at compiled
  · obtain ⟨-, rfl⟩ := Prod.mk.inj (Except.ok.inj compiled)
    exact refl c
  · rename_i unheld
    cases plain : Platform.compile text with
    | error f =>
      rw [plain] at compiled
      cases compiled
    | ok found =>
      rw [plain] at compiled
      obtain ⟨rfl, -⟩ := Prod.mk.inj (Except.ok.inj compiled)
      constructor
      · intro other q held
        have ne : text ≠ other := by
          rintro rfl
          rw [unheld] at held
          cases held
        rw [entries, if_neg ne, held]
      · intro other q missing held
        rw [entries] at held
        by_cases same : text = other
        · rw [if_pos same] at held
          rw [← same, plain, Option.some.inj held]
        · rw [if_neg same, missing] at held
          cases held

end Pattern.Cache.Grows

/-! ## Runs that only compile patterns -/

namespace Run

variable {α β : Type}

/-- However the run ends, the state is as it was, but for patterns that are held in addition. -/
def OnlyCompiles (x : Run α) : Prop :=
  ∀ m, ∃ c, m.cache.Grows c ∧ stateOf (x m) = m.withCache c

private theorem onlyCompiles_of_state {x : Run α} (same : ∀ m, stateOf (x m) = m) :
    x.OnlyCompiles :=
  fun m => ⟨m.cache, .refl m.cache, same m⟩

private theorem OnlyCompiles.bind {x : Run α} {f : α → Run β} (hx : x.OnlyCompiles)
    (hf : ∀ a, (f a).OnlyCompiles) : (x >>= f).OnlyCompiles := by
  intro m
  obtain ⟨c, grown, state⟩ := hx m
  cases first : x m with
  | error halt m₁ =>
    rw [first] at state
    rw [bind_error first]
    exact ⟨c, grown, state⟩
  | ok a m₁ =>
    rw [first] at state
    obtain rfl : m₁ = m.withCache c := state
    obtain ⟨d, grown', state'⟩ := hf a (m.withCache c)
    rw [bind_ok first]
    exact ⟨d, grown.trans grown', state'⟩

private theorem OnlyCompiles.withFrame (frame : Scope) {body : Run α} (h : body.OnlyCompiles) :
    (Run.withFrame frame body).OnlyCompiles := by
  intro m
  obtain ⟨c, grown, state⟩ := h { m with frames := frame :: m.frames }
  refine ⟨c, grown, ?_⟩
  rw [stateOf_withFrame, state]
  rfl

private theorem onlyCompiles_pattern (text : String) : (Run.pattern text).OnlyCompiles := by
  intro m
  rw [Run.pattern]
  cases compiled : m.cache.compile text with
  | error f => exact ⟨m.cache, .refl m.cache, rfl⟩
  | ok found => exact ⟨found.2, .of_compile compiled, rfl⟩

private theorem onlyCompiles_step {s : Step} (reads : s.reads = true) : s.run.OnlyCompiles := by
  cases s with
  | lookup | global | exitStatus? => exact onlyCompiles_of_state fun _ => rfl
  | pattern text => exact onlyCompiles_pattern text
  | _ => cases reads

end Run

private theorem Composed.onlyCompiles {α : Type} {x : Run α} (h : Composed .reading x) :
    x.OnlyCompiles := by
  induction h with
  | pure a => exact Run.onlyCompiles_of_state fun _ => rfl
  | throw halt _ => exact Run.onlyCompiles_of_state fun _ => rfl
  | bind _ _ ihx ihf => exact ihx.bind ihf
  | withFrame frame _ ih => exact ih.withFrame frame
  | step s reads => exact Run.onlyCompiles_step reads

/-! ## Expressions that only read -/

omit [Platform] in
private theorem Expr.callees_of_isQuiet {e : Expr} (quiet : e.isQuiet = true) : e.callees = [] := by
  rw [callees, List.filterMap_eq_nil_iff]
  intro part inside
  have still := List.all_eq_true.mp quiet part inside
  cases part with
  | call => cases still
  | _ => rfl

/-- Evaluating an expression without assignments and calls changes nothing but the patterns that are
held, to which some may be added, whether it comes to a value or fails.  With enough fuel it does
one of the two, from every state. -/
theorem Program.reading_changes_nothing (p : Program) {e : Expr} (quiet : e.isQuiet = true) :
    (∀ (fuel : Nat) (m : Machine), ∃ cache, m.cache.Grows cache ∧
      Run.stateOf (p.eval fuel e m) = { m with cache }) ∧
    ∃ enough, ∀ fuel ≥ enough, ∀ m : Machine,
      (∃ value m', p.eval fuel e m = .ok value m') ∨
        ∃ fault m', p.eval fuel e m = .error (.fault fault) m' := by
  constructor
  · intro fuel m
    exact (p.twin_eval_of_isQuiet fuel quiet).composed.onlyCompiles m
  · have ends : ∀ᶠ fuel in Filter.atTop, (p.eval fuel e).Ends := by
      refine eventually_ends_eval e fun name called => ?_
      rw [e.callees_of_isQuiet quiet] at called
      cases called
    obtain ⟨enough, from_⟩ := Filter.eventually_atTop.mp ends
    refine ⟨enough, fun fuel more m => ?_⟩
    match outcome : p.eval fuel e m with
    | .ok value m' => exact .inl ⟨value, m', rfl⟩
    | .error (.fault fault) m' => exact .inr ⟨fault, m', rfl⟩
    | .error .aborted m' =>
      have looks (s : Step) (reads : s.reads = true) : s.aborts = false := by
        cases s <;> first | rfl | cases reads
      exact absurd outcome ((p.twin_eval_of_isQuiet fuel quiet).composed.ne_aborted looks m m')
    | .error .outOfFuel m' => exact absurd rfl (from_ fuel more m m' .outOfFuel outcome)

end AnyPlatform

/-- A choice by a field whose number is a missing element, inside a call: the pattern is held, and
neither the array nor the field comes into being. -/
theorem Program.reading_changes_nothing_missing :
    let l := Location.unknown
    let number := Expr.elem "a" (.var "k" l) l
    let test := Expr.binary .match (.unary .dollar number l) (.pattern "x+") l
    let e := Expr.ternary test (.var "b" l) (.unary .dollar (.const "7") l) l
    let m := { Machine.ofRecords (.ofLines ["x y"]) with frames := [.empty] }
    let after := Run.stateOf (Program.empty.eval 9 e m)
    e.isQuiet = true ∧ (∃ cache, m.cache.Grows cache ∧ after = { m with cache }) ∧
      after.lookup "a" = none ∧ after.lookup "$7" = none ∧ after.cache.keys = ["x+"] := by
  intro l number test e m after
  have quiet : e.isQuiet = true := by decide +kernel
  obtain ⟨cache, grown, state⟩ := (Program.empty.reading_changes_nothing quiet).1 9 m
  refine ⟨quiet, ⟨cache, grown, state⟩, ?_, ?_, by decide +kernel⟩
  · change (Run.stateOf (Program.empty.eval 9 e m)).lookup "a" = none
    rw [state]
    rfl
  · change (Run.stateOf (Program.empty.eval 9 e m)).lookup "$7" = none
    rw [state]
    rfl

end PatternAction
