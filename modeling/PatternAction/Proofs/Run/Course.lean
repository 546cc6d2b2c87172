import PatternAction.Proofs.Run.Fields
import PatternAction.Proofs.Run.Pending
import PatternAction.Standard

/-!
The course of a run through its phases.  A log says which blocks were entered, on which lines the
guard of which rule was evaluated, and what steps were taken meanwhile; exits are among these steps.
Each phase goes through its blocks or rules in order up to the first exit, an exit before the last
phase leads on to that phase, and the status of the run is that of the last exit in the log.

Within a phase the flag of a pending exit says just this: it holds the status of the last exit
among the steps taken so far.
-/

set_option autoImplicit false
set_option relaxedAutoImplicit false

namespace PatternAction

open Run

/-! ## Exits -/

def Step.exit? : Step → Option Int
  | .requestExit status => some status
  | _ => none

/-- The statuses of the exits among some events, in order. -/
def exits (t : List Event) : List Int :=
  t.filterMap (·.2.exit?)

private theorem exits_append (t t' : List Event) : exits (t ++ t') = exits t ++ exits t' :=
  List.filterMap_append

private theorem exits_flatMap_eq_nil {α : Type} {log : List α} {events : α → List Event} :
    exits (log.flatMap events) = [] ↔ ∀ a ∈ log, exits (events a) = [] := by
  rw [exits, List.filterMap_flatMap, List.flatMap_eq_nil_iff]
  rfl

section AnyPlatform

variable [Platform]

private theorem Step.exit?_run {s : Step} (script : s.ofPhases = false) (m : Machine) :
    (stateOf (s.run m)).exit? = s.exit?.or m.exit? := by
  have only := s.exists_cache_of_answers m
  cases s with
  | resetRecords | recordCount | takeExit => cases script
  | lookup | global | exitStatus? | pattern | format | fields =>
    obtain ⟨cache, same⟩ := only rfl
    rw [same]
    rfl
  | advance? =>
    simp only [Step.run, Run.advance?]
    split <;> rfl
  | store name value => exact m.exit?_mapScopeOf name (·.insert name value)
  | remove name => exact m.exit?_mapScopeOf name (·.erase name)
  | skipRecords | emit | requestExit | setGlobal => rfl

private theorem Trace.exit? {α : Type} {x : Run α} {m : Machine} {t : List Event}
    (h : Trace (fun s => s.ofPhases = false) x m t) :
    (stateOf (x m)).exit? = (exits t).getLast?.or m.exit? := by
  have always : Always (fun past n => n.exit? = (exits past).getLast?.or m.exit?) [] t ∧
      (stateOf (x m)).exit? = (exits t).getLast?.or m.exit? := by
    refine h.always (fun _ _ _ pending => pending) ?_ rfl
    intro past n s script pending
    rw [Step.exit?_run script, pending, exits_append]
    cases asked : s.exit? with
    | none => simp [exits, asked]
    | some status => simp [exits, asked]
  exact always.2

/-! ## Records -/

/-- The second is the first with some of its lines delivered or skipped. -/
structure Records.Ahead (r r' : Records) : Prop where
  lines : r'.lines = r.lines
  position : r.position ≤ r'.position
  within : r'.position ≤ r'.size

namespace Records

omit [Platform] in
private theorem Ahead.refl {r : Records} (within : r.position ≤ r.size) : r.Ahead r :=
  ⟨rfl, Nat.le_refl _, within⟩

omit [Platform] in
theorem Ahead.trans {a b c : Records} (h : a.Ahead b) (h' : b.Ahead c) : a.Ahead c :=
  ⟨h'.lines.trans h.lines, Nat.le_trans h.position h'.position, h'.within⟩

private theorem ahead_advance {r r' : Records} {scope scope' : Scope} {cache cache' : Pattern.Cache}
    (h : r.advance scope cache = .ok (some (r', scope', cache'))) :
    r.Ahead r' ∧ r'.position = r.position + 1 := by
  obtain ⟨line, fields, found, -, rfl, -⟩ := advance_eq_some h
  have inside : r.position < r.lines.size := (Array.getElem?_eq_some_iff.mp found).1
  exact ⟨⟨rfl, Nat.le_succ _, inside⟩, rfl⟩

end Records

private theorem Step.ahead_run {s : Step} (script : s.ofPhases = false) {m : Machine}
    (within : m.records.position ≤ m.records.size) :
    m.records.Ahead (stateOf (s.run m)).records := by
  have stays := Records.Ahead.refl within
  have only := s.exists_cache_of_answers m
  cases s with
  | resetRecords | recordCount | takeExit => cases script
  | lookup | global | exitStatus? | pattern | format | fields =>
    obtain ⟨cache, same⟩ := only rfl
    rw [same]
    exact stays
  | advance? =>
    simp only [Step.run, Run.advance?]
    split
    · rename_i delivered
      exact (Records.ahead_advance delivered).1
    · exact stays
    · exact stays
  | skipRecords => exact ⟨rfl, within, Nat.le_refl _⟩
  | store name value => exact (m.records_mapScopeOf name (·.insert name value)).symm ▸ stays
  | remove name => exact (m.records_mapScopeOf name (·.erase name)).symm ▸ stays
  | emit | requestExit | setGlobal => exact stays

theorem Trace.ahead {α : Type} {x : Run α} {m : Machine} {t : List Event}
    (h : Trace (fun s => s.ofPhases = false) x m t)
    (within : m.records.position ≤ m.records.size) :
    m.records.Ahead (stateOf (x m)).records := by
  have step (n : Machine) (s : Step) (script : s.ofPhases = false)
      (ahead : m.records.Ahead n.records) : m.records.Ahead (stateOf (s.run n)).records :=
    ahead.trans (s.ahead_run script ahead.within)
  exact (h.keeps (fun _ _ ahead => ahead) step (.refl within)).2

private theorem Run.advance_ok {m m' : Machine} {more : Bool} (h : Run.advance m = .ok more m') :
    (more = false ∧ m' = m ∧ m.records.size ≤ m.records.position) ∨
      (more = true ∧ m'.exit? = m.exit? ∧ m.records.Ahead m'.records ∧
        m'.records.position = m.records.position + 1) := by
  obtain ⟨outcome, m₁, first, rest⟩ := Run.ok_of_bind h
  simp only [Run.advance?] at first
  split at first
  · rename_i records globals cache delivered
    cases first
    cases rest
    obtain ⟨ahead, position⟩ := Records.ahead_advance delivered
    exact .inr ⟨rfl, rfl, ahead, position⟩
  · rename_i none
    cases first
    cases rest
    exact .inl ⟨rfl, rfl, Records.advance_eq_none_iff.mp none⟩
  · cases first
    cases rest

theorem Run.advance_true {m m' : Machine} (h : Run.advance m = .ok true m') :
    m'.exit? = m.exit? ∧ m.records.Ahead m'.records ∧
      m'.records.position = m.records.position + 1 := by
  obtain ⟨no, -⟩ | ⟨-, delivered⟩ := Run.advance_ok h
  · cases no
  · exact delivered

/-! ## Logs -/

/-- A run that succeeds, with the steps it takes; none of them belongs to the phases.  However a
run is taken apart into steps, the last exit among them is the one that is pending afterwards. -/
structure Run.Took {α : Type} (x : Run α) (m : Machine) (t : List Event) (a : α) (m' : Machine) :
    Prop where
  run : x m = .ok a m'
  trace : Trace (fun s => s.ofPhases = false) x m t

/-- A way from one state to another, by one link for each item of a list. -/
inductive Linked {α : Type} (link : Machine → α → Machine → Prop) :
    Machine → List α → Machine → Prop
  | nil (m : Machine) : Linked link m [] m
  | cons {m m₁ m' : Machine} {a : α} {as : List α} :
      link m a m₁ → Linked link m₁ as m' → Linked link m (a :: as) m'

/-- A block is entered, and its statements take these steps. -/
def Entered (exec : Stmt → Run Flow) (m : Machine) (entry : Block × List Event) (m' : Machine) :
    Prop :=
  ∃ flow, Took (Eval.sequence exec entry.1.statements) m entry.2 flow m'

/-- A round of a rule: the line that is taken for it, the steps of the guard and, if the statements
are run, those of the statements. -/
structure Round where
  line : Nat
  guard : List Event
  body : Option (List Event)

def Round.events (r : Round) : List Event :=
  r.guard ++ r.body.getD []

/-- What happens in a round: the next line is taken as a record, and the guard is evaluated once.
The statements are run if the guard holds and there is no exit in it. -/
inductive Round.Done (eval : Expr → Run Value) (exec : Stmt → Run Flow) (rule : Rule) :
    Machine → Round → Machine → Prop
  | guarded {m m₁ m' : Machine} {g : List Event} {holds : Bool} :
      Run.advance m = .ok true m₁ → Took (Phases.applies eval rule.guard) m₁ g holds m' →
      (holds = true → exits g ≠ []) → Done eval exec rule m ⟨m.records.position, g, none⟩ m'
  | applied {m m₁ m₂ m' : Machine} {g b : List Event} {flow : Flow} :
      Run.advance m = .ok true m₁ → Took (Phases.applies eval rule.guard) m₁ g true m₂ →
      exits g = [] → Took (Eval.sequence exec rule.statements) m₂ b flow m' →
      Done eval exec rule m ⟨m.records.position, g, some b⟩ m'

def ExitsLast (log : List (List Event)) : Prop :=
  ∀ t ∈ log.dropLast, exits t = []

/-- A log of what is gone through in order, up to and including the first item in which there is
an exit, and to the end if there is none. -/
structure UpToExit {α : Type} (all : List α) (log : List (α × List Event)) : Prop where
  inOrder : log.map Prod.fst <+: all
  firstExit : ExitsLast (log.map Prod.snd)
  toTheEnd : (∀ entry ∈ log, exits entry.2 = []) → log.map Prod.fst = all

/-- A rule is applied from the first line on, in the order of the lines, up to the first exit, and
as long as lines are left if there is none. -/
structure Applied (eval : Expr → Run Value) (exec : Stmt → Run Flow) (m : Machine)
    (entry : Rule × List Round) (m' : Machine) : Prop where
  rounds : Linked (Round.Done eval exec entry.1) { m with records := m.records.reset } entry.2 m'
  inOrder : (entry.2.map Round.line).Pairwise (· < ·)
  firstExit : ExitsLast (entry.2.map Round.events)
  toTheEnd : (∀ r ∈ entry.2, exits r.events = []) → m'.records.size ≤ m'.records.position

/-- The steps taken by a rule. -/
def ruleEvents (entry : Rule × List Round) : List Event :=
  entry.2.flatMap Round.events

/-! ## What is pending behind a log -/

private theorem Run.Took.exit? {α : Type} {x : Run α} {m m' : Machine} {t : List Event} {a : α}
    (h : Took x m t a m') : m'.exit? = (exits t).getLast?.or m.exit? := by
  have last := h.trace.exit?
  rwa [h.run] at last

private theorem Run.Took.ahead {α : Type} {x : Run α} {m m' : Machine} {t : List Event} {a : α}
    (h : Took x m t a m') (within : m.records.position ≤ m.records.size) :
    m.records.Ahead m'.records := by
  have ahead := h.trace.ahead within
  rwa [h.run] at ahead

omit [Platform] in
private theorem Linked.exit? {α : Type} {link : Machine → α → Machine → Prop} {m m' : Machine}
    {log : List α} (h : Linked link m log m') (events : α → List Event)
    (each : ∀ {m a m'}, link m a m' → m'.exit? = (exits (events a)).getLast?.or m.exit?) :
    m'.exit? = (exits (log.flatMap events)).getLast?.or m.exit? := by
  induction h with
  | nil m => rfl
  | cons first _ ih =>
    rw [ih, each first, List.flatMap_cons, exits_append, List.getLast?_append, Option.or_assoc]

section Links

variable {eval : Expr → Run Value} {exec : Stmt → Run Flow} {m m' : Machine}

private theorem Entered.exit? {entry : Block × List Event} (h : Entered exec m entry m') :
    m'.exit? = (exits entry.2).getLast?.or m.exit? := by
  obtain ⟨flow, took⟩ := h
  exact took.exit?

private theorem Round.Done.ahead {rule : Rule} {r : Round} (h : Round.Done eval exec rule m r m') :
    r.line = m.records.position ∧ m.records.Ahead m'.records ∧ r.line < m'.records.position := by
  cases h with
  | guarded taken guard =>
    obtain ⟨-, ahead, position⟩ := Run.advance_true taken
    have later := guard.ahead ahead.within
    have behind := later.position
    exact ⟨rfl, ahead.trans later, by simp only; omega⟩
  | applied taken guard _ body =>
    obtain ⟨-, ahead, position⟩ := Run.advance_true taken
    have middle := guard.ahead ahead.within
    have later := middle.trans (body.ahead middle.within)
    have behind := later.position
    exact ⟨rfl, ahead.trans later, by simp only; omega⟩

private theorem Round.Done.exit? {rule : Rule} {r : Round} (h : Round.Done eval exec rule m r m') :
    m'.exit? = (exits r.events).getLast?.or m.exit? := by
  cases h with
  | @guarded _ _ g _ taken guard =>
    have whole : Round.events ⟨m.records.position, g, none⟩ = g := List.append_nil g
    rw [whole, guard.exit?, (Run.advance_true taken).1]
  | @applied _ _ _ g b _ taken guard _ body =>
    have whole : Round.events ⟨m.records.position, g, some b⟩ = g ++ b := rfl
    rw [whole, body.exit?, guard.exit?, (Run.advance_true taken).1, exits_append,
      List.getLast?_append, Option.or_assoc]

private theorem Applied.exit? {entry : Rule × List Round} (h : Applied eval exec m entry m') :
    m'.exit? = (exits (ruleEvents entry)).getLast?.or m.exit? :=
  h.rounds.exit? Round.events fun done => done.exit?

end Links

/-! ## Going on until there is an exit -/

omit [Platform] in
private theorem ExitsLast.cons {t : List Event} {log : List (List Event)} (h : ExitsLast log)
    (quiet : exits t = [] ∨ log = []) : ExitsLast (t :: log) := by
  intro u mem
  cases log with
  | nil => cases mem
  | cons v log =>
    rcases List.mem_cons.mp mem with rfl | behind
    · exact quiet.resolve_right nofun
    · exact h u behind

omit [Platform] in
private theorem exits_eq_nil_iff {m : Machine} {t : List Event}
    (last : m.exit? = (exits t).getLast?) :
    exits t = [] ↔ m.exit? = none := by
  rw [last, List.getLast?_eq_none_iff]

/-- What is gone through from a state on, which is nothing if an exit is pending there. -/
def GoesOn {α : Type} (m : Machine) (all : List α) (log : List (α × List Event)) : Prop :=
  (m.exit? = none → UpToExit all log) ∧ (m.exit? ≠ none → log = [])

section GoesOn

omit [Platform]

variable {α : Type} {all : List α} {log : List (α × List Event)}

private theorem goesOn_nil (m : Machine) : GoesOn m ([] : List α) [] :=
  ⟨fun _ => ⟨List.prefix_rfl, nofun, fun _ => rfl⟩, fun _ => rfl⟩

private theorem goesOn_of_pending {m : Machine} {status : Int} (pending : m.exit? = some status) :
    GoesOn m all [] :=
  ⟨fun none => absurd (pending.symm.trans none) (Option.some_ne_none status), fun _ => rfl⟩

private theorem GoesOn.cons {m m₁ : Machine} {a : α} {t : List Event} (running : m.exit? = none)
    (last : m₁.exit? = (exits t).getLast?.or m.exit?) (rest : GoesOn m₁ all log) :
    GoesOn m (a :: all) ((a, t) :: log) := by
  refine ⟨fun _ => ?_, fun pending => absurd running pending⟩
  rw [running, Option.or_none] at last
  by_cases quiet : exits t = []
  · have others := rest.1 ((exits_eq_nil_iff last).mp quiet)
    refine ⟨List.cons_prefix_cons.mpr ⟨rfl, others.inOrder⟩, others.firstExit.cons (.inl quiet), ?_⟩
    intro none
    have whole := others.toTheEnd fun entry mem => none entry (List.mem_cons_of_mem _ mem)
    rw [List.map_cons, whole]
  · have stops : log = [] := rest.2 fun none => quiet ((exits_eq_nil_iff last).mpr none)
    subst stops
    refine ⟨List.cons_prefix_cons.mpr ⟨rfl, List.nil_prefix⟩, nofun, ?_⟩
    intro none
    exact absurd (none (a, t) List.mem_cons_self) quiet

end GoesOn

/-- The rounds of a rule from a state on: they go from line to line up to the first exit, and as
long as lines are left if there is none.  There are none if an exit is pending at the start. -/
structure RoundsFrom (m : Machine) (log : List Round) (m' : Machine) : Prop where
  inOrder : (log.map Round.line).Pairwise (· < ·)
  ahead : ∀ r ∈ log, m.records.position ≤ r.line
  firstExit : ExitsLast (log.map Round.events)
  toTheEnd : m.exit? = none → (∀ r ∈ log, exits r.events = []) →
    m'.records.size ≤ m'.records.position
  pending : m.exit? ≠ none → log = []

omit [Platform] in
private theorem roundsFrom_nil {m : Machine}
    (stops : m.exit? = none → m.records.size ≤ m.records.position) : RoundsFrom m [] m :=
  ⟨.nil, nofun, nofun, fun running _ => stops running, fun _ => rfl⟩

private theorem RoundsFrom.cons {eval : Expr → Run Value} {exec : Stmt → Run Flow} {rule : Rule}
    {m m₁ m' : Machine} {r : Round} {log : List Round} (running : m.exit? = none)
    (done : Round.Done eval exec rule m r m₁) (rest : RoundsFrom m₁ log m') :
    RoundsFrom m (r :: log) m' := by
  obtain ⟨line, -, behind⟩ := done.ahead
  have last : m₁.exit? = (exits r.events).getLast? := by
    rw [done.exit?, running, Option.or_none]
  have quiet : exits r.events = [] ∨ log = [] := by
    by_cases none : m₁.exit? = none
    · exact .inl ((exits_eq_nil_iff last).mpr none)
    · exact .inr (rest.pending none)
  refine ⟨?_, ?_, ?_, ?_, fun pending => absurd running pending⟩
  · refine List.pairwise_cons.mpr ⟨fun n mem => ?_, rest.inOrder⟩
    obtain ⟨r', later, rfl⟩ := List.mem_map.mp mem
    have := rest.ahead r' later
    omega
  · intro r' mem
    rcases List.mem_cons.mp mem with rfl | later
    · omega
    · have := rest.ahead r' later
      omega
  · exact rest.firstExit.cons (quiet.imp_right fun nil => by rw [nil, List.map_nil])
  · intro _ none
    obtain ⟨here, others⟩ := List.forall_mem_cons.mp none
    exact rest.toTheEnd ((exits_eq_nil_iff last).mp here) others

namespace Phases

variable {eval : Expr → Run Value} {exec : Stmt → Run Flow}
variable (hexec : ∀ s, Composed .script (exec s))

include hexec in
private theorem blocks_ok {bs : List Block} {m m' : Machine} (run : blocks exec bs m = .ok () m') :
    ∃ log, Linked (Entered exec) m log m' ∧ GoesOn m bs log := by
  induction bs generalizing m with
  | nil =>
    cases run
    exact ⟨[], .nil _, goesOn_nil _⟩
  | cons b bs ih =>
    rw [blocks, Run.exitPending_bind] at run
    cases pending : m.exit? with
    | some status =>
      rw [pending] at run
      cases run
      exact ⟨[], .nil _, goesOn_of_pending pending⟩
    | none =>
      rw [pending] at run
      obtain ⟨flow, m₁, first, rest⟩ := Run.ok_of_bind run
      obtain ⟨t, trace⟩ := (Eval.composed_sequence hexec b.statements).trace m
      have entered : Entered exec m (b, t) m₁ := ⟨flow, first, trace⟩
      obtain ⟨log, chain, goesOn⟩ := ih rest
      exact ⟨(b, t) :: log, .cons entered chain, goesOn.cons pending entered.exit?⟩

variable (hguard : ∀ guard, Composed .script (applies eval guard))
include hexec hguard

private theorem round_done {rule : Rule} {rest : Run Unit} {m m₁ m' : Machine}
    (running : m.exit? = none) (taken : Run.advance m = .ok true m₁)
    (run : (do
      if ← applies eval rule.guard then
        let _ ← Eval.sequence exec rule.statements
      rest) m₁ = .ok () m') :
    ∃ r m₂, Round.Done eval exec rule m r m₂ ∧ rest m₂ = .ok () m' := by
  obtain ⟨g, trace⟩ := (hguard rule.guard).trace m₁
  obtain ⟨holds, m₂, guard, run⟩ := Run.ok_of_bind run
  have took : Took (applies eval rule.guard) m₁ g holds m₂ := ⟨guard, trace⟩
  have last : m₂.exit? = (exits g).getLast? := by
    rw [took.exit?, (Run.advance_true taken).1, running, Option.or_none]
  cases holds with
  | false => exact ⟨_, m₂, .guarded taken took nofun, run⟩
  | true =>
    obtain ⟨flow, m₃, body, run⟩ := Run.ok_of_bind run
    by_cases quiet : exits g = []
    · obtain ⟨b, trace'⟩ := (Eval.composed_sequence hexec rule.statements).trace m₂
      exact ⟨_, m₃, .applied taken took quiet ⟨body, trace'⟩, run⟩
    · have pending : m₂.exit? ≠ none := fun none => quiet ((exits_eq_nil_iff last).mpr none)
      rw [Eval.sequence_of_pending pending] at body
      cases body
      exact ⟨_, m₂, .guarded taken took fun _ => quiet, run⟩

/-- A rule is applied until there is an exit or the lines are used up; as many rounds as there are
lines are enough, because each takes a line and none goes back. -/
private theorem rounds_ok {rule : Rule} {count : Nat} {m m' : Machine}
    (within : m.records.position ≤ m.records.size)
    (enough : m.records.size ≤ m.records.position + count)
    (run : rounds eval exec rule count m = .ok () m') :
    ∃ log, Linked (Round.Done eval exec rule) m log m' ∧ RoundsFrom m log m' := by
  induction count generalizing m with
  | zero =>
    cases run
    exact ⟨[], .nil _, roundsFrom_nil fun _ => enough⟩
  | succ count ih =>
    rw [rounds, Run.exitPending_bind] at run
    cases pending : m.exit? with
    | some status =>
      rw [pending] at run
      cases run
      refine ⟨[], .nil _, roundsFrom_nil fun none => ?_⟩
      exact absurd (pending.symm.trans none) (Option.some_ne_none status)
    | none =>
      rw [pending] at run
      obtain ⟨more, m₁, taken, others⟩ := Run.ok_of_bind run
      cases more with
      | false =>
        obtain ⟨-, rfl, usedUp⟩ | ⟨no, -⟩ := Run.advance_ok taken
        · cases others
          exact ⟨[], .nil _, roundsFrom_nil fun _ => usedUp⟩
        · cases no
      | true =>
        obtain ⟨r, m₂, done, rest⟩ := round_done hexec hguard pending taken others
        obtain ⟨line, ahead, behind⟩ := done.ahead
        have lines : m₂.records.size = m.records.size := congrArg Array.size ahead.lines
        obtain ⟨log, chain, rounds⟩ := ih ahead.within (by omega) rest
        exact ⟨r :: log, .cons done chain, rounds.cons pending done⟩

private theorem rules_ok {rs : List Rule} {m m' : Machine}
    (run : rules eval exec rs m = .ok () m') :
    ∃ log, Linked (Applied eval exec) m log m' ∧
      GoesOn m rs (log.map fun entry => (entry.1, ruleEvents entry)) := by
  induction rs generalizing m with
  | nil =>
    cases run
    exact ⟨[], .nil _, goesOn_nil _⟩
  | cons rule rs ih =>
    rw [rules, Run.exitPending_bind] at run
    cases pending : m.exit? with
    | some status =>
      rw [pending] at run
      cases run
      exact ⟨[], .nil _, goesOn_of_pending pending⟩
    | none =>
      rw [pending] at run
      obtain ⟨_, m₁, reset, run⟩ := Run.ok_of_bind run
      obtain ⟨count, m₂, size, run⟩ := Run.ok_of_bind run
      cases reset
      cases size
      obtain ⟨_, m₃, first, rest⟩ := Run.ok_of_bind run
      obtain ⟨log, chain, rounds⟩ := rounds_ok hexec hguard (Nat.zero_le _)
        (Nat.le_add_left _ _) first
      have applied : Applied eval exec m (rule, log) m₃ :=
        ⟨chain, rounds.inOrder, rounds.firstExit, rounds.toTheEnd pending⟩
      obtain ⟨others, chain, goesOn⟩ := ih rest
      exact ⟨(rule, log) :: others, .cons applied chain, goesOn.cons pending applied.exit?⟩

end Phases

/-! ## The course of a run -/

/-- What happens in a run, phase by phase. -/
structure Course where
  begins : List (Block × List Event)
  rules : List (Rule × List Round)
  ends : List (Block × List Event)

/-- The steps taken in the blocks and rules of a run, in order. -/
def Course.events (c : Course) : List Event :=
  c.begins.flatMap Prod.snd ++ c.rules.flatMap ruleEvents ++ c.ends.flatMap Prod.snd

/-- A run takes this course from a start to an end.  The blocks before the first record are entered
up to the first exit.  If there is none among them, the rules are applied up to the first exit, and
otherwise no rule is.  In any case the exit is then forgotten, and the blocks after the last record
are entered up to the first exit.  The status is that of the last exit of all, or zero. -/
structure Program.Takes (p : Program) (fuel : Nat) (start : Machine) (c : Course) (status : Int)
    (final : Machine) : Prop where
  phases : ∃ m₁ m₂, Linked (Entered (p.exec fuel)) start c.begins m₁ ∧
    Linked (Applied (p.eval fuel) (p.exec fuel)) m₁ c.rules m₂ ∧
    Linked (Entered (p.exec fuel)) { m₂ with exit? := none } c.ends final
  begins : UpToExit p.begins c.begins
  rules : (∀ entry ∈ c.begins, exits entry.2 = []) →
    UpToExit p.rules (c.rules.map fun entry => (entry.1, ruleEvents entry))
  noRules : (∃ entry ∈ c.begins, exits entry.2 ≠ []) → c.rules = []
  ends : UpToExit p.ends c.ends
  status : status = (exits c.events).getLast?.getD 0

theorem Program.composed_applies (p : Program) (fuel : Nat) (guard : Option Expr) :
    Composed .script (Phases.applies (p.eval fuel) guard) := by
  have functions := (p.asks_of_full Licence.full_script).functions
  have heval (e : Expr) := twin_eval reads_of_script functions fuel
    (e.asks_of_open Licence.full_script.toOpen)
  exact ((Twin.compositional reads_of_script).applies fun e _ => heval e).composed

private theorem Program.takes_of_run {p : Program} {fuel : Nat} {start final : Machine}
    {status : Int} (fresh : start.exit? = none) (run : p.run fuel start = .ok status final) :
    ∃ c, p.Takes fuel start c status final := by
  have hexec := p.composed_exec fuel
  obtain ⟨_, m₁, begun, run⟩ := Run.ok_of_bind run
  obtain ⟨_, m₂, ruled, run⟩ := Run.ok_of_bind run
  obtain ⟨pending, m₃, taken, run⟩ := Run.ok_of_bind run
  cases taken
  obtain ⟨_, m₄, ended, run⟩ := Run.ok_of_bind run
  cases run
  obtain ⟨begins, beginChain, beginsGoOn⟩ := Phases.blocks_ok hexec begun
  obtain ⟨rules, ruleChain, rulesGoOn⟩ := Phases.rules_ok hexec (p.composed_applies fuel) ruled
  obtain ⟨ends, endChain, endsGoOn⟩ := Phases.blocks_ok hexec ended
  -- Behind each phase the flag holds the last exit of the phases since it was forgotten.
  have lastBegun : m₁.exit? = (exits (begins.flatMap Prod.snd)).getLast? := by
    rw [beginChain.exit? Prod.snd fun entered => entered.exit?, fresh, Option.or_none]
  have lastRuled : m₂.exit? =
      (exits (begins.flatMap Prod.snd ++ rules.flatMap ruleEvents)).getLast? := by
    rw [ruleChain.exit? ruleEvents fun applied => applied.exit?, lastBegun, exits_append,
      List.getLast?_append]
  have lastEnded : final.exit? = (exits (ends.flatMap Prod.snd)).getLast? :=
    (endChain.exit? Prod.snd fun entered => entered.exit?).trans (Option.or_none ..)
  refine ⟨⟨begins, rules, ends⟩, ⟨m₁, m₂, beginChain, ruleChain, endChain⟩, beginsGoOn.1 fresh,
    fun quiet => ?_, fun loud => ?_, endsGoOn.1 rfl, ?_⟩
  · exact rulesGoOn.1 ((exits_eq_nil_iff lastBegun).mp (exits_flatMap_eq_nil.mpr quiet))
  · obtain ⟨entry, mem, some⟩ := loud
    have pending : m₁.exit? ≠ none := fun none =>
      some (exits_flatMap_eq_nil.mp ((exits_eq_nil_iff lastBegun).mpr none) entry mem)
    exact List.map_eq_nil_iff.mp (rulesGoOn.2 pending)
  · rw [Course.events, exits_append, List.getLast?_append, ← lastRuled, ← lastEnded]

/-- The run of any script that succeeds, on any records and however it was set up, takes a course
through its phases.  And no statement is started in it while an exit is pending: the run is the same
whatever else statements would do then, those of blocks, of rules and of functions alike. -/
theorem Program.phases_until_exit {p : Program} {fuel : Nat} {records : Records} {setup : Setup}
    {status : Int} {final : Machine}
    (run : p.run fuel ((Machine.ofRecords records).setUp setup) = .ok status final) :
    (∃ c, p.Takes fuel ((Machine.ofRecords records).setUp setup) c status final) ∧
      ∀ other, p.runOver (p.evalElse other fuel) (p.execElse other fuel) = p.run fuel := by
  refine ⟨takes_of_run ?_ run, fun other => p.runOver_else other fuel⟩
  rw [Machine.setUp_eq]
  rfl

end AnyPlatform

/-- An exit in the first of two rules, on the second of three lines, and another one in the second
of three blocks after the records. -/
theorem Program.phases_until_exit_twice :
    let source :=
      "BEGIN \x7b print 2 \x7d `b` \x7b print; exit 3; print 7 \x7d \x7b print 9 \x7d " ++
      "END \x7b print 5 \x7d END \x7b exit 4; print 0 \x7d END \x7b print 1 \x7d"
    let start := (Machine.ofRecords (.ofLines ["a", "b", "c"])).setUp ⟨none, none, []⟩
    ∃ p final, ofSource source = .ok p ∧ p.run 40 start = .ok 4 final ∧
      final.output = "2\nb\n5\n" ∧ ∃ c, p.Takes 40 start c 4 final := by
  intro source start
  have outcome : ((ofSource source).toOption.bind fun p =>
      match p.run 40 start with
      | .ok status m => some (status, m.output)
      | .error _ _ => none) = some (4, "2\nb\n5\n") := by decide +kernel
  cases read : ofSource source with
  | error halt =>
    rw [read] at outcome
    cases outcome
  | ok p =>
    rw [read] at outcome
    cases run : p.run 40 start with
    | error halt m =>
      simp only [Except.toOption, Option.bind_some, run] at outcome
      cases outcome
    | ok status final =>
      simp only [Except.toOption, Option.bind_some, run] at outcome
      obtain ⟨rfl, output⟩ := Prod.mk.inj (Option.some.inj outcome)
      exact ⟨p, final, rfl, run, output, (phases_until_exit run).1⟩

end PatternAction
