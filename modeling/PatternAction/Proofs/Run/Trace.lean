import PatternAction.Proofs.Printf.Places
import PatternAction.Proofs.Run.Step

/-!
Traces: the elementary steps that a run takes, each with the state in which it is taken, so that
every point of a run can be spoken of.  What is composed of steps has a trace from every state.  A
property of the steps taken so far and of the present state, which does not look at the calls that
are active, holds at every point of a run if it holds at the start and each step keeps it.  A run is
aborted exactly if a step of its trace aborts it.
-/

set_option autoImplicit false
set_option relaxedAutoImplicit false

namespace PatternAction

/-- A step, in the state in which it is taken. -/
abbrev Event := Machine × Step

def Run.stateOf {α : Type} : EStateM.Result RunHalt Machine α → Machine
  | .ok _ m => m
  | .error _ m => m

def Run.answer? {α : Type} : EStateM.Result RunHalt Machine α → Option α
  | .ok a _ => some a
  | .error _ _ => none

theorem Run.eq_ok_of_answer? {α : Type} {r : EStateM.Result RunHalt Machine α} {a : α}
    (h : answer? r = some a) : r = .ok a (stateOf r) := by
  cases r with
  | ok b m =>
    cases h
    rfl
  | error halt m => cases h

theorem Run.stateOf_withFrame {α : Type} (frame : Scope) (body : Run α) (m : Machine) :
    let inner := stateOf (body { m with frames := frame :: m.frames })
    stateOf (Run.withFrame frame body m) = { inner with frames := inner.frames.tail } := by
  simp only [Run.withFrame]
  cases body { m with frames := frame :: m.frames } with
  | ok a m' => rfl
  | error halt m' => rfl

variable [Platform]

theorem Step.exists_cache_of_answers (s : Step) (m : Machine) (only : s.answers = true) :
    ∃ cache, Run.stateOf (s.run m) = { m with cache } := by
  cases s with
  | pattern text =>
    simp only [Step.run, Run.pattern]
    split <;> exact ⟨_, rfl⟩
  | format fmt args =>
    simp only [Step.run, Run.format]
    split <;> exact ⟨_, rfl⟩
  | fields text separator =>
    simp only [Step.run, Run.fields]
    split <;> exact ⟨_, rfl⟩
  | lookup | global | exitStatus? | recordCount => exact ⟨m.cache, rfl⟩
  | _ => cases only

/-- A step that neither binds nor unbinds a name leaves all bindings as they are, unless it delivers
a record. -/
theorem Step.bindings_run {s : Step} (other : s.binds = false) (m : Machine) :
    (Run.stateOf (s.run m)).frames = m.frames ∧
      ((Run.stateOf (s.run m)).globals = m.globals ∨
        ∃ line fields, (Run.stateOf (s.run m)).globals = Records.publish m.globals line fields
          m.records.fields (m.records.nr + 1) (m.records.fnr + 1)) := by
  have only := s.exists_cache_of_answers m
  cases s with
  | store | remove | setGlobal => cases other
  | lookup | global | exitStatus? | pattern | format | fields | recordCount =>
    obtain ⟨cache, same⟩ := only rfl
    rw [same]
    exact ⟨rfl, .inl rfl⟩
  | advance? =>
    simp only [Step.run, Run.advance?]
    split
    · rename_i delivered
      obtain ⟨line, fields, -, -, -, rfl⟩ := Records.advance_eq_some delivered
      exact ⟨rfl, .inr ⟨line, fields, rfl⟩⟩
    · exact ⟨rfl, .inl rfl⟩
    · exact ⟨rfl, .inl rfl⟩
  | resetRecords | skipRecords | emit | requestExit | takeExit => exact ⟨rfl, .inl rfl⟩

/-- The allowed steps that a run takes from a state on, in order. -/
inductive Trace (allowed : Step → Prop) : {α : Type} → Run α → Machine → List Event → Prop
  | pure {α : Type} (a : α) (m : Machine) : Trace allowed (Pure.pure a : Run α) m []
  | throw {α : Type} (halt : RunHalt) (m : Machine) :
      halt ≠ .aborted → Trace allowed (throw halt : Run α) m []
  | bind {α β : Type} {x : Run α} {f : α → Run β} {m m' : Machine} {a : α} {t t' : List Event} :
      Trace allowed x m t → x m = .ok a m' → Trace allowed (f a) m' t' →
      Trace allowed (x >>= f) m (t ++ t')
  | fail {α β : Type} {x : Run α} {f : α → Run β} {m m' : Machine} {halt : RunHalt}
      {t : List Event} :
      Trace allowed x m t → x m = .error halt m' → Trace allowed (x >>= f) m t
  | withFrame {α : Type} {frame : Scope} {body : Run α} {m : Machine} {t : List Event} :
      Trace allowed body { m with frames := frame :: m.frames } t →
      Trace allowed (Run.withFrame frame body) m t
  | step (s : Step) (m : Machine) : allowed s → Trace allowed s.run m [(m, s)]

variable {α : Type} {allowed : Step → Prop}

theorem Composed.trace {licence : Licence} {x : Run α} (h : Composed licence x) (m : Machine) :
    ∃ t, Trace licence.step x m t := by
  induction h generalizing m with
  | pure a => exact ⟨[], .pure a m⟩
  | throw halt ok => exact ⟨[], .throw halt m fun aborted => licence.noAbort (aborted ▸ ok)⟩
  | @bind _ _ x f _ _ ihx ihf =>
    obtain ⟨t, first⟩ := ihx m
    cases run : x m with
    | ok a m' =>
      obtain ⟨t', second⟩ := ihf a m'
      exact ⟨t ++ t', .bind first run second⟩
    | error halt m' => exact ⟨t, .fail first run⟩
  | withFrame frame _ ih =>
    obtain ⟨t, body⟩ := ih { m with frames := frame :: m.frames }
    exact ⟨t, .withFrame body⟩
  | step s ok => exact ⟨[(m, s)], .step s m ok⟩

private theorem Step.aborted_iff (s : Step) (m : Machine) :
    (∃ m', s.run m = .error .aborted m') ↔ s.aborts = true := by
  cases s with
  | format fmt args =>
    simp only [Step.run, Run.format, Step.aborts]
    cases Printf.sprintf fmt args with
    | some text => exact iff_of_false (by rintro ⟨m', ⟨⟩⟩) Bool.false_ne_true
    | none => exact iff_of_true ⟨m, rfl⟩ rfl
  | pattern text =>
    simp only [Step.run, Run.pattern]
    split <;> exact iff_of_false (by rintro ⟨m', ⟨⟩⟩) Bool.false_ne_true
  | fields text separator =>
    simp only [Step.run, Run.fields]
    split <;> exact iff_of_false (by rintro ⟨m', ⟨⟩⟩) Bool.false_ne_true
  | advance? =>
    simp only [Step.run, Run.advance?]
    split <;> exact iff_of_false (by rintro ⟨m', ⟨⟩⟩) Bool.false_ne_true
  | _ => exact iff_of_false (by rintro ⟨m', ⟨⟩⟩) Bool.false_ne_true

theorem Trace.aborted_iff {x : Run α} {m : Machine} {t : List Event} (h : Trace allowed x m t) :
    (∃ m', x m = .error .aborted m') ↔ ∃ e ∈ t, e.2.aborts = true := by
  induction h with
  | pure a m => exact iff_of_false (by rintro ⟨m', ⟨⟩⟩) (by simp)
  | throw halt m other =>
    refine iff_of_false ?_ (by simp)
    rintro ⟨m', ⟨⟩⟩
    exact other rfl
  | @bind _ _ x f m m' a t t' _ run _ ihx ihf =>
    have quiet : ¬ ∃ e ∈ t, e.2.aborts = true := by
      rw [← ihx, run]
      rintro ⟨m'', ⟨⟩⟩
    rw [Run.bind_ok run, ihf]
    simp only [List.mem_append, or_and_right, exists_or, quiet, false_or]
  | fail _ run ih =>
    rw [run] at ih
    rw [Run.bind_error run, ← ih]
    constructor <;> rintro ⟨m', same⟩ <;> cases same <;> exact ⟨_, rfl⟩
  | @withFrame _ frame body m t _ ih =>
    rw [← ih]
    simp only [Run.withFrame]
    cases body { m with frames := frame :: m.frames } with
    | ok a m' => constructor <;> rintro ⟨m', ⟨⟩⟩
    | error halt m' => constructor <;> rintro ⟨m', ⟨⟩⟩ <;> exact ⟨_, rfl⟩
  | step s m _ => simpa using s.aborted_iff m

omit [Platform] in
theorem exists_aborts_iff {t : List Event} :
    (∃ e ∈ t, e.2.aborts = true) ↔ ∃ m fmt args, (m, .format fmt args) ∈ t ∧
      Printf.Overlong fmt ∧ Printf.sprintf fmt args = none := by
  constructor
  · rintro ⟨⟨m, s⟩, mem, aborts⟩
    cases s with
    | format fmt args =>
      have refused : Printf.sprintf fmt args = none := Option.isNone_iff_eq_none.mp aborts
      exact ⟨m, fmt, args, mem, Printf.overlong_of_sprintf refused, refused⟩
    | _ => cases aborts
  · rintro ⟨m, fmt, args, mem, -, refused⟩
    exact ⟨_, mem, Option.isNone_iff_eq_none.mpr refused⟩

private theorem Trace.allowed_of_mem {x : Run α} {m : Machine} {t : List Event}
    (h : Trace allowed x m t) :
    ∀ e ∈ t, allowed e.2 := by
  induction h with
  | pure | throw => exact List.forall_mem_nil _
  | bind _ _ _ ihx ihf => exact List.forall_mem_append.mpr ⟨ihx, ihf⟩
  | fail _ _ ih => exact ih
  | withFrame _ ih => exact ih
  | step s m ok => exact List.forall_mem_singleton.mpr ok

theorem Composed.ne_aborted {licence : Licence} {x : Run α} (h : Composed licence x)
    (quiet : ∀ s, licence s → s.aborts = false) (m m' : Machine) : x m ≠ .error .aborted m' := by
  intro aborted
  obtain ⟨t, trace⟩ := h.trace m
  obtain ⟨e, mem, aborts⟩ := trace.aborted_iff.mp ⟨m', aborted⟩
  rw [quiet e.2 (trace.allowed_of_mem e mem)] at aborts
  cases aborts

/-- A property of the past and the present, at each of the coming steps. -/
def Always (I : List Event → Machine → Prop) (past : List Event) : List Event → Prop
  | [] => True
  | e :: t => I past e.1 ∧ Always I (past ++ [e]) t

namespace Always

omit [Platform]

variable {I : List Event → Machine → Prop}

private theorem append {past t t' : List Event} (h : Always I past t)
    (h' : Always I (past ++ t) t') :
    Always I past (t ++ t') := by
  induction t generalizing past with
  | nil => simpa using h'
  | cons e t ih =>
    refine ⟨h.1, ih h.2 ?_⟩
    simpa using h'

theorem at_point {past before after : List Event} {e : Event}
    (h : Always I past (before ++ e :: after)) : I (past ++ before) e.1 := by
  induction before generalizing past with
  | nil => simpa using h.1
  | cons b before ih =>
    have later := ih h.2
    simpa using later

end Always

theorem Trace.always {I : List Event → Machine → Prop}
    (frames : ∀ past m fs, I past m → I past { m with frames := fs })
    (step : ∀ past m s, allowed s → I past m → I (past ++ [(m, s)]) (Run.stateOf (s.run m)))
    {x : Run α} {m : Machine} {t : List Event} (h : Trace allowed x m t) {past : List Event}
    (start : I past m) : Always I past t ∧ I (past ++ t) (Run.stateOf (x m)) := by
  induction h generalizing past with
  | pure a m => exact ⟨trivial, by rwa [List.append_nil]⟩
  | throw halt m _ => exact ⟨trivial, by rwa [List.append_nil]⟩
  | bind _ run _ ihx ihf =>
    have first := ihx start
    rw [run] at first
    have second := ihf first.2
    rw [Run.bind_ok run]
    exact ⟨first.1.append second.1, by rw [← List.append_assoc]; exact second.2⟩
  | fail _ run ih =>
    have first := ih start
    rw [run] at first
    rw [Run.bind_error run]
    exact first
  | @withFrame _ frame body m t _ ih =>
    have inner := ih (frames past m _ start)
    refine ⟨inner.1, ?_⟩
    -- Leaving the call changes nothing but the frames.
    rw [Run.stateOf_withFrame]
    exact frames _ _ _ inner.2
  | step s m ok => exact ⟨⟨start, trivial⟩, step past m s ok start⟩

/-- What each step keeps of the state alone holds before all steps, and behind the last one. -/
theorem Trace.keeps {I : Machine → Prop} (frames : ∀ m fs, I m → I { m with frames := fs })
    (step : ∀ m s, allowed s → I m → I (Run.stateOf (s.run m))) {x : Run α} {m : Machine}
    {t : List Event} (h : Trace allowed x m t) (start : I m) :
    (∀ e ∈ t, I e.1) ∧ I (Run.stateOf (x m)) := by
  have always : Always (fun _ m => I m) [] t ∧ I (Run.stateOf (x m)) :=
    h.always (fun _ => frames) (fun _ => step) start
  refine ⟨fun e mem => ?_, always.2⟩
  obtain ⟨before, after, rfl⟩ := List.append_of_mem mem
  exact always.1.at_point

end PatternAction
