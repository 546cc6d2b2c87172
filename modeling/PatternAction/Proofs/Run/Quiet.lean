import PatternAction.Proofs.Run.Advance
import PatternAction.Proofs.Run.Cached
import PatternAction.Proofs.Run.Fuel

/-!
Quiet expressions.  An expression without assignments and calls only looks at the state.  All that
it may change is which patterns are held, and that makes no difference to what a pattern is.  So a
quiet expression comes to the same value again, as long as nothing else changes the state.
-/

set_option autoImplicit false
set_option relaxedAutoImplicit false

namespace PatternAction

variable [Platform]

/-! ## Caches that answer alike -/

namespace Pattern.Cache

def answer (c : Cache) (text : String) : Except Fault Pattern :=
  (c.compile text).map Prod.fst

private theorem answer_eq (c : Cache) (text : String) :
    c.answer text = c.entries[text]?.elim (Platform.compile text) .ok := by
  unfold answer compile
  cases c.entries[text]? with
  | some p => rfl
  | none => cases Platform.compile text <;> rfl

def Agrees (c c' : Cache) : Prop :=
  ∀ text, c.answer text = c'.answer text

namespace Agrees

variable {c c' : Cache}

private theorem refl (c : Cache) : c.Agrees c :=
  fun _ => rfl

private theorem symm (h : c.Agrees c') : c'.Agrees c :=
  fun text => (h text).symm

theorem trans {c'' : Cache} (h : c.Agrees c') (h' : c'.Agrees c'') : c.Agrees c'' :=
  fun text => (h text).trans (h' text)

private theorem compile_ok (h : c.Agrees c') {text : String} {p : Pattern} {d : Cache}
    (compiled : c.compile text = .ok (p, d)) : ∃ d', c'.compile text = .ok (p, d') := by
  have same := h text
  unfold answer at same
  rw [compiled] at same
  cases compiled' : c'.compile text with
  | error f =>
    rw [compiled'] at same
    cases same
  | ok found =>
    rw [compiled'] at same
    obtain ⟨q, d'⟩ := found
    obtain rfl : p = q := Except.ok.inj same
    exact ⟨d', rfl⟩

private theorem compile_error (h : c.Agrees c') {text : String} {f : Fault}
    (refused : c.compile text = .error f) : c'.compile text = .error f := by
  have same := h text
  unfold answer at same
  rw [refused] at same
  cases refused' : c'.compile text with
  | error f' =>
    rw [refused'] at same
    rw [Except.error.inj same]
  | ok found =>
    rw [refused'] at same
    cases same

private theorem of_compile {text : String} {p : Pattern} (compiled : c.compile text = .ok (p, c')) :
    c.Agrees c' := by
  intro other
  rw [c'.answer_eq, getElem?_of_compile compiled]
  by_cases same : text = other
  · rw [if_pos same, ← same]
    unfold answer
    rw [compiled]
    rfl
  · rw [if_neg same, ← answer_eq]

end Agrees

end Pattern.Cache

/-! ## Runs that only look -/

namespace Run

variable {α β : Type}

/-- Two outcomes behind a state that is left as it is but for the cache, which answers alike. -/
inductive LooksAlike (m : Machine) :
    EStateM.Result RunHalt Machine α → EStateM.Result RunHalt Machine α → Prop
  | ok (a : α) {c c' : Pattern.Cache} : m.cache.Agrees c → m.cache.Agrees c' →
      LooksAlike m (.ok a (m.withCache c)) (.ok a (m.withCache c'))
  | error (halt : RunHalt) {c c' : Pattern.Cache} : m.cache.Agrees c → m.cache.Agrees c' →
      LooksAlike m (.error halt (m.withCache c)) (.error halt (m.withCache c'))

private theorem LooksAlike.ok_left {m m₁ : Machine} {a : α}
    {r : EStateM.Result RunHalt Machine α} (h : LooksAlike m (.ok a m₁) r) :
    (∃ d, m.cache.Agrees d ∧ m₁ = m.withCache d) ∧ ∃ d, r = .ok a (m.withCache d) := by
  cases h with
  | ok _ kept _ => exact ⟨⟨_, kept, rfl⟩, _, rfl⟩

/-- A run that changes nothing, and to which it makes no difference which of two caches that answer
alike it starts with. -/
def Looks (x : Run α) : Prop :=
  ∀ (m : Machine) {c : Pattern.Cache}, m.cache.Agrees c → LooksAlike m (x m) (x (m.withCache c))

private theorem looks_pure (a : α) : (pure a : Run α).Looks :=
  fun m _ agrees => .ok a (.refl m.cache) agrees

private theorem looks_throw (halt : RunHalt) : (throw halt : Run α).Looks :=
  fun m _ agrees => .error halt (.refl m.cache) agrees

private theorem Looks.bind {x : Run α} {f : α → Run β} (hx : x.Looks) (hf : ∀ a, (f a).Looks) :
    (x >>= f).Looks := by
  intro m c agrees
  have first := hx m agrees
  generalize run : x m = r at first
  generalize run' : x (m.withCache c) = r' at first
  cases first with
  | @ok a d d' kept kept' =>
    rw [bind_ok run, bind_ok run']
    have second := hf a (m.withCache d) (kept.symm.trans kept')
    change LooksAlike (m.withCache d) (f a (m.withCache d)) (f a (m.withCache d')) at second
    generalize f a (m.withCache d) = r at second
    generalize f a (m.withCache d') = r' at second
    cases second with
    | ok b kept₁ kept₂ => exact .ok b (kept.trans kept₁) (kept.trans kept₂)
    | error halt kept₁ kept₂ => exact .error halt (kept.trans kept₁) (kept.trans kept₂)
  | error halt kept kept' =>
    rw [bind_error run, bind_error run']
    exact .error halt kept kept'

private theorem Looks.withFrame (frame : Scope) {body : Run α} (h : body.Looks) :
    (Run.withFrame frame body).Looks := by
  intro m c agrees
  have inside := h { m with frames := frame :: m.frames } agrees
  have entering : ({ m.withCache c with frames := frame :: (m.withCache c).frames } : Machine) =
      Machine.withCache { m with frames := frame :: m.frames } c := rfl
  simp only [Run.withFrame, entering]
  generalize body { m with frames := frame :: m.frames } = one at inside ⊢
  generalize body (Machine.withCache _ c) = other at inside ⊢
  cases inside with
  | ok a kept kept' => exact .ok (a, frame) kept kept'
  | error halt kept kept' => exact .error halt kept kept'

private theorem looks_pattern (text : String) : (Run.pattern text).Looks := by
  intro m c agrees
  simp only [Run.pattern, Machine.withCache]
  cases compiled : m.cache.compile text with
  | error f =>
    rw [agrees.compile_error compiled]
    exact .error _ (.refl m.cache) agrees
  | ok found =>
    obtain ⟨p, d⟩ := found
    obtain ⟨d', compiled'⟩ := agrees.compile_ok compiled
    rw [compiled']
    exact .ok p (.of_compile compiled) (agrees.trans (.of_compile compiled'))

private theorem looks_step {s : Step} (reads : s.reads = true) : s.run.Looks := by
  cases s with
  | lookup | global | exitStatus? => exact fun m _ agrees => .ok _ (.refl m.cache) agrees
  | pattern text => exact looks_pattern text
  | _ => cases reads

end Run

def Licence.reading : Licence :=
  .ofSteps fun s => s.reads = true

instance : Licence.Lenient .reading :=
  inferInstanceAs (Licence.Lenient (.ofSteps _))

private theorem Composed.looks {α : Type} {x : Run α} (h : Composed .reading x) : x.Looks := by
  induction h with
  | pure a => exact Run.looks_pure a
  | throw halt _ => exact Run.looks_throw halt
  | bind _ _ ihx ihf => exact ihx.bind ihf
  | withFrame frame _ ih => exact ih.withFrame frame
  | step s ok => exact Run.looks_step ok

/-! ## Quiet expressions -/

namespace Expr

omit [Platform]

/-- Whether an expression does something to the state itself. -/
def acts : Expr → Bool
  | .call _ _ _ | .assign _ _ _ _ => true
  | _ => false

/-- There is no call and no assignment in an expression. -/
def isQuiet (e : Expr) : Bool :=
  e.within.all fun part => !part.acts

private theorem acts_of_isQuiet {e : Expr} (quiet : e.isQuiet = true) : e.acts = false := by
  simpa using List.all_eq_true.mp quiet e e.self_mem_within

private theorem isQuiet_of_mem_parts {e part : Expr} (quiet : e.isQuiet = true)
    (mem : part ∈ e.parts) :
    part.isQuiet = true :=
  List.all_eq_true.mpr fun e' inside =>
    List.all_eq_true.mp quiet e' (within_subset_of_mem_parts mem inside)

end Expr

namespace Program

variable (p : Program)

theorem twin_eval_of_isQuiet (fuel : Nat) {e : Expr} (quiet : e.isQuiet = true) :
    Twin .reading (p.eval fuel e) (p.unplaced.eval fuel e.unplaced) := by
  induction fuel generalizing e with
  | zero => exact .throw _ nofun
  | succ fuel ih =>
    have still := e.acts_of_isQuiet quiet
    have own : e.Own .reading := by
      cases e with
      | unary => exact fun _ _ => nofun
      | call | assign => cases still
      | _ => trivial
    refine (Twin.compositional fun _ reads => reads).expression own ?_ ?_
    · exact fun part mem => ih (Expr.isQuiet_of_mem_parts quiet mem)
    · intro s mem
      cases e with
      | call | assign => cases still
      | _ => cases mem

variable {p}

theorem Yields.again {e : Expr} {m m' : Machine} {s : Scalar} (h : p.Yields e m s m')
    (quiet : e.isQuiet = true) :
    ∃ d, m.cache.Agrees d ∧ m' = m.withCache d ∧
      ∀ c, m.cache.Agrees c → ∃ d', p.Yields e (m.withCache c) s (m.withCache d') := by
  obtain ⟨fuel, first⟩ := h
  have looks {c : Pattern.Cache} (agrees : m.cache.Agrees c) :
      Run.LooksAlike m (.ok (.scalar s) m') (p.eval fuel e (m.withCache c)) :=
    first ▸ (p.twin_eval_of_isQuiet fuel quiet).composed.looks m agrees
  obtain ⟨d, kept, same⟩ := (looks (.refl m.cache)).ok_left.1
  refine ⟨d, kept, same, fun c agrees => ?_⟩
  obtain ⟨d', again⟩ := (looks agrees).ok_left.2
  exact ⟨d', fuel, again⟩

end Program

end PatternAction
