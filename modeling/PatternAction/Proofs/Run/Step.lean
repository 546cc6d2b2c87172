import PatternAction.Machine
import PatternAction.Proofs.Record.Published
import PatternAction.Proofs.Script.Unplaced

/-!
The elementary steps on the state of a run, as data, and what is put together from them.

A licence says which steps a run may take and in which ways it may halt.  `Composed` lists the two
ways of combining steps, one after the other and inside a call.  A property that the allowed steps
have and that both ways of combining keep is a property of all that is composed of them, by one
induction.  `Twin` relates two runs that are composed in the same way of the same steps, where the
second fails without a place wherever the first fails: such runs give the same answers, do the same
to the state, and differ in nothing but the places of their faults.
-/

set_option autoImplicit false
set_option relaxedAutoImplicit false

namespace PatternAction

inductive Step where
  | lookup (name : String)
  | global (name : String)
  | exitStatus?
  | pattern (text : String)
  | format (fmt : String) (args : List Scalar)
  | fields (text separator : Scalar)
  | advance?
  | resetRecords
  | recordCount
  | skipRecords
  | emit (text : String)
  | requestExit (status : Int)
  | takeExit
  | store (name : String) (value : Value)
  | remove (name : String)
  | setGlobal (name : String) (value : Scalar)

namespace Step

def Result : Step → Type
  | .lookup _ => Option Value
  | .global _ => Scalar
  | .exitStatus? | .takeExit => Option Int
  | .pattern _ => Pattern
  | .format _ _ => String
  | .fields _ _ => List (List Char)
  | .advance? => Except Pattern.Fault Bool
  | .recordCount => Nat
  | _ => Unit

def run [Platform] : (s : Step) → Run s.Result
  | .lookup name => Run.lookup name
  | .global name => Run.global name
  | .exitStatus? => Run.exitStatus?
  | .pattern text => Run.pattern text
  | .format fmt args => Run.format fmt args
  | .fields text separator => Run.fields text separator
  | .advance? => Run.advance?
  | .resetRecords => Run.resetRecords
  | .recordCount => Run.recordCount
  | .skipRecords => Run.skipRecords
  | .emit text => Run.emit text
  | .requestExit status => Run.requestExit status
  | .takeExit => Run.takeExit
  | .store name value => Run.store name value
  | .remove name => Run.remove name
  | .setGlobal name value => Run.setGlobal name value

def reads : Step → Bool
  | .lookup _ | .global _ | .exitStatus? | .pattern _ => true
  | _ => false

/-- Whether a step only answers something, and changes no more than the compiled patterns. -/
def answers : Step → Bool
  | .lookup _ | .global _ | .exitStatus? | .pattern _ | .format _ _ | .fields _ _ | .recordCount =>
    true
  | _ => false

/-- Whether a step binds or unbinds a name that the script chooses. -/
def binds : Step → Bool
  | .store _ _ | .remove _ | .setGlobal _ _ => true
  | _ => false

/-- Whether a step belongs to the phases of a run, around the blocks and the rules of the script. -/
def ofPhases : Step → Bool
  | .resetRecords | .recordCount | .takeExit => true
  | _ => false

/-- Whether a step is one of those that a script may take whatever names stand in it: none of the
phases, and of the bindings only those of arrays and of fields. -/
def isCommon : Step → Bool
  | .store _ (.scalar _) | .remove _ => false
  | .setGlobal name _ => hasFieldSign name
  | s => !s.ofPhases

/-- Whether a step is one that a function without a definition may take. -/
def serves (s : Step) : Bool :=
  !s.binds && !s.ofPhases

theorem serves_eq_true_iff {s : Step} :
    s.serves = true ↔ s.binds = false ∧ s.ofPhases = false := by
  rw [serves, Bool.and_eq_true, Bool.not_eq_true', Bool.not_eq_true']

theorem isCommon_of_serves {s : Step} (h : s.serves = true) : s.isCommon = true := by
  cases s <;> first | rfl | cases h

private theorem isCommon_of_reads {s : Step} (h : s.reads = true) : s.isCommon = true := by
  cases s <;> first | rfl | cases h

private theorem ofPhases_of_isCommon {s : Step} (h : s.isCommon = true) : s.ofPhases = false := by
  cases s <;> first | rfl | cases h

end Step

def Step.aborts : Step → Bool
  | .format fmt args => (Printf.sprintf fmt args).isNone
  | _ => false

/-- Whether a run halted by itself, and not because an operator had no right operand. -/
def RunHalt.isPlain : RunHalt → Bool
  | .fault (.failure (.missingOperand _) _) | .aborted => false
  | _ => true

/-- What a run may do: the steps it may take, the ways in which it may halt by itself, and the
variables that it may assign to.  An assignment looks before it binds a variable, and leaves arrays
alone. -/
structure Licence where
  step : Step → Prop
  halt : RunHalt → Prop
  assign : String → Prop
  /-- It takes a step to abort a run. -/
  noAbort : ¬ halt .aborted

namespace Licence

instance : CoeFun Licence fun _ => Step → Prop :=
  ⟨step⟩

theorem not_ne_aborted : ¬ RunHalt.aborted ≠ .aborted :=
  not_not_intro rfl

def ofSteps (step : Step → Prop) : Licence :=
  ⟨step, (· ≠ .aborted), fun name => ∀ value, step (.store name (.scalar value)), not_ne_aborted⟩

def any : Licence :=
  .ofSteps fun _ => True

/-- All that the text of a script can ask for: everything but the steps of the phases. -/
def script : Licence :=
  .ofSteps fun s => s.ofPhases = false

/-- A run may halt for want of a right operand of this operator. -/
def MayLack (allowed : Licence) (op : Operator) : Prop :=
  ∀ location, allowed.halt (.fault (.failure (.missingOperand op) location))

/-- Whatever the text of a script asks for is allowed, except perhaps to bind the variables of loops
and to unbind names. -/
structure Open (allowed : Licence) : Prop where
  steps : ∀ s : Step, s.isCommon = true → allowed s
  lacks : ∀ op, allowed.MayLack op
  assigns : ∀ name, allowed.assign name

theorem Open.reads {allowed : Licence} (all : allowed.Open) (s : Step) (h : s.reads = true) :
    allowed s :=
  all.steps s (Step.isCommon_of_reads h)

/-- Whatever the text of any script asks for is allowed. -/
structure Full (allowed : Licence) : Prop extends allowed.Open where
  stores : ∀ name value, allowed (.store name value)
  removes : ∀ name, allowed (.remove name)

theorem full_any : any.Full :=
  ⟨⟨fun _ _ => trivial, fun _ _ => nofun, fun _ _ => trivial⟩, fun _ _ => trivial,
    fun _ => trivial⟩

theorem full_script : script.Full :=
  ⟨⟨fun _ => Step.ofPhases_of_isCommon, fun _ _ => nofun, fun _ _ => rfl⟩, fun _ _ => rfl,
    fun _ => rfl⟩

/-- Every way to halt is allowed, except perhaps for want of an operand, and so are the bindings
that the allowed assignments make. -/
class Lenient (allowed : Licence) : Prop where
  halts : ∀ halt, halt.isPlain = true → allowed.halt halt
  binds : ∀ name, allowed.assign name → ∀ value, allowed (.store name (.scalar value))

instance (step : Step → Prop) : Lenient (.ofSteps step) where
  halts halt plain := by
    rintro rfl
    cases plain
  binds _ h := h

instance : Lenient any :=
  inferInstanceAs (Lenient (.ofSteps _))

instance : Lenient script :=
  inferInstanceAs (Lenient (.ofSteps _))

end Licence

variable {α β : Type} {allowed : Licence}

/-- What can be put together from what is allowed. -/
inductive Composed [Platform] (allowed : Licence) : {α : Type} → Run α → Prop
  | pure {α : Type} (a : α) : Composed allowed (Pure.pure a)
  | throw {α : Type} (halt : RunHalt) :
      allowed.halt halt → Composed allowed (throw halt : Run α)
  | bind {α β : Type} {x : Run α} {f : α → Run β} :
      Composed allowed x → (∀ a, Composed allowed (f a)) → Composed allowed (x >>= f)
  | withFrame {α : Type} (frame : Scope) {body : Run α} :
      Composed allowed body → Composed allowed (Run.withFrame frame body)
  | step (s : Step) : allowed s → Composed allowed s.run

/-- Two runs put together in the same way from the same allowed steps, the second without places. -/
inductive Twin [Platform] (allowed : Licence) : {α : Type} → Run α → Run α → Prop
  | pure {α : Type} (a : α) : Twin allowed (Pure.pure a) (Pure.pure a)
  | throw {α : Type} (halt : RunHalt) :
      allowed.halt halt → Twin allowed (throw halt : Run α) (throw halt.unplaced)
  | bind {α β : Type} {x y : Run α} {f g : α → Run β} :
      Twin allowed x y → (∀ a, Twin allowed (f a) (g a)) → Twin allowed (x >>= f) (y >>= g)
  | withFrame {α : Type} (frame : Scope) {body twin : Run α} :
      Twin allowed body twin → Twin allowed (Run.withFrame frame body) (Run.withFrame frame twin)
  | step (s : Step) : allowed s → Twin allowed s.run s.run

theorem Twin.composed [Platform] {x y : Run α} (h : Twin allowed x y) : Composed allowed x := by
  induction h with
  | pure a => exact .pure a
  | throw halt ok => exact .throw halt ok
  | bind _ _ ihx ihf => exact .bind ihx ihf
  | withFrame frame _ ih => exact .withFrame frame ih
  | step s ok => exact .step s ok

/-! ## One run behind another -/

namespace Run

theorem bind_ok {x : Run α} {f : α → Run β} {m m' : Machine} {a : α} (h : x m = .ok a m') :
    (x >>= f) m = f a m' := by
  change EStateM.bind x f m = _
  simp only [EStateM.bind, h]

theorem bind_error {x : Run α} {f : α → Run β} {m m' : Machine} {halt : RunHalt}
    (h : x m = .error halt m') : (x >>= f) m = .error halt m' := by
  change EStateM.bind x f m = _
  simp only [EStateM.bind, h]

theorem ok_of_bind {x : Run α} {f : α → Run β} {m m' : Machine} {b : β}
    (h : (x >>= f) m = .ok b m') : ∃ a m₁, x m = .ok a m₁ ∧ f a m₁ = .ok b m' := by
  cases first : x m with
  | ok a m₁ =>
    rw [bind_ok first] at h
    exact ⟨a, m₁, rfl, h⟩
  | error halt m₁ =>
    rw [bind_error first] at h
    cases h

end Run

/-! ## Bindings -/

theorem Scope.contains_eq_isSome (s : Scope) (name : String) :
    s.contains name = (s.get? name).isSome :=
  Std.TreeMap.contains_eq_isSome_getElem?

theorem Scope.get?_of_not_contains {s : Scope} {name : String} (h : s.contains name = false) :
    s.get? name = none := by
  rwa [contains_eq_isSome, Option.isSome_eq_false_iff, Option.isNone_iff_eq_none] at h

namespace Machine

/-- A name means the global of that name, or else a binding of the innermost call. -/
theorem lookup_eq (m : Machine) (name : String) :
    m.lookup name = (m.globals.get? name).or (m.frames.head?.bind (·.get? name)) := by
  rw [lookup, scopeOf, Scope.contains_eq_isSome]
  cases here : m.globals.get? name with
  | some value => simpa using here
  | none =>
    cases m.frames with
    | nil => simpa using here
    | cons frame frames => rfl

theorem lookup_store (m : Machine) (name other : String) (value : Value) :
    (m.mapScopeOf name (·.insert name value)).lookup other =
      if name = other then some value else m.lookup other := by
  rw [lookup_eq, lookup_eq, mapScopeOf, Scope.contains_eq_isSome]
  cases here : m.globals.get? name with
  | some old =>
    simp only [Option.isSome_some, if_true, Scope.get?_insert]
    split <;> rfl
  | none =>
    cases m.frames with
    | nil =>
      simp only [Option.isSome_none, Bool.false_eq_true, if_false, Scope.get?_insert]
      split <;> rfl
    | cons frame frames =>
      simp only [Option.isSome_none, Bool.false_eq_true, if_false, List.head?_cons,
        Option.bind_some, Scope.get?_insert]
      split
      · rename_i same
        rw [← same, here]
        rfl
      · rfl

variable (m : Machine) (name : String) (f : Scope → Scope)

private theorem mapScopeOf_eq :
    ∃ globals frames, m.mapScopeOf name f = { m with globals, frames } := by
  unfold mapScopeOf
  split
  · exact ⟨_, _, rfl⟩
  · split <;> exact ⟨_, _, rfl⟩

theorem cache_mapScopeOf : (m.mapScopeOf name f).cache = m.cache := by
  obtain ⟨globals, frames, same⟩ := m.mapScopeOf_eq name f
  rw [same]

theorem exit?_mapScopeOf : (m.mapScopeOf name f).exit? = m.exit? := by
  obtain ⟨globals, frames, same⟩ := m.mapScopeOf_eq name f
  rw [same]

theorem records_mapScopeOf : (m.mapScopeOf name f).records = m.records := by
  obtain ⟨globals, frames, same⟩ := m.mapScopeOf_eq name f
  rw [same]

end Machine

/-! ## Outcomes of twins -/

variable [Platform]

/-- An outcome with the place of its fault forgotten. -/
def Run.unplacedOutcome :
    EStateM.Result RunHalt Machine α → EStateM.Result RunHalt Machine α
  | .ok a m => .ok a m
  | .error halt m => .error halt.unplaced m

private theorem Step.unplacedOutcome_run (s : Step) (m : Machine) :
    Run.unplacedOutcome (s.run m) = s.run m := by
  cases s with
  | pattern text =>
    simp only [Step.run, Run.pattern]
    split <;> rfl
  | format fmt args =>
    simp only [Step.run, Run.format]
    split <;> rfl
  | fields text separator =>
    simp only [Step.run, Run.fields]
    split <;> rfl
  | advance? =>
    simp only [Step.run, Run.advance?]
    split <;> rfl
  | _ => rfl

/-- Of two twins the second does what the first does, and fails without a place where it fails. -/
theorem Twin.outcome {x y : Run α} (h : Twin allowed x y) (m : Machine) :
    y m = Run.unplacedOutcome (x m) := by
  induction h generalizing m with
  | pure a => rfl
  | throw halt _ => rfl
  | @bind _ _ x y f g _ _ ihx ihf =>
    cases first : x m with
    | ok a m' =>
      have second : y m = .ok a m' := by rw [ihx m, first]; rfl
      rw [Run.bind_ok first, Run.bind_ok second, ihf a m']
    | error halt m' =>
      have second : y m = .error halt.unplaced m' := by rw [ihx m, first]; rfl
      rw [Run.bind_error first, Run.bind_error second]
      rfl
  | @withFrame _ frame body twin _ ih =>
    simp only [Run.withFrame, ih]
    cases body { m with frames := frame :: m.frames } with
    | ok a m' => rfl
    | error halt m' => rfl
  | step s ok => exact (s.unplacedOutcome_run m).symm

end PatternAction
