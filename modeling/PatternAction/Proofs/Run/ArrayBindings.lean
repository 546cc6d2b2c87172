import PatternAction.Proofs.Run.Compositional
import PatternAction.Proofs.Run.Trace
import PatternAction.Script.Source
import PatternAction.Standard

/-!
Arrays stay arrays.  A history lists all that a run does to its state: its steps, and the calls it
enters and leaves.  Replaying it shows, at every point, what is bound in each scope: among the
globals and in each of the active calls.  In the history of a script a scalar is bound only to a
name that means no array, with one exception: a loop over an array binds its variable without
looking.  So an array bound in a scope to a name that is not the variable of such a loop is replaced
by an array at most, until it is deleted or the call ends.
-/

set_option autoImplicit false
set_option relaxedAutoImplicit false

namespace PatternAction

/-! ## Histories -/

/-- What is done to the state: a step is taken, or a call is entered or left. -/
inductive Move where
  | step (s : Step)
  | enter (frame : Scope)
  | leave

section AnyPlatform

variable [Platform]

namespace Machine

def after (m : Machine) : Move → Machine
  | .step s => Run.stateOf (s.run m)
  | .enter frame => { m with frames := frame :: m.frames }
  | .leave => { m with frames := m.frames.tail }

def replay (m : Machine) (moves : List Move) : Machine :=
  moves.foldl after m

private theorem replay_append (m : Machine) (moves moves' : List Move) :
    m.replay (moves ++ moves') = (m.replay moves).replay moves' :=
  List.foldl_append

end Machine

/-- The moves of a run from a state on, in order, each step in a state in which it may be taken. -/
inductive History (may : Machine → Step → Prop) : {α : Type} → Run α → Machine → List Move → Prop
  | pure {α : Type} (a : α) (m : Machine) : History may (Pure.pure a : Run α) m []
  | throw {α : Type} (halt : RunHalt) (m : Machine) :
      History may (throw halt : Run α) m []
  | bind {α β : Type} {x : Run α} {f : α → Run β} {m m' : Machine} {a : α} {h h' : List Move} :
      History may x m h → x m = .ok a m' → History may (f a) m' h' →
      History may (x >>= f) m (h ++ h')
  | fail {α β : Type} {x : Run α} {f : α → Run β} {m m' : Machine} {halt : RunHalt}
      {h : List Move} :
      History may x m h → x m = .error halt m' → History may (x >>= f) m h
  | withFrame {α : Type} {frame : Scope} {body : Run α} {m : Machine} {h : List Move} :
      History may body { m with frames := frame :: m.frames } h →
      History may (Run.withFrame frame body) m (.enter frame :: (h ++ [.leave]))
  | step (s : Step) (m : Machine) : may m s → History may s.run m [.step s]

variable {may : Machine → Step → Prop} {α β : Type}

/-- Each of the moves that is a step may be taken where it is. -/
def Machine.May (may : Machine → Step → Prop) (m : Machine) : List Move → Prop
  | [] => True
  | move :: moves => (∀ s, move = .step s → may m s) ∧ (m.after move).May may moves

private theorem Machine.may_append {m : Machine} {moves moves' : List Move} :
    m.May may (moves ++ moves') ↔ m.May may moves ∧ (m.replay moves).May may moves' := by
  induction moves generalizing m with
  | nil => exact ⟨fun h => ⟨trivial, h⟩, fun h => h.2⟩
  | cons move moves ih => rw [List.cons_append, May, May, ih, and_assoc]; rfl

private theorem History.replayed {x : Run α} {m : Machine} {h : List Move}
    (history : History may x m h) :
    m.replay h = Run.stateOf (x m) ∧ m.May may h := by
  induction history with
  | pure a m => exact ⟨rfl, trivial⟩
  | throw halt m => exact ⟨rfl, trivial⟩
  | @bind _ _ x f m m' a h h' _ run _ ihx ihf =>
    have first : m.replay h = m' := by rw [ihx.1, run]; rfl
    rw [Run.bind_ok run, Machine.replay_append, Machine.may_append, first]
    exact ⟨ihf.1, ihx.2, ihf.2⟩
  | @fail _ _ x f m m' halt h _ run ih =>
    rw [Run.bind_error run]
    rw [run] at ih
    exact ih
  | @withFrame _ frame body m h _ ih =>
    have inner : m.replay (.enter frame :: h) = Run.stateOf (body (m.after (.enter frame))) := ih.1
    refine ⟨?_, nofun, ?_⟩
    · rw [← List.cons_append, Machine.replay_append, inner, Run.stateOf_withFrame]
      rfl
    · exact Machine.may_append.mpr ⟨ih.2, nofun, trivial⟩
  | step s m ok =>
    refine ⟨rfl, ?_, trivial⟩
    rintro s' ⟨⟩
    exact ok

def Run.Recorded (may : Machine → Step → Prop) (x : Run α) : Prop :=
  ∀ m, ∃ h, History may x m h

private theorem Run.Recorded.bind {x : Run α} {f : α → Run β} (hx : x.Recorded may)
    (hf : ∀ a, (f a).Recorded may) : (x >>= f).Recorded may := by
  intro m
  obtain ⟨h, first⟩ := hx m
  cases run : x m with
  | ok a m' =>
    obtain ⟨h', second⟩ := hf a m'
    exact ⟨h ++ h', .bind first run second⟩
  | error halt m' => exact ⟨h, .fail first run⟩

private theorem Run.Recorded.withFrame {body : Run α} (h : body.Recorded may) (frame : Scope) :
    (Run.withFrame frame body).Recorded may := by
  intro m
  obtain ⟨moves, history⟩ := h { m with frames := frame :: m.frames }
  exact ⟨_, .withFrame history⟩

/-! ## Scopes -/

/-- Where a name may be bound: among the globals, or in a call, counted from the outermost. -/
inductive Place where
  | globals
  | call (depth : Nat)
deriving DecidableEq

namespace Machine

/-- The bindings at a place; there are none where no call is active. -/
def scopeAt (m : Machine) : Place → Option Scope
  | .globals => some m.globals
  | .call depth => m.frames.reverse[depth]?

def innermost (m : Machine) : Place :=
  match m.frames with
  | [] => .globals
  | _ :: frames => .call frames.length

def placeOf (m : Machine) (name : String) : Place :=
  if m.globals.contains name then .globals else m.innermost

/-- What a name is bound to at a place. -/
def boundAt (m : Machine) (place : Place) (name : String) : Option Value :=
  (m.scopeAt place).bind (·.get? name)

/-- A name is bound to an array at a place. -/
def HoldsArray (m : Machine) (place : Place) (name : String) : Prop :=
  ∃ t, m.boundAt place name = some (.array t)

/-- A name is deleted at a place, or the call is left that the place is in. -/
def Drops (m : Machine) (place : Place) (name : String) : Move → Prop
  | .step (.remove other) => other = name ∧ m.placeOf name = place
  | .leave => place ≠ .globals ∧ m.innermost = place
  | _ => False

/-- None of the moves does that. -/
def Spares (m : Machine) (place : Place) (name : String) : List Move → Prop
  | [] => True
  | move :: moves => ¬ m.Drops place name move ∧ (m.after move).Spares place name moves

omit [Platform]

private theorem scopeAt_call {m : Machine} {frame : Scope} {frames : List Scope}
    (here : m.frames = frame :: frames) (depth : Nat) :
    m.scopeAt (.call depth) =
      if depth = frames.length then some frame else frames.reverse[depth]? := by
  rw [scopeAt, here, List.reverse_cons, List.getElem?_append, List.length_reverse]
  rcases Nat.lt_trichotomy depth frames.length with inside | here | beyond
  · rw [if_pos inside, if_neg (Nat.ne_of_lt inside)]
  · rw [if_neg (by omega), if_pos here, here, Nat.sub_self]
    rfl
  · rw [if_neg (by omega), if_neg (by omega), List.getElem?_eq_none (by simp; omega),
      List.getElem?_eq_none (by simp; omega)]

private theorem lookup_eq_boundAt (m : Machine) (name : String) :
    m.lookup name = m.boundAt (m.placeOf name) name := by
  rw [lookup, scopeOf, boundAt, placeOf, innermost]
  cases m.globals.contains name with
  | true => rfl
  | false =>
    cases here : m.frames with
    | nil => rfl
    | cons frame frames =>
      rw [if_neg Bool.false_ne_true, if_neg Bool.false_ne_true, scopeAt_call here, if_pos rfl]
      rfl

private theorem scopeAt_mapScopeOf (m : Machine) (name : String) (f : Scope → Scope)
    (place : Place) :
    (m.mapScopeOf name f).scopeAt place =
      if place = m.placeOf name then (m.scopeAt place).map f else m.scopeAt place := by
  rw [mapScopeOf, placeOf, innermost]
  cases m.globals.contains name with
  | true => cases place <;> rfl
  | false =>
    cases here : m.frames with
    | nil =>
      cases place with
      | globals => rfl
      | call depth =>
        change ([] : List Scope).reverse[depth]? = m.frames.reverse[depth]?
        rw [here]
    | cons frame frames =>
      cases place with
      | globals => rfl
      | call depth =>
        rw [if_neg Bool.false_ne_true, if_neg Bool.false_ne_true,
          scopeAt_call (m := { m with frames := f frame :: frames }) rfl, scopeAt_call here]
        simp only [Place.call.injEq]
        by_cases top : depth = frames.length
        · rw [if_pos top, if_pos top, if_pos top]
          rfl
        · rw [if_neg top, if_neg top, if_neg top]

variable {m m' : Machine} {place : Place} {name other : String} {f : Scope → Scope}

private theorem boundAt_mapScopeOf_of_ne (kept : ∀ s : Scope, (f s).get? name = s.get? name) :
    (m.mapScopeOf other f).boundAt place name = m.boundAt place name := by
  rw [boundAt, boundAt, scopeAt_mapScopeOf]
  split
  · cases m.scopeAt place with
    | none => rfl
    | some s => exact kept s
  · rfl

private theorem boundAt_mapScopeOf_of_elsewhere (elsewhere : place ≠ m.placeOf other) :
    (m.mapScopeOf other f).boundAt place name = m.boundAt place name := by
  rw [boundAt, boundAt, scopeAt_mapScopeOf, if_neg elsewhere]

private theorem boundAt_store_here (value : Value) {old : Value}
    (bound : m.boundAt place name = some old) (here : place = m.placeOf name) :
    (m.mapScopeOf name (·.insert name value)).boundAt place name = some value := by
  rw [boundAt] at bound
  obtain ⟨s, scope, -⟩ := Option.bind_eq_some_iff.mp bound
  rw [boundAt, scopeAt_mapScopeOf, if_pos here, scope]
  exact (s.get?_insert name name value).trans (if_pos rfl)

/-! ## Steps -/

private theorem HoldsArray.of_eq (h : m.HoldsArray place name)
    (same : m'.boundAt place name = m.boundAt place name) : m'.HoldsArray place name := by
  obtain ⟨t, bound⟩ := h
  exact ⟨t, same.trans bound⟩

end Machine

/-- The steps of a script in the states in which it takes them.  A scalar is bound to a name that
means no array, or to the variable of a loop over an array; a name is unbound only if a statement
deletes it; and the other globals that are bound are fields. -/
def Program.MayTake (p : Program) (m : Machine) : Step → Prop
  | .store name (.scalar _) => (∀ t, m.lookup name ≠ some (.array t)) ∨ name ∈ p.loopVariables
  | .remove name => name ∈ p.deletedNames
  | .setGlobal name _ => hasFieldSign name = true
  | _ => True

namespace Machine

variable {m m' : Machine} {place : Place} {name : String}

omit [Platform] in
private theorem HoldsArray.store {other : String} {value : Value} (h : m.HoldsArray place name)
    (array : other = name → place = m.placeOf name → ∃ t, value = .array t) :
    (m.mapScopeOf other (·.insert other value)).HoldsArray place name := by
  by_cases same : other = name
  · subst same
    by_cases here : place = m.placeOf other
    · obtain ⟨t, rfl⟩ := array rfl here
      obtain ⟨old, bound⟩ := h
      exact ⟨t, boundAt_store_here _ bound here⟩
    · exact h.of_eq (boundAt_mapScopeOf_of_elsewhere here)
  · refine h.of_eq (boundAt_mapScopeOf_of_ne fun s => ?_)
    rw [Scope.get?_insert, if_neg same]

omit [Platform] in
private theorem HoldsArray.remove {other : String} (h : m.HoldsArray place name)
    (spared : ¬ (other = name ∧ m.placeOf name = place)) :
    (m.mapScopeOf other (·.erase other)).HoldsArray place name := by
  by_cases same : other = name
  · subst same
    exact h.of_eq (boundAt_mapScopeOf_of_elsewhere fun here => spared ⟨rfl, here.symm⟩)
  · refine h.of_eq (boundAt_mapScopeOf_of_ne fun s => ?_)
    rw [Scope.get?_erase, if_neg same]

private theorem HoldsArray.enter (h : m.HoldsArray place name) (frame : Scope) :
    (m.after (.enter frame)).HoldsArray place name := by
  cases place with
  | globals => exact h
  | call depth =>
    refine h.of_eq ?_
    obtain ⟨t, bound⟩ := h
    obtain ⟨s, scope, -⟩ := Option.bind_eq_some_iff.mp bound
    obtain ⟨inside, -⟩ := List.getElem?_eq_some_iff.mp scope
    rw [List.length_reverse] at inside
    rw [boundAt, boundAt, scopeAt_call (m := m.after (.enter frame)) rfl,
      if_neg (Nat.ne_of_lt inside)]
    rfl

private theorem HoldsArray.leave (h : m.HoldsArray place name)
    (other : ¬ (place ≠ .globals ∧ m.innermost = place)) :
    (m.after .leave).HoldsArray place name := by
  cases place with
  | globals => exact h
  | call depth =>
    refine h.of_eq ?_
    cases here : m.frames with
    | nil =>
      rw [boundAt, boundAt, scopeAt, scopeAt, after, here]
      rfl
    | cons frame frames =>
      have deeper : depth ≠ frames.length := by
        rintro rfl
        exact other ⟨nofun, by rw [innermost, here]⟩
      rw [boundAt, boundAt, scopeAt_call here, if_neg deeper, scopeAt, after, here]
      rfl

private theorem HoldsArray.kept {s : Step} (h : m.HoldsArray place name)
    (other : isPublished name = false) (binds : s.binds = false) :
    (Run.stateOf (s.run m)).HoldsArray place name := by
  obtain ⟨frames, globals⟩ := s.bindings_run binds m
  cases place with
  | call depth =>
    refine h.of_eq ?_
    rw [boundAt, boundAt, scopeAt, scopeAt, frames]
  | globals =>
    refine h.of_eq ?_
    change (Run.stateOf (s.run m)).globals.get? name = m.globals.get? name
    rcases globals with same | ⟨line, fields, published⟩
    · rw [same]
    · rw [published, Records.get?_publish_of_unpublished _ _ _ _ _ _ other]

omit [Platform] in
private theorem HoldsArray.setGlobal {known : String} (h : m.HoldsArray place name)
    (other : isPublished name = false) (field : hasFieldSign known = true) (value : Scalar) :
    { m with globals := m.globals.setScalar known value }.HoldsArray place name := by
  have apart : known ≠ name := by
    rintro rfl
    rw [hasFieldSign_of_unpublished other] at field
    cases field
  cases place with
  | globals => exact h.of_eq ((m.globals.get?_setScalar known name value).trans (if_neg apart))
  | call depth => exact h

private theorem HoldsArray.moved {p : Program} {move : Move} (h : m.HoldsArray place name)
    (other : isPublished name = false) (noLoop : name ∉ p.loopVariables)
    (may : ∀ s, move = .step s → p.MayTake m s) (spared : ¬ m.Drops place name move) :
    (m.after move).HoldsArray place name := by
  cases move with
  | enter frame => exact h.enter frame
  | leave => exact h.leave spared
  | step s =>
    by_cases binds : s.binds = false
    · exact h.kept other binds
    · cases s with
      | store known value =>
        refine h.store fun same here => ?_
        subst same
        cases value with
        | array t => exact ⟨t, rfl⟩
        | scalar x =>
          obtain ⟨t, bound⟩ := h
          rw [here, ← lookup_eq_boundAt] at bound
          rcases may _ rfl with noArray | loop
          · exact absurd bound (noArray t)
          · exact absurd loop noLoop
      | remove known => exact h.remove spared
      | setGlobal known value => exact h.setGlobal other (may _ rfl) value
      | _ => exact absurd rfl binds

private theorem HoldsArray.replayed {p : Program} {moves : List Move} (h : m.HoldsArray place name)
    (other : isPublished name = false) (noLoop : name ∉ p.loopVariables)
    (may : m.May p.MayTake moves) (spared : m.Spares place name moves) :
    (m.replay moves).HoldsArray place name := by
  induction moves generalizing m with
  | nil => exact h
  | cons move moves ih => exact ih (h.moved other noLoop may.1 spared.1) may.2 spared.2

end Machine

private theorem Machine.spares_globals {p : Program} {name : String}
    (undeleted : name ∉ p.deletedNames)
    {m : Machine} {moves : List Move} (may : m.May p.MayTake moves) :
    m.Spares .globals name moves := by
  induction moves generalizing m with
  | nil => trivial
  | cons move moves ih =>
    refine ⟨fun drops => ?_, ih may.2⟩
    cases move with
    | step s =>
      cases s with
      | remove other =>
        obtain ⟨rfl, -⟩ := drops
        exact undeleted (may.1 _ rfl)
      | _ => exact drops
    | enter frame => exact drops
    | leave => exact drops.1 rfl

/-! ## Scripts -/

/-- Without looking, scripts bind scalars only to fields and to the variables of their loops. -/
def Program.bindings (p : Program) : Licence where
  step
    | .store name (.scalar _) => name ∈ p.loopVariables
    | .remove name => name ∈ p.deletedNames
    | .setGlobal name _ => hasFieldSign name = true
    | _ => True
  halt := (· ≠ .aborted)
  assign _ := True
  noAbort := Licence.not_ne_aborted

omit [Platform] in
private theorem Program.open_bindings (p : Program) : p.bindings.Open := by
  refine ⟨fun s common => ?_, fun _ _ => nofun, fun _ => trivial⟩
  cases s with
  | store name value =>
    cases value with
    | scalar x => cases common
    | array t => trivial
  | remove name => cases common
  | setGlobal name value => exact common
  | _ => trivial

omit [Platform] in
private theorem Program.mayTake_of_bindings {p : Program} {s : Step} (h : p.bindings s)
    (m : Machine) :
    p.MayTake m s := by
  cases s with
  | store name value =>
    cases value with
    | scalar x => exact .inr h
    | array t => trivial
  | remove name => exact h
  | setGlobal name value => exact h
  | _ => trivial

section Recorded

variable (p : Program)

private theorem Run.recorded_step {s : Step} (h : p.bindings s) : s.run.Recorded p.MayTake :=
  fun m => ⟨_, .step s m (p.mayTake_of_bindings h m)⟩

private theorem Run.recorded_setVariable (name : String) (value : Scalar) (l : Location) :
    (Eval.setVariable name value l).Recorded p.MayTake := by
  intro m
  have look : History p.MayTake (Run.lookup name) m [.step (.lookup name)] :=
    .step (.lookup name) m trivial
  have found : Run.lookup name m = .ok (m.lookup name) m := rfl
  cases bound : m.lookup name with
  | some old =>
    rw [bound] at found
    cases old with
    | array t => exact ⟨_, .bind look found (.throw _ m)⟩
    | scalar x =>
      have free : p.MayTake m (.store name (.scalar value)) := .inl fun t => by rw [bound]; nofun
      exact ⟨_, .bind look found (.step (.store name (.scalar value)) m free)⟩
  | none =>
    rw [bound] at found
    have free : p.MayTake m (.store name (.scalar value)) := .inl fun t => by rw [bound]; nofun
    exact ⟨_, .bind look found (.step (.store name (.scalar value)) m free)⟩

private theorem Run.recorded_compositional :
    Compositional p.bindings fun x _ => x.Recorded p.MayTake where
  reads := p.open_bindings.reads
  pure a := fun m => ⟨[], .pure a m⟩
  bind := .bind
  withFrame frame _ _ h := h.withFrame frame
  step _ ok := recorded_step p ok
  assign name value l _ := recorded_setVariable p name value l
  fail _ _ _ := fun m => ⟨[], .throw _ m⟩
  advance ok := by
    refine (recorded_step p (s := .advance?) ok).bind fun outcome => ?_
    cases outcome with
    | ok more => exact fun m => ⟨[], .pure more m⟩
    | error f => exact fun m => ⟨[], .throw _ m⟩

end Recorded

namespace Program

private theorem recorded_run (p : Program) (fuel : Nat) : (p.run fuel).Recorded p.MayTake := by
  have vars : ∀ name ∈ p.loopVariables, Binds p.bindings name := by
    intro name loop value
    cases value with
    | scalar x => exact loop
    | array t => trivial
  have free (s : Step) (h : s.binds = false) : p.bindings s := by
    cases s <;> trivial
  exact (Run.recorded_compositional p).runs (fun m => ⟨[], .throw _ m⟩) free
    (p.asks_of_open p.open_bindings vars fun _ deleted => deleted) fuel

/-- An array stays an array.  Take any run of any script, from any state, and any name that no
record binds and no loop over an array has as its variable.  The run has a history, and replaying it
leads where the run leads; and where in it the name is bound to an array in a scope, it is bound to
an array there at every later point, as long as the name has not been deleted there and the call has
not been left whose scope it is. -/
theorem arrays_stay_arrays (p : Program) (fuel : Nat) (start : Machine) :
    (∃ h, History p.MayTake (p.run fuel) start h) ∧
      ∀ h, History p.MayTake (p.run fuel) start h →
        start.replay h = Run.stateOf (p.run fuel start) ∧
        ∀ before between after, h = before ++ (between ++ after) →
          ∀ place name, isPublished name = false → name ∉ p.loopVariables →
            (start.replay before).HoldsArray place name →
            (start.replay before).Spares place name between →
            (start.replay (before ++ between)).HoldsArray place name := by
  refine ⟨p.recorded_run fuel start, fun h history => ⟨history.replayed.1, ?_⟩⟩
  rintro before between after rfl place name other noLoop holds spared
  have may := (Machine.may_append.mp history.replayed.2).2
  rw [Machine.replay_append]
  exact holds.replayed other noLoop (Machine.may_append.mp may).1 spared

end Program

end AnyPlatform

namespace Program

/-- A global array that a loop goes through, that is passed to a function which splits a text into
it, and from which the loop deletes elements. -/
theorem arrays_stay_arrays_passed :
    let source := "function f(x, n) \x7b split(\"p q\", x); x[n] = n \x7d " ++
      "BEGIN \x7b for (k in a) \x7b f(a, k); delete a[k] \x7d \x7d \x7b a[$1] = 1 \x7d"
    let bound : Scope := Machine.standardGlobals.insert "a" (.array ((∅ : Table).insert "k" ⟨"x"⟩))
    let start : Machine := { Machine.ofRecords (.ofLines ["r"]) with globals := bound }
    ∃ p h, ofSource source = .ok p ∧ History p.MayTake (p.run 40) start h ∧
      isPublished "a" = false ∧ "a" ∉ p.loopVariables ∧ start.HoldsArray .globals "a" ∧
      start.Spares .globals "a" h ∧ (Run.stateOf (p.run 40 start)).HoldsArray .globals "a" := by
  intro source bound start
  have accepted : (ofSource source).toOption.map (fun p => (p.loopVariables, p.deletedNames)) =
      some (["k"], []) := by decide +kernel
  cases read : ofSource source with
  | error halt =>
    rw [read] at accepted
    cases accepted
  | ok p =>
    rw [read] at accepted
    obtain ⟨loops, deletes⟩ := Prod.mk.inj (Option.some.inj accepted)
    obtain ⟨⟨h, history⟩, every⟩ := p.arrays_stay_arrays 40 start
    obtain ⟨leads, stay⟩ := every h history
    have other : isPublished "a" = false := by decide
    have noLoop : "a" ∉ p.loopVariables := by rw [loops]; decide
    have array : start.HoldsArray .globals "a" :=
      ⟨_, (Machine.standardGlobals.get?_insert "a" "a" _).trans (if_pos rfl)⟩
    have spared : start.Spares .globals "a" h :=
      Machine.spares_globals (by rw [deletes]; exact List.not_mem_nil) history.replayed.2
    have whole : h = [] ++ (h ++ []) := (List.append_nil h).symm
    have last := stay [] h [] whole .globals "a" other noLoop array spared
    exact ⟨p, h, rfl, history, other, noLoop, array, spared, leads ▸ last⟩

/-- A loop over an array puts scalars in the place of another array, its variable, although nothing
is deleted: behind the first two statements `a` is an array, and behind the loop it is none. -/
theorem array_lost_to_loop :
    let source := "BEGIN \x7b a[\"k\"] = \"x\"; b[\"k\"] = \"y\"; for (a in b) c = 1 \x7d"
    let start := Machine.ofRecords (.ofLines [])
    ∃ p, ofSource source = .ok p ∧ p.deletedNames = [] ∧
      (Run.stateOf (Eval.sequence (p.exec 20) (p.statements.take 2) start)).HoldsArray
        .globals "a" ∧
      ¬ (Run.stateOf (Eval.sequence (p.exec 20) p.statements start)).HoldsArray .globals "a" ∧
      ¬ (Run.stateOf (p.run 20 start)).HoldsArray .globals "a" := by
  intro source start
  let array? (m : Machine) : Option Table := (m.globals.get? "a").bind Value.array?
  have outcome : (ofSource source).toOption.map (fun p =>
      (p.deletedNames,
        (array? (Run.stateOf (Eval.sequence (p.exec 20) (p.statements.take 2) start))).isSome,
        (array? (Run.stateOf (Eval.sequence (p.exec 20) p.statements start))).isSome,
        (array? (Run.stateOf (p.run 20 start))).isSome)) = some ([], true, false, false) := by
    decide +kernel
  have holds (m : Machine) : m.HoldsArray .globals "a" ↔ (array? m).isSome = true := by
    change (∃ t, m.globals.get? "a" = some (.array t)) ↔ _
    cases bound : m.globals.get? "a" with
    | none => simp [array?, bound]
    | some value => cases value <;> simp [array?, bound, Value.array?]
  cases read : ofSource source with
  | error halt =>
    rw [read] at outcome
    cases outcome
  | ok p =>
    rw [read] at outcome
    obtain ⟨undeleted, outcome⟩ := Prod.mk.inj (Option.some.inj outcome)
    obtain ⟨before, outcome⟩ := Prod.mk.inj outcome
    obtain ⟨behind, final⟩ := Prod.mk.inj outcome
    refine ⟨p, rfl, undeleted, (holds _).mpr before, fun array => ?_, fun array => ?_⟩
    · rw [(holds _).mp array] at behind
      cases behind
    · rw [(holds _).mp array] at final
      cases final

end Program

end PatternAction
