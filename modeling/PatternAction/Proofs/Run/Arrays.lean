import PatternAction.Phases
import PatternAction.Proofs.Run.Step
import PatternAction.Script.Source
import PatternAction.Standard

/-!
What becomes of arrays in a call.  The arguments of a call are copied into the frame, and the arrays
in the frame are copied back behind it, in the order of the arguments.  So of all assignments that a
function makes to the elements of an array of its caller exactly those are kept that go through one
name: the last parameter that the array is bound to, or, if the array is not passed at all, its own
name.  The main statement says this of every function whose body is a list of assignments.  Where an
array goes by several names in one call, what is written under the other names is lost.
-/

set_option autoImplicit false
set_option relaxedAutoImplicit false

namespace PatternAction

namespace Machine

/-! ## Inside a call -/

/-- What a binding made inside a call leaves alone: which names are global, the frames beneath, and
in the frame itself every global name. -/
structure Within (m m' : Machine) (frame frame' : Scope) (frames : List Scope) : Prop where
  here : m.frames = frame :: frames
  there : m'.frames = frame' :: frames
  globals : ∀ name, m'.globals.contains name = m.globals.contains name
  hidden : ∀ name, m.globals.contains name = true → frame'.get? name = frame.get? name
  exit : m'.exit? = m.exit?

private theorem within_store {m : Machine} {frame : Scope} {frames : List Scope}
    (here : m.frames = frame :: frames) (name : String) (value : Value) :
    ∃ frame', m.Within (m.mapScopeOf name (·.insert name value)) frame frame' frames := by
  rw [mapScopeOf]
  cases global : m.globals.contains name with
  | true =>
    refine ⟨frame, here, here, fun other => ?_, fun _ _ => rfl, rfl⟩
    change (m.globals.insert name value).contains other = _
    rw [Scope.contains_eq_isSome, Scope.get?_insert, Scope.contains_eq_isSome]
    split
    · rename_i same
      rw [Scope.contains_eq_isSome, same] at global
      exact global.symm
    · rfl
  | false =>
    simp only [here, Bool.false_eq_true, if_false]
    refine ⟨frame.insert name value, here, rfl, fun _ => rfl, fun other known => ?_, rfl⟩
    rw [Scope.get?_insert, if_neg]
    rintro rfl
    rw [known] at global
    cases global

private theorem Within.refl {m : Machine} {frame : Scope} {frames : List Scope}
    (here : m.frames = frame :: frames) : m.Within m frame frame frames :=
  ⟨here, here, fun _ => rfl, fun _ _ => rfl, rfl⟩

private theorem Within.trans {m m₁ m₂ : Machine} {f f₁ f₂ : Scope} {frames : List Scope}
    (h : m.Within m₁ f f₁ frames) (h' : m₁.Within m₂ f₁ f₂ frames) : m.Within m₂ f f₂ frames where
  here := h.here
  there := h'.there
  globals name := (h'.globals name).trans (h.globals name)
  hidden name global := (h'.hidden name (h.globals name ▸ global)).trans (h.hidden name global)
  exit := h'.exit.trans h.exit

end Machine

/-! ## Assignments to elements -/

/-- An assignment of a constant to an element with a constant key. -/
structure ElementWrite where
  name : String
  key : String
  value : String
  place : Location
  signPlace : Location

namespace ElementWrite

def stmt (w : ElementWrite) : Stmt :=
  .expr (.assign .plain (.elem w.name (.const w.key) w.place) (.const w.value) w.signPlace)

/-- What the last of some assignments leaves at a key, of those under certain names. -/
def lastUpdate (under : String → Prop) [DecidablePred under] (key : String)
    (writes : List ElementWrite) : Option Scalar :=
  (writes.filter fun w => under w.name ∧ w.key = key).getLast?.map fun w => ⟨w.value⟩

private theorem lastUpdate_cons (under : String → Prop) [DecidablePred under] (key : String)
    (w : ElementWrite) (writes : List ElementWrite) :
    lastUpdate under key (w :: writes) =
      (lastUpdate under key writes).or
        (if under w.name ∧ w.key = key then some ⟨w.value⟩ else none) := by
  rw [lastUpdate, lastUpdate, List.filter_cons]
  split
  · rename_i counts
    rw [if_pos (of_decide_eq_true counts), List.getLast?_cons]
    cases (writes.filter fun w => under w.name ∧ w.key = key).getLast? <;> rfl
  · rename_i counts
    rw [if_neg (fun both => counts (decide_eq_true both)), Option.or_none]

private theorem lastUpdate_congr {P Q : String → Prop} [DecidablePred P] [DecidablePred Q]
    {writes : List ElementWrite} (h : ∀ w ∈ writes, P w.name ↔ Q w.name) (key : String) :
    lastUpdate P key writes = lastUpdate Q key writes := by
  rw [lastUpdate, lastUpdate, List.filter_congr]
  intro w mem
  rw [decide_eq_decide, h w mem]

private theorem lastUpdate_of_none {P : String → Prop} [DecidablePred P]
    {writes : List ElementWrite}
    (h : ∀ w ∈ writes, ¬ P w.name) (key : String) : lastUpdate P key writes = none := by
  rw [lastUpdate, List.filter_eq_nil_iff.mpr]
  · rfl
  · intro w mem both
    exact h w mem (of_decide_eq_true both).1

end ElementWrite

namespace Machine

/-- The array to which an assignment to an element adds. -/
def tableAt (m : Machine) (name : String) : Table :=
  match m.lookup name with
  | some (.array t) => t
  | _ => ∅

def write (m : Machine) (w : ElementWrite) : Machine :=
  m.mapScopeOf w.name (·.insert w.name (.array ((m.tableAt w.name).insert w.key ⟨w.value⟩)))

private theorem lookup_writes {m : Machine} {name : String} {t : Table}
    (held : m.lookup name = some (.array t)) (writes : List ElementWrite) :
    ∃ t', (writes.foldl write m).lookup name = some (.array t') ∧
      ∀ k, t'[k]? = (ElementWrite.lastUpdate (· = name) k writes).or t[k]? := by
  induction writes generalizing m t with
  | nil => exact ⟨t, held, fun _ => rfl⟩
  | cons w writes ih =>
    have stored := m.lookup_store w.name name (.array ((m.tableAt w.name).insert w.key ⟨w.value⟩))
    by_cases same : w.name = name
    · rw [if_pos same] at stored
      obtain ⟨t', now, elements⟩ := ih stored
      refine ⟨t', now, fun k => ?_⟩
      have table : m.tableAt w.name = t := by rw [tableAt, same, held]
      rw [elements, ElementWrite.lastUpdate_cons, table, Std.TreeMap.getElem?_insert,
        Option.or_assoc]
      congr 1
      by_cases key : w.key = k
      · simp [same, key]
      · simp [key]
    · rw [if_neg same, held] at stored
      obtain ⟨t', now, elements⟩ := ih stored
      refine ⟨t', now, fun k => ?_⟩
      rw [elements, ElementWrite.lastUpdate_cons, if_neg (fun both => same both.1), Option.or_none]

private theorem within_writes {m : Machine} {frame : Scope} {frames : List Scope}
    (here : m.frames = frame :: frames) (writes : List ElementWrite) :
    ∃ frame', m.Within (writes.foldl write m) frame frame' frames := by
  induction writes generalizing m frame with
  | nil => exact ⟨frame, .refl here⟩
  | cons w writes ih =>
    obtain ⟨frame₁, first⟩ := within_store here w.name
      (.array ((m.tableAt w.name).insert w.key ⟨w.value⟩))
    obtain ⟨frame', rest⟩ := ih first.there
    exact ⟨frame', first.trans rest⟩

end Machine

/-! ## The body of a call -/

namespace Machine

def enter (m : Machine) (frame : Scope) : Machine :=
  { m with frames := frame :: m.frames }

section Body

variable {m : Machine} {frame frame' : Scope} {t : Table} {writes : List ElementWrite}
variable (within :
  (m.enter frame).Within (writes.foldl write (m.enter frame)) frame frame' m.frames)
include within

private theorem get?_frame_of_writes {param : String} (free : m.globals.contains param = false)
    (bound : frame.get? param = some (.array t)) :
    ∃ t', frame'.get? param = some (.array t') ∧
      ∀ k, t'[k]? = (ElementWrite.lastUpdate (· = param) k writes).or t[k]? := by
  have before : (m.enter frame).lookup param = some (.array t) := by
    rw [lookup_eq, enter, Scope.get?_of_not_contains free]
    exact bound
  obtain ⟨t', after, elements⟩ := lookup_writes before writes
  have still := (within.globals param).trans free
  rw [lookup_eq, within.there, Scope.get?_of_not_contains still] at after
  exact ⟨t', after, elements⟩

private theorem lookup_global_of_writes {v : String} (global : m.globals.contains v = true)
    (held : m.lookup v = some (.array t)) (frames : List Scope) :
    ∃ t', lookup { writes.foldl write (m.enter frame) with frames } v = some (.array t') ∧
      ∀ k, t'[k]? = (ElementWrite.lastUpdate (· = v) k writes).or t[k]? := by
  have anywhere {n : Machine} (global : n.globals.contains v = true) (frames : List Scope) :
      lookup { n with frames } v = n.lookup v := by
    rw [lookup, lookup, scopeOf, scopeOf, if_pos global, if_pos global]
  have before := (anywhere global (frame :: m.frames)).trans held
  obtain ⟨t', after, elements⟩ := lookup_writes before writes
  exact ⟨t', (anywhere ((within.globals v).trans global) frames).trans after, elements⟩

private theorem lookup_local_of_writes {v : String} (free : m.globals.contains v = false) :
    lookup { writes.foldl write (m.enter frame) with frames := m.frames } v = m.lookup v := by
  rw [lookup_eq, lookup_eq, Scope.get?_of_not_contains free,
    Scope.get?_of_not_contains ((within.globals v).trans free)]

end Body

end Machine

section AnyPlatform

variable [Platform]

/-! ## Running a body -/

namespace Eval

omit [Platform] in
theorem setElement_ok {name : String} {key value : Scalar} {l : Location} {m m' : Machine}
    (h : setElement name key value l m = .ok () m') :
    m' = m.mapScopeOf name (·.insert name (.array ((m.tableAt name).insert key.text value))) := by
  obtain ⟨t, m₁, table, stored⟩ := Run.ok_of_bind h
  obtain ⟨rfl, rfl⟩ : m = m₁ ∧ m.tableAt name = t := by
    rw [tableOf, Run.bind_ok (show Run.lookup name m = .ok (m.lookup name) m from rfl)] at table
    rw [Machine.tableAt]
    cases here : m.lookup name with
    | none =>
      rw [here] at table
      cases table
      exact ⟨rfl, rfl⟩
    | some value =>
      rw [here] at table
      cases value with
      | array t' =>
        cases table
        exact ⟨rfl, rfl⟩
      | scalar x =>
        cases empty : x.isEmpty with
        | true =>
          simp only [empty, if_true] at table
          cases table
          exact ⟨rfl, rfl⟩
        | false =>
          simp only [empty, Bool.false_eq_true, if_false] at table
          cases table
  cases stored
  rfl

private theorem exec_write {p : Program} {fuel : Nat} {w : ElementWrite} {m m' : Machine}
    {flow : Flow} (run : p.exec fuel w.stmt m = .ok flow m') : flow = .next ∧ m' = m.write w := by
  match fuel, run with
  | 0, run | 1, run | 2, run => cases run
  | fuel + 3, run =>
    have shape : p.exec (fuel + 3) w.stmt m = (do
        setElement w.name ⟨w.key⟩ ⟨w.value⟩ w.signPlace
        return .next : Run Flow) m := by
      simp only [Program.exec, statement, ElementWrite.stmt, Program.eval, expression, scalar,
        assign, pure_bind, bind_assoc]
    rw [shape] at run
    obtain ⟨_, m₁, stored, ended⟩ := Run.ok_of_bind run
    cases ended
    exact ⟨rfl, setElement_ok stored⟩

omit [Platform] in
private theorem exit?_write (m : Machine) (w : ElementWrite) : (m.write w).exit? = m.exit? := by
  unfold Machine.write Machine.mapScopeOf
  split
  · rfl
  · split <;> rfl

private theorem sequence_writes {p : Program} {fuel : Nat} {writes : List ElementWrite}
    {m m' : Machine} {flow : Flow} (running : m.exit? = none)
    (run : sequence (p.exec fuel) (writes.map ElementWrite.stmt) m = .ok flow m') :
    m' = writes.foldl Machine.write m := by
  induction writes generalizing m with
  | nil =>
    cases run
    rfl
  | cons w writes ih =>
    have pending : Run.exitPending m = .ok false m := by
      change EStateM.Result.ok m.exit?.isSome m = _
      rw [running]
      rfl
    rw [List.map_cons, sequence, Run.bind_ok pending] at run
    obtain ⟨flow₁, m₁, first, rest⟩ := Run.ok_of_bind run
    obtain ⟨rfl, rfl⟩ := exec_write first
    exact ih ((exit?_write m w).trans running) rest

/-! ## Passing arrays and taking them back -/

/-- What is aligned with the last occurrence of a name. -/
def lastBound {α : Type} (name : String) : List α → List String → Option α
  | a :: as, u :: us => (lastBound name as us).or (if u = name then some a else none)
  | _, _ => none

omit [Platform] in
private theorem lastBound_cons {α : Type} {name u : String} {a b : α} {as : List α}
    {us : List String} (h : lastBound name (a :: as) (u :: us) = some b) :
    lastBound name as us = some b ∨ lastBound name as us = none ∧ u = name ∧ a = b := by
  rw [lastBound, Option.or_eq_some_iff] at h
  rcases h with later | ⟨absent, here⟩
  · exact .inl later
  · split at here
    · rename_i same
      exact .inr ⟨absent, same, Option.some.inj here⟩
    · cases here

omit [Platform] in
private theorem lastBound_map {α β : Type} (name : String) (g : α → β) (as : List α)
    (us : List String) :
    lastBound name (as.map g) us = (lastBound name as us).map g := by
  induction as generalizing us with
  | nil => rfl
  | cons a as ih =>
    cases us with
    | nil => rfl
    | cons u us =>
      rw [List.map_cons, lastBound, lastBound, ih, Option.map_or]
      split <;> rfl

private theorem arguments_vars {p : Program} {fuel : Nat} {vars : List (String × Location)}
    {m m' : Machine} {values : List Value}
    (run : arguments (p.eval fuel) (vars.map fun v => .var v.1 v.2) m = .ok values m') :
    m' = m ∧ values = (vars.map Prod.fst).map fun v => (m.lookup v).getD .empty := by
  induction vars generalizing values m' with
  | nil =>
    cases run
    exact ⟨rfl, rfl⟩
  | cons v vars ih =>
    obtain ⟨x, m₁, first, rest⟩ := Run.ok_of_bind run
    obtain ⟨xs, m₂, others, ended⟩ := Run.ok_of_bind rest
    cases fuel with
    | zero => cases first
    | succ fuel =>
      obtain ⟨rfl, rfl⟩ : m = m₁ ∧ (m.lookup v.1).getD .empty = x := by
        cases first
        exact ⟨rfl, rfl⟩
      obtain ⟨rfl, rfl⟩ := ih others
      cases ended
      exact ⟨rfl, rfl⟩

omit [Platform]

private theorem get?_bindAll_of_not_mem {name : String} {params : List String}
    (fresh : name ∉ params) (values : List Value) (scope : Scope) :
    ((params.zip values).foldl (fun scope (name, value) => scope.insert name value) scope).get?
      name = scope.get? name := by
  induction params generalizing values scope with
  | nil => rfl
  | cons param params ih =>
    cases values with
    | nil => rfl
    | cons value values =>
      rw [List.mem_cons, not_or] at fresh
      rw [List.zip_cons_cons, List.foldl_cons, ih fresh.2, Scope.get?_insert,
        if_neg (Ne.symm fresh.1)]

private theorem get?_bindParams {params vars : List String} (distinct : params.Nodup)
    (value : String → Value) {v param : String} (bound : lastBound v params vars = some param) :
    (bindParams params (vars.map value)).get? param = some (value v) := by
  unfold bindParams
  generalize Scope.empty = scope
  induction params generalizing vars scope with
  | nil => cases bound
  | cons q params ih =>
    cases vars with
    | nil => cases bound
    | cons u vars =>
      rw [List.nodup_cons] at distinct
      rw [List.map_cons, List.zip_cons_cons, List.foldl_cons]
      rcases lastBound_cons bound with later | ⟨-, rfl, rfl⟩
      · exact ih distinct.2 later _
      · rw [get?_bindAll_of_not_mem distinct.1, Scope.get?_insert, if_pos rfl]

private theorem paramValues_eq_map {params : List String} (distinct : params.Nodup)
    (frame : Scope) :
    paramValues params frame = params.map fun p => (frame.get? p).getD .empty := by
  induction params generalizing frame with
  | nil => rfl
  | cons q params ih =>
    rw [List.nodup_cons] at distinct
    rw [paramValues, ih distinct.2, List.map_cons, List.cons.injEq]
    refine ⟨rfl, List.map_congr_left fun p mem => ?_⟩
    rw [Scope.get?_erase, if_neg]
    rintro rfl
    exact distinct.1 mem

/-- What taking arrays back does: a variable that was not passed keeps its meaning, and one that was
passed is bound to the array that comes back in its last place. -/
structure TakenBack (vars : List String) (values : List Value) (m m' : Machine) : Prop where
  kept : ∀ v, lastBound v values vars = none → m'.lookup v = m.lookup v
  taken : ∀ v t, lastBound v values vars = some (.array t) → m'.lookup v = some (.array t)

private theorem TakenBack.refl {vars : List String} {values : List Value} (m : Machine)
    (none : ∀ v, lastBound v values vars = none) : TakenBack vars values m m :=
  ⟨fun _ _ => rfl, fun v t some => by rw [none v] at some; cases some⟩

private theorem TakenBack.cons {u : String} {x : Value} {vars : List String} {values : List Value}
    {m m₁ m' : Machine} (h : TakenBack vars values m₁ m')
    (other : ∀ v, u ≠ v → m₁.lookup v = m.lookup v)
    (here : ∀ t, x = .array t → m₁.lookup u = some (.array t)) :
    TakenBack (u :: vars) (x :: values) m m' := by
  refine ⟨fun v absent => ?_, fun v t bound => ?_⟩
  · rw [lastBound, Option.or_eq_none_iff] at absent
    have apart : u ≠ v := fun same => by simp [same] at absent
    rw [h.kept v absent.1, other v apart]
  · rcases lastBound_cons bound with later | ⟨absent, rfl, rfl⟩
    · exact h.taken v t later
    · rw [h.kept _ absent, here t rfl]

private theorem writeBack_vars (vars : List (String × Location)) (values : List Value)
    (m : Machine) :
    ∃ m', writeBack (vars.map fun v => .var v.1 v.2) values m = .ok () m' ∧
      TakenBack (vars.map Prod.fst) values m m' := by
  induction vars generalizing values m with
  | nil =>
    cases values with
    | nil => exact ⟨m, rfl, .refl m fun _ => rfl⟩
    | cons x values => exact ⟨m, rfl, .refl m fun _ => rfl⟩
  | cons u vars ih =>
    cases values with
    | nil => exact ⟨m, rfl, .refl m fun _ => rfl⟩
    | cons x values =>
      cases x with
      | scalar s =>
        obtain ⟨m', run, back⟩ := ih values m
        exact ⟨m', run, back.cons (fun _ _ => rfl) nofun⟩
      | array t =>
        obtain ⟨m', run, back⟩ := ih values (m.mapScopeOf u.1 (·.insert u.1 (.array t)))
        refine ⟨m', run, back.cons (fun v apart => ?_) (fun t' same => ?_)⟩
        · rw [Machine.lookup_store, if_neg apart]
        · rw [Machine.lookup_store, if_pos rfl, same]

end Eval

/-! ## Calls -/

namespace Machine

/-- The only name under which assignments made in a call reach a variable of the caller: the last
parameter that the variable is bound to, unless a global hides it; or, if the variable is not
passed, its own name, if it is global. -/
def channel (m : Machine) (params vars : List String) (v : String) : Option String :=
  match Eval.lastBound v params vars with
  | some param => if m.globals.contains param then none else some param
  | none => if m.globals.contains v then some v else none

/-- A name means a variable of the caller in a call: it is the variable's own name and global, or a
parameter bound to it. -/
def Denotes (m : Machine) (params vars : List String) (v name : String) : Prop :=
  (name = v ∧ m.globals.contains v = true) ∨ (name, v) ∈ params.zip vars

instance (m : Machine) (params vars : List String) (v : String) :
    DecidablePred (m.Denotes params vars v) :=
  fun _ => inferInstanceAs (Decidable (_ ∨ _))

end Machine

omit [Platform] in
private theorem Run.withFrame_ok {α : Type} {frame frame' : Scope} {body : Run α} {m m' : Machine}
    {a : α} (h : withFrame frame body m = .ok (a, frame') m') :
    ∃ m₁, body { m with frames := frame :: m.frames } = .ok a m₁ ∧
      frame' = m₁.frames.headD .empty ∧ m' = { m₁ with frames := m₁.frames.tail } := by
  unfold withFrame at h
  split at h
  · rename_i a₁ m₁ run
    cases h
    exact ⟨m₁, run, rfl, rfl⟩
  · cases h

namespace Eval

section Call

variable {p : Program} {f : Function} {writes : List ElementWrite}
variable {vars : List (String × Location)} {fuel : Nat} {l : Location} {m m' : Machine}
variable {result : Scalar} (distinct : f.params.Nodup)
variable (body : f.body = writes.map ElementWrite.stmt) (running : m.exit? = none)
variable (run : callFunction (p.eval fuel) (p.exec fuel) f (vars.map fun v => .var v.1 v.2) l m =
  .ok result m')
include distinct body running run

private theorem callFunction_writes :
    let value v := (m.lookup v).getD .empty
    let frame := bindParams f.params ((vars.map Prod.fst).map value)
    let inner := writes.foldl Machine.write (m.enter frame)
    ∃ frame', (m.enter frame).Within inner frame frame' m.frames ∧
      writeBack (vars.map fun v => .var v.1 v.2)
        (f.params.map fun param => (frame'.get? param).getD .empty)
        { inner with frames := m.frames } = .ok () m' := by
  intro value frame inner
  unfold callFunction at run
  split at run
  · obtain ⟨values, m₀, passed, run⟩ := Run.ok_of_bind run
    obtain ⟨rfl, rfl⟩ := arguments_vars passed
    obtain ⟨⟨flow, last⟩, m₂, called, run⟩ := Run.ok_of_bind run
    obtain ⟨_, m₃, returned, ended⟩ := Run.ok_of_bind run
    cases ended
    obtain ⟨m₁, ran, rfl, rfl⟩ := Run.withFrame_ok called
    obtain ⟨frame', within⟩ := Machine.within_writes (m := m₀.enter frame) rfl writes
    rw [body] at ran
    obtain rfl : m₁ = inner := sequence_writes (m := m₀.enter frame) running ran
    rw [within.there, List.headD_cons, List.tail_cons, paramValues_eq_map distinct] at returned
    exact ⟨frame', within, returned⟩
  · cases run

/-- Each array of the caller shows behind the call, at each key, the last of the assignments that
were made under the one name that reaches it. -/
private theorem callFunction_arrays {v : String} {t : Table} (held : m.lookup v = some (.array t)) :
    ∃ t', m'.lookup v = some (.array t') ∧ ∀ k, t'[k]? =
      (ElementWrite.lastUpdate (m.channel f.params (vars.map Prod.fst) v = some ·) k writes).or
        t[k]? := by
  obtain ⟨frame', within, returned⟩ := callFunction_writes distinct body running run
  obtain ⟨m'', again, back⟩ := writeBack_vars vars _ _
  obtain rfl : m'' = m' := by
    rw [returned] at again
    cases again
    rfl
  have silent (through : m.channel f.params (vars.map Prod.fst) v = none) (k : String) :
      t[k]? = (ElementWrite.lastUpdate (m.channel f.params (vars.map Prod.fst) v = some ·) k
        writes).or t[k]? := by
    rw [ElementWrite.lastUpdate_of_none (fun w _ => by simp [through]), Option.none_or]
  have heard {name : String} (through : m.channel f.params (vars.map Prod.fst) v = some name)
      (k : String) : ElementWrite.lastUpdate (· = name) k writes =
        ElementWrite.lastUpdate (m.channel f.params (vars.map Prod.fst) v = some ·) k writes :=
    ElementWrite.lastUpdate_congr (fun w _ => by rw [through, Option.some.injEq, eq_comm]) k
  cases bound : lastBound v f.params (vars.map Prod.fst) with
  | some param =>
    have value : (m.lookup v).getD .empty = .array t := by rw [held]; rfl
    have inside := get?_bindParams distinct (fun v => (m.lookup v).getD .empty) bound
    rw [value] at inside
    have shown {t' : Table} (now : frame'.get? param = some (.array t')) :
        m''.lookup v = some (.array t') := by
      refine back.taken v t' ?_
      rw [lastBound_map, bound, Option.map_some, now]
      rfl
    cases global : m.globals.contains param with
    | true =>
      -- The assignments go to the global, and the copy comes back as it was.
      have untouched := (within.hidden param global).trans inside
      exact ⟨t, shown untouched, silent (by simp [Machine.channel, bound, global])⟩
    | false =>
      obtain ⟨t', now, elements⟩ := Machine.get?_frame_of_writes within global inside
      refine ⟨t', shown now, fun k => ?_⟩
      rw [elements, heard (by simp [Machine.channel, bound, global])]
  | none =>
    have same := back.kept v (by rw [lastBound_map, bound]; rfl)
    cases global : m.globals.contains v with
    | true =>
      obtain ⟨t', now, elements⟩ := Machine.lookup_global_of_writes within global held m.frames
      refine ⟨t', same.trans now, fun k => ?_⟩
      rw [elements, heard (by simp [Machine.channel, bound, global])]
    | false =>
      have untouched := (Machine.lookup_local_of_writes within global).trans held
      exact ⟨t, same.trans untouched, silent (by simp [Machine.channel, bound, global])⟩

end Call

end Eval

omit [Platform] in
private theorem Eval.mem_zip_of_lastBound {v param : String} {params vars : List String}
    (bound : lastBound v params vars = some param) : (param, v) ∈ params.zip vars := by
  induction params generalizing vars with
  | nil => cases bound
  | cons q params ih =>
    cases vars with
    | nil => cases bound
    | cons u vars =>
      rw [List.zip_cons_cons, List.mem_cons]
      rcases lastBound_cons bound with later | ⟨-, rfl, rfl⟩
      · exact .inr (ih later)
      · exact .inl rfl

omit [Platform] in
private theorem Machine.denotes_of_channel {m : Machine} {params vars : List String}
    {v name : String} (h : m.channel params vars v = some name) : m.Denotes params vars v name := by
  unfold channel at h
  split at h
  · rename_i param bound
    split at h
    · cases h
    · rw [← Option.some.inj h]
      exact .inr (Eval.mem_zip_of_lastBound bound)
  · split at h
    · rename_i global
      exact .inl ⟨(Option.some.inj h).symm, global⟩
    · cases h

/-- Arrays behave as if they were passed by reference, as long as an array goes by one name only.
The function may have any parameters of different names and its body any assignments of constants
to elements; the arguments may be any variables.  If every assignment that means an array of the
caller is made under the name that reaches it, then the array shows at each key the last of these
assignments, and elsewhere what it had before. -/
theorem Program.arrays_by_reference {p : Program} {name : String} {f : Function}
    {writes : List ElementWrite} {vars : List (String × Location)} {fuel : Nat} {l : Location}
    {m m' : Machine} {value : Value} (user : Builtin.ofName? name = none)
    (found : p.function? name = some f) (distinct : f.params.Nodup)
    (body : f.body = writes.map ElementWrite.stmt) (running : m.exit? = none)
    (run : p.eval fuel (.call name (vars.map fun v => .var v.1 v.2) l) m = .ok value m')
    {v : String} {t : Table} (held : m.lookup v = some (.array t))
    (alone : ∀ w ∈ writes, m.Denotes f.params (vars.map Prod.fst) v w.name →
      m.channel f.params (vars.map Prod.fst) v = some w.name) :
    ∃ t', m'.lookup v = some (.array t') ∧ ∀ k, t'[k]? =
      (ElementWrite.lastUpdate (m.Denotes f.params (vars.map Prod.fst) v) k writes).or t[k]? := by
  cases fuel with
  | zero => cases run
  | succ fuel =>
    rw [Program.eval, Eval.expression] at run
    obtain ⟨result, m₁, called, ended⟩ := Run.ok_of_bind run
    cases ended
    simp only [Eval.call, user, found] at called
    obtain ⟨t', shown, elements⟩ := Eval.callFunction_arrays distinct body running called held
    refine ⟨t', shown, fun k => ?_⟩
    rw [elements, ElementWrite.lastUpdate_congr (Q := m.Denotes f.params (vars.map Prod.fst) v)
      fun w mem => ⟨Machine.denotes_of_channel, alone w mem⟩]

end AnyPlatform

/-- Two arrays passed and a third one global, each of them written to under one name. -/
theorem Program.arrays_by_reference_apart :
    let writes : List ElementWrite := [⟨"a", "1", "p", .unknown, .unknown⟩,
      ⟨"b", "1", "q", .unknown, .unknown⟩, ⟨"z", "1", "r", .unknown, .unknown⟩,
      ⟨"a", "1", "s", .unknown, .unknown⟩]
    let f : Function := ⟨"f", ["a", "b"], writes.map ElementWrite.stmt, .unknown⟩
    let p : Program := ⟨[f], [], [], []⟩
    let vars := [("x", Location.unknown), ("y", Location.unknown)]
    let t : Table := (∅ : Table).insert "0" ⟨"o"⟩
    let m := ["x", "y", "z"].foldl (fun m name => m.mapScopeOf name (·.insert name (.array t)))
      (Machine.ofRecords (.ofLines []))
    ∃ value m' t',
      p.eval 9 (.call "f" (vars.map fun v => .var v.1 v.2) .unknown) m = .ok value m' ∧
        m'.lookup "x" = some (.array t') ∧ t'["0"]? = some ⟨"o"⟩ ∧ t'["1"]? = some ⟨"s"⟩ := by
  intro writes f p vars t m
  have ends : (match p.eval 9 (.call "f" (vars.map fun v => .var v.1 v.2) .unknown) m with
      | .ok _ _ => true
      | .error _ _ => false) = true := by decide +kernel
  cases run : p.eval 9 (.call "f" (vars.map fun v => .var v.1 v.2) .unknown) m with
  | error halt m' =>
    rw [run] at ends
    cases ends
  | ok value m' =>
    have held : m.lookup "x" = some (.array t) := by
      simp [m, Machine.lookup_store]
    obtain ⟨t', shown, elements⟩ := arrays_by_reference (by decide) rfl (by decide) rfl rfl run held
      (by decide +kernel)
    refine ⟨value, m', t', rfl, shown, ?_, ?_⟩
    · rw [elements]
      decide +kernel
    · rw [elements]
      decide +kernel

/-- One array passed twice: what is written under its first name is lost. -/
theorem Program.aliased_update_lost :
    let source := "function f(a, b) \x7b a[1] = \"p\"; b[2] = \"q\" \x7d " ++
      "BEGIN \x7b x[0] = \"o\"; f(x, x) \x7d"
    ∃ p m t, ofSource source = .ok p ∧ p.run 20 (.ofRecords (.ofLines [])) = .ok 0 m ∧
      m.globals.get? "x" = some (.array t) ∧ t.toList = [("0", ⟨"o"⟩), ("2", ⟨"q"⟩)] := by
  intro source
  have outcome : ((ofSource source).toOption.bind fun p =>
      match p.run 20 (.ofRecords (.ofLines [])) with
      | .ok status m => ((m.globals.get? "x").bind Value.array?).map fun t => (status, t.toList)
      | .error _ _ => none) = some (0, [("0", ⟨"o"⟩), ("2", ⟨"q"⟩)]) := by decide +kernel
  obtain ⟨p, read, outcome⟩ := Option.bind_eq_some_iff.mp outcome
  cases run : p.run 20 (.ofRecords (.ofLines [])) with
  | error halt m =>
    rw [run] at outcome
    cases outcome
  | ok status m =>
    rw [run] at outcome
    obtain ⟨t, array, elements⟩ := Option.map_eq_some_iff.mp outcome
    obtain ⟨rfl, listed⟩ := Prod.mk.inj elements
    obtain ⟨value, bound, array⟩ := Option.bind_eq_some_iff.mp array
    cases value with
    | scalar s => cases array
    | array t' =>
      obtain rfl := Option.some.inj array
      refine ⟨p, m, t', ?_, run, bound, listed⟩
      cases parsed : ofSource source with
      | error halt =>
        rw [parsed] at read
        cases read
      | ok q =>
        rw [parsed] at read
        rw [Option.some.inj read]

end PatternAction
