import PatternAction.Proofs.Run.Update
import PatternAction.Proofs.Run.Yields
import PatternAction.Standard

/-!
Elements of what is no array yet.  A name that is not bound, and one that is bound to the empty
scalar, can both be written to as an array, which then comes into being.  Reading an element, asking
for it, stepping it and deleting it take a name that is not bound for an array without elements; but
bound to the empty scalar, as a parameter is whose argument was not bound, the name is refused by
all four of them.  Whatever else can be written to as an array can be read as one.
-/

set_option autoImplicit false
set_option relaxedAutoImplicit false

namespace PatternAction

/-! ## Outcomes by what a name is bound to -/

/-- The scalar that a name is bound to, if it is bound to one. -/
def Machine.scalarAt? (m : Machine) (name : String) : Option Scalar :=
  match m.lookup name with
  | some (.scalar s) => some s
  | _ => none

private theorem Scalar.eq_empty_of_isEmpty {s : Scalar} (h : s.isEmpty = true) : s = .empty := by
  obtain ⟨text⟩ := s
  rw [isEmpty, beq_iff_eq] at h
  rw [empty, ← h]

namespace Eval

variable {eval : Expr → Run Value} {m m₁ : Machine} {index : Expr} {key : Scalar}

theorem lookup_bind {α : Type} (name : String) (f : Option Value → Run α) (m : Machine) :
    (Run.lookup name >>= f) m = f (m.lookup name) m :=
  Run.bind_ok rfl

private theorem element_eq (name : String) (named : scalar eval index m = .ok key m₁)
    (l : Location) :
    element eval name index l m =
      match m₁.scalarAt? name with
      | none => .ok ((m₁.tableAt name)[key.text]?.getD .empty) m₁
      | some _ => .error (.fault (.failure (.notArray name) l)) m₁ := by
  rw [element, Run.bind_ok named, lookup_bind, Machine.scalarAt?, Machine.tableAt]
  cases m₁.lookup name with
  | none =>
    have missing : (∅ : Table)[key.text]? = none := Std.TreeMap.getElem?_emptyc
    dsimp only
    rw [missing]
    rfl
  | some v => cases v <;> rfl

private theorem membership_eq (name : String) (named : scalar eval index m = .ok key m₁)
    (l l' : Location) :
    membership eval .in index (some (.var name l)) l' m =
      match m₁.scalarAt? name with
      | none => .ok (.ofBool ((m₁.tableAt name).contains key.text)) m₁
      | some _ => .error (.fault (.failure (.notArray name) l')) m₁ := by
  change (scalar eval index >>= _) m = _
  rw [Run.bind_ok named, lookup_bind, Machine.scalarAt?, Machine.tableAt]
  cases m₁.lookup name with
  | none =>
    have missing : (∅ : Table).contains key.text = false := Std.TreeMap.contains_emptyc
    dsimp only
    rw [missing]
    rfl
  | some v => cases v <;> rfl

private theorem tableOf_eq (name : String) (l : Location) (m : Machine) :
    tableOf name l m =
      match m.scalarAt? name with
      | none => .ok (m.tableAt name) m
      | some s =>
        if s.isEmpty then .ok ∅ m else .error (.fault (.failure (.notArray name) l)) m := by
  rw [tableOf, lookup_bind, Machine.scalarAt?, Machine.tableAt]
  cases m.lookup name with
  | none => rfl
  | some v =>
    cases v with
    | array t => rfl
    | scalar s =>
      dsimp only
      cases s.isEmpty <;> rfl

private theorem deleteElements_eq (name : String) (keys : List String) (l : Location)
    (m : Machine) :
    ∃ m', deleteElements name keys l m =
      match m.scalarAt? name with
      | none => .ok () m'
      | some _ => .error (.fault (.failure (.deleteNotArray name) l)) m' := by
  rw [deleteElements, lookup_bind, Machine.scalarAt?]
  match m.lookup name with
  | none => exact ⟨_, rfl⟩
  | some (.scalar _) => exact ⟨_, rfl⟩
  | some (.array _) => exact ⟨_, rfl⟩

private theorem scalarAt?_of_setElement {name : String} {value : Scalar} {l : Location}
    (stored : setElement name key value l m = .ok () m₁) :
    ∀ s ∈ m.scalarAt? name, s = .empty := by
  obtain ⟨t, m₂, table, -⟩ := Run.ok_of_bind stored
  intro s bound
  rw [tableOf_eq, Option.mem_def.mp bound] at table
  dsimp only at table
  split at table
  · rename_i nothing
    exact Scalar.eq_empty_of_isEmpty nothing
  · cases table

end Eval

section AnyPlatform

variable [Platform]

/-! ## Expressions and deletions that are refused -/

namespace Program

variable {p : Program} {m m₁ m₂ : Machine} {e : Expr} {key : Scalar} {name : String}

/-- An expression fails for a cause at a place. -/
def Refuses (p : Program) (e : Expr) (m : Machine) (cause : RunCause) (l : Location) : Prop :=
  ∃ fuel m', p.eval fuel e m = .error (.fault (.failure cause l)) m'

private theorem Refuses.unary {op : Operator} {cause : RunCause} {l l' : Location}
    {f : Scalar → Scalar} (refused : p.Refuses e m cause l)
    (means : ∀ eval, Eval.operation eval op e none l' = Eval.map eval f e) :
    p.Refuses (.unary op e l') m cause l := by
  obtain ⟨fuel, m', failed⟩ := refused
  have operand : Eval.scalar (p.eval fuel) e m = .error (.fault (.failure cause l)) m' :=
    Run.bind_error failed
  have mapped : Eval.operation (p.eval fuel) op e none l' m =
      .error (.fault (.failure cause l)) m' := by
    rw [means]
    exact Run.bind_error operand
  exact ⟨fuel + 1, m', Run.bind_error mapped⟩

private theorem Refuses.assign {form : AssignForm} {target value : Expr} {cause : RunCause}
    {l l' : Location} (refused : p.Refuses value m cause l) :
    p.Refuses (.assign form target value l') m cause l := by
  obtain ⟨fuel, m', failed⟩ := refused
  have stopped : Eval.scalar (p.eval fuel) value m = .error (.fault (.failure cause l)) m' :=
    Run.bind_error failed
  exact ⟨fuel + 1, m', Run.bind_error stopped⟩

/-! ## Elements of a name that no scalar is bound to -/

section Named

variable (named : p.Yields e m key m₁)
include named

theorem Yields.elem (free : m₁.scalarAt? name = none) (l : Location) :
    p.Yields (.elem name e l) m ((m₁.tableAt name)[key.text]?.getD .empty) m₁ := by
  obtain ⟨fuel, enough⟩ := named.enough
  have read := Eval.element_eq name (enough fuel (Nat.le_refl fuel)) l
  rw [free] at read
  exact ⟨fuel + 1, Run.bind_ok read⟩

private theorem Yields.elem_refused {s : Scalar} (bound : m₁.scalarAt? name = some s)
    (l : Location) :
    p.Refuses (.elem name e l) m (.notArray name) l := by
  obtain ⟨fuel, enough⟩ := named.enough
  have read := Eval.element_eq name (enough fuel (Nat.le_refl fuel)) l
  rw [bound] at read
  exact ⟨fuel + 1, m₁, Run.bind_error read⟩

private theorem Yields.membership (free : m₁.scalarAt? name = none) (l l' : Location) :
    p.Yields (.binary .in e (.var name l) l') m (.ofBool ((m₁.tableAt name).contains key.text))
      m₁ := by
  obtain ⟨fuel, enough⟩ := named.enough
  have asked := Eval.membership_eq name (enough fuel (Nat.le_refl fuel)) l l'
  rw [free] at asked
  exact ⟨fuel + 1, Run.bind_ok asked⟩

private theorem Yields.membership_refused {s : Scalar} (bound : m₁.scalarAt? name = some s)
    (l l' : Location) : p.Refuses (.binary .in e (.var name l) l') m (.notArray name) l' := by
  obtain ⟨fuel, enough⟩ := named.enough
  have asked := Eval.membership_eq name (enough fuel (Nat.le_refl fuel)) l l'
  rw [bound] at asked
  exact ⟨fuel + 1, m₁, Run.bind_error asked⟩

private theorem Yields.exec_delete (name : String) (l : Location) :
    ∃ fuel m', p.exec fuel (.delete name [e] l) m =
      match m₁.scalarAt? name with
      | none => .ok .next m'
      | some _ => .error (.fault (.failure (.deleteNotArray name) l)) m' := by
  obtain ⟨fuel, enough⟩ := named.enough
  have keyed : Eval.keys (p.eval fuel) [e] m = .ok [key.text] m₁ := by
    rw [Eval.keys, Run.bind_ok (enough fuel (Nat.le_refl fuel))]
    rfl
  obtain ⟨m', deleted⟩ := Eval.deleteElements_eq name [key.text] l m₁
  refine ⟨fuel + 1, m', ?_⟩
  change (Eval.keys (p.eval fuel) [e] >>= fun keys => do
    Eval.deleteElements name keys l
    return Flow.next) m = _
  rw [Run.bind_ok keyed]
  cases bound : m₁.scalarAt? name with
  | none =>
    rw [bound] at deleted
    exact Run.bind_ok deleted
  | some s =>
    rw [bound] at deleted
    exact Run.bind_error deleted

end Named

/-- An assignment to an element of a name that no scalar is bound to when it is stored. -/
theorem Yields.assignElem {form : AssignForm} {value : Expr} {s : Scalar}
    (valued : p.Yields value m s m₁) (named : p.Yields e m₁ key m₂)
    (free : m₂.scalarAt? name = none) (l l' : Location) :
    p.Yields (.assign form (.elem name e l) value l') m s
      ((Cell.element name key.text).write m₂ s) := by
  obtain ⟨fuel₁, enough₁⟩ := valued.enough
  obtain ⟨fuel₂, enough₂⟩ := named.enough
  let fuel := max fuel₁ fuel₂
  have table : Eval.tableOf name l' m₂ = .ok (m₂.tableAt name) m₂ := by
    rw [Eval.tableOf_eq, free]
  have stored : Eval.setElement name key s l' m₂ =
      .ok () ((Cell.element name key.text).write m₂ s) := Run.bind_ok table
  have assigned : Eval.assign (p.eval fuel) (.elem name e l) s l' m₁ =
      .ok () ((Cell.element name key.text).write m₂ s) :=
    (Run.bind_ok (enough₂ fuel (Nat.le_max_right _ _))).trans stored
  refine ⟨fuel + 1, ?_⟩
  change (Eval.scalar (p.eval fuel) value >>= fun v => do
    Eval.assign (p.eval fuel) (.elem name e l) v l'
    return Value.scalar v) m = _
  rw [Run.bind_ok (enough₁ fuel (Nat.le_max_left _ _))]
  exact Run.bind_ok assigned

end Program

/-! ## Reading what can be written -/

/-- In a state in which an expression comes to a key, the element of a name with that key can be
read, asked for, stepped and deleted; a name that holds no array reads as one without elements. -/
structure Program.ReadsAsArray (p : Program) (name : String) (e : Expr) (key : Scalar)
    (m : Machine) : Prop where
  element : ∀ l, ∃ m', p.Yields (.elem name e l) m ((m.tableAt name)[key.text]?.getD .empty) m'
  membership : ∀ l l', ∃ m', p.Yields (.binary .in e (.var name l) l') m
    (.ofBool ((m.tableAt name).contains key.text)) m'
  step : ∀ op l l', op.isStep = true → ∃ m', p.Yields (.stepBy op (.elem name e l) l') m
    (.ofNumber (op.combine ((m.tableAt name)[key.text]?.getD .empty).toNumber .one)) m'
  delete : ∀ l, ∃ fuel m', p.exec fuel (.delete name [e] l) m = .ok .next m'

/-- None of the four can be done, since the name is not an array. -/
structure Program.RefusesAsArray (p : Program) (name : String) (e : Expr) (m : Machine) : Prop where
  element : ∀ l, p.Refuses (.elem name e l) m (.notArray name) l
  membership : ∀ l l', p.Refuses (.binary .in e (.var name l) l') m (.notArray name) l'
  step : ∀ op l l', op.isStep = true →
    p.Refuses (.stepBy op (.elem name e l) l') m (.notArray name) l
  delete : ∀ l, ∃ fuel m', p.exec fuel (.delete name [e] l) m =
    .error (.fault (.failure (.deleteNotArray name) l)) m'

namespace Program

variable {p : Program} {m m' : Machine} {e : Expr} {key : Scalar} {name : String}

private theorem Yields.readsAsArray (named : p.Yields e m key m') (quiet : e.isQuiet = true)
    (free : m.scalarAt? name = none) : p.ReadsAsArray name e key m := by
  obtain ⟨d, agrees, rfl, again⟩ := named.again quiet
  have read (l : Location) : p.Yields (.elem name e l) m
      ((m.tableAt name)[key.text]?.getD .empty) (m.withCache d) := named.elem free l
  refine ⟨fun l => ⟨_, read l⟩, fun l l' => ⟨_, named.membership free l l'⟩, ?_, fun l => ?_⟩
  · intro op l l' isStep
    -- The key is evaluated a second time behind the new value, and comes to the same.
    obtain ⟨d', second⟩ := again d agrees
    have valued := (read l).unary (Operator.operation_of_isStep isStep · _ l')
    exact ⟨_, valued.assignElem second free l l'⟩
  · obtain ⟨fuel, m', deleted⟩ := named.exec_delete name l
    have free' : (m.withCache d).scalarAt? name = none := free
    rw [free'] at deleted
    exact ⟨fuel, m', deleted⟩

private theorem Yields.refusesAsArray (named : p.Yields e m key m') (quiet : e.isQuiet = true)
    {s : Scalar} (bound : m.scalarAt? name = some s) : p.RefusesAsArray name e m := by
  obtain ⟨d, -, rfl, -⟩ := named.again quiet
  refine ⟨named.elem_refused bound, named.membership_refused bound, ?_, fun l => ?_⟩
  · intro op l l' isStep
    exact ((named.elem_refused bound l).unary (Operator.operation_of_isStep isStep · _ l')).assign
  · obtain ⟨fuel, m', deleted⟩ := named.exec_delete name l
    have bound' : (m.withCache d).scalarAt? name = some s := bound
    rw [bound'] at deleted
    exact ⟨fuel, m', deleted⟩

/-- Whatever can be written to as an array can be read as one, unless it is the empty scalar.  If an
assignment to an element succeeds, then in the state before it the element can be read, asked for,
stepped and deleted, where a name that is not bound is an array without elements; only a name that
is bound to the empty scalar is refused by all four.  The key is given by any expression without
assignments and calls. -/
theorem written_is_readable (p : Program) {name value : String} {e : Expr} {l l' : Location}
    {m m' : Machine} {s : Scalar} (quiet : e.isQuiet = true)
    (written : p.Yields (.assign .plain (.elem name e l) (.const value) l') m s m') :
    ∃ key m₁, p.Yields e m key m₁ ∧
      (m.scalarAt? name ≠ some .empty → p.ReadsAsArray name e key m) ∧
      (m.scalarAt? name = some .empty → p.RefusesAsArray name e m) := by
  obtain ⟨fuel, done⟩ := written
  match fuel, done with
  | 0, done | 1, done => cases done
  | fuel + 2, done =>
    obtain ⟨v, m₁, valued, rest⟩ := Run.ok_of_bind done
    cases valued
    obtain ⟨_, m₂, assigned, -⟩ := Run.ok_of_bind rest
    obtain ⟨key, m₃, evaluated, stored⟩ := Run.ok_of_bind assigned
    have named : p.Yields e m key m₃ := yields_of_scalar evaluated
    have onlyEmpty := Eval.scalarAt?_of_setElement stored
    refine ⟨key, m₃, named, fun other => ?_, named.refusesAsArray quiet⟩
    obtain ⟨d, -, rfl, -⟩ := named.again quiet
    cases bound : m.scalarAt? name with
    | none => exact named.readsAsArray quiet bound
    | some s =>
      have same : s = .empty := onlyEmpty s bound
      exact absurd (bound.trans (congrArg some same)) other

end Program

end AnyPlatform

namespace Program

/-- Inside a call, an element of a name that is bound nowhere, with a key that is computed from a
parameter. -/
theorem written_is_readable_unbound :
    let l := Location.unknown
    let e := Expr.binary .concatenation (.var "k" l) (.const "1") l
    let assignment := Expr.assign .plain (.elem "a" e l) (.const "v") l
    let inside := (Machine.ofRecords (.ofLines [])).enter (Eval.bindParams ["k"] [.scalar ⟨"x"⟩])
    e.isQuiet = true ∧ (∃ m', Program.empty.Yields assignment inside ⟨"v"⟩ m') ∧
      inside.scalarAt? "a" ≠ some .empty ∧ Program.empty.ReadsAsArray "a" e ⟨"x1"⟩ inside := by
  intro l e assignment inside
  have quiet : e.isQuiet = true := by decide +kernel
  have assigned : Run.answer? (Eval.scalar (Program.empty.eval 9) assignment inside) =
      some ⟨"v"⟩ := by decide +kernel
  have evaluated : Run.answer? (Eval.scalar (Program.empty.eval 9) e inside) = some ⟨"x1"⟩ := by
    decide +kernel
  have other : inside.scalarAt? "a" ≠ some .empty := by decide +kernel
  have written := yields_of_scalar (Run.eq_ok_of_answer? assigned)
  obtain ⟨key, m₁, named, readable, -⟩ := Program.empty.written_is_readable quiet written
  have same := (named.unique (yields_of_scalar (Run.eq_ok_of_answer? evaluated))).1
  exact ⟨quiet, ⟨_, written⟩, other, same ▸ readable other⟩

/-- A parameter whose argument is not bound is bound to the empty scalar.  It can be written to as
an array, but it is refused as one, and a script that counts with it fails. -/
theorem unbound_argument_refused :
    let source := "function count(a, k) \x7b a[k]++ \x7d BEGIN \x7b count(n, \"x\") \x7d"
    let start := Machine.ofRecords (.ofLines [])
    let l := Location.unknown
    let e := Expr.var "k" l
    let assignment := Expr.assign .plain (.elem "a" e l) (.const "1") l
    let values := [(start.lookup "n").getD .empty, .scalar ⟨"x"⟩]
    let inside := start.enter (Eval.bindParams ["a", "k"] values)
    (∃ m', Program.empty.Yields assignment inside ⟨"1"⟩ m') ∧
      Program.empty.RefusesAsArray "a" e inside ∧
      (ofSource source).toOption.map (fun p =>
        match p.run 12 start with
        | .error (.fault fault) _ => some fault
        | _ => none) = some (some (.failure (.notArray "a") (some ⟨1, 24⟩))) := by
  intro source start l e assignment values inside
  have assigned : Run.answer? (Eval.scalar (Program.empty.eval 9) assignment inside) =
      some ⟨"1"⟩ := by decide +kernel
  have evaluated : Run.answer? (Eval.scalar (Program.empty.eval 9) e inside) = some ⟨"x"⟩ := by
    decide +kernel
  have named := yields_of_scalar (Run.eq_ok_of_answer? evaluated)
  have bound : inside.scalarAt? "a" = some .empty := by decide +kernel
  have quiet : e.isQuiet = true := by decide +kernel
  refine ⟨⟨_, yields_of_scalar (Run.eq_ok_of_answer? assigned)⟩, ?_, by decide +kernel⟩
  exact named.refusesAsArray quiet bound

end Program

end PatternAction
