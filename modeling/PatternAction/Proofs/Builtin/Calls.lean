import PatternAction.Proofs.Run.Yields

/-!
Calls of functions that need no definition, forwards: what a call comes to is put together from what
its arguments come to, what the function answers for their values, and what is bound to the arrays
that come back.
-/

set_option autoImplicit false
set_option relaxedAutoImplicit false

namespace PatternAction

variable [Platform]

/-! ## Arguments -/

/-- The arguments of a call come to values, each in the state that the one before it left.  A
pattern is passed as its text. -/
inductive Program.Passes (p : Program) : List Expr → Machine → List Value → Machine → Prop
  | nil (m : Machine) : Passes p [] m [] m
  | pattern {text : String} {es : List Expr} {vs : List Value} {m m' : Machine} :
      Passes p es m vs m' → Passes p (.pattern text :: es) m (.scalar ⟨text⟩ :: vs) m'
  | value {e : Expr} {es : List Expr} {v : Value} {vs : List Value} {m m₁ m₂ : Machine} :
      (∃ fuel, p.eval fuel e m = .ok v m₁) → Passes p es m₁ vs m₂ →
      Passes p (e :: es) m (v :: vs) m₂

namespace Program.Passes

variable {p : Program} {args : List Expr} {values : List Value} {m m' : Machine}

private theorem length_eq (h : p.Passes args m values m') : args.length = values.length := by
  induction h with
  | nil => rfl
  | pattern _ ih => exact congrArg (· + 1) ih
  | value _ _ ih => exact congrArg (· + 1) ih

theorem append {args' : List Expr} {values' : List Value} {m'' : Machine}
    (first : p.Passes args m values m') (second : p.Passes args' m' values' m'') :
    p.Passes (args ++ args') m (values ++ values') m'' := by
  induction first with
  | nil => exact second
  | pattern _ ih => exact .pattern (ih second)
  | value evaluated _ ih => exact .value evaluated (ih second)

theorem var (name : String) (l : Location) (m : Machine) :
    p.Passes [.var name l] m [(m.lookup name).getD .empty] m :=
  .value ⟨1, rfl⟩ (.nil m)

private theorem enough (h : p.Passes args m values m') :
    ∃ enough, ∀ fuel ≥ enough, Eval.arguments (p.eval fuel) args m = .ok values m' := by
  induction h with
  | nil m => exact ⟨0, fun _ _ => rfl⟩
  | pattern _ ih =>
    obtain ⟨enough, rest⟩ := ih
    exact ⟨enough, fun fuel le => Run.bind_ok (rest fuel le)⟩
  | @value e es v vs m m₁ m₂ first _ ih =>
    obtain ⟨fuel₁, evaluated⟩ := first
    obtain ⟨fuel₂, rest⟩ := ih
    refine ⟨max fuel₁ fuel₂, fun fuel le => ?_⟩
    have head : p.eval fuel e m = .ok v m₁ := (p.keptBy_eval (by omega) e).ok evaluated
    have tail := rest fuel (by omega)
    have both : (p.eval fuel e >>= fun v => do
        return v :: (← Eval.arguments (p.eval fuel) es)) m = .ok (v :: vs) m₂ := by
      rw [Run.bind_ok head]
      exact Run.bind_ok tail
    cases e with
    | pattern text =>
      -- A pattern comes to no value of its own.
      cases fuel with
      | zero => cases head
      | succ fuel => cases head
    | _ => exact both

end Program.Passes

/-! ## Values that come back -/

omit [Platform] in
theorem Eval.writeBack_scalar (e : Expr) (es : List Expr) (s : Scalar) (vs : List Value) :
    writeBack (e :: es) (.scalar s :: vs) = writeBack es vs := by
  cases e <;> rfl

omit [Platform] in
private theorem Eval.writeBack_scalars (args : List Expr) (scalars : List Scalar) (m : Machine) :
    writeBack args (scalars.map .scalar) m = .ok () m := by
  induction scalars generalizing args with
  | nil =>
    cases args with
    | nil => rfl
    | cons e es => cases e <;> rfl
  | cons s scalars ih =>
    cases args with
    | nil => rfl
    | cons e es =>
      rw [List.map_cons, writeBack_scalar]
      exact ih es

/-! ## Calls -/

namespace Program.Passes

variable {p : Program} {args : List Expr} {m m₁ m₂ m₃ : Machine} {b : Builtin} {s : Scalar}

theorem call {values back : List Value} (passed : p.Passes args m values m₁)
    (counted : b.arity.accepts values.length = true)
    (applied : b.apply values m₁ = .ok (s, back) m₂)
    (returned : Eval.writeBack args back m₂ = .ok () m₃) (l : Location) :
    p.Yields (.call b.name args l) m s m₃ := by
  obtain ⟨fuel, enough⟩ := passed.enough
  have named : Builtin.ofName? b.name = some b := by cases b <;> decide
  have called : Eval.callBuiltin (p.eval fuel) b args l m = .ok s m₃ := by
    rw [Eval.callBuiltin, passed.length_eq, if_pos counted,
      Run.bind_ok (enough fuel (Nat.le_refl fuel))]
    change (b.apply values >>= fun result => do
      Eval.writeBack args result.2
      return result.1) m₁ = _
    rw [Run.bind_ok applied]
    exact Run.bind_ok returned
  have byName : Eval.call p (p.eval fuel) (p.exec fuel) b.name args l m = .ok s m₃ := by
    rw [Eval.call, named]
    exact called
  exact ⟨fuel + 1, Run.bind_ok byName⟩

theorem call_scalars {scalars : List Scalar} (passed : p.Passes args m (scalars.map .scalar) m₁)
    (counted : b.arity.accepts scalars.length = true)
    (applied : b.apply (scalars.map .scalar) m₁ = .ok (s, scalars.map .scalar) m₂) (l : Location) :
    p.Yields (.call b.name args l) m s m₂ := by
  refine passed.call ?_ applied (Eval.writeBack_scalars args scalars m₂) l
  rwa [List.length_map]

end Program.Passes

end PatternAction
