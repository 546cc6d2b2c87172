import PatternAction.Proofs.Run.Fuel

/-!
Values without fuel, forwards: what an expression comes to is put together from what its parts come
to.  Each part has enough fuel from some amount on, so all of them have enough from the greatest of
these amounts on.
-/

set_option autoImplicit false
set_option relaxedAutoImplicit false

namespace PatternAction.Program

variable [Platform]

variable {p : Program} {m m₁ m₂ : Machine}

theorem Yields.enough {e : Expr} {s : Scalar} (h : p.Yields e m s m₁) :
    ∃ enough, ∀ fuel ≥ enough, Eval.scalar (p.eval fuel) e m = .ok s m₁ := by
  obtain ⟨enough, done⟩ := h
  refine ⟨enough, fun fuel le => ?_⟩
  have evaluated := (p.keptBy_eval le e).ok done
  exact Run.bind_ok evaluated

theorem Yields.unary {op : Operator} {e : Expr} {l : Location} {a : Scalar} {f : Scalar → Scalar}
    (operand : p.Yields e m a m₁)
    (means : ∀ eval, Eval.operation eval op e none l = Eval.map eval f e) :
    p.Yields (.unary op e l) m (f a) m₁ := by
  obtain ⟨fuel, enough⟩ := operand.enough
  have mapped : Eval.operation (p.eval fuel) op e none l m = .ok (f a) m₁ := by
    rw [means]
    exact Run.bind_ok (enough fuel (Nat.le_refl fuel))
  exact ⟨fuel + 1, Run.bind_ok mapped⟩

theorem Yields.binary {op : Operator} {left right : Expr} {l : Location} {a b : Scalar}
    {f : Scalar → Scalar → Scalar} (first : p.Yields left m a m₁) (second : p.Yields right m₁ b m₂)
    (means : ∀ eval, Eval.operation eval op left (some right) l =
      Eval.map₂ eval f op left (some right) l) :
    p.Yields (.binary op left right l) m (f a b) m₂ := by
  obtain ⟨fuel₁, enough₁⟩ := first.enough
  obtain ⟨fuel₂, enough₂⟩ := second.enough
  let fuel := max fuel₁ fuel₂
  have operands : Eval.map₂ (p.eval fuel) f op left (some right) l m = .ok (f a b) m₂ := by
    rw [Eval.map₂, Run.bind_ok (enough₁ fuel (Nat.le_max_left _ _))]
    change (Eval.scalar (p.eval fuel) right >>= fun b => pure (f a b)) m₁ = _
    exact Run.bind_ok (enough₂ fuel (Nat.le_max_right _ _))
  have answered : Eval.operation (p.eval fuel) op left (some right) l m = .ok (f a b) m₂ := by
    rw [means]
    exact operands
  exact ⟨fuel + 1, Run.bind_ok answered⟩

end PatternAction.Program
