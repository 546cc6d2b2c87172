import PatternAction.Proofs.Number.Natural
import PatternAction.Proofs.Run.Elements
import PatternAction.Standard

/-!
Counters.  A step adds one to the number of its target and stores the sum as it is written.  The sum
is exact, but it is written in single precision.  So a counter counts up to `2 ^ 24`, where it
stays: one more is half way to the next single number, and is written as the even one of the two.
From there on what a step stores is one more only in single precision.
-/

set_option autoImplicit false
set_option relaxedAutoImplicit false

namespace PatternAction

/-! ## Counters -/

namespace Scalar

/-- A text that is read as a natural number. -/
def Counts (s : Scalar) (n : ℕ) : Prop :=
  s.toNumber.extent? = some (.ofRat n)

def stepped (s : Scalar) : Scalar :=
  .ofNumber (s.toNumber.add .one)

namespace Counts

variable {s : Scalar} {n : ℕ}

private theorem stepped_eq (h : s.Counts n) :
    s.stepped = .ofNumber (Precision.double.round false ⟨n + 1, 1⟩) := by
  rw [Scalar.stepped, Number.add_one h]

private theorem narrow_stepped (h : s.Counts n) (small : n < 2 ^ 53) :
    s.stepped.toNumber.narrow = Precision.single.round false ⟨n + 1, 1⟩ := by
  have narrowed := Number.narrow_natural n.succ_pos small
  obtain ⟨m, e, done⟩ :=
    Precision.single.exists_round_finite false n.succ_pos Nat.one_pos (by decide)
    (Number.natural_lt small (by decide))
  have one : ((1 : ℕ) : ℚ) * 2 ^ (0 : Int) ≤ Fraction.toRat ⟨n + 1, 1⟩ := by
    rw [Number.toRat_natural, zpow_zero, mul_one]
    exact_mod_cast n.succ_pos
  have least := Precision.single.le_of_round false n.succ_pos Nat.one_pos (by decide) done
    (show 1 ≤ 2 ^ 24 by decide) (show (-149 : Int) ≤ 0 by decide) one
  rw [h.stepped_eq, done]
  refine Number.narrow_read (narrowed.trans done) ?_
  rintro ⟨rfl, rfl⟩
  norm_num at least

private theorem stepped (h : s.Counts n) (small : n < 2 ^ 24) : s.stepped.Counts (n + 1) := by
  rw [h.stepped_eq]
  exact Number.read_natural n.succ_pos small (Number.narrow_natural n.succ_pos (by omega))

private theorem stepped_last (h : s.Counts (2 ^ 24)) : s.stepped.Counts (2 ^ 24) := by
  have half : Precision.single.round false ⟨2 ^ 24 + 1, 1⟩ =
      Precision.single.round false ⟨2 ^ 24, 1⟩ := rfl
  rw [h.stepped_eq]
  exact Number.read_natural (by decide) (le_refl _)
    ((Number.narrow_natural (Nat.succ_pos _) (by decide)).trans half)

private theorem iterate_stepped (h : s.Counts n) (small : n ≤ 2 ^ 24) (k : ℕ) :
    (Scalar.stepped^[k] s).Counts (min (n + k) (2 ^ 24)) := by
  induction k with
  | zero =>
    rw [Nat.add_zero, Nat.min_eq_left small]
    exact h
  | succ k ih =>
    rw [Function.iterate_succ_apply']
    rcases lt_or_ge (n + k) (2 ^ 24) with less | more
    · rw [Nat.min_eq_left less.le] at ih
      rw [Nat.min_eq_left (by omega)]
      exact ih.stepped less
    · rw [Nat.min_eq_right more] at ih
      rw [Nat.min_eq_right (by omega)]
      exact ih.stepped_last

end Counts

end Scalar

/-! ## Steps -/

inductive Slot where
  | var (name : String)
  | cell (c : Cell)
deriving DecidableEq, Repr

namespace Slot

/-- The value of a slot; one that is missing is empty. -/
def read (m : Machine) : Slot → Scalar
  | .var name => (m.scalarAt? name).getD .empty
  | .cell c => c.read m

def write (m : Machine) (value : Scalar) : Slot → Machine
  | .var name => m.mapScopeOf name (·.insert name (.scalar value))
  | .cell c => c.write m value

private theorem read_write (slot : Slot) (m : Machine) (value : Scalar) :
    slot.read (slot.write m value) = value := by
  cases slot with
  | var name =>
    rw [read, write, Machine.scalarAt?, Machine.lookup_store, if_pos rfl]
    rfl
  | cell c => exact c.read_write m value

end Slot

section AnyPlatform

variable [Platform]

namespace Program

variable {p : Program}

/-- The slot that a target stands for when it is read, which leaves a state behind, and again when
it is written in that state.  A name is no variable if it is bound to an array, and has no elements
if it is bound to a scalar. -/
inductive Locates (p : Program) : Expr → Machine → Slot → Machine → Machine → Prop
  | var {name : String} {m : Machine} {l : Location} :
      (∀ t, m.lookup name ≠ some (.array t)) → Locates p (.var name l) m (.var name) m m
  | element {name : String} {e : Expr} {key : Scalar} {m m₁ m₂ : Machine} {l : Location} :
      p.Yields e m key m₁ → m₁.scalarAt? name = none →
      p.Yields e m₁ key m₂ → m₂.scalarAt? name = none →
      Locates p (.elem name e l) m (.cell (.element name key.text)) m₁ m₂
  | field {e : Expr} {key : Scalar} {m m₁ m₂ : Machine} {l : Location} :
      p.Yields e m key m₁ → p.Yields e m₁ key m₂ →
      Locates p (.unary .dollar e l) m (.cell (.field (Eval.fieldName key))) m₁ m₂

variable {m m₁ m₂ : Machine} {s : Scalar} {target value e : Expr} {l : Location} {slot : Slot}

private theorem Yields.assign {form : AssignForm} (valued : p.Yields value m s m₁) {enough : ℕ}
    (stored : ∀ fuel ≥ enough, Eval.assign (p.eval fuel) target s l m₁ = .ok () m₂) :
    p.Yields (.assign form target value l) m s m₂ := by
  obtain ⟨enough', evaluated⟩ := valued.enough
  let fuel := max enough enough'
  refine ⟨fuel + 1, ?_⟩
  change (Eval.scalar (p.eval fuel) value >>= fun v => do
    Eval.assign (p.eval fuel) target v l
    return Value.scalar v) m = _
  rw [Run.bind_ok (evaluated fuel (Nat.le_max_right _ _))]
  exact Run.bind_ok (stored fuel (Nat.le_max_left _ _))

omit [Platform] in
private theorem lookup_eq_scalar {name : String} (free : ∀ t, m.lookup name ≠ some (.array t)) :
    (m.lookup name).getD .empty = .scalar ((Slot.var name).read m) := by
  rw [Slot.read, Machine.scalarAt?]
  cases bound : m.lookup name with
  | none => rfl
  | some v =>
    cases v with
    | scalar s => rfl
    | array t => exact absurd bound (free t)

omit [Platform] in
private theorem setVariable_eq {name : String} (free : ∀ t, m.lookup name ≠ some (.array t)) :
    Eval.setVariable name s l m = .ok () ((Slot.var name).write m s) := by
  rw [Eval.setVariable, Eval.lookup_bind]
  cases bound : m.lookup name with
  | none => rfl
  | some v =>
    cases v with
    | scalar s => rfl
    | array t => exact absurd bound (free t)

private theorem Locates.yields (h : p.Locates target m slot m₁ m₂) :
    p.Yields target m (slot.read m₁) m₁ := by
  cases h with
  | var free => exact ⟨1, congrArg (EStateM.Result.ok · m) (lookup_eq_scalar free)⟩
  | element named free _ _ => exact named.elem free _
  | @field _ key _ _ _ l named _ =>
    obtain ⟨fuel, enough⟩ := named.enough
    have field : Eval.field (p.eval fuel) _ m = .ok (Eval.fieldName key) m₁ :=
      Run.bind_ok (enough fuel (Nat.le_refl fuel))
    have read : Eval.operation (p.eval fuel) .dollar _ none l m =
        .ok (m₁.globals.scalar (Eval.fieldName key)) m₁ := Run.bind_ok field
    exact ⟨fuel + 1, Run.bind_ok read⟩

private theorem Locates.assign (h : p.Locates target m slot m₁ m₂) {form : AssignForm}
    (valued : p.Yields value m s m₁) (l : Location) :
    p.Yields (.assign form target value l) m s (slot.write m₂ s) := by
  cases h with
  | var free => exact valued.assign fun _ (_ : _ ≥ 0) => setVariable_eq free
  | element _ _ again free => exact valued.assignElem again free _ l
  | @field _ key _ _ _ _ _ again =>
    obtain ⟨enough, evaluated⟩ := again.enough
    refine valued.assign fun fuel (le : fuel ≥ enough) => ?_
    have field : Eval.field (p.eval fuel) _ m₁ = .ok (Eval.fieldName key) m₂ :=
      Run.bind_ok (evaluated fuel le)
    exact Run.bind_ok field

private theorem Locates.step (h : p.Locates target m slot m₁ m₂) {op : Operator}
    (up : op = .preInc ∨ op = .postInc) (l : Location) :
    p.Yields (.stepBy op target l) m (slot.read m₁).stepped
      (slot.write m₂ (slot.read m₁).stepped) := by
  have isStep : op.isStep = true := by rcases up with rfl | rfl <;> rfl
  have added : op.combine = Number.add := by rcases up with rfl | rfl <;> rfl
  have valued := h.yields.unary (Operator.operation_of_isStep isStep · _ l)
  rw [added] at valued
  exact h.assign valued l

/-- A part of a history in which a slot is changed only by steps, so many of them. -/
inductive Counted (p : Program) (slot : Slot) : ℕ → Machine → Machine → Prop
  | start (m : Machine) : Counted p slot 0 m m
  | other {k : ℕ} {m m₁ m₂ : Machine} :
      Counted p slot k m m₁ → slot.read m₂ = slot.read m₁ → Counted p slot k m m₂
  | step {k : ℕ} {m m₁ m₂ m₃ m' : Machine} {op : Operator} {target : Expr} {l : Location}
      {new : Scalar} :
      Counted p slot k m m₁ → (op = .preInc ∨ op = .postInc) → p.Locates target m₁ slot m₂ m₃ →
      slot.read m₂ = slot.read m₁ → p.Yields (.stepBy op target l) m₁ new m' →
      Counted p slot (k + 1) m m'

private theorem Counted.read_eq {k : ℕ} {m' : Machine} (h : p.Counted slot k m m') :
    slot.read m' = Scalar.stepped^[k] (slot.read m) := by
  induction h with
  | start m => rfl
  | other _ same ih => rw [same, ih]
  | step _ up located same stepped ih =>
    obtain ⟨-, rfl⟩ := stepped.unique (located.step up _)
    rw [Slot.read_write, Function.iterate_succ_apply', ← ih, same]

/-- Counters count in single precision.  If a slot holds a text that is read as a natural number
below `2 ^ 53`, then a step of it succeeds, comes to what is written for one more and stores it.  In
single precision that is read as the single number nearest to one more, and below `2 ^ 24` it is
read as exactly one more.  So a counter that is changed by steps only counts them up to `2 ^ 24`,
and then stays there. -/
theorem counter_counts (p : Program) {s : Scalar} {n : ℕ} (small : n < 2 ^ 53)
    (counts : s.Counts n) :
    (∀ (op : Operator) (target : Expr) (l : Location) (slot : Slot) (m m₁ m₂ : Machine),
      op = .preInc ∨ op = .postInc → p.Locates target m slot m₁ m₂ → slot.read m₁ = s →
      ∃ new m', p.Yields (.stepBy op target l) m new m' ∧ slot.read m' = new ∧
        new = .ofNumber (Precision.double.round false ⟨n + 1, 1⟩) ∧
        new.toNumber.narrow = Precision.single.round false ⟨n + 1, 1⟩ ∧
        (n < 2 ^ 24 → new.Counts (n + 1))) ∧
    (n ≤ 2 ^ 24 → ∀ (slot : Slot) (k : ℕ) (m m' : Machine), slot.read m = s →
      p.Counted slot k m m' → (slot.read m').Counts (min (n + k) (2 ^ 24))) := by
  refine ⟨fun op target l slot m m₁ m₂ up located held => ?_, fun le slot k m m' held counted => ?_⟩
  · refine ⟨_, _, located.step up l, slot.read_write _ _, ?_⟩
    rw [held]
    exact ⟨counts.stepped_eq, counts.narrow_stepped small, counts.stepped⟩
  · rw [counted.read_eq, held]
    exact counts.iterate_stepped le k

end Program

end AnyPlatform

namespace Program

/-- An element that is counted past ten millions, from where on there is an exponent. -/
theorem counter_counts_element :
    let l := Location.unknown
    let slot := Slot.cell (.element "count" "x")
    let target := Expr.elem "count" (.const "x") l
    let globals := Machine.standardGlobals.insert "count"
      (.array ((∅ : Table).insert "x" ⟨"9999999"⟩))
    let m := { Machine.ofRecords (.ofLines []) with globals }
    (slot.read m).Counts 9999999 ∧ Program.empty.Locates target m slot m m ∧
      ∃ new m', Program.empty.Yields (.stepBy .postInc target l) m new m' ∧ slot.read m' = new ∧
        new.Counts 10000000 ∧ Program.empty.Counted slot 1 m m' ∧
        (slot.read m').Counts (min (9999999 + 1) (2 ^ 24)) := by
  intro l slot target globals m
  have read : (slot.read m).toNumber = .finite false (9999999 * 2 ^ 29) (-29) := by decide +kernel
  have counts : (slot.read m).Counts 9999999 := by
    rw [Scalar.Counts, read, Number.extent?, Number.finiteSize]
    norm_num
  have key : Program.empty.Yields (.const "x") m ⟨"x"⟩ m := ⟨1, rfl⟩
  have free : m.scalarAt? "count" = none := by decide +kernel
  have located : Program.empty.Locates target m slot m m := .element key free key free
  obtain ⟨steps, run⟩ := Program.empty.counter_counts (by decide) counts
  obtain ⟨new, m', stepped, stored, -, -, more⟩ :=
    steps .postInc target l slot m m m (.inr rfl) located rfl
  have counted : Program.empty.Counted slot 1 m m' :=
    .step (.start m) (.inr rfl) located rfl stepped
  exact ⟨counts, located, new, m', stepped, stored, more (by decide), counted,
    run (by decide) slot 1 m m' rfl counted⟩

/-- A counter that has stopped: it is read as `2 ^ 24` before the step and behind it. -/
theorem counter_stops :
    let source := "BEGIN \x7b n = 16777216; n++ \x7d"
    let old : Scalar := ⟨"16777216"⟩
    let new : Scalar := ⟨"1.6777216E7"⟩
    old.Counts (2 ^ 24) ∧ new.Counts (2 ^ 24) ∧ ¬ new.Counts (2 ^ 24 + 1) ∧
      (ofSource source).toOption.map (fun p =>
        (Run.stateOf (p.run 12 (Machine.ofRecords (.ofLines [])))).globals.scalar "n") =
          some new := by
  intro source old new
  have size : (Number.finite false (2 ^ 52) (-28)).extent? = some (.ofRat (2 ^ 24 : ℕ)) := by
    rw [Number.extent?, Number.finiteSize]
    norm_num
  have oldRead : old.toNumber = .finite false (2 ^ 52) (-28) := by decide +kernel
  have newRead : new.toNumber = .finite false (2 ^ 52) (-28) := by decide +kernel
  refine ⟨?_, ?_, fun more => ?_, by decide +kernel⟩
  · rw [Scalar.Counts, oldRead, size]
  · rw [Scalar.Counts, newRead, size]
  · rw [Scalar.Counts, newRead, size] at more
    have same := Extent.strictMono_ofRat.injective (Option.some.inj more)
    exact absurd (Nat.cast_injective same) (by decide)

end Program

end PatternAction
