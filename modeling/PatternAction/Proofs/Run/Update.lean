import PatternAction.Proofs.Run.Arrays
import PatternAction.Proofs.Run.Operands
import PatternAction.Proofs.Run.Quiet
import PatternAction.Proofs.Run.Trace
import PatternAction.Script.Source
import PatternAction.Standard

/-!
Updates: assignments by an operator, and the steps `++` and `--`.  An update stores its target
combined with an operand, so the target stands in its tree twice, and where the target has a
subscript the subscript is evaluated twice: for the cell that is read, and behind the operand again
for the cell that is written.  What is stored is the old value of the first cell combined with the
operand.  The two are one cell wherever both evaluations come to the same, and those of quiet
expressions always do.
-/

set_option autoImplicit false
set_option relaxedAutoImplicit false

namespace PatternAction

/-! ## Cells -/

/-- What a target with a subscript stands for. -/
inductive Cell where
  | element (array key : String)
  | field (name : String)
deriving DecidableEq, Repr

namespace Cell

/-- The value of a cell; one that is missing is empty. -/
def read (m : Machine) : Cell → Scalar
  | .element array key => (m.tableAt array)[key]?.getD .empty
  | .field name => m.globals.scalar name

/-- The state with another value in a cell; the array of an element comes into being with it. -/
def write (m : Machine) (value : Scalar) : Cell → Machine
  | .element array key =>
    m.mapScopeOf array (·.insert array (.array ((m.tableAt array).insert key value)))
  | .field name => { m with globals := m.globals.setScalar name value }

theorem read_write (c : Cell) (m : Machine) (value : Scalar) :
    c.read (c.write m value) = value := by
  cases c with
  | element array key =>
    rw [read, write, Machine.tableAt, Machine.lookup_store, if_pos rfl]
    simp
  | field name =>
    rw [read, write, Scope.scalar, Scope.get?_setScalar, if_pos rfl]

end Cell

/-- The subscript of a target, and the cell that the target stands for with it. -/
def Expr.cell? : Expr → Option (Expr × (Scalar → Cell))
  | .elem name index _ => some (index, fun key => .element name key.text)
  | .unary .dollar e _ => some (e, fun key => .field (Eval.fieldName key))
  | _ => none

private theorem Expr.cell?_cases {target e : Expr} {cell : Scalar → Cell}
    (h : target.cell? = some (e, cell)) :
    (∃ name l, target = .elem name e l ∧ cell = fun key => .element name key.text) ∨
      ∃ l, target = .unary .dollar e l ∧ cell = fun key => .field (Eval.fieldName key) := by
  unfold Expr.cell? at h
  split at h
  · obtain ⟨rfl, rfl⟩ := Prod.mk.inj (Option.some.inj h)
    exact .inl ⟨_, _, rfl, rfl⟩
  · obtain ⟨rfl, rfl⟩ := Prod.mk.inj (Option.some.inj h)
    exact .inr ⟨_, rfl, rfl⟩
  · cases h

namespace Eval

variable {eval : Expr → Run Value} {m m' : Machine}

private theorem scalar_ok {e : Expr} {s : Scalar} (done : scalar eval e m = .ok s m') :
    eval e m = .ok (.scalar s) m' := by
  obtain ⟨v, m₁, evaluated, shaped⟩ := Run.ok_of_bind done
  cases v with
  | scalar s' =>
    cases shaped
    exact evaluated
  | array t => cases shaped

private theorem field_ok {e : Expr} {name : String} (done : field eval e m = .ok name m') :
    ∃ key, scalar eval e m = .ok key m' ∧ name = fieldName key := by
  obtain ⟨key, m₁, evaluated, same⟩ := Run.ok_of_bind done
  cases same
  exact ⟨key, evaluated, rfl⟩

private theorem element_ok {name : String} {index : Expr} {l : Location} {s : Scalar}
    (done : element eval name index l m = .ok s m') :
    ∃ key, scalar eval index m = .ok key m' ∧ s = (Cell.element name key.text).read m' := by
  obtain ⟨key, m₁, evaluated, looked⟩ := Run.ok_of_bind done
  rw [Run.bind_ok (show Run.lookup name m₁ = .ok (m₁.lookup name) m₁ from rfl)] at looked
  refine ⟨key, ?_⟩
  rw [Cell.read, Machine.tableAt]
  cases bound : m₁.lookup name with
  | none =>
    rw [bound] at looked
    cases looked
    rw [bound]
    exact ⟨evaluated, by simp⟩
  | some value =>
    rw [bound] at looked
    cases value with
    | array t =>
      cases looked
      rw [bound]
      exact ⟨evaluated, rfl⟩
    | scalar x => cases looked

end Eval

section AnyPlatform

variable [Platform]

namespace Program

variable {p : Program} {fuel : Nat} {target e : Expr} {cell : Scalar → Cell} {m m' : Machine}

theorem yields_of_scalar {s : Scalar} (done : Eval.scalar (p.eval fuel) e m = .ok s m') :
    p.Yields e m s m' :=
  ⟨fuel, Eval.scalar_ok done⟩

private theorem read_of_eval {s : Scalar} (subscripted : target.cell? = some (e, cell))
    (done : Eval.scalar (p.eval fuel) target m = .ok s m') :
    ∃ key, p.Yields e m key m' ∧ s = (cell key).read m' := by
  have evaluated := Eval.scalar_ok done
  cases fuel with
  | zero => cases evaluated
  | succ fuel =>
    rcases Expr.cell?_cases subscripted with ⟨name, l, rfl, rfl⟩ | ⟨l, rfl, rfl⟩
    · obtain ⟨s', m₁, found, same⟩ := Run.ok_of_bind evaluated
      cases same
      obtain ⟨key, named, rfl⟩ := Eval.element_ok found
      exact ⟨key, yields_of_scalar named, rfl⟩
    · obtain ⟨s', m₁, found, same⟩ := Run.ok_of_bind evaluated
      cases same
      obtain ⟨name, m₂, looked, taken⟩ := Run.ok_of_bind found
      cases taken
      obtain ⟨key, named, rfl⟩ := Eval.field_ok looked
      exact ⟨key, yields_of_scalar named, rfl⟩

private theorem write_of_assign {value : Scalar} {l : Location}
    (subscripted : target.cell? = some (e, cell))
    (done : Eval.assign (p.eval fuel) target value l m = .ok () m') :
    ∃ key m₁, p.Yields e m key m₁ ∧ m' = (cell key).write m₁ value := by
  rcases Expr.cell?_cases subscripted with ⟨name, l, rfl, rfl⟩ | ⟨l, rfl, rfl⟩
  · obtain ⟨key, m₁, named, stored⟩ := Run.ok_of_bind done
    exact ⟨key, m₁, yields_of_scalar named, Eval.setElement_ok stored⟩
  · obtain ⟨name, m₁, looked, stored⟩ := Run.ok_of_bind done
    obtain ⟨key, named, rfl⟩ := Eval.field_ok looked
    cases stored
    exact ⟨key, m₁, yields_of_scalar named, rfl⟩

end Program

/-! ## Operators and operands -/

namespace Operator

/-- The number that is stored, from the old value of the target and the operand. -/
def combine : Operator → Number → Number → Number
  | .subtract | .preDec | .postDec => .sub
  | .multiply => .mul
  | .divide => .div
  | .modulo => .rem
  | .exponent => .pow
  | _ => .add

private theorem operation_of_isArithmetic {op : Operator} (h : op.isArithmetic = true)
    (eval : Expr → Run Value) (left right : Expr) (l : Location) :
    Eval.operation eval op left (some right) l =
      Eval.map₂ eval (Eval.onNumbers op.combine) op left (some right) l := by
  have mem : op ∈ [add, .subtract, .multiply, .divide, .modulo, .exponent] := of_decide_eq_true h
  simp only [List.mem_cons, List.not_mem_nil, or_false] at mem
  rcases mem with rfl | rfl | rfl | rfl | rfl | rfl <;> rfl

theorem operation_of_isStep {op : Operator} (h : op.isStep = true) (eval : Expr → Run Value)
    (left : Expr) (l : Location) :
    Eval.operation eval op left none l =
      Eval.map eval (fun a => .ofNumber (op.combine a.toNumber .one)) left := by
  have mem : op ∈ [preInc, .preDec, .postInc, .postDec] := of_decide_eq_true h
  simp only [List.mem_cons, List.not_mem_nil, or_false] at mem
  rcases mem with rfl | rfl | rfl | rfl <;> rfl

end Operator

/-- An assignment by an operator or a step, with its target, its operator and its operand, which a
step has not. -/
inductive Expr.Updates : Expr → Expr → Operator → Option Expr → Prop
  | compound {op : Operator} {target operand : Expr} {l l' : Location} : op.isArithmetic = true →
      Updates (.assign (.compound op) target (.binary op target operand l') l) target op
        (some operand)
  | step {op : Operator} {target : Expr} {l l' : Location} : op.isStep = true →
      Updates (.assign .step target (.unary op target l') l) target op none

omit [Platform] in
private theorem Expr.WellFormed.updates {form : AssignForm} {target value : Expr} {l : Location}
    (h : (Expr.assign form target value l).WellFormed) (other : form ≠ .plain) :
    ∃ op operand?, (Expr.assign form target value l).Updates target op operand? := by
  cases h with
  | assign => exact absurd rfl other
  | compound arithmetic _ _ => exact ⟨_, _, .compound arithmetic⟩
  | step isStep _ => exact ⟨_, _, .step isStep⟩

/-- The operand comes to a number, and leaves a state; that of a step is one. -/
def Program.YieldsOperand (p : Program) : Option Expr → Machine → Number → Machine → Prop
  | some operand, m, x, m' => ∃ s, p.Yields operand m s m' ∧ x = s.toNumber
  | none, m, x, m' => x = .one ∧ m' = m

private theorem Program.value_of_updates {p : Program} {fuel : Nat} {form : AssignForm}
    {target value : Expr} {l : Location} {op : Operator} {operand? : Option Expr} {m m' : Machine}
    {new : Scalar} (updates : (Expr.assign form target value l).Updates target op operand?)
    (done : Eval.scalar (p.eval fuel) value m = .ok new m') :
    ∃ less old m₁ x, Eval.scalar (p.eval less) target m = .ok old m₁ ∧
      p.YieldsOperand operand? m₁ x m' ∧ new = .ofNumber (op.combine old.toNumber x) := by
  have evaluated := Eval.scalar_ok done
  cases fuel with
  | zero => cases evaluated
  | succ fuel =>
    cases updates with
    | compound arithmetic =>
      obtain ⟨s, m₁, combined, same⟩ := Run.ok_of_bind evaluated
      cases same
      rw [Operator.operation_of_isArithmetic arithmetic] at combined
      obtain ⟨old, m₁, left, rest⟩ := Run.ok_of_bind combined
      obtain ⟨operand, m₂, given, rest⟩ := Run.ok_of_bind rest
      cases given
      obtain ⟨b, m₂, right, same⟩ := Run.ok_of_bind rest
      cases same
      exact ⟨fuel, old, m₁, b.toNumber, left, ⟨b, yields_of_scalar right, rfl⟩, rfl⟩
    | step isStep =>
      obtain ⟨s, m₁, combined, same⟩ := Run.ok_of_bind evaluated
      cases same
      rw [Operator.operation_of_isStep isStep] at combined
      obtain ⟨old, m₁, left, same⟩ := Run.ok_of_bind combined
      cases same
      exact ⟨fuel, old, m', .one, left, ⟨rfl, rfl⟩, rfl⟩

/-! ## Updates in their steps -/

/-- An update from one state to another: the subscript is evaluated and its cell is read, the
operand is evaluated, and the subscript is evaluated once more and its cell is written. -/
structure Program.Update (p : Program) (e : Expr) (cell : Scalar → Cell) (op : Operator)
    (operand? : Option Expr) (m m' : Machine) where
  readKey : Scalar
  reading : Machine
  subscript : p.Yields e m readKey reading
  operand : Number
  combining : Machine
  takes : p.YieldsOperand operand? reading operand combining
  writeKey : Scalar
  writing : Machine
  again : p.Yields e combining writeKey writing
  stored : m' = (cell writeKey).write writing
    (.ofNumber (op.combine ((cell readKey).read reading).toNumber operand))

namespace Program.Update

variable {p : Program} {e : Expr} {cell : Scalar → Cell} {op : Operator} {operand? : Option Expr}
variable {m m' : Machine} (u : p.Update e cell op operand? m m')

/-- The cell whose old value is read. -/
def source : Cell := cell u.readKey

def destination : Cell := cell u.writeKey

def old : Scalar := u.source.read u.reading

def new : Scalar := .ofNumber (op.combine u.old.toNumber u.operand)

private theorem read_destination : u.destination.read m' = u.new :=
  (congrArg (Cell.read · u.destination) u.stored).trans (Cell.read_write _ _ _)

private theorem destination_eq_source (quiet : e.isQuiet = true)
    (quietOperand : ∀ v ∈ operand?, v.isQuiet = true) : u.destination = u.source := by
  -- Between the two evaluations nothing has changed but the patterns that are held.
  obtain ⟨d, agrees, read, repeats⟩ := u.subscript.again quiet
  obtain ⟨c, agrees', same⟩ : ∃ c, m.cache.Agrees c ∧ u.combining = m.withCache c := by
    cases operand? with
    | none =>
      obtain ⟨-, same⟩ := u.takes
      exact ⟨d, agrees, same.trans read⟩
    | some v =>
      obtain ⟨s, yields, -⟩ := u.takes
      obtain ⟨d', agrees', same, -⟩ := yields.again (quietOperand v rfl)
      rw [read] at agrees' same
      exact ⟨d', agrees.trans agrees', same⟩
  obtain ⟨d', second⟩ := repeats c agrees'
  have first := u.again
  rw [same] at first
  rw [destination, source, (first.unique second).1]

end Program.Update

/-- An assignment by an operator, or a step, to an element or a field, in whatever state it
succeeds.  It reads the cell that its subscript names, and writes the cell that its subscript names
when it is evaluated again behind the operand; it comes to what it writes, the old value of the
first combined with the operand.  Where the two evaluations name one cell, as they do if subscript
and operand have neither assignments nor calls in them, the new value of that cell is its old value
combined with the operand. -/
theorem Program.update_reads_and_writes (p : Program) {form : AssignForm} {target value e : Expr}
    {l : Location} {cell : Scalar → Cell} (built : (Expr.assign form target value l).WellFormed)
    (update : form ≠ .plain) (subscripted : target.cell? = some (e, cell)) {fuel : Nat}
    {m m' : Machine} {r : Value} (done : p.eval fuel (.assign form target value l) m = .ok r m') :
    ∃ op operand?, (Expr.assign form target value l).Updates target op operand? ∧
      ∃ u : p.Update e cell op operand? m m', r = .scalar u.new ∧ u.destination.read m' = u.new ∧
        (u.destination = u.source →
          u.source.read m' = .ofNumber (op.combine u.old.toNumber u.operand)) ∧
        (e.isQuiet = true → (∀ v ∈ operand?, v.isQuiet = true) → u.destination = u.source) := by
  obtain ⟨op, operand?, updates⟩ := built.updates update
  refine ⟨op, operand?, updates, ?_⟩
  cases fuel with
  | zero => cases done
  | succ fuel =>
    obtain ⟨new, m₂, valued, rest⟩ := Run.ok_of_bind done
    obtain ⟨_, m₃, assigned, same⟩ := Run.ok_of_bind rest
    cases same
    obtain ⟨less, old, m₁, x, first, takes, rfl⟩ := value_of_updates updates valued
    obtain ⟨key, subscript, rfl⟩ := read_of_eval subscripted first
    obtain ⟨key', m₄, again, stored⟩ := write_of_assign subscripted assigned
    let u : p.Update e cell op operand? m m' :=
      ⟨key, m₁, subscript, x, m₂, takes, key', m₄, again, stored⟩
    refine ⟨u, rfl, u.read_destination, fun same => ?_, u.destination_eq_source⟩
    rw [← same]
    exact u.read_destination

end AnyPlatform

/-- A field whose number is computed, multiplied by an element of an array. -/
theorem Program.update_reads_and_writes_field :
    let l := Location.unknown
    let i := Expr.var "i" l
    let e := Expr.binary .add i (.const "1") l
    let target := Expr.unary .dollar e l
    let operand := Expr.elem "a" i l
    let cell (key : Scalar) := Cell.field (Eval.fieldName key)
    let globals := ((Machine.standardGlobals.setScalar "i" ⟨"1"⟩).setScalar "$2" ⟨"7"⟩).insert "a"
      (.array ((∅ : Table).insert "1" ⟨"3"⟩))
    let start := { Machine.ofRecords (.ofLines []) with globals }
    let update := Expr.assign (.compound .multiply) target (.binary .multiply target operand l) l
    update.WellFormed ∧ target.cell? = some (e, cell) ∧ e.isQuiet = true ∧
      operand.isQuiet = true ∧
      ∃ m', Program.empty.eval 9 update start = .ok (.scalar ⟨"21.0"⟩) m' ∧
        ∃ u : Program.empty.Update e cell .multiply (some operand) start m',
          u.source = .field "$2" ∧ u.destination = u.source ∧ u.old = ⟨"7"⟩ ∧
          u.source.read m' = .ofNumber (Number.mul u.old.toNumber u.operand) := by
  intro l i e target operand cell globals start update
  have wellFormed : update.WellFormed :=
    .compound rfl (.unary rfl rfl (.binary rfl (.var _ _) (.const _))) (.elem (.var _ _))
  have named : Run.answer? (Eval.scalar (Program.empty.eval 9) e start) = some ⟨"2.0"⟩ := by
    decide +kernel
  have updated : Run.answer? (Eval.scalar (Program.empty.eval 9) update start) =
      some ⟨"21.0"⟩ := by decide +kernel
  have done := Eval.scalar_ok (Run.eq_ok_of_answer? updated)
  obtain ⟨op, operand?, updates, u, -, -, combined, same⟩ :=
    Program.empty.update_reads_and_writes wellFormed nofun rfl done
  cases updates
  have quiet : e.isQuiet = true := by decide
  have quietOperand : operand.isQuiet = true := by decide
  have one := same quiet fun v mem => Option.some.inj mem ▸ quietOperand
  obtain ⟨key, reading⟩ := u.subscript.unique (yields_of_scalar (Run.eq_ok_of_answer? named))
  refine ⟨wellFormed, rfl, quiet, quietOperand, _, done, u, ?_, one, ?_, combined one⟩
  · rw [Update.source, key]
    decide +kernel
  · rw [Update.old, Update.source, key, reading]
    decide +kernel

/-- A subscript that counts: the old value of one element is read, and another one is written. -/
theorem Program.update_of_two_cells :
    let source := "BEGIN \x7b a[\"1.0\"] = 10; a[\"2.0\"] = 20; i = 0; a[i++] += 5 \x7d"
    let l := Location.unknown
    let e := Expr.stepBy .postInc (.var "i" l) l
    let target := Expr.elem "a" e l
    let update := Expr.assign (.compound .add) target (.binary .add target (.const "5") l) l
    let table := ((∅ : Table).insert "1.0" ⟨"10"⟩).insert "2.0" ⟨"20"⟩
    let globals := (Machine.standardGlobals.setScalar "i" ⟨"0"⟩).insert "a" (.array table)
    let start := { Machine.ofRecords (.ofLines []) with globals }
    let first := Cell.element "a" "1.0"
    let second := Cell.element "a" "2.0"
    (∃ m, Program.empty.Yields e start ⟨"1.0"⟩ m ∧ first.read m = ⟨"10"⟩) ∧
      (∃ m, Program.empty.eval 9 update start = .ok (.scalar ⟨"15.0"⟩) m ∧
        first.read m = ⟨"10"⟩ ∧ second.read m = ⟨"15.0"⟩) ∧
      (ofSource source).toOption.map (fun p =>
        let m := Run.stateOf (p.run 12 (Machine.ofRecords (.ofLines [])))
        (first.read m, second.read m)) = some (⟨"10"⟩, ⟨"15.0"⟩) := by
  intro source l e target update table globals start first second
  have named : Run.answer? (Eval.scalar (Program.empty.eval 9) e start) = some ⟨"1.0"⟩ := by
    decide +kernel
  have updated : Run.answer? (Eval.scalar (Program.empty.eval 9) update start) =
      some ⟨"15.0"⟩ := by decide +kernel
  refine ⟨⟨_, yields_of_scalar (Run.eq_ok_of_answer? named), by decide +kernel⟩, ?_, ?_⟩
  · exact ⟨_, Eval.scalar_ok (Run.eq_ok_of_answer? updated), by decide +kernel, by decide +kernel⟩
  · decide +kernel

end PatternAction
